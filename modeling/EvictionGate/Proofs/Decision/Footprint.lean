import EvictionGate.Proofs.Cluster.Home
import EvictionGate.Proofs.Decision.Situation

/-!
# What a decision leaves alone

A decision touches one pod, on which it sets the marker at most, and one flag on one
tracking object. Whatever becomes of its calls, all else stays as it was.

Results:
1. `Passage.tracker_patch`, `Passage.pod_patch`: what a decision can have patched.
2. `World.flagOn_replay`, `World.pod_replay_of_unpatched`: what is not patched stays.
3. `World.marker_replay`: a marker that is on stays on.
4. `Passage.quiet_of_no_candidate`, `Passage.of_flagged`, `Passage.of_marked`: what a
   decision does about a pod that it would not move, that has a flag, or that it marks.
-/

namespace EvictionGate

namespace World

variable (w : World)

/-- A flag that is not patched stays as it is. -/
theorem flagOn_replay {sent : List (Call × Bool)} {place : TrackingKey} {key : String}
    (unpatched : ∀ value, (Call.patchTracker place.kind place.tracker key value, true) ∉ sent) :
    (w.replay sent).flagOn place key = w.flagOn place key := by
  induction sent generalizing w with
  | nil => rfl
  | cons e sent ih =>
    obtain ⟨call, acted⟩ := e
    have rest value := fun mem => unpatched value (List.mem_cons_of_mem _ mem)
    cases acted with
    | false => exact ih w rest
    | true =>
      rw [replay_acted, ih _ rest]
      cases call with
      | getPod t => rw [after_of_read w rfl]
      | getTracker k i => rw [after_of_read w rfl]
      | patchPod t k v => exact w.flagOn_after_patchPod t k v place key
      | patchTracker k i other value =>
        refine w.flagOn_after_patchTracker_of_ne value ?_
        by_cases h : place = ⟨k, i⟩
        · subst h
          refine .inr fun same => unpatched value ?_
          subst same
          exact List.mem_cons_self
        · exact .inl h

/-- A pod that is not patched stays as it is. -/
theorem pod_replay_of_unpatched {sent : List (Call × Bool)} {t : Target}
    (unpatched : ∀ key value, (Call.patchPod t key value, true) ∉ sent) :
    (w.replay sent).pods.get? t = w.pods.get? t := by
  induction sent generalizing w with
  | nil => rfl
  | cons e sent ih =>
    obtain ⟨call, acted⟩ := e
    have rest key value := fun mem => unpatched key value (List.mem_cons_of_mem _ mem)
    cases acted with
    | false => exact ih w rest
    | true =>
      rw [replay_acted, ih _ rest]
      cases call with
      | getPod u => rw [after_of_read w rfl]
      | getTracker k i => rw [after_of_read w rfl]
      | patchTracker k i key value => rw [pods_after_patchTracker]
      | patchPod u key value =>
        refine w.pod_after_patchPod_of_ne key value fun h => unpatched key value ?_
        subst h
        exact List.mem_cons_self

theorem PodsAtHome.replay {w : World} (home : w.PodsAtHome) (sent : List (Call × Bool)) :
    (w.replay sent).PodsAtHome := by
  induction sent generalizing w with
  | nil => exact home
  | cons e sent ih =>
    obtain ⟨call, acted⟩ := e
    cases acted with
    | false => exact ih home
    | true => exact ih (home.after call)

/-- A marker that is on stays on if a pod is patched with the marker only. -/
theorem marker_after {c : Settings} {call : Call} {t : Target}
    (only : ∀ u key value, call = .patchPod u key value →
      key = c.marker.key ∧ value = c.marker.value)
    (on : ∀ pod, w.pods.get? t = some pod → c.markerIsOn pod = true) :
    ∀ pod, (w.after call).pods.get? t = some pod → c.markerIsOn pod = true := by
  intro pod found
  cases call with
  | getPod u =>
    rw [after_of_read w rfl] at found
    exact on pod found
  | getTracker k i =>
    rw [after_of_read w rfl] at found
    exact on pod found
  | patchTracker k i key value =>
    rw [pods_after_patchTracker] at found
    exact on pod found
  | patchPod u key value =>
    obtain ⟨rfl, rfl⟩ := only u key value rfl
    by_cases h : t = u
    · subst h
      cases before : w.pods.get? t with
      | none =>
        rw [pod_after_absent w before] at found
        cases found
      | some old =>
        rw [w.pod_after_mark before c] at found
        cases found
        exact c.markerIsOn_marked old
    · rw [w.pod_after_patchPod_of_ne _ _ h] at found
      exact on pod found

/-- A marker that is on stays on as long as pods are patched with the marker only. -/
theorem marker_replay {c : Settings} {sent : List (Call × Bool)} {t : Target}
    (only : ∀ u key value, (Call.patchPod u key value, true) ∈ sent →
      key = c.marker.key ∧ value = c.marker.value)
    (on : ∀ pod, w.pods.get? t = some pod → c.markerIsOn pod = true) :
    ∀ pod, (w.replay sent).pods.get? t = some pod → c.markerIsOn pod = true := by
  induction sent generalizing w with
  | nil => exact on
  | cons e sent ih =>
    obtain ⟨call, acted⟩ := e
    have rest u key value := fun mem => only u key value (List.mem_cons_of_mem _ mem)
    cases acted with
    | false => exact ih w rest on
    | true =>
      refine ih _ rest (w.marker_after ?_ on)
      rintro u key value rfl
      exact only u key value List.mem_cons_self

end World

section

variable {c : Settings} {t : Target} {w : World} {stage : Stage} {sent : List (Call × Bool)}

/-- A tracking object that a decision has patched is that of its candidate, and the patch
is about the candidate's flag. -/
theorem Situation.tracker_patch (sit : Situation c t w stage sent) {k : TrackerKind}
    {i : Tracker} {key : String} {value : Option String}
    (mem : (Call.patchTracker k i key value, true) ∈ sent) :
    ∃ s : Candidate c t w, k = c.trackerKind ∧ i = s.tracker ∧ key = t.flagKey := by
  induction sit with
  | fetch => simp at mem
  | look => simp at mem
  | unflag => simp at mem
  | flag => simp at mem
  | mark => simp at mem
  | markUntracked => simp at mem
  | markFlagged s | moved s =>
    rcases List.mem_append.mp mem with mem | mem
    · cases quiet_readings _ _ mem rfl
    · cases List.mem_singleton.mp mem
      exact ⟨s, rfl, rfl, rfl⟩
  | rollBack s =>
    rcases List.mem_append.mp mem with mem | mem
    · cases quiet_readings _ _ mem rfl
    · rcases List.mem_cons.mp mem with mem | mem
      · cases mem
        exact ⟨s, rfl, rfl, rfl⟩
      · cases List.mem_singleton.mp mem
  | requested sit ih => exact ih (by simpa using mem)
  | undone s =>
    -- it sets the flag and takes it back: two patches, but of the same flag
    rcases List.mem_append.mp mem with mem | mem
    · cases quiet_readings _ _ mem rfl
    · rcases List.mem_cons.mp mem with mem | mem
      · cases mem
        exact ⟨s, rfl, rfl, rfl⟩
      · rcases List.mem_cons.mp mem with mem | mem
        · cases mem
        · cases List.mem_singleton.mp mem
          exact ⟨s, rfl, rfl, rfl⟩
  | idle _ _ quiet => cases quiet _ mem rfl

/-- A pod that a decision has patched is its own, and the patch sets the marker. -/
theorem Situation.pod_patch (sit : Situation c t w stage sent) {u : Target}
    {key value : String} (mem : (Call.patchPod u key value, true) ∈ sent) :
    u = t ∧ key = c.marker.key ∧ value = c.marker.value := by
  induction sit with
  | requested sit ih =>
    rcases List.mem_append.mp mem with mem | mem
    · exact ih mem
    · cases List.mem_singleton.mp mem
      exact ⟨rfl, rfl, rfl⟩
  | idle _ _ quiet => cases quiet _ mem rfl
  | _ => simp at mem

end

/-- `GetsThrough t w verdict sent`: the decision has found the pod `t` in `w`, has come to a
verdict before its deadline, and all calls that it has sent have acted. -/
structure GetsThrough (t : Target) (w : World) (verdict : Option Verdict)
    (sent : List (Call × Bool)) : Prop where
  present : (w.pods.get? t).isSome = true
  complete : verdict.isSome = true
  acted : ∀ e ∈ sent, e.2 = true

namespace Passage

variable {c : Settings} {t : Target} {w : World} {fates : Nat → Fate} {timeout : Nat}
  {o : Option Verdict × Trial}

theorem world (passed : Passage c t w fates timeout o) : o.2.world = w.replay o.2.sent := by
  cases passed with
  | ended => rfl
  | dropped => rfl

/-- A tracking object that a decision has patched is that of its candidate, and the patch
is about the candidate's flag. -/
theorem tracker_patch (passed : Passage c t w fates timeout o) {k : TrackerKind} {i : Tracker}
    {key : String} {value : Option String}
    (mem : (Call.patchTracker k i key value, true) ∈ o.2.sent) :
    ∃ s : Candidate c t w, k = c.trackerKind ∧ i = s.tracker ∧ key = t.flagKey := by
  cases passed with
  | ended sit => exact sit.tracker_patch mem
  | dropped asks sit =>
    rcases List.mem_append.mp mem with mem | mem
    · exact sit.tracker_patch mem
    · have last := congrArg Prod.fst (List.mem_singleton.mp mem)
      cases sit with
      | unflag s | flag s | rollBack s =>
        cases asks
        cases last
        exact ⟨s, rfl, rfl, rfl⟩
      | fetch | look | mark | markUntracked | markFlagged =>
        cases asks
        cases last
      | moved | requested | undone | idle => cases asks

/-- A pod that a decision has patched is its own, and the patch sets the marker. -/
theorem pod_patch (passed : Passage c t w fates timeout o) {u : Target} {key value : String}
    (mem : (Call.patchPod u key value, true) ∈ o.2.sent) :
    u = t ∧ key = c.marker.key ∧ value = c.marker.value := by
  cases passed with
  | ended sit => exact sit.pod_patch mem
  | dropped asks sit =>
    rcases List.mem_append.mp mem with mem | mem
    · exact sit.pod_patch mem
    · have last := congrArg Prod.fst (List.mem_singleton.mp mem)
      cases sit with
      | mark | markUntracked | markFlagged =>
        cases asks
        cases last
        exact ⟨rfl, rfl, rfl⟩
      | fetch | look | unflag | flag | rollBack =>
        cases asks
        cases last
      | moved | requested | undone | idle => cases asks

/-- A decision that answers that the pod has moved has found its flag, and taken it back. -/
theorem moved (passed : Passage c t w fates timeout o)
    (answered : o.1 = some (.deny .podRescheduledWithSameName)) :
    ∃ s : Candidate c t w, s.flagged = true ∧
      o.2.sent = readings c t s.tracker ++ [(.clearFlag c t s.tracker, true)] := by
  cases passed with
  | dropped => cases answered
  | ended sit =>
    have same := Option.some.inj answered
    cases sit with
    | moved s _ flagged => exact ⟨s, flagged, rfl⟩
    | requested => cases same
    | undone => cases same
    | idle other => exact absurd same other

/-- Without a candidate, a decision patches nothing. -/
theorem quiet_of_no_candidate (passed : Passage c t w fates timeout o) (tracks : c.tracks = true)
    (nobody : Candidate c t w → False) : ∀ e ∈ o.2.sent, e.2 = true → e.1.isPatch = false := by
  cases passed with
  | ended sit =>
    cases sit with
    | idle _ _ quiet => exact quiet
    | requested sit =>
      cases sit with
      | markUntracked _ _ _ untracked => cases tracks.symm.trans untracked
      | mark s => exact (nobody s).elim
      | markFlagged s => exact (nobody s).elim
    | moved s => exact (nobody s).elim
    | undone s => exact (nobody s).elim
  | dropped asks sit =>
    cases sit with
    | fetch | look =>
      cases asks
      simp [Call.isPatch]
    | markUntracked _ _ _ untracked => cases tracks.symm.trans untracked
    | unflag s | flag s | mark s | markFlagged s | rollBack s => exact (nobody s).elim
    | moved | requested | undone | idle => cases asks

/-- What a decision about a pod with a flag does: it gets through and takes the flag back,
or patches nothing, unless a call acts that nobody waits for any more. -/
theorem of_flagged (passed : Passage c t w fates timeout o) (tracks : c.tracks = true)
    (s : Candidate c t w) (flagged : s.flagged = true) :
    (o.1 = some (.deny .podRescheduledWithSameName) ∧
        o.2.sent = readings c t s.tracker ++ [(.clearFlag c t s.tracker, true)]) ∨
      ((∀ n, (fates n).early = false) → ∀ e ∈ o.2.sent, e.2 = true → e.1.isPatch = false) ∧
        ¬ GetsThrough t w o.1 o.2.sent := by
  have contra (s' : Candidate c t w) (unflagged : s'.flagged = false) : False := by
    rw [← s'.podFlagOn_eq, s.podFlagOn_eq, flagged] at unflagged
    cases unflagged
  cases passed with
  | ended sit =>
    cases sit with
    | moved s' => exact .inl ⟨rfl, by rw [s.tracker_eq s']⟩
    | idle _ _ quiet _ failed =>
      refine .inr ⟨fun _ => quiet, fun through => ?_⟩
      obtain ⟨call, mem⟩ := failed tracks s
      cases through.acted _ mem
    | requested sit =>
      cases sit with
      | markUntracked _ _ _ untracked => cases tracks.symm.trans untracked
      | mark s' _ unflagged => exact (contra s' unflagged).elim
      | markFlagged s' due => exact (contra s' due.unflagged).elim
    | undone s' _ due => exact (contra s' due.unflagged).elim
  | dropped asks sit _ hasty =>
    refine .inr ⟨fun patient => ?_, fun through => Bool.false_ne_true through.complete⟩
    cases sit with
    | fetch | look =>
      cases asks
      simp [Call.isPatch]
    | unflag s' =>
      -- the patch that takes the flag back is dropped, and acts only if it was hasty
      cases asks
      intro e mem acted
      rcases List.mem_append.mp mem with mem | mem
      · exact Situation.quiet_readings _ e mem acted
      · rw [List.mem_singleton.mp mem] at acted
        exact absurd ((patient _).symm.trans (hasty acted)) Bool.false_ne_true
    | markUntracked _ _ _ untracked => cases tracks.symm.trans untracked
    | flag s' due => exact (contra s' due.unflagged).elim
    | mark s' _ unflagged => exact (contra s' unflagged).elim
    | markFlagged s' due => exact (contra s' due.unflagged).elim
    | rollBack s' due => exact (contra s' due.unflagged).elim
    | moved | requested | undone | idle => cases asks

/-- A decision that has marked a pod for which a flag is due has flagged it before. -/
theorem of_marked (passed : Passage c t w fates timeout o) (tracks : c.tracks = true)
    (eligible : w.eligible c t = true) (marked : (Call.setMarker c t, true) ∈ o.2.sent) :
    ∃ s : Candidate c t w, o.2.world = s.state true true := by
  have contra (s : Candidate c t w) (undue : s.eligible = false) : False := by
    rw [s.eligible_eq, undue] at eligible
    cases eligible
  rw [passed.world]
  cases passed with
  | ended sit =>
    cases sit with
    | requested sit =>
      cases sit with
      | markFlagged s => exact ⟨s, Situation.replay_marked s⟩
      | mark s _ _ undue => exact (contra s undue).elim
      | markUntracked _ _ _ untracked => cases tracks.symm.trans untracked
    | idle _ _ quiet => cases quiet _ marked rfl
    | moved => simp at marked
    | undone => simp at marked
  | dropped asks sit =>
    cases sit with
    | markFlagged s =>
      cases asks
      simp at marked
      subst marked
      exact ⟨s, Situation.replay_marked s⟩
    | mark s _ _ undue => exact (contra s undue).elim
    | markUntracked _ _ _ untracked => cases tracks.symm.trans untracked
    | fetch | look | unflag | flag | rollBack =>
      cases asks
      simp at marked
    | moved | requested | undone | idle => cases asks

end Passage

end EvictionGate
