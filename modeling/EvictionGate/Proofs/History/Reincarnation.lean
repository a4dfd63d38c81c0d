import EvictionGate.Proofs.History.Chronicle

/-!
# A pod that has come back is not missed

The flag is written before the marker. Once a pod is marked that was to be flagged, its flag
stays on its object until a decision finds it, and none finds it while the pod is marked or
away. When the pod comes back without the marker, the first decision that gets through finds
the flag and answers that the pod has moved.

Results:
1. `Remembered.through_marked`: a flag outlives everything while its pod is marked or away.
2. `Remembered.through_unmarked`: once the pod is back, it outlives all that happens to other
   pods, and every decision about its pod that fails, or is cut off.
3. `moved_of_recreated`: the first decision that gets through finds it.
-/

namespace EvictionGate

/-- `Remembered c t i marked w`: the flag of `t` is on the object of `i`, and the pod `t`, if there
is one, is selected, has `i` as its tracking object, and has the marker exactly if `marked`. -/
structure Remembered (c : Settings) (t : Target) (i : Tracker) (marked : Bool) (w : World) :
    Prop where
  home : w.PodsAtHome
  owner : t.ns = c.trackerKind.homeOf i
  on : w.flagOn ⟨c.trackerKind, i⟩ t.flagKey = true
  pod : ∀ pod, w.pods.get? t = some pod →
    c.selects pod = true ∧ c.trackerKind.trackerOf? pod = some i ∧ c.markerIsOn pod = marked

namespace Remembered

variable {c : Settings} {t : Target} {i : Tracker} {marked : Bool} {w : World}

/-- A pod that is marked and flagged is remembered. -/
theorem of_marked (home : w.PodsAtHome) (s : Candidate c t w) (after : World)
    (leaves : after = s.state true true) (home' : after.PodsAtHome) :
    Remembered c t s.tracker true after := by
  subst leaves
  refine ⟨home', s.ns_eq_homeOf home, s.flagOn_state true true, fun pod found => ?_⟩
  cases (s.pod_state true true).symm.trans found
  exact ⟨(c.selects_marked s.pod).trans s.selected,
    ((Pod.Alike.annotate s.pod _ _).trackerOf? _).trans s.tracked, c.markerIsOn_marked s.pod⟩

/-- A flag outlives decisions about other pods. -/
theorem decide_other (remembered : Remembered c t i marked w) {u : Target} (other : t ≠ u)
    (fates : Nat → Fate) (timeout : Nat) :
    Remembered c t i marked (decideWithin c u fates timeout w).2.world := by
  have passed := passage c u w fates timeout
  generalize decideWithin c u fates timeout w = o at passed ⊢
  rw [passed.world]
  refine ⟨remembered.home.replay _, remembered.owner, ?_, fun pod found => ?_⟩
  · rw [World.flagOn_replay w fun value mem => ?_]
    · exact remembered.on
    · obtain ⟨s, -, rfl, key⟩ := passed.tracker_patch mem
      exact other (Target.eq_of_flagKey
        (remembered.owner.trans (s.ns_eq_homeOf remembered.home).symm) key)
  · rw [World.pod_replay_of_unpatched w fun _ _ mem => other (passed.pod_patch mem).1] at found
    exact remembered.pod pod found

/-- A flag outlives decisions about its pod while the pod is marked. -/
theorem decide_marked (remembered : Remembered c t i true w) (tracks : c.tracks = true)
    (fates : Nat → Fate) (timeout : Nat) :
    Remembered c t i true (decideWithin c t fates timeout w).2.world := by
  have passed := passage c t w fates timeout
  have quiet := passed.quiet_of_no_candidate tracks fun s =>
    Bool.false_ne_true (s.unmarked.symm.trans (remembered.pod s.pod s.found).2.2)
  rw [passed.world, World.replay_of_quiet w quiet]
  exact remembered

theorem flagged_of_candidate (remembered : Remembered c t i marked w) (s : Candidate c t w) :
    s.flagged = true := by
  have same := (remembered.pod s.pod s.found).2.1
  rw [← s.flagOn_eq, Option.some.inj (s.tracked.symm.trans same)]
  exact remembered.on

/-- A flag outlives every decision about its pod that fails, or is cut off. -/
theorem decide_unmarked (remembered : Remembered c t i false w) (tracks : c.tracks = true)
    (fates : Nat → Fate) (timeout : Nat) (patient : ∀ n, (fates n).early = false)
    (stuck : ¬ GetsThrough t w (decideWithin c t fates timeout w).1
      (decideWithin c t fates timeout w).2.sent) :
    Remembered c t i false (decideWithin c t fates timeout w).2.world := by
  have passed := passage c t w fates timeout
  generalize decideWithin c t fates timeout w = o at passed stuck ⊢
  have quiet : ∀ e ∈ o.2.sent, e.2 = true → e.1.isPatch = false := by
    by_cases candidate : Nonempty (Candidate c t w)
    · obtain ⟨s⟩ := candidate
      rcases passed.of_flagged tracks s (remembered.flagged_of_candidate s) with
        ⟨moved, sent⟩ | ⟨quiet, -⟩
      · refine absurd ⟨?_, ?_, ?_⟩ stuck
        · rw [s.found]
          rfl
        · rw [moved]
          rfl
        · rw [sent]
          simp
      · exact quiet patient
    · exact passed.quiet_of_no_candidate tracks fun s => candidate ⟨s⟩
  rw [passed.world, World.replay_of_quiet w quiet]
  exact remembered

/-- A flag outlives what happens other than decisions about its pod and its creation. -/
theorem happen_other (remembered : Remembered c t i marked w) (e : Incident)
    (undecided : ∀ fates timeout, e ≠ .decide t fates timeout)
    (uncreated : ∀ pod, e = .create pod → pod.home ≠ t) :
    Remembered c t i marked (e.happen c w).2 := by
  cases e with
  | decide u fates timeout =>
    have other : t ≠ u := by
      rintro rfl
      exact undecided fates timeout rfl
    exact remembered.decide_other other fates timeout
  | delete u =>
    refine ⟨remembered.home.deletePod u, remembered.owner, remembered.on, fun pod found => ?_⟩
    by_cases h : t = u
    · subst h
      cases (Table.get?_erase_self w.pods t).symm.trans found
    · exact remembered.pod pod ((Table.get?_erase_of_ne w.pods h).symm.trans found)
  | create new =>
    refine ⟨remembered.home.putPod new, remembered.owner, remembered.on, fun pod found => ?_⟩
    have h : t ≠ new.home := (uncreated new rfl).symm
    exact remembered.pod pod ((Table.get?_set_of_ne w.pods new h).symm.trans found)
  | edit place data =>
    refine ⟨remembered.home.happen c _, remembered.owner, ?_, fun pod found => ?_⟩
    · rw [Incident.happen_edit, World.flagOn_editData]
      exact remembered.on
    · rw [Incident.happen_edit, World.pods_editData] at found
      exact remembered.pod pod found

/-- A flag outlives the creation of its pod, which is not marked any more. -/
theorem happen_create (remembered : Remembered c t i marked w) {new : Pod} (home : new.home = t)
    (selected : c.selects new = true) (tracked : c.trackerKind.trackerOf? new = some i)
    (unmarked : c.markerIsOn new = false) :
    Remembered c t i false ((Incident.create new).happen c w).2 := by
  refine ⟨remembered.home.putPod new, remembered.owner, remembered.on, fun pod found => ?_⟩
  subst home
  cases (Table.get?_set_self w.pods new.home new).symm.trans found
  exact ⟨selected, tracked, unmarked⟩

/-- A flag outlives everything as long as its pod is marked or away. -/
theorem through_marked (remembered : Remembered c t i true w) (tracks : c.tracks = true)
    (events : List Incident) (uncreated : ∀ pod, Incident.create pod ∈ events → pod.home ≠ t) :
    Remembered c t i true (w.through c events) := by
  induction events generalizing w with
  | nil => exact remembered
  | cons e events ih =>
    refine ih ?_ fun pod mem => uncreated pod (List.mem_cons_of_mem _ mem)
    by_cases decided : ∃ fates timeout, e = .decide t fates timeout
    · obtain ⟨fates, timeout, rfl⟩ := decided
      exact remembered.decide_marked tracks fates timeout
    · refine remembered.happen_other e (fun fates timeout h => decided ⟨fates, timeout, h⟩) ?_
      rintro pod rfl
      exact uncreated pod List.mem_cons_self

/-- Once its pod has come back, a flag outlives everything until a decision about the pod
gets through. -/
theorem through_unmarked (remembered : Remembered c t i false w) (tracks : c.tracks = true)
    (events : List Incident)
    (alike : ∀ pod, Incident.create pod ∈ events → pod.home = t →
      c.selects pod = true ∧ c.trackerKind.trackerOf? pod = some i ∧ c.markerIsOn pod = false)
    (patient : ∀ fates timeout, Incident.decide t fates timeout ∈ events →
      ∀ n, (fates n).early = false)
    (stuck : ∀ r ∈ chronicle c w events, r.Decides t → ¬ GetsThrough t r.met r.verdict r.sent) :
    Remembered c t i false (w.through c events) := by
  induction events generalizing w with
  | nil => exact remembered
  | cons e events ih =>
    refine ih ?_ (fun pod mem => alike pod (List.mem_cons_of_mem _ mem))
      (fun fates timeout mem => patient fates timeout (List.mem_cons_of_mem _ mem))
      fun r mem => stuck r (List.mem_cons_of_mem _ mem)
    · have stuck_first := stuck _ List.mem_cons_self
      cases e with
      | decide u fates timeout =>
        by_cases h : t = u
        · subst h
          exact remembered.decide_unmarked tracks fates timeout
            (patient fates timeout List.mem_cons_self) (stuck_first ⟨fates, timeout, rfl⟩)
        · exact remembered.decide_other h fates timeout
      | create new =>
        by_cases h : new.home = t
        · obtain ⟨selected, tracked, unmarked⟩ := alike new List.mem_cons_self h
          exact remembered.happen_create h selected tracked unmarked
        · refine remembered.happen_other _ (fun _ _ h => nomatch h) ?_
          rintro pod ⟨⟩
          exact h
      | delete u =>
        exact remembered.happen_other _ (fun _ _ h => nomatch h) (fun _ h => nomatch h)
      | edit place data =>
        exact remembered.happen_other _ (fun _ _ h => nomatch h) (fun _ h => nomatch h)

/-- A decision that gets through finds the flag. -/
theorem moved (remembered : Remembered c t i false w) (tracks : c.tracks = true)
    (fates : Nat → Fate) (timeout : Nat)
    (through : GetsThrough t w (decideWithin c t fates timeout w).1
      (decideWithin c t fates timeout w).2.sent) :
    (decideWithin c t fates timeout w).1 = some (.deny .podRescheduledWithSameName) ∧
      (decideWithin c t fates timeout w).2.world.flagOn ⟨c.trackerKind, i⟩ t.flagKey =
        false := by
  have passed := passage c t w fates timeout
  generalize decideWithin c t fates timeout w = o at passed through ⊢
  obtain ⟨pod, found⟩ := Option.isSome_iff_exists.mp through.present
  obtain ⟨selected, tracked, unmarked⟩ := remembered.pod pod found
  have on := remembered.on
  rw [World.flagOn, Option.any_eq_true] at on
  obtain ⟨o', present, -⟩ := on
  let s : Candidate c t w := ⟨pod, i, o', found, selected, unmarked, tracked, present⟩
  rcases passed.of_flagged tracks s (remembered.flagged_of_candidate s) with
    ⟨moved, sent⟩ | ⟨-, stuck⟩
  · refine ⟨moved, ?_⟩
    rw [passed.world, sent, Situation.replay_moved]
    exact (s.cleared.flagOn_state false false).trans s.cleared_flagged
  · exact absurd through stuck

end Remembered

/-- A pod for which a flag is due is marked, in the world `met`; it comes back without the
marker, with the same labels and in the same namespace, in the world `back`, and then again
as often as it likes. The first decision about it that gets through answers that the pod has
moved, and takes the flag back. -/
theorem moved_of_recreated (c : Settings) (tracks : c.tracks = true) (start : World)
    (home : start.PodsAtHome) (t : Target) (before middle later : List Incident)
    (fates fates' : Nat → Fate) (timeout timeout' : Nat) (old new : Pod) (met back last : World)
    (to_met : start.through c before = met)
    (to_back : met.through c (.decide t fates timeout :: (middle ++ [.create new])) = back)
    (to_last : back.through c later = last)
    (there : met.pods.get? t = some old) (eligible : met.eligible c t = true)
    (marked : (Call.setMarker c t, true) ∈ (decideWithin c t fates timeout met).2.sent)
    (away : ∀ pod, Incident.create pod ∈ middle → pod.home ≠ t) (home_new : new.home = t)
    (alike : ∀ pod, Incident.create pod ∈ .create new :: later → pod.home = t →
      c.markerIsOn pod = false ∧ old.Akin pod)
    (patient : ∀ fates timeout, Incident.decide t fates timeout ∈ later →
      ∀ n, (fates n).early = false)
    (first : ∀ r ∈ chronicle c back later, r.Decides t → ¬ GetsThrough t r.met r.verdict r.sent)
    (through : GetsThrough t last (decideWithin c t fates' timeout' last).1
      (decideWithin c t fates' timeout' last).2.sent) :
    (decideWithin c t fates' timeout' last).1 = some (.deny .podRescheduledWithSameName) ∧
      ∃ i, c.trackerKind.trackerOf? old = some i ∧
        (decideWithin c t fates' timeout' last).2.world.flagOn ⟨c.trackerKind, i⟩ t.flagKey =
          false := by
  have home_met : met.PodsAtHome := to_met ▸ home.through c before
  obtain ⟨s, leaves⟩ := (passage c t met fates timeout).of_marked tracks eligible marked
  have same : s.pod = old := Option.some.inj (s.found.symm.trans there)
  have akin_old (pod : Pod) (akin : old.Akin pod) :
      c.selects pod = true ∧ c.trackerKind.trackerOf? pod = some s.tracker := by
    rw [akin.selects, akin.trackerOf?, ← same]
    exact ⟨s.selected, s.tracked⟩
  -- the flag lasts from the decision that marks the pod until it comes back, and on from there
  have marked_world := Remembered.of_marked home_met s _ leaves
    (home_met.happen c (.decide t fates timeout))
  have marked_on := marked_world.through_marked tracks middle away
  have at_back : Remembered c t s.tracker false back := by
    obtain ⟨unmarked, akin⟩ := alike new List.mem_cons_self home_new
    obtain ⟨selected, tracked⟩ := akin_old new akin
    have created := marked_on.happen_create home_new selected tracked unmarked
    rw [World.through, World.through_append] at to_back
    rw [← to_back]
    exact created
  have at_last : Remembered c t s.tracker false last := by
    rw [← to_last]
    refine at_back.through_unmarked tracks later (fun pod mem at_home => ?_) patient first
    obtain ⟨unmarked, akin⟩ := alike pod (List.mem_cons_of_mem _ mem) at_home
    obtain ⟨selected, tracked⟩ := akin_old pod akin
    exact ⟨selected, tracked, unmarked⟩
  obtain ⟨moved, off⟩ := at_last.moved tracks fates' timeout' through
  exact ⟨moved, s.tracker, same ▸ s.tracked, off⟩

/-- A pod is marked, deleted and created anew. The first decision about it cannot take the
flag back; the second does. -/
theorem moved_at_second_try :
    (decideWithin .default Sample.db (Sample.prompt none) 0 (Sample.world.through .default
        [.decide Sample.db (Sample.prompt none) 0, .delete Sample.db, .create Sample.fresh,
          .decide Sample.db (Sample.prompt (some 2)) 0])).1 =
      some (.deny .podRescheduledWithSameName) := by
  have failed : ∀ r ∈ chronicle .default (Sample.world.through .default
      [.decide Sample.db (Sample.prompt none) 0, .delete Sample.db, .create Sample.fresh])
      [.decide Sample.db (Sample.prompt (some 2)) 0],
      r.sent.all (fun e => e.2) = false := by decide
  refine (moved_of_recreated .default rfl Sample.world Sample.podsAtHome_world Sample.db []
    [.delete Sample.db] [.decide Sample.db (Sample.prompt (some 2)) 0] (Sample.prompt none)
    (Sample.prompt none) 0 0 Sample.fresh Sample.fresh Sample.world _ _ rfl rfl rfl rfl
    (by decide) (by decide) ?_ rfl ?_ ?_ ?_ ⟨by decide, by decide, by decide⟩).1
  · intro pod mem
    simp at mem
  · intro pod mem _
    obtain rfl : pod = Sample.fresh := by simpa using mem
    exact ⟨by decide, rfl, rfl⟩
  · intro fates timeout mem n
    obtain ⟨rfl, -⟩ : fates = Sample.prompt (some 2) ∧ timeout = 0 := by simpa using mem
    rfl
  · intro r mem _ through
    have all := List.all_eq_true.mpr through.acted
    exact Bool.false_ne_true ((failed r mem).symm.trans all)

end EvictionGate
