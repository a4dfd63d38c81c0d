import EvictionGate.Proofs.Decision.Candidate
import EvictionGate.Proofs.Decision.Trial

/-!
# What a decision can have done

The calls that a decision has sent, and which of them have acted, when it stands at one of
its stages (`Situation`). It is the one place that says what a decision can do to a world;
what it leaves behind when it ends, or is dropped, is read off from it.

Results:
1. `Situation.answered`: a reply, whatever it is, leads from situation to situation.
2. `passage`: where every decision comes to, whatever becomes of its calls and whenever its
   time is up.
-/

namespace EvictionGate

/-- A candidate whose flag is off and whose tracking object is `Candidate.eligible`, in a gate
that tracks: it is flagged, and then marked. -/
structure Candidate.Due {c : Settings} {t : Target} {w : World} (s : Candidate c t w) : Prop where
  tracks : c.tracks = true
  unflagged : s.flagged = false
  eligible : s.eligible = true

/-- The records of `getPod` and `getTracker`. -/
abbrev readings (c : Settings) (t : Target) (i : Tracker) : List (Call × Bool) :=
  [(.getPod t, true), (.getTracker c.trackerKind i, true)]

/-- `Situation c t w stage sent`: a decision about `t` that has started in `w` and is at `stage`
has sent the calls `sent`, each of which has acted or not as recorded. -/
inductive Situation (c : Settings) (t : Target) (w : World) :
    Stage → List (Call × Bool) → Prop
  | fetch : Situation c t w .fetch []
  | look {pod : Pod} {i : Tracker} : w.pods.get? t = some pod → c.selects pod = true →
      c.markerIsOn pod = false → c.tracks = true → c.trackerKind.trackerOf? pod = some i →
      Situation c t w (.look i) [(.getPod t, true)]
  | unflag (s : Candidate c t w) : c.tracks = true → s.flagged = true →
      Situation c t w (.unflag s.tracker) (readings c t s.tracker)
  | flag (s : Candidate c t w) : s.Due →
      Situation c t w (.flag s.tracker) (readings c t s.tracker)
  | mark (s : Candidate c t w) : c.tracks = true → s.flagged = false → s.eligible = false →
      Situation c t w (.mark none) (readings c t s.tracker)
  | markUntracked {pod : Pod} : w.pods.get? t = some pod → c.selects pod = true →
      c.markerIsOn pod = false → c.tracks = false →
      Situation c t w (.mark none) [(.getPod t, true)]
  | markFlagged (s : Candidate c t w) : s.Due →
      Situation c t w (.mark (some s.tracker))
        (readings c t s.tracker ++ [(.setFlag c t s.tracker, true)])
  | rollBack (s : Candidate c t w) : s.Due →
      Situation c t w (.rollBack s.tracker)
        (readings c t s.tracker ++ [(.setFlag c t s.tracker, true), (.setMarker c t, false)])
  /-- It has taken a flag back. -/
  | moved (s : Candidate c t w) : c.tracks = true → s.flagged = true →
      Situation c t w (.ended (.deny .podRescheduledWithSameName))
        (readings c t s.tracker ++ [(.clearFlag c t s.tracker, true)])
  /-- It has marked the pod. -/
  | requested {flagged : Option Tracker} {sent : List (Call × Bool)} :
      Situation c t w (.mark flagged) sent →
      Situation c t w (.ended (.deny .rescheduleRequested)) (sent ++ [(.setMarker c t, true)])
  /-- It has taken back its own flag, or has failed to. -/
  | undone (s : Candidate c t w) (acted : Bool) : s.Due →
      Situation c t w (.ended (.deny .failedToAddMarker))
        (readings c t s.tracker ++ [(.setFlag c t s.tracker, true), (.setMarker c t, false),
          (.clearFlag c t s.tracker, acted)])
  /-- It has patched nothing. With a candidate, that is because a call has failed. -/
  | idle {v : Verdict} {sent : List (Call × Bool)} :
      v ≠ .deny .podRescheduledWithSameName → v ≠ .deny .rescheduleRequested →
      (∀ e ∈ sent, e.2 = true → e.1.isPatch = false) → sent.length ≤ 3 →
      (c.tracks = true → Candidate c t w → ∃ call, (call, false) ∈ sent) →
      Situation c t w (.ended v) sent

namespace Situation

variable {c : Settings} {t : Target} {w : World} {stage : Stage} {sent : List (Call × Bool)}

/-- A decision that ends with a failure has patched nothing if it had patched nothing
before. -/
theorem idle_of_failed {v : Verdict} (sent : List (Call × Bool)) (call : Call)
    (other : v ≠ .deny .podRescheduledWithSameName) (unmarked : v ≠ .deny .rescheduleRequested)
    (quiet : ∀ e ∈ sent, e.2 = true → e.1.isPatch = false) (few : sent.length ≤ 2) :
    Situation c t w (.ended v) (sent ++ [(call, false)]) := by
  refine .idle other unmarked ?_ ?_ fun _ _ => ⟨call, List.mem_append_right _ List.mem_cons_self⟩
  · intro e he acted
    rcases List.mem_append.mp he with he | he
    · exact quiet e he acted
    · rw [List.mem_singleton.mp he] at acted
      cases acted
  · rw [List.length_append]
    exact Nat.succ_le_succ few

theorem quiet_readings (i : Tracker) :
    ∀ e ∈ readings c t i, e.2 = true → e.1.isPatch = false := by
  intro e he _
  simp only [List.mem_cons, List.not_mem_nil, or_false] at he
  rcases he with rfl | rfl
  · rfl
  · rfl

theorem replay_readings (i : Tracker) (rest : List (Call × Bool)) :
    w.replay (readings c t i ++ rest) = w.replay rest := by
  rw [World.replay_append, World.replay_of_quiet w (quiet_readings i)]

/-- The world of a decision that has set its flag. -/
theorem replay_flagged (s : Candidate c t w) (rest : List (Call × Bool)) :
    w.replay (readings c t s.tracker ++ (.setFlag c t s.tracker, true) :: rest) =
      (s.state false true).replay rest := by
  rw [replay_readings, World.replay_acted, s.after_setFlag]

/-- The world of a decision that has flagged and marked its pod. -/
theorem replay_marked (s : Candidate c t w) :
    w.replay (readings c t s.tracker ++ [(.setFlag c t s.tracker, true)]
      ++ [(.setMarker c t, true)]) = s.state true true := by
  rw [List.append_assoc, List.singleton_append, replay_flagged, World.replay_acted,
    s.after_setMarker_state, World.replay_nil]

/-- The world of a decision that has taken a flag back. -/
theorem replay_moved (s : Candidate c t w) :
    w.replay (readings c t s.tracker ++ [(.clearFlag c t s.tracker, true)]) =
      s.cleared.state false false := by
  rw [replay_readings, World.replay_acted, s.after_clearFlag, World.replay_nil]

theorem quiet_getPod : ∀ e ∈ [(Call.getPod t, true)], e.2 = true → e.1.isPatch = false := by
  intro e he _
  rw [List.mem_singleton.mp he]
  rfl

/-- A failure leads from situation to situation. -/
theorem refused (sit : Situation c t w stage sent) {call : Call} {next : Reply call → Stage}
    (asks : stage.ask c t = some ⟨call, next⟩) (e : GateError) :
    Situation c t w (stage.refused e) (sent ++ [(call, false)]) := by
  cases sit with
  | fetch =>
    cases asks
    simp only [Stage.refused]
    split
    · exact idle_of_failed [] _ (by decide) (by decide) (by simp) (by simp)
    · exact idle_of_failed [] _ (by decide) (by decide) (by simp) (by simp)
  | look =>
    cases asks
    exact idle_of_failed _ _ (by decide) (by decide) quiet_getPod (by simp)
  | unflag s =>
    cases asks
    exact idle_of_failed _ _ (by decide) (by decide) (quiet_readings _) (by simp)
  | flag s =>
    cases asks
    exact idle_of_failed _ _ (by decide) (by decide) (quiet_readings _) (by simp)
  | mark s =>
    cases asks
    exact idle_of_failed _ _ (by decide) (by decide) (quiet_readings _) (by simp)
  | markUntracked =>
    cases asks
    exact idle_of_failed _ _ (by decide) (by decide) quiet_getPod (by simp)
  | markFlagged s due =>
    -- the one failure that is not the end: the flag has to be taken back
    cases asks
    exact .rollBack s due
  | rollBack s due =>
    cases asks
    exact .undone s false due
  | moved => cases asks
  | requested => cases asks
  | undone => cases asks
  | idle => cases asks

/-- The pod that has been read decides how a decision goes on. -/
theorem ofPod {pod : Pod} (found : w.pods.get? t = some pod) :
    Situation c t w (Stage.ofPod c pod) [(.getPod t, true)] := by
  have after := Stage.afterPod c pod
  generalize Stage.ofPod c pod = stage at after ⊢
  cases after with
  | ended other unrequested untracked =>
    refine .idle other unrequested quiet_getPod (by simp) fun tracks s => ?_
    -- a candidate's pod has a tracking object, so it does not end here
    obtain rfl : s.pod = pod := Option.some.inj (s.found.symm.trans found)
    cases (untracked tracks s.selected s.unmarked).symm.trans s.tracked
  | mark selected unmarked untracked => exact .markUntracked found selected unmarked untracked
  | look selected unmarked tracks tracked => exact .look found selected unmarked tracks tracked

/-- The tracking object that has been read decides how a decision goes on. -/
theorem ofObject (s : Candidate c t w) (tracks : c.tracks = true) :
    Situation c t w (Stage.ofObject c t s.tracker s.object) (readings c t s.tracker) := by
  have goes : Stage.ofObject c t s.tracker s.object =
      if s.flagged then .unflag s.tracker
      else if s.eligible then .flag s.tracker else .mark none := rfl
  rw [goes]
  cases flagged : s.flagged with
  | true =>
    rw [if_pos rfl]
    exact .unflag s tracks flagged
  | false =>
    rw [if_neg Bool.false_ne_true]
    cases eligible : s.eligible with
    | true =>
      rw [if_pos rfl]
      exact .flag s ⟨tracks, flagged, eligible⟩
    | false =>
      rw [if_neg Bool.false_ne_true]
      exact .mark s tracks flagged eligible

/-- A reply, whatever it is, leads from situation to situation. -/
theorem answered (sit : Situation c t w stage sent) {call : Call} {next : Reply call → Stage}
    (asks : stage.ask c t = some ⟨call, next⟩) (failure : Option GateError) :
    Situation c t w (stage.turn c t failure (w.replay sent)).1
      (sent ++ [(call, ((w.replay sent).attempt failure call).1.isOk)]) := by
  cases failure with
  | some e =>
    rw [Stage.turn_failed]
    exact sit.refused asks e
  | none =>
    -- what has been read is still there, so that no patch is refused
    have object_at (s : Candidate c t w) :
        ∃ o, (w.replay sent).tracking.get? ⟨c.trackerKind, s.tracker⟩ = some o := by
      rw [← Option.isSome_iff_exists, World.isSome_tracking_replay, s.present]
      rfl
    unfold World.attempt
    cases sit with
    | fetch =>
      cases asks
      cases found : w.pods.get? t with
      | none =>
        rw [World.replay_nil, Stage.turn_fetch_absent c t found, World.answer_getPod_absent w found]
        exact idle_of_failed [] _ (by decide) (by decide) (by simp) (by simp)
      | some pod =>
        rw [World.replay_nil, Stage.turn_fetch c t found, World.isOk_getPod w found]
        exact ofPod found
    | @look pod i found selected unmarked tracks tracked =>
      cases asks
      rw [World.replay_of_quiet w quiet_getPod]
      cases present : w.tracking.get? ⟨c.trackerKind, i⟩ with
      | none =>
        rw [Stage.turn_look_absent c t present, World.answer_getTracker_absent w present]
        exact idle_of_failed _ _ (by decide) (by decide) quiet_getPod (by simp)
      | some o =>
        rw [Stage.turn_look c t present, World.isOk_getTracker w present]
        exact ofObject ⟨pod, i, o, found, selected, unmarked, tracked, present⟩ tracks
    | unflag s tracks flagged =>
      cases asks
      obtain ⟨o, present⟩ := object_at s
      rw [Stage.turn_unflag c t present, World.isOk_patchTracker _ present]
      exact .moved s tracks flagged
    | flag s due =>
      cases asks
      obtain ⟨o, present⟩ := object_at s
      rw [Stage.turn_flag c t present, World.isOk_patchTracker _ present]
      exact .markFlagged s due
    | mark s tracks unflagged undue =>
      cases asks
      obtain ⟨pod, found, -⟩ := w.pod_replay s.found _
      rw [Stage.turn_mark c t found, World.isOk_patchPod _ found]
      exact .requested (.mark s tracks unflagged undue)
    | markUntracked found selected unmarked tracks =>
      cases asks
      obtain ⟨pod, found', -⟩ := w.pod_replay found _
      rw [Stage.turn_mark c t found', World.isOk_patchPod _ found']
      exact .requested (.markUntracked found selected unmarked tracks)
    | markFlagged s due =>
      cases asks
      obtain ⟨pod, found, -⟩ := w.pod_replay s.found _
      rw [Stage.turn_mark c t found, World.isOk_patchPod _ found]
      exact .requested (.markFlagged s due)
    | rollBack s due =>
      cases asks
      obtain ⟨o, present⟩ := object_at s
      rw [Stage.turn_rollBack c t present, World.isOk_patchTracker _ present]
      exact .undone s true due
    | moved => cases asks
    | requested => cases asks
    | undone => cases asks
    | idle => cases asks

/-- With a candidate, every call that meets no failure acts. -/
theorem isOk (sit : Situation c t w stage sent) {call : Call} {next : Reply call → Stage}
    (asks : stage.ask c t = some ⟨call, next⟩) (s : Candidate c t w) :
    ((w.replay sent).answer call).1.isOk = true := by
  have object_at {i : Tracker} {o : DynamicObject}
      (present : w.tracking.get? ⟨c.trackerKind, i⟩ = some o) :
      ∃ o, (w.replay sent).tracking.get? ⟨c.trackerKind, i⟩ = some o := by
    rw [← Option.isSome_iff_exists, World.isSome_tracking_replay, present]
    rfl
  obtain ⟨pod, found, -⟩ := w.pod_replay s.found sent
  cases sit with
  | fetch =>
    cases asks
    exact World.isOk_getPod _ found
  | look found' _ _ _ tracked =>
    cases asks
    cases Option.some.inj (s.found.symm.trans found')
    cases Option.some.inj (s.tracked.symm.trans tracked)
    obtain ⟨o, present⟩ := object_at s.present
    exact World.isOk_getTracker _ present
  | unflag s' | flag s' | rollBack s' =>
    cases asks
    obtain ⟨o, present⟩ := object_at s'.present
    exact World.isOk_patchTracker _ present _ _
  | mark | markUntracked | markFlagged =>
    cases asks
    exact World.isOk_patchPod _ found _ _
  | moved | requested | undone | idle => cases asks

end Situation

/-! ## Where a decision comes to -/

section

variable (c : Settings) (t : Target) (w : World) (fates : Nat → Fate) (timeout : Nat)

/-- `Recorded sent`: a call is recorded as one that has acted only if `Acts` holds of its number,
and if there is a candidate, whenever it holds. -/
structure Recorded (sent : List (Call × Bool)) : Prop where
  acts : ∀ n e, sent[n]? = some e → e.2 = true → Acts fates timeout n
  all : Candidate c t w → ∀ n e, sent[n]? = some e → Acts fates timeout n → e.2 = true

/-- How a decision under a deadline comes to its end.

* `ended`: it has come to the verdict `v` by the calls `sent`.
* `dropped`: its last call was not answered in time, and has acted only if it is `Fate.early`. -/
inductive Passage : Option Verdict × Trial → Prop
  | ended {v : Verdict} {sent : List (Call × Bool)} :
      Situation c t w (.ended v) sent → Recorded c t w fates timeout sent →
      Passage (some v, ⟨w.replay sent, sent⟩)
  | dropped {stage : Stage} {sent : List (Call × Bool)} {call : Call}
      {next : Reply call → Stage} {acted : Bool} :
      stage.ask c t = some ⟨call, next⟩ → Situation c t w stage sent →
      ¬ Timely fates timeout (sent.length + 1) →
      (acted = true → (fates sent.length).early = true) →
      Recorded c t w fates timeout (sent ++ [(call, acted)]) →
      Passage (none, ⟨w.replay (sent ++ [(call, acted)]), sent ++ [(call, acted)]⟩)

variable {c t w fates timeout}

theorem Recorded.nil : Recorded c t w fates timeout [] where
  acts n e h := by cases h
  all _ n e h := by cases h

theorem Recorded.snoc {sent : List (Call × Bool)} (recorded : Recorded c t w fates timeout sent)
    (call : Call) {acted : Bool} (acts : acted = true → Acts fates timeout sent.length)
    (all : Candidate c t w → Acts fates timeout sent.length → acted = true) :
    Recorded c t w fates timeout (sent ++ [(call, acted)]) := by
  constructor
  · intro n e h on
    rcases getElem?_concat_cases h with h | ⟨rfl, rfl⟩
    · exact recorded.acts n e h on
    · exact acts on
  · intro s n e h on
    rcases getElem?_concat_cases h with h | ⟨rfl, rfl⟩
    · exact recorded.all s n e h on
    · exact all s on

/-- Where every decision comes to, whatever becomes of its calls and whenever its time is
up. -/
theorem passage (c : Settings) (t : Target) (w : World) (fates : Nat → Fate) (timeout : Nat) :
    Passage c t w fates timeout (decideWithin c t fates timeout w) := by
  let P (stage : Stage) (left : Nat) (s : Trial) : Prop :=
    (∃ used, spent fates s.sent.length = some used ∧ used + left = timeout) ∧
      s.world = w.replay s.sent ∧ Situation c t w stage s.sent ∧
      Recorded c t w fates timeout s.sent
  -- a reply adds its call to the record, whether it is awaited or comes too late
  have answered {stage : Stage} {left : Nat} {s : Trial} {call : Call}
      {next : Reply call → Stage} (asks : stage.ask c t = some ⟨call, next⟩)
      (holds : P stage left s) (waits : Timely fates timeout (s.sent.length + 1) ∨
        (fates s.sent.length).early = true) :
      (s.answered (fates s.sent.length) call).world =
          w.replay (s.answered (fates s.sent.length) call).sent ∧
        Recorded c t w fates timeout (s.answered (fates s.sent.length) call).sent := by
    obtain ⟨⟨used, clock, total⟩, world, sit, recorded⟩ := holds
    constructor
    · simp only [Trial.answered, World.attempt_world, World.replay_append, ← world]
      cases (s.world.attempt (fates s.sent.length).failure call).1.isOk with
      | false => rfl
      | true => rfl
    · refine recorded.snoc call (fun ok => ⟨⟨used, clock, by omega⟩, ?_, waits⟩)
        fun candidate acts => ?_
      · cases fails : (fates s.sent.length).failure with
        | none => rfl
        | some e =>
          rw [fails] at ok
          cases ok
      · rw [acts.2.1, world]
        exact sit.isOk asks candidate
  have concludes : Concludes c t fates P (decideWithin c t fates timeout w) := by
    show Concludes c t fates P ((Stage.fetch.rest c t).timed (Trial.send fates) timeout ⟨w, []⟩)
    refine timed_induction ?_ ⟨⟨0, rfl, Nat.zero_add _⟩, rfl, .fetch, .nil⟩
    intro stage left s call next wait asks holds takes enough
    have given := holds
    obtain ⟨⟨used, clock, total⟩, world, sit, -⟩ := given
    have later : spent fates (s.sent.length + 1) = some (used + wait) := by
      simp only [spent, clock, takes, Option.bind_some, Option.map_some]
    obtain ⟨leaves, recorded⟩ := answered asks holds (.inl ⟨used + wait, later, by omega⟩)
    refine ⟨⟨used + wait, ?_, by omega⟩, leaves, ?_, recorded⟩
    · simpa only [Trial.answered, List.length_append, List.length_singleton] using later
    · rw [world]
      exact world ▸ sit.answered asks (fates s.sent.length).failure
  generalize decideWithin c t fates timeout w = outcome at concludes
  cases concludes with
  | @ended v left s holds =>
    obtain ⟨-, world, sit, recorded⟩ := holds
    obtain ⟨world', sent⟩ := s
    obtain rfl : world' = w.replay sent := world
    exact .ended sit recorded
  | @dropped stage left s call next asks holds late =>
    have given := holds
    obtain ⟨⟨used, clock, total⟩, world, sit, recorded⟩ := given
    have too_late : ¬ Timely fates timeout (s.sent.length + 1) := by
      rintro ⟨all, sum, enough⟩
      simp only [spent, clock, Option.bind_some, Option.map_eq_some_iff] at sum
      obtain ⟨wait, takes, rfl⟩ := sum
      have := late wait takes
      omega
    unfold Trial.abandoned
    cases early : (fates s.sent.length).early with
    | true =>
      obtain ⟨leaves, recorded⟩ := answered asks holds (.inr early)
      have done := Passage.dropped asks sit too_late (fun _ => early) recorded
      rw [if_pos rfl]
      exact (congrArg (fun v => Passage c t w fates timeout (none, ⟨v, _⟩)) leaves).mpr done
    | false =>
      -- the call is given up before it acts: neither in time nor hasty
      rw [if_neg Bool.false_ne_true]
      have done := Passage.dropped asks sit too_late (fun h => absurd h Bool.false_ne_true)
        (recorded.snoc call (fun h => absurd h Bool.false_ne_true) fun _ acts => ?_)
      · rw [World.replay_append, World.replay_failed, World.replay_nil, ← world] at done
        exact done
      · rcases acts.2.2 with timely | hasty
        · exact absurd timely too_late
        · exact early.symm.trans hasty

end

end EvictionGate
