import EvictionGate.Proofs.Decision.Serial
import EvictionGate.Proofs.Decision.Situation

/-!
# Flags left behind

A flag is written before the marker, and taken back if the marker cannot be set. A decision
that is dropped in between takes nothing back, and leaves a pod that is flagged and not
marked: the next eviction takes the flag for that of an earlier pod and answers that the
pod has moved, although it never has.

Results:
1. `stranded_iff`: when a decision leaves a flag without a marker, in terms of what becomes
   of its calls, and that exactly then the next eviction is answered wrongly.
2. `exists_stranded`: a reply that never comes is enough.
-/

namespace EvictionGate

/-- `LeavesFlag fates timeout`: `Acts` holds of `getPod`, `getTracker` and `setFlag`, the first
three calls of a decision about a candidate that is `Candidate.Due`, and fails of `setMarker` and
of the `clearFlag` that follows it. -/
structure LeavesFlag (fates : Nat → Fate) (timeout : Nat) : Prop where
  readsPod : Acts fates timeout 0
  readsObject : Acts fates timeout 1
  flags : Acts fates timeout 2
  unmarked : ¬ Acts fates timeout 3
  keeps : ¬ Acts fates timeout 4

/-- The pod `t` has its flag and not the marker. -/
def World.Stranded (w : World) (c : Settings) (t : Target) : Prop :=
  w.podFlagOn c t = true ∧ w.markerOn c t = false

section

variable {c : Settings} {t : Target} {w : World} {fates : Nat → Fate} {timeout : Nat}

theorem LeavesFlag.acts (leaves : LeavesFlag fates timeout) {n : Nat} (few : n < 3) :
    Acts fates timeout n := by
  match n, few with
  | 0, _ => exact leaves.readsPod
  | 1, _ => exact leaves.readsObject
  | 2, _ => exact leaves.flags

/-- What is recorded of a decision that has written its flag. -/
theorem Recorded.leavesFlag {i : Tracker} {rest : List (Call × Bool)}
    (recorded : Recorded c t w fates timeout
      (readings c t i ++ (.setFlag c t i, true) :: rest))
    (unmarked : ¬ Acts fates timeout 3) (keeps : ¬ Acts fates timeout 4) :
    LeavesFlag fates timeout where
  readsPod := recorded.acts 0 _ rfl rfl
  readsObject := recorded.acts 1 _ rfl rfl
  flags := recorded.acts 2 _ rfl rfl
  unmarked := unmarked
  keeps := keeps

/-- With a candidate, a call that has not acted could not. -/
theorem Recorded.not_acts {sent : List (Call × Bool)}
    (recorded : Recorded c t w fates timeout sent) (s : Candidate c t w) {n : Nat} {call : Call}
    (at_n : sent[n]? = some (call, false)) : ¬ Acts fates timeout n :=
  fun acts => Bool.false_ne_true (recorded.all s n _ at_n acts)

theorem not_stranded_of_unflagged (off : w.podFlagOn c t = false) : ¬ w.Stranded c t :=
  fun stranded => Bool.false_ne_true (off.symm.trans stranded.1)

theorem not_stranded_of_marked (on : w.markerOn c t = true) : ¬ w.Stranded c t :=
  fun stranded => Bool.false_ne_true (stranded.2.symm.trans on)

namespace Candidate

variable (s : Candidate c t w)

theorem stranded_flagged : (s.state false true).Stranded c t :=
  ⟨s.podFlagOn_state false true, s.markerOn_state false true⟩

end Candidate

/-- A decision that has ended has left a flag without a marker exactly if it wrote the flag
and could not take it back. -/
theorem stranded_iff_of_ended {v : Verdict} {sent : List (Call × Bool)}
    (tracks : c.tracks = true) (unflagged : w.podFlagOn c t = false)
    (candidate : w.eligible c t = true → Nonempty (Candidate c t w))
    (sit : Situation c t w (.ended v) sent) (recorded : Recorded c t w fates timeout sent) :
    (w.replay sent).Stranded c t ↔ w.eligible c t = true ∧ LeavesFlag fates timeout := by
  cases sit with
  | moved s _ flagged =>
    rw [s.podFlagOn_eq] at unflagged
    cases flagged.symm.trans unflagged
  | requested sit =>
    cases sit with
    | mark s _ _ undue =>
      refine iff_of_false (not_stranded_of_marked ?_) fun ⟨due, _⟩ => ?_
      · rw [Situation.replay_readings, World.replay_acted, World.replay_nil, s.after_setMarker]
        exact s.markerOn_state true false
      · rw [s.eligible_eq] at due
        cases due.symm.trans undue
    | markUntracked _ _ _ untracked => cases tracks.symm.trans untracked
    | markFlagged s _ =>
      refine iff_of_false (not_stranded_of_marked ?_) fun ⟨_, leaves⟩ => ?_
      · rw [Situation.replay_marked]
        exact s.markerOn_state true true
      · exact leaves.unmarked (recorded.acts 3 _ rfl rfl)
  | undone s acted due =>
    rw [Situation.replay_flagged, World.replay_failed]
    cases acted with
    | true =>
      refine iff_of_false (not_stranded_of_unflagged ?_) fun ⟨_, leaves⟩ => ?_
      · exact s.podFlagOn_after_clearFlag false true
      · exact leaves.keeps (recorded.acts 4 _ rfl rfl)
    | false =>
      refine iff_of_true s.stranded_flagged ⟨s.eligible_eq.trans due.eligible, ?_⟩
      exact recorded.leavesFlag (recorded.not_acts s rfl) (recorded.not_acts s rfl)
  | idle _ _ quiet few failed =>
    refine iff_of_false ?_ fun ⟨due, leaves⟩ => ?_
    · rw [World.replay_of_quiet w quiet]
      exact not_stranded_of_unflagged unflagged
    · -- a call has failed, and with a candidate only one that could not act
      obtain ⟨s⟩ := candidate due
      obtain ⟨call, mem⟩ := failed tracks s
      obtain ⟨n, lt, at_n⟩ := List.mem_iff_getElem.mp mem
      have entry := (List.getElem?_eq_getElem lt).trans (congrArg some at_n)
      exact recorded.not_acts s entry (leaves.acts (Nat.lt_of_lt_of_le lt few))

/-- A decision that is dropped has left a flag without a marker exactly if it wrote the
flag, and the call it was waiting for has not undone that. -/
theorem stranded_iff_of_dropped {stage : Stage} {sent : List (Call × Bool)} {call : Call}
    {next : Reply call → Stage} {acted : Bool} (tracks : c.tracks = true)
    (unflagged : w.podFlagOn c t = false) (asks : stage.ask c t = some ⟨call, next⟩)
    (sit : Situation c t w stage sent) (late : ¬ Timely fates timeout (sent.length + 1))
    (recorded : Recorded c t w fates timeout (sent ++ [(call, acted)])) :
    (w.replay (sent ++ [(call, acted)])).Stranded c t ↔
      w.eligible c t = true ∧ LeavesFlag fates timeout := by
  cases sit with
  | fetch | look =>
    -- it has only read, and the flag would have been written after the deadline
    cases asks
    refine iff_of_false ?_ fun ⟨_, leaves⟩ => not_acts_of_late late (by simp) leaves.flags
    rw [World.replay_of_quiet w (by simp [Call.isPatch])]
    exact not_stranded_of_unflagged unflagged
  | unflag s _ flagged =>
    rw [s.podFlagOn_eq] at unflagged
    cases flagged.symm.trans unflagged
  | flag s due =>
    cases asks
    cases acted with
    | true =>
      rw [Situation.replay_flagged, World.replay_nil]
      refine iff_of_true s.stranded_flagged ⟨s.eligible_eq.trans due.eligible, ?_⟩
      exact recorded.leavesFlag (not_acts_of_late late (by simp)) (not_acts_of_late late (by simp))
    | false =>
      refine iff_of_false ?_ fun ⟨_, leaves⟩ => recorded.not_acts s rfl leaves.flags
      rw [Situation.replay_readings]
      exact not_stranded_of_unflagged unflagged
  | mark s _ _ undue =>
    cases asks
    rw [Situation.replay_readings]
    refine iff_of_false ?_ fun ⟨due, _⟩ => ?_
    · cases acted with
      | true =>
        rw [World.replay_acted, World.replay_nil, s.after_setMarker]
        exact not_stranded_of_marked (s.markerOn_state true false)
      | false => exact not_stranded_of_unflagged unflagged
    · rw [s.eligible_eq] at due
      cases due.symm.trans undue
  | markUntracked _ _ _ untracked => cases tracks.symm.trans untracked
  | markFlagged s due =>
    cases asks
    cases acted with
    | true =>
      refine iff_of_false (not_stranded_of_marked ?_) fun ⟨_, leaves⟩ => ?_
      · rw [Situation.replay_marked]
        exact s.markerOn_state true true
      · exact leaves.unmarked (recorded.acts 3 _ rfl rfl)
    | false =>
      -- nothing comes after the patch of the pod, so the flag is not taken back either
      rw [List.append_assoc, List.singleton_append] at recorded ⊢
      rw [Situation.replay_flagged]
      refine iff_of_true s.stranded_flagged ⟨s.eligible_eq.trans due.eligible, ?_⟩
      exact recorded.leavesFlag (recorded.not_acts s rfl) (not_acts_of_late late (by simp))
  | rollBack s due =>
    cases asks
    rw [List.append_assoc (readings c t s.tracker)] at recorded ⊢
    show (w.replay (readings c t s.tracker ++ (.setFlag c t s.tracker, true) ::
      [(.setMarker c t, false), (.clearFlag c t s.tracker, acted)])).Stranded c t ↔ _
    rw [Situation.replay_flagged, World.replay_failed]
    cases acted with
    | true =>
      refine iff_of_false (not_stranded_of_unflagged ?_) fun ⟨_, leaves⟩ => ?_
      · exact s.podFlagOn_after_clearFlag false true
      · exact leaves.keeps (recorded.acts 4 _ rfl rfl)
    | false =>
      refine iff_of_true s.stranded_flagged ⟨s.eligible_eq.trans due.eligible, ?_⟩
      exact recorded.leavesFlag (recorded.not_acts s rfl) (recorded.not_acts s rfl)
  | moved | requested | undone | idle => cases asks

end

/-- A decision about a pod that is neither marked nor flagged leaves it flagged and not
marked exactly if the flag is due and written, and what should follow does not act; and
exactly then the next eviction is answered that the pod has moved. -/
theorem stranded_iff (c : Settings) (t : Target) (tracks : c.tracks = true) (w : World)
    (pod : Pod) (found : w.pods.get? t = some pod) (selected : c.selects pod = true)
    (unmarked : c.markerIsOn pod = false) (unflagged : w.podFlagOn c t = false)
    (fates : Nat → Fate) (timeout : Nat) :
    ((decideWithin c t fates timeout w).2.world.Stranded c t ↔
      w.eligible c t = true ∧ LeavesFlag fates timeout) ∧
    (((decideEviction c t).result (World.perform none)
        (decideWithin c t fates timeout w).2.world).1 = .deny .podRescheduledWithSameName ↔
      w.eligible c t = true ∧ LeavesFlag fates timeout) := by
  have candidate (due : w.eligible c t = true) : Nonempty (Candidate c t w) := by
    rw [World.eligible, found, Option.any_some] at due
    exact Candidate.exists_of_tracked found selected unmarked due
  have leaves : (decideWithin c t fates timeout w).2.world =
      w.replay (decideWithin c t fates timeout w).2.sent ∧
      ((decideWithin c t fates timeout w).2.world.Stranded c t ↔
        w.eligible c t = true ∧ LeavesFlag fates timeout) := by
    have passed := passage c t w fates timeout
    generalize decideWithin c t fates timeout w = outcome at passed ⊢
    cases passed with
    | ended sit recorded =>
      exact ⟨rfl, stranded_iff_of_ended tracks unflagged candidate sit recorded⟩
    | dropped asks sit late _ recorded =>
      exact ⟨rfl, stranded_iff_of_dropped tracks unflagged asks sit late recorded⟩
  obtain ⟨pod', found', alike⟩ :=
    w.pod_replay found (decideWithin c t fates timeout w).2.sent
  rw [← leaves.1] at found'
  refine ⟨leaves.2, ?_⟩
  rw [result_moved_iff tracks, ← leaves.2, World.Stranded, and_comm (b := _ = false)]
  exact and_iff_right ⟨pod', found', (alike.selects c).trans selected⟩

/-- The fates of calls of which number `n` is never answered, and all others at once. -/
def stallAt (n : Nat) : Nat → Fate :=
  fun k => ⟨if k = n then none else some 0, none, false⟩

/-- The marker is waited for in vain: the flag stays, and the next eviction is answered
that the pod has moved. -/
theorem stranded_of_stalled_marker :
    (decideWithin .default Sample.db (stallAt 3) 10000 Sample.world).2.world.Stranded
        .default Sample.db ∧
      ((decideEviction .default Sample.db).result (World.perform none)
        (decideWithin .default Sample.db (stallAt 3) 10000 Sample.world).2.world).1 =
      .deny .podRescheduledWithSameName := by
  have waits (n : Nat) (few : n ≤ 3) : Timely (stallAt 3) 10000 n := by
    match n, few with
    | 0, _ => exact ⟨0, rfl, by decide⟩
    | 1, _ => exact ⟨0, rfl, by decide⟩
    | 2, _ => exact ⟨0, rfl, by decide⟩
    | 3, _ => exact ⟨0, rfl, by decide⟩
  have late : ¬ Timely (stallAt 3) 10000 4 := by
    rintro ⟨used, all, -⟩
    cases all
  have leaves : LeavesFlag (stallAt 3) 10000 := by
    refine ⟨⟨waits 0 (by decide), rfl, .inl (waits 1 (by decide))⟩,
      ⟨waits 1 (by decide), rfl, .inl (waits 2 (by decide))⟩,
      ⟨waits 2 (by decide), rfl, .inl (waits 3 (by decide))⟩,
      fun acts => ?_, not_acts_of_late late (by decide)⟩
    rcases acts.2.2 with timely | early
    · exact late timely
    · cases early
  have due : Sample.world.eligible .default Sample.db = true := by decide
  obtain ⟨strands, answers⟩ := stranded_iff .default Sample.db rfl Sample.world Sample.fresh rfl
    (by decide) (by decide) (by decide) (stallAt 3) 10000
  exact ⟨strands.mpr ⟨due, leaves⟩, answers.mpr ⟨due, leaves⟩⟩

/-- Without a failing call, a deadline alone can leave a flag without a marker, and make the
next eviction answer that a pod has moved which never did. -/
theorem exists_stranded : ∃ (fates : Nat → Fate) (timeout : Nat),
    (∀ n, (fates n).failure = none) ∧
      (decideWithin .default Sample.db fates timeout Sample.world).2.world.Stranded
        .default Sample.db ∧
      ((decideEviction .default Sample.db).result (World.perform none)
        (decideWithin .default Sample.db fates timeout Sample.world).2.world).1 =
      .deny .podRescheduledWithSameName :=
  ⟨stallAt 3, 10000, fun _ => rfl, ⟨by decide, by decide⟩, by decide⟩

end EvictionGate
