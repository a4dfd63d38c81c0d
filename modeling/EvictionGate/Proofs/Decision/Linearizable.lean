import EvictionGate.Proofs.Decision.Course
import Mathlib.Data.List.FinRange

/-!
# Decisions about one pod, side by side

Decisions about one pod that take turns are linearizable if some serial order of them gives
each the same status and leaves the same annotations. A decision that has read the pod
before it was marked may read the tracking object after it was flagged; it takes the flag
for that of an earlier pod, takes it back and answers that the pod has moved. Such
sightings are all that stands in the way:

Results:
1. `linearizable_iff`: a run is linearizable exactly if no decision finds a flag, but for
   the first one if the flag was there to begin with. If no flag was, no decision answers
   that the pod has moved exactly if none finds a flag, and the pod then ends marked and,
   if that is due, flagged.
2. `not_linearizable`: two decisions about a pod without a flag can fail to be.
-/

namespace EvictionGate

/-- `w.SameAnnotations v`: every pod and every tracking object has the same annotations in both
worlds. -/
def World.SameAnnotations (w v : World) : Prop :=
  (∀ t key, (w.pods.get? t).bind (·.annotationAt? key) =
    (v.pods.get? t).bind (·.annotationAt? key)) ∧
  ∀ place key, (w.tracking.get? place).bind (·.annotationAt? key) =
    (v.tracking.get? place).bind (·.annotationAt? key)

theorem World.SameAnnotations.of_eq {w v : World} (h : w = v) : w.SameAnnotations v := by
  subst h
  exact ⟨fun _ _ => rfl, fun _ _ => rfl⟩

/-- The decision about `t`, waiting for the reply to its first call. -/
def evicting (c : Settings) (t : Target) : Runner := .awake (decideEviction c t).settle.2

/-- `Runner.interleave` of decisions about `t` whose calls do not fail, with one turn for each
entry of a list. -/
def sideBySide (c : Settings) (t : Target) {n : Nat} (order : List (Fin n)) (w : World) :
    (Fin n → Runner) × World :=
  Runner.interleave (order.map fun a => ⟨a, none⟩) (fun _ => evicting c t) w

/-- The run `sideBySide c t order w` gives each decision the `Verdict.status?` that it has in the
run `serially c t serial w`, for some order `serial`, and leaves the same annotations. -/
def Linearizable (c : Settings) (t : Target) {n : Nat} (order : List (Fin n)) (w : World) :
    Prop :=
  ∃ serial : List (Fin n), serial.Perm (List.finRange n) ∧
    (sideBySide c t order w).2.SameAnnotations (serially c t serial w).2 ∧
    ∀ i, ((sideBySide c t order w).1 i).verdict?.map Verdict.status? =
      ((serially c t serial w).1 i).map Verdict.status?

variable {c : Settings} {t : Target} {w : World}

/-! ## Linearizability -/

theorem Stage.HasFound.answers {v : World} {stage : Stage} (found : HasFound c v stage)
    (complete : stage.verdict?.isSome = true) :
    stage.verdict? = some (.deny .podRescheduledWithSameName) := by
  cases stage with
  | ended v => exact congrArg some found
  | _ => cases complete

section

variable {n : Nat} {order : List (Fin n)}

variable (c t w order) in
/-- The stages at the end of a run in which no call fails, and the world after it. -/
abbrev outcome : (Fin n → Stage) × World :=
  Stage.interleave c (fun _ => t) (Stage.calm order) (fun _ => .fetch) w

theorem sideBySide_eq : sideBySide c t order w =
    (fun i => .awake (((outcome c t w order).1 i).standing c t), (outcome c t w order).2) :=
  Stage.interleave_standing c (fun _ => t) (Stage.calm order) (fun _ => .fetch) w

theorem verdict_sideBySide (i : Fin n) :
    ((sideBySide c t order w).1 i).verdict? = ((outcome c t w order).1 i).verdict? := by
  rw [sideBySide_eq]
  exact Stage.verdict?_standing c t _

theorem sightings_evicting : Runner.sightings t order (fun _ => evicting c t) w =
    Stage.sightings c t order (fun _ => .fetch) w :=
  Stage.sightings_standing c t order (fun _ => .fetch) w

/-- A serial order that agrees with a run at its end makes it linearizable. -/
theorem linearizable_of_serial (serial : List (Fin n)) (all : serial.Perm (List.finRange n))
    (leaves : (outcome c t w order).2 = (serially c t serial w).2)
    (answers : ∀ i, ((outcome c t w order).1 i).verdict?.map Verdict.status? =
      ((serially c t serial w).1 i).map Verdict.status?) : Linearizable c t order w := by
  refine ⟨serial, all, .of_eq ?_, fun i => ?_⟩
  · rw [sideBySide_eq]
    exact leaves
  · rw [verdict_sideBySide]
    exact answers i

variable (complete : ∀ i, ((outcome c t w order).1 i).verdict?.isSome = true)
include complete

/-- Decisions that only read all come to their verdict. -/
theorem Idle.verdicts {v : Verdict} (idle : Idle c t w v .fetch) (i : Fin n) :
    ((outcome c t w order).1 i).verdict? = some v := by
  have at_end := (Idle.interleave order fun _ => idle).2.2 i
  have done := complete i
  cases at_stage : (outcome c t w order).1 i with
  | ended u =>
    rw [at_stage] at at_end
    exact congrArg some at_end.eq_of_ended
  | _ =>
    rw [at_stage] at done
    cases done

theorem Idle.linearizable {v : Verdict} (idle : Idle c t w v .fetch) :
    Linearizable c t order w := by
  obtain ⟨leaves, answers⟩ := idle.serially (List.finRange n)
  refine linearizable_of_serial (List.finRange n) (.refl _) ?_ fun i => ?_
  · exact (Idle.interleave order fun _ => idle).2.1.trans leaves.symm
  · rw [idle.verdicts complete i, answers i (List.mem_finRange i)]

namespace Candidate

variable (s : Candidate c t w) (tracks : c.tracks = true)
include tracks

/-- If no flag is there and none is found, every decision is answered "try again", and
the pod ends marked and, if that is due, flagged. -/
theorem outcome_unflagged (unflagged : s.flagged = false)
    (blind : Stage.sightings c t order (fun _ => .fetch) w = 0) :
    (outcome c t w order).2 =
        (if List.finRange n = [] then s.state false false else s.state true s.eligible) ∧
      ∀ i, ((outcome c t w order).1 i).verdict?.map Verdict.status? =
        some Verdict.tryAgain := by
  have early : s.Underway (fun _ : Fin n => False) false false (fun _ => .fetch) :=
    .start s (fun _ _ => .inl rfl) (fun _ h => h.elim)
  obtain ⟨marked, flagged, leaves, under⟩ :=
    early.run tracks unflagged order (by rwa [s.state_start])
  rw [s.state_start] at leaves under
  obtain ⟨none_acts, some_act, answers⟩ := under.finish complete
  refine ⟨leaves.trans ?_, fun i => answers i id⟩
  cases n with
  | zero => exact none_acts fun i => i.elim0
  | succ n =>
    rw [if_neg (List.ne_nil_of_mem (List.mem_finRange 0))]
    exact some_act ⟨0, id⟩

theorem linearizable_unflagged (unflagged : s.flagged = false) :
    Linearizable c t order w ↔ Stage.sightings c t order (fun _ => .fetch) w = 0 := by
  refine ⟨fun ⟨serial, all, _, answers⟩ => ?_, fun blind => ?_⟩
  · -- whoever finds a flag says that the pod has moved, which no serial order answers
    refine Nat.eq_zero_of_not_pos fun seen => ?_
    obtain ⟨i, -, found⟩ := Stage.exists_hasFound order seen
    have serial_answer := (s.serially_unflagged tracks unflagged serial).2 i
      (all.mem_iff.mpr (List.mem_finRange i))
    have answer := answers i
    rw [verdict_sideBySide, found.answers (complete i), serial_answer] at answer
    exact Verdict.gone_ne_tryAgain (Option.some.inj answer)
  · obtain ⟨leaves, answers⟩ := s.outcome_unflagged complete tracks unflagged blind
    obtain ⟨serial_leaves, serial_answers⟩ :=
      s.serially_unflagged tracks unflagged (List.finRange n)
    refine linearizable_of_serial (List.finRange n) (.refl _) ?_ fun i => ?_
    · rw [leaves, serial_leaves]
    · rw [answers, serial_answers i (List.mem_finRange i)]

theorem linearizable_flagged (found : s.flagged = true) :
    Linearizable c t order w ↔ Stage.sightings c t order (fun _ => .fetch) w ≤ 1 := by
  refine ⟨fun ⟨serial, all, _, answers⟩ => ?_, fun once => ?_⟩
  · refine Nat.le_of_not_lt fun twice => ?_
    obtain ⟨i, j, distinct, found_i, found_j⟩ := Stage.exists_hasFound_pair order twice
    cases serial with
    | nil => exact absurd (all.mem_iff.mpr (List.mem_finRange i)) List.not_mem_nil
    | cons a rest =>
      -- one of the two is not the first in the serial order, so it is to try again there
      have later (k : Fin n) (hk : k ≠ a) (found_k : Stage.HasFound c
          (outcome c t w order).2 ((outcome c t w order).1 k)) : False := by
        have serial_answer := (s.serially_flagged tracks found a rest).2.2 k hk
          ((List.mem_cons.mp (all.mem_iff.mpr (List.mem_finRange k))).resolve_left hk)
        have answer := answers k
        rw [verdict_sideBySide, found_k.answers (complete k), serial_answer] at answer
        exact Verdict.gone_ne_tryAgain (Option.some.inj answer)
      by_cases hi : i = a
      · exact later j (fun hj => distinct (hi.trans hj.symm)) found_j
      · exact later i hi found_i
  · rcases run_flagged (s := s) tracks found (fun _ => .inl rfl) order once complete with
      ⟨nobody, leaves⟩ | ⟨a, marked, flagged, leaves, under⟩
    · have empty : List.finRange n = [] :=
        List.eq_nil_iff_forall_not_mem.mpr fun i _ => nobody.elim i
      refine linearizable_of_serial [] (by rw [empty]) leaves fun i => nobody.elim i
    · obtain ⟨none_acts, some_act, answers⟩ := under.finish complete
      -- the serial order in which the decision that found the flag comes first
      obtain ⟨serial_leaves, first, serial_answers⟩ :=
        s.serially_flagged tracks found a ((List.finRange n).erase a)
      refine linearizable_of_serial (a :: (List.finRange n).erase a)
        (List.perm_cons_erase (List.mem_finRange a)).symm ?_ fun i => ?_
      · rw [leaves, serial_leaves]
        split
        · next alone =>
          refine none_acts fun i => ?_
          refine Decidable.byContradiction fun hi => ?_
          have rest := (List.mem_erase_of_ne hi).mpr (List.mem_finRange i)
          rw [alone] at rest
          exact absurd rest List.not_mem_nil
        · next others =>
          obtain ⟨i, rest⟩ := List.exists_mem_of_ne_nil _ others
          exact some_act ⟨i, ((List.nodup_finRange n).mem_erase_iff.mp rest).1⟩
      · by_cases hi : i = a
        · rw [hi, first, under.answered a rfl]
          rfl
        · rw [answers i hi, serial_answers i hi
            ((List.mem_erase_of_ne hi).mpr (List.mem_finRange i))]

/-- If no flag is there and one is found, its finder answers that the pod has moved. -/
theorem answers_moved_iff (unflagged : s.flagged = false) :
    (∀ i, ((outcome c t w order).1 i).verdict? ≠ some (.deny .podRescheduledWithSameName)) ↔
      Stage.sightings c t order (fun _ => .fetch) w = 0 := by
  refine ⟨fun others => ?_, fun blind i moved => ?_⟩
  · refine Nat.eq_zero_of_not_pos fun seen => ?_
    obtain ⟨i, -, found⟩ := Stage.exists_hasFound order seen
    exact others i (found.answers (complete i))
  · have answer := (s.outcome_unflagged complete tracks unflagged blind).2 i
    rw [moved] at answer
    exact Verdict.gone_ne_tryAgain (Option.some.inj answer)

theorem marked_outcome (unflagged : s.flagged = false) (some_run : 0 < n)
    (blind : Stage.sightings c t order (fun _ => .fetch) w = 0) :
    (outcome c t w order).2 = s.state true s.eligible := by
  rw [(s.outcome_unflagged complete tracks unflagged blind).1,
    if_neg (List.ne_nil_of_mem (List.mem_finRange ⟨0, some_run⟩))]

end Candidate

end

/-- A complete run of decisions about one pod is linearizable exactly if none finds a flag,
but for the first one if the flag was there to begin with. If it was not, exactly then no
decision answers that the pod has moved, and the pod ends marked and, if that is due,
flagged. -/
theorem linearizable_iff (c : Settings) (t : Target) (tracks : c.tracks = true) {n : Nat}
    (order : List (Fin n)) (w : World)
    (complete : ∀ i, ((sideBySide c t order w).1 i).verdict?.isSome = true) :
    (Linearizable c t order w ↔
      Runner.sightings t order (fun _ => evicting c t) w ≤ (w.podFlagOn c t).toNat) ∧
    ∀ pod, w.pods.get? t = some pod → c.selects pod = true → c.markerIsOn pod = false →
      w.podFlagOn c t = false →
      ((∀ i, ((sideBySide c t order w).1 i).verdict? ≠
          some (.deny .podRescheduledWithSameName)) ↔
        Runner.sightings t order (fun _ => evicting c t) w = 0) ∧
      ∀ i o, c.trackerKind.trackerOf? pod = some i →
        w.tracking.get? ⟨c.trackerKind, i⟩ = some o → c.trackerKind.recreatesPods o = true →
        Runner.sightings t order (fun _ => evicting c t) w = 0 → 0 < n →
        (sideBySide c t order w).2.markerOn c t = true ∧
          (sideBySide c t order w).2.podFlagOn c t = true := by
  simp only [verdict_sideBySide] at complete ⊢
  rw [sightings_evicting]
  refine ⟨?_, fun pod found selected unmarked unflagged => ⟨?_, ?_⟩⟩
  · rcases idle_or_candidate c t tracks w with ⟨v, -, idle⟩ | ⟨⟨s⟩⟩
    · rw [(Idle.interleave order fun _ => idle).1]
      exact iff_of_true (idle.linearizable complete) (Nat.zero_le _)
    · rw [s.podFlagOn_eq]
      cases flagged : s.flagged with
      | false =>
        rw [s.linearizable_unflagged complete tracks flagged]
        exact Nat.le_zero.symm
      | true => exact s.linearizable_flagged complete tracks flagged
  · rcases idle_or_candidate c t tracks w with ⟨v, other, idle⟩ | ⟨⟨s⟩⟩
    · refine iff_of_true (fun i => ?_) (Idle.interleave order fun _ => idle).1
      rw [idle.verdicts complete i]
      exact fun same => other (Option.some.inj same)
    · rw [s.podFlagOn_eq] at unflagged
      exact s.answers_moved_iff complete tracks unflagged
  · intro i o tracked present eligible blind some_run
    let s : Candidate c t w := ⟨pod, i, o, found, selected, unmarked, tracked, present⟩
    have due : s.eligible = true := eligible
    rw [s.podFlagOn_eq] at unflagged
    rw [sideBySide_eq, s.marked_outcome complete tracks unflagged some_run blind, due,
      s.markerOn_state, s.podFlagOn_state]
    exact ⟨rfl, rfl⟩

/-- Two decisions, of which the second comes when the first has marked the pod. -/
theorem linearizable_one_after_another :
    Linearizable .default Sample.db ([0, 0, 0, 0, 1] : List (Fin 2)) Sample.world ∧
      (∀ i : Fin 2, ((sideBySide .default Sample.db [0, 0, 0, 0, 1] Sample.world).1 i).verdict? ≠
        some (.deny .podRescheduledWithSameName)) ∧
      (sideBySide .default Sample.db ([0, 0, 0, 0, 1] : List (Fin 2)) Sample.world).2.markerOn
        .default Sample.db = true ∧
      (sideBySide .default Sample.db ([0, 0, 0, 0, 1] : List (Fin 2)) Sample.world).2.podFlagOn
        .default Sample.db = true := by
  have tracks : Settings.default.tracks = true := rfl
  have complete : ∀ i : Fin 2, ((sideBySide .default Sample.db [0, 0, 0, 0, 1]
      Sample.world).1 i).verdict?.isSome = true := by decide
  have blind : Runner.sightings Sample.db ([0, 0, 0, 0, 1] : List (Fin 2))
      (fun _ => evicting .default Sample.db) Sample.world = 0 := by decide
  obtain ⟨linearizable, answers⟩ :=
    linearizable_iff .default Sample.db tracks [0, 0, 0, 0, 1] Sample.world complete
  obtain ⟨unmoved, ends⟩ := answers Sample.fresh rfl (by decide) (by decide) (by decide)
  exact ⟨linearizable.mpr (by decide), unmoved.mpr blind,
    ends ⟨"main", some "prod"⟩ Sample.cluster rfl rfl (by decide) blind (by decide)⟩

/-- The first decision flags the pod after the second has read it. The second takes the
flag for an old one, takes it back and answers that the pod has moved, and then the first
marks the pod. -/
theorem not_linearizable :
    (∀ i : Fin 2, ((sideBySide .default Sample.db [0, 1, 0, 0, 1, 1, 0]
        Sample.world).1 i).verdict?.isSome = true) ∧
      ¬ Linearizable .default Sample.db ([0, 1, 0, 0, 1, 1, 0] : List (Fin 2)) Sample.world := by
  refine ⟨by decide, ?_⟩
  let s : Candidate .default Sample.db Sample.world :=
    ⟨Sample.fresh, _, Sample.cluster, rfl, by decide, by decide, rfl, rfl⟩
  rw [s.linearizable_unflagged (by decide) rfl (by decide)]
  decide

end EvictionGate
