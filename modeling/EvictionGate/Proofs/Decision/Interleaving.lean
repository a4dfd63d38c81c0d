import EvictionGate.Proofs.Decision.Stage
import Mathlib.Logic.Function.Basic

/-!
# Decisions side by side

Several decisions share one world and take turns, in an order that nothing restricts. A
turn is one call, which acts at once or fails without effect; a turn of a decision that has
ended does nothing. Rounds in the order of a list are one such order among all.

Results:
1. `interleave_standing`: decisions about evictions take their turns stage by stage.
2. `sightings_standing`: so does the count of the calls that find a flag.
3. `exists_hasFound`, `exists_hasFound_pair`: a decision that finds a flag answers that the
   pod has moved, and no decision finds a flag twice.
-/

namespace EvictionGate

/-- A turn of the decision `who`, and the failure of the call that it makes in it, if the call
fails. -/
structure Slot (ι : Type) where
  who : ι
  failure : Option GateError

/-- Two decisions side by side are called `0` and `1`. -/
instance neZero_two : @NeZero Nat Zero.ofOfNat0 2 := ⟨by decide⟩

namespace Runner

variable {ι : Type} [DecidableEq ι]

/-- `Runner.turn` for each slot of a list, in one world. -/
def interleave : List (Slot ι) → (ι → Runner) → World → (ι → Runner) × World
  | [], rs, w => (rs, w)
  | a :: turns, rs, w =>
    let next := (rs a.who).turn (World.perform a.failure) 0 w
    interleave turns (Function.update rs a.who next.1) next.2.2

/-- Whether the call that a decision waits for is `getTracker`, and the object it reads has the
flag of `t`. -/
def findsFlag (t : Target) (r : Runner) (w : World) : Bool :=
  match r with
  | .awake (.waiting (.getTracker k i) _) => w.flagOn ⟨k, i⟩ t.flagKey
  | _ => false

/-- In how many turns `findsFlag` holds, if no call fails. -/
def sightings (t : Target) : List ι → (ι → Runner) → World → Nat
  | [], _, _ => 0
  | a :: order, rs, w =>
    let next := (rs a).turn (World.perform none) 0 w
    (if (rs a).findsFlag t w then 1 else 0)
      + sightings t order (Function.update rs a next.1) next.2.2

end Runner

namespace Stage

variable {ι : Type} [DecidableEq ι] (c : Settings) (target : ι → Target) (t : Target)

/-- `Stage.turn` for each slot of a list, in one world. -/
def interleave : List (Slot ι) → (ι → Stage) → World → (ι → Stage) × World
  | [], stages, w => (stages, w)
  | a :: turns, stages, w =>
    let next := (stages a.who).turn c (target a.who) a.failure w
    interleave turns (Function.update stages a.who next.1) next.2

/-- The verdict of a decision that has ended. -/
def verdict? : Stage → Option Verdict
  | ended v => some v
  | _ => none

/-- Whether the stage is `look`, and the object it reads has the flag of `t`. -/
def findsFlag (stage : Stage) (w : World) : Bool :=
  match stage with
  | look i => w.flagOn ⟨c.trackerKind, i⟩ t.flagKey
  | _ => false

/-- In how many turns `findsFlag` holds, if no call fails. -/
def sightings : List ι → (ι → Stage) → World → Nat
  | [], _, _ => 0
  | a :: order, stages, w =>
    let next := (stages a).turn c t none w
    (if (stages a).findsFlag c t w then 1 else 0)
      + sightings order (Function.update stages a next.1) next.2

theorem verdict?_eq_some {stage : Stage} {v : Verdict} :
    stage.verdict? = some v ↔ stage = .ended v := by
  cases stage <;> simp [verdict?]

theorem verdict?_standing (stage : Stage) :
    (Runner.awake (stage.standing c t)).verdict? = stage.verdict? := by
  cases stage <;> rfl

theorem findsFlag_standing (stage : Stage) (w : World) :
    (Runner.awake (stage.standing c t)).findsFlag t w = stage.findsFlag c t w := by
  cases stage <;> rfl

omit [DecidableEq ι] in
theorem update_standing [DecidableEq ι] (stages : ι → Stage) (a : ι) (stage : Stage) :
    (Function.update (fun i => Runner.awake ((stages i).standing c (target i))) a
        (.awake (stage.standing c (target a)))) =
      fun i => Runner.awake ((Function.update stages a stage i).standing c (target i)) := by
  funext i
  by_cases h : i = a
  · subst h
    simp
  · simp [Function.update_of_ne h]

/-- Decisions about evictions that take turns go from stage to stage. -/
theorem interleave_standing (turns : List (Slot ι)) (stages : ι → Stage) (w : World) :
    Runner.interleave turns (fun i => .awake ((stages i).standing c (target i))) w =
      (fun i => .awake (((interleave c target turns stages w).1 i).standing c (target i)),
        (interleave c target turns stages w).2) := by
  induction turns generalizing stages w with
  | nil => rfl
  | cons a turns ih =>
    obtain ⟨stands, leaves⟩ :=
      turn_standing c (target a.who) a.failure 0 (stages a.who) w
    simp only [Runner.interleave, interleave, stands, leaves, update_standing, ih]

/-- The calls that find a flag are counted stage by stage. -/
theorem sightings_standing (order : List ι) (stages : ι → Stage) (w : World) :
    Runner.sightings t order (fun i => .awake ((stages i).standing c t)) w =
      sightings c t order stages w := by
  induction order generalizing stages w with
  | nil => rfl
  | cons a order ih =>
    obtain ⟨stands, leaves⟩ := turn_standing c t none 0 (stages a) w
    simp only [Runner.sightings, sightings, stands, leaves, findsFlag_standing,
      update_standing c (fun _ => t), ih]

/-! ## Decisions that have found a flag -/

/-- A decision that has read the flag: it is at `unflag`, or has ended with
`podRescheduledWithSameName`. -/
def HasFound (w : World) : Stage → Prop
  | unflag i => (w.tracking.get? ⟨c.trackerKind, i⟩).isSome = true
  | ended v => v = .deny .podRescheduledWithSameName
  | _ => False

variable {c t} {w : World}

theorem HasFound.elsewhere {stage : Stage} (found : HasFound c w stage) (other : Stage) :
    HasFound c (other.turn c t none w).2 stage := by
  cases stage with
  | unflag i =>
    rcases turn_leaves c t other none w with same | ⟨call, -, -, leaves⟩
    · rw [same]
      exact found
    · rw [leaves]
      exact (w.isSome_tracking_after call _).trans found
  | ended v => exact found
  | _ => exact found.elim

theorem HasFound.turn {stage : Stage} (found : HasFound c w stage) :
    HasFound c (stage.turn c t none w).2 (stage.turn c t none w).1 := by
  cases stage with
  | unflag i =>
    obtain ⟨o, present⟩ := Option.isSome_iff_exists.mp found
    rw [turn_unflag c t present]
    rfl
  | ended v => exact found
  | _ => exact found.elim

theorem not_hasFound_of_findsFlag {stage : Stage} (finds : stage.findsFlag c t w = true) :
    ¬ HasFound c w stage := by
  cases stage with
  | look i => exact id
  | _ => cases finds

theorem hasFound_of_findsFlag {stage : Stage} (finds : stage.findsFlag c t w = true) :
    HasFound c (stage.turn c t none w).2 (stage.turn c t none w).1 := by
  cases stage with
  | look i =>
    simp only [findsFlag, World.flagOn, Option.any_eq_true] at finds
    obtain ⟨o, present, on⟩ := finds
    rw [turn_look c t present, ofObject, if_pos on]
    simp only [HasFound, present, Option.isSome_some]
  | _ => cases finds

/-- The slots of an order in which no call fails. -/
abbrev calm (order : List ι) : List (Slot ι) := order.map fun a => ⟨a, none⟩

variable {stages : ι → Stage}

theorem HasFound.update {a i : ι} (found : HasFound c w (stages i)) :
    HasFound c ((stages a).turn c t none w).2
      (Function.update stages a ((stages a).turn c t none w).1 i) := by
  by_cases h : i = a
  · subst h
    rw [Function.update_self]
    exact found.turn
  · rw [Function.update_of_ne h]
    exact found.elsewhere _

theorem HasFound.interleave {i : ι} (found : HasFound c w (stages i)) (order : List ι) :
    HasFound c (interleave c (fun _ => t) (calm order) stages w).2
      ((interleave c (fun _ => t) (calm order) stages w).1 i) := by
  induction order generalizing stages w with
  | nil => exact found
  | cons a order ih => exact ih found.update

/-- If a flag is found, then by a decision that had found none. -/
theorem exists_hasFound (order : List ι) (some_found : 0 < sightings c t order stages w) :
    ∃ i, ¬ HasFound c w (stages i) ∧
      HasFound c (interleave c (fun _ => t) (calm order) stages w).2
        ((interleave c (fun _ => t) (calm order) stages w).1 i) := by
  induction order generalizing stages w with
  | nil => exact absurd some_found (Nat.lt_irrefl 0)
  | cons a order ih =>
    cases finds : (stages a).findsFlag c t w with
    | true =>
      refine ⟨a, not_hasFound_of_findsFlag finds, HasFound.interleave ?_ order⟩
      rw [Function.update_self]
      exact hasFound_of_findsFlag finds
    | false =>
      simp only [sightings, finds] at some_found
      obtain ⟨i, before, after⟩ := ih (by simpa using some_found)
      exact ⟨i, fun found => before found.update, after⟩

/-- If flags are found twice, then by two decisions. -/
theorem exists_hasFound_pair (order : List ι)
    (two_found : 1 < sightings c t order stages w) :
    ∃ i j, i ≠ j ∧
      HasFound c (interleave c (fun _ => t) (calm order) stages w).2
        ((interleave c (fun _ => t) (calm order) stages w).1 i) ∧
      HasFound c (interleave c (fun _ => t) (calm order) stages w).2
        ((interleave c (fun _ => t) (calm order) stages w).1 j) := by
  induction order generalizing stages w with
  | nil => exact absurd two_found (Nat.not_lt_zero 1)
  | cons a order ih =>
    cases finds : (stages a).findsFlag c t w with
    | true =>
      have first : HasFound c ((stages a).turn c t none w).2
          (Function.update stages a ((stages a).turn c t none w).1 a) := by
        rw [Function.update_self]
        exact hasFound_of_findsFlag finds
      simp only [sightings, finds, if_true] at two_found
      obtain ⟨j, before, after⟩ := exists_hasFound order (Nat.pos_of_lt_add_right two_found)
      refine ⟨a, j, fun h => before (h ▸ first), first.interleave order, after⟩
    | false =>
      simp only [sightings, finds] at two_found
      exact ih (by simpa using two_found)

end Stage

end EvictionGate
