import EvictionGate.Proofs.Decision.Interleaving
import EvictionGate.Proofs.Decision.Serial
import Mathlib.Logic.IsEmpty.Basic

/-!
# Decisions about one pod that go well together

Decisions about one pod take turns, and none finds a flag that another has set. Then they
keep to one course: each only adds to what is set on the pod and its tracking object, the
flag before the marker. If the pod had a flag to begin with, the first decision that finds
it takes it back, and the others go on as if it had never been there.

Results:
1. `Idle.interleave`: decisions that only read leave everything as it is.
2. `Candidate.Underway.run`, `Candidate.Underway.finish`: where decisions come to that find
   no flag.
3. `Candidate.run_flagged`: where they come to if the flag is found once.
-/

namespace EvictionGate

variable {c : Settings} {t : Target} {w : World} {ι : Type} [DecidableEq ι]

/-! ## Decisions that only read -/

namespace Idle

variable {v : Verdict}

theorem eq_of_ended {u : Verdict} (idle : Idle c t w v (.ended u)) : u = v := by
  generalize at_end : Stage.ended u = stage at idle
  induction idle with
  | ended => exact Stage.ended.inj at_end
  | reads turns _ _ ih =>
    subst at_end
    exact ih (congrArg Prod.fst turns)

theorem turn {stage : Stage} (idle : Idle c t w v stage) :
    stage.findsFlag c t w = false ∧ (stage.turn c t none w).2 = w ∧
      Idle c t w v (stage.turn c t none w).1 := by
  cases idle with
  | ended => exact ⟨rfl, rfl, .ended⟩
  | reads turns blind rest =>
    rw [turns]
    refine ⟨?_, rfl, rest⟩
    cases stage with
    | look i => exact blind i rfl
    | _ => rfl

/-- Decisions that only read find no flag and leave the world alone. -/
theorem interleave (order : List ι) {stages : ι → Stage}
    (idle : ∀ i, Idle c t w v (stages i)) :
    Stage.sightings c t order stages w = 0 ∧
      (Stage.interleave c (fun _ => t) (Stage.calm order) stages w).2 = w ∧
      ∀ i, Idle c t w v ((Stage.interleave c (fun _ => t) (Stage.calm order) stages w).1 i) := by
  induction order generalizing stages with
  | nil => exact ⟨rfl, rfl, idle⟩
  | cons a order ih =>
    obtain ⟨blind, leaves, goes⟩ := (idle a).turn
    simp only [Stage.sightings, Stage.calm, List.map_cons, Stage.interleave, leaves, blind]
    have next := (Function.forall_update_iff stages (a := a) fun _ => Idle c t w v).mpr
      ⟨goes, fun i _ => idle i⟩
    obtain ⟨unseen, rest⟩ := ih next
    exact ⟨by simpa using unseen, rest⟩

end Idle

/-! ## Decisions that find no flag -/

namespace Candidate

variable (s : Candidate c t w)

/-- `OnCourse marked flagged stage`: a decision about the candidate that has found no flag may be
at `stage` in the world `s.state marked flagged`.

* `fetch`, `look`: it has patched nothing.
* `flag`, `mark`, `markFlagged`: it sets the flag if the candidate is `eligible`, and else only
  the marker.
* `ended`: the marker is set, and the verdict has the status `Verdict.tryAgain`. -/
inductive OnCourse (marked flagged : Bool) : Stage → Prop
  | fetch : OnCourse marked flagged .fetch
  | look : OnCourse marked flagged (.look s.tracker)
  | flag : s.eligible = true → OnCourse marked flagged (.flag s.tracker)
  | mark : s.eligible = false → OnCourse marked flagged (.mark none)
  | markFlagged : s.eligible = true → flagged = true →
      OnCourse marked flagged (.mark (some s.tracker))
  | ended {v : Verdict} : marked = true → v.status? = Verdict.tryAgain →
      OnCourse marked flagged (.ended v)

/-- `Balanced marked flagged`: in the world `s.state marked flagged` the flag is set only if the
candidate is `eligible`, and before the marker. -/
structure Balanced (marked flagged : Bool) : Prop where
  due : flagged = true → s.eligible = true
  first : marked = true → flagged = s.eligible

variable {s} {marked flagged : Bool}

theorem OnCourse.mono {marked' flagged' : Bool} (marks : marked = true → marked' = true)
    (flags : flagged = true → flagged' = true) {stage : Stage}
    (on : s.OnCourse marked flagged stage) : s.OnCourse marked' flagged' stage := by
  cases on with
  | fetch => exact .fetch
  | look => exact .look
  | flag due => exact .flag due
  | mark undue => exact .mark undue
  | markFlagged due on => exact .markFlagged due (flags on)
  | ended on status => exact .ended (marks on) status

/-- A turn that finds no flag keeps a decision on course, and only adds to what is set. -/
theorem OnCourse.turn (tracks : c.tracks = true) (unflagged : s.flagged = false)
    (balanced : s.Balanced marked flagged) {stage : Stage}
    (on : s.OnCourse marked flagged stage)
    (blind : stage.findsFlag c t (s.state marked flagged) = false) :
    ∃ marked' flagged', (stage.turn c t none (s.state marked flagged)).2 =
        s.state marked' flagged' ∧
      s.OnCourse marked' flagged' (stage.turn c t none (s.state marked flagged)).1 ∧
      s.Balanced marked' flagged' ∧ (marked = true → marked' = true) ∧
      (flagged = true → flagged' = true) := by
  cases on with
  | fetch =>
    rw [s.turn_fetch tracks]
    refine ⟨marked, flagged, rfl, ?_, balanced, id, id⟩
    cases marked with
    | false => exact .look
    | true => exact .ended rfl rfl
  | look =>
    rw [Stage.findsFlag, s.flagOn_state, unflagged, Bool.or_false] at blind
    subst blind
    rw [s.turn_look unflagged]
    refine ⟨marked, false, rfl, ?_, balanced, id, id⟩
    cases due : s.eligible with
    | false => exact .mark due
    | true => exact .flag due
  | flag due =>
    rw [s.turn_flag]
    exact ⟨marked, true, rfl, .markFlagged due rfl, ⟨fun _ => due, fun _ => due.symm⟩, id,
      fun _ => rfl⟩
  | mark undue =>
    rw [s.turn_mark]
    refine ⟨true, flagged, rfl, .ended rfl rfl, ⟨balanced.due, fun _ => ?_⟩, fun _ => rfl, id⟩
    cases flagged with
    | false => exact undue.symm
    | true => exact (balanced.due rfl).symm
  | markFlagged due on =>
    rw [s.turn_mark]
    exact ⟨true, flagged, rfl, .ended rfl rfl, ⟨balanced.due, fun _ => on.trans due.symm⟩,
      fun _ => rfl, id⟩
  | ended on status => exact ⟨marked, flagged, rfl, .ended on status, balanced, id, id⟩

variable (s)

/-- `Underway moved marked flagged stages`: the decisions of `moved` have ended with
`podRescheduledWithSameName`, all others are `OnCourse` in the world `s.state marked flagged`, and
as long as there are no others nothing has been patched. -/
structure Underway (moved : ι → Prop) (marked flagged : Bool) (stages : ι → Stage) : Prop where
  balanced : s.Balanced marked flagged
  course : ∀ i, ¬ moved i → s.OnCourse marked flagged (stages i)
  answered : ∀ i, moved i → stages i = .ended (.deny .podRescheduledWithSameName)
  still : (∀ i, moved i) → marked = false ∧ flagged = false

omit [DecidableEq ι] in
/-- The start: decisions that have at most read the pod. -/
theorem Underway.start {moved : ι → Prop} {stages : ι → Stage}
    (early : ∀ i, ¬ moved i → stages i = .fetch ∨ stages i = .look s.tracker)
    (answered : ∀ i, moved i → stages i = .ended (.deny .podRescheduledWithSameName)) :
    s.Underway moved false false stages where
  balanced := ⟨fun h => absurd h Bool.false_ne_true, fun h => absurd h Bool.false_ne_true⟩
  course i hi := by
    rcases early i hi with h | h
    · rw [h]
      exact .fetch
    · rw [h]
      exact .look
  answered := answered
  still _ := ⟨rfl, rfl⟩

variable {s} {moved : ι → Prop} {stages : ι → Stage}

theorem Underway.turn (tracks : c.tracks = true) (unflagged : s.flagged = false)
    (under : s.Underway moved marked flagged stages) (a : ι)
    (blind : (stages a).findsFlag c t (s.state marked flagged) = false) :
    ∃ marked' flagged', ((stages a).turn c t none (s.state marked flagged)).2 =
        s.state marked' flagged' ∧
      s.Underway moved marked' flagged'
        (Function.update stages a ((stages a).turn c t none (s.state marked flagged)).1) := by
  by_cases done : moved a
  · have ended := under.answered a done
    refine ⟨marked, flagged, by rw [ended]; rfl, ?_⟩
    rw [ended, Stage.turn_ended, ← ended, Function.update_eq_self]
    exact under
  · obtain ⟨marked', flagged', leaves, goes, balanced, marks, flags⟩ :=
      (under.course a done).turn tracks unflagged under.balanced blind
    refine ⟨marked', flagged', leaves, balanced, ?_, ?_, fun all => absurd (all a) done⟩
    · refine (Function.forall_update_iff stages
        fun i stage => ¬ moved i → s.OnCourse marked' flagged' stage).mpr ⟨fun _ => goes, ?_⟩
      intro i _ hi
      exact (under.course i hi).mono marks flags
    · refine (Function.forall_update_iff stages fun i stage => moved i →
        stage = .ended (.deny .podRescheduledWithSameName)).mpr ⟨fun hi => absurd hi done, ?_⟩
      intro i _ hi
      exact under.answered i hi

/-- Decisions that find no flag stay on course to the end. -/
theorem Underway.run (tracks : c.tracks = true) (unflagged : s.flagged = false)
    (under : s.Underway moved marked flagged stages) (order : List ι)
    (blind : Stage.sightings c t order stages (s.state marked flagged) = 0) :
    ∃ marked' flagged',
      (Stage.interleave c (fun _ => t) (Stage.calm order) stages (s.state marked flagged)).2 =
        s.state marked' flagged' ∧
      s.Underway moved marked' flagged'
        (Stage.interleave c (fun _ => t) (Stage.calm order) stages
          (s.state marked flagged)).1 := by
  induction order generalizing stages marked flagged with
  | nil => exact ⟨marked, flagged, rfl, under⟩
  | cons a order ih =>
    simp only [Stage.sightings, Nat.add_eq_zero_iff] at blind
    have unseen : (stages a).findsFlag c t (s.state marked flagged) = false := by
      cases finds : (stages a).findsFlag c t (s.state marked flagged) with
      | false => rfl
      | true => simp [finds] at blind
    obtain ⟨marked', flagged', leaves, next⟩ := under.turn tracks unflagged a unseen
    rw [leaves] at blind
    simp only [Stage.calm, List.map_cons, Stage.interleave, leaves]
    exact ih next blind.2

omit [DecidableEq ι] in
/-- Once all have ended, the pod is marked and, if that is due, flagged, unless all have
said that it has moved. -/
theorem Underway.finish (under : s.Underway moved marked flagged stages)
    (complete : ∀ i, (stages i).verdict?.isSome = true) :
    ((∀ i, moved i) → s.state marked flagged = s.state false false) ∧
      ((∃ i, ¬ moved i) → s.state marked flagged = s.state true s.eligible) ∧
      ∀ i, ¬ moved i → (stages i).verdict?.map Verdict.status? = some Verdict.tryAgain := by
  have ends (i : ι) (hi : ¬ moved i) : marked = true ∧
      (stages i).verdict?.map Verdict.status? = some Verdict.tryAgain := by
    have done := complete i
    have on := under.course i hi
    cases at_stage : stages i with
    | ended v =>
      rw [at_stage] at on
      cases on with
      | ended on status => exact ⟨on, congrArg some status⟩
    | _ =>
      rw [at_stage] at done
      cases done
  refine ⟨fun all => ?_, fun ⟨i, hi⟩ => ?_, fun i hi => (ends i hi).2⟩
  · obtain ⟨rfl, rfl⟩ := under.still all
    rfl
  · have on := (ends i hi).1
    rw [under.balanced.first on, on]

/-! ## Decisions about a pod with a flag -/

variable (s)

/-- A decision at `fetch` or `look`, which has patched nothing. -/
def Early (stage : Stage) : Prop := stage = .fetch ∨ stage = .look s.tracker

variable {s}

/-- A turn of a decision that has at most read the pod takes it to the tracking object, or
shows it the flag. -/
theorem Early.turn (tracks : c.tracks = true) (found : s.flagged = true) {stage : Stage}
    (early : s.Early stage) :
    (stage.turn c t none w).2 = w ∧
      (stage.findsFlag c t w = false ∧ s.Early (stage.turn c t none w).1 ∨
        stage.findsFlag c t w = true ∧ (stage.turn c t none w).1 = .unflag s.tracker) := by
  rcases early with rfl | rfl
  · have turns := s.turn_fetch tracks false false
    rw [s.state_start, if_neg Bool.false_ne_true] at turns
    rw [turns]
    exact ⟨rfl, .inl ⟨rfl, .inr rfl⟩⟩
  · rw [s.turn_look_flagged found]
    refine ⟨rfl, .inr ⟨?_, rfl⟩⟩
    have on := s.flagOn_state false false
    rw [s.state_start, Bool.false_or, found] at on
    exact on

/-- The first decision that finds the flag takes it back, unseen by the others. -/
theorem run_unflag (tracks : c.tracks = true) (found : s.flagged = true) (a : ι)
    (first : stages a = .unflag s.tracker) (early : ∀ i, i ≠ a → s.Early (stages i))
    (order : List ι) (blind : Stage.sightings c t order stages w = 0)
    (complete : ∀ i, ((Stage.interleave c (fun _ => t) (Stage.calm order) stages w).1
      i).verdict?.isSome = true) :
    ∃ marked flagged,
      (Stage.interleave c (fun _ => t) (Stage.calm order) stages w).2 =
        s.cleared.state marked flagged ∧
      s.cleared.Underway (· = a) marked flagged
        (Stage.interleave c (fun _ => t) (Stage.calm order) stages w).1 := by
  -- as long as it waits, the others come no further than to their look
  induction order generalizing stages with
  | nil =>
    have done : (stages a).verdict?.isSome = true := complete a
    rw [first] at done
    cases done
  | cons b order ih =>
    by_cases h : b = a
    · subst h
      simp only [Stage.calm, List.map_cons, Stage.interleave, Stage.sightings, first,
        s.turn_unflag] at blind ⊢
      refine Underway.run tracks s.cleared_flagged (.start s.cleared ?_ ?_) order
        (Nat.add_eq_zero_iff.mp blind).2
      · intro i hi
        rw [Function.update_of_ne hi]
        exact early i hi
      · rintro i rfl
        rw [Function.update_self]
    · obtain ⟨leaves, ⟨-, goes⟩ | ⟨finds, -⟩⟩ := (early b h).turn tracks found
      · simp only [Stage.calm, List.map_cons, Stage.interleave, Stage.sightings, leaves]
          at blind complete ⊢
        refine ih ?_ ?_ (Nat.add_eq_zero_iff.mp blind).2 complete
        · rw [Function.update_of_ne (Ne.symm h)]
          exact first
        · exact (Function.forall_update_iff stages fun i stage => i ≠ a → s.Early stage).mpr
            ⟨fun _ => goes, fun i _ => early i⟩
      · simp [Stage.sightings, finds] at blind

/-- If the flag is found once, one decision says that the pod has moved, and the others go
on as if it had never had a flag. -/
theorem run_flagged (tracks : c.tracks = true) (found : s.flagged = true)
    (early : ∀ i, s.Early (stages i)) (order : List ι)
    (once : Stage.sightings c t order stages w ≤ 1)
    (complete : ∀ i, ((Stage.interleave c (fun _ => t) (Stage.calm order) stages w).1
      i).verdict?.isSome = true) :
    (IsEmpty ι ∧ (Stage.interleave c (fun _ => t) (Stage.calm order) stages w).2 = w) ∨
      ∃ a marked flagged,
        (Stage.interleave c (fun _ => t) (Stage.calm order) stages w).2 =
          s.cleared.state marked flagged ∧
        s.cleared.Underway (· = a) marked flagged
          (Stage.interleave c (fun _ => t) (Stage.calm order) stages w).1 := by
  induction order generalizing stages with
  | nil =>
    refine .inl ⟨⟨fun i => ?_⟩, rfl⟩
    have done : (stages i).verdict?.isSome = true := complete i
    rcases early i with h | h
    · rw [h] at done
      cases done
    · rw [h] at done
      cases done
  | cons b order ih =>
    obtain ⟨leaves, turns⟩ := (early b).turn tracks found
    simp only [Stage.calm, List.map_cons, Stage.interleave, Stage.sightings, leaves]
      at once complete ⊢
    rcases turns with ⟨-, goes⟩ | ⟨finds, goes⟩
    · -- nobody has found the flag yet
      have still := (Function.forall_update_iff stages (a := b) fun _ => s.Early).mpr
        ⟨goes, fun i _ => early i⟩
      exact ih still (Nat.le_trans (Nat.le_add_left _ _) once) complete
    · -- it has been found once, so nobody finds it from here on
      refine .inr ⟨b, run_unflag tracks found b ?_ ?_ order ?_ complete⟩
      · rw [Function.update_self]
        exact goes
      · intro i hi
        rw [Function.update_of_ne hi]
        exact early i
      · rw [finds, if_pos rfl] at once
        omega

end Candidate

end EvictionGate
