import EvictionGate.Proofs.Cluster.View
import EvictionGate.Proofs.Decision.Stage

/-!
# A decision on its own

A decision that runs alone, some of whose calls may fail, goes from stage to stage. Where it
stands after a number of turns depends on no more of the world than it sees, and after as
many turns as it can make calls it has ended.

Results:
1. `SeenAlike.turn`: in worlds that are alike to a decision it goes the same
   way, and leaves worlds that are alike to it.
2. `solo_maxCalls`: after five turns a decision that runs alone has come to its end.
-/

namespace EvictionGate

namespace Stage

variable {c : Settings} {t : Target} {w v : World}

/-! ## The tracking object of a stage -/

/-- The tracking object of a stage. -/
def tracker? : Stage → Option Tracker
  | fetch => none
  | look i => some i
  | unflag i => some i
  | flag i => some i
  | mark flagged => flagged
  | rollBack i => some i
  | ended _ => none

/-- A stage of which the tracking object, if it has one, satisfies `P`. -/
def About (P : Tracker → Prop) (stage : Stage) : Prop := ∀ i, stage.tracker? = some i → P i

section

variable {P : Tracker → Prop}

theorem about_ended (v : Verdict) : (ended v).About P := fun _ about => by cases about

/-- A failure leads to no other tracking object. -/
theorem About.refused {stage : Stage} (about : stage.About P) (e : GateError) :
    (stage.refused e).About P := by
  cases stage with
  | fetch =>
    cases absence : e.isAbsence <;> simp [Stage.refused, absence, about_ended]
  | mark flagged =>
    cases flagged with
    | none => exact about_ended _
    | some i => exact about
  | look | unflag | flag | rollBack | ended => exact about_ended _

theorem about_ofPod {pod : Pod}
    (tracked : ∀ i, c.trackerKind.trackerOf? pod = some i → P i) : (ofPod c pod).About P := by
  have after := afterPod c pod
  generalize ofPod c pod = stage at after ⊢
  intro i names
  cases after with
  | ended => cases names
  | mark => cases names
  | look _ _ _ found =>
    cases names
    exact tracked i found

theorem About.ofObject {i : Tracker} (about : (look i).About P) (o : DynamicObject) :
    (ofObject c t i o).About P := by
  unfold Stage.ofObject
  split
  · exact about
  · split
    · exact about
    · exact fun _ names => by cases names

/-- A reply leads to no tracking object but that of the pod that it brings. -/
theorem About.next {stage : Stage} (about : stage.About P) {call : Call}
    {next : Reply call → Stage} (asks : stage.ask c t = some ⟨call, next⟩) (reply : Reply call)
    (tracked : ∀ pod i, (⟨.getPod t, .ok pod⟩ : (call : Call) × Reply call) = ⟨call, reply⟩ →
      c.trackerKind.trackerOf? pod = some i → P i) : (next reply).About P := by
  cases stage with
  | fetch =>
    cases asks
    cases reply with
    | ok pod => exact about_ofPod fun i => tracked pod i rfl
    | error e => exact about.refused e
  | look i =>
    cases asks
    cases reply with
    | ok o => exact about.ofObject o
    | error e => exact about.refused e
  | flag i =>
    cases asks
    cases reply with
    | ok _ => exact about
    | error e => exact about.refused e
  | unflag i | mark flagged | rollBack i =>
    cases asks
    cases reply with
    | ok _ => exact about_ended _
    | error e => exact about.refused e
  | ended v => cases asks

/-- A decision comes to no tracking object but that of the pod that it reads. -/
theorem About.turn {stage : Stage} (about : stage.About P)
    (tracked : ∀ pod i, w.pods.get? t = some pod → c.trackerKind.trackerOf? pod = some i → P i)
    (failure : Option GateError) : (stage.turn c t failure w).1.About P := by
  cases failure with
  | some e =>
    rw [turn_failed]
    exact about.refused e
  | none =>
    cases asks : stage.ask c t with
    | none =>
      simp only [Stage.turn, asks]
      exact about
    | some request =>
      obtain ⟨call, next⟩ := request
      simp only [Stage.turn, asks]
      refine about.next asks _ fun pod i same => tracked pod i ?_
      obtain ⟨rfl, reply⟩ := Sigma.mk.inj same
      have reply := eq_of_heq reply
      cases found : w.pods.get? t with
      | none =>
        rw [World.attempt, World.answer_getPod_absent w found] at reply
        cases reply
      | some other =>
        rw [World.attempt, World.answer_getPod w found] at reply
        cases reply
        rfl

end

/-- A stage of which the tracking object, if it has one, carries the flags of the namespace of
`t`, by `TrackerKind.homeOf`. -/
abbrev AtHome (c : Settings) (t : Target) : Stage → Prop :=
  About fun i => t.ns = c.trackerKind.homeOf i

theorem AtHome.concerns {stage : Stage} (home : stage.AtHome c t) {call : Call}
    {next : Reply call → Stage} (asks : stage.ask c t = some ⟨call, next⟩) :
    call.Concerns c t := by
  cases stage with
  | fetch => cases asks; exact .getPod
  | look i => cases asks; exact .getTracker (home i rfl)
  | unflag i => cases asks; exact .patchTracker (home i rfl)
  | flag i => cases asks; exact .patchTracker (home i rfl)
  | mark flagged => cases asks; exact .patchPod
  | rollBack i => cases asks; exact .patchTracker (home i rfl)
  | ended v => cases asks

/-- With its pod at home, a decision stays with tracking objects that tell its namespace. -/
theorem AtHome.turn {stage : Stage} (home : stage.AtHome c t) (at_home : w.PodsAtHome)
    (failure : Option GateError) : (stage.turn c t failure w).1.AtHome c t := by
  refine About.turn home (fun pod i found tracked => ?_) failure
  rw [← TrackerKind.ns_eq_homeOf tracked, at_home t pod found]

theorem podsAtHome_turn (at_home : w.PodsAtHome) (stage : Stage) (failure : Option GateError) :
    (stage.turn c t failure w).2.PodsAtHome := by
  rcases turn_leaves c t stage failure w with same | ⟨call, next, -, leaves⟩
  · rw [same]
    exact at_home
  · rw [leaves]
    exact at_home.after call

/-! ## Worlds that are alike to a decision -/

/-- The tracking object that has been read leads on by what is in view of it. -/
theorem ofObject_congr {i : Tracker} {o o' : DynamicObject} (bare : o.bare = o'.bare)
    (flag : o.annotationAt? t.flagKey = o'.annotationAt? t.flagKey) :
    ofObject c t i o = ofObject c t i o' := by
  unfold ofObject
  rw [flag, ← TrackerKind.recreatesPods_bare, bare, TrackerKind.recreatesPods_bare]

end Stage

namespace World.SeenAlike

variable {c : Settings} {t : Target} {w v : World}

/-- A turn goes the same way in worlds that are alike to a decision, and leaves them alike. -/
theorem turn (alike : SeenAlike c t w v) {stage : Stage} (home : stage.AtHome c t)
    (failure : Option GateError) :
    (stage.turn c t failure w).1 = (stage.turn c t failure v).1 ∧
      SeenAlike c t (stage.turn c t failure w).2 (stage.turn c t failure v).2 := by
  cases failure with
  | some e =>
    rw [Stage.turn_failed, Stage.turn_failed]
    exact ⟨rfl, alike⟩
  | none =>
    cases asks : stage.ask c t with
    | none =>
      simp only [Stage.turn, asks]
      exact ⟨trivial, alike⟩
    | some request =>
      obtain ⟨call, next⟩ := request
      have concerns := home.concerns asks
      have leaves : SeenAlike c t (stage.turn c t none w).2 (stage.turn c t none v).2 := by
        simp only [Stage.turn, asks]
        exact alike.after concerns
      refine ⟨?_, leaves⟩
      by_cases reads : ∃ i, stage = .look i
      · -- the two objects may differ in flags of other pods
        obtain ⟨i, rfl⟩ := reads
        have object := alike.objects ⟨c.trackerKind, i⟩
        have flag := alike.flag ⟨c.trackerKind, i⟩ t.flagKey ⟨rfl, home i rfl, rfl⟩
        unfold bareAt at object
        unfold annotationAt? at flag
        cases present : v.tracking.get? ⟨c.trackerKind, i⟩ with
        | none =>
          rw [present, Option.map_none, Option.map_eq_none_iff] at object
          rw [Stage.turn_look_absent c t object, Stage.turn_look_absent c t present]
        | some o =>
          rw [present, Option.map_some, Option.map_eq_some_iff] at object
          obtain ⟨o', present', bare⟩ := object
          rw [present, present'] at flag
          rw [Stage.turn_look c t present', Stage.turn_look c t present]
          exact Stage.ofObject_congr bare flag
      · have other (k : TrackerKind) (i : Tracker) : call ≠ .getTracker k i := by
          rintro rfl
          cases stage with
          | look j => exact reads ⟨j, rfl⟩
          | fetch | unflag | flag | mark | rollBack | ended => cases asks
        simp only [Stage.turn, asks]
        exact congrArg next (alike.answer concerns other)

end World.SeenAlike

/-! ## Turn after turn -/

/-- `World.attempt` of a call that fails as `fails` tells of its number. -/
def World.failing (fails : Nat → Option GateError) (call : Call) (s : World × Nat) :
    Reply call × Log × (World × Nat) :=
  ((s.1.attempt (fails s.2) call).1, [], ((s.1.attempt (fails s.2) call).2, s.2 + 1))

/-- The verdict and the world after a run to the end of the decision about `t`, with the failures
`fails`. -/
def alone (c : Settings) (t : Target) (fails : Nat → Option GateError) (w : World) :
    Verdict × World :=
  let o := (decideEviction c t).result (World.failing fails) (w, 0)
  (o.1, o.2.1)

namespace Stage

variable (c : Settings) (t : Target) (fails : Nat → Option GateError) (w : World)

/-- The stage and the world after so many turns of a decision that nothing runs beside. -/
def solo : Nat → Stage × World
  | 0 => (fetch, w)
  | n + 1 => (solo n).1.turn c t (fails n) (solo n).2

/-- How many calls a decision can still make at a stage, at most. -/
def callsLeft : Stage → Nat
  | fetch => 5
  | look _ => 4
  | unflag _ => 1
  | flag _ => 3
  | mark none => 1
  | mark (some _) => 2
  | rollBack _ => 1
  | ended _ => 0

variable {c t fails w}

theorem callsLeft_eq_zero {stage : Stage} : stage.callsLeft = 0 ↔ ∃ v, stage = .ended v := by
  cases stage with
  | ended v => exact ⟨fun _ => ⟨v, rfl⟩, fun _ => rfl⟩
  | mark flagged => cases flagged <;> simp [callsLeft]
  | fetch | look | unflag | flag | rollBack => simp [callsLeft]

theorem callsLeft_ofPod (pod : Pod) : (ofPod c pod).callsLeft ≤ 4 := by
  have after := afterPod c pod
  generalize ofPod c pod = stage at after ⊢
  cases after <;> simp [callsLeft]

theorem callsLeft_ofObject (i : Tracker) (o : DynamicObject) :
    (ofObject c t i o).callsLeft ≤ 3 := by
  unfold ofObject
  split
  · simp [callsLeft]
  · split <;> simp [callsLeft]

/-- Every reply leaves a decision fewer calls to make. -/
theorem callsLeft_next {stage : Stage} {call : Call} {next : Reply call → Stage}
    (asks : stage.ask c t = some ⟨call, next⟩) (reply : Reply call) :
    (next reply).callsLeft < stage.callsLeft := by
  cases stage with
  | fetch =>
    cases asks
    cases reply with
    | ok pod => exact Nat.lt_succ_of_le (callsLeft_ofPod pod)
    | error e => cases absence : e.isAbsence <;> simp [refused, absence, callsLeft]
  | look i =>
    cases asks
    cases reply with
    | ok o => exact Nat.lt_succ_of_le (callsLeft_ofObject i o)
    | error e => simp [refused, callsLeft]
  | mark flagged =>
    cases asks
    cases flagged <;> cases reply <;> simp [refused, callsLeft]
  | unflag | flag | rollBack =>
    cases asks
    cases reply <;> simp [refused, callsLeft]
  | ended v => cases asks

theorem callsLeft_turn (stage : Stage) (failure : Option GateError) (w : World) :
    (stage.turn c t failure w).1.callsLeft ≤ stage.callsLeft - 1 := by
  cases asks : stage.ask c t with
  | none =>
    cases stage with
    | ended v => exact Nat.le_refl 0
    | fetch | look | unflag | flag | mark | rollBack => cases asks
  | some request =>
    obtain ⟨call, next⟩ := request
    simp only [turn, asks]
    exact Nat.le_sub_one_of_lt (callsLeft_next asks _)

variable (c t fails w) in
theorem callsLeft_solo (n : Nat) : (solo c t fails w n).1.callsLeft ≤ maxCalls - n := by
  induction n with
  | zero => exact Nat.le_refl 5
  | succ n ih => exact Nat.le_trans (callsLeft_turn _ _ _) (Nat.sub_le_sub_right ih 1)

variable (c t fails) in
/-- A run to the end with failing calls is the same after one turn. -/
theorem result_failing (stage : Stage) (n : Nat) (w : World) :
    ((stage.rest c t).result (World.failing fails) (w, n)).1 =
        (((stage.turn c t (fails n) w).1.rest c t).result (World.failing fails)
          ((stage.turn c t (fails n) w).2, n + 1)).1 ∧
      ((stage.rest c t).result (World.failing fails) (w, n)).2.1 =
        (((stage.turn c t (fails n) w).1.rest c t).result (World.failing fails)
          ((stage.turn c t (fails n) w).2, n + 1)).2.1 := by
  cases asks : stage.ask c t with
  | none =>
    cases stage with
    | ended v => exact ⟨rfl, rfl⟩
    | fetch | look | unflag | flag | mark | rollBack => cases asks
  | some request =>
    obtain ⟨call, next⟩ := request
    rw [result_rest asks]
    simp only [turn, asks]
    exact ⟨rfl, rfl⟩

/-- After as many turns as it can make calls, a decision has come to the verdict and the
world of its run to the end. -/
theorem solo_maxCalls {n : Nat} (enough : maxCalls ≤ n) :
    solo c t fails w n = (.ended (alone c t fails w).1, (alone c t fails w).2) := by
  have along (n : Nat) : (alone c t fails w).1 =
        (((solo c t fails w n).1.rest c t).result (World.failing fails)
          ((solo c t fails w n).2, n)).1 ∧
      (alone c t fails w).2 = (((solo c t fails w n).1.rest c t).result (World.failing fails)
          ((solo c t fails w n).2, n)).2.1 := by
    induction n with
    | zero => exact ⟨rfl, rfl⟩
    | succ n ih =>
      obtain ⟨answers, leaves⟩ := result_failing c t fails (solo c t fails w n).1 n
        (solo c t fails w n).2
      exact ⟨ih.1.trans answers, ih.2.trans leaves⟩
  have few := callsLeft_solo c t fails w n
  rw [Nat.sub_eq_zero_of_le enough, Nat.le_zero, callsLeft_eq_zero] at few
  obtain ⟨v, ends⟩ := few
  obtain ⟨answers, leaves⟩ := along n
  rw [ends] at answers leaves
  rw [answers, leaves]
  exact Prod.ext ends rfl

theorem solo_of_ended {n m : Nat} {v : Verdict} (ends : (solo c t fails w n).1 = .ended v)
    (later : n ≤ m) : solo c t fails w m = solo c t fails w n := by
  induction later with
  | refl => rfl
  | step _ ih => rw [solo, ih, ends, turn_ended, ← ends]

/-- A decision that has come to an end has come to that of its run. -/
theorem solo_eq_alone {n : Nat} {v : Verdict} (ends : (solo c t fails w n).1 = .ended v) :
    solo c t fails w n = (.ended (alone c t fails w).1, (alone c t fails w).2) := by
  rw [← solo_of_ended ends (Nat.le_add_right n maxCalls)]
  exact solo_maxCalls (Nat.le_add_left maxCalls n)

variable (c t fails) in
theorem solo_home (at_home : w.PodsAtHome) (n : Nat) :
    (solo c t fails w n).1.AtHome c t ∧ (solo c t fails w n).2.PodsAtHome := by
  induction n with
  | zero => exact ⟨fun _ about => (nomatch about), at_home⟩
  | succ n ih => exact ⟨ih.1.turn ih.2 _, podsAtHome_turn ih.2 _ _⟩

end Stage

theorem World.PodsAtHome.alone {w : World} (home : w.PodsAtHome) (c : Settings) (t : Target)
    (fails : Nat → Option GateError) : (alone c t fails w).2.PodsAtHome := by
  have leaves := (Stage.solo_home c t fails home maxCalls).2
  rwa [Stage.solo_maxCalls (Nat.le_refl _)] at leaves

end EvictionGate
