import EvictionGate.Proofs.Decision.Linearizable
import EvictionGate.Proofs.Decision.Solo

/-!
# Decisions about different pods, side by side

Decisions about different pods take turns, and any of their calls may fail. Each goes the way
it would go alone, because the others patch nothing that it sees; and the world at the end is
put together from what each of them leaves alone, so that the order does not matter.

Results:
1. `Composed.turn`, `Composed.interleave`: a world that is put together from the worlds of
   decisions that run alone stays so, turn after turn.
2. `Composed.same`: what it is put together from decides the world.
3. `decide_independent`: each decision ends with the verdict that it comes to alone, and all
   leave the world that they leave one after another, in whatever order.
-/

namespace EvictionGate

variable {ι : Type} [DecidableEq ι]

/-- The turns of decisions in an order. Decision `i` has made `made i` calls before, and its call
number `n` fails as `fails i n` tells. -/
def slots (fails : ι → Nat → Option GateError) : List ι → (ι → Nat) → List (Slot ι)
  | [], _ => []
  | a :: order, made =>
    ⟨a, fails a (made a)⟩ :: slots fails order (Function.update made a (made a + 1))

/-- `Runner.interleave` of decisions about the pods `target`, with the turns of `slots`. -/
def abreast (c : Settings) (target : ι → Target) (fails : ι → Nat → Option GateError)
    (order : List ι) (w : World) : (ι → Runner) × World :=
  Runner.interleave (slots fails order fun _ => 0) (fun i => evicting c (target i)) w

/-- The world after the decisions about the pods `target` run `alone`, one after the other. -/
def oneByOne (c : Settings) (target : ι → Target) (fails : ι → Nat → Option GateError) :
    List ι → World → World
  | [], w => w
  | a :: order, w => oneByOne c target fails order (alone c (target a) (fails a) w).2

/-- `Composed c target start parts w`: `w` agrees with `parts i` by `World.SeenAlike` in what
concerns `target i`, and with `start` in all other pods, objects and annotations. -/
structure Composed (c : Settings) (target : ι → Target) (start : World) (parts : ι → World)
    (w : World) : Prop where
  seen : ∀ i, World.SeenAlike c (target i) w (parts i)
  pods : ∀ t, (∀ i, t ≠ target i) → w.pods.get? t = start.pods.get? t
  objects : ∀ place, w.bareAt place = start.bareAt place
  annotations : ∀ place key, (∀ i, ¬ (target i).Owns c place key) →
    w.annotationAt? place key = start.annotationAt? place key

namespace Composed

variable {c : Settings} {target : ι → Target} {start w v : World} {parts : ι → World}

variable (c target) in
omit [DecidableEq ι] in
theorem refl (w : World) : Composed c target w (fun _ => w) w :=
  ⟨fun _ => .refl w, fun _ _ => rfl, fun _ => rfl, fun _ _ _ => rfl⟩

omit [DecidableEq ι] in
theorem congr {parts' : ι → World} (composed : Composed c target start parts w)
    (same : ∀ i, parts' i = parts i) : Composed c target start parts' w := by
  rwa [funext same]

omit [DecidableEq ι] in
/-- What a world is put together from decides it. -/
theorem same (first : Composed c target start parts w) (second : Composed c target start parts v) :
    w.Same v := by
  refine ⟨fun t => ?_, fun place => ?_, fun place key => ?_⟩
  · by_cases mine : ∃ i, t = target i
    · obtain ⟨i, rfl⟩ := mine
      rw [(first.seen i).pod, (second.seen i).pod]
    · have nobody i := fun same => mine ⟨i, same⟩
      rw [first.pods t nobody, second.pods t nobody]
  · rw [first.objects, second.objects]
  · by_cases owned : ∃ i, (target i).Owns c place key
    · obtain ⟨i, owns⟩ := owned
      rw [(first.seen i).flag place key owns, (second.seen i).flag place key owns]
    · have free i := fun owns => owned ⟨i, owns⟩
      rw [first.annotations place key free, second.annotations place key free]

variable (distinct : Function.Injective target)
include distinct

/-- A call of one decision changes its own part only. -/
theorem step (composed : Composed c target start parts w) (a : ι) {part : World}
    (by_call : v = w ∨ ∃ call : Call, call.Concerns c (target a) ∧ v = w.after call)
    (seen : World.SeenAlike c (target a) v part) :
    Composed c target start (Function.update parts a part) v := by
  have others (i : ι) (other : i ≠ a) : World.SeenAlike c (target i) v (parts i) := by
    rcases by_call with rfl | ⟨call, concerns, rfl⟩
    · exact composed.seen i
    · exact (World.seenAlike_after_other (distinct.ne other) w concerns).trans (composed.seen i)
  have all := (Function.forall_update_iff parts fun i part =>
    World.SeenAlike c (target i) v part).mpr ⟨seen, others⟩
  rcases by_call with rfl | ⟨call, concerns, rfl⟩
  · exact ⟨all, composed.pods, composed.objects, composed.annotations⟩
  · refine ⟨all, fun t nobody => ?_, fun place => ?_, fun place key free => ?_⟩
    · rw [World.pod_after_concerns (nobody a) w concerns, composed.pods t nobody]
    · rw [World.bareAt_after, composed.objects]
    · rw [World.annotationAt?_after_concerns (free a) w concerns,
        composed.annotations place key free]

/-- A turn of a decision goes as in its own world. -/
theorem turn (composed : Composed c target start parts w) (a : ι) {stage : Stage}
    (home : stage.AtHome c (target a)) (failure : Option GateError) :
    (stage.turn c (target a) failure w).1 = (stage.turn c (target a) failure (parts a)).1 ∧
      Composed c target start
        (Function.update parts a (stage.turn c (target a) failure (parts a)).2)
        (stage.turn c (target a) failure w).2 := by
  obtain ⟨goes, seen⟩ := (composed.seen a).turn home failure
  refine ⟨goes, composed.step distinct a ?_ seen⟩
  exact (stage.turn_leaves c (target a) failure w).imp_right fun ⟨call, _, asks, leaves⟩ =>
    ⟨call, home.concerns asks, leaves⟩

/-! ## One after another -/

/-- A decision that runs alone in a world that is put together goes as in its own world. -/
theorem solo (composed : Composed c target start parts w) (a : ι) (home : w.PodsAtHome)
    (fails : Nat → Option GateError) (n : Nat) :
    (Stage.solo c (target a) fails w n).1 = (Stage.solo c (target a) fails (parts a) n).1 ∧
      Composed c target start
        (Function.update parts a (Stage.solo c (target a) fails (parts a) n).2)
        (Stage.solo c (target a) fails w n).2 := by
  induction n with
  | zero =>
    refine ⟨rfl, ?_⟩
    rw [Stage.solo, Stage.solo, Function.update_eq_self]
    exact composed
  | succ n ih =>
    obtain ⟨goes, part⟩ := ih
    have at_home := (Stage.solo_home c (target a) fails home n).1
    obtain ⟨goes', part'⟩ := part.turn distinct a at_home (fails n)
    rw [Function.update_self, Function.update_idem] at part'
    rw [Function.update_self] at goes'
    rw [Stage.solo, Stage.solo, ← goes]
    exact ⟨goes', part'⟩

theorem alone (composed : Composed c target start parts w) (a : ι) (home : w.PodsAtHome)
    (fails : Nat → Option GateError) :
    Composed c target start
      (Function.update parts a (EvictionGate.alone c (target a) fails (parts a)).2)
      (EvictionGate.alone c (target a) fails w).2 := by
  have ends := (composed.solo distinct a home fails maxCalls).2
  rw [Stage.solo_maxCalls (Nat.le_refl _), Stage.solo_maxCalls (Nat.le_refl _)] at ends
  exact ends

/-- Decisions that run one after another leave a world that is put together from those that
they leave when they run alone. -/
theorem oneByOne (composed : Composed c target start parts w) (home : w.PodsAtHome)
    (fails : ι → Nat → Option GateError) {order : List ι} (once : order.Nodup)
    (fresh : ∀ i ∈ order, parts i = start) :
    Composed c target start
      (fun i => if i ∈ order then (EvictionGate.alone c (target i) (fails i) start).2 else parts i)
      (EvictionGate.oneByOne c target fails order w) := by
  induction order generalizing parts w with
  | nil => simpa [EvictionGate.oneByOne] using composed
  | cons a order ih =>
    obtain ⟨absent, once⟩ := List.nodup_cons.mp once
    have first := composed.alone distinct a home (fails a)
    rw [fresh a List.mem_cons_self] at first
    have rest := ih first (home.alone c (target a) (fails a)) once fun i hi => by
      rw [Function.update_of_ne (ne_of_mem_of_not_mem hi absent)]
      exact fresh i (List.mem_cons_of_mem _ hi)
    refine rest.congr fun i => ?_
    by_cases same : i = a
    · subst same
      simp [absent]
    · simp [same]

/-! ## Turn after turn -/

/-- Decisions that take turns stand where they would stand alone after as many turns. -/
theorem interleave (at_home : start.PodsAtHome) (fails : ι → Nat → Option GateError)
    (order : List ι) (made : ι → Nat) {stages : ι → Stage}
    (stand : ∀ i, stages i = (Stage.solo c (target i) (fails i) start (made i)).1)
    (composed : Composed c target start
      (fun i => (Stage.solo c (target i) (fails i) start (made i)).2) w) :
    (∀ i, (Stage.interleave c target (slots fails order made) stages w).1 i =
        (Stage.solo c (target i) (fails i) start (made i + order.count i)).1) ∧
      Composed c target start
        (fun i => (Stage.solo c (target i) (fails i) start (made i + order.count i)).2)
        (Stage.interleave c target (slots fails order made) stages w).2 := by
  induction order generalizing made stages w with
  | nil => exact ⟨stand, composed⟩
  | cons a order ih =>
    have home := (Stage.solo_home c (target a) (fails a) at_home (made a)).1
    obtain ⟨goes, next⟩ := composed.turn distinct a home (fails a (made a))
    have counts (i : ι) : Function.update made a (made a + 1) i + order.count i =
        made i + (a :: order).count i := by
      by_cases same : i = a
      · subst same
        simp
        omega
      · simp [same, Ne.symm same]
    simp only [slots, Stage.interleave, ← counts]
    refine ih (Function.update made a (made a + 1)) (fun i => ?_) ?_
    · by_cases same : i = a
      · subst same
        rw [Function.update_self, Function.update_self, stand]
        exact goes
      · rw [Function.update_of_ne same, Function.update_of_ne same]
        exact stand i
    · rw [stand]
      refine next.congr fun i => ?_
      by_cases same : i = a
      · subst same
        rw [Function.update_self, Function.update_self]
        rfl
      · rw [Function.update_of_ne same, Function.update_of_ne same]

end Composed

/-- Decisions about different pods, whose calls may fail, take turns in any order. Each comes
to an end within as many turns as it can make calls, with the verdict that it comes to alone
and the marker and the flag that it leaves alone; and when all have ended, the world is the
one that they leave one after another, in whatever order. -/
theorem decide_independent (c : Settings) {n : Nat} (target : Fin n → Target)
    (distinct : Function.Injective target) (w : World) (home : w.PodsAtHome)
    (fails : Fin n → Nat → Option GateError) (order : List (Fin n)) :
    (∀ i, maxCalls ≤ order.count i →
      ((abreast c target fails order w).1 i).verdict?.isSome = true) ∧
    (∀ i v, ((abreast c target fails order w).1 i).verdict? = some v →
      v = (alone c (target i) (fails i) w).1 ∧
      (abreast c target fails order w).2.markerOn c (target i) =
        (alone c (target i) (fails i) w).2.markerOn c (target i) ∧
      (abreast c target fails order w).2.podFlagOn c (target i) =
        (alone c (target i) (fails i) w).2.podFlagOn c (target i)) ∧
    ((∀ i, ((abreast c target fails order w).1 i).verdict?.isSome = true) →
      ∀ serial : List (Fin n), serial.Perm (List.finRange n) →
        (abreast c target fails order w).2.Same (oneByOne c target fails serial w)) := by
  have runs : abreast c target fails order w = _ :=
    Stage.interleave_standing c target (slots fails order fun _ => 0) (fun _ => .fetch) w
  have start (i : Fin n) : Stage.fetch = (Stage.solo c (target i) (fails i) w 0).1 := rfl
  obtain ⟨stand, composed⟩ :=
    (Composed.refl c target w).interleave distinct home fails order (fun _ => 0) start
  have verdict (i : Fin n) : ((abreast c target fails order w).1 i).verdict? =
      (Stage.solo c (target i) (fails i) w (order.count i)).1.verdict? := by
    rw [runs, Stage.verdict?_standing, stand, Nat.zero_add]
  -- a decision that has ended has come to the end of its run alone
  have ends {i : Fin n} {v : Verdict}
      (ended : ((abreast c target fails order w).1 i).verdict? = some v) :
      v = (alone c (target i) (fails i) w).1 ∧
        (Stage.solo c (target i) (fails i) w (order.count i)).2 =
          (alone c (target i) (fails i) w).2 := by
    rw [verdict, Stage.verdict?_eq_some] at ended
    have same := Stage.solo_eq_alone ended
    refine ⟨?_, congrArg Prod.snd same⟩
    rw [same] at ended
    exact (Stage.ended.inj ended).symm
  simp only [Nat.zero_add] at composed
  rw [← congrArg Prod.snd runs] at composed
  refine ⟨fun i enough => ?_, fun i v ended => ?_, fun complete serial all => ?_⟩
  · rw [verdict, Stage.solo_maxCalls enough]
    rfl
  · have seen := composed.seen i
    obtain ⟨answers, leaves⟩ := ends ended
    rw [leaves] at seen
    refine ⟨answers, seen.markerOn, ?_⟩
    exact (seen.symm.podFlagOn (home.alone c (target i) (fails i))).symm
  · have others := (Composed.refl c target w).oneByOne distinct home fails
      (all.nodup_iff.mpr (List.nodup_finRange n)) fun _ _ => rfl
    refine composed.same (others.congr fun i => ?_)
    obtain ⟨v, ended⟩ := Option.isSome_iff_exists.mp (complete i)
    rw [(ends ended).2, if_pos (all.mem_iff.mpr (List.mem_finRange i))]

namespace Sample

/-- Another pod of the same database cluster. -/
def sibling : Target := ⟨"db-1", "prod"⟩

/-- The other pod as its operator creates it. -/
def freshSibling : Pod :=
  ⟨some "db-1", some "prod", some [("app", "couchbase"), ("couchbase_cluster", "main")], none⟩

/-- Two pods that share a tracking object. -/
def siblings : World := ⟨[(db, fresh), (sibling, freshSibling)], world.tracking⟩

/-- The pods that the two decisions are about. -/
def pair (i : Fin 2) : Target := if i = 0 then db else sibling

theorem pair_injective : Function.Injective pair := by
  unfold Function.Injective
  decide

/-- The failure of `setMarker` about the second pod. -/
def unmarkable : Fin 2 → Nat → Option GateError :=
  fun i n => if i = 1 ∧ n = 3 then some notFound else none

theorem podsAtHome_siblings : siblings.PodsAtHome := by
  intro t pod found
  by_cases first : t = db
  · subst first
    cases found
    rfl
  · by_cases second : t = sibling
    · subst second
      cases found
      rfl
    · simp [siblings, Table.get?, Ne.symm first, Ne.symm second] at found

/-- `abreast` of the decisions about the two pods. -/
def together : (Fin 2 → Runner) × World :=
  abreast .default pair unmarkable [0, 1, 1, 0, 1, 0, 1, 0, 1] siblings

end Sample

/-- The second of two decisions takes its flag back after the first has set its own. -/
theorem decide_independent_of_sibling :
    (Sample.together.1 0).verdict? = some (.deny .rescheduleRequested) ∧
      Sample.together.2.podFlagOn .default Sample.db = true ∧
      Sample.together.2.podFlagOn .default Sample.sibling = false ∧
      Sample.together.2.Same
        (oneByOne .default Sample.pair Sample.unmarkable [1, 0] Sample.siblings) := by
  have complete : ∀ i, (Sample.together.1 i).verdict?.isSome = true := by decide
  obtain ⟨-, alone, serial⟩ := decide_independent .default Sample.pair Sample.pair_injective
    Sample.siblings Sample.podsAtHome_siblings Sample.unmarkable [0, 1, 1, 0, 1, 0, 1, 0, 1]
  obtain ⟨first, ended_first⟩ := Option.isSome_iff_exists.mp (complete 0)
  obtain ⟨second, ended_second⟩ := Option.isSome_iff_exists.mp (complete 1)
  obtain ⟨answers, -, flag_first⟩ := alone 0 first ended_first
  obtain ⟨-, -, flag_second⟩ := alone 1 second ended_second
  exact ⟨ended_first.trans (congrArg some (answers.trans (by decide))),
    flag_first.trans (by decide), flag_second.trans (by decide),
    serial complete [1, 0] (by decide)⟩

end EvictionGate
