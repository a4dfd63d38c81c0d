import EvictionGate.Proofs.Decision.Footprint
import EvictionGate.Proofs.Decision.Linearizable
import EvictionGate.Proofs.Decision.Solo

/-!
# What becomes of a flag that decisions share

Decisions about one pod share its flag. One that cannot mark the pod takes the flag back,
and so does one that takes it for the flag of an earlier pod, whether or not another
decision has set it, too, and has marked the pod or is about to. So the last decision that
patches the flag decides what becomes of it.

Results:
1. `Candidate.turn_effect`: what a turn does to the flag, and to how the decision stands by it.
2. `Candidate.Shared.run`: after each turn the flag is on if the decision that has patched it
   last has set it and not come to grief since.
3. `flag_kept_iff`: once all have ended, the flag is on exactly if the decision that patched
   it last has asked for the reschedule.
4. `flag_lost_to_rollBack`: a pod may end marked and without its flag.
-/

namespace EvictionGate

variable {ι : Type}

/-! ## The calls of a run -/

/-- A call of the decision `who`, and its failure, if it has failed. -/
structure Attempt (ι : Type) where
  who : ι
  call : Call
  failure : Option GateError

/-- Whether a call is `patchTracker` under `key`. -/
def Call.patchesObject (key : String) : Call → Bool
  | .patchTracker _ _ other _ => other == key
  | _ => false

/-- Whether an attempt is a `Call.patchesObject` that has not failed. -/
def Attempt.patched (key : String) (a : Attempt ι) : Bool :=
  a.failure.isNone && a.call.patchesObject key

/-- The decision of the last attempt that is `Attempt.patched`. -/
def lastToPatch (key : String) (attempts : List (Attempt ι)) : Option ι :=
  (attempts.filter (Attempt.patched key)).getLast?.map Attempt.who

theorem lastToPatch_cons (key : String) (a : Attempt ι) (rest : List (Attempt ι)) :
    lastToPatch key (a :: rest) =
      (lastToPatch key rest).or (if a.patched key then some a.who else none) := by
  unfold lastToPatch
  cases patched : a.patched key with
  | false => simp [patched]
  | true =>
    rw [List.filter_cons_of_pos patched, List.getLast?_cons]
    cases (rest.filter (Attempt.patched key)).getLast? <;> rfl

variable [DecidableEq ι]

namespace Runner

/-- The call that a decision waits for, if it waits for one. -/
def pending? : Runner → Option Call
  | .awake (.waiting call _) => some call
  | _ => none

/-- The calls that decisions make in the turns of `Runner.interleave`. -/
def attempts : List (Slot ι) → (ι → Runner) → World → List (Attempt ι)
  | [], _, _ => []
  | a :: turns, rs, w =>
    let next := (rs a.who).turn (World.perform a.failure) 0 w
    ((rs a.who).pending?.map (⟨a.who, ·, a.failure⟩)).toList ++
      attempts turns (Function.update rs a.who next.1) next.2.2

end Runner

namespace Stage

variable (c : Settings) (t : Target)

/-- The call of `Stage.ask`. -/
def pending? (stage : Stage) : Option Call := (stage.ask c t).map Sigma.fst

/-- The calls that decisions make in the turns of `Stage.interleave`. -/
def attempts : List (Slot ι) → (ι → Stage) → World → List (Attempt ι)
  | [], _, _ => []
  | a :: turns, stages, w =>
    let next := (stages a.who).turn c t a.failure w
    (((stages a.who).pending? c t).map (⟨a.who, ·, a.failure⟩)).toList ++
      attempts turns (Function.update stages a.who next.1) next.2

theorem pending?_standing (stage : Stage) :
    (Runner.awake (stage.standing c t)).pending? = stage.pending? c t := by
  cases asks : stage.ask c t with
  | none =>
    obtain ⟨v, rfl⟩ := eq_ended_of_ask asks
    rfl
  | some request =>
    obtain ⟨call, next⟩ := request
    obtain ⟨after, waits, -⟩ := settle_rest c t asks
    rw [waits, pending?, asks]
    rfl

theorem attempts_standing (turns : List (Slot ι)) (stages : ι → Stage) (w : World) :
    Runner.attempts turns (fun i => .awake ((stages i).standing c t)) w =
      attempts c t turns stages w := by
  induction turns generalizing stages w with
  | nil => rfl
  | cons a turns ih =>
    obtain ⟨stands, leaves⟩ := turn_standing c t a.failure 0 (stages a.who) w
    simp only [Runner.attempts, attempts, stands, leaves, pending?_standing,
      update_standing c (fun _ => t), ih]

/-- A decision sets the marker of a pod and nothing else of it. -/
theorem marks {c : Settings} {t : Target} {stage : Stage} {call : Call}
    {next : Reply call → Stage} (asks : stage.ask c t = some ⟨call, next⟩) (u : Target)
    (key value : String) (patches : call = .patchPod u key value) :
    key = c.marker.key ∧ value = c.marker.value := by
  subst patches
  cases stage with
  | mark flagged =>
    cases asks
    exact ⟨rfl, rfl⟩
  | fetch | look | unflag | flag | rollBack | ended => cases asks

/-- A marker that is on stays on. -/
theorem marker_turn {c : Settings} {t : Target} (stage : Stage) (failure : Option GateError)
    {v : World} (on : ∀ pod, v.pods.get? t = some pod → c.markerIsOn pod = true) :
    ∀ pod, (stage.turn c t failure v).2.pods.get? t = some pod → c.markerIsOn pod = true := by
  rcases stage.turn_leaves c t failure v with same | ⟨call, next, asks, leaves⟩
  · rw [same]
    exact on
  · rw [leaves]
    exact v.marker_after (marks asks) on

/-! ## How decisions stand by a flag -/

/-- The stages that a decision can be at once it has patched the flag. -/
def HasPatched : Stage → Prop
  | mark (some _) => True
  | rollBack _ => True
  | ended _ => True
  | _ => False

/-- The stages at which the flag is on if the decision was the last to patch it: `mark` and
`rollBack` after `setFlag`, and the end with `rescheduleRequested`. -/
def StandsBy : Stage → Prop
  | mark (some _) => True
  | rollBack _ => True
  | ended v => v = .deny .rescheduleRequested
  | _ => False

/-- Whether the turn of a stage patches `t.flagKey`: its call is a `Call.patchesObject` and does
not fail. -/
def patchesFlag (failure : Option GateError) (stage : Stage) : Bool :=
  failure.isNone && (stage.pending? c t).any (Call.patchesObject t.flagKey)

variable {c t} in
theorem lastToPatch_attempts (a : Slot ι) (turns : List (Slot ι)) (stages : ι → Stage)
    (w : World) :
    lastToPatch t.flagKey (attempts c t (a :: turns) stages w) =
      (lastToPatch t.flagKey (attempts c t turns
        (Function.update stages a.who ((stages a.who).turn c t a.failure w).1)
        ((stages a.who).turn c t a.failure w).2)).or
      (if (stages a.who).patchesFlag c t a.failure then some a.who else none) := by
  rw [attempts, patchesFlag]
  cases (stages a.who).pending? c t with
  | none => simp
  | some call => exact lastToPatch_cons _ _ _

end Stage

namespace Candidate

variable {c : Settings} {t : Target} {w v : World} (s : Candidate c t w)

/-- `s.Stands v`: in `v` there are still the tracking object of the candidate and a pod that is
`Pod.Alike` to its own. -/
structure Stands (v : World) : Prop where
  pod : ∃ pod, v.pods.get? t = some pod ∧ s.pod.Alike pod
  object : ∃ o, v.tracking.get? ⟨c.trackerKind, s.tracker⟩ = some o

theorem stands : s.Stands w := ⟨⟨s.pod, s.found, .refl s.pod⟩, ⟨s.object, s.present⟩⟩

variable {s}

namespace Stands

theorem after (stands : s.Stands v) (call : Call) : s.Stands (v.after call) := by
  obtain ⟨pod, found, alike⟩ := stands.pod
  obtain ⟨pod', found', alike'⟩ := v.pod_after found call
  obtain ⟨o, present⟩ := stands.object
  refine ⟨⟨pod', found', alike.trans alike'⟩, Option.isSome_iff_exists.mp ?_⟩
  rw [v.isSome_tracking_after, present]
  rfl

theorem turn (stands : s.Stands v) (stage : Stage) (failure : Option GateError) :
    s.Stands (stage.turn c t failure v).2 := by
  rcases stage.turn_leaves c t failure v with same | ⟨call, -, -, leaves⟩
  · rw [same]
    exact stands
  · rw [leaves]
    exact stands.after call

theorem tracker (stands : s.Stands v) (pod : Pod) (i : Tracker)
    (found : v.pods.get? t = some pod) (tracked : c.trackerKind.trackerOf? pod = some i) :
    i = s.tracker := by
  obtain ⟨pod', found', alike⟩ := stands.pod
  rw [found] at found'
  cases found'
  rw [alike.trackerOf?, s.tracked] at tracked
  exact (Option.some.inj tracked).symm

theorem podFlagOn (stands : s.Stands v) :
    v.podFlagOn c t = v.flagOn ⟨c.trackerKind, s.tracker⟩ t.flagKey := by
  obtain ⟨pod, found, alike⟩ := stands.pod
  simp only [World.podFlagOn, found, Option.any_some, alike.trackerOf?, s.tracked]

end Stands

variable (s)

/-- `Effect v v' stage next patched`: what a turn from `stage` to `next` does to the flag. If it
has patched the flag, the flag is on in `v'` exactly if `next` is `StandsBy`; else the flag is as
in `v`, and `StandsBy` too if the decision `HasPatched` before. -/
inductive Effect (v v' : World) (stage next : Stage) : Bool → Prop
  | patch : (v'.flagOn ⟨c.trackerKind, s.tracker⟩ t.flagKey = true ↔ next.StandsBy) →
      next.HasPatched → Effect v v' stage next true
  | other : v'.flagOn ⟨c.trackerKind, s.tracker⟩ t.flagKey =
        v.flagOn ⟨c.trackerKind, s.tracker⟩ t.flagKey →
      (stage.HasPatched → next.HasPatched ∧ (next.StandsBy ↔ stage.StandsBy)) →
      Effect v v' stage next false

variable {s}

/-- A turn that patches the flag decides it. -/
theorem Stands.effect_of_patch (stands : s.Stands v) {stage next : Stage} {value : Option String}
    (asks : stage.pending? c t = some (.patchTracker c.trackerKind s.tracker t.flagKey value))
    (has : next.HasPatched) (keeps : (value == some flagValue) = true ↔ next.StandsBy) :
    s.Effect v (v.after (.patchTracker c.trackerKind s.tracker t.flagKey value)) stage next
      (stage.patchesFlag c t none) := by
  obtain ⟨o, present⟩ := stands.object
  have patches : stage.patchesFlag c t none = true := by
    simp [Stage.patchesFlag, asks, Call.patchesObject]
  rw [patches]
  refine .patch ?_ has
  rw [v.flagOn_after_patchTracker_self present]
  exact keeps

theorem turn_effect (stands : s.Stands v) {stage : Stage}
    (about : stage.About (· = s.tracker)) (failure : Option GateError)
    (undone : stage = .rollBack s.tracker → failure = none) :
    s.Effect v (stage.turn c t failure v).2 stage (stage.turn c t failure v).1
      (stage.patchesFlag c t failure) := by
  obtain ⟨pod, found, -⟩ := stands.pod
  obtain ⟨o, present⟩ := stands.object
  cases failure with
  | some e =>
    -- only its marker can fail to a decision that has patched the flag and goes on
    rw [Stage.turn_failed]
    refine .other rfl fun has => ?_
    cases stage with
    | mark flagged =>
      cases flagged with
      | none => exact has.elim
      | some i => exact ⟨trivial, .rfl⟩
    | rollBack i =>
      obtain rfl := about i rfl
      cases undone rfl
    | ended v => exact ⟨has, .rfl⟩
    | fetch | look | unflag | flag => exact has.elim
  | none =>
    cases stage with
    | fetch =>
      rw [Stage.turn_fetch c t found]
      exact .other rfl False.elim
    | look i =>
      obtain rfl := about i rfl
      rw [Stage.turn_look c t present]
      exact .other rfl False.elim
    | unflag i =>
      obtain rfl := about i rfl
      rw [Stage.turn_unflag c t present]
      exact stands.effect_of_patch rfl trivial
        (iff_of_false (by decide) fun same => nomatch same)
    | flag i =>
      obtain rfl := about i rfl
      rw [Stage.turn_flag c t present]
      exact stands.effect_of_patch rfl trivial (iff_of_true (by decide) trivial)
    | mark flagged =>
      rw [Stage.turn_mark c t found]
      refine .other (v.flagOn_after_patchPod _ _ _ _ _) fun has => ⟨trivial, ?_⟩
      cases flagged with
      | none => exact has.elim
      | some i => exact iff_of_true rfl trivial
    | rollBack i =>
      obtain rfl := about i rfl
      rw [Stage.turn_rollBack c t present]
      exact stands.effect_of_patch rfl trivial
        (iff_of_false (by decide) fun same => nomatch same)
    | ended v => exact .other rfl fun has => ⟨has, .rfl⟩

/-! ## Decisions that share a flag -/

variable (s)

/-- `Shared last stages v`: the flag is on in `v` exactly if some decision was the last to patch
it, `last`, and is at a stage that is `StandsBy`; a decision that has ended with
`rescheduleRequested` has left the marker on the pod. -/
structure Shared (last : Option ι) (stages : ι → Stage) (v : World) : Prop where
  stands : s.Stands v
  about : ∀ i, (stages i).About (· = s.tracker)
  patched : ∀ a, last = some a → (stages a).HasPatched
  flag : v.flagOn ⟨c.trackerKind, s.tracker⟩ t.flagKey = true ↔
    ∃ a, last = some a ∧ (stages a).StandsBy
  marked : ∀ a, stages a = .ended (.deny .rescheduleRequested) →
    ∀ pod, v.pods.get? t = some pod → c.markerIsOn pod = true

variable {s} {last : Option ι} {stages : ι → Stage}

omit [DecidableEq ι] in
theorem Shared.start (unflagged : s.flagged = false) :
    s.Shared none (fun _ : ι => .fetch) w where
  stands := s.stands
  about _ _ names := by cases names
  patched _ same := by cases same
  flag := by
    rw [s.flagOn_eq, unflagged]
    exact iff_of_false Bool.false_ne_true fun ⟨_, same, _⟩ => nomatch same
  marked _ same := by cases same

/-- A decision that comes to its end by asking for the reschedule has marked the pod. -/
theorem Stands.marked_turn (stands : s.Stands v) {stage : Stage}
    (about : stage.About (· = s.tracker)) {failure : Option GateError}
    (before : stage ≠ .ended (.deny .rescheduleRequested))
    (ends : (stage.turn c t failure v).1 = .ended (.deny .rescheduleRequested)) :
    ∀ pod, (stage.turn c t failure v).2.pods.get? t = some pod → c.markerIsOn pod = true := by
  obtain ⟨pod, found, -⟩ := stands.pod
  obtain ⟨o, present⟩ := stands.object
  cases failure with
  | some e =>
    rw [Stage.turn_failed] at ends
    cases stage with
    | fetch => cases absence : e.isAbsence <;> simp [Stage.refused, absence] at ends
    | mark flagged => cases flagged <;> cases ends
    | ended v => exact absurd ends before
    | look | unflag | flag | rollBack => cases ends
  | none =>
    cases stage with
    | fetch =>
      rw [Stage.turn_fetch c t found] at ends
      have after := Stage.afterPod c pod
      rw [show Stage.ofPod c pod = _ from ends] at after
      cases after with
      | ended _ other => exact absurd rfl other
    | look i =>
      obtain rfl := about i rfl
      rw [Stage.turn_look c t present] at ends
      simp only [Stage.ofObject] at ends
      split at ends
      · cases ends
      · split at ends <;> cases ends
    | mark flagged =>
      intro pod' found'
      rw [Stage.turn_mark c t found, v.pod_after_mark found c] at found'
      cases found'
      exact c.markerIsOn_marked pod
    | unflag i =>
      obtain rfl := about i rfl
      rw [Stage.turn_unflag c t present] at ends
      cases ends
    | flag i =>
      obtain rfl := about i rfl
      rw [Stage.turn_flag c t present] at ends
      cases ends
    | rollBack i =>
      obtain rfl := about i rfl
      rw [Stage.turn_rollBack c t present] at ends
      cases ends
    | ended v => exact absurd ends before

theorem Shared.turn (shared : s.Shared last stages v) (a : ι) (failure : Option GateError)
    (undone : stages a = .rollBack s.tracker → failure = none) :
    s.Shared ((if (stages a).patchesFlag c t failure then some a else none).or last)
      (Function.update stages a ((stages a).turn c t failure v).1)
      ((stages a).turn c t failure v).2 := by
  have effect := turn_effect shared.stands (shared.about a) failure undone
  constructor
  case stands => exact shared.stands.turn (stages a) failure
  case about =>
    exact (Function.forall_update_iff stages fun _ stage => stage.About (· = s.tracker)).mpr
      ⟨(shared.about a).turn shared.stands.tracker failure, fun i _ => shared.about i⟩
  case patched =>
    intro i is_last
    generalize (stages a).patchesFlag c t failure = patches at effect is_last
    cases effect with
    | patch _ has =>
      cases is_last
      rwa [Function.update_self]
    | other _ kept =>
      by_cases same : i = a
      · subst same
        rw [Function.update_self]
        exact (kept (shared.patched i is_last)).1
      · rw [Function.update_of_ne same]
        exact shared.patched i is_last
  case flag =>
    generalize (stages a).patchesFlag c t failure = patches at effect ⊢
    cases effect with
    | patch decides _ =>
      rw [decides]
      simp
    | other flag kept =>
      rw [flag, shared.flag]
      refine exists_congr fun i => and_congr_right fun is_last => ?_
      by_cases same : i = a
      · subst same
        rw [Function.update_self]
        exact (kept (shared.patched i is_last)).2.symm
      · rw [Function.update_of_ne same]
  case marked =>
    intro i ends
    by_cases same : i = a
    · subst same
      rw [Function.update_self] at ends
      by_cases before : stages i = .ended (.deny .rescheduleRequested)
      · exact Stage.marker_turn _ failure (shared.marked i before)
      · exact shared.stands.marked_turn (shared.about i) before ends
    · rw [Function.update_of_ne same] at ends
      exact Stage.marker_turn _ failure (shared.marked i ends)

/-- Decisions that share a flag go on sharing it, turn after turn. -/
theorem Shared.run (shared : s.Shared last stages v) (turns : List (Slot ι))
    (undone : ∀ a ∈ Stage.attempts c t turns stages v, a.call = .clearFlag c t s.tracker →
      a.failure = none) :
    s.Shared ((lastToPatch t.flagKey (Stage.attempts c t turns stages v)).or last)
      (Stage.interleave c (fun _ => t) turns stages v).1
      (Stage.interleave c (fun _ => t) turns stages v).2 := by
  induction turns generalizing last stages v with
  | nil => exact shared
  | cons a turns ih =>
    rw [Stage.lastToPatch_attempts, Option.or_assoc]
    refine ih (shared.turn a.who a.failure fun rolls_back => ?_) fun b mem =>
      undone b (List.mem_append_right _ mem)
    refine undone ⟨a.who, .clearFlag c t s.tracker, a.failure⟩ (List.mem_append_left _ ?_) rfl
    rw [rolls_back]
    exact List.mem_singleton_self _

end Candidate

/-- Decisions about a pod without a flag take turns, and calls of theirs may fail, but none
that takes the flag back. Once all have ended, the pod is marked if one of them has asked
for the reschedule, and it has its flag exactly if the last decision to patch the flag is
one of those. -/
theorem flag_kept_iff (c : Settings) (t : Target) {n : Nat} (turns : List (Slot (Fin n)))
    (w : World) (pod : Pod) (i : Tracker) (o : DynamicObject)
    (found : w.pods.get? t = some pod) (selected : c.selects pod = true)
    (unmarked : c.markerIsOn pod = false) (tracked : c.trackerKind.trackerOf? pod = some i)
    (present : w.tracking.get? ⟨c.trackerKind, i⟩ = some o)
    (unflagged : w.podFlagOn c t = false)
    (undone : ∀ a ∈ Runner.attempts turns (fun _ => evicting c t) w,
      a.call = .clearFlag c t i → a.failure = none)
    (complete : ∀ a, ((Runner.interleave turns (fun _ => evicting c t) w).1
      a).verdict?.isSome = true) :
    ((∃ a, ((Runner.interleave turns (fun _ => evicting c t) w).1 a).verdict? =
        some (.deny .rescheduleRequested)) →
      (Runner.interleave turns (fun _ => evicting c t) w).2.markerOn c t = true) ∧
    ((Runner.interleave turns (fun _ => evicting c t) w).2.podFlagOn c t = true ↔
      ∃ a, lastToPatch t.flagKey (Runner.attempts turns (fun _ => evicting c t) w) = some a ∧
        ((Runner.interleave turns (fun _ => evicting c t) w).1 a).verdict? =
          some (.deny .rescheduleRequested)) := by
  let s : Candidate c t w := ⟨pod, i, o, found, selected, unmarked, tracked, present⟩
  have runs : Runner.interleave turns (fun _ => evicting c t) w = _ :=
    Stage.interleave_standing c (fun _ => t) turns (fun _ => .fetch) w
  have calls : Runner.attempts turns (fun _ => evicting c t) w = _ :=
    Stage.attempts_standing c t turns (fun _ => .fetch) w
  rw [s.podFlagOn_eq] at unflagged
  rw [calls] at undone ⊢
  have start : s.Shared none (fun _ : Fin n => .fetch) w := .start unflagged
  have shared := start.run turns undone
  rw [runs] at complete ⊢
  simp only [Stage.verdict?_standing, Stage.verdict?_eq_some] at complete ⊢
  rw [Option.or_none] at shared
  refine ⟨fun ⟨a, ends⟩ => ?_, ?_⟩
  · obtain ⟨pod', found', -⟩ := shared.stands.pod
    rw [World.markerOn, found', Option.any_some]
    exact shared.marked a ends pod' found'
  · rw [shared.stands.podFlagOn, shared.flag]
    refine exists_congr fun a => and_congr_right fun _ => ?_
    obtain ⟨v, ends⟩ := Option.isSome_iff_exists.mp (complete a)
    rw [Stage.verdict?_eq_some] at ends
    rw [ends, Stage.ended.injEq]
    rfl

namespace Sample

/-- The first decision cannot mark the pod, and takes its flag back before the second one
looks for a flag. -/
def undoneInTime : List (Slot (Fin 2)) :=
  [⟨0, none⟩, ⟨0, none⟩, ⟨0, none⟩, ⟨0, some notFound⟩, ⟨1, none⟩, ⟨0, none⟩, ⟨1, none⟩,
    ⟨1, none⟩, ⟨1, none⟩]

/-- Both decisions set the flag. The first cannot mark the pod, the second marks it, and then
the first takes the flag back. -/
def undoneTooLate : List (Slot (Fin 2)) :=
  [⟨0, none⟩, ⟨1, none⟩, ⟨0, none⟩, ⟨1, none⟩, ⟨0, none⟩, ⟨1, none⟩, ⟨0, some notFound⟩,
    ⟨1, none⟩, ⟨0, none⟩]

end Sample

/-- The decision that marks the pod is the last to patch its flag. -/
theorem flag_kept_after_rollBack :
    (Runner.interleave Sample.undoneInTime (fun _ => evicting .default Sample.db)
        Sample.world).2.markerOn .default Sample.db = true ∧
      (Runner.interleave Sample.undoneInTime (fun _ => evicting .default Sample.db)
        Sample.world).2.podFlagOn .default Sample.db = true := by
  obtain ⟨marked, kept⟩ := flag_kept_iff .default Sample.db Sample.undoneInTime Sample.world
    Sample.fresh ⟨"main", some "prod"⟩ Sample.cluster rfl (by decide) (by decide) rfl rfl
    (by decide) (by decide) (by decide)
  exact ⟨marked ⟨1, by decide⟩, kept.mpr ⟨1, by decide, by decide⟩⟩

/-- A decision that cannot mark the pod takes back the flag of one that has marked it. -/
theorem flag_lost_to_rollBack :
    Sample.world.eligible .default Sample.db = true ∧
      (∀ a ∈ Runner.attempts Sample.undoneTooLate (fun _ => evicting .default Sample.db)
          Sample.world, a.failure.isSome = true → a.call = .setMarker .default Sample.db) ∧
      (∀ a, ((Runner.interleave Sample.undoneTooLate (fun _ => evicting .default Sample.db)
        Sample.world).1 a).verdict?.isSome = true) ∧
      ((Runner.interleave Sample.undoneTooLate (fun _ => evicting .default Sample.db)
        Sample.world).1 1).verdict? = some (.deny .rescheduleRequested) ∧
      (Runner.interleave Sample.undoneTooLate (fun _ => evicting .default Sample.db)
        Sample.world).2.markerOn .default Sample.db = true ∧
      (Runner.interleave Sample.undoneTooLate (fun _ => evicting .default Sample.db)
        Sample.world).2.podFlagOn .default Sample.db = false := by
  decide

end EvictionGate
