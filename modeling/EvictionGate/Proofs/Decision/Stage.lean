import EvictionGate.Decision.Deadline
import EvictionGate.Decision.Decide
import EvictionGate.Decision.Rounds
import EvictionGate.Proofs.Cluster.Flag

/-!
# The stages of a decision

A decision about an eviction is a tree of calls. Where it stands between two calls is one
of seven stages, and the reply to its call says which stage is next. The tree and the
stages agree (`settle_rest`), so that every way of running a decision, to its end at once,
under a deadline or among others, is a walk over the stages.

Results:
1. `settle_rest`: from each reply the tree goes on as the next stage does.
2. `result_turn`: a run to the end goes on from stage to stage.
3. `turn_standing`: a turn of a decision among others is a turn of its stage.
4. `afterPod`: where a pod that has been read can lead.
-/

namespace EvictionGate

namespace Call

/-- The call that sets `t.flagKey` on a tracking object. -/
abbrev setFlag (c : Settings) (t : Target) (i : Tracker) : Call :=
  .patchTracker c.trackerKind i t.flagKey (some flagValue)

/-- The call that removes `t.flagKey` from a tracking object. -/
abbrev clearFlag (c : Settings) (t : Target) (i : Tracker) : Call :=
  .patchTracker c.trackerKind i t.flagKey none

/-- The call that sets `c.marker` on the pod. -/
abbrev setMarker (c : Settings) (t : Target) : Call :=
  .patchPod t c.marker.key c.marker.value

end Call

/-- A decision between two of its calls, named for the call that it waits for, or at its end. -/
inductive Stage
  /-- It waits for `getPod`. -/
  | fetch
  /-- It waits for `getTracker`. -/
  | look (tracker : Tracker)
  /-- It waits for the `clearFlag` of a flag that it has read. -/
  | unflag (tracker : Tracker)
  /-- It waits for `setFlag`. -/
  | flag (tracker : Tracker)
  /-- It waits for `setMarker`, after `setFlag` on the object, if there is one. -/
  | mark (flagged : Option Tracker)
  /-- It waits for the `clearFlag` that follows upon a failure of `setMarker`. -/
  | rollBack (tracker : Tracker)
  | ended (verdict : Verdict)
  deriving DecidableEq

namespace Stage

variable (c : Settings) (t : Target)

/-- The part of `decideEviction` that a stage has before it. -/
def rest : Stage → Decision
  | fetch => decideEviction c t
  | look i => Decision.look c t i
  | unflag i => Decision.unflag c t i
  | flag i => Decision.flag c t i
  | mark flagged => Decision.mark c t flagged
  | rollBack i => Decision.markFailed c t (some i)
  | ended v => .verdict v

/-- The stage after `getPod` has been answered with a pod. -/
def ofPod (pod : Pod) : Stage :=
  if !c.selects pod then ended .allow
  else if c.markerIsOn pod then ended (.deny .waitingForReschedule)
  else if c.tracks then
    match c.trackerKind.trackerOf? pod with
    | none => ended (.deny .failedToGetTrackingResource)
    | some i => look i
  else mark none

/-- The stage after `getTracker` has been answered with an object. -/
def ofObject (i : Tracker) (o : DynamicObject) : Stage :=
  if o.annotationAt? t.flagKey == some flagValue then unflag i
  else if c.trackerKind.recreatesPods o then flag i
  else mark none

/-- `AfterPod c pod stage`: what `Stage.ofPod` can lead to. It is an end, or else the pod is
selected and has no marker, and the stage is `look` if the gate tracks and `mark` if not. -/
inductive AfterPod (c : Settings) (pod : Pod) : Stage → Prop
  | ended {v : Verdict} :
      v ≠ .deny .podRescheduledWithSameName → v ≠ .deny .rescheduleRequested →
      (c.tracks = true → c.selects pod = true → c.markerIsOn pod = false →
        c.trackerKind.trackerOf? pod = none) →
      AfterPod c pod (.ended v)
  | mark : c.selects pod = true → c.markerIsOn pod = false → c.tracks = false →
      AfterPod c pod (.mark none)
  | look {i : Tracker} : c.selects pod = true → c.markerIsOn pod = false → c.tracks = true →
      c.trackerKind.trackerOf? pod = some i → AfterPod c pod (.look i)

theorem afterPod (pod : Pod) : AfterPod c pod (ofPod c pod) := by
  unfold ofPod
  cases selected : c.selects pod with
  | false =>
    refine .ended (by decide) (by decide) fun _ selects => ?_
    cases selected.symm.trans selects
  | true =>
    cases unmarked : c.markerIsOn pod with
    | true =>
      refine .ended (by decide) (by decide) fun _ _ off => ?_
      cases unmarked.symm.trans off
    | false =>
      cases tracks : c.tracks with
      | false => exact .mark selected unmarked tracks
      | true =>
        cases tracked : c.trackerKind.trackerOf? pod with
        | none => exact .ended (by decide) (by decide) fun _ _ _ => tracked
        | some i => exact .look selected unmarked tracks tracked

/-- The stage after a call that has failed with an error. -/
def refused : Stage → GateError → Stage
  | fetch, e =>
    if e.isAbsence then ended (.deny .podRescheduled) else ended (.deny .failedToGetPod)
  | look _, _ => ended (.deny .failedToGetTrackingResource)
  | unflag _, _ => ended (.deny .failedToRemoveFlag)
  | flag _, _ => ended (.deny .failedToAddFlag)
  | mark none, _ => ended (.deny .failedToAddMarker)
  | mark (some i), _ => rollBack i
  | rollBack _, _ => ended (.deny .failedToAddMarker)
  | ended v, _ => ended v

/-- The call that a stage waits for, and the stage after each reply to it; none at an end. -/
def ask : Stage → Option ((call : Call) × (Reply call → Stage))
  | fetch => some ⟨.getPod t, fun
    | .ok pod => ofPod c pod
    | .error e => refused fetch e⟩
  | look i => some ⟨.getTracker c.trackerKind i, fun
    | .ok o => ofObject c t i o
    | .error e => refused (look i) e⟩
  | unflag i => some ⟨.clearFlag c t i, fun
    | .ok _ => ended (.deny .podRescheduledWithSameName)
    | .error e => refused (unflag i) e⟩
  | flag i => some ⟨.setFlag c t i, fun
    | .ok _ => mark (some i)
    | .error e => refused (flag i) e⟩
  | mark flagged => some ⟨.setMarker c t, fun
    | .ok _ => ended (.deny .rescheduleRequested)
    | .error e => refused (mark flagged) e⟩
  | rollBack i => some ⟨.clearFlag c t i, fun
    | .ok _ => ended (.deny .failedToAddMarker)
    | .error e => refused (rollBack i) e⟩
  | ended _ => none

variable {c t} in
theorem eq_ended_of_ask {stage : Stage} (asks : stage.ask c t = none) :
    ∃ v, stage = ended v := by
  cases stage with
  | ended v => exact ⟨v, rfl⟩
  | _ => cases asks

/-- The `Standing` of `rest` once it has been settled: what a `Runner` at this stage is. -/
def standing (s : Stage) : Standing := (s.rest c t).settle.2

/-! ## The tree and the stages -/

theorem settle_withPod (pod : Pod) :
    (Decision.withPod c t pod).settle.2 = (ofPod c pod).standing c t := by
  unfold Decision.withPod ofPod standing Decision.track
  split
  · rfl
  · split
    · rfl
    · split
      · cases c.trackerKind.trackerOf? pod <;> rfl
      · rfl

theorem settle_withTracking (i : Tracker) (o : DynamicObject) :
    (Decision.withTracking c t i o).settle.2 = (ofObject c t i o).standing c t := by
  unfold Decision.withTracking ofObject standing
  split
  · rfl
  · split <;> rfl

/-- What is left of a decision waits for the call of its stage, and goes on from each
reply as the next stage does. -/
theorem settle_rest {s : Stage} {call : Call} {next : Reply call → Stage}
    (asks : s.ask c t = some ⟨call, next⟩) :
    ∃ after : Reply call → Decision, s.standing c t = .waiting call after ∧
      ∀ reply, (after reply).settle.2 = (next reply).standing c t := by
  cases s with
  | fetch =>
    cases asks
    refine ⟨_, rfl, fun reply => ?_⟩
    cases reply with
    | ok pod => exact settle_withPod c t pod
    | error e =>
      simp only [refused]
      cases e.isAbsence <;> rfl
  | look i =>
    cases asks
    refine ⟨_, rfl, fun reply => ?_⟩
    cases reply with
    | ok o => exact settle_withTracking c t i o
    | error e => rfl
  | unflag i =>
    cases asks
    refine ⟨_, rfl, fun reply => ?_⟩
    cases reply <;> rfl
  | flag i =>
    cases asks
    refine ⟨_, rfl, fun reply => ?_⟩
    cases reply <;> rfl
  | mark flagged =>
    cases asks
    refine ⟨_, rfl, fun reply => ?_⟩
    cases reply with
    | ok _ => rfl
    | error e => cases flagged <;> rfl
  | rollBack i =>
    cases asks
    refine ⟨_, rfl, fun reply => ?_⟩
    cases reply <;> rfl
  | ended v => cases asks

end Stage

/-! ## Runs to the end, and under a deadline -/

namespace Decision

variable {σ : Type}

/-- The verdict of `Decision.run` and the state after it. -/
def result (perform : (call : Call) → σ → Reply call × Log × σ) (d : Decision) (s : σ) :
    Verdict × σ :=
  ((d.run perform s).verdict, (d.run perform s).state)

/-- The verdict of `Decision.runWithin`, if it comes to one, and the state after it. -/
def timed (send : (call : Call) → σ → Exchange σ call) (d : Decision) (left : Nat) (s : σ) :
    Option Verdict × σ :=
  ((d.runWithin send left s).verdict, (d.runWithin send left s).state)

variable {perform : (call : Call) → σ → Reply call × Log × σ}
  {send : (call : Call) → σ → Exchange σ call}

theorem result_of_ended {d : Decision} {v : Verdict} (h : d.settle.2 = .ended v) (s : σ) :
    d.result perform s = (v, s) := by
  induction d with
  | verdict u => cases h; rfl
  | log line next ih => exact ih h
  | call call next _ => cases h

theorem result_of_waiting {d : Decision} {call : Call} {next : Reply call → Decision}
    (h : d.settle.2 = .waiting call next) (s : σ) :
    d.result perform s =
      (next (perform call s).1).result perform (perform call s).2.2 := by
  induction d with
  | verdict u => cases h
  | log line next ih => exact ih h
  | call call next _ => cases h; rfl

theorem timed_of_waiting {d : Decision} {call : Call} {next : Reply call → Decision}
    (h : d.settle.2 = .waiting call next) (left : Nat) (s : σ) :
    d.timed send left s =
      match (send call s).latency with
      | none => (none, (send call s).sent)
      | some wait =>
        if left < wait then (none, (send call s).sent)
        else (next (send call s).reply).timed send (left - wait) (send call s).done := by
  induction d with
  | verdict u => cases h
  | log line next ih => exact ih h
  | call call next _ =>
    cases h
    cases delay : (send call s).latency with
    | none => simp only [timed, runWithin, delay]
    | some wait =>
      simp only [timed, runWithin, delay]
      split <;> rfl

theorem timed_of_ended {d : Decision} {v : Verdict} (h : d.settle.2 = .ended v) (left : Nat)
    (s : σ) : d.timed send left s = (some v, s) := by
  induction d with
  | verdict u => cases h; rfl
  | log line next ih => exact ih h
  | call call next _ => cases h

/-- A run under a deadline depends on the calls alone, and not on what is logged before them. -/
theorem timed_congr {d d' : Decision} (h : d.settle.2 = d'.settle.2) (left : Nat) (s : σ) :
    d.timed send left s = d'.timed send left s := by
  cases hs : d'.settle.2 with
  | ended v => rw [timed_of_ended hs, timed_of_ended (h.trans hs)]
  | waiting call next => rw [timed_of_waiting hs, timed_of_waiting (h.trans hs)]

/-- A cluster that answers without latency, as `Decision.runWithin` takes it. -/
def atOnce (perform : (call : Call) → σ → Reply call × Log × σ) (call : Call) (s : σ) :
    Exchange σ call :=
  ⟨s, some 0, (perform call s).1, (perform call s).2.1, (perform call s).2.2⟩

/-- Under a deadline, a cluster that answers at once lets a decision run to its end. -/
theorem timed_atOnce (d : Decision) (left : Nat) (s : σ) :
    d.timed (atOnce perform) left s = (some (d.result perform s).1, (d.result perform s).2) := by
  induction d generalizing s with
  | verdict v => rfl
  | log line next ih => exact ih s
  | call call next ih =>
    rw [timed_of_waiting rfl, result_of_waiting rfl]
    exact ih _ _

end Decision

namespace Stage

variable {c : Settings} {t : Target} {σ : Type}
  {perform : (call : Call) → σ → Reply call × Log × σ}

theorem result_congr {d : Decision} {stage : Stage} (h : d.settle.2 = stage.standing c t)
    (s : σ) : d.result perform s = (stage.rest c t).result perform s := by
  cases hs : (stage.rest c t).settle.2 with
  | ended v =>
    rw [Decision.result_of_ended hs, Decision.result_of_ended (h.trans hs)]
  | waiting call next =>
    rw [Decision.result_of_waiting hs, Decision.result_of_waiting (h.trans hs)]

/-- A run to the end makes the call of its stage and goes on from the next stage. -/
theorem result_rest {stage : Stage} {call : Call} {next : Reply call → Stage}
    (asks : stage.ask c t = some ⟨call, next⟩) (s : σ) :
    (stage.rest c t).result perform s =
      ((next (perform call s).1).rest c t).result perform (perform call s).2.2 := by
  obtain ⟨after, waits, follows⟩ := settle_rest c t asks
  rw [Decision.result_of_waiting waits]
  exact result_congr (follows _) _

/-! ## Turns -/

variable (c t)

/-- The stage and the world after the reply to the call of `ask`, which `World.attempt` gives. -/
def turn (failure : Option GateError) (stage : Stage) (w : World) : Stage × World :=
  match stage.ask c t with
  | none => (stage, w)
  | some ⟨call, next⟩ =>
    (next (w.attempt failure call).1, (w.attempt failure call).2)

variable {c t} (perform) in
/-- A decision among others makes the call of its stage and goes on to the next one. -/
theorem turn_of_ask {stage : Stage} {call : Call} {next : Reply call → Stage}
    (asks : stage.ask c t = some ⟨call, next⟩) (round : Nat) (s : σ) :
    ((Runner.awake (stage.standing c t)).turn perform round s).1 =
        .awake ((next (perform call s).1).standing c t) ∧
      ((Runner.awake (stage.standing c t)).turn perform round s).2.2 = (perform call s).2.2 := by
  obtain ⟨after, waits, follows⟩ := settle_rest c t asks
  simp only [waits, Runner.turn, follows, and_self]

/-- A turn of a decision among others is a turn of its stage. -/
theorem turn_standing (failure : Option GateError) (round : Nat) (stage : Stage) (w : World) :
    ((Runner.awake (stage.standing c t)).turn (World.perform failure) round w).1 =
        .awake ((stage.turn c t failure w).1.standing c t) ∧
      ((Runner.awake (stage.standing c t)).turn (World.perform failure) round w).2.2 =
        (stage.turn c t failure w).2 := by
  cases asks : stage.ask c t with
  | none =>
    obtain ⟨v, rfl⟩ := eq_ended_of_ask asks
    exact ⟨rfl, rfl⟩
  | some request =>
    rw [turn, asks]
    exact turn_of_ask (World.perform failure) asks round w

/-! What a turn comes to, stage by stage. -/

section

variable {w : World}

@[simp] theorem turn_ended (failure : Option GateError) (v : Verdict) :
    (ended v).turn c t failure w = (ended v, w) := rfl

theorem turn_failed (e : GateError) (stage : Stage) :
    stage.turn c t (some e) w = (stage.refused e, w) := by
  cases stage <;> rfl

/-- What a turn does to the world, it does by the call of its stage. -/
theorem turn_leaves (stage : Stage) (failure : Option GateError) (w : World) :
    (stage.turn c t failure w).2 = w ∨ ∃ (call : Call) (next : Reply call → Stage),
      stage.ask c t = some ⟨call, next⟩ ∧ (stage.turn c t failure w).2 = w.after call := by
  cases failure with
  | some e =>
    rw [turn_failed]
    exact .inl rfl
  | none =>
    cases asks : stage.ask c t with
    | none =>
      simp only [turn, asks]
      exact .inl trivial
    | some request =>
      obtain ⟨call, next⟩ := request
      refine .inr ⟨call, next, rfl, ?_⟩
      simp only [turn, asks]
      rfl

theorem turn_fetch {pod : Pod} (found : w.pods.get? t = some pod) :
    fetch.turn c t none w = (ofPod c pod, w) := by
  simp only [turn, ask, World.attempt, World.answer_getPod w found]

theorem turn_fetch_absent (absent : w.pods.get? t = none) :
    fetch.turn c t none w = (ended (.deny .podRescheduled), w) := by
  simp only [turn, ask, World.attempt, World.answer_getPod_absent w absent]
  rfl

theorem turn_look {i : Tracker} {o : DynamicObject}
    (present : w.tracking.get? ⟨c.trackerKind, i⟩ = some o) :
    (look i).turn c t none w = (ofObject c t i o, w) := by
  simp only [turn, ask, World.attempt, World.answer_getTracker w present]

theorem turn_look_absent {i : Tracker} (absent : w.tracking.get? ⟨c.trackerKind, i⟩ = none) :
    (look i).turn c t none w = (ended (.deny .failedToGetTrackingResource), w) := by
  simp only [turn, ask, World.attempt, World.answer_getTracker_absent w absent]
  rfl

theorem turn_unflag {i : Tracker} {o : DynamicObject}
    (present : w.tracking.get? ⟨c.trackerKind, i⟩ = some o) :
    (unflag i).turn c t none w =
      (ended (.deny .podRescheduledWithSameName), w.after (.clearFlag c t i)) := by
  simp only [turn, ask, World.attempt, World.after, World.answer_patchTracker w present]

theorem turn_flag {i : Tracker} {o : DynamicObject}
    (present : w.tracking.get? ⟨c.trackerKind, i⟩ = some o) :
    (flag i).turn c t none w = (mark (some i), w.after (.setFlag c t i)) := by
  simp only [turn, ask, World.attempt, World.after, World.answer_patchTracker w present]

theorem turn_mark {pod : Pod} (found : w.pods.get? t = some pod) (flagged : Option Tracker) :
    (mark flagged).turn c t none w =
      (ended (.deny .rescheduleRequested), w.after (.setMarker c t)) := by
  simp only [turn, ask, World.attempt, World.after, World.answer_patchPod w found]

theorem turn_rollBack {i : Tracker} {o : DynamicObject}
    (present : w.tracking.get? ⟨c.trackerKind, i⟩ = some o) :
    (rollBack i).turn c t none w =
      (ended (.deny .failedToAddMarker), w.after (.clearFlag c t i)) := by
  simp only [turn, ask, World.attempt, World.after, World.answer_patchTracker w present]

end

/-- A run to the end is the same after one turn that meets no failure. -/
theorem result_turn (stage : Stage) (w : World) :
    (stage.rest c t).result (World.perform none) w =
      ((stage.turn c t none w).1.rest c t).result (World.perform none)
        (stage.turn c t none w).2 := by
  cases asks : stage.ask c t with
  | none => simp only [turn, asks]
  | some request =>
    obtain ⟨call, next⟩ := request
    rw [result_rest asks]
    simp only [turn, asks, World.perform]

end Stage

end EvictionGate
