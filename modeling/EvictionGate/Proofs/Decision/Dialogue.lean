import EvictionGate.Proofs.Decision.Trial

/-!
# What a decision goes by

A decision that comes to a verdict has heard the replies to its calls in time, one after
another (`Dialogue`), and these give the grounds on which it stands where it does (`Grounds`).

Results:
1. `Grounds.next`: every reply gives the grounds of the stage that it leads to.
2. `exists_dialogue`: a verdict has its grounds in what has been heard, whatever becomes of the
   calls.
-/

namespace EvictionGate

/-- A call with the reply to it. -/
abbrev Heard := (call : Call) × Reply call

/-- `Dialogue send s₀ timeout heard left s`: calls sent one after another from `s₀` on have got
the replies `heard`, each before the deadline `timeout`; `left` is the time that remains, and `s`
the state after the last reply. -/
inductive Dialogue {σ : Type} (send : (call : Call) → σ → Exchange σ call) (s₀ : σ)
    (timeout : Nat) : List Heard → Nat → σ → Prop
  | start : Dialogue send s₀ timeout [] timeout s₀
  | answered {heard : List Heard} {left wait : Nat} {s : σ} {call : Call} :
      Dialogue send s₀ timeout heard left s →
      (send call s).latency = some wait → wait ≤ left →
      Dialogue send s₀ timeout (heard ++ [⟨call, (send call s).reply⟩]) (left - wait)
        (send call s).done

/-- `Grounds c t stage heard`: what the replies `heard` say if the decision has come to `stage` by
them.

* `gone`: the verdict is `podRescheduled` if `getPod` has been answered with 404.
* `foreign`: it is `allow` if `Settings.selects` fails of the pod that has been read.
* `waiting`: it is `waitingForReschedule` if that pod is selected and has the marker.
* `moved`: it is `podRescheduledWithSameName` if the flag has been read and `clearFlag` has
  succeeded.
* `requested`: it is `rescheduleRequested` if the pod is selected and `setMarker` has succeeded.
* `failed`: every other denial has the code 500. -/
inductive Grounds (c : Settings) (t : Target) : Stage → List Heard → Prop
  | fetch : Grounds c t .fetch []
  | gone {answer : ApiStatus} : answer.code = 404 →
      Grounds c t (.ended (.deny .podRescheduled))
        [⟨.getPod t, .error (.api (.refused answer))⟩]
  | foreign {pod : Pod} : c.selects pod = false →
      Grounds c t (.ended .allow) [⟨.getPod t, .ok pod⟩]
  | waiting {pod : Pod} : c.selects pod = true → c.markerIsOn pod = true →
      Grounds c t (.ended (.deny .waitingForReschedule)) [⟨.getPod t, .ok pod⟩]
  | look {pod : Pod} {i : Tracker} : c.selects pod = true → c.markerIsOn pod = false →
      c.trackerKind.trackerOf? pod = some i → Grounds c t (.look i) [⟨.getPod t, .ok pod⟩]
  | unflag {pod : Pod} {i : Tracker} {o : DynamicObject} : c.selects pod = true →
      c.markerIsOn pod = false → c.trackerKind.trackerOf? pod = some i →
      o.annotationAt? t.flagKey = some flagValue →
      Grounds c t (.unflag i) [⟨.getPod t, .ok pod⟩, ⟨.getTracker c.trackerKind i, .ok o⟩]
  | moved {pod : Pod} {i : Tracker} {o : DynamicObject} : c.selects pod = true →
      c.markerIsOn pod = false → c.trackerKind.trackerOf? pod = some i →
      o.annotationAt? t.flagKey = some flagValue →
      Grounds c t (.ended (.deny .podRescheduledWithSameName))
        [⟨.getPod t, .ok pod⟩, ⟨.getTracker c.trackerKind i, .ok o⟩, ⟨.clearFlag c t i, .ok ()⟩]
  | flag {pod : Pod} {i : Tracker} {heard : List Heard} : c.selects pod = true →
      Grounds c t (.flag i) (⟨.getPod t, .ok pod⟩ :: heard)
  | mark {pod : Pod} {flagged : Option Tracker} {heard : List Heard} : c.selects pod = true →
      Grounds c t (.mark flagged) (⟨.getPod t, .ok pod⟩ :: heard)
  | requested {pod : Pod} {heard : List Heard} : c.selects pod = true →
      Grounds c t (.ended (.deny .rescheduleRequested))
        (⟨.getPod t, .ok pod⟩ :: heard ++ [⟨.setMarker c t, .ok ()⟩])
  | rollBack {i : Tracker} {heard : List Heard} : Grounds c t (.rollBack i) heard
  | failed {d : Denial} {heard : List Heard} : d.code = 500 →
      Grounds c t (.ended (.deny d)) heard

/-- An absence is an answer of the API server. -/
theorem GateError.exists_of_isAbsence {e : GateError} (absent : e.isAbsence = true) :
    ∃ answer : ApiStatus, e = .api (.refused answer) ∧ answer.code = 404 := by
  cases e with
  | api failure =>
    cases failure with
    | refused answer => exact ⟨answer, rfl, beq_iff_eq.mp absent⟩
    | _ => cases absent
  | _ => cases absent

namespace Grounds

variable {c : Settings} {t : Target}

theorem ofPod (pod : Pod) : Grounds c t (Stage.ofPod c pod) [⟨.getPod t, .ok pod⟩] := by
  unfold Stage.ofPod
  cases selected : c.selects pod with
  | false => exact .foreign selected
  | true =>
    cases marked : c.markerIsOn pod with
    | true => exact .waiting selected marked
    | false =>
      cases c.tracks with
      | false => exact .mark selected
      | true =>
        cases tracked : c.trackerKind.trackerOf? pod with
        | none => exact .failed rfl
        | some i => exact .look selected marked tracked

theorem ofObject {pod : Pod} {i : Tracker} (selected : c.selects pod = true)
    (unmarked : c.markerIsOn pod = false) (tracked : c.trackerKind.trackerOf? pod = some i)
    (o : DynamicObject) : Grounds c t (Stage.ofObject c t i o)
      [⟨.getPod t, .ok pod⟩, ⟨.getTracker c.trackerKind i, .ok o⟩] := by
  unfold Stage.ofObject
  split
  · next flagged => exact .unflag selected unmarked tracked (beq_iff_eq.mp flagged)
  · split
    · exact .flag selected
    · exact .mark selected

/-- Every reply gives the grounds of the stage that it leads to. -/
theorem next {stage : Stage} {heard : List Heard} (grounds : Grounds c t stage heard)
    {call : Call} {next : Reply call → Stage} (asks : stage.ask c t = some ⟨call, next⟩)
    (reply : Reply call) : Grounds c t (next reply) (heard ++ [⟨call, reply⟩]) := by
  cases grounds with
  | fetch =>
    cases asks
    cases reply with
    | ok pod => exact ofPod pod
    | error e =>
      simp only [Stage.refused]
      split
      · next absent =>
        obtain ⟨answer, rfl, code⟩ := GateError.exists_of_isAbsence absent
        exact .gone code
      · exact .failed rfl
  | look selected unmarked tracked =>
    cases asks
    cases reply with
    | ok o => exact ofObject selected unmarked tracked o
    | error e => exact .failed rfl
  | unflag selected unmarked tracked flagged =>
    cases asks
    cases reply with
    | ok _ => exact .moved selected unmarked tracked flagged
    | error e => exact .failed rfl
  | flag selected =>
    cases asks
    cases reply with
    | ok _ => exact .mark selected
    | error e => exact .failed rfl
  | @mark pod flagged heard selected =>
    cases asks
    cases reply with
    | ok _ => exact .requested selected
    | error e =>
      -- with or without a flag to take back, it comes to a failure
      cases flagged with
      | none => exact .failed rfl
      | some i => exact .rollBack
  | rollBack =>
    cases asks
    cases reply with
    | ok _ | error e => exact .failed rfl
  | gone | foreign | waiting | moved | requested | failed => cases asks

end Grounds

/-- A decision that comes to a verdict in time has its grounds in what it has heard, whatever
becomes of its calls. -/
theorem exists_dialogue {σ : Type} (send : (call : Call) → σ → Exchange σ call) (c : Settings)
    (t : Target) (timeout : Nat) (s : σ) {v : Verdict}
    (ends : ((decideEviction c t).runWithin send timeout s).verdict = some v) :
    ∃ heard left, Dialogue send s timeout heard left
        ((decideEviction c t).runWithin send timeout s).state ∧
      Grounds c t (.ended v) heard := by
  have concluded : Concluded c t send
      (fun stage left s' => ∃ heard, Dialogue send s timeout heard left s' ∧
        Grounds c t stage heard)
      ((Stage.fetch.rest c t).timed send timeout s) := by
    refine timed_concluded (fun {stage left s' call next wait} asks holds takes enough => ?_)
      ⟨[], .start, .fetch⟩
    obtain ⟨heard, dialogue, grounds⟩ := holds
    exact ⟨_, dialogue.answered takes enough, grounds.next asks _⟩
  change Concluded c t send _ ((decideEviction c t).timed send timeout s) at concluded
  unfold Decision.timed at concluded
  rw [ends] at concluded
  cases concluded with
  | ended holds =>
    obtain ⟨heard, dialogue, grounds⟩ := holds
    exact ⟨heard, _, dialogue, grounds⟩

end EvictionGate
