import EvictionGate.Decision.Tree

/-!
# Decisions under a deadline

A call takes time, and may take for ever. A decision that has not ended when its
time is up is dropped where it stands: the call it waits for has been sent and is
not undone, and nothing follows.
-/

namespace EvictionGate

/-- What becomes of a call that is sent. -/
structure Exchange (σ : Type) (c : Call) where
  /-- The state once the call is sent. -/
  sent : σ
  /-- How long the reply takes; none if it never comes. -/
  latency : Option Nat
  /-- The reply, what is logged with it, and the state after it. -/
  reply : Reply c
  log : Log
  done : σ

/-- What has come of a decision by its deadline; no verdict means that it was dropped. -/
structure TimedOutcome (σ : Type) where
  verdict : Option Verdict
  log : Log
  state : σ

namespace Decision

/-- Runs a decision for as long as `left` allows. -/
def runWithin {σ : Type} (send : (c : Call) → σ → Exchange σ c) :
    Decision → Nat → σ → TimedOutcome σ
  | .verdict v, _, s => ⟨some v, [], s⟩
  | .log line next, left, s =>
    let o := next.runWithin send left s
    { o with log := line :: o.log }
  | .call c next, left, s =>
    let x := send c s
    match x.latency with
    | none => ⟨none, [], x.sent⟩
    | some d =>
      if left < d then ⟨none, [], x.sent⟩
      else
        let o := (next x.reply).runWithin send (left - d) x.done
        { o with log := x.log ++ o.log }

end Decision

end EvictionGate
