import EvictionGate.GateError
import EvictionGate.Log
import EvictionGate.Tracking.Tracker
import EvictionGate.Verdict

/-!
# Decisions as trees of calls

A decision talks to the cluster by four calls. A `Decision` is a tree: at a call it
branches on every answer the cluster may give, so what it does is known for every
cluster, every failure and every way in which other decisions run in between.

`Decision.settle` runs a decision to its next call; `Decision.run` runs it to its
end against a cluster that answers at once.
-/

namespace EvictionGate

/-- A call to the cluster. -/
inductive Call
  | getPod (target : Target)
  | getTracker (kind : TrackerKind) (tracker : Tracker)
  /-- Sets an annotation of a tracking object, or removes it. -/
  | patchTracker (kind : TrackerKind) (tracker : Tracker) (key : String)
      (value : Option String)
  | patchPod (target : Target) (key value : String)
  deriving DecidableEq, Repr

namespace Call

/-- What the cluster answers to a call that succeeds. -/
def Answer : Call → Type
  | .getPod _ => Pod
  | .getTracker _ _ => DynamicObject
  | .patchTracker _ _ _ _ => Unit
  | .patchPod _ _ _ => Unit

/-- Whether a call changes the cluster. -/
def isPatch : Call → Bool
  | .getPod _ => false
  | .getTracker _ _ => false
  | .patchTracker _ _ _ _ => true
  | .patchPod _ _ _ => true

end Call

/-- What the cluster answers to a call. -/
abbrev Reply (c : Call) := Except GateError c.Answer

/-- A decision: a verdict, or a line for the log and then a decision, or a call and
a decision for every reply. -/
inductive Decision
  | verdict (v : Verdict)
  | log (line : LogLine) (next : Decision)
  | call (c : Call) (next : Reply c → Decision)

/-- Where a decision stands when it neither logs nor runs: it has ended, or waits
for the reply to a call. -/
inductive Standing
  | ended (v : Verdict)
  | waiting (c : Call) (next : Reply c → Decision)

namespace Decision

/-- What a decision logs up to its next call, and where it stands then. -/
def settle : Decision → Log × Standing
  | .verdict v => ([], .ended v)
  | .log line next =>
    let (lines, standing) := next.settle
    (line :: lines, standing)
  | .call c next => ([], .waiting c next)

/-- What has come of a decision: its verdict, its log and the state of the cluster. -/
structure Outcome (σ : Type) where
  verdict : Verdict
  log : Log
  state : σ

/-- Runs a decision against a cluster in which a call may log and change the state. -/
def run {σ : Type} (perform : (c : Call) → σ → Reply c × Log × σ) : Decision → σ → Outcome σ
  | .verdict v, s => ⟨v, [], s⟩
  | .log line next, s =>
    let o := next.run perform s
    { o with log := line :: o.log }
  | .call c next, s =>
    let (reply, lines, s) := perform c s
    let o := (next reply).run perform s
    { o with log := lines ++ o.log }

end Decision

end EvictionGate
