import EvictionGate.Decision.Tree

/-!
# Decisions side by side

Several decisions share a cluster. They take turns in rounds: in every round each
decision that has started and not ended runs once, in the order of the list. A turn
brings the reply to the call the decision waits for, and the decision goes on to its
next call or its end; the first turn of a decision only takes it to its first call.
-/

namespace EvictionGate

/-- A decision among others: not begun yet, or begun. -/
inductive Runner
  | asleep (start : Nat) (decision : Decision)
  | awake (standing : Standing)

namespace Runner

/-- The verdict of a decision that has ended. -/
def verdict? : Runner → Option Verdict
  | .awake (.ended v) => some v
  | _ => none

/-- One turn: the cluster answers the call the decision waits for, and the decision
goes on. -/
def turn {σ : Type} (perform : (c : Call) → σ → Reply c × Log × σ) (round : Nat) (r : Runner)
    (s : σ) : Runner × Log × σ :=
  match r with
  | .asleep start d =>
    if start ≤ round then
      let (lines, standing) := d.settle
      (.awake standing, lines, s)
    else (r, [], s)
  | .awake (.ended _) => (r, [], s)
  | .awake (.waiting c next) =>
    let (reply, before, s) := perform c s
    let (lines, standing) := (next reply).settle
    (.awake standing, before ++ lines, s)

/-- One turn of each. -/
def round {σ : Type} (perform : (c : Call) → σ → Reply c × Log × σ) (n : Nat) :
    List Runner → σ → List Runner × Log × σ
  | [], s => ([], [], s)
  | r :: rs, s =>
    let (r, first, s) := r.turn perform n s
    let (rs, others, s) := round perform n rs s
    (r :: rs, first ++ others, s)

/-- `count` rounds, the first of which is number `n`. -/
def rounds {σ : Type} (perform : (c : Call) → σ → Reply c × Log × σ) :
    Nat → Nat → List Runner → σ → List Runner × Log × σ
  | _, 0, rs, s => (rs, [], s)
  | n, count + 1, rs, s =>
    let (rs, first, s) := round perform n rs s
    let (rs, others, s) := rounds perform (n + 1) count rs s
    (rs, first ++ others, s)

/-- The round in which a decision starts. -/
def startRound : Runner → Nat
  | .asleep start _ => start
  | .awake _ => 0

end Runner

/-- The most calls that a decision about an eviction makes. -/
def maxCalls : Nat := 5

/-- Runs decisions side by side until the last of them has ended, which takes it one
round to begin and one for each call. -/
def runTogether {σ : Type} (perform : (c : Call) → σ → Reply c × Log × σ)
    (runners : List Runner) (s : σ) : List (Option Verdict) × Log × σ :=
  let last := (runners.map Runner.startRound).foldl max 0
  let (runners, log, s) := Runner.rounds perform 0 (last + maxCalls + 1) runners s
  (runners.map Runner.verdict?, log, s)

end EvictionGate
