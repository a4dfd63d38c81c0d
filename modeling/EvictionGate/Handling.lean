import EvictionGate.Decision.Deadline
import EvictionGate.Decision.Decide
import EvictionGate.Webhook

/-!
# Requests from end to end

A request passes the gates of the webhook; if it is a review that passes all of them,
its eviction is decided by calls to a cluster, of which nothing is assumed.
-/

namespace EvictionGate.Webhook

open EvictionGate.Http

/-- A way of calling a cluster, in a dry run or for real. -/
abbrev Sender (σ : Type) := Bool → (c : Call) → σ → Exchange σ c

/-- What has come of a request. -/
structure Handled (σ : Type) where
  response : Response
  log : Log
  state : σ

/-- Handles a request whose decision may take as long as `timeout`. -/
def handle {σ : Type} (send : Sender σ) (c : Settings) (timeout : Nat) (r : Request) (body : Body)
    (s : σ) : Handled σ :=
  match step r body with
  | .answer log response => ⟨response, log, s⟩
  | .decide review =>
    let o := (decideEviction c review.target).runWithin (send review.dryRun) timeout s
    let (log, response) := conclude review o.verdict
    ⟨response, o.log ++ log, o.state⟩

end EvictionGate.Webhook
