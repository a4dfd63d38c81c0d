import EvictionGate.Http.Message
import EvictionGate.Log
import EvictionGate.Review.Request
import EvictionGate.Review.Response

/-!
# The webhook

What the gate answers to a request, as a row of gates that an eviction review has
to pass before the cluster hears of it: the path, the content type, the body, the
review. Whatever method a request has, only its path chooses the route.
-/

namespace EvictionGate.Webhook

open EvictionGate.Http

/-- What is to be done about a request before its body is read. -/
inductive Route
  /-- It is answered as it is. -/
  | answer (log : Log) (response : Response)
  /-- It may be a review; its body is needed. -/
  | readBody
  deriving DecidableEq, Repr

/-- What is to be done about a request with its body. -/
inductive Step
  | answer (log : Log) (response : Response)
  /-- The eviction is to be decided. -/
  | decide (review : EvictionReview)
  deriving DecidableEq, Repr

/-- Where reviews are sent. -/
def evictionPath : String := "/eviction"

/-- Where the gate says that it is ready. -/
def readinessPath : String := "/readyz"

/-- The route of a request. -/
def route (r : Request) : Route :=
  if r.path = evictionPath then
    if r.isJson then .readBody
    else .answer [⟨.warn, "Rejecting eviction review with unexpected content type"⟩] (.empty 415)
  else if r.path = readinessPath then .answer [] (.empty 200)
  else .answer [⟨.error, "Unexpected request for " ++ r.path⟩] (.empty 404)

/-- What follows once the body of a review has been read, or broken. -/
def withBody : Body → Step
  | .error fault =>
    .answer [⟨.warn, "Failed to read eviction review body: " ++ fault⟩] (.empty 400)
  | .ok bytes =>
    match EvictionReview.read bytes with
    | .error fault => .answer [⟨.warn, fault.toError.message⟩] (.empty 400)
    | .ok review => .decide review

/-- What is to be done about a request whose body is at hand. -/
def step (r : Request) (body : Body) : Step :=
  match route r with
  | .answer log response => .answer log response
  | .readBody => withBody body

/-- The line that says how an eviction was decided. -/
def decided (v : Verdict) : LogLine where
  level := .info
  text := "Eviction decided | " ++
    match v with
    | .allow => " allowed=true"
    | .deny d => d.message ++ " allowed=false code=" ++ toString d.code

/-- The line that says that a decision took too long. -/
def timedOut (t : Target) : LogLine where
  level := .error
  text := "Timed out deciding eviction of pod " ++ t.ns ++ "/" ++ t.name

/-- What is logged and answered when a review has been decided; no verdict means that
the decision took too long. -/
def conclude (review : EvictionReview) : Option Verdict → Log × Response
  | some v => ([decided v], .json (v.responseText review.uid))
  | none =>
    let v := Verdict.deny .timedOut
    ([timedOut review.target, decided v], .json (v.responseText review.uid))

/-- How long a decision may take, in milliseconds. -/
def decisionTimeout : Nat := 10000

end EvictionGate.Webhook
