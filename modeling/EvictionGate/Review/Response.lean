import EvictionGate.Json.Printer
import EvictionGate.Verdict

/-!
# Answers to reviews

The answer repeats the review's `uid`, so that the API server knows which question
it belongs to, and carries a status exactly when the eviction is denied.
-/

namespace EvictionGate.Verdict

open EvictionGate.Json

/-- The status of a denied eviction. -/
def status (d : Denial) : Value :=
  .object [
    ("status", .string "Failure"),
    ("message", .string d.message),
    ("reason", .string d.reason.name),
    ("code", .ofNat d.code)]

/-- The answer to the review with a `uid`. -/
def response (uid : String) (v : Verdict) : Value :=
  let status := match v.denial? with
    | some d => [("status", status d)]
    | none => []
  .object [
    ("apiVersion", .string "admission.k8s.io/v1"),
    ("kind", .string "AdmissionReview"),
    ("response", .object ([("uid", .string uid), ("allowed", .bool v.isAllowed)] ++ status))]

/-- The text of the answer. -/
def responseText (uid : String) (v : Verdict) : String :=
  (response uid v).text

end EvictionGate.Verdict
