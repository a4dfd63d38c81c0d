import EvictionGate.GateError
import EvictionGate.Json.Record
import EvictionGate.Kubernetes.Eviction
import EvictionGate.Target

/-!
# Eviction reviews

The API server asks about an eviction by an admission review: an envelope with a
request, and in the request the eviction. `EvictionReview.read` takes the bytes of
a review to what a decision needs, or to the first stage at which they fail.

The eviction names the pod. Where it does not, the request does; a name that the
eviction leaves empty is not looked up in the request.
-/

namespace EvictionGate

open EvictionGate.Json

/-- What a decision needs of an admission review. -/
structure EvictionReview where
  uid : String
  target : Target
  dryRun : Bool
  deriving DecidableEq, Repr

/-- The first stage at which a review fails. -/
inductive ReviewFault
  | malformedReview
  | noRequest
  | noObject
  | malformedEviction
  | noPodName
  | noPodNamespace
  deriving DecidableEq, Repr

namespace ReviewFault

/-- The wording of a fault. After `Failed to decode …` the gate reports, behind a colon, the
detail that its decoder gives; that detail is left out. -/
def message : ReviewFault → String
  | .malformedReview => "Failed to decode admission review"
  | .noRequest => "Admission review has no request"
  | .noObject => "Admission request has no object"
  | .malformedEviction => "Failed to decode eviction request"
  | .noPodName => "Eviction has no pod name"
  | .noPodNamespace => "Eviction has no pod namespace"

/-- The fault as an error of the gate. -/
def toError (f : ReviewFault) : GateError :=
  .invalidRequest f.message

end ReviewFault

/-- The request of an admission review. -/
structure AdmissionRequest where
  uid : String
  name : Option String
  ns : Option String
  dryRun : Option Bool
  object : Option Value

/-- The envelope of an admission review. -/
structure AdmissionReview where
  request : Option AdmissionRequest

namespace AdmissionRequest

/-- The fields of a request, in the order in which an array lists them. -/
def fieldNames : List String := ["uid", "name", "namespace", "dryRun", "object"]

/-- A value that is there and not null. -/
def present : Value → Option Value
  | .null => none
  | v => some v

/-- The request in a part of a text. -/
def ofRaw? (r : Raw) : Option AdmissionRequest := do
  let room := maxDepth - 2
  let fields ← fields? fieldNames 1 r
  let uid ← (← field? fields "uid" .text room).text?
  let name ← optionalField? fields "name" .text room
  let ns ← optionalField? fields "namespace" .text room
  let dryRun ← optionalField? fields "dryRun" .flag room
  let object ← optionalField? fields "object" .anything room
  some {
    uid
    name := name.text?
    ns := ns.text?
    dryRun := dryRun.bool?
    object := present object }

end AdmissionRequest

namespace AdmissionReview

/-- The envelope in a JSON text. -/
def ofBytes? (body : List UInt8) : Option AdmissionReview := do
  let fields ← fields? ["request"] 1 (← read? body)
  match Dict.get? fields "request" with
  | none => some ⟨none⟩
  | some .null => some ⟨none⟩
  | some r => (AdmissionRequest.ofRaw? r).map fun request => ⟨some request⟩

end AdmissionReview

/-- A name that is not empty, from the eviction or else from the request. -/
def chosenName? (eviction request : Option String) : Option String :=
  match eviction.or request with
  | some "" => none
  | name => name

namespace EvictionReview

/-- The review of an envelope. -/
def ofEnvelope (review : AdmissionReview) : Except ReviewFault EvictionReview := do
  let some request := review.request | .error .noRequest
  let some object := request.object | .error .noObject
  let some eviction := Eviction.ofValue? object | .error .malformedEviction
  let some name := chosenName? eviction.metadata.name request.name | .error .noPodName
  let some ns := chosenName? eviction.metadata.ns request.ns | .error .noPodNamespace
  .ok ⟨request.uid, ⟨name, ns⟩, request.dryRun.getD false⟩

/-- The review in a JSON text. -/
def read (body : List UInt8) : Except ReviewFault EvictionReview :=
  match AdmissionReview.ofBytes? body with
  | some review => ofEnvelope review
  | none => .error .malformedReview

end EvictionReview

end EvictionGate
