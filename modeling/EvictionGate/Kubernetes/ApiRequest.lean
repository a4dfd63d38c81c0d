import EvictionGate.Decision.Tree
import EvictionGate.Http.StatusCode
import EvictionGate.Http.Target
import EvictionGate.Json.Record
import EvictionGate.Kubernetes.AnnotationPatch

/-!
# Calls as requests to the API server

A call to the cluster becomes one HTTP request, or none if no request can be written
for it. Names are put into the target as they are; what comes after a number sign is
lost, and the first question mark starts the query. Every patch of a dry run says
so in its query.

An answer with an error status is an error, in the server's words if they can be
read. Every other answer has to be the object asked for, also after a patch.
-/

namespace EvictionGate

open EvictionGate.Json

/-- What a request to the API server does. -/
inductive ApiMethod
  | get
  | patch
  deriving DecidableEq, Repr

/-- The name of a method. -/
def ApiMethod.name : ApiMethod → String
  | .get => "GET"
  | .patch => "PATCH"

/-- A request to the API server. -/
structure ApiRequest where
  method : ApiMethod
  target : Http.PathAndQuery
  accept : Option String
  contentType : Option String
  body : String
  deriving DecidableEq, Repr

/-- What comes back: an answer, or a broken connection. -/
inductive ApiAnswer
  | response (status : Nat) (body : List UInt8)
  | broken
  deriving DecidableEq, Repr

namespace Call

/-- The path of the objects among which the call's object lies. -/
def collection : Call → String
  | .getPod t => ResourceType.pods.path (some t.ns)
  | .getTracker r i => r.path i
  | .patchTracker r i _ _ => r.path i
  | .patchPod t _ _ => ResourceType.pods.path (some t.ns)

/-- The name of the call's object. -/
def objectName : Call → String
  | .getPod t => t.name
  | .getTracker _ i => i.name
  | .patchTracker _ i _ _ => i.name
  | .patchPod t _ _ => t.name

/-- The patch that a call sends, if it sends one. -/
def patch? : Call → Option String
  | .getPod _ => none
  | .getTracker _ _ => none
  | .patchTracker _ _ key value => some (annotationPatchText key value)
  | .patchPod _ key value => some (annotationPatchText key (some value))

/-- The text of the target before it is read as one. -/
def targetText (c : Call) (dryRun : Bool) : String :=
  let query := if c.isPatch then (if dryRun then "?&dryRun=All" else "?") else ""
  c.collection ++ "/" ++ c.objectName ++ query

/-- The target of a call, if it is one. -/
def target? (c : Call) (dryRun : Bool) : Option Http.PathAndQuery :=
  let text := c.targetText dryRun
  let target := Http.PathAndQuery.ofChars text.toList
  if c.objectName ≠ "" && (Text.bytes text).length ≤ Http.maxTarget && target.isSound then
    some target
  else none

/-- The request that a call becomes. -/
def request? (c : Call) (dryRun : Bool) : Option ApiRequest :=
  (c.target? dryRun).map fun target =>
    match c.patch? with
    | none => ⟨.get, target, none, none, ""⟩
    | some text =>
      ⟨.patch, target, some "application/json", some "application/merge-patch+json", text⟩

/-- What is logged when a call has succeeded. -/
def doneLog : Call → Log
  | .getPod _ => []
  | .getTracker _ _ => []
  | .patchTracker r i key _ =>
    [⟨.debug, "Patched annotation " ++ key ++ " on " ++ r.name ++ " " ++ i.name⟩]
  | .patchPod t key _ =>
    [⟨.debug, "Patched annotation " ++ key ++ " on pod " ++ t.ns ++ "/" ++ t.name⟩]

end Call

namespace ApiStatus

/-- The status in the body of an answer. Message and reason may be left out. -/
def ofBytes? (body : List UInt8) : Option ApiStatus := do
  let fields ← fields? ["status", "message", "reason", "code"] 4 (← read? body)
  let required (name : String) : Option String :=
    (field? fields name .text maxDepth).bind Value.text?
  let given (name : String) : Option String :=
    if Dict.contains fields name then required name else some ""
  let code ← (← field? fields "code" (.integer 64) maxDepth).nat?
  guard (code < 65536)
  some ⟨← required "status", ← given "message", ← given "reason", code⟩

/-- The status made up for an answer whose body says nothing that can be read. -/
def unread (status : Nat) (body : String) : ApiStatus where
  status := Http.statusText status
  message := Text.quoted body
  reason := "Failed to parse error data"
  code := status

/-- The status of an answer with an error status. -/
def ofResponse (status : Nat) (bytes : List UInt8) (body : String) : ApiStatus :=
  (ofBytes? bytes).getD (unread status body)

end ApiStatus

namespace Call

/-- The object in the body of an answer. -/
def read? : (c : Call) → List UInt8 → Option c.Answer
  | .getPod _, body => Pod.ofBytes? body
  | .getTracker _ _, body => DynamicObject.ofBytes? body
  | .patchTracker _ _ _ _, body => (DynamicObject.ofBytes? body).map fun _ => ()
  | .patchPod _ _ _, body => (Pod.ofBytes? body).map fun _ => ()

/-- Whether a status says that the request failed. -/
def isErrorStatus (status : Nat) : Bool :=
  400 ≤ status && status < 600

/-- The reply that an answer makes. -/
def reply (c : Call) : ApiAnswer → Reply c
  | .broken => .error (.api .connection)
  | .response status body =>
    match Text.ofBytes? body with
    | none => .error (.api .notUtf8)
    | some text =>
      if isErrorStatus status then .error (.api (.refused (.ofResponse status body text)))
      else match c.read? body with
        | some answer => .ok answer
        | none => .error (.api .notDecoded)

/-- What is logged about a reply. -/
def replyLog (c : Call) (r : Reply c) : Log :=
  match r with
  | .ok _ => c.doneLog
  | .error _ => []

end Call

end EvictionGate
