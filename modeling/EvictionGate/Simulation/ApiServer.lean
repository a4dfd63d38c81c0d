import EvictionGate.Cluster.Memory
import EvictionGate.Decision.Deadline
import EvictionGate.Json.MergePatch
import EvictionGate.Kubernetes.ApiRequest

/-!
# A simulated API server

Objects under paths, read by GET and changed by merge patches. A dry run is answered
like the real thing and stores nothing.

Answers can be scripted, to see what the gate makes of a server that is slow, breaks
the connection or talks nonsense. A request takes its script when it arrives and acts
when its delay is over.
-/

namespace EvictionGate

open EvictionGate.Json

/-- An answer prepared for requests of one method to one path. -/
structure Script where
  method : ApiMethod
  path : String
  /-- How many requests it is still for. -/
  uses : Nat
  /-- Whether the request is never answered. -/
  stalls : Bool
  /-- Milliseconds until the request is handled. -/
  delay : Nat
  /-- Whether the connection breaks then. -/
  drops : Bool
  /-- Whether the request acts although its answer is prepared. -/
  applies : Bool
  /-- The prepared status, with the body that goes with it. -/
  status : Option Nat
  body : List UInt8

/-- The objects of a cluster by path, and the scripts for requests to come. -/
structure ApiServer where
  objects : Table String Value
  scripts : List Script
  /-- The requests received, in order. -/
  received : List ApiRequest

namespace ApiServer

/-- A server with objects and nothing scripted. -/
def ofObjects (objects : Table String Value) : ApiServer := ⟨objects, [], []⟩

/-- Takes the first script for a request that has uses left. -/
def takeScript (method : ApiMethod) (path : String) :
    List Script → Option Script × List Script
  | [] => (none, [])
  | s :: rest =>
    if s.method = method && s.path = path && s.uses ≠ 0 then
      (some s, { s with uses := s.uses - 1 } :: rest)
    else
      let (found, rest) := takeScript method path rest
      (found, s :: rest)

/-- The server once a request has arrived, and the script the request takes. -/
def receive (server : ApiServer) (r : ApiRequest) : Option Script × ApiServer :=
  let (script, scripts) := takeScript r.method r.target.path server.scripts
  (script, { server with scripts, received := server.received ++ [r] })

/-- The body of the answer about a path that leads nowhere. -/
def missing (path : String) : Value :=
  .object [
    ("apiVersion", .string "v1"),
    ("code", .ofNat 404),
    ("kind", .string "Status"),
    ("message", .string (path ++ " not found")),
    ("reason", .string "NotFound"),
    ("status", .string "Failure")]

/-- An answer in JSON. -/
def jsonAnswer (status : Nat) (v : Value) : ApiAnswer :=
  .response status (Text.bytes v.text)

/-- Whether a text occurs in another. -/
def occurs (part : List Char) : List Char → Bool
  | [] => part.isEmpty
  | c :: cs => part.isPrefixOf (c :: cs) || occurs part cs

/-- Whether a request asks for a dry run. -/
def isDryRun (r : ApiRequest) : Bool :=
  occurs "dryRun=All".toList (r.target.query.getD "").toList

/-- What the server makes of a request, and the objects after it. -/
def act (server : ApiServer) (r : ApiRequest) : ApiAnswer × ApiServer :=
  match server.objects.get? r.target.path with
  | none => (jsonAnswer 404 (missing r.target.path), server)
  | some object =>
    match r.method with
    | .get => (jsonAnswer 200 object, server)
    | .patch =>
      let patch := (Value.ofBytes? (Text.bytes r.body)).getD .null
      let patched := Value.patched (some object) patch
      let objects :=
        if isDryRun r then server.objects else server.objects.set r.target.path patched
      (jsonAnswer 200 patched, { server with objects })

/-- The answer to a request that has arrived and waited, and the server after it. -/
def answer (server : ApiServer) (r : ApiRequest) : Option Script → ApiAnswer × ApiServer
  | none => server.act r
  | some s =>
    if s.drops then (.broken, server)
    else match s.status with
      | none => server.act r
      | some status =>
        let server := if s.applies then (server.act r).2 else server
        (.response status s.body, server)

/-- How long a request waits; none if it is never answered. -/
def latency : Option Script → Option Nat
  | none => some 0
  | some s => if s.stalls then none else some s.delay

/-- Sends a call to the server. A call for which no request can be written fails at
once, and the server hears nothing. -/
def send (dryRun : Bool) (c : Call) (server : ApiServer) : Exchange ApiServer c :=
  match c.request? dryRun with
  | none => ⟨server, some 0, .error (.api .requestNotBuilt), [], server⟩
  | some r =>
    let (script, sent) := server.receive r
    let (answer, done) := sent.answer r script
    let reply := c.reply answer
    ⟨sent, latency script, reply, c.replyLog reply, done⟩

/-- The annotations of an object as they are; null if there are none. -/
def annotationsOf (v : Value) : Value :=
  (v.at? ["metadata", "annotations"]).getD .null

end ApiServer

end EvictionGate
