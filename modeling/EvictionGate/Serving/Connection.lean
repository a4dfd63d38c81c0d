import EvictionGate.Http1.Answer
import EvictionGate.Http1.Decoder
import EvictionGate.Serving.Intake
import EvictionGate.Webhook

/-!
# Connections

A connection answers one request after the other. It waits for a head, then for the
body if the request is a review, then for the decision; whatever arrives meanwhile
waits its turn. It ends when either side does not want to keep it, when a request
leaves bytes behind that cannot be told from the next request, or on a fault.

Told to stop, a connection on which no request is under way ends at once. Any other
finishes its request and then ends.
-/

namespace EvictionGate.Serving

open EvictionGate.Http EvictionGate.Http1

/-- A request under way. -/
structure Asked where
  version : Version
  method : String
  /-- Whether the client wants to use the connection again. -/
  keepsAlive : Bool
  /-- Whether what this request leaves behind is where the next one begins. -/
  isReadOut : Bool
  deriving DecidableEq, Repr

/-- What a connection waits for. -/
inductive Phase
  /-- A head, of which this many bytes were there when it was last found incomplete. -/
  | head (looked : Nat)
  | body (asked : Asked) (got : List UInt8) (decoder : Decoder)
  | decision (asked : Asked) (review : EvictionReview)
  | over
  deriving DecidableEq, Repr

/-- A connection. -/
structure Connection where
  /-- Who is at the other end. -/
  peer : String
  phase : Phase
  intake : Intake
  /-- The version of the last request. -/
  version : Version
  /-- How many requests have been answered. -/
  answered : Nat
  /-- Whether the connection has been told to stop. -/
  stopping : Bool
  deriving DecidableEq, Repr

/-- What has come of an event on a connection. -/
structure Turn where
  connection : Connection
  /-- What is sent to the client. -/
  sent : List UInt8
  log : Log
  deriving DecidableEq, Repr

namespace Turn

/-- A turn after other things were sent and logged. -/
def after (sent : List UInt8) (log : Log) (t : Turn) : Turn :=
  { t with sent := sent ++ t.sent, log := log ++ t.log }

end Turn

/-- What is told to a handler that cannot read a body. -/
def bodyFault : String := "error reading a body from connection"

/-- What clients of another protocol begin with. They get no answer. -/
def otherProtocol : List UInt8 :=
  Text.bytes "PRI * HTTP/2.0\r\n\r\nSM\r\n\r\n"

namespace Connection

/-- A connection with a client. -/
def ofPeer (peer : String) : Connection := ⟨peer, .head 0, .empty, .v11, 0, false⟩

/-- The line about a connection that ends on a fault. -/
def faultLine (c : Connection) : LogLine where
  level := .error
  text := "Error serving connection from " ++ c.peer

/-- Whether the connection has ended. -/
def isOver (c : Connection) : Bool :=
  match c.phase with
  | .over => true
  | _ => false

/-- The end of a connection. -/
def finish (c : Connection) : Connection :=
  { c with phase := .over, intake := .empty }

/-- The end of a connection on a fault. -/
def fail (c : Connection) : Turn :=
  ⟨c.finish, [], [c.faultLine]⟩

/-! ## Reading -/

/-- Reads on until the head is complete or broken or nothing more has arrived, with at
most `count` reads. A head that was incomplete when last looked at is looked at again
only when its end has been read. -/
def lookForHead : Nat → Intake → Nat → Scan Head × Intake × Nat
  | 0, i, looked => (.more, i, looked)
  | count + 1, i, looked =>
    let isNew := !i.bytes.isEmpty && (looked = 0 || Head.holdsEnd (i.bytes.drop (looked - 3)))
    match if isNew then Head.read i.bytes else .more with
    | .more =>
      let length := i.bytes.length
      if Appetite.most ≤ length then (.refused .headersTooLarge, i, length)
      else
        let i := i.prepare false
        match i.take? with
        | none => (.more, i, length)
        | some i => lookForHead count i length
    | s => (s, i, looked)

/-- The next piece of a body, with at most `count` reads. -/
def nextPiece (isInUse : Bool) : Nat → Decoder → Intake → BodyPiece × Intake
  | 0, d, i => (.more d, i)
  | count + 1, d, i =>
    match d.read i.bytes with
    | .more next =>
      let i := (i.leave []).prepare isInUse
      match i.take? with
      | none => (.more next, i)
      | some i => nextPiece isInUse count next i
    | .data bytes next rest => (.data bytes next rest, i.leave rest)
    | .last bytes rest => (.last bytes rest, i.leave rest)
    | .broken => (.broken, i)

/-- What has come of reading a body. -/
inductive Gathered
  | more (got : List UInt8) (next : Decoder)
  | done (body : List UInt8)
  | broken
  deriving DecidableEq, Repr

/-- Reads on in a body of which `got` has been read until it ends or nothing more has
arrived, with at most `count` pieces. -/
def gather (isInUse : Bool) : Nat → List UInt8 → Decoder → Intake → Gathered × Intake
  | 0, got, d, i => (.more got d, i)
  | count + 1, got, d, i =>
    match nextPiece isInUse (i.size + 1) d i with
    | (.data bytes next _, i) => gather true count (got ++ bytes) next i
    | (.last bytes _, i) => (.done (got ++ bytes), i)
    | (.more next, i) => (.more got next, i)
    | (.broken, i) => (.broken, i)

/-- Reads what is at hand of a body that nobody wants, and tells whether it has been read
out. Of a body that the client was not asked to send, one piece is read before the
request is answered and one after it; of another only the latter. -/
def passOver (isAwaited : Bool) (d : Decoder) (i : Intake) : Bool × Intake :=
  let before : BodyPiece × Intake :=
    if isAwaited then (.more d, i) else nextPiece true (i.size + 1) d i
  let after (d : Decoder) (i : Intake) : Bool × Intake :=
    match nextPiece false (i.size + 1) d i with
    | (.last _ _, i) => (true, i)
    | (_, i) => (false, i)
  match before with
  | (.last _ _, i) => (true, i.refill true)
  | (.data _ next _, i) => after next i
  | (.more next, i) => after next i
  | (.broken, i) => (false, i)

/-! ## Answering -/

/-- Refuses a head. -/
def refuse (c : Connection) (fault : HeadFault) : Turn :=
  if otherProtocol.isPrefixOf (c.intake.bytes.dropWhile isLineByte) then c.fail
  else c.fail.after (Answer.refusal c.version fault).bytes []

/-- Answers a request. -/
def answer (c : Connection) (asked : Asked) (response : Response) : Turn :=
  let answer : Answer :=
    ⟨asked.version, asked.method, asked.keepsAlive && !c.stopping, response⟩
  let next := { c with phase := .head 0, answered := c.answered + 1 }
  ⟨if answer.persists && asked.isReadOut && !answer.opensTunnel then next else next.finish,
    answer.bytes, []⟩

/-- Goes on with a body that has been read or is broken. -/
def withBody (c : Connection) (asked : Asked) (body : Body) : Turn :=
  match Webhook.withBody body with
  | .answer log response => (c.answer asked response).after [] log
  | .decide review => ⟨{ c with phase := .decision asked review }, [], []⟩

/-- Goes on with a body that is broken; what follows it cannot be told from it. -/
def breakBody (c : Connection) (asked : Asked) : Turn :=
  { c with intake := .empty }.withBody { asked with isReadOut := false } (.error bodyFault)

/-- Goes on with a request whose head has been read and whose body is still unread. -/
def withHead (c : Connection) (r : Request) (f : Framing) (version : Version) : Turn :=
  let asked (isReadOut : Bool) : Asked := ⟨version, r.method, f.keepsAlive, isReadOut⟩
  let isAwaited := f.expectsContinue && version == .v11
  match Webhook.route r, Decoder.ofLength? f.bodyLength with
  | .answer log response, none =>
    ({ c with intake := c.intake.refill true }.answer (asked true) response).after [] log
  | .answer log response, some d =>
    let (isReadOut, intake) := passOver isAwaited d c.intake
    ({ c with intake }.answer (asked isReadOut) response).after [] log
  | .readBody, none => { c with intake := c.intake.refill true }.withBody (asked true) (.ok [])
  | .readBody, some d =>
    let c := { c with phase := .body (asked true) [] d }
    if isAwaited then ⟨c, Text.bytes continueText, []⟩
    else ⟨{ c with intake := c.intake.refill true }, [], []⟩

/-- Does the next thing that can be done with what has arrived; none if there is
nothing to be done before more arrives or the decision is made. -/
def step? (c : Connection) : Turn ⊕ Connection :=
  match c.phase with
  | .over => .inr c
  | .decision _ _ => .inr { c with intake := c.intake.refill true }
  | .head looked =>
    match lookForHead (c.intake.size + 1) c.intake looked with
    | (.more, intake, looked) => .inr { c with intake, phase := .head looked }
    | (.refused fault, intake, _) => .inl ({ c with intake }.refuse fault)
    | (.found h rest, intake, _) =>
      match h.excess? with
      | some fault => .inl ({ c with intake }.refuse fault)
      | none =>
        let c := { c with intake := intake.leave rest }
        match h.request with
        | .error fault => .inl (c.refuse fault)
        | .ok (r, f) => .inl ({ c with version := h.version }.withHead r f h.version)
  | .body asked got d =>
    match gather (!got.isEmpty) (c.intake.size + 1) got d c.intake with
    | (.more got next, intake) => .inr { c with intake, phase := .body asked got next }
    | (.broken, _) => .inl (c.breakBody asked)
    | (.done body, intake) =>
      .inl ({ c with intake := intake.refill true }.withBody asked (.ok body))

/-- At most `count` steps. -/
def steps : Nat → Connection → Turn
  | 0, c => ⟨c, [], []⟩
  | count + 1, c =>
    match c.step? with
    | .inr c => ⟨c, [], []⟩
    | .inl t => (steps count t.connection).after t.sent t.log

/-- Does all that can be done. A request takes at most two steps, and its head has more
than two bytes. -/
def proceed (c : Connection) : Turn :=
  steps (c.intake.size + 2) c

/-- Takes bytes from the client. -/
def receive (c : Connection) (bytes : List UInt8) : Turn :=
  if c.isOver then ⟨c, [], []⟩ else { c with intake := c.intake.arrive bytes }.proceed

/-- Takes the outcome of the decision that the connection waits for. -/
def conclude (c : Connection) (v : Option Verdict) : Turn :=
  match c.phase with
  | .decision asked review =>
    let (log, response) := Webhook.conclude review v
    let t := c.answer asked response
    t.connection.proceed.after t.sent (log ++ t.log)
  | _ => ⟨c, [], []⟩

/-- Takes the outcome of the decision for a client that is gone: the answer cannot be
sent. -/
def concludeUnheard (c : Connection) (v : Option Verdict) : Turn :=
  match c.phase with
  | .decision _ review => c.fail.after [] (Webhook.conclude review v).1
  | _ => ⟨c, [], []⟩

/-- The client is gone, in good order or not. While bytes of the next request wait
behind a decision, the connection does not notice. -/
def hangUp (c : Connection) (abrupt : Bool) : Turn :=
  let fault := if abrupt then [c.faultLine] else []
  match c.phase with
  | .over => ⟨c, [], []⟩
  | .head _ => ⟨c.finish, [], fault⟩
  | .body asked _ _ =>
    let t := c.breakBody asked
    { t with log := t.log ++ fault }
  | .decision _ _ => if c.intake.bytes.isEmpty then ⟨c.finish, [], fault⟩ else ⟨c, [], []⟩

/-- No head has come in time. -/
def expire (c : Connection) : Turn :=
  c.fail

/-- The connection is told to stop. -/
def stop (c : Connection) : Connection :=
  match c.phase with
  | .head _ =>
    if c.answered ≠ 0 || c.intake.bytes.isEmpty then c.finish else { c with stopping := true }
  | _ => { c with stopping := true }

/-- How long a head may take to arrive, in milliseconds. -/
def headTimeout : Nat := 10000

end Connection

end EvictionGate.Serving
