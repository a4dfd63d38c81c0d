import EvictionGate.Decision.Decide
import EvictionGate.Serving.Connection
import EvictionGate.Serving.Listener
import EvictionGate.Simulation.ApiServer
import EvictionGate.Tls.Handshake
import EvictionGate.Tls.Identity
import EvictionGate.Tls.Record

/-!
# A simulated network

Clients connect to the gate, which serves them before a simulated API server. Time
passes only when it is told to. Whatever is due is an alarm: the end of a handshake's,
a head's or a decision's time, an answer of the API server, the end of the time that
connections have to end. Alarms go off in the order in which they are due, those that
are due together in the order in which they were set.
-/

namespace EvictionGate.Simulation

open EvictionGate.Http1 EvictionGate.Serving

/-- A moment at which something is due, in milliseconds. -/
structure Alarm where
  due : Nat
  /-- How many alarms were set before. -/
  order : Nat
  deriving DecidableEq, Repr

/-- Whether an alarm goes off before another. -/
def Alarm.isBefore (a b : Alarm) : Bool :=
  a.due < b.due || (a.due == b.due && a.order < b.order)

/-- A decision that waits for an answer of the API server. -/
structure Pending where
  review : EvictionReview
  deadline : Alarm
  call : Call
  next : Reply call → Decision
  /-- What was sent, if a request could be written. -/
  request : Option ApiRequest
  script : Option Script
  /-- When the answer comes, if it ever does. -/
  reply : Option Alarm

/-- What a connection that is being served waits for. -/
inductive Wait
  | body
  | head (deadline : Alarm)
  | decision (pending : Pending)
  /-- A verdict that took no call, to be told at once. -/
  | verdict (v : Verdict) (moment : Alarm)

/-- The gate's end of a connection. -/
inductive Endpoint
  /-- It has not been accepted. -/
  | queued
  | handshaking (seen : List UInt8) (deadline : Alarm)
  | serving (connection : Connection) (wait : Wait)
  | over

/-- A connection with its two ends. -/
structure Link where
  id : Nat
  /-- The name of the client. -/
  client : String
  endpoint : Endpoint
  /-- What the client has been sent and has not received. -/
  inbox : List UInt8
  /-- Whether the client has closed its end. -/
  isGone : Bool

/-- What happens when an alarm goes off. -/
inductive Due
  | handshake (id : Nat)
  | head (id : Nat)
  | decision (id : Nat)
  | verdict (id : Nat) (v : Verdict)
  | reply (id : Nat)
  | grace

/-- The gate, its clients, the API server and the time. -/
structure Network where
  settings : Settings
  /-- The public key that clients are shown. -/
  key : Tls.PublicKey
  /-- What clients are called in the log. -/
  peer : String
  listener : Listener
  grace : Option Alarm
  links : List Link
  server : ApiServer
  now : Nat
  alarms : Nat
  log : Log

namespace Network

/-- The gate has just begun to listen. -/
def start (settings : Settings) (key : Tls.PublicKey) (peer : String) (server : ApiServer) :
    Network :=
  ⟨settings, key, peer, .start, none, [], server, 0, 0, []⟩

/-- Whether the gate has not stopped. -/
def isServing (n : Network) : Bool :=
  n.listener.status ≠ .stopped

/-- Lines for the log. -/
def write (n : Network) (log : Log) : Network :=
  { n with log := n.log ++ log }

/-- Sets an alarm. -/
def setAlarm (n : Network) (delay : Nat) : Alarm × Network :=
  (⟨n.now + delay, n.alarms⟩, { n with alarms := n.alarms + 1 })

/-- The link with a number. -/
def link? (n : Network) (id : Nat) : Option Link :=
  n.links.find? fun l => l.id == id

/-- The link that a client has now. -/
def linkOf? (n : Network) (client : String) : Option Link :=
  n.links.reverse.find? fun l => l.client == client

/-- Replaces a link. -/
def setLink (n : Network) (l : Link) : Network :=
  { n with links := n.links.map fun m => if m.id = l.id then l else m }

/-- Puts the gate's end of a link into a state. -/
def setEndpoint (n : Network) (id : Nat) (e : Endpoint) : Network :=
  { n with links := n.links.map fun m => if m.id = id then { m with endpoint := e } else m }

/-- Closes what the gate has left open when it stops. -/
def closeIfStopped (n : Network) : Network :=
  if n.isServing then n
  else { n with grace := none, links := n.links.map fun l => { l with endpoint := .over } }

/-- The end of a connection. -/
def finish (n : Network) (id : Nat) : Network :=
  let r := n.listener.respond (.ended id)
  ({ n with listener := r.listener }.setEndpoint id .over |>.write r.log).closeIfStopped

/-- Tells a connection to stop. -/
def stop (n : Network) (id : Nat) : Network :=
  match n.link? id with
  | some { endpoint := .serving c wait, .. } =>
    let c := c.stop
    if c.isOver then n.finish id else n.setEndpoint id (.serving c wait)
  | _ => n

/-- Carries out what has been done about a connection. One that is to be served has its link. -/
def obey (n : Network) : Order → Network
  | .serve _ => n
  | .stop id => n.stop id
  | .cut id => n.setEndpoint id .over

/-- Something happens to the listener or to a task, and then all have their turn. -/
def notify (n : Network) (e : Event) : Network :=
  let r := n.listener.respond e
  let n := ({ n with listener := r.listener }.write r.log)
  (r.orders.foldl obey n).closeIfStopped

/-- Sends the call that a decision has come to. -/
def send (n : Network) (review : EvictionReview) (deadline : Alarm) (call : Call)
    (next : Reply call → Decision) : Pending × Network :=
  match call.request? review.dryRun with
  | none =>
    let (reply, n) := n.setAlarm 0
    (⟨review, deadline, call, next, none, none, some reply⟩, n)
  | some r =>
    let (script, server) := n.server.receive r
    let n := { n with server }
    match ApiServer.latency script with
    | none => (⟨review, deadline, call, next, some r, script, none⟩, n)
    | some delay =>
      let (reply, n) := n.setAlarm delay
      (⟨review, deadline, call, next, some r, script, some reply⟩, n)

/-- Puts what has come of an event on a connection into effect. -/
def settle (n : Network) (l : Link) (wait : Wait) (before : Connection) (t : Turn) : Network :=
  let l := { l with inbox := if l.isGone then l.inbox else l.inbox ++ t.sent }
  let n := (n.setLink l).write t.log
  match t.connection.phase with
  | .over => n.finish l.id
  | .body _ _ _ => n.setEndpoint l.id (.serving t.connection .body)
  | .head _ =>
    match wait, before.answered == t.connection.answered with
    | .head deadline, true => n.setEndpoint l.id (.serving t.connection (.head deadline))
    | _, _ =>
      let (deadline, n) := n.setAlarm Connection.headTimeout
      n.setEndpoint l.id (.serving t.connection (.head deadline))
  | .decision _ review =>
    match wait, before.answered == t.connection.answered with
    | .decision pending, true => n.setEndpoint l.id (.serving t.connection (.decision pending))
    | _, _ =>
      let (log, standing) := (decideEviction n.settings review.target).settle
      let n := n.write log
      match standing with
      | .ended v =>
        let (moment, n) := n.setAlarm 0
        n.setEndpoint l.id (.serving t.connection (.verdict v moment))
      | .waiting call next =>
        let (deadline, n) := n.setAlarm Webhook.decisionTimeout
        let (pending, n) := n.send review deadline call next
        n.setEndpoint l.id (.serving t.connection (.decision pending))

/-- Ends a decision. -/
def conclude (n : Network) (l : Link) (wait : Wait) (c : Connection) (v : Option Verdict) :
    Network :=
  n.settle l wait c (if l.isGone then c.concludeUnheard v else c.conclude v)

/-- The API server answers, and the decision goes on. -/
def answer (n : Network) (l : Link) (c : Connection) (p : Pending) : Network :=
  let (reply, n) : Reply p.call × Network :=
    match p.request with
    | none => (.error (.api .requestNotBuilt), n)
    | some r =>
      let (answer, server) := n.server.answer r p.script
      (p.call.reply answer, { n with server })
  let (log, standing) := (p.next reply).settle
  let n := n.write (p.call.replyLog reply ++ log)
  match standing with
  | .ended v => n.conclude l (.decision p) c (some v)
  | .waiting call next =>
    let (pending, n) := n.send p.review p.deadline call next
    n.setEndpoint l.id (.serving c (.decision pending))

/-- The line about a handshake that has failed. What the client did wrong is not said. -/
def handshakeFailed : LogLine :=
  ⟨.warn, Tls.Fault.handshakeFailed.toError.message⟩

/-- The line about a handshake that has taken too long. -/
def handshakeTimedOut (peer : String) : LogLine :=
  let fault := Tls.Fault.handshakeTimedOut (.ofMilliseconds Tls.handshakeTimeout)
  ⟨.warn, fault.toError.message ++ " from " ++ peer⟩

/-- Does something to the connection that is served on a link, if there is one. -/
def onServed (n : Network) (id : Nat) (act : Link → Connection → Wait → Network) : Network :=
  match n.link? id with
  | none => n
  | some l =>
    match l.endpoint with
    | .serving c wait => act l c wait
    | _ => n

/-- An alarm goes off. -/
def fire (n : Network) : Due → Network
  | .grace => n.notify .graceOver
  | .handshake id => (n.write [handshakeTimedOut n.peer]).finish id
  | .head id => n.onServed id fun l c wait => n.settle l wait c c.expire
  | .decision id => n.onServed id fun l c wait => n.conclude l wait c none
  | .verdict id v => n.onServed id fun l c wait => n.conclude l wait c (some v)
  | .reply id => n.onServed id fun l c wait =>
    match wait with
    | .decision pending => n.answer l c pending
    | _ => n

/-- The alarms of a link. -/
def linkAlarms (l : Link) : List (Alarm × Due) :=
  match l.endpoint with
  | .handshaking _ deadline => [(deadline, .handshake l.id)]
  | .serving _ (.head deadline) => [(deadline, .head l.id)]
  | .serving _ (.verdict v moment) => [(moment, .verdict l.id v)]
  | .serving _ (.decision p) =>
    (p.deadline, .decision l.id) :: (p.reply.map fun a => (a, .reply l.id)).toList
  | _ => []

/-- All alarms that are set. -/
def allAlarms (n : Network) : List (Alarm × Due) :=
  n.links.flatMap linkAlarms ++ (n.grace.map fun a => (a, .grace)).toList

/-- The first of some alarms. -/
def first? : List (Alarm × Due) → Option (Alarm × Due)
  | [] => none
  | a :: rest =>
    match first? rest with
    | none => some a
    | some b => if b.1.isBefore a.1 then some b else some a

/-- Lets at most `count` alarms go off, none of them later than a moment. -/
def fireUntil (moment : Nat) : Nat → Network → Network
  | 0, n => n
  | count + 1, n =>
    match first? n.allAlarms with
    | none => n
    | some (alarm, due) =>
      if alarm.due ≤ moment then
        fireUntil moment count ({ n with now := max n.now alarm.due }.fire due)
      else n

/-- How many bytes wait to be read on a link. -/
def unreadOn (l : Link) : Nat :=
  match l.endpoint with
  | .serving c _ => c.intake.size
  | _ => 0

/-- More alarms than can go off: every request has bytes of its own, and takes an alarm
for each call, one for its deadline and one for the head after it. -/
def alarmLimit (n : Network) : Nat :=
  8 * (n.links.foldl (fun total l => total + unreadOn l + 1) 1)

/-- Lets time pass up to a moment. -/
def passUntil (n : Network) (moment : Nat) : Network :=
  { n.fireUntil moment n.alarmLimit with now := moment }

/-- Does what can be done now. -/
def rest (n : Network) : Network :=
  n.passUntil n.now

/-! ## What clients do -/

/-- What a client sees when it connects. -/
inductive Connected
  | refused
  /-- The connection stands, without TLS. -/
  | plain
  | handshakeFailed
  | secured (session : Tls.Session)
  deriving DecidableEq, Repr

/-- A new link of a client. -/
def addLink (n : Network) (client : String) (e : Endpoint) : Network :=
  { n with links := n.links ++ [⟨n.links.length, client, e, [], false⟩] }

/-- The gate accepts a client. -/
def accept (n : Network) (client : String) : Nat × Network :=
  let id := n.links.length
  let (deadline, n) := n.setAlarm Tls.handshakeTimeout
  (id, (n.addLink client (.handshaking [] deadline)).notify (.arrived id))

/-- A handshake succeeds, and the gate begins to serve. -/
def secure (n : Network) (id : Nat) : Network :=
  let (deadline, n) := n.setAlarm Connection.headTimeout
  (n.setEndpoint id (.serving (.ofPeer n.peer) (.head deadline))).notify (.secured id)

/-- The client's end of a link is closed, in good order or not. -/
def closeLink (n : Network) (l : Link) (abrupt : Bool) : Network :=
  if l.isGone then n
  else
    let l := { l with isGone := true }
    let n := n.setLink l
    match l.endpoint with
    | .handshaking _ _ => ((n.write [handshakeFailed]).finish l.id).rest
    | .serving c wait => (n.settle l wait c (c.hangUp abrupt)).rest
    | .queued => n
    | .over => n

/-- A client closes its end. -/
def close (n : Network) (client : String) (abrupt : Bool) : Network :=
  match n.linkOf? client with
  | none => n
  | some l => n.closeLink l abrupt

/-- A client drops the link it had before the last one. -/
def dropOlder (n : Network) (client : String) : Network :=
  match (n.links.reverse.filter fun l => l.client == client) with
  | _ :: older :: _ => n.closeLink older true
  | _ => n

/-- A client connects; without a hello it does not speak TLS. What it was connected to
under the same name it drops. -/
def connect (n : Network) (client : String) (hello : Option Tls.Hello) : Connected × Network :=
  match n.listener.status, hello with
  | .stopped, _ => (.refused, n)
  | .draining, none => (.plain, (n.addLink client .queued).dropOlder client)
  | .draining, some _ => (.handshakeFailed, n)
  | .accepting, none => (.plain, (n.accept client).2.rest.dropOlder client)
  | .accepting, some hello =>
    let (id, n) := n.accept client
    (.secured hello.agreed, (n.secure id).rest.dropOlder client)

/-- A handshake is given up. -/
def refuse (n : Network) (l : Link) (r : Tls.Refusal) : Network :=
  let n := n.setLink { l with inbox := l.inbox ++ r.bytes }
  (n.write [handshakeFailed]).finish l.id

/-- A client sends bytes. They are lost if the gate has closed its end. -/
def sendFrom (n : Network) (client : String) (bytes : List UInt8) : Bool × Network :=
  match n.linkOf? client with
  | none => (false, n)
  | some l =>
    if l.isGone then (false, n)
    else match l.endpoint with
      | .over => (false, n)
      | .queued => (true, n)
      | .handshaking seen deadline =>
        let seen := seen ++ bytes
        match Tls.refusal? n.key seen with
        | some r => (true, (n.refuse l r).rest)
        | none => (true, n.setEndpoint l.id (.handshaking seen deadline))
      | .serving c wait => (true, (n.settle l wait c (c.receive bytes)).rest)

/-- What a client has received. -/
structure Received where
  bytes : List UInt8
  /-- Whether the client has seen the end of the stream. -/
  isClosed : Bool
  deriving DecidableEq, Repr

/-- A client receives answers, all that it has been sent if there are not so many. -/
def receive (n : Network) (client : String) (count : Nat) : Received × Network :=
  match n.linkOf? client with
  | none => (⟨[], true⟩, n)
  | some l =>
    match takeAnswers? count l.inbox with
    | some (taken, rest) => (⟨taken, false⟩, n.setLink { l with inbox := rest })
    | none =>
      let isClosed := match l.endpoint with
        | .over => true
        | _ => l.isGone
      (⟨l.inbox, isClosed⟩, n.setLink { l with inbox := [] })

/-- The process receives a signal. -/
def signal (n : Network) (name : String) : Network :=
  match n.listener.status with
  | .accepting =>
    let (grace, n) := n.setAlarm graceTime
    ({ n with grace := some grace }.notify (.signalled name)).rest
  | _ => n

/-- Time passes. -/
def skip (n : Network) (milliseconds : Nat) : Network :=
  n.passUntil (n.now + milliseconds)

/-- An answer of the API server is prepared. -/
def prepare (n : Network) (s : Script) : Network :=
  { n with server := { n.server with scripts := n.server.scripts ++ [s] } }

end Network

end EvictionGate.Simulation
