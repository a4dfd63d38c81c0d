import EvictionGate.Log
import EvictionGate.Serving.Watch

/-!
# The listener

The listener accepts connections until it is told to stop. Every connection has a task of its own,
with a watcher for the change that tells it to stop; a task looks for that whenever it has its turn
and is being served, so one whose handshake is still going on comes to know of it as soon as it is
served. The listener waits for the tasks to end, and cuts those that have not ended when the time
for it is up.

Tasks that have ended are only forgotten when the next connection comes, or when the listener waits
for them.
-/

namespace EvictionGate.Serving

/-- How far a connection has come. -/
inductive Stage
  | handshaking
  | serving
  | ended
  deriving DecidableEq, Repr

/-- The task of a connection. -/
structure Member where
  id : Nat
  stage : Stage
  /-- Watches for the change that tells it to stop. -/
  watcher : Watcher
  deriving DecidableEq, Repr

namespace Member

/-- The task once its handshake has succeeded. -/
def secure (m : Member) : Member :=
  if m.stage = .handshaking then { m with stage := .serving } else m

/-- The task at its end. -/
def leave (m : Member) : Member := { m with stage := .ended }

end Member

/-- What a listener is doing. -/
inductive Status
  | accepting
  /-- It accepts nothing and waits for its connections. -/
  | draining
  | stopped
  deriving DecidableEq, Repr

/-- A listener with the tasks of its connections. -/
structure Listener where
  status : Status
  /-- What changes when connections are to stop. -/
  stop : Watched
  /-- The watcher of which every task gets a copy. -/
  watcher : Watcher
  members : List Member
  deriving DecidableEq, Repr

/-- What happens to a listener and to its tasks. -/
inductive Event
  /-- A client wants to connect. -/
  | arrived (id : Nat)
  /-- A client could not be accepted. -/
  | missed (reason : String)
  /-- A handshake has succeeded. -/
  | secured (id : Nat)
  | ended (id : Nat)
  /-- The process has received a signal to stop. -/
  | signalled (name : String)
  /-- A task has its turn. -/
  | polled (id : Nat)
  /-- The listener has its turn, and looks for tasks that have ended. -/
  | joined
  /-- The time for connections to end is up. -/
  | graceOver
  deriving DecidableEq, Repr

/-- What a listener or a task has done about a connection. -/
inductive Order
  /-- A task has been started for it. -/
  | serve (id : Nat)
  | stop (id : Nat)
  | cut (id : Nat)
  deriving DecidableEq, Repr

/-- What has come of an event. -/
structure Reaction where
  listener : Listener
  orders : List Order
  log : Log
  deriving DecidableEq, Repr

/-- How long connections may take to end, in milliseconds. -/
def graceTime : Nat := 10000

namespace Listener

/-- A listener without connections. -/
def start : Listener := ⟨.accepting, .start, .start, []⟩

/-- The line about a listener that has begun. -/
def startLine (address : String) : LogLine :=
  ⟨.info, "Reschedule hook listening on " ++ address⟩

/-- The line about a listener that has stopped. -/
def stopLine : LogLine := ⟨.info, "Reschedule hook stopped"⟩

/-- The line about a client that could not be accepted. -/
def missedLine (reason : String) : LogLine :=
  ⟨.warn, "Failed to accept connection: " ++ reason⟩

/-- The lines about a signal. -/
def signalLog (name : String) (count : Nat) : Log := [
  ⟨.info, "Received " ++ name⟩,
  ⟨.info, "Shutting down, draining " ++ toString count ++ " connection(s)"⟩]

/-- The line about connections that are cut. -/
def cutLine : LogLine :=
  ⟨.warn, "Connections still open after grace period, aborting them"⟩

/-- The tasks that have not ended. -/
def running (l : Listener) : List Member :=
  l.members.filter fun m => m.stage ≠ .ended

/-- Changes the task of a connection. -/
def update (l : Listener) (id : Nat) (change : Member → Member) : Listener :=
  { l with members := l.members.map fun m => if m.id = id then change m else m }

/-- The end of all. -/
def finish (l : Listener) (orders : List Order) (log : Log) : Reaction :=
  ⟨{ l with status := .stopped, members := [] }, orders, log ++ [stopLine]⟩

/-- What a task does in its turn: if it is being served, it looks whether it is to stop. -/
def look (l : Listener) (id : Nat) : Reaction :=
  match l.members.find? fun m => m.id = id && m.stage = .serving with
  | none => ⟨l, [], []⟩
  | some m =>
    match m.watcher.look? l.stop with
    | none => ⟨l, [], []⟩
    | some watcher => ⟨l.update id fun m => { m with watcher }, [.stop id], []⟩

/-- What comes of an event while the listener accepts connections. -/
def accept (l : Listener) : Event → Reaction
  | .arrived id =>
    ⟨{ l with members := l.running ++ [⟨id, .handshaking, l.watcher⟩] }, [.serve id], []⟩
  | .missed reason => ⟨{ l with members := l.running }, [], [missedLine reason]⟩
  | .signalled name =>
    ⟨{ l with status := .draining, stop := l.stop.change }, [], signalLog name l.members.length⟩
  | _ => ⟨l, [], []⟩

/-- What comes of an event while the listener waits for its connections. -/
def drain (l : Listener) : Event → Reaction
  | .joined =>
    if l.running.isEmpty then l.finish [] [] else ⟨{ l with members := l.running }, [], []⟩
  | .graceOver =>
    if l.running.isEmpty then l.finish [] []
    else l.finish (l.running.map fun m => .cut m.id) [cutLine]
  | _ => ⟨l, [], []⟩

/-- What the listener itself does about an event. -/
def act (l : Listener) (e : Event) : Reaction :=
  match l.status with
  | .accepting => l.accept e
  | .draining => l.drain e
  | .stopped => ⟨l, [], []⟩

/-- What comes of an event. -/
def react (l : Listener) : Event → Reaction
  | .secured id => ⟨l.update id Member.secure, [], []⟩
  | .ended id => ⟨l.update id Member.leave, [], []⟩
  | .polled id => l.look id
  | e => l.act e

/-- What comes of events, one after the other. -/
def run (l : Listener) : List Event → Reaction
  | [] => ⟨l, [], []⟩
  | e :: es =>
    let first := l.react e
    let others := first.listener.run es
    ⟨others.listener, first.orders ++ others.orders, first.log ++ others.log⟩

/-- What comes of an event after which all tasks have their turn, and then the listener. -/
def respond (l : Listener) (e : Event) : Reaction :=
  let first := l.react e
  l.run (e :: first.listener.members.map (fun m => .polled m.id) ++ [.joined])

end Listener

end EvictionGate.Serving
