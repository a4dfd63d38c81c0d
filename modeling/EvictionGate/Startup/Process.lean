import EvictionGate.Serving.Start
import EvictionGate.Startup.Connection
import EvictionGate.Startup.LogFilter

/-!
# The process

A process loads its settings, looks for its API server, and begins to serve; each
step is logged, and the first that fails ends the process. Once it serves, signals are
all that it waits for.
-/

namespace EvictionGate.Startup

/-- Why a process ends before it serves. -/
inductive Fault
  | config (fault : SettingsFault)
  | client (fault : ClientFault)
  | serving (fault : Serving.StartFault)
  deriving DecidableEq, Repr

namespace Fault

/-- What went wrong, and why. -/
def messages : Fault → List String
  | .config fault => [fault.toError.message]
  | .client fault => fault.messages
  | .serving fault => fault.messages

/-- The lines in which a process reports why it ends. Several causes are numbered. -/
def report (f : Fault) : List String :=
  match f.messages with
  | [] => []
  | message :: [] => ["Error: " ++ message]
  | message :: cause :: [] => ["Error: " ++ message, "", "Caused by:", "    " ++ cause]
  | message :: causes =>
    let numbered := causes.zipIdx.map fun (cause, n) => "    " ++ toString n ++ ": " ++ cause
    ("Error: " ++ message) :: "" :: "Caused by:" :: numbered

end Fault

/-- The parts of the program that write to the log. -/
inductive Part
  | process
  | config
  | tracking
  | server

/-- The source of the lines of a part. -/
def Part.source : Part → String
  | .process => "reschedule_hook"
  | .config => "reschedule_hook::config"
  | .tracking => "reschedule_hook::tracking"
  | .server => "reschedule_hook::server"

/-- The lines of a part. -/
def Part.entries (p : Part) (log : Log) : List Entry :=
  log.map fun line => ⟨p.source, line⟩

/-- The variables that a process looks at. -/
def variableNames : List String :=
  Settings.variableNames ++ connectionVariables ++ ["RUST_LOG"]

/-- The files that a process may read at first. -/
def firstFiles (env : Environment) : List String :=
  let identity := match Settings.load .standard env with
    | .ok c => [c.certFile, c.keyFile]
    | .error _ => []
  kubeconfigPaths env ++ identity

/-- How far a process has come, and what it has logged on the way. -/
structure Progress where
  log : List Entry
  outcome : Except Fault Settings

namespace Progress

/-- What follows a line or two. -/
def after (log : List Entry) (p : Progress) : Progress :=
  { p with log := log ++ p.log }

end Progress

/-- Begins to serve. -/
def serve (s : Surroundings) (c : Settings) : Progress :=
  match Serving.start (s.file c.certFile) (s.file c.keyFile) c.listen.text true with
  | .error fault => ⟨[], .error (.serving fault)⟩
  | .ok (_, log) => ⟨Part.server.entries log, .ok c⟩

/-- Makes the client, then begins to serve. -/
def connectAndServe (s : Surroundings) (c : Settings) : Progress :=
  match connect s with
  | .error fault => ⟨[], .error (.client fault)⟩
  | .ok () =>
    (serve s c).after (Part.process.entries [⟨.info, "Connected to Kubernetes cluster"⟩])

/-- Starts the process. -/
def start (s : Surroundings) : Progress :=
  let first := Part.process.entries [⟨.info, "Starting reschedule hook"⟩]
    ++ Part.tracking.entries (Settings.loadLog .standard s.env)
  match Settings.load .standard s.env with
  | .error fault => ⟨first, .error (.config fault)⟩
  | .ok c => (connectAndServe s c).after (first ++ Part.config.entries [c.summary])

/-- What is seen of a process once it has ended. -/
structure Ended where
  code : Nat
  /-- The lines that its filter shows. -/
  log : Log
  errors : List String

/-- The lines that the filter of a process shows. -/
def shown (env : Environment) (entries : List Entry) : Log :=
  (entries.filter (LogFilter.shows (.ofVariable (env "RUST_LOG")))).map Entry.line

/-- What a process that serves logs about the signals it receives. The listener has its turn
after each. -/
def stopLog (signals : List String) : List Entry :=
  Part.server.entries
    (Serving.Listener.start.run (signals.flatMap fun name => [.signalled name, .joined])).log

/-- A process from its start to its end. If it comes to serve, it receives signals. -/
def run (s : Surroundings) (signals : List String) : Ended :=
  let p := start s
  match p.outcome with
  | .error fault => ⟨1, shown s.env p.log, fault.report⟩
  | .ok _ => ⟨0, shown s.env (p.log ++ stopLog signals), []⟩

end EvictionGate.Startup
