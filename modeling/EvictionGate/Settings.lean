import EvictionGate.GateError
import EvictionGate.SocketAddress
import EvictionGate.Tracking.Registry

/-!
# Settings

The gate is configured by environment variables. A variable that is empty counts
as unset, and an unset variable leaves its default. Only an address that cannot be
read makes loading fail.
-/

namespace EvictionGate

/-- A key with its value, of a label or an annotation. -/
structure KeyValue where
  key : String
  value : String
  deriving DecidableEq, Repr

/-- The settings of the gate. -/
structure Settings where
  /-- The label of the pods in the gate's care. -/
  selector : KeyValue
  /-- The annotation that asks for a pod to be moved. -/
  marker : KeyValue
  /-- Whether moved pods are remembered. -/
  tracks : Bool
  trackerKind : TrackerKind
  certFile : String
  keyFile : String
  listen : SocketAddress
  deriving DecidableEq, Repr

/-- The variables of an environment that can be read. -/
abbrev Environment := String → Option String

/-- An environment of bytes. A value that is not UTF-8 cannot be read. -/
def Environment.ofVariables (values : Dict (List UInt8)) : Environment :=
  fun name => (Dict.get? values name).bind Text.ofBytes?

/-- Why settings cannot be loaded. -/
inductive SettingsFault
  | listenAddress (value : String)
  deriving DecidableEq, Repr

namespace SettingsFault

/-- The wording of a fault. -/
def message : SettingsFault → String
  | .listenAddress v =>
    "LISTEN_ADDR '" ++ v ++ "' is not a valid socket address: invalid socket address syntax"

/-- The fault as an error of the gate. -/
def toError (f : SettingsFault) : GateError :=
  .configuration f.message

end SettingsFault

namespace Settings

/-- The settings of an empty environment. -/
def default : Settings where
  selector := ⟨"app", "couchbase"⟩
  marker := ⟨"cao.couchbase.com/reschedule", "true"⟩
  tracks := true
  trackerKind := .couchbaseCluster
  certFile := "/etc/webhook/certs/tls.crt"
  keyFile := "/etc/webhook/certs/tls.key"
  listen := .v4 ⟨0, 0, 0, 0⟩ 8443

/-- The variables that are looked at. -/
def variableNames : List String := [
  "POD_LABEL_SELECTOR_KEY", "POD_LABEL_SELECTOR_VALUE", "RESCHEDULE_ANNOTATION_KEY",
  "RESCHEDULE_ANNOTATION_VALUE", "TRACK_RESCHEDULED_PODS", "TRACK_RESCHEULED_PODS",
  "TRACKING_RESOURCE_TYPE", "TLS_CERT_FILE", "TLS_KEY_FILE", "LISTEN_ADDR"]

/-- The value of a variable that is set and not empty. -/
def valueOf? (env : Environment) (name : String) : Option String :=
  match env name with
  | some "" => none
  | v => v

/-- The switch for remembering pods. Its old, misspelled name still counts where the
new one is unset. -/
def tracksValue? (env : Environment) : Option String :=
  (valueOf? env "TRACK_RESCHEDULED_PODS").or (valueOf? env "TRACK_RESCHEULED_PODS")

/-- The address to listen on. -/
def listen? (env : Environment) : Except SettingsFault SocketAddress :=
  match valueOf? env "LISTEN_ADDR" with
  | none => .ok default.listen
  | some v =>
    match SocketAddress.ofText? v with
    | some address => .ok address
    | none => .error (.listenAddress v)

/-- The settings of an environment. -/
def load (registry : Registry) (env : Environment) : Except SettingsFault Settings := do
  let listen ← listen? env
  let text (name fallback : String) : String := (valueOf? env name).getD fallback
  .ok {
    selector := ⟨text "POD_LABEL_SELECTOR_KEY" default.selector.key,
      text "POD_LABEL_SELECTOR_VALUE" default.selector.value⟩
    marker := ⟨text "RESCHEDULE_ANNOTATION_KEY" default.marker.key,
      text "RESCHEDULE_ANNOTATION_VALUE" default.marker.value⟩
    tracks := ((tracksValue? env).map (· == "true")).getD default.tracks
    trackerKind := ((valueOf? env "TRACKING_RESOURCE_TYPE").map registry.choose).getD
      registry.fallback
    certFile := text "TLS_CERT_FILE" default.certFile
    keyFile := text "TLS_KEY_FILE" default.keyFile
    listen }

/-- What is logged while settings are loaded. -/
def loadLog (registry : Registry) (env : Environment) : Log :=
  ((valueOf? env "TRACKING_RESOURCE_TYPE").map registry.warnings).getD []

/-- Whether a pod is in the gate's care. -/
def selects (c : Settings) (pod : Pod) : Bool :=
  pod.labelAt? c.selector.key == some c.selector.value

/-- Whether a pod has been asked to move. -/
def markerIsOn (c : Settings) (pod : Pod) : Bool :=
  pod.annotationAt? c.marker.key == some c.marker.value

/-- The settings in one line. -/
def summary (c : Settings) : LogLine where
  level := .info
  text := "Configuration loaded: pod_selector=" ++ c.selector.key ++ "=" ++ c.selector.value
    ++ ", reschedule_annotation=" ++ c.marker.key ++ "=" ++ c.marker.value
    ++ ", track_rescheduled_pods=" ++ (if c.tracks then "true" else "false")
    ++ ", tracking_resource=" ++ c.trackerKind.name
    ++ ", listen_addr=" ++ c.listen.text

end Settings

end EvictionGate
