import EvictionGate.Text.Utf8
import EvictionGate.Yaml.Document
import EvictionGate.Yaml.Shape

/-!
# Where the API server is

A file of this kind names clusters, users and contexts, each context joining a cluster
and a user, and says which context is meant. A file may hold several documents, and
several files may be merged; what is said first counts. Every document has to have the
prescribed shape, in the parts that do not count too.
-/

namespace EvictionGate.Startup

open EvictionGate.Yaml (Shape Value)

/-- What a document says about a name, and the folder of the file it stands in. -/
structure Named where
  name : String
  value : Value
  folder : String

/-- What such files say. -/
structure Kubeconfig where
  kind : Option String
  version : Option String
  clusters : List Named
  users : List Named
  contexts : List Named
  current : Option String

namespace Kubeconfig

/-- What no file says. -/
def empty : Kubeconfig := ⟨none, none, [], [], [], none⟩

/-! ## The prescribed shape -/

/-- A text that may be left out. -/
def optionalText : Shape := .optional .text

/-- Additions of others, which may be left out. -/
def extensions : String × Shape :=
  ("extensions", .optional (.list (.record [("name", .text), ("extension", .data)])))

/-- A list of names with what is said about them, which may be left out. -/
def names (key : String) (s : Shape) : Shape :=
  .optional (.list (.record [("name", .text), (key, .optional s)]))

/-- A cluster. -/
def cluster : Shape := .record [
  ("server", optionalText), ("insecure-skip-tls-verify", .optional .flag),
  ("certificate-authority", optionalText), ("certificate-authority-data", optionalText),
  ("proxy-url", optionalText), ("disable-compression", .optional .flag),
  ("tls-server-name", optionalText), extensions]

/-- A command that gives credentials. -/
def command : Shape := .record [
  ("apiVersion", optionalText), ("command", optionalText), ("args", .optional (.list .text)),
  ("env", .optional (.list .texts)),
  ("interactiveMode", .optional (.oneOf ["Never", "IfAvailable", "Always"])),
  ("provideClusterInfo", .omissible .flag)]

/-- A user. -/
def user : Shape := .record [
  ("username", optionalText), ("password", optionalText), ("token", optionalText),
  ("tokenFile", optionalText), ("client-certificate", optionalText),
  ("client-certificate-data", optionalText), ("client-key", optionalText),
  ("client-key-data", optionalText), ("as", optionalText),
  ("as-groups", .optional (.list .text)),
  ("auth-provider", .optional (.record [("name", .text), ("config", .omissible .texts)])),
  ("exec", .optional command)]

/-- A context. -/
def context : Shape := .record [
  ("cluster", .text), ("user", optionalText), ("namespace", optionalText), extensions]

/-- A document. -/
def shape : Shape := .record [
  ("preferences", .optional (.record [("colors", .optional .flag), extensions])),
  ("clusters", names "cluster" cluster), ("users", names "user" user),
  ("contexts", names "context" context), ("current-context", optionalText), extensions,
  ("kind", optionalText), ("apiVersion", optionalText)]

/-! ## What files say -/

/-- The text that a mapping gives to a name. -/
def text? (v : Value) (name : String) : Option String :=
  (v.get? name).bind Value.text?

/-- What a list of names says. -/
def named (folder key : String) (v : Option Value) : List Named :=
  ((v.bind Value.items?).getD []).map fun item =>
    ⟨(text? item "name").getD "", (item.get? key).getD .null, folder⟩

/-- What a document of a file in a folder says, if it has the prescribed shape. -/
def ofDocument? (folder : String) (v : Value) : Option Kubeconfig :=
  if shape.fits v then
    some {
      kind := text? v "kind"
      version := text? v "apiVersion"
      clusters := named folder "cluster" (v.get? "clusters")
      users := named folder "user" (v.get? "users")
      contexts := named folder "context" (v.get? "contexts")
      current := text? v "current-context" }
  else none

/-- Whether two documents may both say these. -/
def agree (a b : Option String) : Bool :=
  match a, b with
  | some a, some b => a = b
  | _, _ => true

/-- Two as one, unless they are of different kinds. -/
def merge? (a b : Kubeconfig) : Option Kubeconfig :=
  if agree a.kind b.kind && agree a.version b.version then
    some ⟨a.kind.or b.kind, a.version.or b.version, a.clusters ++ b.clusters, a.users ++ b.users,
      a.contexts ++ b.contexts, a.current.or b.current⟩
  else none

/-- The bytes of a file without the mark of their order. -/
def withoutMark : List UInt8 → List UInt8
  | 0xEF :: 0xBB :: 0xBF :: rest => rest
  | bytes => bytes

/-- What the file at a path says, if it is such a file. -/
def ofBytes? (folder : String) (bytes : List UInt8) : Option Kubeconfig := do
  let text ← Text.ofBytes? (withoutMark bytes)
  let documents ← Yaml.ofText? text.toList
  documents.foldlM (fun k v => do k.merge? (← ofDocument? folder v)) empty

/-- What is said first about a name, unless it is null. -/
def find? (d : List Named) (name : String) : Option Named :=
  (d.find? fun n => n.name = name).filter fun n => !n.value.isNull

/-- The cluster and the user of the context that is meant. A user that nothing is said
about has no credentials. -/
def chosen? (k : Kubeconfig) : Option (Named × Named) := do
  let context ← find? k.contexts (← k.current)
  let cluster ← find? k.clusters (← text? context.value "cluster")
  let user := (text? context.value "user").bind (find? k.users)
  some (cluster, user.getD ⟨"", .null, ""⟩)

end Kubeconfig

end EvictionGate.Startup
