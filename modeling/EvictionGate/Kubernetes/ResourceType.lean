/-!
# Resource types

A resource type is what the API server calls the objects of one kind. Its objects
lie under a path made of group, version, namespace and plural; nothing in it is
escaped.
-/

namespace EvictionGate

/-- The type of a resource. The group of the core types is empty. -/
structure ResourceType where
  group : String
  version : String
  kind : String
  plural : String
  deriving DecidableEq, Repr

namespace ResourceType

/-- Group and version in one text. -/
def apiVersion (t : ResourceType) : String :=
  if t.group = "" then t.version else t.group ++ "/" ++ t.version

/-- The path of all objects of a type, in one namespace or everywhere. -/
def path (t : ResourceType) (ns : Option String) : String :=
  let root := if t.group = "" then "/api/" else "/apis/"
  let inside := match ns with
    | some ns => "/namespaces/" ++ ns
    | none => ""
  root ++ t.apiVersion ++ inside ++ "/" ++ t.plural

/-- The type of pods. -/
def pods : ResourceType := ⟨"", "v1", "Pod", "pods"⟩

/-- The type of namespaces. -/
def namespaces : ResourceType := ⟨"", "v1", "Namespace", "namespaces"⟩

/-- The type of database clusters. -/
def couchbaseClusters : ResourceType :=
  ⟨"couchbase.com", "v2", "CouchbaseCluster", "couchbaseclusters"⟩

end ResourceType

end EvictionGate
