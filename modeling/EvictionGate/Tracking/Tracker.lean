import EvictionGate.Kubernetes.DynamicObject
import EvictionGate.Kubernetes.Pod
import EvictionGate.Kubernetes.ResourceType
import EvictionGate.Target

/-!
# Trackers

When a pod is asked to move, an object outlives it that remembers its name, its
tracker: its namespace, or the database cluster it belongs to. The tracker carries a
flag for the pod, an annotation under a key made of the pod's namespace and name.
-/

namespace EvictionGate

/-- The kind of object on which flags are kept. -/
inductive TrackerKind
  | homeNamespace
  | couchbaseCluster
  deriving DecidableEq, Repr

/-- The object on which a pod's flag is kept. A cluster-wide object is in no namespace. -/
structure Tracker where
  name : String
  ns : Option String
  deriving DecidableEq, Repr

namespace TrackerKind

/-- The name by which an operator chooses the kind. -/
def name : TrackerKind → String
  | .homeNamespace => "namespace"
  | .couchbaseCluster => "couchbasecluster"

/-- The type of the objects. -/
def resourceType : TrackerKind → ResourceType
  | .homeNamespace => .namespaces
  | .couchbaseCluster => .couchbaseClusters

/-- The label by which a pod names its database cluster. -/
def clusterLabel : String := "couchbase_cluster"

/-- The object that remembers a pod; a pod that does not name it has none. -/
def trackerOf? (k : TrackerKind) (pod : Pod) : Option Tracker :=
  match k with
  | .homeNamespace =>
    match pod.ns? with
    | some ns => if ns = "" then none else some ⟨ns, none⟩
    | none => none
  | .couchbaseCluster =>
    match pod.labelAt? clusterLabel with
    | some cluster => if cluster = "" then none else some ⟨cluster, pod.ns?⟩
    | none => none

/-- The upgrade process that brings pods back under their names. -/
def inPlaceUpgrade : String := "InPlaceUpgrade"

/-- Whether pods come back under the same name, so that a flag is due. Every
namespace may see that happen; a database cluster does if it upgrades in place. -/
def recreatesPods (k : TrackerKind) (o : DynamicObject) : Bool :=
  match k with
  | .homeNamespace => true
  | .couchbaseCluster =>
    (o.at? ["spec", "upgradeProcess"]).bind Json.Value.text? == some inPlaceUpgrade

/-- The path of the objects among which an instance lies. -/
def path (k : TrackerKind) (i : Tracker) : String :=
  k.resourceType.path i.ns

end TrackerKind

namespace Target

/-- What the keys of all flags begin with. -/
def flagDomain : String := "reschedule.hook/"

/-- The key of a pod's flag. -/
def flagKey (t : Target) : String :=
  flagDomain ++ t.ns ++ "." ++ t.name

end Target

/-- The value of a flag that counts. -/
def flagValue : String := "true"

end EvictionGate
