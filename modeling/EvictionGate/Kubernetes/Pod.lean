import EvictionGate.Kubernetes.PodSpec
import EvictionGate.Kubernetes.PodStatus

/-!
# Pods

The gate uses the metadata of a pod only. The other members are checked as those of the
metadata are: a pod in which one of them is not of its kind is not read at all.
-/

namespace EvictionGate

open EvictionGate.Json

/-- A pod, as far as the gate reads it. -/
structure Pod where
  metadata : ObjectMeta
  deriving DecidableEq

namespace Pod

/-- What a pod has to look like. -/
def schema : Schema :=
  .record [
    ("apiVersion", .exactly "v1"),
    ("kind", .exactly "Pod"),
    ("metadata", .optional ObjectMeta.schema),
    ("spec", .optional PodSpec.schema),
    ("status", .optional PodStatus.schema)]

/-- The pod in a value that looks like one. -/
def read (v : Value) : Pod where
  metadata := ((v.get? "metadata").map ObjectMeta.ofValue).getD .empty

/-- The pod in a value. -/
def ofValue? (v : Value) : Option Pod :=
  if v.conforms schema then some (read v) else none

/-- The pod in a JSON text. -/
def ofBytes? (bs : List UInt8) : Option Pod :=
  (schema.ofBytes? bs).map read

/-- A label of the pod. -/
def labelAt? (pod : Pod) (key : String) : Option String :=
  pod.metadata.labelAt? key

/-- An annotation of the pod. -/
def annotationAt? (pod : Pod) (key : String) : Option String :=
  pod.metadata.annotationAt? key

/-- The name of the namespace a pod says it is in. -/
def ns? (pod : Pod) : Option String :=
  pod.metadata.ns

end Pod

end EvictionGate
