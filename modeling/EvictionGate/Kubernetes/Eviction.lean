import EvictionGate.Kubernetes.ObjectMeta

/-!
# Evictions

The object by which a client of the API asks for a pod to be evicted. It bears the
pod's name and namespace.
-/

namespace EvictionGate

open EvictionGate.Json

/-- A request to evict a pod. -/
structure Eviction where
  metadata : ObjectMeta
  deriving DecidableEq

namespace Eviction

/-- How the pod is to be deleted. -/
def deleteOptionsSchema : Schema :=
  .record [
    ("apiVersion", .optional .text),
    ("dryRun", .optional (.list .text)),
    ("gracePeriodSeconds", .optional (.integer 64)),
    ("kind", .optional .text),
    ("orphanDependents", .optional .flag),
    ("preconditions", .optional (.record [
      ("resourceVersion", .optional .text),
      ("uid", .optional .text)])),
    ("propagationPolicy", .optional .text)]

/-- What an eviction has to look like. -/
def schema : Schema :=
  .record [
    ("apiVersion", .exactly "policy/v1"),
    ("deleteOptions", .optional deleteOptionsSchema),
    ("kind", .exactly "Eviction"),
    ("metadata", .optional ObjectMeta.schema)]

/-- The eviction in a value. -/
def ofValue? (v : Value) : Option Eviction :=
  if v.conforms schema then
    some ⟨((v.get? "metadata").map ObjectMeta.ofValue).getD .empty⟩
  else none

end Eviction

end EvictionGate
