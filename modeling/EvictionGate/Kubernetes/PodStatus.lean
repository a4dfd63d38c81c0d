import EvictionGate.Kubernetes.Container

/-!
# How a pod is

What the part of a pod that says how it is doing has to look like.
-/

namespace EvictionGate

open EvictionGate.Json

/-- How a container is or was. -/
def ContainerState.schema : Schema :=
  .options [
    ("running", .options [("startedAt", .instant)]),
    ("terminated", .options [
      ("containerID", .text),
      ("exitCode", .integer 32),
      ("finishedAt", .instant),
      ("message", .text),
      ("reason", .text),
      ("signal", .integer 32),
      ("startedAt", .instant)]),
    ("waiting", .options [("message", .text), ("reason", .text)])]

/-- How a container is doing. -/
def ContainerStatus.schema : Schema :=
  .options [
    ("allocatedResources", .map .text),
    ("containerID", .text),
    ("image", .text),
    ("imageID", .text),
    ("lastState", ContainerState.schema),
    ("name", .text),
    ("ready", .flag),
    ("resources", ResourceRequirements.schema),
    ("restartCount", .integer 32),
    ("started", .flag),
    ("state", ContainerState.schema),
    ("volumeMounts", .list (.options [
      ("mountPath", .text),
      ("name", .text),
      ("readOnly", .flag),
      ("recursiveReadOnly", .text)]))]

/-- Something that holds of a pod or does not. -/
def PodCondition.schema : Schema :=
  .options [
    ("lastProbeTime", .instant),
    ("lastTransitionTime", .instant),
    ("message", .text),
    ("reason", .text),
    ("status", .text),
    ("type", .text)]

/-- What the part of a pod that says how it is doing has to look like. -/
def PodStatus.schema : Schema :=
  .options [
    ("conditions", .list PodCondition.schema),
    ("containerStatuses", .list ContainerStatus.schema),
    ("ephemeralContainerStatuses", .list ContainerStatus.schema),
    ("hostIP", .text),
    ("hostIPs", .list (.options [("ip", .text)])),
    ("initContainerStatuses", .list ContainerStatus.schema),
    ("message", .text),
    ("nominatedNodeName", .text),
    ("phase", .text),
    ("podIP", .text),
    ("podIPs", .list (.options [("ip", .text)])),
    ("qosClass", .text),
    ("reason", .text),
    ("resize", .text),
    ("resourceClaimStatuses", .list (.options [
      ("name", .text), ("resourceClaimName", .text)])),
    ("startTime", .instant)]

end EvictionGate
