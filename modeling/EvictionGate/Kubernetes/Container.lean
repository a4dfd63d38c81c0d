import EvictionGate.Json.Schema

/-!
# Containers

What a container of a pod has to look like. Nothing of it is used: a pod is read only if
all members that the API names are of their kinds. An amount of a resource is a string.
-/

namespace EvictionGate

open EvictionGate.Json

/-- A reference to an object of the same namespace. -/
def LocalReference.schema : Schema := .options [("name", .text)]

/-! ## Environment -/

/-- A key of a config map or of a secret. -/
def KeySelector.schema : Schema :=
  .options [("key", .text), ("name", .text), ("optional", .flag)]

/-- A field of the pod. -/
def FieldSelector.schema : Schema :=
  .options [("apiVersion", .text), ("fieldPath", .text)]

/-- A resource of a container. -/
def ResourceFieldSelector.schema : Schema :=
  .options [("containerName", .text), ("divisor", .text), ("resource", .text)]

/-- A variable of the environment. -/
def EnvVar.schema : Schema :=
  .options [
    ("name", .text),
    ("value", .text),
    ("valueFrom", .options [
      ("configMapKeyRef", KeySelector.schema),
      ("fieldRef", FieldSelector.schema),
      ("resourceFieldRef", ResourceFieldSelector.schema),
      ("secretKeyRef", KeySelector.schema)])]

/-- A source of variables. -/
def EnvSource.schema : Schema :=
  .options [
    ("configMapRef", .options [("name", .text), ("optional", .flag)]),
    ("prefix", .text),
    ("secretRef", .options [("name", .text), ("optional", .flag)])]

/-! ## Probes and handlers -/

/-- A command that is run in the container. -/
def ExecAction.schema : Schema := .options [("command", .list .text)]

/-- A request to the container. -/
def HttpGetAction.schema : Schema :=
  .options [
    ("host", .text),
    ("httpHeaders", .list (.options [("name", .text), ("value", .text)])),
    ("path", .text),
    ("port", .integerOrText),
    ("scheme", .text)]

/-- A connection to the container. -/
def TcpSocketAction.schema : Schema :=
  .options [("host", .text), ("port", .integerOrText)]

/-- What is done when a container has started or is about to stop. -/
def LifecycleHandler.schema : Schema :=
  .options [
    ("exec", ExecAction.schema),
    ("httpGet", HttpGetAction.schema),
    ("sleep", .options [("seconds", .integer 64)]),
    ("tcpSocket", TcpSocketAction.schema)]

/-- A test of the container that is repeated. -/
def Probe.schema : Schema :=
  .options [
    ("exec", ExecAction.schema),
    ("failureThreshold", .integer 32),
    ("grpc", .options [("port", .integer 32), ("service", .text)]),
    ("httpGet", HttpGetAction.schema),
    ("initialDelaySeconds", .integer 32),
    ("periodSeconds", .integer 32),
    ("successThreshold", .integer 32),
    ("tcpSocket", TcpSocketAction.schema),
    ("terminationGracePeriodSeconds", .integer 64),
    ("timeoutSeconds", .integer 32)]

/-! ## Resources, ports and mounts -/

/-- The resources that a container asks for. -/
def ResourceRequirements.schema : Schema :=
  .options [
    ("claims", .list (.options [("name", .text)])),
    ("limits", .map .text),
    ("requests", .map .text)]

/-- A port of the container. -/
def ContainerPort.schema : Schema :=
  .options [
    ("containerPort", .integer 32),
    ("hostIP", .text),
    ("hostPort", .integer 32),
    ("name", .text),
    ("protocol", .text)]

/-- A volume as the container sees it. -/
def VolumeMount.schema : Schema :=
  .options [
    ("mountPath", .text),
    ("mountPropagation", .text),
    ("name", .text),
    ("readOnly", .flag),
    ("recursiveReadOnly", .text),
    ("subPath", .text),
    ("subPathExpr", .text)]

/-! ## Security -/

/-- A profile of AppArmor or of seccomp. -/
def SecurityProfile.schema : Schema :=
  .options [("localhostProfile", .text), ("type", .text)]

/-- The labels that SELinux goes by. -/
def SeLinuxOptions.schema : Schema :=
  .options [("level", .text), ("role", .text), ("type", .text), ("user", .text)]

/-- What only Windows looks at. -/
def WindowsOptions.schema : Schema :=
  .options [
    ("gmsaCredentialSpec", .text),
    ("gmsaCredentialSpecName", .text),
    ("hostProcess", .flag),
    ("runAsUserName", .text)]

/-- The privileges of a container. -/
def SecurityContext.schema : Schema :=
  .options [
    ("allowPrivilegeEscalation", .flag),
    ("appArmorProfile", SecurityProfile.schema),
    ("capabilities", .options [("add", .list .text), ("drop", .list .text)]),
    ("privileged", .flag),
    ("procMount", .text),
    ("readOnlyRootFilesystem", .flag),
    ("runAsGroup", .integer 64),
    ("runAsNonRoot", .flag),
    ("runAsUser", .integer 64),
    ("seLinuxOptions", SeLinuxOptions.schema),
    ("seccompProfile", SecurityProfile.schema),
    ("windowsOptions", WindowsOptions.schema)]

/-! ## Containers -/

/-- The members that containers of every sort have. -/
def Container.fields : List (String × Schema) := [
  ("args", .list .text),
  ("command", .list .text),
  ("env", .list EnvVar.schema),
  ("envFrom", .list EnvSource.schema),
  ("image", .text),
  ("imagePullPolicy", .text),
  ("lifecycle", .options [
    ("postStart", LifecycleHandler.schema),
    ("preStop", LifecycleHandler.schema)]),
  ("livenessProbe", Probe.schema),
  ("name", .text),
  ("ports", .list ContainerPort.schema),
  ("readinessProbe", Probe.schema),
  ("resizePolicy", .list (.options [("resourceName", .text), ("restartPolicy", .text)])),
  ("resources", ResourceRequirements.schema),
  ("restartPolicy", .text),
  ("securityContext", SecurityContext.schema),
  ("startupProbe", Probe.schema),
  ("stdin", .flag),
  ("stdinOnce", .flag),
  ("terminationMessagePath", .text),
  ("terminationMessagePolicy", .text),
  ("tty", .flag),
  ("volumeDevices", .list (.options [("devicePath", .text), ("name", .text)])),
  ("volumeMounts", .list VolumeMount.schema),
  ("workingDir", .text)]

/-- What a container has to look like. -/
def Container.schema : Schema := .options Container.fields

/-- What a container that is added to a running pod has to look like. -/
def EphemeralContainer.schema : Schema :=
  .options (Container.fields ++ [("targetContainerName", .text)])

end EvictionGate
