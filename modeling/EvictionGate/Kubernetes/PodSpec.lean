import EvictionGate.Kubernetes.Volume

/-!
# What a pod is to be

What the part of a pod that says how it is to run has to look like.
-/

namespace EvictionGate

open EvictionGate.Json

/-! ## Where a pod may run -/

/-- A condition on nodes. -/
def NodeSelectorTerm.schema : Schema :=
  let requirement : Schema :=
    .options [("key", .text), ("operator", .text), ("values", .list .text)]
  .options [("matchExpressions", .list requirement), ("matchFields", .list requirement)]

/-- A condition on the pods of a node. -/
def PodAffinityTerm.schema : Schema :=
  .options [
    ("labelSelector", LabelSelector.schema),
    ("matchLabelKeys", .list .text),
    ("mismatchLabelKeys", .list .text),
    ("namespaceSelector", LabelSelector.schema),
    ("namespaces", .list .text),
    ("topologyKey", .text)]

/-- The nodes that a pod prefers and those that it needs. -/
def NodeAffinity.schema : Schema :=
  .options [
    ("preferredDuringSchedulingIgnoredDuringExecution", .list (.options [
      ("preference", NodeSelectorTerm.schema), ("weight", .integer 32)])),
    ("requiredDuringSchedulingIgnoredDuringExecution", .options [
      ("nodeSelectorTerms", .list NodeSelectorTerm.schema)])]

/-- The pods that a pod is kept near or kept away from. -/
def PodAffinity.schema : Schema :=
  .options [
    ("preferredDuringSchedulingIgnoredDuringExecution", .list (.options [
      ("podAffinityTerm", PodAffinityTerm.schema), ("weight", .integer 32)])),
    ("requiredDuringSchedulingIgnoredDuringExecution", .list PodAffinityTerm.schema)]

/-- A taint of nodes that a pod bears. -/
def Toleration.schema : Schema :=
  .options [
    ("effect", .text),
    ("key", .text),
    ("operator", .text),
    ("tolerationSeconds", .integer 64),
    ("value", .text)]

/-- How evenly pods are spread. -/
def TopologySpread.schema : Schema :=
  .options [
    ("labelSelector", LabelSelector.schema),
    ("matchLabelKeys", .list .text),
    ("maxSkew", .integer 32),
    ("minDomains", .integer 32),
    ("nodeAffinityPolicy", .text),
    ("nodeTaintsPolicy", .text),
    ("topologyKey", .text),
    ("whenUnsatisfiable", .text)]

/-! ## How a pod runs -/

/-- The privileges that the containers of a pod share. -/
def PodSecurityContext.schema : Schema :=
  .options [
    ("appArmorProfile", SecurityProfile.schema),
    ("fsGroup", .integer 64),
    ("fsGroupChangePolicy", .text),
    ("runAsGroup", .integer 64),
    ("runAsNonRoot", .flag),
    ("runAsUser", .integer 64),
    ("seLinuxOptions", SeLinuxOptions.schema),
    ("seccompProfile", SecurityProfile.schema),
    ("supplementalGroups", .list (.integer 64)),
    ("sysctls", .list (.options [("name", .text), ("value", .text)])),
    ("windowsOptions", WindowsOptions.schema)]

/-- How a pod resolves names. -/
def DnsConfig.schema : Schema :=
  .options [
    ("nameservers", .list .text),
    ("options", .list (.options [("name", .text), ("value", .text)])),
    ("searches", .list .text)]

/-- A resource that is claimed for the containers of a pod. -/
def PodResourceClaim.schema : Schema :=
  .options [
    ("name", .text),
    ("source", .options [
      ("resourceClaimName", .text), ("resourceClaimTemplateName", .text)])]

/-- What the part of a pod that says how it is to run has to look like. -/
def PodSpec.schema : Schema :=
  .options [
    ("activeDeadlineSeconds", .integer 64),
    ("affinity", .options [
      ("nodeAffinity", NodeAffinity.schema),
      ("podAffinity", PodAffinity.schema),
      ("podAntiAffinity", PodAffinity.schema)]),
    ("automountServiceAccountToken", .flag),
    ("containers", .list Container.schema),
    ("dnsConfig", DnsConfig.schema),
    ("dnsPolicy", .text),
    ("enableServiceLinks", .flag),
    ("ephemeralContainers", .list EphemeralContainer.schema),
    ("hostAliases", .list (.options [("hostnames", .list .text), ("ip", .text)])),
    ("hostIPC", .flag),
    ("hostNetwork", .flag),
    ("hostPID", .flag),
    ("hostUsers", .flag),
    ("hostname", .text),
    ("imagePullSecrets", .list LocalReference.schema),
    ("initContainers", .list Container.schema),
    ("nodeName", .text),
    ("nodeSelector", .map .text),
    ("os", .options [("name", .text)]),
    ("overhead", .map .text),
    ("preemptionPolicy", .text),
    ("priority", .integer 32),
    ("priorityClassName", .text),
    ("readinessGates", .list (.options [("conditionType", .text)])),
    ("resourceClaims", .list PodResourceClaim.schema),
    ("restartPolicy", .text),
    ("runtimeClassName", .text),
    ("schedulerName", .text),
    ("schedulingGates", .list (.options [("name", .text)])),
    ("securityContext", PodSecurityContext.schema),
    ("serviceAccount", .text),
    ("serviceAccountName", .text),
    ("setHostnameAsFQDN", .flag),
    ("shareProcessNamespace", .flag),
    ("subdomain", .text),
    ("terminationGracePeriodSeconds", .integer 64),
    ("tolerations", .list Toleration.schema),
    ("topologySpreadConstraints", .list TopologySpread.schema),
    ("volumes", .list Volume.schema)]

end EvictionGate
