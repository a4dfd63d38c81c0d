import EvictionGate.Kubernetes.Container
import EvictionGate.Kubernetes.ObjectMeta

/-!
# Volumes

What a volume of a pod has to look like: its name, and a member for every sort of source.
-/

namespace EvictionGate

open EvictionGate.Json

/-- A condition on labels. -/
def LabelSelector.schema : Schema :=
  .options [
    ("matchExpressions", .list (.options [
      ("key", .text), ("operator", .text), ("values", .list .text)])),
    ("matchLabels", .map .text)]

/-! ## Sources whose content is made of other objects -/

/-- Where a key of a config map or of a secret goes. -/
def KeyToPath.schema : Schema :=
  .options [("key", .text), ("mode", .integer 32), ("path", .text)]

/-- Where a field of the pod goes. -/
def DownwardFile.schema : Schema :=
  .options [
    ("fieldRef", FieldSelector.schema),
    ("mode", .integer 32),
    ("path", .text),
    ("resourceFieldRef", ResourceFieldSelector.schema)]

/-- One of several sources that share a directory. -/
def VolumeProjection.schema : Schema :=
  .options [
    ("clusterTrustBundle", .options [
      ("labelSelector", LabelSelector.schema),
      ("name", .text),
      ("optional", .flag),
      ("path", .text),
      ("signerName", .text)]),
    ("configMap", .options [
      ("items", .list KeyToPath.schema), ("name", .text), ("optional", .flag)]),
    ("downwardAPI", .options [("items", .list DownwardFile.schema)]),
    ("secret", .options [
      ("items", .list KeyToPath.schema), ("name", .text), ("optional", .flag)]),
    ("serviceAccountToken", .options [
      ("audience", .text), ("expirationSeconds", .integer 64), ("path", .text)])]

/-! ## Claims -/

/-- The claim of a volume that is made for the pod, without its metadata. -/
def ClaimSpec.schema : Schema :=
  .options [
    ("accessModes", .list .text),
    ("dataSource", .options [("apiGroup", .text), ("kind", .text), ("name", .text)]),
    ("dataSourceRef", .options [
      ("apiGroup", .text), ("kind", .text), ("name", .text), ("namespace", .text)]),
    ("resources", .options [("limits", .map .text), ("requests", .map .text)]),
    ("selector", LabelSelector.schema),
    ("storageClassName", .text),
    ("volumeAttributesClassName", .text),
    ("volumeMode", .text),
    ("volumeName", .text)]

/-! ## Sources -/

/-- The sources that belong to the cluster or to the node. -/
def Volume.clusterSources : List (String × Schema) := [
  ("configMap", .options [
    ("defaultMode", .integer 32),
    ("items", .list KeyToPath.schema),
    ("name", .text),
    ("optional", .flag)]),
  ("csi", .options [
    ("driver", .text),
    ("fsType", .text),
    ("nodePublishSecretRef", LocalReference.schema),
    ("readOnly", .flag),
    ("volumeAttributes", .map .text)]),
  ("downwardAPI", .options [
    ("defaultMode", .integer 32),
    ("items", .list DownwardFile.schema)]),
  ("emptyDir", .options [("medium", .text), ("sizeLimit", .text)]),
  ("ephemeral", .options [
    ("volumeClaimTemplate", .options [
      ("metadata", ObjectMeta.schema), ("spec", ClaimSpec.schema)])]),
  ("flexVolume", .options [
    ("driver", .text),
    ("fsType", .text),
    ("options", .map .text),
    ("readOnly", .flag),
    ("secretRef", LocalReference.schema)]),
  ("gitRepo", .options [("directory", .text), ("repository", .text), ("revision", .text)]),
  ("hostPath", .options [("path", .text), ("type", .text)]),
  ("persistentVolumeClaim", .options [("claimName", .text), ("readOnly", .flag)]),
  ("projected", .options [
    ("defaultMode", .integer 32),
    ("sources", .list VolumeProjection.schema)]),
  ("secret", .options [
    ("defaultMode", .integer 32),
    ("items", .list KeyToPath.schema),
    ("optional", .flag),
    ("secretName", .text)])]

/-- The sources that are disks of a provider. -/
def Volume.diskSources : List (String × Schema) := [
  ("awsElasticBlockStore", .options [
    ("fsType", .text), ("partition", .integer 32), ("readOnly", .flag), ("volumeID", .text)]),
  ("azureDisk", .options [
    ("cachingMode", .text),
    ("diskName", .text),
    ("diskURI", .text),
    ("fsType", .text),
    ("kind", .text),
    ("readOnly", .flag)]),
  ("cinder", .options [
    ("fsType", .text),
    ("readOnly", .flag),
    ("secretRef", LocalReference.schema),
    ("volumeID", .text)]),
  ("gcePersistentDisk", .options [
    ("fsType", .text), ("partition", .integer 32), ("pdName", .text), ("readOnly", .flag)]),
  ("photonPersistentDisk", .options [("fsType", .text), ("pdID", .text)]),
  ("vsphereVolume", .options [
    ("fsType", .text),
    ("storagePolicyID", .text),
    ("storagePolicyName", .text),
    ("volumePath", .text)])]

/-- The sources that are reached over a network. -/
def Volume.networkSources : List (String × Schema) := [
  ("azureFile", .options [("readOnly", .flag), ("secretName", .text), ("shareName", .text)]),
  ("cephfs", .options [
    ("monitors", .list .text),
    ("path", .text),
    ("readOnly", .flag),
    ("secretFile", .text),
    ("secretRef", LocalReference.schema),
    ("user", .text)]),
  ("fc", .options [
    ("fsType", .text),
    ("lun", .integer 32),
    ("readOnly", .flag),
    ("targetWWNs", .list .text),
    ("wwids", .list .text)]),
  ("flocker", .options [("datasetName", .text), ("datasetUUID", .text)]),
  ("glusterfs", .options [("endpoints", .text), ("path", .text), ("readOnly", .flag)]),
  ("iscsi", .options [
    ("chapAuthDiscovery", .flag),
    ("chapAuthSession", .flag),
    ("fsType", .text),
    ("initiatorName", .text),
    ("iqn", .text),
    ("iscsiInterface", .text),
    ("lun", .integer 32),
    ("portals", .list .text),
    ("readOnly", .flag),
    ("secretRef", LocalReference.schema),
    ("targetPortal", .text)]),
  ("nfs", .options [("path", .text), ("readOnly", .flag), ("server", .text)]),
  ("portworxVolume", .options [("fsType", .text), ("readOnly", .flag), ("volumeID", .text)]),
  ("quobyte", .options [
    ("group", .text),
    ("readOnly", .flag),
    ("registry", .text),
    ("tenant", .text),
    ("user", .text),
    ("volume", .text)]),
  ("rbd", .options [
    ("fsType", .text),
    ("image", .text),
    ("keyring", .text),
    ("monitors", .list .text),
    ("pool", .text),
    ("readOnly", .flag),
    ("secretRef", LocalReference.schema),
    ("user", .text)]),
  ("scaleIO", .options [
    ("fsType", .text),
    ("gateway", .text),
    ("protectionDomain", .text),
    ("readOnly", .flag),
    ("secretRef", LocalReference.schema),
    ("sslEnabled", .flag),
    ("storageMode", .text),
    ("storagePool", .text),
    ("system", .text),
    ("volumeName", .text)]),
  ("storageos", .options [
    ("fsType", .text),
    ("readOnly", .flag),
    ("secretRef", LocalReference.schema),
    ("volumeName", .text),
    ("volumeNamespace", .text)])]

/-- What a volume has to look like. -/
def Volume.schema : Schema :=
  .options (("name", .text) ::
    (Volume.clusterSources ++ Volume.diskSources ++ Volume.networkSources))

end EvictionGate
