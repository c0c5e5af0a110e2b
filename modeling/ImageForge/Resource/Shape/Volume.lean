import ImageForge.Resource.Shape.Metadata
/-!
The shapes of volumes and of the many places that their contents come from.
-/

namespace ImageForge.Shape

/-- One key of a map of texts, and the path of the file that holds its value. -/
def keyToPath : Shape := record [always "key" .text, maybe "mode" .int32, always "path" .text]

def objectFieldSelector : Shape := record [maybe "apiVersion" .text, always "fieldPath" .text]

def resourceFieldSelector : Shape :=
  record [maybe "containerName" .text, maybe "divisor" .text, always "resource" .text]

def downwardFile : Shape := record [
  maybe "fieldRef" objectFieldSelector, maybe "mode" .int32, always "path" .text,
  maybe "resourceFieldRef" resourceFieldSelector]

/-- Keys of a named map of texts, as files. -/
def namedItems : List (String × Bool × Shape) :=
  [maybe "items" (.list keyToPath), always "name" .text, maybe "optional" .boolean]

def projection : Shape := record [
  maybe "clusterTrustBundle" (record [
    maybe "labelSelector" labelSelector, maybe "name" .text, maybe "optional" .boolean,
    always "path" .text, maybe "signerName" .text]),
  maybe "configMap" (record namedItems),
  maybe "downwardAPI" (record [maybe "items" (.list downwardFile)]),
  maybe "secret" (record namedItems),
  maybe "serviceAccountToken" (record [
    maybe "audience" .text, maybe "expirationSeconds" .int64, always "path" .text])]

/-- What a claim asks for. -/
def claimSpec : Shape := record [
  maybe "accessModes" texts,
  maybe "dataSource" (record [
    maybe "apiGroup" .text, always "kind" .text, always "name" .text]),
  maybe "dataSourceRef" (record [
    maybe "apiGroup" .text, always "kind" .text, always "name" .text, maybe "namespace" .text]),
  maybe "resources" (record [maybe "limits" textMap, maybe "requests" textMap]),
  maybe "selector" labelSelector,
  maybe "storageClassName" .text,
  maybe "volumeAttributesClassName" .text,
  maybe "volumeMode" .text,
  maybe "volumeName" .text]

/-- Volumes from inside the cluster or the node. -/
def localSources : List (String × Bool × Shape) := [
  maybe "configMap" (record (maybe "defaultMode" .int32 :: namedItems)),
  maybe "downwardAPI" (record [maybe "defaultMode" .int32, maybe "items" (.list downwardFile)]),
  maybe "emptyDir" (record [maybe "medium" .text, maybe "sizeLimit" .text]),
  maybe "ephemeral" (record [maybe "volumeClaimTemplate" (record [
    maybe "metadata" objectMeta, always "spec" claimSpec])]),
  maybe "gitRepo" (record [
    maybe "directory" .text, always "repository" .text, maybe "revision" .text]),
  maybe "hostPath" (record [always "path" .text, maybe "type" .text]),
  maybe "persistentVolumeClaim" (record [always "claimName" .text, maybe "readOnly" .boolean]),
  maybe "projected" (record [maybe "defaultMode" .int32, maybe "sources" (.list projection)]),
  maybe "secret" (record [
    maybe "defaultMode" .int32, maybe "items" (.list keyToPath), maybe "optional" .boolean,
    maybe "secretName" .text])]

/-- Volumes of file servers. -/
def serverSources : List (String × Bool × Shape) := [
  maybe "azureFile" (record [
    maybe "readOnly" .boolean, always "secretName" .text, always "shareName" .text]),
  maybe "cephfs" (record [
    always "monitors" texts, maybe "path" .text, maybe "readOnly" .boolean,
    maybe "secretFile" .text, maybe "secretRef" localReference, maybe "user" .text]),
  maybe "flocker" (record (maybeEach ["datasetName", "datasetUUID"] .text)),
  maybe "glusterfs" (record [
    always "endpoints" .text, always "path" .text, maybe "readOnly" .boolean]),
  maybe "nfs" (record [always "path" .text, maybe "readOnly" .boolean, always "server" .text]),
  maybe "quobyte" (record (maybe "readOnly" .boolean ::
    alwaysEach ["registry", "volume"] .text ++ maybeEach ["group", "tenant", "user"] .text))]

/-- Volumes of block devices. -/
def deviceSources : List (String × Bool × Shape) := [
  maybe "awsElasticBlockStore" (record [
    maybe "fsType" .text, maybe "partition" .int32, maybe "readOnly" .boolean,
    always "volumeID" .text]),
  maybe "azureDisk" (record (maybe "readOnly" .boolean ::
    alwaysEach ["diskName", "diskURI"] .text ++ maybeEach ["cachingMode", "fsType", "kind"] .text)),
  maybe "cinder" (record [
    maybe "fsType" .text, maybe "readOnly" .boolean, maybe "secretRef" localReference,
    always "volumeID" .text]),
  maybe "csi" (record [
    always "driver" .text, maybe "fsType" .text, maybe "nodePublishSecretRef" localReference,
    maybe "readOnly" .boolean, maybe "volumeAttributes" textMap]),
  maybe "fc" (record [
    maybe "fsType" .text, maybe "lun" .int32, maybe "readOnly" .boolean,
    maybe "targetWWNs" texts, maybe "wwids" texts]),
  maybe "flexVolume" (record [
    always "driver" .text, maybe "fsType" .text, maybe "options" textMap,
    maybe "readOnly" .boolean, maybe "secretRef" localReference]),
  maybe "gcePersistentDisk" (record [
    maybe "fsType" .text, maybe "partition" .int32, always "pdName" .text,
    maybe "readOnly" .boolean]),
  maybe "iscsi" (record (
    maybeEach ["chapAuthDiscovery", "chapAuthSession", "readOnly"] .boolean ++
    maybeEach ["fsType", "initiatorName", "iscsiInterface"] .text ++
    alwaysEach ["iqn", "targetPortal"] .text ++
    [always "lun" .int32, maybe "portals" texts, maybe "secretRef" localReference])),
  maybe "photonPersistentDisk" (record [maybe "fsType" .text, always "pdID" .text]),
  maybe "portworxVolume" (record [
    maybe "fsType" .text, maybe "readOnly" .boolean, always "volumeID" .text]),
  maybe "rbd" (record (
    maybeEach ["fsType", "keyring", "pool", "user"] .text ++
    [always "image" .text, always "monitors" texts, maybe "readOnly" .boolean,
      maybe "secretRef" localReference])),
  maybe "scaleIO" (record (
    maybeEach ["fsType", "protectionDomain", "storageMode", "storagePool", "volumeName"] .text ++
    maybeEach ["readOnly", "sslEnabled"] .boolean ++
    [always "gateway" .text, always "secretRef" localReference, always "system" .text])),
  maybe "storageos" (record (
    maybeEach ["fsType", "volumeName", "volumeNamespace"] .text ++
    [maybe "readOnly" .boolean, maybe "secretRef" localReference])),
  maybe "vsphereVolume" (record (
    maybeEach ["fsType", "storagePolicyID", "storagePolicyName"] .text ++
    [always "volumePath" .text]))]

/-- A volume with its sources; a document may name several. -/
def volume : Shape :=
  record (always "name" .text :: localSources ++ serverSources ++ deviceSources)

end ImageForge.Shape
