import BrowserPods.Pod.Schema

/-!
Sources of volumes.  A volume of our own pod is handed on to browser pods with its source, whatever
kind of source that is.
-/

namespace BrowserPods.Schema

/-- A volume that lives as long as its pod. -/
def emptyDir : Schema := .record [optional "medium" .text, optional "sizeLimit" .text]

/-! ## Files from objects of the cluster -/

/-- Keys that are projected to files. -/
def keyItems : Schema :=
  .list (.record [required "key" .text, optional "mode" .int32, required "path" .text])

/-- Files with what the pod says of itself. -/
def downwardItems : Schema :=
  .list (.record [optional "fieldRef" fieldSelector, optional "mode" .int32,
    required "path" .text, optional "resourceFieldRef" resourceSelector])

/-- An object that is projected to files beside others. -/
def objectProjection : Schema :=
  .record [optional "items" keyItems, optional "name" .text, optional "optional" .flag]

/-- A directory with the files of several objects, such as the access data of a service account. -/
def projected : Schema :=
  .record [optional "defaultMode" .int32,
    optional "sources" (.list (.record [
      optional "configMap" objectProjection,
      optional "downwardAPI" (.record [optional "items" downwardItems]),
      optional "secret" objectProjection,
      optional "serviceAccountToken" (.record [optional "audience" .text,
        optional "expirationSeconds" .int64, required "path" .text])]))]

/-- The sources that are objects of the cluster. -/
def objectSources : List (String × Bool × Schema) :=
  [optional "configMap" (.record [optional "defaultMode" .int32, optional "items" keyItems,
      optional "name" .text, optional "optional" .flag]),
    optional "downwardAPI" (.record [optional "defaultMode" .int32,
      optional "items" downwardItems]),
    optional "projected" projected,
    optional "secret" (.record [optional "defaultMode" .int32, optional "items" keyItems,
      optional "optional" .flag, optional "secretName" .text])]

/-! ## Claims -/

def claimSpec : Schema :=
  .record [optional "accessModes" texts,
    optional "dataSource" (.record [optional "apiGroup" .text, required "kind" .text,
      required "name" .text]),
    optional "dataSourceRef" (.record [optional "apiGroup" .text, required "kind" .text,
      required "name" .text, optional "namespace" .text]),
    optional "resources" resources, optional "selector" labelSelector,
    optional "storageClassName" .text, optional "volumeMode" .text, optional "volumeName" .text]

/-- The sources that are claims: one that is there, and one that is made for the pod. -/
def claimSources : List (String × Bool × Schema) :=
  [optional "ephemeral" (.record [
      optional "volumeClaimTemplate" (.record [optional "metadata" metadata,
        required "spec" claimSpec])]),
    optional "persistentVolumeClaim" (.record [required "claimName" .text,
      optional "readOnly" .flag])]

/-! ## Disks and file systems -/

/-- The sources that are disks or directories of the node, or attached to it. -/
def diskSources : List (String × Bool × Schema) :=
  [optional "awsElasticBlockStore" (.record [optional "fsType" .text,
      optional "partition" .int32, optional "readOnly" .flag, required "volumeID" .text]),
    optional "azureDisk" (.record [optional "cachingMode" .text, required "diskName" .text,
      required "diskURI" .text, optional "fsType" .text, optional "kind" .text,
      optional "readOnly" .flag]),
    optional "cinder" (.record [optional "fsType" .text, optional "readOnly" .flag,
      optional "secretRef" localReference, required "volumeID" .text]),
    optional "fc" (.record [optional "fsType" .text, optional "lun" .int32,
      optional "readOnly" .flag, optional "targetWWNs" texts, optional "wwids" texts]),
    optional "gcePersistentDisk" (.record [optional "fsType" .text, optional "partition" .int32,
      required "pdName" .text, optional "readOnly" .flag]),
    optional "hostPath" (.record [required "path" .text, optional "type" .text]),
    optional "iscsi" (.record [optional "chapAuthDiscovery" .flag,
      optional "chapAuthSession" .flag, optional "fsType" .text, optional "initiatorName" .text,
      required "iqn" .text, optional "iscsiInterface" .text, required "lun" .int32,
      optional "portals" texts, optional "readOnly" .flag, optional "secretRef" localReference,
      required "targetPortal" .text]),
    optional "photonPersistentDisk" (.record [optional "fsType" .text, required "pdID" .text]),
    optional "portworxVolume" (.record [optional "fsType" .text, optional "readOnly" .flag,
      required "volumeID" .text]),
    optional "scaleIO" (.record [optional "fsType" .text, required "gateway" .text,
      optional "protectionDomain" .text, optional "readOnly" .flag,
      required "secretRef" localReference, optional "sslEnabled" .flag,
      optional "storageMode" .text, optional "storagePool" .text, required "system" .text,
      optional "volumeName" .text]),
    optional "storageos" (.record [optional "fsType" .text, optional "readOnly" .flag,
      optional "secretRef" localReference, optional "volumeName" .text,
      optional "volumeNamespace" .text]),
    optional "vsphereVolume" (.record [optional "fsType" .text, optional "storagePolicyID" .text,
      optional "storagePolicyName" .text, required "volumePath" .text])]

/-- The sources that are file systems of a network. -/
def networkSources : List (String × Bool × Schema) :=
  [optional "azureFile" (.record [optional "readOnly" .flag, required "secretName" .text,
      required "shareName" .text]),
    optional "cephfs" (.record [required "monitors" texts, optional "path" .text,
      optional "readOnly" .flag, optional "secretFile" .text, optional "secretRef" localReference,
      optional "user" .text]),
    optional "flocker" (.record [optional "datasetName" .text, optional "datasetUUID" .text]),
    optional "gitRepo" (.record [optional "directory" .text, required "repository" .text,
      optional "revision" .text]),
    optional "glusterfs" (.record [required "endpoints" .text, required "path" .text,
      optional "readOnly" .flag]),
    optional "nfs" (.record [required "path" .text, optional "readOnly" .flag,
      required "server" .text]),
    optional "quobyte" (.record [optional "group" .text, optional "readOnly" .flag,
      required "registry" .text, optional "tenant" .text, optional "user" .text,
      required "volume" .text]),
    optional "rbd" (.record [optional "fsType" .text, required "image" .text,
      optional "keyring" .text, required "monitors" texts, optional "pool" .text,
      optional "readOnly" .flag, optional "secretRef" localReference, optional "user" .text])]

def driverSources : List (String × Bool × Schema) :=
  [optional "csi" (.record [required "driver" .text, optional "fsType" .text,
      optional "nodePublishSecretRef" localReference, optional "readOnly" .flag,
      optional "volumeAttributes" (.dict .text)]),
    optional "flexVolume" (.record [required "driver" .text, optional "fsType" .text,
      optional "options" (.dict .text), optional "readOnly" .flag,
      optional "secretRef" localReference])]

/-- The sources of volumes other than an empty directory. -/
def volumeSources : List (String × Bool × Schema) :=
  objectSources ++ claimSources ++ diskSources ++ networkSources ++ driverSources

end BrowserPods.Schema
