import BrowserPods.Controller.BrowserRequest
import BrowserPods.Pod.Placement
import BrowserPods.Pod.Schema.Unread
import BrowserPods.Pod.Volume

/-!
Pods: what the program reads off the pods of the cluster and writes into the pods that it creates,
with their JSON form.  Parts of a pod that nothing reads are checked against their schemas and
dropped.
-/

namespace BrowserPods

structure EnvVar where
  name : String
  /-- The literal value; a variable may take its value from elsewhere. -/
  value : Option String := none
  source : Option Json := none
deriving Repr

namespace EnvVar

def toJson (entry : EnvVar) : Json :=
  .object (("name", .string entry.name)
    :: Json.optionalField "value" .string entry.value
    ++ Json.optionalField "valueFrom" id entry.source)

def ofJson? (json : Json) : Option EnvVar := do
  let fields ← json.fields?
  let name ← Json.apiFieldOr? fields "name" Json.text? ""
  let value ← Json.apiField? fields "value" Json.text?
  let source ← Json.apiField? fields "valueFrom" Schema.envVarSource.conform?
  pure { name, value, source }

end EnvVar

structure Resources where
  limits : Option (Dict String) := none
  requests : Option (Dict String) := none
deriving DecidableEq, Repr

namespace Resources

def toJson (resources : Resources) : Json :=
  .object (Json.optionalField "limits" BrowserRequest.dictJson resources.limits
    ++ Json.optionalField "requests" BrowserRequest.dictJson resources.requests)

def ofJson? (json : Json) : Option Resources := do
  let fields ← json.fields?
  let limits ← Json.apiField? fields "limits" (Json.dict? Json.text?)
  let requests ← Json.apiField? fields "requests" (Json.dict? Json.text?)
  if Schema.admits [("claims", Schema.resourceClaims)] fields then pure { limits, requests }
  else none

end Resources

/-- A command that tells from time to time whether a container is ready. -/
structure ExecProbe where
  command : List String
  initialDelaySeconds : Nat
  periodSeconds : Nat
  timeoutSeconds : Nat
  failureThreshold : Nat
  successThreshold : Nat
deriving DecidableEq, Repr

def ExecProbe.toJson (probe : ExecProbe) : Json :=
  .object [("exec", .object [("command", Json.strings probe.command)]),
    ("initialDelaySeconds", .nat probe.initialDelaySeconds),
    ("periodSeconds", .nat probe.periodSeconds), ("timeoutSeconds", .nat probe.timeoutSeconds),
    ("failureThreshold", .nat probe.failureThreshold),
    ("successThreshold", .nat probe.successThreshold)]

structure Container where
  name : String
  image : Option String := none
  imagePullPolicy : Option String := none
  env : Option (List EnvVar) := none
  volumeMounts : Option (List VolumeMount) := none
  resources : Option Resources := none
  readinessProbe : Option ExecProbe := none
  securityContext : Option Json := none
deriving Repr

namespace Container

def toJson (container : Container) : Json :=
  .object (("name", .string container.name)
    :: Json.optionalField "image" .string container.image
    ++ Json.optionalField "imagePullPolicy" .string container.imagePullPolicy
    ++ Json.optionalField "env" (Json.ofList EnvVar.toJson) container.env
    ++ Json.optionalField "volumeMounts" (Json.ofList VolumeMount.toJson) container.volumeMounts
    ++ Json.optionalField "resources" Resources.toJson container.resources
    ++ Json.optionalField "readinessProbe" ExecProbe.toJson container.readinessProbe
    ++ Json.optionalField "securityContext" id container.securityContext)

/-- Reads a container; a probe is not kept. -/
def ofJson? (json : Json) : Option Container := do
  let fields ← json.fields?
  let name ← Json.apiFieldOr? fields "name" Json.text? ""
  let image ← Json.apiField? fields "image" Json.text?
  let imagePullPolicy ← Json.apiField? fields "imagePullPolicy" Json.text?
  let env ← Json.apiField? fields "env" (Json.list? EnvVar.ofJson?)
  let volumeMounts ← Json.apiField? fields "volumeMounts" (Json.list? VolumeMount.ofJson?)
  let resources ← Json.apiField? fields "resources" Resources.ofJson?
  let securityContext ← Json.apiField? fields "securityContext" Schema.securityContext.conform?
  if Schema.admits Schema.containerFields fields then
    pure { name, image, imagePullPolicy, env, volumeMounts, resources, securityContext }
  else none

/-- Reads a container for looking into a pod that runs. -/
def ephemeralOfJson? (json : Json) : Option Container := do
  let fields ← json.fields?
  let container ← ofJson? json
  if Schema.admits [("targetContainerName", .text)] fields then pure container else none

end Container

/-- The object that owns a pod; the cluster deletes the pod with it. -/
structure OwnerReference where
  apiVersion : String
  kind : String
  name : String
  uid : String
  controller : Option Bool := none
  blockOwnerDeletion : Option Bool := none
deriving DecidableEq, Repr

namespace OwnerReference

def toJson (owner : OwnerReference) : Json :=
  .object ([("apiVersion", .string owner.apiVersion), ("kind", .string owner.kind),
      ("name", .string owner.name), ("uid", .string owner.uid)]
    ++ Json.optionalField "controller" .bool owner.controller
    ++ Json.optionalField "blockOwnerDeletion" .bool owner.blockOwnerDeletion)

def ofJson? (json : Json) : Option OwnerReference := do
  let fields ← json.fields?
  let apiVersion ← Json.apiFieldOr? fields "apiVersion" Json.text? ""
  let kind ← Json.apiFieldOr? fields "kind" Json.text? ""
  let name ← Json.apiFieldOr? fields "name" Json.text? ""
  let uid ← Json.apiFieldOr? fields "uid" Json.text? ""
  let controller ← Json.apiField? fields "controller" Json.bool?
  let blockOwnerDeletion ← Json.apiField? fields "blockOwnerDeletion" Json.bool?
  pure { apiVersion, kind, name, uid, controller, blockOwnerDeletion }

end OwnerReference

structure Metadata where
  name : Option String := none
  /-- The beginning of the name that the cluster chooses for a pod without one. -/
  generateName : Option String := none
  uid : Option String := none
  labels : Option (Dict String) := none
  ownerReferences : Option (List OwnerReference) := none
deriving DecidableEq, Repr

namespace Metadata

def toJson (metadata : Metadata) : Json :=
  .object (Json.optionalField "name" .string metadata.name
    ++ Json.optionalField "generateName" .string metadata.generateName
    ++ Json.optionalField "uid" .string metadata.uid
    ++ Json.optionalField "labels" BrowserRequest.dictJson metadata.labels
    ++ Json.optionalField "ownerReferences" (Json.ofList OwnerReference.toJson)
      metadata.ownerReferences)

def ofJson? (json : Json) : Option Metadata := do
  let fields ← json.fields?
  let name ← Json.apiField? fields "name" Json.text?
  let generateName ← Json.apiField? fields "generateName" Json.text?
  let uid ← Json.apiField? fields "uid" Json.text?
  let labels ← Json.apiField? fields "labels" (Json.dict? Json.text?)
  let ownerReferences ← Json.apiField? fields "ownerReferences" (Json.list? OwnerReference.ofJson?)
  if Schema.admits Schema.metadataFields fields then
    pure { name, generateName, uid, labels, ownerReferences }
  else none

end Metadata

structure PodSpec where
  containers : List Container := []
  volumes : Option (List Volume) := none
  restartPolicy : Option String := none
  schedulerName : Option String := none
  nodeSelector : Option (Dict String) := none
  tolerations : Option (List Toleration) := none
  hostAliases : Option (List HostAlias) := none
  imagePullSecrets : Option (List PullSecret) := none
  securityContext : Option Json := none
deriving Repr

namespace PodSpec

def toJson (spec : PodSpec) : Json :=
  .object (("containers", Json.ofList Container.toJson spec.containers)
    :: Json.optionalField "volumes" (Json.ofList Volume.toJson) spec.volumes
    ++ Json.optionalField "restartPolicy" .string spec.restartPolicy
    ++ Json.optionalField "schedulerName" .string spec.schedulerName
    ++ Json.optionalField "nodeSelector" BrowserRequest.dictJson spec.nodeSelector
    ++ Json.optionalField "tolerations" (Json.ofList Toleration.toJson) spec.tolerations
    ++ Json.optionalField "hostAliases" (Json.ofList HostAlias.toJson) spec.hostAliases
    ++ Json.optionalField "imagePullSecrets" (Json.ofList PullSecret.toJson) spec.imagePullSecrets
    ++ Json.optionalField "securityContext" id spec.securityContext)

def ofJson? (json : Json) : Option PodSpec := do
  let fields ← json.fields?
  let containers ← Json.apiFieldOr? fields "containers" (Json.list? Container.ofJson?) []
  let _ ← Json.apiField? fields "initContainers" (Json.list? Container.ofJson?)
  let _ ← Json.apiField? fields "ephemeralContainers" (Json.list? Container.ephemeralOfJson?)
  let volumes ← Json.apiField? fields "volumes" (Json.list? Volume.ofJson?)
  let restartPolicy ← Json.apiField? fields "restartPolicy" Json.text?
  let schedulerName ← Json.apiField? fields "schedulerName" Json.text?
  let nodeSelector ← Json.apiField? fields "nodeSelector" (Json.dict? Json.text?)
  let tolerations ← Json.apiField? fields "tolerations" (Json.list? Toleration.ofJson?)
  let hostAliases ← Json.apiField? fields "hostAliases" (Json.list? HostAlias.ofJson?)
  let imagePullSecrets ← Json.apiField? fields "imagePullSecrets" (Json.list? PullSecret.ofJson?)
  let securityContext ← Json.apiField? fields "securityContext" Schema.podSecurityContext.conform?
  if Schema.admits Schema.podSpecFields fields then
    pure { containers, volumes, restartPolicy, schedulerName, nodeSelector, tolerations,
           hostAliases, imagePullSecrets, securityContext }
  else none

end PodSpec

structure Condition where
  type : String
  status : String
deriving DecidableEq, Repr

def Condition.ofJson? (json : Json) : Option Condition := do
  let fields ← json.fields?
  let type ← Json.apiFieldOr? fields "type" Json.text? ""
  let status ← Json.apiFieldOr? fields "status" Json.text? ""
  if Schema.admits Schema.conditionFields fields then pure { type, status } else none

/-- The state of a container as far as its end is concerned. -/
structure ContainerStatus where
  /-- How the container ended, if it has. -/
  terminated : Option Json := none
deriving Repr

def ContainerStatus.ofJson? (json : Json) : Option ContainerStatus := do
  let fields ← json.fields?
  let state ← Json.apiField? fields "state" Json.fields?
  let states := state.getD []
  let terminated ← Json.apiField? states "terminated" Schema.terminated.conform?
  if Schema.admits Schema.containerStatusFields fields && Schema.admits Schema.otherStates states
  then pure { terminated }
  else none

structure PodStatus where
  conditions : Option (List Condition) := none
  containerStatuses : Option (List ContainerStatus) := none
  podIP : Option String := none
deriving Repr

def PodStatus.ofJson? (json : Json) : Option PodStatus := do
  let fields ← json.fields?
  let conditions ← Json.apiField? fields "conditions" (Json.list? Condition.ofJson?)
  let containerStatuses ←
    Json.apiField? fields "containerStatuses" (Json.list? ContainerStatus.ofJson?)
  let podIP ← Json.apiField? fields "podIP" Json.text?
  if Schema.admits Schema.podStatusFields fields then
    pure { conditions, containerStatuses, podIP }
  else none

structure Pod where
  metadata : Metadata := {}
  spec : Option PodSpec := none
  status : Option PodStatus := none
deriving Repr

namespace Pod

instance : Inhabited Pod := ⟨{}⟩

def apiVersion : String := "v1"

def kind : String := "Pod"

/-- The JSON form of a pod as it is sent to the cluster, which sets the status. -/
def toJson (pod : Pod) : Json :=
  .object ([("apiVersion", .string apiVersion), ("kind", .string kind),
      ("metadata", pod.metadata.toJson)]
    ++ Json.optionalField "spec" PodSpec.toJson pod.spec)

/-- Reads a pod.  Version and kind may be left out, but not differ. -/
def ofJson? (json : Json) : Option Pod := do
  let fields ← json.fields?
  let metadata ← Json.apiFieldOr? fields "metadata" Metadata.ofJson? {}
  let spec ← Json.apiField? fields "spec" PodSpec.ofJson?
  let status ← Json.apiField? fields "status" PodStatus.ofJson?
  if Json.agrees fields "apiVersion" apiVersion && Json.agrees fields "kind" kind then
    pure { metadata, spec, status }
  else none

/-- The name of a pod; a pod without one counts as named by the empty text. -/
def name (pod : Pod) : String := pod.metadata.name.getD ""

def label? (pod : Pod) (key : String) : Option String :=
  pod.metadata.labels.bind (·.get? key)

def firstContainer? (pod : Pod) : Option Container := pod.spec.bind (·.containers.head?)

end Pod

end BrowserPods
