import BrowserPods.Config.FolderMounts
import BrowserPods.Config.NodeSelector
import BrowserPods.Config.Tolerations
import BrowserPods.Pod.Basic
import BrowserPods.Settings

/-!
What all browser pods of an operator have in common.  Most of it is inherited from our own pod; the
settings may override a part, and a setting that is blank or cannot be understood overrides
nothing.  Without our own pod only the settings and fixed defaults count.
-/

namespace BrowserPods

open BrowserPods.Text

structure Owner where
  apiVersion : String
  kind : String
  name : String
  uid : String
deriving DecidableEq, Repr

inductive CopyRoute where
  /-- Files are read from the mount that the pods share with us. -/
  | sharedMount
  /-- An archive is streamed out of the pod by a command. -/
  | command
deriving DecidableEq, Repr

/-- What all browser pods of an operator have in common. -/
structure BrowserConfig where
  appName : String
  /-- Our own pod, if it is known. -/
  owner : Option Owner
  sharedMounts : List FolderMount
  /-- The mount where artifacts are kept. -/
  artifactsMount : Option VolumeMount
  hostAliases : List HostAlias
  nodeSelector : Dict String
  tolerations : List Toleration
  imagePullPolicy : String
  imagePullSecrets : List PullSecret
  podSecurityContext : Option Json
  containerSecurityContext : Option Json
  schedulerName : Option String
  requests : Dict String
  limits : Dict String
  persistentVolumeClaim : String
  cacheMountPath : String
deriving Repr

namespace BrowserConfig

/-! ## Labels -/

def appKey : String := "app"

/-- The label that marks the pods of an application's browsers. -/
def markKey : String := "createdBy"

/-- The label that every browser pod keeps, whatever its creator asks for. -/
def markLabels (config : BrowserConfig) : Dict String :=
  .ofList [(markKey, config.appName)]

/-- The labels of a browser pod before those of its creator. -/
def baseLabels (config : BrowserConfig) : Dict String :=
  config.markLabels.insert appKey config.appName

def markSelector (config : BrowserConfig) : String :=
  markKey ++ "=" ++ config.appName

/-- Artifacts are read from the shared mount if there is one. -/
def copyRoute (config : BrowserConfig) : CopyRoute :=
  if config.artifactsMount.isSome then .sharedMount else .command

/-! ## Overrides -/

def usualPullPolicy : String := "Always"

def chooseNodeSelector (written : Option String) (inherited : Dict String) : Dict String :=
  match (setting? written).map NodeSelector.parse with
  | some (.ok selector) => if selector.isEmpty then inherited else selector
  | _ => inherited

def chooseTolerations (written : Option String) (inherited : List Toleration) : List Toleration :=
  match (setting? written).map Tolerations.parse with
  | some (.ok tolerations) => if tolerations.isEmpty then inherited else tolerations
  | _ => inherited

def amounts (cpu memory : Option String) : Dict String :=
  .ofList ([("cpu", setting? cpu), ("memory", setting? memory)].filterMap fun (name, amount) =>
    amount.map fun value => (name, value))

/-! ## Discovery -/

def sharedMountsOf (spec : PodSpec) : List FolderMount :=
  let mounts := ((spec.containers.head?).bind (·.volumeMounts)).getD []
  FolderMounts.shared mounts (spec.volumes.getD [])

/-- The security context of the first container of a name. -/
def securityContextOf (spec : PodSpec) (containerName : String) : Option Json :=
  (spec.containers.find? (·.name = containerName)).bind (·.securityContext)

/-- The configuration that a specification and settings give; a part that the specification lacks
is left empty. -/
def ofSpec (appName : String) (owner : Option Owner) (spec : PodSpec) (settings : Settings) :
    BrowserConfig :=
  let sharedMounts := sharedMountsOf spec
  { appName
    owner
    sharedMounts
    artifactsMount := FolderMounts.artifacts? sharedMounts
    hostAliases := spec.hostAliases.getD []
    nodeSelector := chooseNodeSelector settings.nodeSelector (spec.nodeSelector.getD .empty)
    tolerations := chooseTolerations settings.tolerations (spec.tolerations.getD [])
    imagePullPolicy := (setting? settings.imagePullPolicy).getD usualPullPolicy
    imagePullSecrets := spec.imagePullSecrets.getD []
    podSecurityContext := spec.securityContext
    containerSecurityContext := securityContextOf spec settings.containerName
    schedulerName := setting? spec.schedulerName
    requests := amounts settings.cpuRequest settings.memoryRequest
    limits := amounts settings.cpuLimit settings.memoryLimit
    persistentVolumeClaim := settings.persistentVolumeClaim
    cacheMountPath := settings.volumeMountPath }

/-- The owner that our own pod is; a pod without an identity owns nothing. -/
def ownerOf? (pod : Pod) : Option Owner :=
  pod.metadata.uid.map fun uid =>
    { apiVersion := Pod.apiVersion, kind := Pod.kind, name := pod.name, uid }

def ofPod (pod : Pod) (settings : Settings) : BrowserConfig :=
  ofSpec ((pod.label? appKey).getD settings.appName) (ownerOf? pod) (pod.spec.getD {}) settings

def withoutPod (settings : Settings) : BrowserConfig :=
  ofSpec settings.appName none {} settings

end BrowserConfig

/-- The name of our own pod: the one of the settings, or else the machine's. -/
def ownPodName? (settings : Settings) (machineName : String) : Option String :=
  match setting? settings.podName with
  | some name => some name
  | none => unlessBlank? machineName

end BrowserPods
