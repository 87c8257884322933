import BrowserPods.BrowserPod.WorkDir
import BrowserPods.Config.Basic

/-!
Browser pods: what is submitted to the cluster for a request.  The pod is a function of the
configuration, the request and the working directory (`BrowserPod.build`).
-/

namespace BrowserPods.BrowserPod

def containerName : String := "selenium-node"

def nameStart (appName nodePort : String) : String := appName ++ "-" ++ nodePort ++ "-"

/-- The command that asks a node for its status until it says that it is ready. -/
def readyCommand (nodePort : String) : List String :=
  ["/bin/sh", "-c",
    "http_proxy=\"\" curl -s http://`hostname -i`:" ++ nodePort
      ++ "/wd/hub/status | jq .value.ready | grep true"]

/-- The probe for readiness.  Nodes may take a while to start, so a minute of failures is
permitted. -/
def readyProbe (nodePort : String) : ExecProbe :=
  { command := readyCommand nodePort
    initialDelaySeconds := 5
    periodSeconds := 1
    timeoutSeconds := 5
    failureThreshold := 60
    successThreshold := 1 }

def archiveCommand (folder : String) : List String := ["tar", "-C", folder, "-c", "."]

/-- The labels of a browser pod.  Those of the request win over those of the owner, except the one
that marks the pod as ours: by it pods are found again. -/
def labels (config : BrowserConfig) (request : BrowserRequest) : Dict String :=
  (config.baseLabels.union request.labels).union config.markLabels

/-- The variables of a browser: those of the request and those of the working directory, which
win. -/
def env (request : BrowserRequest) (workDir : Option WorkDir) : List EnvVar :=
  let merged := match workDir with
    | some workDir => request.env.union workDir.env
    | none => request.env
  merged.entries.map fun (name, value) => { name, value := some value }

def memoryVolume : Volume := .memory "dshm"

def memoryMount : VolumeMount := { name := memoryVolume.name, mountPath := "/dev/shm" }

def cacheStore (config : BrowserConfig) : Volume := .ofClaim "cache" config.persistentVolumeClaim

def cacheMount (config : BrowserConfig) : VolumeMount :=
  { name := (cacheStore config).name, mountPath := config.cacheMountPath }

/-- The volumes of a browser pod: two of its own, then one for each shared mount. -/
def volumes (config : BrowserConfig) : List Volume :=
  memoryVolume :: cacheStore config :: config.sharedMounts.map (·.volume)

def volumeMounts (config : BrowserConfig) : List VolumeMount :=
  memoryMount :: cacheMount config :: config.sharedMounts.map (·.mount)

def unlessEmpty? {α : Type} (items : List α) : Option (List α) :=
  if items.isEmpty then none else some items

def unlessEmptyDict? (d : Dict String) : Option (Dict String) := if d.isEmpty then none else some d

def ownership (owner : Owner) : OwnerReference :=
  { apiVersion := owner.apiVersion
    kind := owner.kind
    name := owner.name
    uid := owner.uid
    controller := some true
    blockOwnerDeletion := some false }

def container (config : BrowserConfig) (request : BrowserRequest) (workDir : Option WorkDir) :
    Container :=
  { name := containerName
    image := some request.image
    imagePullPolicy := some config.imagePullPolicy
    env := some (env request workDir)
    volumeMounts := some (volumeMounts config)
    resources :=
      some
        { limits := unlessEmptyDict? config.limits
          requests := unlessEmptyDict? config.requests }
    readinessProbe := some (readyProbe request.nodePort)
    securityContext := config.containerSecurityContext }

def spec (config : BrowserConfig) (request : BrowserRequest) (workDir : Option WorkDir) : PodSpec :=
  { containers := [container config request workDir]
    volumes := some (volumes config)
    restartPolicy := some "Never"
    schedulerName := config.schedulerName.filter (· ≠ "")
    nodeSelector := unlessEmptyDict? config.nodeSelector
    tolerations := unlessEmpty? config.tolerations
    hostAliases := unlessEmpty? config.hostAliases
    imagePullSecrets := unlessEmpty? config.imagePullSecrets
    securityContext := config.podSecurityContext }

def build (config : BrowserConfig) (request : BrowserRequest) (workDir : Option WorkDir) : Pod :=
  { metadata :=
      { generateName := some (nameStart config.appName request.nodePort)
        labels := some (labels config request)
        ownerReferences := config.owner.map fun owner => [ownership owner] }
    spec := some (spec config request workDir) }

end BrowserPods.BrowserPod
