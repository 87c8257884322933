/-!
What can go wrong, as causes, with the line for people that each of them gives.
-/

namespace BrowserPods

inductive ConnectionError where
  /-- The file with the access data cannot be read or understood. -/
  | unreadableKubeconfig (path : String)
  /-- The access data name no usable cluster. -/
  | unusableKubeconfig (path : String)
  /-- The access data of a file give no client. -/
  | noClientFromKubeconfig
  /-- No access data are given, and none can be inferred. -/
  | noClient
deriving DecidableEq, Repr

def ConnectionError.detail : ConnectionError → String
  | .unreadableKubeconfig path => "Failed to read kubeconfig file: " ++ path
  | .unusableKubeconfig path => "Failed to create config from kubeconfig: " ++ path
  | .noClientFromKubeconfig => "Failed to create Kubernetes client from custom kubeconfig"
  | .noClient => "Failed to create Kubernetes client"

def ConnectionError.message (error : ConnectionError) : String :=
  "Failed to connect to Kubernetes API: " ++ error.detail

/-- An override of a setting of browser pods that cannot be understood. -/
inductive OverrideError where
  /-- A part of a node selector that is not a key and a value. -/
  | nodeSelectorPart (part : String)
  /-- A text that is no list of tolerations. -/
  | tolerations
deriving DecidableEq, Repr

def OverrideError.variableName : OverrideError → String
  | .nodeSelectorPart _ => "GRID_KUBERNETES_NODE_SELECTOR"
  | .tolerations => "GRID_KUBERNETES_TOLERATIONS"

/-- What was expected instead. -/
def OverrideError.expectation : OverrideError → String
  | .nodeSelectorPart part => "expected key=value, got `" ++ part ++ "`"
  | .tolerations => "expected a YAML list of tolerations"

def OverrideError.message (error : OverrideError) : String :=
  "Invalid value for " ++ error.variableName ++ ": " ++ error.expectation

inductive FailureCause where
  /-- The cluster refuses a pod. -/
  | podRefused (namePrefix : String)
  /-- A pod cannot be looked up. -/
  | podUnknown (podName : String)
  /-- The pods with a label cannot be listed. -/
  | podsUnlisted (selector : String)
  /-- A pod does not say where its shared directory is. -/
  | sharedDirUnset (podName : String)
  /-- No pod has the address of a node. -/
  | nodeUnknown (ip : String)
  /-- The address of a node has no host. -/
  | hostMissing (host : String)
  /-- A pod's port for the live preview is no port. -/
  | previewPortUnusable (value podName : String)
  /-- A command cannot be run in a container. -/
  | commandRefused (containerId : String)
  /-- Artifacts of a container cannot be read. -/
  | artifactUnreadable (containerId : String)
  /-- An artifact cannot be written. -/
  | artifactUnwritable (name path : String)
deriving DecidableEq, Repr

def FailureCause.message : FailureCause → String
  | .podRefused namePrefix => "Failed to create pod with prefix " ++ namePrefix
  | .podUnknown podName => "Failed to look up pod " ++ podName
  | .podsUnlisted selector => "Failed to list pods labelled " ++ selector
  | .sharedDirUnset podName => "SHARED_DIR not present in pod " ++ podName
  | .nodeUnknown ip =>
    "Unable to locate pod by ip address " ++ ip ++ ", registration will fail"
  | .hostMissing host => "Remote host " ++ host ++ " has no host part"
  | .previewPortUnusable value podName =>
    "Invalid preview port `" ++ value ++ "` in pod " ++ podName
  | .commandRefused containerId => "Failed to execute command in " ++ containerId
  | .artifactUnreadable containerId => "Failed to read artifacts of " ++ containerId
  | .artifactUnwritable name path => "Failed to write artifact " ++ name ++ " to " ++ path

/-- An error together with notes on where it arose. -/
structure Failure where
  cause : FailureCause
  notes : List String := []
deriving DecidableEq, Repr

end BrowserPods
