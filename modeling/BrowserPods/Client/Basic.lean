import BrowserPods.Cluster.Basic
import BrowserPods.Config.Basic
import BrowserPods.Files.Tree
import BrowserPods.Pod.State

/-!
Clients that look after the pods of browsers.  A client keeps no state of its own for a pod: each
question reads the pod again.
-/

namespace BrowserPods

structure World where
  cluster : Cluster := {}
  tree : FileTree := {}
  /-- The names of working directories, all different. -/
  freshName : Nat → String
  /-- How many of these names are used. -/
  namesUsed : Nat := 0

structure Client where
  config : BrowserConfig
  /-- The namespace of the pods. -/
  namespaceName : String

namespace Client

def ask {α : Type} (world : World)
    (request : Cluster → Cluster × Except ApiError α) : World × Except ApiError α :=
  let (cluster, answer) := request world.cluster
  ({ world with cluster }, answer)

/-! ## Discovery -/

/-- The configuration for our own pod as the cluster knows it, or else the one without it. -/
def learnConfig (namespaceName machineName : String) (settings : Settings) (world : World) :
    World × BrowserConfig :=
  match ownPodName? settings machineName with
  | none => (world, BrowserConfig.withoutPod settings)
  | some name =>
    match ask world (·.get namespaceName name) with
    | (next, .ok pod) => (next, BrowserConfig.ofPod pod settings)
    | (next, .error _) => (next, BrowserConfig.withoutPod settings)

/-- A client for settings; the namespace of the settings wins over the usual one. -/
def start (usualNamespace machineName : String) (settings : Settings) (world : World) :
    World × Client :=
  let namespaceName := settings.namespaceName.getD usualNamespace
  let (next, config) := learnConfig namespaceName machineName settings world
  (next, { config, namespaceName })

/-! ## Questions about a pod -/

def lookUp (client : Client) (world : World) (containerId : String) :
    World × Except ApiError (Option Pod) :=
  match ask world (·.get client.namespaceName containerId) with
  | (next, .ok pod) => (next, .ok (some pod))
  | (next, .error error) => (next, if error.hasMissingReason then .ok none else .error error)

def containerReady (client : Client) (world : World) (containerId : String) : World × Bool :=
  let (next, pod) := client.lookUp world containerId
  (next, match pod with
    | .ok pod => isKnownReady pod
    | .error _ => false)

/-- Whether a container has ended; in doubt it has not. -/
def containerEnded (client : Client) (world : World) (containerId : String) : World × Bool :=
  let (next, pod) := client.lookUp world containerId
  (next, match pod with
    | .ok pod => isGoneOrEnded pod
    | .error _ => false)

def containerIp (client : Client) (world : World) (containerId : String) :
    World × Option String :=
  let (next, pod) := client.lookUp world containerId
  (next, match pod with
    | .ok pod => pod.bind Pod.ip?
    | .error _ => none)

/-- The latest form of an image: the image itself, since it is pulled again when it is needed. -/
def latestImage (image : String) : String := image

end Client

end BrowserPods
