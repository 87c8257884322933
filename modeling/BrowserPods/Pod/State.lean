import BrowserPods.Controller.Registration
import BrowserPods.Failure
import BrowserPods.Pod.Basic
import BrowserPods.Text.Port

/-!
What the state of a pod says.  A pod that is not there is not ready, but counts as ended: readiness
must be proven, while a pod that the cluster has forgotten will not come back.
-/

namespace BrowserPods

namespace Pod

def isReady (pod : Pod) : Bool :=
  let conditions := (pod.status.bind (·.conditions)).getD []
  (conditions.find? (·.type = "Ready")).any (·.status = "True")

/-- How the first container that has ended did so. -/
def ending? (pod : Pod) : Option Json :=
  ((pod.status.bind (·.containerStatuses)).getD []).findSome? (·.terminated)

def ip? (pod : Pod) : Option String := pod.status.bind (·.podIP)

/-- The literal value of an environment variable of the first container; the first variable of that
name counts. -/
def literalEnv? (pod : Pod) (name : String) : Option String :=
  ((((pod.firstContainer?).bind (·.env)).getD []).find? (·.name = name)).bind (·.value)

/-- The variable with the port of the live preview. -/
def previewPortVariable : String := "NOVNC_PORT"

def registration (pod : Pod) : Except FailureCause Registration :=
  let done (port : Option UInt16) : Registration :=
    { containerId := pod.name, ipAddress := pod.ip?.getD "", noVncPort := port }
  match pod.literalEnv? previewPortVariable with
  | none => .ok (done none)
  | some value =>
    match readPort? value with
    | some port => .ok (done (some port))
    | none => .error (.previewPortUnusable value pod.name)

/-- The first of some pods with an address. -/
def findByIp? (pods : List Pod) (ip : String) : Option Pod := pods.find? (·.ip? = some ip)

end Pod

/-- Whether a pod that may be missing is ready. -/
def isKnownReady (pod : Option Pod) : Bool := pod.any Pod.isReady

def isGoneOrEnded (pod : Option Pod) : Bool := pod.all (·.ending?.isSome)

end BrowserPods
