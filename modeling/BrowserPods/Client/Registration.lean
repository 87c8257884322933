import BrowserPods.Client.Lifecycle
import BrowserPods.Url.Basic

/-!
Registration of nodes: the pod behind the address of a node.
-/

namespace BrowserPods

def remoteHost (url : Url) : Except FailureCause String :=
  match url.host? with
  | some host => .ok host.name
  | none => .error (.hostMissing url.write)

namespace Client

/-- The registration of the pod with an address, among the pods of the application. -/
def registrationOf (pods : List Pod) (ip : String) : Except FailureCause Registration :=
  match Pod.findByIp? pods ip with
  | some pod => pod.registration
  | none => .error (.nodeUnknown ip)

/-- Finds the pod behind the address of a node. -/
def register (client : Client) (world : World) (url : Url) :
    World × Except Failure Registration :=
  match remoteHost url with
  | .error error => (world, .error { cause := error })
  | .ok ip =>
    match client.listOwn world with
    | (next, .error failure) => (next, .error failure)
    | (next, .ok pods) => (next, (registrationOf pods ip).mapError fun cause => { cause })

end Client

end BrowserPods
