import BrowserPods.BrowserPod.Build
import BrowserPods.Client.Basic
import BrowserPods.Controller.CreationStatus

/-!
Creating and removing the pods of browsers.  A pod that is gone already counts as removed, and one
that cannot be removed does not keep others from being removed.
-/

namespace BrowserPods

structure SweepResult where
  deleted : Nat
  failed : Nat
deriving DecidableEq, Repr

namespace Client

/-- The working directory of the next pod, created as far as possible, if there is a mount for
it. -/
def allocate (client : Client) (world : World) : World × Option WorkDir :=
  match client.config.artifactsMount with
  | none => (world, none)
  | some mount =>
    let workDir := WorkDir.under mount.mountPath (world.freshName world.namesUsed)
    ({ world with tree := workDir.allocate world.tree, namesUsed := world.namesUsed + 1 },
      some workDir)

def create (client : Client) (world : World) (request : BrowserRequest) :
    World × Except Failure CreationStatus :=
  let (allocated, workDir) := client.allocate world
  let pod := BrowserPod.build client.config request workDir
  match ask allocated (·.create client.namespaceName pod) with
  | (next, .ok created) =>
    (next, .ok (.ofName (created.metadata.name.getD request.namePrefix) request.nodePort))
  | (next, .error _) => (next, .error { cause := .podRefused request.namePrefix })

/-- Whether the answer to a deletion says that the pod is gone. -/
def isGone : Except ApiError Unit → Bool
  | .ok () => true
  | .error error => error.hasMissingCode

def delete (client : Client) (world : World) (name : String) : World × Bool :=
  let (next, answer) := ask world (·.delete client.namespaceName name)
  (next, isGone answer)

def stop (client : Client) (world : World) (containerId : String) : World :=
  (client.delete world containerId).1

def deleteAll (client : Client) (world : World) : List String → World × List Bool
  | [] => (world, [])
  | name :: rest =>
    let (next, gone) := client.delete world name
    let (last, results) := client.deleteAll next rest
    (last, gone :: results)

def summarize (results : List Bool) : SweepResult :=
  let deleted := (results.filter id).length
  { deleted, failed := results.length - deleted }

def listOwn (client : Client) (world : World) : World × Except Failure (List Pod) :=
  let selector := client.config.markSelector
  match ask world (·.list client.namespaceName selector) with
  | (next, .ok pods) => (next, .ok pods)
  | (next, .error _) => (next, .error { cause := .podsUnlisted selector })

def sweep (client : Client) (world : World) : World × Except Failure SweepResult :=
  match client.listOwn world with
  | (next, .error failure) => (next, .error failure)
  | (next, .ok pods) =>
    let (last, results) := client.deleteAll next (pods.filterMap (·.metadata.name))
    (last, .ok (summarize results))

/-- Removes leftover pods, whatever comes of it. -/
def cleanUp (client : Client) (world : World) : World := (client.sweep world).1

end Client

end BrowserPods
