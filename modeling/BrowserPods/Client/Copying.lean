import BrowserPods.Artifact.Archived
import BrowserPods.Artifact.Stored
import BrowserPods.BrowserPod.Build
import BrowserPods.Client.Basic
import BrowserPods.Exec.Running
import BrowserPods.Exec.Transfer

/-!
Copying artifacts out of containers and running commands in them.  Through a command the copy never
fails: whatever goes wrong ends the stream early.  From the shared mount it fails before the first
artifact if the pod or its directory cannot be found.
-/

namespace BrowserPods

/-- The stream of the archive behind an open gate; a gate that opened to nothing has none. -/
def Gate.stream (containerId : String) : Gate → PendingArtifacts
  | .unlocked (some stdout) => Archived.stream containerId stdout
  | _ => []

namespace Client

def copyArchived (client : Client) (world : World) (containerId folder : String) :
    World × PendingArtifacts :=
  let command := BrowserPod.archiveCommand folder
  let session : Session := { containerId, command }
  let (next, answer) := ask world (·.exec client.namespaceName containerId command)
  let last := session.run (ChannelOutcome.ofAnswer answer).events
  (next, last.session.gate.stream containerId)

/-- The stream of the artifacts in a folder of a pod on the shared mount. -/
def sharedStream (tree : FileTree) (containerId folder : String) (pod : Pod) :
    Except Failure PendingArtifacts :=
  match pod.literalEnv? WorkDir.sharedDirVariable with
  | none => .error { cause := .sharedDirUnset containerId }
  | some sharedDir =>
    let dir := Stored.folderPath sharedDir folder
    match Stored.list tree dir with
    | .ok paths => .ok (Stored.stream containerId paths)
    | .error _ =>
      .error { cause := .artifactUnreadable containerId, notes := ["dir: " ++ dir.display] }

def copyStored (client : Client) (world : World) (containerId folder : String) :
    World × Except Failure PendingArtifacts :=
  match ask world (·.get client.namespaceName containerId) with
  | (next, .error _) => (next, .error { cause := .podUnknown containerId })
  | (next, .ok pod) => (next, sharedStream next.tree containerId folder pod)

/-- Copies a folder out of a container in the way that the configuration sets. -/
def copy (client : Client) (world : World) (containerId folder : String) :
    World × Except Failure PendingArtifacts :=
  match client.config.copyRoute with
  | .sharedMount => client.copyStored world containerId folder
  | .command =>
    let (next, stream) := client.copyArchived world containerId folder
    (next, .ok stream)

/-- Runs a command in a container, with the outcome if the channel can be opened and is waited
for. -/
def runCommand (client : Client) (world : World) (containerId : String) (command : List String)
    (wait : Bool) : World × Option HandOver :=
  match ask world (·.exec client.namespaceName containerId command) with
  | (next, .ok frames) =>
    let channel := RunningCommand.ofTranscript (Transcript.ofFrames frames)
    (next, some (channel.handOver wait))
  | (next, .error _) => (next, none)

/-- Runs a command in a container, whatever comes of it. -/
def execute (client : Client) (world : World) (containerId : String) (command : List String)
    (wait : Bool) : World :=
  (client.runCommand world containerId command wait).1

end Client

end BrowserPods
