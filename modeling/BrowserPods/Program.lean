import BrowserPods.Client.Copying
import BrowserPods.Client.Lifecycle
import BrowserPods.Cluster.Access
import BrowserPods.CommandLine.Basic

/-!
What the program does with its arguments: what it prints, the code that it ends with and what
becomes of the world.  A program that serves ends when it is told to stop.
-/

namespace BrowserPods.Program

open BrowserPods.Text

/-- What the program finds when it starts. -/
structure Surroundings where
  env : String → Option String
  /-- The name of the machine. -/
  machineName : String
  /-- The version of the program. -/
  version : String
  /-- The day, as it is written in the names of log files. -/
  date : String
  world : World

/-- How the program ends. -/
structure Ending where
  exitCode : Nat
  output : String
  world : World

def name : String := "podgrid"

def versionLine (version : String) : String := name ++ " " ++ version ++ "\n"

def logName (date : String) : String := name ++ ".log." ++ date

/-- Creates a file unless it is there. -/
def touch (tree : FileTree) (path : Path) : Option FileTree :=
  if tree.reaches path then some tree else (tree.writeFile path []).toOption

def logPath (date dir : String) : Path := (Path.ofText dir).join (Path.ofText (logName date))

/-- Opens the log file of a day in a directory, which is created if it is missing.  Without the file
the program goes on. -/
def openLog (tree : FileTree) (date : String) : Option String → FileTree
  | none => tree
  | some dir =>
    let path := logPath date dir
    match touch tree path with
    | some opened => opened
    | none =>
      match path.parent? with
      | none => tree
      | some parent =>
        let (grown, _) := tree.makeDirectories parent
        (touch grown path).getD grown

def silent (exitCode : Nat) (world : World) : Ending := { exitCode, output := "", world }

/-- The client for settings; without access to the cluster there is none. -/
def openClient (surroundings : Surroundings) (settings : Settings) (world : World) :
    Except ConnectionError (World × Client) :=
  (Access.load world.tree settings.kubeconfig).map fun access =>
    Client.start access.namespaceName surroundings.machineName settings world

def sweepLine (summary : SweepResult) : String :=
  "deleted: " ++ toString summary.deleted ++ ", failed: " ++ toString summary.failed ++ "\n"

/-- Sweeps once; a pod that is left over makes the program fail. -/
def sweep (client : Client) (world : World) : Ending :=
  match client.sweep world with
  | (next, .error _) => silent 1 next
  | (next, .ok summary) =>
    { exitCode := if summary.failed = 0 then 0 else 1, output := sweepLine summary, world := next }

/-- Sweeps at the beginning and, once it is told to stop, at the end. -/
def serve (client : Client) (world : World) : Ending :=
  silent 0 (client.cleanUp (client.cleanUp world))

/-- The report on a container. -/
def reportText (container : String) (ready terminated : Bool) (ip : Option String) : String :=
  (Json.object [("containerId", .string container), ("ready", .bool ready),
    ("terminated", .bool terminated), ("ip", .ofOption .string ip)]).writeIndented ++ "\n"

def status (client : Client) (world : World) (container : String) : Ending :=
  let (first, ready) := client.containerReady world container
  let (second, terminated) := client.containerEnded first container
  let (last, ip) := client.containerIp second container
  { exitCode := 0, output := reportText container ready terminated ip, world := last }

def copyLine (written : Nat) (output : String) : String :=
  toString written ++ " artifacts written to " ++ output ++ "\n"

/-- Copies the artifacts of a container into a directory, which is created first. -/
def copy (client : Client) (world : World) (container folder output : String) : Ending :=
  let dir := Path.ofText output
  match world.tree.makeDirectories dir with
  | (tree, .error _) => silent 1 { world with tree }
  | (tree, .ok ()) =>
    match client.copy { world with tree } container folder with
    | (next, .error _) => silent 1 next
    | (next, .ok stream) =>
      match Artifact.saveAll next.tree dir stream with
      | (grown, .error _) => silent 1 { next with tree := grown }
      | (grown, .ok written) =>
        { exitCode := 0, output := copyLine written output, world := { next with tree := grown } }

def settingsOf : Command → Settings
  | .serve settings => settings
  | .sweep settings => settings
  | .copy settings _ _ _ => settings
  | .status settings _ => settings

def runCommand (client : Client) (world : World) : Command → Ending
  | .serve _ => serve client world
  | .sweep _ => sweep client world
  | .copy _ container folder output => copy client world container folder output
  | .status _ container => status client world container

def run (surroundings : Surroundings) (args : List String) : Ending :=
  match CommandLine.read args surroundings.env with
  | .error error =>
    { exitCode := error.exitCode
      output := if error = .versionWanted then versionLine surroundings.version else ""
      world := surroundings.world }
  | .ok invocation =>
    let start := surroundings.world
    let world :=
      { start with tree := openLog start.tree surroundings.date invocation.logDir }
    match openClient surroundings (settingsOf invocation.command) world with
    | .error _ => silent 1 world
    | .ok (next, client) => runCommand client next invocation.command

/-! ## What arguments say -/

/-- The paths that arguments name: the log file, the access data of the cluster and where artifacts
go. -/
def namedPaths (date : String) (args : List String) (env : String → Option String) : List Path :=
  match CommandLine.read args env with
  | .error _ => []
  | .ok { logDir, command } =>
    let output := match command with
      | .copy _ _ _ output => [Path.ofText output]
      | _ => []
    (logDir.map (logPath date)).toList ++
      ((settingsOf command).kubeconfig.map Path.ofText).toList ++ output

/-- The paths that the access data of the cluster refer to. -/
def accessPaths (tree : FileTree) (args : List String) (env : String → Option String) :
    List Path :=
  match CommandLine.read args env with
  | .error _ => []
  | .ok { command, .. } =>
    match (settingsOf command).kubeconfig with
    | none => []
    | some written => Access.relatedPaths tree (Path.ofText written)

/-- Whether an ending is delayed until the program is told to stop. -/
def waits (surroundings : Surroundings) (args : List String) (ending : Ending) : Bool :=
  match CommandLine.read args surroundings.env with
  | .ok { command := .serve _, .. } => ending.exitCode = 0
  | _ => false

end BrowserPods.Program
