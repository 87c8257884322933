import BrowserPods.CommandLine.Scan
import BrowserPods.Settings

/-!
The command line of the program: four commands, each with the settings of an operator, and a
directory for log files that may be given before or after the command.
-/

namespace BrowserPods

open CommandLine

/-- What the program is asked to do. -/
inductive Command where
  /-- Remove leftover pods now and again at the end. -/
  | serve (settings : Settings)
  /-- Remove leftover pods once. -/
  | sweep (settings : Settings)
  /-- Copy the artifacts of a container into a directory. -/
  | copy (settings : Settings) (container folder output : String)
  /-- Show the state of a container. -/
  | status (settings : Settings) (container : String)
deriving DecidableEq, Repr

structure Invocation where
  logDir : Option String
  command : Command
deriving DecidableEq, Repr

namespace CommandLine

/-! ## Options -/

def logDirOption : OptionSpec :=
  { name := "log-dir", envVariable := some "PODGRID_LOG_DIR", isPath := true }

def settingOptions : List OptionSpec :=
  [{ name := "kubeconfig", envVariable := some "KUBECONFIG", isPath := true },
    { name := "namespace", envVariable := some "POD_NAMESPACE" },
    { name := "pod-name", envVariable := some "HOSTNAME" },
    { name := "container-name", envVariable := some "GRID_CONTAINER_NAME"
      default := some "grid" },
    { name := "app-name", envVariable := some "GRID_APP_NAME", default := some "grid" },
    { name := "tolerations", envVariable := some "GRID_KUBERNETES_TOLERATIONS" },
    { name := "node-selector", envVariable := some "GRID_KUBERNETES_NODE_SELECTOR" },
    { name := "persistent-volume-claim", envVariable := some "GRID_PERSISTENT_VOLUME_CLAIM"
      default := some "browsercache-pvc" },
    { name := "volume-mount-path", envVariable := some "GRID_VOLUME_MOUNT_PATH"
      default := some "/home/seluser/.cache/google-chrome/Default/Cache" },
    { name := "image-pull-policy", envVariable := some "GRID_KUBERNETES_IMAGE_PULL_POLICY" },
    { name := "cpu-request", envVariable := some "GRID_KUBERNETES_CPU_REQUEST" },
    { name := "cpu-limit", envVariable := some "GRID_KUBERNETES_CPU_LIMIT" },
    { name := "memory-request", envVariable := some "GRID_KUBERNETES_MEMORY_REQUEST" },
    { name := "memory-limit", envVariable := some "GRID_KUBERNETES_MEMORY_LIMIT" }]

def containerOption : OptionSpec := { name := "container", isRequired := true }

def copyOptions : List OptionSpec :=
  [containerOption, { name := "folder", default := some "/var/log/cont" },
    { name := "output", isPath := true, isRequired := true }]

def ownOptions (command : String) : List OptionSpec :=
  if command = "copy" then copyOptions
  else if command = "status" then [containerOption]
  else []

def envVariables : List String := (logDirOption :: settingOptions).filterMap (·.envVariable)

def commandGrammar (command : String) : Grammar :=
  { options := logDirOption :: settingOptions ++ ownOptions command }

/-- The commands, and the one that tells about them. -/
def commandNames : List String := ["serve", "sweep", "copy", "status", "help"]

def mainGrammar : Grammar :=
  { options := [logDirOption], tellsVersion := true, commands := commandNames }

/-! ## Reading -/

def settingsOf (value : String → Option String) : Settings :=
  { kubeconfig := value "kubeconfig"
    namespaceName := value "namespace"
    podName := value "pod-name"
    containerName := (value "container-name").getD ""
    appName := (value "app-name").getD ""
    tolerations := value "tolerations"
    nodeSelector := value "node-selector"
    persistentVolumeClaim := (value "persistent-volume-claim").getD ""
    volumeMountPath := (value "volume-mount-path").getD ""
    imagePullPolicy := value "image-pull-policy"
    cpuRequest := value "cpu-request"
    cpuLimit := value "cpu-limit"
    memoryRequest := value "memory-request"
    memoryLimit := value "memory-limit" }

def commandOf (name : String) (value : String → Option String) : Command :=
  let settings := settingsOf value
  let text (option : String) : String := (value option).getD ""
  if name = "copy" then .copy settings (text "container") (text "folder") (text "output")
  else if name = "status" then .status settings (text "container")
  else if name = "sweep" then .sweep settings
  else .serve settings

/-- The end of the command that tells about others: only known ones can be asked for, and none of
them has commands of its own. -/
def helpEnd : List String → UsageError
  | [] => .helpWanted
  | [name] => if commandNames.contains name then .helpWanted else .commandUnknown
  | _ => .commandUnknown

/-- Reads the arguments after a command, with the given options and the values of all. -/
def readCommand (env : String → Option String) (name : String) (args : List String) :
    Except UsageError (Scan × List (String × String)) := do
  let grammar := commandGrammar name
  let (scan, _) ← Scan.run grammar {} args
  let settled ← scan.settle
  let values ← settled.complete grammar env
  if Scan.hasRequired grammar values then pure (settled, values) else .error .optionMissing

def withoutCommand (env : String → Option String) (scan : Scan) : UsageError :=
  match scan.settle.bind (·.complete mainGrammar env) with
  | .error error => error
  | .ok values => if values.isEmpty then .nothingGiven else .commandMissing

/-- Reads the arguments of the program.  The directory of log files behind the command wins over
the one before it, and both over the environment. -/
def read (args : List String) (env : String → Option String) : Except UsageError Invocation := do
  let (scan, found) ← Scan.run mainGrammar {} args
  match found with
  | none => .error (withoutCommand env scan)
  | some (name, rest) =>
    if name = "help" then .error (helpEnd rest)
    else
      let (inner, values) ← readCommand env name rest
      let outer ← scan.settle
      let outerValues ← outer.complete mainGrammar env
      let logDir :=
        (inner.given.lookup logDirOption.name).or (outerValues.lookup logDirOption.name)
      pure { logDir, command := commandOf name fun option => values.lookup option }

end CommandLine

end BrowserPods
