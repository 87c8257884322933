import BrowserPods.Program
import Std.Async.Signal

/-!
The program on a real machine.  Of the disk it takes in what its arguments name, of the environment
the variables of its options; then it runs (`Program.run`), prints, and writes down the files and
directories that are new.  Clusters are out of reach of this layer.
-/

namespace BrowserPods.Machine

open BrowserPods.Text

def version : String := "1.0.0"

/-! ## The disk -/

def located (place : Place) : String :=
  "/" ++ "/".intercalate (place.map Utf8.decodeLossy)

/-- What the disk holds at a place; what cannot be read as a file counts as a directory. -/
def readNode? (place : Place) : IO (Option FileNode) := do
  match ← (IO.FS.readBinFile (located place)).toBaseIO with
  | .ok contents => return some (.file contents.toList)
  | .error (.noFileOrDirectory _ _ _) => return none
  | .error _ => return some .directory

/-- Takes in what the disk holds at a place and at the places above it. -/
def takeIn (tree : FileTree) (place : Place) : IO FileTree :=
  (FileTree.onWay place).foldlM (fun tree above => do
    match ← readNode? above with
    | some node => return tree.put above node
    | none => return tree) tree

def placeOf (tree : FileTree) (path : Path) : Place :=
  FileTree.start tree.workingDirectory path ++ path.segments.filter (· ≠ [Path.dot])

/-- Takes in what the disk holds at paths. -/
def takeInAll (tree : FileTree) (paths : List Path) : IO FileTree :=
  paths.foldlM (fun tree path => takeIn tree (placeOf tree path)) tree

/-- Writes down what is new in a tree. -/
def writeDown (before after : FileTree) : IO Unit :=
  after.entries.reverse.forM fun (place, node) => do
    if before.node? place ≠ some node then
      match node with
      | .directory => IO.FS.createDirAll (located place)
      | .file contents => IO.FS.writeBinFile (located place) (ByteArray.mk contents.toArray)
      | .link _ => return ()

/-! ## The surroundings -/

/-- The value of a variable of the environment, among those that the options have. -/
def readEnvironment : IO (String → Option String) := do
  let values ← CommandLine.envVariables.filterMapM fun name => do
    return (← IO.getEnv name).map fun value => (name, value)
  return fun name => values.lookup name

/-- The name of the machine, if it is written where it is on most. -/
def readMachineName : IO String := do
  match ← (IO.FS.readFile "/etc/hostname").toBaseIO with
  | .ok name => return trimmed name
  | .error _ => return ""

def twoDigits (n : Nat) : String := if n < 10 then "0" ++ toString n else toString n

def readDate : IO String := do
  let date := Std.Time.PlainDate.ofEpochDay (← Std.Time.Timestamp.now).toDaysSinceUnixEpoch
  return "-".intercalate
    [toString date.year.toInt, twoDigits date.month.toNat, twoDigits date.day.toNat]

/-- What is around the program, with the part of the disk that its arguments name. -/
def readSurroundings (args : List String) : IO Program.Surroundings := do
  let env ← readEnvironment
  let date ← readDate
  let directory := Path.ofText (← IO.currentDir).toString
  let empty : FileTree := { workingDirectory := directory.segments }
  let start ← takeIn empty empty.workingDirectory
  let named ← takeInAll start (Program.namedPaths date args env)
  let tree ← takeInAll named (Program.accessPaths named args env)
  let cluster : Cluster := { reachable := false }
  return { env, machineName := ← readMachineName, version, date
           world := { cluster, tree, freshName := toString } }

def awaitStop : IO Unit := do
  let interrupted ← (← Std.Async.Signal.Waiter.mk .sigint false).wait
  let terminated ← (← Std.Async.Signal.Waiter.mk .sigterm false).wait
  let _ ← IO.waitAny [interrupted, terminated]

end BrowserPods.Machine

open BrowserPods in
def main (args : List String) : IO UInt32 := do
  let surroundings ← Machine.readSurroundings args
  let ending := Program.run surroundings args
  Machine.writeDown surroundings.world.tree ending.world.tree
  IO.print ending.output
  if Program.waits surroundings args ending then Machine.awaitStop
  return ending.exitCode.toUInt32
