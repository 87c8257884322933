import BrowserPods.Failure
import BrowserPods.Files.Tree

/-!
Artifacts, the files that browsers leave behind, and streams of them.  An item of a stream is
decoded already or stands for a file that is read when the item is; so what a stream yields may
depend on the files at that time (`Pending.read`).  Writing a stream to a directory stops at the
first item that cannot be read or written, and skips names that would lead out of the directory.
-/

namespace BrowserPods

open BrowserPods.Text

/-- A file that a browser left behind. -/
structure Artifact where
  /-- Where the file is below the folder that was copied. -/
  name : String
  contents : Bytes
deriving DecidableEq, Repr

/-- An item of a stream before it is read. -/
inductive Pending where
  /-- An item that depends on nothing more. -/
  | decoded (item : Except Failure Artifact)
  /-- A file of ours that holds an artifact of a container. -/
  | stored (containerId : String) (path : Path)

/-- The artifacts of a container, in the order in which they are read. -/
abbrev PendingArtifacts := List Pending

def Pending.read (tree : FileTree) : Pending → Except Failure Artifact
  | .decoded item => item
  | .stored containerId path =>
    match tree.readFile path with
    | .ok contents =>
      .ok { name := (path.fileName?.map Utf8.decodeLossy).getD "", contents }
    | .error _ =>
      .error { cause := .artifactUnreadable containerId, notes := ["path: " ++ path.display] }

namespace Artifact

/-! ## Names -/

def isEntry : Path.Component → Bool
  | .entry _ => true
  | _ => false

/-- The path below a directory that a name denotes.  A name that begins at the root, goes up or
names no entry denotes none. -/
def relativePath? (name : String) : Option Path :=
  let parts := (Path.ofText name).components.filter (· ≠ .here)
  if parts.all isEntry && !parts.isEmpty then some (Path.ofComponents parts) else none

/-! ## Writing -/

/-- Writes an artifact to its place in a directory, with the directories that lead there. -/
def store (tree : FileTree) (target : Path) (contents : Bytes) :
    FileTree × Except FileFault Unit :=
  match target.parent? with
  | none => finish tree
  | some parent =>
    match tree.makeDirectories parent with
    | (grown, .error fault) => (grown, .error fault)
    | (grown, .ok ()) => finish grown
where
  finish (grown : FileTree) : FileTree × Except FileFault Unit :=
    match grown.writeFile target contents with
    | .ok done => (done, .ok ())
    | .error fault => (grown, .error fault)

/-- Writes the items of a stream to a directory; `written` counts those before.  The files may have
changed although the answer is an error. -/
def saveFrom (dir : Path) (written : Nat) (tree : FileTree) :
    PendingArtifacts → FileTree × Except Failure Nat
  | [] => (tree, .ok written)
  | item :: rest =>
    match item.read tree with
    | .error failure => (tree, .error failure)
    | .ok artifact =>
      match relativePath? artifact.name with
      | none => saveFrom dir written tree rest
      | some relative =>
        let target := dir.join relative
        match store tree target artifact.contents with
        | (grown, .ok ()) => saveFrom dir (written + 1) grown rest
        | (grown, .error _) =>
          (grown, .error { cause := .artifactUnwritable artifact.name target.display })

def saveAll (tree : FileTree) (dir : Path) (stream : PendingArtifacts) :
    FileTree × Except Failure Nat :=
  saveFrom dir 0 tree stream

end Artifact

/-! ## Reading a stream -/

/-- What reading a stream gives: artifacts, and the failure that ended it, if one did, with whether
more items follow. -/
structure StreamReading where
  artifacts : List Artifact
  failure : Option (Failure × Bool)

/-- Reads up to `limit` artifacts off a stream, all of them without a limit; `done` holds those
before, in reverse. -/
def StreamReading.readFrom (tree : FileTree) (done : List Artifact) :
    Option Nat → PendingArtifacts → StreamReading
  | some 0, _ => { artifacts := done.reverse, failure := none }
  | _, [] => { artifacts := done.reverse, failure := none }
  | limit, item :: rest =>
    match item.read tree with
    | .error failure => { artifacts := done.reverse, failure := some (failure, !rest.isEmpty) }
    | .ok artifact => readFrom tree (artifact :: done) (limit.map (· - 1)) rest

def StreamReading.ofStream (tree : FileTree) (limit : Option Nat) (stream : PendingArtifacts) :
    StreamReading :=
  readFrom tree [] limit stream

end BrowserPods
