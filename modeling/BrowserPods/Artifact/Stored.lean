import BrowserPods.Artifact.Basic

/-!
Artifacts on the mount that a browser pod shares with us.  They are the regular files of a directory
whose names end in an extension of artifacts, in ascending order of their names.
-/

namespace BrowserPods.Stored

open BrowserPods.Text

def extensions : List Bytes := [Utf8.encode "log", Utf8.encode "mp4"]

/-- The directory of a folder below the root of a pod's working directory.  The folder counts as
relative, however many slashes it begins with. -/
def folderPath (sharedDir folder : String) : Path :=
  (Path.ofText sharedDir).join (Path.ofText (String.ofList (folder.toList.dropWhile (· = '/'))))

/-- Whether a path has an extension of artifacts. -/
def hasArtifactName (path : Path) : Bool :=
  path.extension?.any fun extension => extensions.contains extension

/-- Whether one name is not above another one, byte by byte. -/
def nameLe (first second : FileName) : Bool := !decide (second < first)

def isRegular : FileNode → Bool
  | .file _ => true
  | _ => false

/-- The artifacts directly in a directory, in ascending order.  A link is no artifact, wherever it
leads. -/
def list (tree : FileTree) (dir : Path) : Except FileFault (List Path) :=
  (tree.listDirectory dir).map fun entries =>
    let names := (entries.filter fun entry => isRegular entry.2).map (·.1)
    (names.mergeSort nameLe).map dir.join |>.filter hasArtifactName

def stream (containerId : String) (paths : List Path) : PendingArtifacts :=
  paths.map (.stored containerId)

end BrowserPods.Stored
