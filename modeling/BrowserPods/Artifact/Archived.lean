import BrowserPods.Artifact.Basic
import BrowserPods.Tar.Archive

/-!
Artifacts in an archive: its regular files, in their order.  An archive that cannot be read to its
end yields the files before, then a failure, and nothing more.
-/

namespace BrowserPods.Archived

open BrowserPods.Text

/-- A name without the run of `./` that it begins with. -/
def stripHere : List Char → List Char
  | '.' :: '/' :: rest => stripHere rest
  | name => name

def artifact? (member : Tar.Member) : Option Artifact :=
  if member.kind = .regular then
    let name := stripHere (Utf8.decodeLossy member.path).toList
    some { name := String.ofList name, contents := member.contents }
  else none

/-- The items that the members of an archive of a container yield, with the fault that ends it, if
one does. -/
def items (containerId : String) (content : List Tar.Member × Option Tar.Fault) :
    List (Except Failure Artifact) :=
  let artifacts := (content.1.filterMap artifact?).map .ok
  match content.2 with
  | none => artifacts
  | some _ => artifacts ++ [.error { cause := .artifactUnreadable containerId }]

def streamOf (containerId : String) (content : List Tar.Member × Option Tar.Fault) :
    PendingArtifacts :=
  (items containerId content).map .decoded

def stream (containerId : String) (archive : Bytes) : PendingArtifacts :=
  streamOf containerId (Tar.read archive)

end BrowserPods.Archived
