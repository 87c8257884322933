import BrowserPods.Files.Path

/-!
A file system: files, directories and symbolic links at their places below the root, and a working
directory.  A path is resolved part by part (`FileTree.resolve`); links on the way are always
followed, a link at the end only where the operation says so.  A file may be at several places
(`FileTree.hardLinks`), and what is written to one of them is at all of them.
-/

namespace BrowserPods

open BrowserPods.Text

/-- A place in a file system: the names on the way from the root. -/
abbrev Place := List FileName

inductive FileNode where
  | file (contents : Bytes)
  | directory
  | link (target : Path)
deriving DecidableEq, Repr

inductive FileFault where
  | notFound
  | notADirectory
  | isADirectory
  | alreadyExists
  | tooManyLinks
  | nameTooLong
  | invalidPath
deriving DecidableEq, Repr

structure FileTree where
  /-- What is where; the root is a directory and not listed. -/
  entries : List (Place × FileNode) := []
  /-- Where relative paths begin. -/
  workingDirectory : Place := []
  /-- The places of each file that is at more than one. -/
  hardLinks : List (List Place) := []
deriving Repr

namespace FileTree

instance : Inhabited FileTree := ⟨{}⟩

/-- The places on the way to a place below the root, itself last. -/
def onWay (place : Place) : List Place :=
  (List.range place.length).map fun above => place.take (above + 1)

def node? (tree : FileTree) (place : Place) : Option FileNode :=
  if place = [] then some .directory else tree.entries.lookup place

def put (tree : FileTree) (place : Place) (node : FileNode) : FileTree :=
  { tree with entries := (place, node) :: tree.entries.filter (·.1 ≠ place) }

def placesOfFile (tree : FileTree) (place : Place) : List Place :=
  (tree.hardLinks.find? (·.contains place)).getD [place]

def rewrite (tree : FileTree) (place : Place) (contents : Bytes) : FileTree :=
  (tree.placesOfFile place).foldl (fun grown other => grown.put other (.file contents)) tree

/-- Takes away what is at a place; a file stays at its other places. -/
def erase (tree : FileTree) (place : Place) : FileTree :=
  { tree with
    entries := tree.entries.filter (·.1 ≠ place)
    hardLinks := tree.hardLinks.map fun places => places.filter (· ≠ place) }

def namesIn (tree : FileTree) (place : Place) : List FileName :=
  tree.entries.filterMap fun (other, _) =>
    match other.getLast? with
    | some name => if other.dropLast = place then some name else none
    | none => none

/-! ## Resolving paths -/

/-- The number of links that may be followed on one way. -/
def linkLimit : Nat := 40

def nameLimit : Nat := 255

def pathLimit : Nat := 4095

/-- Where a path leads: to something, or to a free name in a directory. -/
inductive Target where
  | present (place : Place)
  | absent (place : Place)
deriving DecidableEq, Repr

def start (directory : Place) (path : Path) : Place :=
  if path.isAbsolute then [] else directory

/-- Follows the segments of a path from a place; `budget` is the number of links that may still be
followed.  A link at the end is followed if `follow` says so. -/
def walk (tree : FileTree) (follow : Bool) (budget : Nat) (place : Place) :
    List FileName → Except FileFault Target
  | [] => .ok (.present place)
  | segment :: rest =>
    if tree.node? place ≠ some .directory then .error .notADirectory
    else if segment = [Path.dot] then walk tree follow budget place rest
    else if segment = [Path.dot, Path.dot] then walk tree follow budget place.dropLast rest
    else if nameLimit < segment.length then .error .nameTooLong
    else
      match tree.node? (place ++ [segment]) with
      | none => if rest.isEmpty then .ok (.absent (place ++ [segment])) else .error .notFound
      | some (.link target) =>
        if rest.isEmpty && !follow then .ok (.present (place ++ [segment]))
        else
          match budget with
          | 0 => .error .tooManyLinks
          | budget + 1 =>
            if target.isEmpty then .error .notFound
            else walk tree follow budget (start place target) (target.segments ++ rest)
      | some _ => walk tree follow budget (place ++ [segment]) rest
termination_by segments => (budget, segments.length)

def resolve (tree : FileTree) (follow : Bool) (path : Path) : Except FileFault Target :=
  if path.contains 0 then .error .invalidPath
  else if path.isEmpty then .error .notFound
  else if pathLimit < path.length then .error .nameTooLong
  else walk tree follow linkLimit (start tree.workingDirectory path) path.segments

/-- Whether a path ends in a slash and so must lead to a directory. -/
def wantsDirectory (path : Path) : Bool := path.getLast? == some Path.slash

/-- What a path leads to, with its place. -/
def find? (tree : FileTree) (follow : Bool) (path : Path) : Except FileFault (Place × FileNode) :=
  match tree.resolve (follow || wantsDirectory path) path with
  | .error fault => .error fault
  | .ok (.absent _) => .error .notFound
  | .ok (.present place) =>
    match tree.node? place with
    | none => .error .notFound
    | some node =>
      if wantsDirectory path && node ≠ .directory then .error .notADirectory
      else .ok (place, node)

/-! ## Operations -/

def reaches (tree : FileTree) (path : Path) : Bool := (tree.find? true path).isOk

def isDirectory (tree : FileTree) (path : Path) : Bool :=
  match tree.find? true path with
  | .ok (_, .directory) => true
  | _ => false

def readFile (tree : FileTree) (path : Path) : Except FileFault Bytes :=
  match tree.find? true path with
  | .ok (_, .file contents) => .ok contents
  | .ok _ => .error .isADirectory
  | .error fault => .error fault

/-- Writes the file that a path leads to, in place of its earlier contents.  A link to nothing is
followed, and the file is created where it points. -/
def writeFile (tree : FileTree) (path : Path) (contents : Bytes) : Except FileFault FileTree :=
  if wantsDirectory path then .error .isADirectory
  else
    match tree.resolve true path with
    | .error fault => .error fault
    | .ok (.absent place) => .ok (tree.put place (.file contents))
    | .ok (.present place) =>
      match tree.node? place with
      | some (.file _) => .ok (tree.rewrite place contents)
      | _ => .error .isADirectory

def makeDirectory (tree : FileTree) (path : Path) : Except FileFault FileTree :=
  match tree.resolve false path with
  | .error fault => .error fault
  | .ok (.absent place) => .ok (tree.put place .directory)
  | .ok (.present _) => .error .alreadyExists

/-- Creates the first of some directories, of which each next one is the parent of the one before
it, and first those parents that are missing.  What was created stays when a later step fails. -/
def makeChain (tree : FileTree) : List Path → FileTree × Except FileFault Unit
  | [] => (tree, .error .notFound)
  | path :: parents =>
    if path.isEmpty then (tree, .ok ())
    else
      match tree.makeDirectory path with
      | .ok made => (made, .ok ())
      | .error .notFound =>
        match makeChain tree parents with
        | (grown, .error fault) => (grown, .error fault)
        | (grown, .ok ()) =>
          match grown.makeDirectory path with
          | .ok made => (made, .ok ())
          | .error fault => (grown, if grown.isDirectory path then .ok () else .error fault)
      | .error fault => (tree, if tree.isDirectory path then .ok () else .error fault)

def makeDirectories (tree : FileTree) (path : Path) : FileTree × Except FileFault Unit :=
  tree.makeChain (path :: (Path.properBeginnings path.components).map Path.ofComponents)

def makeLink (tree : FileTree) (path target : Path) : Except FileFault FileTree :=
  match tree.resolve false path with
  | .error fault => .error fault
  | .ok (.absent place) => .ok (tree.put place (.link target))
  | .ok (.present _) => .error .alreadyExists

/-- Removes what a path leads to, if it is no directory; a link itself is removed. -/
def removeFile (tree : FileTree) (path : Path) : Except FileFault FileTree :=
  match tree.find? false path with
  | .error fault => .error fault
  | .ok (_, .directory) => .error .isADirectory
  | .ok (place, _) => .ok (tree.erase place)

/-- The names and kinds of the entries of the directory that a path leads to. -/
def listDirectory (tree : FileTree) (path : Path) :
    Except FileFault (List (FileName × FileNode)) :=
  match tree.find? true path with
  | .error fault => .error fault
  | .ok (place, .directory) =>
    .ok ((tree.namesIn place).filterMap fun name =>
      (tree.node? (place ++ [name])).map fun node => (name, node))
  | .ok _ => .error .notADirectory

end FileTree

end BrowserPods
