import BrowserPods.Text.Utf8

/-!
Paths of a file system: byte strings whose parts are separated by slashes.  Repeated slashes, inner
dots and slashes at the end mean nothing, so two paths denote the same place relative to a
directory when they have the same components (`Path.components`).
-/

namespace BrowserPods

open BrowserPods.Text

/-- A path, as it is written. -/
abbrev Path := Bytes

abbrev FileName := Bytes

namespace Path

def slash : UInt8 := 47

/-- The byte of the names `.` and `..`. -/
def dot : UInt8 := 46

def ofText (s : String) : Path := Utf8.encode s

/-- A path for people; ill-formed parts are replaced. -/
def display (path : Path) : String := Utf8.decodeLossy path

/-- A meaningful part of a path. -/
inductive Component where
  /-- The slash that an absolute path begins with. -/
  | root
  /-- A dot at the beginning of a relative path. -/
  | here
  /-- Two dots. -/
  | up
  /-- The name of an entry. -/
  | entry (name : FileName)
deriving DecidableEq, Repr

def isAbsolute (path : Path) : Bool := path.head? == some slash

def segments (path : Path) : List FileName :=
  (path.splitOn slash).filter fun segment => !segment.isEmpty

/-- The component that a segment is, after the first one. -/
def Component.ofSegment (segment : FileName) : Component :=
  if segment = [dot] then .here else if segment = [dot, dot] then .up else .entry segment

/-- The components of a path.  A dot counts only at the beginning of a relative path. -/
def components (path : Path) : List Component :=
  let parts := path.segments.map Component.ofSegment
  if path.isAbsolute then .root :: parts.filter (· ≠ .here)
  else
    match parts with
    | .here :: rest => .here :: rest.filter (· ≠ .here)
    | _ => parts.filter (· ≠ .here)

/-- How a component other than the root is written. -/
def Component.segment : Component → FileName
  | .root => []
  | .here => [dot]
  | .up => [dot, dot]
  | .entry name => name

def ofComponents : List Component → Path
  | .root :: rest => slash :: [slash].intercalate (rest.map Component.segment)
  | parts => [slash].intercalate (parts.map Component.segment)

/-- A path below another one.  An absolute path replaces it, and a slash is added only where there
is none. -/
def join (base path : Path) : Path :=
  if path.isAbsolute then path
  else if base.isEmpty || base.getLast? == some slash then base ++ path
  else base ++ slash :: path

def fileName? (path : Path) : Option FileName :=
  match path.components.getLast? with
  | some (.entry name) => some name
  | _ => none

/-- The part of a name after its last dot, unless that dot begins the name. -/
def extensionOf? (name : FileName) : Option Bytes :=
  let reversed := name.reverse
  let ending := reversed.takeWhile (· ≠ dot)
  match reversed.dropWhile (· ≠ dot) with
  | [] => none
  | _ :: stem => if stem.isEmpty then none else some ending.reverse

def extension? (path : Path) : Option Bytes := path.fileName?.bind extensionOf?

/-- The components of the directory that a path lies in; the root and the empty path lie in none. -/
def parentComponents? (components : List Component) : Option (List Component) :=
  match components.getLast? with
  | none => none
  | some .root => none
  | some _ => some components.dropLast

def parent? (path : Path) : Option Path := (parentComponents? path.components).map ofComponents

/-- The proper beginnings of a list of components, longest first, down to the root or to
nothing. -/
def properBeginnings : List Component → List (List Component)
  | [] => []
  | .root :: rest => (properBeginnings rest).map (.root :: ·)
  | c :: rest => (properBeginnings rest).map (c :: ·) ++ [[]]

end Path

end BrowserPods
