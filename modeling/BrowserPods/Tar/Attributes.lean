import BrowserPods.Tar.Field

/-!
Attributes of a member: lines of the form `length key=value`, where the length counts the whole line
with its end.  The lines end at an empty one.
-/

namespace BrowserPods.Tar.Attributes

open BrowserPods.Text

def lineEnd : UInt8 := 10

def blank : UInt8 := 0x20

def equals : UInt8 := 0x3d

/-- The key and the value of a line, if it is well-formed. -/
def entry? (line : Bytes) : Option (Bytes × Bytes) := do
  let body ← (line.dropWhile (· ≠ blank)).tail?
  let digits ← Utf8.decode? (line.takeWhile (· ≠ blank))
  let length ← Numeral.unsigned? 10 Numeral.max64 digits.toList
  let value ← (body.dropWhile (· ≠ equals)).tail?
  if length = line.length + 1 then pure (body.takeWhile (· ≠ equals), value) else none

/-- The lines of attributes, each read; nothing stands for one that is not well-formed. -/
def entries (attributes : Bytes) : List (Option (Bytes × Bytes)) :=
  ((attributes.splitOn lineEnd).takeWhile fun line => !line.isEmpty).map entry?

/-- The path that attributes state: the first one, whatever else they hold. -/
def path? (attributes : Bytes) : Option Bytes :=
  ((entries attributes).filterMap id).lookup (Utf8.encode "path")

/-- The size that some entries state: the first one, unless a line before it is not well-formed. -/
def sizeIn? : List (Option (Bytes × Bytes)) → Option Nat
  | some (key, value) :: rest =>
    if key = Utf8.encode "size" then
      (Utf8.decode? value).bind fun digits =>
        Numeral.unsigned? 10 Numeral.max64 digits.toList
    else sizeIn? rest
  | _ => none

def size? (attributes : Bytes) : Option Nat := sizeIn? (entries attributes)

end BrowserPods.Tar.Attributes
