import BrowserPods.Tar.Field

/-!
Headers of an archive.  A header is a block whose fields lie at fixed places; what the later fields
mean depends on the format that the header states.
-/

namespace BrowserPods.Tar

open BrowserPods.Text

structure Header where
  block : Bytes
deriving DecidableEq, Repr

/-- The kinds of members that are told apart. -/
inductive Kind where
  | regular
  /-- The name of the next member, if it is too long for a header. -/
  | longName
  /-- The target of the next member, if it is too long for a header. -/
  | longLink
  /-- Attributes of the next member. -/
  | attributes
  /-- A file with holes. -/
  | sparse
  /-- A directory, a link, a device or something unknown. -/
  | other
deriving DecidableEq, Repr

def Kind.ofByte (b : UInt8) : Kind :=
  if b = 0 ∨ b = 0x30 then .regular
  else if b = 0x4c then .longName
  else if b = 0x4b then .longLink
  else if b = 0x78 then .attributes
  else if b = 0x53 then .sparse
  else .other

namespace Header

def field (header : Header) (offset length : Nat) : Bytes :=
  (header.block.drop offset).take length

def nameField (header : Header) : Bytes := header.field 0 100

def kind (header : Header) : Kind := .ofByte ((header.field 156 1).headD 0)

def size? (header : Header) : Except Fault Nat := number? (header.field 124 12)

/-- The mark of the standard format. -/
def standardMark : Bytes := Utf8.encode "ustar\x0000"

/-- The mark of the format with extensions for long names and holes. -/
def extendedMark : Bytes := Utf8.encode "ustar  \x00"

def isStandard (header : Header) : Bool := header.field 257 8 == standardMark

def isExtended (header : Header) : Bool := header.field 257 8 == extendedMark

/-- The path that the header states.  The standard format has another field for its beginning. -/
def path (header : Header) : Bytes :=
  let name := untilZero header.nameField
  if header.isStandard then
    let beginning := untilZero (header.field 345 155)
    if beginning.isEmpty then name else beginning ++ 0x2f :: name
  else name

/-- The sum of all bytes, with blanks in place of the stated sum. -/
def sum (header : Header) : Nat :=
  let add (n : Nat) (b : UInt8) := n + b.toNat
  (header.block.drop 156).foldl add ((header.field 0 148).foldl add (8 * 32))

/-- Whether a header has the sum that it states, of which 32 bits count. -/
def checkSum (header : Header) : Except Fault Unit :=
  match octal? (header.field 148 8) with
  | none => .error .number
  | some stated => if header.sum = stated % 4294967296 then .ok () else .error .checksum

end Header

end BrowserPods.Tar
