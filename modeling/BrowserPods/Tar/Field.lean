import BrowserPods.Text.Blank
import BrowserPods.Text.Numeral
import BrowserPods.Text.Utf8

/-!
Fields of the headers of an archive: texts that end at a zero byte, and numbers, in octal digits or,
if the first bit is set, in base 256.
-/

namespace BrowserPods.Tar

open BrowserPods.Text

/-- The number of bytes of a header, and the unit in which archives are laid out. -/
def blockSize : Nat := 512

/-- Why an archive cannot be read any further. -/
inductive Fault where
  /-- The archive ends within a header or within the data of a member. -/
  | truncated
  /-- A header does not have the sum that it states. -/
  | checksum
  /-- A field holds no number. -/
  | number
  /-- A size leads beyond every archive. -/
  | size
  /-- A description of the next member comes twice. -/
  | repeatedDescription
  /-- A description of the next member is the last one. -/
  | danglingDescription
  /-- The map of a file with holes is inconsistent. -/
  | holes
deriving DecidableEq, Repr

/-- The part of a field before its first zero byte. -/
def untilZero (field : Bytes) : Bytes := field.takeWhile (· ≠ 0)

/-- The number that octal digits denote, with blanks around them. -/
def octal? (field : Bytes) : Option Nat :=
  (Utf8.decode? (untilZero field)).bind fun digits =>
    Numeral.unsigned? 8 Numeral.max64 (trim digits.toList)

def bigEndian (bytes : Bytes) : Nat := bytes.foldl (fun n b => n * 256 + b.toNat) 0

/-- The number in a field; of one in base 256 the last eight bytes count. -/
def number? (field : Bytes) : Except Fault Nat :=
  let value := match field with
    | first :: _ =>
      if 0x80 ≤ first then some (bigEndian (field.drop (field.length - 8))) else octal? field
    | [] => none
  match value with
  | some n => .ok n
  | none => .error .number

/-- The bytes after the first `count`, if there are that many. -/
def dropExact? : Nat → Bytes → Option Bytes
  | 0, bytes => some bytes
  | _ + 1, [] => none
  | count + 1, _ :: rest => dropExact? count rest

theorem dropExact?_length {count : Nat} {bytes rest : Bytes}
    (h : dropExact? count bytes = some rest) :
    rest.length + count = bytes.length := by
  fun_induction dropExact? count bytes with
  | case1 => simp_all
  | case2 => simp at h
  | case3 count b tail ih => have := ih h; simp; omega

end BrowserPods.Tar
