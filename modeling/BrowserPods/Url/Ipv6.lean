import BrowserPods.Json.Value
import BrowserPods.Url.Ipv4

/-!
Addresses of version 6: eight pieces of sixteen bits in hexadecimal between colons.  A double colon
stands for one or more pieces of zero, and the last two pieces may be written as an address of
version 4.
-/

namespace BrowserPods

open BrowserPods.Text

structure Ipv6 where
  pieces : List Nat
  complete : pieces.length = 8
  small : ∀ piece ∈ pieces, piece < 65536
deriving DecidableEq, Repr

namespace Ipv6

/-! ## Reading -/

/-- A piece: one to four hexadecimal digits. -/
def piece? (cs : List Char) : Option Nat :=
  if cs.length ≤ 4 then Numeral.ofDigits? 16 cs else none

/-- A byte of an address of version 4: a decimal number without leading zeros. -/
def byte? (cs : List Char) : Option Nat :=
  if cs.length ≤ 3 && (cs.head? != some '0' || cs.length == 1) then
    (Numeral.ofDigits? 10 cs).filter (· ≤ 255)
  else none

/-- The two pieces of an address of version 4. -/
def dottedPieces? (cs : List Char) : Option (List Nat) :=
  match (cs.splitOn '.').mapM byte? with
  | some [a, b, c, d] => some [a * 256 + b, c * 256 + d]
  | _ => none

/-- The pieces of a nonempty list of groups, of which the last may be an address of version 4 if
`last` says so. -/
def groups? (last : Bool) : List (List Char) → Option (List Nat)
  | [] => some []
  | [group] =>
    if last && group.contains '.' then dottedPieces? group else (piece? group).map ([·])
  | group :: rest => (piece? group).bind fun piece => (groups? last rest).map (piece :: ·)

/-- The pieces between colons; none of the empty text. -/
def pieces? (last : Bool) (cs : List Char) : Option (List Nat) :=
  if cs.isEmpty then some [] else groups? last (cs.splitOn ':')

/-- What is before and what is behind the first double colon. -/
def splitGap? : List Char → Option (List Char × List Char)
  | ':' :: ':' :: rest => some ([], rest)
  | c :: rest => (splitGap? rest).map fun (before, behind) => (c :: before, behind)
  | [] => none

def ofPieces? (pieces : List Nat) : Option Ipv6 :=
  if h : pieces.length = 8 ∧ ∀ piece ∈ pieces, piece < 65536 then some ⟨pieces, h.1, h.2⟩
  else none

def read? (cs : List Char) : Option Ipv6 :=
  match splitGap? cs with
  | none => (pieces? true cs).bind ofPieces?
  | some (before, behind) => do
    let first ← pieces? false before
    let last ← pieces? true behind
    let count := first.length + last.length
    if count ≤ 7 then ofPieces? (first ++ List.replicate (8 - count) 0 ++ last) else none

/-! ## Writing -/

def zeros (pieces : List Nat) : Nat := (pieces.takeWhile (· = 0)).length

/-- Where the longest run of zeros begins and how long it is; the first of equally long ones. -/
def longestRun (pieces : List Nat) : Nat × Nat :=
  (List.range pieces.length).foldl (fun best start =>
    let length := zeros (pieces.drop start)
    if best.2 < length then (start, length) else best) (0, 0)

def joined (pieces : List Nat) : List Char :=
  [':'].intercalate (pieces.map fun piece => Nat.toDigits 16 piece)

/-- The pieces of an address, with a double colon for the longest run of at least two zeros.  URLs
have their addresses in this form. -/
def writePieces (address : Ipv6) : String :=
  let (start, length) := longestRun address.pieces
  String.ofList (
    if length < 2 then joined address.pieces
    else
      joined (address.pieces.take start)
        ++ ':' :: ':' :: joined (address.pieces.drop (start + length)))

/-- The address of version 4 that an address stands for, if it stands for one. -/
def mapped? (address : Ipv6) : Option Ipv4 :=
  match address.pieces with
  | [0, 0, 0, 0, 0, 0xffff, high, low] => some ⟨(high * 65536 + low).toUInt32⟩
  | _ => none

/-- An address on its own.  One that stands for an address of version 4 ends in that. -/
def write (address : Ipv6) : String :=
  match address.mapped? with
  | some mapped => "::ffff:" ++ mapped.write
  | none => address.writePieces

end Ipv6

end BrowserPods
