import BrowserPods.Text.Numeral

/-!
Addresses of version 4 as hosts of URLs: one to four numbers between dots, in decimal, octal after
`0` or hexadecimal after `0x`, the last of which fills the bytes that are left.
-/

namespace BrowserPods

open BrowserPods.Text

structure Ipv4 where
  bits : UInt32
deriving DecidableEq, Repr

namespace Ipv4

/-- The weight of the byte with so many bytes behind it. -/
def weight (place : Nat) : Nat := 1 <<< (8 * place)

/-- The four bytes of a number below 2^32, in decimal between dots. -/
def dotted (n : Nat) : List Char :=
  let byte (place : Nat) := Nat.toDigits 10 (n / weight place % 256)
  byte 3 ++ '.' :: byte 2 ++ '.' :: byte 1 ++ '.' :: byte 0

def write (address : Ipv4) : String := String.ofList (dotted address.bits.toNat)

/-- The number of a part; the digits may be missing after a mark of the base. -/
def part? : List Char → Option Nat
  | [] => none
  | '0' :: 'x' :: digits => number 16 digits
  | '0' :: 'X' :: digits => number 16 digits
  | ['0'] => some 0
  | '0' :: digits => number 8 digits
  | digits => number 10 digits
where
  number (base : Nat) (digits : List Char) : Option Nat :=
    if digits.isEmpty then some 0 else Numeral.ofDigits? base digits

/-- The parts between dots, without an empty one after a dot at the end. -/
def parts (cs : List Char) : List (List Char) :=
  let split := cs.splitOn '.'
  if split.getLast? = some [] then split.dropLast else split

/-- Whether the last part of a domain is a number, so that the domain must be an address. -/
def endsInNumber (cs : List Char) : Bool :=
  match (parts cs).getLast? with
  | none => false
  | some last =>
    (!last.isEmpty && last.all fun c => '0' ≤ c && c ≤ '9') || (part? last).isSome

/-- The number whose bytes are the given ones, followed by those of `last`. -/
def combine : List Nat → Nat → Nat → Nat
  | [], _, last => last
  | byte :: rest, place, last => byte * weight place + combine rest (place - 1) last

def read? (cs : List Char) : Option Ipv4 := do
  let numbers ← (parts cs).mapM part?
  let last ← numbers.getLast?
  let bytes := numbers.dropLast
  if bytes.length ≤ 3 ∧ bytes.all (· ≤ 255) ∧ last < weight (4 - bytes.length) then
    pure ⟨(combine bytes 3 last).toUInt32⟩
  else none

end Ipv4

end BrowserPods
