/-!
Numerals: a sign and digits of a base.  A numeral may have any number of leading zeros; one that
denotes a number outside the wanted range is no numeral of that range, however long it is.
-/

namespace BrowserPods.Text.Numeral

/-- The value of a digit of a base up to 36; letters of either case count from ten. -/
def digit? (base : Nat) (c : Char) : Option Nat :=
  let n := c.toNat
  let value :=
    if '0'.toNat ≤ n ∧ n ≤ '9'.toNat then n - '0'.toNat
    else if 'a'.toNat ≤ n ∧ n ≤ 'z'.toNat then n - 'a'.toNat + 10
    else if 'A'.toNat ≤ n ∧ n ≤ 'Z'.toNat then n - 'A'.toNat + 10
    else base
  if value < base then some value else none

/-- The number that digits denote after digits that denote `value`. -/
def ofDigitsFrom? (base : Nat) (value : Nat) : List Char → Option Nat
  | [] => some value
  | c :: cs => (digit? base c).bind fun d => ofDigitsFrom? base (value * base + d) cs

def ofDigits? (base : Nat) (cs : List Char) : Option Nat :=
  if cs.isEmpty then none else ofDigitsFrom? base 0 cs

def unsigned? (base limit : Nat) (cs : List Char) : Option Nat :=
  let digits := match cs with
    | '+' :: rest => rest
    | _ => cs
  (ofDigits? base digits).filter (· ≤ limit)

def signed? (base : Nat) (low high : Int) (cs : List Char) : Option Int :=
  let value := match cs with
    | '-' :: rest => (ofDigits? base rest).map fun n => -(n : Int)
    | '+' :: rest => (ofDigits? base rest).map fun n => (n : Int)
    | _ => (ofDigits? base cs).map fun n => (n : Int)
  value.filter fun v => low ≤ v && v ≤ high

def max16 : Nat := 65535

def max64 : Nat := 18446744073709551615

end BrowserPods.Text.Numeral
