import BrowserPods.Text.Blank
import BrowserPods.Text.Numeral

/-!
Port numbers as they are written in settings: in decimal, or in hexadecimal after `0x`, `0X` or
`#`.
-/

namespace BrowserPods

open BrowserPods.Text

/-- The digits after a mark of hexadecimal numerals. -/
def hexadecimalBody? : List Char → Option (List Char)
  | '0' :: 'x' :: rest => some rest
  | '0' :: 'X' :: rest => some rest
  | '#' :: rest => some rest
  | _ => none

/-- The port that a trimmed text denotes. -/
def portNumber? (cs : List Char) : Option Nat :=
  match hexadecimalBody? cs with
  | some digits => Numeral.unsigned? 16 Numeral.max16 digits
  | none => Numeral.unsigned? 10 Numeral.max16 cs

def readPort? (text : String) : Option UInt16 :=
  (portNumber? (trim text.toList)).map UInt16.ofNat

end BrowserPods
