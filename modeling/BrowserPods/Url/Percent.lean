import BrowserPods.Json.Value
import BrowserPods.Text.Numeral
import BrowserPods.Text.Utf8

/-!
Percent-encoding: bytes as `%` and two hexadecimal digits.  Which ASCII characters are encoded
depends on the place in the URL; other characters always are.
-/

namespace BrowserPods.Percent

open BrowserPods.Text

def hexDigit (n : Nat) : Char :=
  if n < 10 then Char.ofNat ('0'.toNat + n) else Char.ofNat ('A'.toNat + (n - 10))

def encodeByte (b : UInt8) : List Char :=
  ['%', hexDigit (b.toNat / 16), hexDigit (b.toNat % 16)]

/-- Encodes the characters of a set and those beyond ASCII. -/
def encode (set : Char → Bool) (cs : List Char) : List Char :=
  cs.flatMap fun c =>
    if set c || 0x7f < c.toNat then (Utf8.encodeChar c).flatMap encodeByte else [c]

def controls (c : Char) : Bool := c.toNat < 0x20 || c.toNat == 0x7f

def fragment (c : Char) : Bool := controls c || [' ', '"', '<', '>', '`'].contains c

def path (c : Char) : Bool := fragment c || ['#', '?', '\x7b', '\x7d'].contains c

def userInfo (c : Char) : Bool :=
  path c || ['/', ':', ';', '=', '@', '[', '\\', ']', '^', '|'].contains c

def query (c : Char) : Bool := controls c || [' ', '"', '#', '<', '>'].contains c

def specialQuery (c : Char) : Bool := query c || c == '\''

/-- The bytes that a text with encoded bytes stands for. -/
def decode : List Char → Bytes
  | '%' :: high :: low :: rest =>
    match Numeral.ofDigits? 16 [high, low] with
    | some n => n.toUInt8 :: decode rest
    | none => Utf8.encodeChar '%' ++ decode (high :: low :: rest)
  | c :: rest => Utf8.encodeChar c ++ decode rest
  | [] => []

end BrowserPods.Percent
