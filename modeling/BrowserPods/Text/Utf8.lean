/-!
UTF-8, the form in which texts are bytes.  Every text has one encoding; reading is strict
(`decode?`) or replaces each ill-formed part by U+FFFD (`decodeLossy`).

An ill-formed part is as long as it agrees with some well-formed sequence: the longest beginning of
a well-formed sequence, or a single byte that begins none.
-/

namespace BrowserPods.Text

abbrev Bytes := List UInt8

namespace Utf8

/-- The one to four bytes of a character. -/
def encodeChar (c : Char) : Bytes :=
  let n := c.toNat
  if n < 0x80 then [n.toUInt8]
  else if n < 0x800 then [(0xc0 + n / 64).toUInt8, (0x80 + n % 64).toUInt8]
  else if n < 0x10000 then
    [(0xe0 + n / 4096).toUInt8, (0x80 + n / 64 % 64).toUInt8, (0x80 + n % 64).toUInt8]
  else
    [(0xf0 + n / 262144).toUInt8, (0x80 + n / 4096 % 64).toUInt8, (0x80 + n / 64 % 64).toUInt8,
      (0x80 + n % 64).toUInt8]

def encode (s : String) : Bytes := s.toList.flatMap encodeChar

/-- The bytes that may follow a leading byte: how many continuation bytes, and the range of the
first of them.  The ranges exclude overlong forms, surrogates and values above U+10FFFF. -/
def leadRange (lead : UInt8) : Option (Nat × UInt8 × UInt8) :=
  if 0xc2 ≤ lead && lead ≤ 0xdf then some (1, 0x80, 0xbf)
  else if lead == 0xe0 then some (2, 0xa0, 0xbf)
  else if lead == 0xed then some (2, 0x80, 0x9f)
  else if 0xe1 ≤ lead && lead ≤ 0xef then some (2, 0x80, 0xbf)
  else if lead == 0xf0 then some (3, 0x90, 0xbf)
  else if 0xf1 ≤ lead && lead ≤ 0xf3 then some (3, 0x80, 0xbf)
  else if lead == 0xf4 then some (3, 0x80, 0x8f)
  else none

/-- The bits that a leading byte with that many continuation bytes contributes. -/
def leadBits (lead : UInt8) : Nat → Nat
  | 1 => lead.toNat - 0xc0
  | 2 => lead.toNat - 0xe0
  | _ => lead.toNat - 0xf0

/-- Takes up to `count` continuation bytes, the first within `[low, high]`.  Gives the value so far,
the number of bytes still missing, and the rest. -/
def takeContinuation (low high : UInt8) (value : Nat) : Nat → Bytes → Nat × Nat × Bytes
  | 0, rest => (value, 0, rest)
  | count + 1, [] => (value, count + 1, [])
  | count + 1, b :: rest =>
    if low ≤ b && b ≤ high then
      takeContinuation 0x80 0xbf (value * 64 + (b.toNat - 0x80)) count rest
    else (value, count + 1, b :: rest)

/-- Continuation bytes are only ever removed from the front. -/
theorem takeContinuation_length_le (low high : UInt8) (value count : Nat) (bytes : Bytes) :
    (takeContinuation low high value count bytes).2.2.length ≤ bytes.length := by
  fun_induction takeContinuation low high value count bytes with
  | case1 => simp
  | case2 => simp
  | case3 low high value count b rest _ ih => simp; omega
  | case4 => simp

/-- Reads one character or one ill-formed part off a nonempty byte string. -/
def decodeOne (lead : UInt8) (rest : Bytes) : Option Char × Bytes :=
  if lead < 0x80 then (some (Char.ofNat lead.toNat), rest)
  else
    match leadRange lead with
    | none => (none, rest)
    | some (count, low, high) =>
      match takeContinuation low high (leadBits lead count) count rest with
      | (value, 0, rest') => (some (Char.ofNat value), rest')
      | (_, _ + 1, rest') => (none, rest')

theorem decodeOne_length_le (lead : UInt8) (rest : Bytes) :
    (decodeOne lead rest).2.length ≤ rest.length := by
  unfold decodeOne
  split
  · simp
  · split
    · simp
    · rename_i count low high _
      have h := takeContinuation_length_le low high (leadBits lead count) count rest
      split <;> simp_all

/-- The characters and ill-formed parts (`none`) of a byte string, in order, after those in `done`,
which stand in reverse. -/
def scan (done : List (Option Char)) (bytes : Bytes) : List (Option Char) :=
  match bytes with
  | [] => done.reverse
  | lead :: rest =>
    have := decodeOne_length_le lead rest
    scan ((decodeOne lead rest).1 :: done) (decodeOne lead rest).2
termination_by bytes.length
decreasing_by simp; omega

def decodeLossy (bytes : Bytes) : String :=
  String.ofList ((scan [] bytes).map (·.getD '\uFFFD'))

theorem scan_eq_nil_iff (done : List (Option Char)) (bytes : Bytes) :
    scan done bytes = [] ↔ done = [] ∧ bytes = [] := by
  fun_induction scan done bytes with
  | case1 done => simp
  | case2 done lead rest _ inductionHypothesis => simp [inductionHypothesis]

/-- An ill-formed byte string has a text, too, which is empty for no bytes only. -/
theorem decodeLossy_eq_empty_iff (bytes : Bytes) : decodeLossy bytes = "" ↔ bytes = [] := by
  have nothing : ("" : String) = String.ofList [] := rfl
  rw [decodeLossy, nothing, String.ofList_inj, List.map_eq_nil_iff, scan_eq_nil_iff]
  simp

def decode? (bytes : Bytes) : Option String :=
  ((scan [] bytes).mapM id).map String.ofList

end Utf8

end BrowserPods.Text
