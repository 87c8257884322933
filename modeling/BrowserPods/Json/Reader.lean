import BrowserPods.Json.Value
import BrowserPods.Text.Numeral

/-!
Reading JSON texts.  A text is one value with blanks around it; everything else, a leading zero, a
trailing comma or a control character in a string, is refused (`Json.read?` gives `none`).  A string
with half of a surrogate pair is read as a value that stands for nothing (`Json.broken`).
-/

namespace BrowserPods.Json

open BrowserPods.Text

/-- The four blanks of JSON. -/
def isBlank (c : Char) : Bool := c = ' ' || c = '\n' || c = '\t' || c = '\r'

def skipBlanks (cs : List Char) : List Char := cs.dropWhile isBlank

/-! ## Strings -/

/-- The UTF-16 unit that four hexadecimal digits denote. -/
def unit? (a b c d : Char) : Option Nat := Numeral.ofDigits? 16 [a, b, c, d]

/-- The character that a letter after a backslash stands for. -/
def shortEscape? (c : Char) : Option Char :=
  if c = '"' ∨ c = '\\' ∨ c = '/' then some c
  else if c = 'b' then some '\x08'
  else if c = 'f' then some '\x0c'
  else if c = 'n' then some '\n'
  else if c = 'r' then some '\r'
  else if c = 't' then some '\t'
  else none

def isHighUnit (n : Nat) : Bool := 0xd800 ≤ n && n ≤ 0xdbff

def isLowUnit (n : Nat) : Bool := 0xdc00 ≤ n && n ≤ 0xdfff

/-- The character whose first unit is known, with the rest.  Half of a pair alone stands for no
character. -/
def readUnits (first : Nat) (rest : List Char) : Option Char × List Char :=
  if isLowUnit first then (none, rest)
  else if isHighUnit first then
    match rest with
    | '\\' :: 'u' :: a :: b :: c :: d :: rest' =>
      match (unit? a b c d).filter isLowUnit with
      | some second =>
        (some (Char.ofNat (0x10000 + (first - 0xd800) * 0x400 + (second - 0xdc00))), rest')
      | none => (none, rest)
    | _ => (none, rest)
  else (some (Char.ofNat first), rest)

/-- Reads what follows a backslash: a character, or half of a pair. -/
def readEscape? : List Char → Option (Option Char × List Char)
  | 'u' :: a :: b :: c :: d :: rest => (unit? a b c d).map fun first => readUnits first rest
  | c :: rest => (shortEscape? c).map fun decoded => (some decoded, rest)
  | [] => none

theorem readUnits_length_le (first : Nat) (rest : List Char) :
    (readUnits first rest).2.length ≤ rest.length := by
  unfold readUnits
  split
  · simp
  · split
    · split
      · split
        · simp; omega
        · simp
      · simp
    · simp

theorem readEscape?_length_lt {cs : List Char} {found : Option Char × List Char}
    (h : readEscape? cs = some found) : found.2.length < cs.length := by
  unfold readEscape? at h
  split at h
  · simp only [Option.map_eq_some_iff] at h
    obtain ⟨first, -, rfl⟩ := h
    have := readUnits_length_le first
    rename_i rest
    have := this rest
    simp; omega
  · simp only [Option.map_eq_some_iff] at h
    obtain ⟨decoded, -, rfl⟩ := h
    simp
  · simp at h

/-- Reads a string after its opening quote.  `done` holds the characters so far, in reverse, unless
half of a pair is among them. -/
def readString? (done : Option (List Char)) (cs : List Char) :
    Option (Option String × List Char) :=
  match cs with
  | [] => none
  | c :: rest =>
    if c = '"' then some (done.map fun read => String.ofList read.reverse, rest)
    else if c = '\\' then
      match h : readEscape? rest with
      | none => none
      | some (decoded, rest') =>
        have := readEscape?_length_lt h
        readString? (done.bind fun read => decoded.map (· :: read)) rest'
    else if c.toNat < 32 then none
    else readString? (done.map (c :: ·)) rest
termination_by cs.length
decreasing_by all_goals simp_all; try omega

/-! ## Numbers -/

def isDigit (c : Char) : Bool := '0' ≤ c && c ≤ '9'

/-- The digits before the fraction: a single zero, or digits that do not begin with zero. -/
def readWhole? (cs : List Char) : Option (List Char × List Char) :=
  match cs with
  | '0' :: rest => match rest with
    | d :: _ => if isDigit d then none else some (['0'], rest)
    | [] => some (['0'], rest)
  | _ =>
    let digits := cs.takeWhile isDigit
    if digits.isEmpty then none else some (digits, cs.dropWhile isDigit)

/-- An optional fraction with at least one digit. -/
def readFraction? : List Char → Option (List Char × List Char)
  | '.' :: rest =>
    let digits := rest.takeWhile isDigit
    if digits.isEmpty then none else some ('.' :: digits, rest.dropWhile isDigit)
  | cs => some ([], cs)

/-- An optional exponent, with an optional sign and at least one digit. -/
def readExponent? : List Char → Option (List Char × List Char)
  | c :: rest =>
    if c = 'e' ∨ c = 'E' then
      let (sign, rest') := match rest with
        | '+' :: r => (['+'], r)
        | '-' :: r => (['-'], r)
        | r => ([], r)
      let digits := rest'.takeWhile isDigit
      if digits.isEmpty then none else some (c :: sign ++ digits, rest'.dropWhile isDigit)
    else some ([], c :: rest)
  | [] => some ([], [])

/-- The number of a sign and decimal digits without fraction or exponent. -/
def Number.ofInteger (negative : Bool) (digits : List Char) : Number :=
  let written := if negative then '-' :: digits else digits
  match Numeral.ofDigits? 10 digits with
  | none => .other written
  | some n =>
    if negative then
      if n = 0 ∨ n > 9223372036854775808 then .other written else .integer (-(n : Int))
    else if n > Numeral.max64 then .other written
    else .integer n

def readNumber? (cs : List Char) : Option (Number × List Char) :=
  let (negative, body) := match cs with
    | '-' :: rest => (true, rest)
    | _ => (false, cs)
  (readWhole? body).bind fun (whole, rest₁) =>
    (readFraction? rest₁).bind fun (fraction, rest₂) =>
      (readExponent? rest₂).map fun (exponent, rest₃) =>
        if fraction.isEmpty && exponent.isEmpty then (Number.ofInteger negative whole, rest₃)
        else (.other ((if negative then ['-'] else []) ++ whole ++ fraction ++ exponent), rest₃)

/-! ## Values -/

def ofText : Option String → Json
  | some text => .string text
  | none => .broken

def ofFields : Option (List (String × Json)) → Json
  | some fields => .object fields
  | none => .broken

mutual

/-- Reads a value at the first character that is no blank.  `fuel` bounds the nesting and the
number of items; the length of the text is enough. -/
def readValue? : Nat → List Char → Option (Json × List Char)
  | 0, _ => none
  | fuel + 1, cs =>
    match skipBlanks cs with
    | 'n' :: 'u' :: 'l' :: 'l' :: rest => some (.null, rest)
    | 't' :: 'r' :: 'u' :: 'e' :: rest => some (.bool true, rest)
    | 'f' :: 'a' :: 'l' :: 's' :: 'e' :: rest => some (.bool false, rest)
    | '"' :: rest => (readString? (some []) rest).map fun (text, rest') => (ofText text, rest')
    | '[' :: rest =>
      match skipBlanks rest with
      | ']' :: rest' => some (.array [], rest')
      | rest' => readItems? fuel [] rest'
    | '\x7b' :: rest =>
      match skipBlanks rest with
      | '\x7d' :: rest' => some (.object [], rest')
      | rest' => readFields? fuel (some []) rest'
    | cs' => (readNumber? cs').map fun (n, rest) => (.number n, rest)

/-- Reads the items of an array up to its closing bracket, after those in `done`, which stand in
reverse. -/
def readItems? : Nat → List Json → List Char → Option (Json × List Char)
  | 0, _, _ => none
  | fuel + 1, done, cs =>
    (readValue? fuel cs).bind fun (item, rest) =>
      match skipBlanks rest with
      | ',' :: rest' => readItems? fuel (item :: done) rest'
      | ']' :: rest' => some (.array (item :: done).reverse, rest')
      | _ => none

/-- Reads the fields of an object up to its closing brace, after those in `done`, which stand in
reverse, unless the name of one is broken. -/
def readFields? : Nat → Option (List (String × Json)) → List Char → Option (Json × List Char)
  | 0, _, _ => none
  | fuel + 1, done, cs =>
    match skipBlanks cs with
    | '"' :: rest =>
      (readString? (some []) rest).bind fun (name, rest₁) =>
        match skipBlanks rest₁ with
        | ':' :: rest₂ =>
          (readValue? fuel rest₂).bind fun (value, rest₃) =>
            let fields := done.bind fun read => name.map fun name => (name, value) :: read
            match skipBlanks rest₃ with
            | ',' :: rest₄ => readFields? fuel fields rest₄
            | '\x7d' :: rest₄ => some (ofFields (fields.map List.reverse), rest₄)
            | _ => none
        | _ => none
    | _ => none

end

def read? (text : String) : Option Json :=
  let cs := text.toList
  (readValue? (cs.length + 1) cs).bind fun (value, rest) =>
    if (skipBlanks rest).isEmpty then some value else none

end BrowserPods.Json
