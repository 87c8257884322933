/-!
JSON values and the two ways in which they are written: on one line without spaces (`Json.write`),
and over several lines with two spaces for each level (`Json.writeIndented`).
-/

namespace BrowserPods

/-- A number of a JSON text.  One written without fraction and exponent that fits into 64 bits,
signed or unsigned, is an integer; of any other number only its written form is kept, and so of a
zero with a minus sign. -/
inductive Json.Number where
  | integer (value : Int)
  | other (written : List Char)
deriving DecidableEq, Repr

/-- A JSON value.  An object keeps its fields as they were written: in their order, and repeated
ones repeated. -/
inductive Json where
  | null
  | bool (value : Bool)
  | number (value : Json.Number)
  | string (value : String)
  | array (items : List Json)
  | object (fields : List (String × Json))
  /-- What a string with half of a surrogate pair stands for, and an object with such a name. -/
  | broken
deriving Repr

namespace Json

instance : Inhabited Json := ⟨.null⟩

def int (value : Int) : Json := .number (.integer value)

def nat (value : Nat) : Json := .number (.integer value)

/-- The JSON form of an optional value; nothing is `null`. -/
def ofOption {α : Type} (toJson : α → Json) : Option α → Json
  | none => .null
  | some value => toJson value

def ofList {α : Type} (toJson : α → Json) (values : List α) : Json := .array (values.map toJson)

def strings (values : List String) : Json := ofList .string values

/-- A field that is written only if it has a value. -/
def optionalField {α : Type} (name : String) (toJson : α → Json) :
    Option α → List (String × Json)
  | none => []
  | some value => [(name, toJson value)]

/-! ## Writing -/

def hexDigit (n : Nat) : Char :=
  if n < 10 then Char.ofNat ('0'.toNat + n) else Char.ofNat ('a'.toNat + (n - 10))

/-- A character inside a written string.  Quotes, backslashes and the characters below the space
are escaped, those that have a short escape by it; every other character stands for itself. -/
def escape (c : Char) : List Char :=
  if c = '"' then ['\\', '"']
  else if c = '\\' then ['\\', '\\']
  else if c.toNat = 8 then ['\\', 'b']
  else if c.toNat = 9 then ['\\', 't']
  else if c.toNat = 10 then ['\\', 'n']
  else if c.toNat = 12 then ['\\', 'f']
  else if c.toNat = 13 then ['\\', 'r']
  else if c.toNat < 32 then ['\\', 'u', '0', '0', hexDigit (c.toNat / 16), hexDigit (c.toNat % 16)]
  else [c]

def writeString (s : String) : List Char := '"' :: s.toList.flatMap escape ++ ['"']

def writeInt : Int → List Char
  | .ofNat n => Nat.toDigits 10 n
  | .negSucc n => '-' :: Nat.toDigits 10 (n + 1)

def Number.write : Number → List Char
  | .integer value => writeInt value
  | .other written => written

mutual

/-- A value on one line, without spaces. -/
def writeChars : Json → List Char
  | .null => ['n', 'u', 'l', 'l']
  | .bool true => ['t', 'r', 'u', 'e']
  | .bool false => ['f', 'a', 'l', 's', 'e']
  | .number value => value.write
  | .string value => writeString value
  | .array [] => ['[', ']']
  | .array (item :: items) => '[' :: writeChars item ++ writeItems items
  | .object [] => ['\x7b', '\x7d']
  | .object ((name, value) :: fields) =>
    '\x7b' :: writeString name ++ ':' :: writeChars value ++ writeFields fields
  | .broken => ['n', 'u', 'l', 'l']

/-- The items after the first, and the closing bracket. -/
def writeItems : List Json → List Char
  | [] => [']']
  | item :: items => ',' :: writeChars item ++ writeItems items

/-- The fields after the first, and the closing brace. -/
def writeFields : List (String × Json) → List Char
  | [] => ['\x7d']
  | (name, value) :: fields =>
    ',' :: writeString name ++ ':' :: writeChars value ++ writeFields fields

end

def write (value : Json) : String := String.ofList value.writeChars

def newline (level : Nat) : List Char := '\n' :: List.replicate (2 * level) ' '

mutual

/-- A value over several lines, the first of which continues a line at the given level. -/
def indentedChars (level : Nat) : Json → List Char
  | .array (item :: items) =>
    '[' :: newline (level + 1) ++ indentedChars (level + 1) item ++ indentedItems level items
  | .object ((name, value) :: fields) =>
    '\x7b' :: newline (level + 1) ++ writeString name ++ ':' :: ' ' ::
      indentedChars (level + 1) value ++ indentedFields level fields
  | .null => writeChars .null
  | .broken => writeChars .null
  | .bool value => writeChars (.bool value)
  | .number value => value.write
  | .string value => writeString value
  | .array [] => ['[', ']']
  | .object [] => ['\x7b', '\x7d']

/-- The items after the first, each on a line of its own, and the closing bracket. -/
def indentedItems (level : Nat) : List Json → List Char
  | [] => newline level ++ [']']
  | item :: items =>
    ',' :: newline (level + 1) ++ indentedChars (level + 1) item ++ indentedItems level items

/-- The fields after the first, each on a line of its own, and the closing brace. -/
def indentedFields (level : Nat) : List (String × Json) → List Char
  | [] => newline level ++ ['\x7d']
  | (name, value) :: fields =>
    ',' :: newline (level + 1) ++ writeString name ++ ':' :: ' ' ::
      indentedChars (level + 1) value ++ indentedFields level fields

end

def writeIndented (value : Json) : String := String.ofList (value.indentedChars 0)

end Json

end BrowserPods
