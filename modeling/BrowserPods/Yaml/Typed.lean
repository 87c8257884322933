import BrowserPods.Yaml.Node

/-!
Reading typed values off the nodes of a YAML document.  The type that is wanted decides how a
scalar is read: every scalar is a text where a text is wanted, and only a plain one is a number.
-/

namespace BrowserPods.Yaml

open BrowserPods.Text

def isNullWord (text : List Char) : Bool :=
  ["null", "Null", "NULL", "~"].any fun word => word.toList == text

/-- Whether a text is digits that a zero begins, after an optional sign.  Such a text is no
number. -/
def isZeroPadded (text : List Char) : Bool :=
  let digits := match text with
    | '-' :: rest => rest
    | '+' :: rest => rest
    | _ => text
  match digits with
  | '0' :: d :: rest => (d :: rest).all fun c => '0' ≤ c && c ≤ '9'
  | _ => false

/-- An integer between two bounds in one base, after its mark. -/
def markedInteger? (low high : Int) (base : Nat) (mark : List Char) (text : List Char) :
    Option Int :=
  let body := match text with
    | '+' :: rest => rest
    | _ => text
  if mark.isPrefixOf body then
    let digits := body.drop mark.length
    if digits.head?.any fun c => c = '+' || c = '-' then none
    else Numeral.signed? base low high digits
  else if ('-' :: mark).isPrefixOf text then
    Numeral.signed? base low high ('-' :: text.drop (mark.length + 1))
  else none

/-- An integer between two bounds: hexadecimal, octal or binary after its mark, or decimal without
leading zeros. -/
def integer? (low high : Int) (text : List Char) : Option Int :=
  let doubleSign := match text with
    | '+' :: c :: _ => c = '+' || c = '-'
    | _ => false
  if doubleSign then none
  else
    let decimal := if isZeroPadded text then none else Numeral.signed? 10 low high text
    ((markedInteger? low high 16 ['0', 'x'] text).or
      (markedInteger? low high 8 ['0', 'o'] text)).or
      ((markedInteger? low high 2 ['0', 'b'] text).or decimal)

namespace Document

def nullTag : List Char := "tag:yaml.org,2002:null".toList

def integerTag : List Char := "tag:yaml.org,2002:int".toList

def isBlank : Node → Bool
  | .scalar .plain _ text => text.isEmpty
  | _ => false

def text? (document : Document) (node : Node) : Option String :=
  match document.target? node with
  | some (.scalar _ _ text) => some (String.ofList text)
  | _ => none

/-- An integer of 64 bits: a plain scalar, or a literal one with the tag of integers. -/
def int64? (document : Document) (node : Node) : Option Int :=
  let read := integer? (-9223372036854775808) 9223372036854775807
  match document.target? node with
  | some (.scalar .plain _ text) => read text
  | some (.scalar .literal (some tag) text) => if tag = integerTag then read text else none
  | _ => none

/-- A value that may be missing: nothing and the spellings of null are.  A plain scalar with the
tag of null must be one of these spellings. -/
def optional? {α : Type} (document : Document) (read : Node → Option α) (node : Node) :
    Option (Option α) :=
  match document.target? node with
  | none => none
  | some target =>
    match target with
    | .scalar .plain (some tag) text =>
      if tag = nullTag then if isNullWord text then some none else none
      else (read target).map some
    | .scalar .plain none text =>
      if text.isEmpty || isNullWord text then some none else (read target).map some
    | _ => (read target).map some

def list? {α : Type} (document : Document) (read : Node → Option α) (node : Node) :
    Option (List α) :=
  match document.target? node with
  | some (.sequence _ items) => items.mapM read
  | some other => if isBlank other then some [] else none
  | none => none

/-- The fields of a mapping whose keys are scalars.  Where nothing is written, there are none. -/
def fields? (document : Document) (node : Node) : Option (List (String × Node)) :=
  match document.target? node with
  | some (.mapping _ pairs) =>
    pairs.mapM fun (pair : Node × Node) =>
      (document.text? pair.1).map fun key => (key, pair.2)
  | some other => if isBlank other then some [] else none
  | none => none

end Document

end BrowserPods.Yaml
