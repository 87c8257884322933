import BrowserPods.Yaml.Typed

/-!
What a plain scalar is where no type is wanted: null, a truth value, a number or else a text.
-/

namespace BrowserPods.Yaml

open BrowserPods.Text

def isBoolWord (text : List Char) : Bool :=
  ["true", "True", "TRUE", "false", "False", "FALSE"].any fun word => word.toList == text

/-- Whether a text is one of the spellings of infinity or of no number. -/
def isSpecialNumber (text : List Char) : Bool :=
  [".inf", ".Inf", ".INF", "+.inf", "+.Inf", "+.INF", "-.inf", "-.Inf", "-.INF", ".nan", ".NaN",
    ".NAN"].any fun word => word.toList == text

/-- Whether a text is digits with at most one point among them, and at least one digit. -/
def isDecimal (text : List Char) : Bool :=
  text.all (fun c => ('0' ≤ c && c ≤ '9') || c == '.')
    && text.any (fun c => '0' ≤ c && c ≤ '9')
    && (text.filter (· = '.')).length ≤ 1

def isExponent (text : List Char) : Bool :=
  let digits := match text with
    | '+' :: rest => rest
    | '-' :: rest => rest
    | _ => text
  !digits.isEmpty && digits.all fun c => '0' ≤ c && c ≤ '9'

def isDecimalNumber (text : List Char) : Bool :=
  let body := match text with
    | '+' :: rest => rest
    | '-' :: rest => rest
    | _ => text
  let mantissa := body.takeWhile fun c => c != 'e' && c != 'E'
  match body.dropWhile fun c => c != 'e' && c != 'E' with
  | [] => isDecimal mantissa
  | _ :: exponent => isDecimal mantissa && isExponent exponent

def isNumber (text : List Char) : Bool :=
  let limit : Int := Numeral.max64
  (integer? (-limit) limit text).isSome || isSpecialNumber text
    || (!isZeroPadded text && isDecimalNumber text)

def isPlainText (text : List Char) : Bool :=
  !(text.isEmpty || isNullWord text || isBoolWord text || isNumber text)

namespace Document

def textTag : List Char := "tag:yaml.org,2002:str".toList

/-- The text of a scalar that is a text by itself. -/
def plainText? (document : Document) (node : Node) : Option String :=
  match document.target? node with
  | some (.scalar .plain tag text) =>
    if tag = some textTag || isPlainText text then some (String.ofList text) else none
  | some (.scalar _ _ text) => some (String.ofList text)
  | _ => none

def bool? (document : Document) (node : Node) : Option Bool :=
  match document.target? node with
  | some (.scalar .plain _ text) =>
    if isBoolWord text then some (text.head? == some 't' || text.head? == some 'T') else none
  | _ => none

/-- A field that may be missing or null. -/
def field? {α : Type} (document : Document) (fields : List (String × Node)) (name : String)
    (read : Node → Option α) : Option (Option α) :=
  match fields.lookup name with
  | none => some none
  | some node => document.optional? read node

def repeatsKey (document : Document) (pairs : List (Node × Node)) : Bool :=
  let keys := pairs.filterMap fun pair => document.text? pair.1
  keys.length != keys.eraseDups.length

end Document

mutual

/-- Whether no mapping in a node repeats a key. -/
def Document.hasDistinctKeys (document : Document) : Node → Bool
  | .mapping _ pairs => !document.repeatsKey pairs && document.pairsHaveDistinctKeys pairs
  | .sequence _ items => document.itemsHaveDistinctKeys items
  | _ => true

def Document.itemsHaveDistinctKeys (document : Document) : List Node → Bool
  | [] => true
  | item :: rest => document.hasDistinctKeys item && document.itemsHaveDistinctKeys rest

def Document.pairsHaveDistinctKeys (document : Document) : List (Node × Node) → Bool
  | [] => true
  | (_, value) :: rest =>
    document.hasDistinctKeys value && document.pairsHaveDistinctKeys rest

end

end BrowserPods.Yaml
