import BrowserPods.Json.Value
import BrowserPods.Dict

/-!
Reading typed values off JSON values.  Two rules for the fields of an object occur.  A *record* has
its fields exactly once and may leave out those with a default (`Record.field?`); an *API object*
takes the last of repeated fields and does not tell `null` from a field left out (`apiField?`).
-/

namespace BrowserPods.Json

/-! ## Single values -/

def text? : Json → Option String
  | .string s => some s
  | _ => none

def bool? : Json → Option Bool
  | .bool b => some b
  | _ => none

def intBetween? (low high : Int) : Json → Option Int
  | .number (.integer n) => if low ≤ n && n ≤ high then some n else none
  | _ => none

def natUpTo? (limit : Nat) (value : Json) : Option Nat :=
  (intBetween? 0 limit value).map Int.toNat

def uint16? (value : Json) : Option UInt16 :=
  (natUpTo? 65535 value).map UInt16.ofNat

def int32? : Json → Option Int := intBetween? (-2147483648) 2147483647

def int64? : Json → Option Int := intBetween? (-9223372036854775808) 9223372036854775807

def list? {α : Type} (item : Json → Option α) : Json → Option (List α)
  | .array items => items.mapM item
  | _ => none

def dict? {α : Type} (value : Json → Option α) : Json → Option (Dict α)
  | .object fields =>
    (fields.mapM fun (field : String × Json) =>
      (value field.2).map fun read => (field.1, read)).map Dict.ofList
  | _ => none

def nullable? {α : Type} (value : Json → Option α) : Json → Option (Option α)
  | .null => some none
  | v => (value v).map some

/-! ## Records -/

/-- The fields of a record: those of an object as they stand, or the items of an array named in
the order of declaration.  An array must not have more items than there are names, and not fewer
than `atLeast`. -/
def Record.fields? (names : List String) (atLeast : Nat) : Json → Option (List (String × Json))
  | .object fields => some fields
  | .array items =>
    if items.length ≤ names.length ∧ atLeast ≤ items.length then some (names.zip items) else none
  | _ => none

/-- Reads the field of a record.  It must not be repeated; one left out takes the default, if there
is one. -/
def Record.field? {α : Type} (fields : List (String × Json)) (name : String)
    (value : Json → Option α) (default : Option α) : Option α :=
  match fields.filter (·.1 = name) with
  | [] => default
  | [(_, v)] => value v
  | _ => none

/-! ## API objects -/

def fields? : Json → Option (List (String × Json))
  | .object fields => some fields
  | _ => none

/-- Reads an optional field of an API object.  The outer option is the failure to read it; a
repeated field must be readable each time. -/
def apiField? {α : Type} (fields : List (String × Json)) (name : String)
    (value : Json → Option α) : Option (Option α) :=
  (fields.filter (·.1 = name)).foldlM (fun _ field => nullable? value field.2) none

/-- Reads a field of an API object that takes a default value when it is left out. -/
def apiFieldOr? {α : Type} (fields : List (String × Json)) (name : String)
    (value : Json → Option α) (default : α) : Option α :=
  (apiField? fields name value).map (·.getD default)

/-- Whether a field is left out or holds the given text. -/
def agrees (fields : List (String × Json)) (name expected : String) : Bool :=
  fields.all fun field => field.1 ≠ name || field.2.text? == some expected

/-! ## Values of any shape -/

mutual

/-- A value with the last of repeated fields everywhere. -/
def plain? : Json → Option Json
  | .broken => none
  | .array items => (plainItems? items).map .array
  | .object fields => (plainFields? fields).map fun read => .object (Dict.ofList read).entries
  | value => some value

def plainItems? : List Json → Option (List Json)
  | [] => some []
  | item :: rest => (plain? item).bind fun own => (plainItems? rest).map (own :: ·)

def plainFields? : List (String × Json) → Option (List (String × Json))
  | [] => some []
  | (name, value) :: rest =>
    (plain? value).bind fun own => (plainFields? rest).map ((name, own) :: ·)

end

end BrowserPods.Json
