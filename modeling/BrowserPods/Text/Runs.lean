import BrowserPods.Text.Numeral

/-!
Properties of characters as tables.  A table lists runs of code points in ascending order; the
members of a run share a value, and a code point outside the runs has none.

A table is written as words between spaces.  A word gives the first and the last code point of a run
in hexadecimal, joined by `..`, or just the one code point, and then the value.
-/

namespace BrowserPods.Text

/-- Adjacent code points that share a value. -/
structure Run (α : Type) where
  first : Nat
  last : Nat
  value : α

namespace Run

/-- A run that leads to texts gives its members one text each, in order. -/
def text? (run : Run (List (List Char))) (n : Nat) : Option (List Char) :=
  run.value[n - run.first]?

/-- The digits in front of a word as a number, and the rest of the word. -/
def takeNumber (cs : List Char) : Option Nat × List Char :=
  let digits := cs.takeWhile fun c => (Numeral.digit? 16 c).isSome
  (Numeral.ofDigits? 16 digits, cs.drop digits.length)

/-- Reads a word whose value is written as `value?` reads it. -/
def read? {α : Type} (value? : List Char → Option α) (word : List Char) : Option (Run α) :=
  match takeNumber word with
  | (some first, '.' :: '.' :: rest) =>
    match takeNumber rest with
    | (some last, rest) => (value? rest).map (Run.mk first last)
    | (none, _) => none
  | (some first, rest) => (value? rest).map (Run.mk first first)
  | (none, _) => none

/-- A text written as its code points with dots between. -/
def readText? (cs : List Char) : Option (List Char) :=
  if cs.isEmpty then some []
  else (cs.splitOn '.').mapM fun digits => (Numeral.ofDigits? 16 digits).map Char.ofNat

/-- Texts with commas between. -/
def readTexts? (cs : List Char) : Option (List (List Char)) :=
  (cs.splitOn ',').mapM readText?

end Run

/-- The runs of a property. -/
abbrev Runs (α : Type) := Array (Run α)

namespace Runs

def read {α : Type} (value? : List Char → Option α) (lines : List String) : Runs α :=
  (lines.flatMap fun line => (line.toList.splitOn ' ').filterMap (Run.read? value?)).toArray

/-- The run of a code point among those from place `low` up to, but without, place `high`. -/
def search {α : Type} (runs : Runs α) (n low high : Nat) : Option (Run α) :=
  if low < high then
    match runs[(low + high) / 2]? with
    | none => none
    | some run =>
      if n < run.first then search runs n low ((low + high) / 2)
      else if run.last < n then search runs n ((low + high) / 2 + 1) high
      else some run
  else none
termination_by high - low

def find? {α : Type} (runs : Runs α) (n : Nat) : Option (Run α) := runs.search n 0 runs.size

def value? {α : Type} (runs : Runs α) (n : Nat) : Option α := (runs.find? n).map Run.value

end Runs

end BrowserPods.Text
