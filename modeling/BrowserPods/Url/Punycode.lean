/-!
Punycode: any text in letters, digits and hyphens.  The ASCII characters come first, then a hyphen
if there are any, then the places and values of the others in ascending order, each as the number of
steps from the one before.  A number has digits to the base 36, the lowest first, and ends with the
first digit under its threshold; thresholds adapt to the size of the numbers before.
-/

namespace BrowserPods.Punycode

/-! ## Digits and thresholds -/

/-- A digit: `a` to `z`, then `0` to `9`. -/
def digit (d : Nat) : Char :=
  if d < 26 then Char.ofNat ('a'.toNat + d) else Char.ofNat ('0'.toNat + (d - 26))

def digitValue? (c : Char) : Option Nat :=
  if 'a' ≤ c ∧ c ≤ 'z' then some (c.toNat - 'a'.toNat)
  else if 'A' ≤ c ∧ c ≤ 'Z' then some (c.toNat - 'A'.toNat)
  else if '0' ≤ c ∧ c ≤ '9' then some (c.toNat - '0'.toNat + 26)
  else none

/-- The threshold of the digit at `place`, which counts 36, 72 and so on. -/
def threshold (bias place : Nat) : Nat := min 26 (max 1 (place - bias))

theorem threshold_pos (bias place : Nat) : 1 ≤ threshold bias place := by
  simp only [threshold]; omega

/-- Scales a number of steps down, counting 36 for each division. -/
def scale (steps count : Nat) : Nat :=
  if 455 < steps then scale (steps / 35) (count + 36) else count + 36 * steps / (steps + 38)
termination_by steps
decreasing_by exact Nat.div_lt_self (by omega) (by omega)

/-- The bias after a number of steps, with `size` characters so far. -/
def adapt (steps size : Nat) (isFirst : Bool) : Nat :=
  let steps := if isFirst then steps / 700 else steps / 2
  scale (steps + steps / size) 0

def firstBias : Nat := 72

/-- The first value beyond ASCII. -/
def firstValue : Nat := 0x80

/-! ## Writing -/

/-- The digits of a number from a place on. -/
def writeNumber (bias place number : Nat) : List Char :=
  let t := threshold bias place
  if number < t then [digit number]
  else
    digit (t + (number - t) % (36 - t)) :: writeNumber bias (place + 36) ((number - t) / (36 - t))
termination_by number
decreasing_by
  have positive := threshold_pos bias place
  have := Nat.div_le_self (number - threshold bias place) (36 - threshold bias place)
  omega

/-- What has been written, and what the next number depends on. -/
structure Writing where
  /-- The digits so far, in reverse. -/
  written : List Char
  /-- The steps since the last number. -/
  steps : Nat
  bias : Nat
  /-- How many characters have been written. -/
  size : Nat
  isFirst : Bool

namespace Writing

/-- Steps over a character of the text, or writes it if it has the value in turn. -/
def visit (value : Nat) (state : Writing) (c : Char) : Writing :=
  if c.toNat < value then { state with steps := state.steps + 1 }
  else if c.toNat = value then
    { written := (writeNumber state.bias 36 state.steps).reverse ++ state.written
      steps := 0
      bias := adapt state.steps (state.size + 1) state.isFirst
      size := state.size + 1
      isFirst := false }
  else state

/-- Writes the characters with the given values, which ascend from `value` on. -/
def run (cs : List Char) : Nat → List Nat → Writing → Writing
  | _, [], state => state
  | value, next :: rest, state =>
    let start := { state with steps := state.steps + (next - value) * (state.size + 1) }
    let after := cs.foldl (visit next) start
    run cs (next + 1) rest { after with steps := after.steps + 1 }

end Writing

def isBasic (c : Char) : Bool := c.toNat < firstValue

def encode (cs : List Char) : List Char :=
  let basic := cs.filter isBasic
  let values := (((cs.filter (! isBasic ·)).map Char.toNat).mergeSort (· ≤ ·)).eraseReps
  let state := Writing.run cs firstValue values ⟨[], 0, firstBias, basic.length, true⟩
  basic ++ (if basic.isEmpty then [] else ['-']) ++ state.written.reverse

/-! ## Reading -/

/-- Reads a number from a place on, each digit weighing `weight`, and adds it to `number`. -/
def readNumber (bias place weight number : Nat) : List Char → Option (Nat × List Char)
  | [] => none
  | c :: rest =>
    match digitValue? c with
    | none => none
    | some d =>
      let t := threshold bias place
      if d < t then some (number + d * weight, rest)
      else readNumber bias (place + 36) (weight * (36 - t)) (number + d * weight) rest

/-- A number takes at least one digit. -/
theorem length_of_readNumber {bias place weight number total : Nat} {cs rest : List Char}
    (read : readNumber bias place weight number cs = some (total, rest)) :
    rest.length < cs.length := by
  fun_induction readNumber bias place weight number cs with
  | case1 => simp at read
  | case2 => simp at read
  | case3 => simp only [Option.some.injEq, Prod.mk.injEq] at read; simp [read.2]
  | case4 place weight number c rest' d _ t _ ih =>
    have := ih read
    simp only [List.length_cons]
    omega

/-- Puts the characters that the numbers give into a text, after the place and value of the one
before.  Values that no character has are refused. -/
def readInto (bias value place : Nat) (isFirst : Bool) (text : List Char) (cs : List Char) :
    Option (List Char) :=
  if cs.isEmpty then some text
  else
    match read : readNumber bias 36 1 place cs with
    | none => none
    | some (total, rest) =>
      have := length_of_readNumber read
      let size := text.length + 1
      let value := value + total / size
      if value.isValidChar then
        readInto (adapt (total - place) size isFirst) value (total % size + 1) false
          (text.insertIdx (total % size) (Char.ofNat value)) rest
      else none
termination_by cs.length

/-- The ASCII characters of a written form, and its digits: the last hyphen divides them. -/
def divide (cs : List Char) : List Char × List Char :=
  let digits := (cs.reverse.takeWhile (· != '-')).reverse
  (cs.take (cs.length - digits.length - 1), digits)

def decode? (cs : List Char) : Option (List Char) :=
  let (basic, digits) := divide cs
  if basic.all isBasic then readInto firstBias firstValue 0 true basic digits else none

end BrowserPods.Punycode
