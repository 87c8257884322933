import BrowserPods.Text.Numeral
import BrowserPods.Yaml.Cursor

/-!
The scalars of YAML: plain, quoted, literal and folded.  Within a scalar, a single line end between
two lines of text counts as a space, and of several the first one does not count.
-/

namespace BrowserPods.Yaml

open BrowserPods.Text

inductive ScalarStyle where
  | plain
  | singleQuoted
  | doubleQuoted
  | literal
  | folded
deriving DecidableEq, Repr

namespace Scalar

/-- The text between two words of a scalar: gaps, or the first line end and those after it. -/
structure Space where
  gaps : List Char := []
  firstBreak : List Char := []
  moreBreaks : List Char := []
  /-- Whether a line has ended. -/
  broken : Bool := false

/-- What a space between two words stands for. -/
def Space.fold (space : Space) : List Char :=
  if !space.broken then space.gaps
  else if space.firstBreak.head? == some '\n' then
    if space.moreBreaks.isEmpty then [' '] else space.moreBreaks
  else space.firstBreak ++ space.moreBreaks

/-- Reads gaps and line ends.  After a line end, a tab before column `tabLimit` is refused. -/
def readSpace? (tabLimit : Nat) : Nat → Space → Cursor → Option (Space × Cursor)
  | 0, space, cursor => some (space, cursor)
  | fuel + 1, space, cursor =>
    match cursor.peek? with
    | none => some (space, cursor)
    | some c =>
      if isGap c then
        if space.broken && c = '\t' && cursor.column < tabLimit then none
        else
          let gaps := if space.broken then space.gaps else space.gaps ++ [c]
          readSpace? tabLimit fuel { space with gaps } cursor.advance
      else if isBreak c then
        let next :=
          if space.broken then { space with moreBreaks := space.moreBreaks ++ cursor.lineBreak }
          else { space with gaps := [], firstBreak := cursor.lineBreak, broken := true }
        readSpace? tabLimit fuel next cursor.nextLine
      else some (space, cursor)

/-! ## Plain scalars -/

/-- Whether a character is an indicator of flow collections that ends a plain scalar there. -/
def isFlowEnd (c : Char) : Bool := c = ',' || c = '[' || c = ']' || c = '\x7b' || c = '\x7d'

/-- Reads a word of a plain scalar, its characters in reverse after `done`.  In a flow collection a
colon right before another indicator is refused. -/
def readWord? (inFlow : Bool) : Nat → List Char → Cursor → Option (List Char × Cursor)
  | 0, done, cursor => some (done, cursor)
  | fuel + 1, done, cursor =>
    match cursor.peek? with
    | none => some (done, cursor)
    | some c =>
      if isGap c || isBreak c then some (done, cursor)
      else if inFlow && c = ':' && (cursor.peekAt? 1).any (fun d => isFlowEnd d || d = '?') then
        none
      else if c = ':' && cursor.blankAt 1 then some (done, cursor)
      else if inFlow && isFlowEnd c then some (done, cursor)
      else readWord? inFlow fuel (c :: done) cursor.advance

/-- Reads a plain scalar after `done`, which stands in reverse, and the space behind it.  `indent`
is the least column of its later lines.  The truth value says whether the scalar ended with a
line. -/
def readPlain? (inFlow : Bool) (indent : Nat) :
    Nat → List Char → Space → Cursor → Option (List Char × Bool × Cursor)
  | 0, done, space, cursor => some (done.reverse, space.broken, cursor)
  | fuel + 1, done, space, cursor =>
    let finished := some (done.reverse, space.broken, cursor)
    if cursor.atDocumentMarker '-' || cursor.atDocumentMarker '.' || cursor.at? '#' then finished
    else
      match readWord? inFlow (cursor.rest.length + 1) [] cursor with
      | none => none
      | some (word, cursor₁) =>
        let (done₁, space₁) :=
          if word.isEmpty then (done, space) else (word ++ space.fold.reverse ++ done, {})
        if cursor₁.peek?.any (fun c => isGap c || isBreak c) then
          match readSpace? indent (cursor₁.rest.length + 1) space₁ cursor₁ with
          | none => none
          | some (space₂, cursor₂) =>
            if !inFlow && cursor₂.column < indent then
              some (done₁.reverse, space₂.broken, cursor₂)
            else readPlain? inFlow indent fuel done₁ space₂ cursor₂
        else some (done₁.reverse, space₁.broken, cursor₁)

/-! ## Quoted scalars -/

def escape? (c : Char) : Option Char :=
  match c with
  | '0' => some '\x00'
  | 'a' => some '\x07'
  | 'b' => some '\x08'
  | 't' => some '\t'
  | '\t' => some '\t'
  | 'n' => some '\n'
  | 'v' => some '\x0b'
  | 'f' => some '\x0c'
  | 'r' => some '\r'
  | 'e' => some '\x1b'
  | ' ' => some ' '
  | '"' => some '"'
  | '/' => some '/'
  | '\\' => some '\\'
  | 'N' => some '\u0085'
  | '_' => some '\u00a0'
  | 'L' => some '\u2028'
  | 'P' => some '\u2029'
  | _ => none

def escapeDigits? (c : Char) : Option Nat :=
  match c with
  | 'x' => some 2
  | 'u' => some 4
  | 'U' => some 8
  | _ => none

def readEscape? (cursor : Cursor) : Option (Char × Cursor) := do
  let letter ← cursor.peekAt? 1
  match escape? letter with
  | some decoded => pure (decoded, cursor.advanceBy 2)
  | none =>
    let count ← escapeDigits? letter
    let digits := (cursor.rest.drop 2).take count
    let value ← Numeral.ofDigits? 16 digits
    if digits.length = count ∧ value.isValidChar then
      pure (Char.ofNat value, cursor.advanceBy (2 + count))
    else none

/-- Reads the text of a quoted scalar up to the next gap, line end or closing quote, its characters
in reverse after `done`.  The truth value says whether a line end was escaped. -/
def readQuotedWord? (single : Bool) :
    Nat → List Char → Cursor → Option (List Char × Bool × Cursor)
  | 0, done, cursor => some (done, false, cursor)
  | fuel + 1, done, cursor =>
    match cursor.peek? with
    | none => some (done, false, cursor)
    | some c =>
      if isGap c || isBreak c then some (done, false, cursor)
      else if single && c = '\'' then
        if cursor.peekAt? 1 == some '\'' then
          readQuotedWord? single fuel ('\'' :: done) (cursor.advanceBy 2)
        else some (done, false, cursor)
      else if !single && c = '"' then some (done, false, cursor)
      else if !single && c = '\\' then
        if cursor.breakAt 1 then some (done, true, cursor.advance.nextLine)
        else
          match readEscape? cursor with
          | none => none
          | some (decoded, cursor₁) => readQuotedWord? single fuel (decoded :: done) cursor₁
      else readQuotedWord? single fuel (c :: done) cursor.advance

/-- Reads a quoted scalar after its opening quote and after `done`, which stands in reverse. -/
def readQuoted? (single : Bool) : Nat → List Char → Cursor → Option (List Char × Cursor)
  | 0, _, _ => none
  | fuel + 1, done, cursor =>
    if cursor.atDocumentMarker '-' || cursor.atDocumentMarker '.' || cursor.atEnd then none
    else
      match readQuotedWord? single (cursor.rest.length + 1) done cursor with
      | none => none
      | some (done₁, escapedBreak, cursor₁) =>
        if cursor₁.at? (if single then '\'' else '"') then some (done₁.reverse, cursor₁.advance)
        else
          match readSpace? 0 (cursor₁.rest.length + 1) { broken := escapedBreak } cursor₁ with
          | none => none
          | some (space, cursor₂) => readQuoted? single fuel (space.fold.reverse ++ done₁) cursor₂

/-! ## Literal and folded scalars -/

inductive Chomping where
  | none
  | one
  | all
deriving DecidableEq

/-- Reads a sign for the last line ends. -/
def readChomping? (cursor : Cursor) : Option (Chomping × Cursor) :=
  if cursor.at? '+' then some (.all, cursor.advance)
  else if cursor.at? '-' then some (.none, cursor.advance)
  else none

def readIncrement? (cursor : Cursor) : Option (Nat × Cursor) :=
  match cursor.peek? with
  | some c => if '1' ≤ c && c ≤ '9' then some (c.toNat - '0'.toNat, cursor.advance) else none
  | none => none

/-- Reads the sign and the digit behind the indicator, in either order. -/
def readBlockHeader (cursor : Cursor) : Chomping × Nat × Cursor :=
  match readChomping? cursor with
  | some (chomping, cursor₁) =>
    match readIncrement? cursor₁ with
    | some (increment, cursor₂) => (chomping, increment, cursor₂)
    | none => (chomping, 0, cursor₁)
  | none =>
    match readIncrement? cursor with
    | some (increment, cursor₁) =>
      match readChomping? cursor₁ with
      | some (chomping, cursor₂) => (chomping, increment, cursor₂)
      | none => (.one, increment, cursor₁)
    | none => (.one, 0, cursor)

/-- Reads the indentation of lines and empty lines.  With indentation zero, which is still to be
found, gives the largest column.  A tab in the indentation is refused. -/
def readIndentation? (indent : Nat) :
    Nat → Nat → List Char → Cursor → Option (Nat × List Char × Cursor)
  | 0, deepest, breaks, cursor => some (deepest, breaks, cursor)
  | fuel + 1, deepest, breaks, cursor =>
    let open_ := indent == 0 || cursor.column < indent
    if open_ && cursor.at? ' ' then readIndentation? indent fuel deepest breaks cursor.advance
    else
      let deepest₁ := max deepest cursor.column
      if open_ && cursor.at? '\t' then none
      else if cursor.breakAt 0 then
        readIndentation? indent fuel deepest₁ (breaks ++ cursor.lineBreak) cursor.nextLine
      else some (deepest₁, breaks, cursor)

/-- Reads the lines of a literal or folded scalar at their indentation.  Gives its text, the line
end behind it and the empty lines behind that. -/
def readLines? (literal : Bool) (indent : Nat) :
    Nat → List Char → List Char → List Char → Bool → Cursor →
      Option (List Char × List Char × List Char × Cursor)
  | 0, text, lastBreak, breaks, _, cursor => some (text, lastBreak, breaks, cursor)
  | fuel + 1, text, lastBreak, breaks, afterGap, cursor =>
    if cursor.column != indent || cursor.atEnd then some (text, lastBreak, breaks, cursor)
    else
      let gap := cursor.peek?.any isGap
      let joined :=
        if !literal && lastBreak.head? == some '\n' && !afterGap && !gap then
          if breaks.isEmpty then text ++ [' '] else text ++ breaks
        else text ++ lastBreak ++ breaks
      let (line, cursor₁) := cursor.takeWhile fun c => !isBreak c
      let (nextBreak, cursor₂) :=
        if cursor₁.atEnd then ([], cursor₁) else (cursor₁.lineBreak, cursor₁.nextLine)
      match readIndentation? indent (cursor₂.rest.length + 1) 0 [] cursor₂ with
      | none => none
      | some (_, breaks₁, cursor₃) =>
        readLines? literal indent fuel (joined ++ line) nextBreak breaks₁ gap cursor₃

/-- Reads a literal or folded scalar behind its indicator.  `parent` is the indentation of the
collection around it, below zero outside of any. -/
def readBlock? (literal : Bool) (parent : Int) (cursor : Cursor) : Option (List Char × Cursor) :=
  let (chomping, increment, cursor₁) := readBlockHeader cursor
  let cursor₂ := cursor₁.skipGaps.skipComment
  if !cursor₂.atLineEnd then none
  else
    let cursor₃ := cursor₂.nextLine
    let fixed := if increment = 0 then 0 else (max parent 0).toNat + increment
    match readIndentation? fixed (cursor₃.rest.length + 1) 0 [] cursor₃ with
    | none => none
    | some (deepest, breaks, cursor₄) =>
      let indent := if fixed = 0 then max (max deepest (parent + 1).toNat) 1 else fixed
      match readLines? literal indent (cursor₄.rest.length + 1) [] [] breaks false cursor₄ with
      | none => none
      | some (text, lastBreak, moreBreaks, cursor₅) =>
        let ending := match chomping with
          | .none => []
          | .one => lastBreak
          | .all => lastBreak ++ moreBreaks
        some (text ++ ending, cursor₅)

end Scalar

end BrowserPods.Yaml
