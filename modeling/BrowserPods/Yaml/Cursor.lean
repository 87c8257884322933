/-!
A place in a YAML text: the characters that follow it, and where it stands.  Lines end in a line
feed, a carriage return or both, or in one of the three line ends beyond ASCII.
-/

namespace BrowserPods.Yaml

structure Cursor where
  rest : List Char
  index : Nat := 0
  line : Nat := 0
  column : Nat := 0
deriving Repr

def isBreak (c : Char) : Bool :=
  c = '\n' || c = '\r' || c = '\u0085' || c = '\u2028' || c = '\u2029'

def isGap (c : Char) : Bool := c = ' ' || c = '\t'

/-- Whether a character may stand in the name of an anchor or a handle. -/
def isWordChar (c : Char) : Bool :=
  ('0' ≤ c && c ≤ '9') || ('a' ≤ c && c ≤ 'z') || ('A' ≤ c && c ≤ 'Z') || c = '_' || c = '-'

/-- Whether a text may hold a character: the printable ones, and the byte order mark. -/
def isAllowed (c : Char) : Bool :=
  let n := c.toNat
  n == 9 || n == 10 || n == 13 || (0x20 ≤ n && n ≤ 0x7e) || n == 0x85
    || (0xa0 ≤ n && n ≤ 0xfffd) || 0x10000 ≤ n

namespace Cursor

def peek? (cursor : Cursor) : Option Char := cursor.rest.head?

def peekAt? (cursor : Cursor) (distance : Nat) : Option Char := cursor.rest[distance]?

def at? (cursor : Cursor) (c : Char) : Bool := cursor.peek? == some c

def atEnd (cursor : Cursor) : Bool := cursor.rest.isEmpty

/-- Whether a line ends at a distance. -/
def breakAt (cursor : Cursor) (distance : Nat) : Bool := (cursor.peekAt? distance).any isBreak

/-- Whether there is a gap, the end of a line or the end of the text at a distance. -/
def blankAt (cursor : Cursor) (distance : Nat) : Bool :=
  (cursor.peekAt? distance).all fun c => isGap c || isBreak c

def atLineEnd (cursor : Cursor) : Bool := cursor.peek?.all isBreak

def advance (cursor : Cursor) : Cursor :=
  { cursor with
    rest := cursor.rest.drop 1, index := cursor.index + 1, column := cursor.column + 1 }

def advanceBy (cursor : Cursor) (count : Nat) : Cursor :=
  { cursor with
    rest := cursor.rest.drop count, index := cursor.index + count,
    column := cursor.column + count }

def nextLine (cursor : Cursor) : Cursor :=
  match cursor.rest with
  | '\r' :: '\n' :: rest =>
    { rest, index := cursor.index + 2, line := cursor.line + 1, column := 0 }
  | _ :: rest => { rest, index := cursor.index + 1, line := cursor.line + 1, column := 0 }
  | [] => cursor

/-- What the end of a line stands for: a line feed, but for the two separators, which stay. -/
def lineBreak (cursor : Cursor) : List Char :=
  match cursor.rest with
  | '\u2028' :: _ => ['\u2028']
  | '\u2029' :: _ => ['\u2029']
  | _ => ['\n']

/-- Behind the characters of one line that a test accepts, which come first. -/
def takeWhile (cursor : Cursor) (test : Char → Bool) : List Char × Cursor :=
  let taken := cursor.rest.takeWhile test
  (taken, cursor.advanceBy taken.length)

def skipGaps (cursor : Cursor) : Cursor := (cursor.takeWhile isGap).2

def skipByteOrderMark (cursor : Cursor) : Cursor :=
  if cursor.column == 0 && cursor.at? '\uFEFF' then cursor.advance else cursor

def skipComment (cursor : Cursor) : Cursor :=
  if cursor.at? '#' then (cursor.takeWhile fun c => !isBreak c).2 else cursor

/-- Whether a marker of a document begins here: three hyphens or dots at the beginning of a line,
and nothing behind them. -/
def atDocumentMarker (cursor : Cursor) (c : Char) : Bool :=
  cursor.column == 0 && cursor.rest.take 3 == [c, c, c] && cursor.blankAt 3

end Cursor

end BrowserPods.Yaml
