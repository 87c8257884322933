import BrowserPods.Text.Composed
import BrowserPods.Text.Direction
import BrowserPods.Text.Joining
import BrowserPods.Text.Mark
import BrowserPods.Url.Mapping
import BrowserPods.Url.Punycode

/-!
Labels: the parts of a domain between its dots.  A label beyond ASCII has an ASCII form, `xn--` and
its Punycode; a label that is given in that form is held to the same rules.
-/

namespace BrowserPods

open BrowserPods.Text

/-- A label as a text, and its ASCII form. -/
structure Label where
  text : List Char
  ascii : List Char
deriving DecidableEq, Repr

namespace Label

/-- What every encoded label starts with. -/
def marker : List Char := ['x', 'n', '-', '-']

/-- The longest text that is encoded. -/
def maxText : Nat := 1000

/-- The longest code that is decoded. -/
def maxCode : Nat := 2000

/-- The ASCII characters that no domain holds: controls, the space, and those with a meaning in
URLs. -/
def isForbidden (c : Char) : Bool :=
  c.toNat ≤ 0x20 || c.toNat == 0x7f
    || ['%', '#', '/', ':', '<', '>', '?', '@', '[', '\\', ']', '^', '|'].contains c

/-! ## Joiners -/

/-- The joining type of the nearest character that is not skipped. -/
def nearestJoining (cs : List Char) : Joining :=
  ((cs.map Joining.ofChar).find? (· != .transparent)).getD .none

/-- Whether the joiners of a label stand where they change its look: after a virama, or, for the one
that parts its neighbours, between two letters that would join.  The characters before stand in
`before`, in reverse. -/
def joinersFit (before : List Char) : List Char → Bool
  | [] => true
  | c :: rest =>
    let afterVirama := (before.head?.map combiningClass) == some viramaClass
    let parts :=
      (nearestJoining before == .left || nearestJoining before == .dual)
        && (nearestJoining rest == .right || nearestJoining rest == .dual)
    let fits :=
      if c == '\u200c' then afterVirama || parts
      else if c == '\u200d' then afterVirama
      else true
    fits && joinersFit (c :: before) rest

/-! ## Directions -/

/-- Whether a domain with a character of this direction mixes directions. -/
def turns : Direction → Bool
  | .rightToLeft | .arabicNumber => true
  | _ => false

/-- Whether a label may stand in a domain that mixes directions: it runs one way throughout, its end
shows that, and a label that runs right to left has digits of one kind only. -/
def directionsFit (cs : List Char) : Bool :=
  let all := cs.map Direction.ofChar
  let end? := (all.reverse.dropWhile (· == .nonspacing)).head?
  match all.head? with
  | none => true
  | some .leftToRight =>
    all.all (fun d => [.leftToRight, .europeanNumber, .neutral, .nonspacing].contains d)
      && (end? == some .leftToRight || end? == some .europeanNumber)
  | some .rightToLeft =>
    all.all (fun d =>
        [.rightToLeft, .arabicNumber, .europeanNumber, .neutral, .nonspacing].contains d)
      && (end? == some .rightToLeft || end? == some .europeanNumber || end? == some .arabicNumber)
      && !(all.contains .europeanNumber && all.contains .arabicNumber)
  | some _ => false

/-! ## Reading -/

/-- Whether a text beyond ASCII can be a label. -/
def isLabel (cs : List Char) : Bool :=
  !cs.any isForbidden && !(cs.head?.map isMark).getD false && joinersFit [] cs

/-- Whether mapping and composing leave a text as it is. -/
def isSettled (cs : List Char) : Bool :=
  Domain.map? cs == some cs && composed cs == cs

/-- Reads a label in ASCII form without its marker. -/
def readEncoded? (code : List Char) : Option Label :=
  if code.length ≤ maxCode ∧ ¬ code.any isForbidden then
    (Punycode.decode? code).bind fun text =>
      if !text.all Punycode.isBasic && !marker.isPrefixOf text && isSettled text
          && isLabel text then
        some ⟨text, marker ++ code⟩
      else none
  else none

def read? (cs : List Char) : Option Label :=
  if marker.isPrefixOf cs then readEncoded? (cs.drop marker.length)
  else if cs.all Punycode.isBasic then
    if cs.any isForbidden then none else some ⟨cs, cs⟩
  else if isLabel cs ∧ cs.length ≤ maxText then some ⟨cs, marker ++ Punycode.encode cs⟩
  else none

end Label

end BrowserPods
