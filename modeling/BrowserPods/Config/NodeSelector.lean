import BrowserPods.Dict
import BrowserPods.Failure
import BrowserPods.Text.Blank

/-!
Node selectors as they are written in settings: `key=value` parts between commas.
-/

namespace BrowserPods

open BrowserPods.Text

namespace NodeSelector

/-- The key and the value of a part: what is before and what is behind its first equals sign. -/
def keyValue? (part : List Char) : Option (String × String) :=
  match part.dropWhile (· ≠ '=') with
  | [] => none
  | _ :: value =>
    let key := trim (part.takeWhile (· ≠ '='))
    if key.isEmpty then none else some (String.ofList key, String.ofList (trim value))

/-- The parts between commas that are not blank, trimmed. -/
def parts (cs : List Char) : List (List Char) :=
  ((cs.splitOn ',').map trim).filter fun part => !part.isEmpty

def readPart (part : List Char) : Except OverrideError (String × String) :=
  match keyValue? part with
  | some pair => .ok pair
  | none => .error (.nodeSelectorPart (String.ofList part))

/-- Reads a node selector.  The first part without a key makes it fail; of two parts with one key
the later counts. -/
def parse (text : String) : Except OverrideError (Dict String) :=
  ((parts text.toList).mapM readPart).map Dict.ofList

end NodeSelector

end BrowserPods
