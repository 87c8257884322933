import BrowserPods.Text.CombiningClass
import BrowserPods.Text.Composite

/-!
The composed form of a text: all composites are taken apart, marks are sorted by class, and parts
are put together again wherever no other mark of the same place stands between.  Texts that look the
same have one composed form.
-/

namespace BrowserPods.Text

/-- Takes a composite apart, and its first part again, at most `depth` times. -/
def expand : Nat → Char → List Char
  | 0, c => [c]
  | depth + 1, c =>
    match Composite.parts? c with
    | some (first, second) => expand depth first ++ [second]
    | none => [c]

/-- The longest chain of composites of which each is the first part of the next. -/
def maxDepth : Nat := 3

/-- A text without composites. -/
def decomposed (cs : List Char) : List Char := cs.flatMap (expand maxDepth)

def sortedMarks (marks : List Char) : List Char :=
  marks.mergeSort fun c d => combiningClass c ≤ combiningClass d

/-- Sorts the marks after each other character.  Those met since the last one stand in `marks`, in
reverse. -/
def reorder (marks : List Char) : List Char → List Char
  | [] => sortedMarks marks.reverse
  | c :: rest =>
    if combiningClass c = 0 then sortedMarks marks.reverse ++ c :: reorder [] rest
    else reorder (c :: marks) rest

/-- Puts parts together.  The last character of class 0 is `base`, and `marks` are those after it
that did not join it, in reverse.  A character joins the base unless a mark between them has its
class or a higher one. -/
def compose (base : Option Char) (marks : List Char) : List Char → List Char
  | [] => base.toList ++ marks.reverse
  | c :: rest =>
    let unblocked := match marks with
      | [] => true
      | mark :: _ => combiningClass mark < combiningClass c
    let joined := if unblocked then base.bind (Composite.ofParts? · c) else none
    match joined with
    | some whole => compose (some whole) marks rest
    | none =>
      if combiningClass c = 0 then base.toList ++ marks.reverse ++ compose (some c) [] rest
      else compose base (c :: marks) rest

def composed (cs : List Char) : List Char := compose none [] (reorder [] (decomposed cs))

end BrowserPods.Text
