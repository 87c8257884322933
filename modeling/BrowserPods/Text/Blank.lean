/-!
Blank characters and blank settings.  A setting whose text is empty or holds blank characters only
counts as absent; any other setting is read without the blank characters around it.
-/

namespace BrowserPods.Text

/-- The characters with the property `White_Space`: the ASCII blanks from tab to carriage return
and the space, the next-line and no-break characters, and the spaces and separators above them. -/
def isBlank (c : Char) : Bool :=
  let n := c.toNat
  (0x09 ≤ n && n ≤ 0x0d) || n == 0x20 || n == 0x85 || n == 0xa0 || n == 0x1680
    || (0x2000 ≤ n && n ≤ 0x200a) || n == 0x2028 || n == 0x2029 || n == 0x202f
    || n == 0x205f || n == 0x3000

def trimStart (cs : List Char) : List Char := cs.dropWhile isBlank

def trimEnd (cs : List Char) : List Char := (cs.reverse.dropWhile isBlank).reverse

/-- Without the blank characters on either side. -/
def trim (cs : List Char) : List Char := trimEnd (trimStart cs)

def trimmed (s : String) : String := String.ofList (trim s.toList)

/-- A text that holds more than blank characters, trimmed; otherwise nothing. -/
def unlessBlank? (s : String) : Option String :=
  let t := trimmed s
  if t = "" then none else some t

/-- A setting that is present and not blank, trimmed. -/
def setting? (value : Option String) : Option String := value.bind unlessBlank?

end BrowserPods.Text
