import BrowserPods.Text.Utf8
import BrowserPods.Url.Label

/-!
Domains in ASCII.  A domain is mapped, composed, and divided at its dots; the ASCII forms of its
labels make up its ASCII form.
-/

namespace BrowserPods.Domain

open BrowserPods.Text

/-- The labels of a mapped domain.  If one of them has characters that run right to left, all must
fit together. -/
def labels? (cs : List Char) : Option (List Label) :=
  ((cs.splitOn '.').mapM Label.read?).filter fun labels =>
    !labels.any (fun label => label.text.any (Label.turns ∘ Direction.ofChar))
      || labels.all (fun label => Label.directionsFit label.text)

/-- The ASCII form of a domain that is given as bytes. -/
def toAscii? (bytes : Bytes) : Option (List Char) := do
  let text ← Utf8.decode? bytes
  let mapped ← map? text.toList
  let labels ← labels? (composed mapped)
  pure (List.intercalate ['.'] (labels.map Label.ascii))

end BrowserPods.Domain
