import BrowserPods.Tar.Source

/-!
Files with holes.  A map says which parts of the file are stored; it begins in the header and may go
on in further blocks.  Such members are not copied, but an archive whose map is inconsistent cannot
be read any further.
-/

namespace BrowserPods.Tar.Sparse

open BrowserPods.Text

/-- How far a map has been read. -/
structure Coverage where
  /-- Where the last part ends in the file. -/
  reached : Nat
  /-- How many stored bytes are not accounted for. -/
  remaining : Nat
deriving DecidableEq, Repr

/-- Adds a part to what a map covers.  Stored parts begin at whole blocks, and parts follow each
other in the file.  A part without a place or a length is no part. -/
def cover (size : Nat) (coverage : Coverage) (part : Bytes) : Except Fault Coverage :=
  let place := part.take 12
  let length := (part.drop 12).take 12
  if place.headD 0 = 0 ∨ length.headD 0 = 0 then .ok coverage
  else
    match number? place, number? length with
    | .error fault, _ => .error fault
    | _, .error fault => .error fault
    | .ok offset, .ok count =>
      if count ≠ 0 ∧ (size - coverage.remaining) % blockSize ≠ 0 then .error .holes
      else if offset < coverage.reached then .error .holes
      else if Numeral.max64 < offset + count then .error .holes
      else if coverage.remaining < count then .error .holes
      else .ok { reached := offset + count, remaining := coverage.remaining - count }

/-- The first `count` parts of a table. -/
def parts (count : Nat) (table : Bytes) : List Bytes :=
  (List.range count).map fun i => (table.drop (24 * i)).take 24

/-- Reads further blocks of a map as long as the block before says so. -/
def readMore (size : Nat) (coverage : Coverage) (source : Source) (continued : Bool) :
    Except Fault (Coverage × Source) :=
  if continued then
    match h : ({ source with owed := 0 } : Source).block? with
    | .error fault => .error fault
    | .ok none => .error .truncated
    | .ok (some (block, next)) =>
      have : next.bytes.length < source.bytes.length :=
        @Source.length_block? { source with owed := 0 } next block h
      match (parts 21 block).foldlM (cover size) coverage with
      | .error fault => .error fault
      | .ok covered =>
        readMore size covered { next with owed := source.owed } (((block.drop 504).headD 0) != 0)
  else .ok (coverage, source)
termination_by source.bytes.length

theorem length_readMore {size : Nat} {coverage : Coverage} {source : Source} {continued : Bool}
    {found : Coverage × Source} (h : readMore size coverage source continued = .ok found) :
    found.2.bytes.length ≤ source.bytes.length := by
  fun_induction readMore size coverage source continued with
  | case1 => simp at h
  | case2 => simp at h
  | case3 => simp_all
  | case4 coverage source block next hblock hlength covered hcover ih =>
    exact Nat.le_trans (ih h) (Nat.le_of_lt hlength)
  | case5 =>
    simp only [Except.ok.injEq] at h
    subst h
    exact Nat.le_refl _

/-- Reads the map of a file with holes, with what follows it.  The map must cover the file and the
stored bytes exactly. -/
def readMap (stored : Stored) : Except Fault Source :=
  if !stored.header.isExtended then .error .holes
  else
    let start : Coverage := { reached := 0, remaining := stored.size }
    match (parts 4 (stored.header.field 386 96)).foldlM (cover stored.size) start with
    | .error fault => .error fault
    | .ok covered =>
      let continued := (stored.header.field 482 1).headD 0 != 0
      match readMore stored.size covered stored.source continued with
      | .error fault => .error fault
      | .ok (total, source) =>
        match number? (stored.header.field 483 12) with
        | .error fault => .error fault
        | .ok length =>
          if total.reached ≠ length ∨ total.remaining ≠ 0 then .error .holes else .ok source

theorem length_readMap {stored : Stored} {source : Source} (h : readMap stored = .ok source) :
    source.bytes.length ≤ stored.source.bytes.length := by
  unfold readMap at h
  split at h
  · simp at h
  · simp only at h
    split at h
    · simp at h
    · split at h
      · simp at h
      · rename_i total found hmore
        have hlength := length_readMore hmore
        split at h
        · simp at h
        · split at h
          · simp at h
          · simp only [Except.ok.injEq] at h
            subst h
            exact hlength

end BrowserPods.Tar.Sparse
