import BrowserPods.Tar.Archive
import Mathlib

/-!
# Reading an archive step by step

A block is there if the bytes reach to its end (`Source.block?_eq_some_iff`).  What is read off a
block does not depend on what follows it (`Source.storedAt`), and each member is read from what the
one before it leaves (`Source.members_of_member?`).
-/

namespace BrowserPods.Tar

open BrowserPods.Text

variable {count : ℕ} {bytes rest : Bytes}

theorem dropExact?_eq_some_iff :
    dropExact? count bytes = some rest ↔ count ≤ bytes.length ∧ rest = bytes.drop count := by
  fun_induction dropExact? count bytes with
  | case1 bytes => simp [eq_comm]
  | case2 count => simp
  | case3 count b tail inductionHypothesis =>
      rw [inductionHypothesis]
      simp

theorem dropExact?_eq_none_iff : dropExact? count bytes = none ↔ bytes.length < count := by
  rw [Option.eq_none_iff_forall_ne_some]
  simp [dropExact?_eq_some_iff]

namespace Source

variable {source next : Source} {block : Bytes} {attributes : Option Bytes} {stored : Stored}

/-! ## Blocks -/

/-- Whether the data of the member before are there to their end. -/
def IsPaid (source : Source) : Prop := source.owed ≤ source.bytes.length

theorem block?_eq_some_iff :
    source.block? = .ok (some (block, next)) ↔
      source.owed + blockSize ≤ source.bytes.length ∧
        block = (source.bytes.drop source.owed).take blockSize ∧
        next = { bytes := source.bytes.drop (source.owed + blockSize)
                 position := source.position + source.owed + blockSize } := by
  have size : blockSize = 512 := rfl
  unfold block?
  split
  · rename_i missing
    have short := dropExact?_eq_none_iff.mp missing
    simp only [reduceCtorEq, false_iff]
    rintro ⟨long, -⟩
    omega
  · rename_i atEnd
    have length := dropExact?_length atEnd
    simp only [Except.ok.injEq, reduceCtorEq, false_iff]
    rintro ⟨long, -⟩
    simp only [List.length_nil] at length
    omega
  · rename_i b tail found
    obtain ⟨reached, shape⟩ := dropExact?_eq_some_iff.mp found
    rw [shape]
    split
    · rename_i missing
      have short := dropExact?_eq_none_iff.mp missing
      rw [List.length_drop] at short
      simp only [reduceCtorEq, false_iff]
      rintro ⟨long, -⟩
      omega
    · rename_i after whole
      obtain ⟨long, rfl⟩ := dropExact?_eq_some_iff.mp whole
      rw [List.length_drop] at long
      have enough : source.owed + blockSize ≤ source.bytes.length := by omega
      simp [enough, List.drop_drop, eq_comm]

/-- The member that begins with a block: the block is a header with its sum, and the size of the
data is the one of the attributes or else the one of the header. -/
structure Opens (source : Source) (attributes : Option Bytes) (stored : Stored) (next : Source) :
    Prop where
  block : source.block? = .ok (some (stored.header.block, next))
  notZero : stored.header.block.all (· = 0) = false
  sum : stored.header.checkSum = .ok ()
  size : ∃ stated, stored.header.size? = .ok stated ∧
    stored.size = (attributes.bind Attributes.size?).getD stated
  owed : paddedSize? next.position stored.size = some stored.source.owed
  after : stored.source = { next with owed := stored.source.owed }

theorem stored?_eq_some_iff :
    source.stored? attributes = .ok (some stored) ↔
      ∃ next, source.Opens attributes stored next := by
  constructor
  · intro found
    unfold stored? at found
    split at found
    · cases found
    · cases found
    · rename_i block next read
      split at found
      · cases found
      · rename_i notZero
        dsimp only at found
        split at found
        · cases found
        · cases found
        · rename_i stated sum size
          split at found
          · cases found
          · rename_i padded room
            cases found
            exact ⟨next, read, by simpa using notZero, sum, ⟨stated, size, rfl⟩, room, rfl⟩
  · rintro ⟨next, read, notZero, sum, ⟨stated, size, sizes⟩, room, shape⟩
    obtain ⟨⟨block⟩, storedSize, after⟩ := stored
    dsimp only at *
    subst sizes
    unfold stored?
    rw [read]
    simp only [notZero, Bool.false_eq_true, if_false, sum, size, room]
    rw [shape]

/-! ## Members -/

variable {description extended : Description} {member : Member}

/-- What a stored member says about the next one, if it is one that describes it. -/
def said? (description : Description) (stored : Stored) : Option (Except Fault Description) :=
  if describes stored then
    description.add? stored.header.kind (stored.source.data stored.size)
  else none

/-- A stored member as it is described, if it is no description itself. -/
def memberAt (description : Description) (stored : Stored) : Member :=
  { path := description.path stored.header
    kind := stored.header.kind
    contents := stored.source.data stored.size }

/-- How a member is read: past those that describe it, and past the map of a file with holes. -/
inductive Yields : Source → Description → Member → Source → Prop
  | described {source next : Source} {description extended : Description} {stored : Stored}
      {member : Member}
      (opened : source.stored? description.attributes = .ok (some stored))
      (told : said? description stored = some (.ok extended))
      (later : Yields stored.source extended member next) :
      Yields source description member next
  | plain {source : Source} {description : Description} {stored : Stored}
      (opened : source.stored? description.attributes = .ok (some stored))
      (untold : said? description stored = none)
      (whole : stored.header.kind ≠ .sparse) :
      Yields source description (memberAt description stored) stored.source
  | sparse {source next : Source} {description : Description} {stored : Stored}
      (opened : source.stored? description.attributes = .ok (some stored))
      (untold : said? description stored = none)
      (holes : stored.header.kind = .sparse)
      (mapped : Sparse.readMap stored = .ok next) :
      Yields source description (memberAt description stored) next

theorem member?_eq_some_iff :
    source.member? description = .ok (some (member, next)) ↔
      Yields source description member next := by
  constructor
  · intro read
    fun_induction member? source description with
    | case1 => simp at read
    | case2 => simp at read
    | case3 => simp at read
    | case4 => simp at read
    | case5 source description stored opened _ contents kind extended told inductionHypothesis =>
        exact .described opened told (inductionHypothesis read)
    | case6 => simp at read
    | case7 source description stored opened _ contents kind untold found holes after mapped =>
        obtain ⟨rfl, rfl⟩ : found = member ∧ after = next := by simpa using read
        exact .sparse opened untold holes mapped
    | case8 source description stored opened _ contents kind untold found whole =>
        obtain ⟨rfl, rfl⟩ : found = member ∧ stored.source = next := by simpa using read
        exact .plain opened untold whole
  · intro yields
    induction yields with
    | described opened told later inductionHypothesis =>
        rw [member?]
        split <;> simp_all [said?]
    | plain opened untold whole =>
        rw [member?]
        split <;> simp_all [said?, memberAt]
    | sparse opened untold holes mapped =>
        rw [member?]
        split <;> simp_all [said?, memberAt]

theorem member?_of_end (ends : source.stored? none = .ok none) : source.member? {} = .ok none := by
  rw [member?]
  split <;> simp_all [Description.isEmpty]

theorem members_of_end (ends : source.member? {} = .ok none) : source.members = ([], none) := by
  rw [members]
  split <;> simp_all

theorem members_of_member? (read : source.member? {} = .ok (some (member, next))) :
    source.members = (member :: next.members.1, next.members.2) := by
  rw [members]
  split <;> simp_all

end Source

end BrowserPods.Tar
