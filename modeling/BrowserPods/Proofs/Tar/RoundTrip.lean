import BrowserPods.Proofs.Tar.Steps
import BrowserPods.Proofs.Tar.Writing
import Mathlib

/-!
# Reading what was written

Reading an archive gives back the members that were written to it (`read_write`), whatever their
contents look like: a reader that is at a header is at the next one after the data, and the notes
before a member make up its path.
-/

namespace BrowserPods.Tar

open BrowserPods.Text

namespace Source

/-- Whether a reader is at some place in an archive, with some bytes before it; what it has skipped
may still be there. -/
structure IsAt (source : Source) (offset : ℕ) (rest : Bytes) : Prop where
  paid : source.IsPaid
  rest : source.bytes.drop source.owed = rest
  offset : source.position + source.owed = offset

variable {source : Source} {offset : ℕ} {rest : Bytes} {record : Record}

theorem length_of_isAt (isAt : source.IsAt offset rest) :
    source.owed + rest.length = source.bytes.length := by
  have paid : source.owed ≤ source.bytes.length := isAt.paid
  rw [← isAt.rest, List.length_drop]
  omega

/-- A block is read where it begins. -/
theorem block?_of_isAt {block : Bytes} (isAt : source.IsAt offset (block ++ rest))
    (whole : block.length = blockSize) :
    ∃ next, source.block? = .ok (some (block, next)) ∧ next.bytes = rest ∧
      next.position = offset + blockSize := by
  have length := length_of_isAt isAt
  rw [List.length_append, whole] at length
  refine ⟨_, block?_eq_some_iff.mpr ⟨by omega, ?_, rfl⟩, ?_, ?_⟩
  · rw [isAt.rest, List.take_left' whole]
  · rw [← List.drop_drop, isAt.rest, List.drop_left' whole]
  · rw [← isAt.offset]

theorem paddedSize?_of_le {position size : ℕ} (small : size + (blockSize - 1) ≤ Numeral.max64)
    (room : position + inBlocks size ≤ Numeral.max64) :
    paddedSize? position size = some (inBlocks size) := by
  rw [paddedSize?, ← inBlocks, if_pos ⟨small, room⟩]

/-- A member is read where it begins, and then the reader is behind it. -/
theorem stored?_of_isAt (isAt : source.IsAt offset (record.bytes ++ rest))
    (room : offset + record.bytes.length ≤ Numeral.max64) :
    ∃ after : Source,
      source.stored? none =
        .ok (some { header := record.header, size := record.data.length, source := after }) ∧
      after.IsAt (offset + record.bytes.length) rest ∧
      after.data record.data.length = record.data := by
  rw [Record.length_bytes] at room ⊢
  rw [Record.bytes, List.append_assoc] at isAt
  obtain ⟨next, block, bytes, position⟩ := block?_of_isAt isAt record.length_header
  have within := le_inBlocks record.data.length
  have small : record.data.length ≤ Numeral.max64 := by omega
  have padded : paddedSize? next.position record.data.length =
      some (inBlocks record.data.length) := by
    have unit : blockSize = 512 := rfl
    exact paddedSize?_of_le (by omega) (by omega)
  refine ⟨{ next with owed := inBlocks record.data.length },
    stored?_eq_some_iff.mpr ⟨next, ?_⟩, ⟨?_, ?_, ?_⟩, ?_⟩
  · exact ⟨block, record.notZero_header, record.checkSum_header,
      ⟨_, record.size?_header small, rfl⟩, padded, rfl⟩
  · rw [IsPaid, bytes, List.length_append, record.length_blocks]
    exact Nat.le_add_right _ _
  · rw [bytes, List.drop_left' record.length_blocks]
  · rw [position, Nat.add_assoc]
  · rw [data, bytes, Record.blocks, List.append_assoc, List.take_left]

/-- The blocks at the end of an archive are no member. -/
theorem stored?_of_end (isAt : source.IsAt offset (List.replicate (2 * blockSize) 0 ++ rest)) :
    source.stored? none = .ok none := by
  have zeros : List.replicate (2 * blockSize) (0 : UInt8) =
      List.replicate blockSize 0 ++ List.replicate blockSize 0 := by
    rw [List.replicate_append_replicate, Nat.two_mul]
  rw [zeros, List.append_assoc] at isAt
  obtain ⟨next, block, -⟩ := block?_of_isAt isAt List.length_replicate
  have allZero : (List.replicate blockSize (0 : UInt8)).all (· = 0) = true := by simp
  rw [stored?, block]
  simp only [allZero, if_true]

/-! ## Members -/

variable {description extended : Description} {after : Source}

/-- Whether a reader at one place comes to another one with a description of what is there. -/
def Leads (source : Source) (description : Description) (after : Source)
    (extended : Description) : Prop :=
  ∀ member next, after.Yields extended member next → source.Yields description member next

theorem said?_of_record (whole : after.data record.data.length = record.data) :
    said? description
        { header := record.header, size := record.data.length, source := after } =
      description.add? (.ofByte record.kind) record.data := by
  rw [said?, describes, Record.isExtended_header, Bool.or_true, if_pos rfl, Record.kind_header,
    whole]

theorem leads_of_note (isAt : source.IsAt offset (record.bytes ++ rest))
    (room : offset + record.bytes.length ≤ Numeral.max64)
    (plain : description.attributes = none)
    (told : description.add? (.ofByte record.kind) record.data = some (.ok extended)) :
    ∃ after : Source, after.IsAt (offset + record.bytes.length) rest ∧
      source.Leads description after extended := by
  obtain ⟨after, opened, behind, whole⟩ := stored?_of_isAt isAt room
  rw [← plain] at opened
  refine ⟨after, behind, fun member next later => .described opened ?_ later⟩
  rw [said?_of_record whole, told]

/-- Any other member is read as it was described. -/
theorem yields_of_record (isAt : source.IsAt offset (record.bytes ++ rest))
    (room : offset + record.bytes.length ≤ Numeral.max64)
    (plain : description.attributes = none)
    (untold : description.add? (.ofByte record.kind) record.data = none)
    (notSparse : Kind.ofByte record.kind ≠ .sparse) :
    ∃ after : Source, after.IsAt (offset + record.bytes.length) rest ∧
      source.Yields description
        { path := description.path record.header
          kind := .ofByte record.kind
          contents := record.data } after := by
  obtain ⟨after, opened, behind, whole⟩ := stored?_of_isAt isAt room
  rw [← plain] at opened
  have yields := Yields.plain opened ((said?_of_record whole).trans untold)
    (by rwa [Record.kind_header])
  rw [memberAt, Record.kind_header, whole] at yields
  exact ⟨after, behind, yields⟩

end Source

namespace Entry

def member (entry : Entry) : Member :=
  { path := Utf8.encode entry.path
    kind := .ofByte entry.kind.byte
    contents := entry.contents }

variable (entry : Entry) {source : Source} {offset : ℕ} {rest : Bytes} (description : Description)

/-- A note is taken into the description if there is one, and nothing is without one. -/
theorem leads_of_note? {kind : UInt8} {said : Option Bytes} (extend : Option Bytes → Description)
    (isAt : source.IsAt offset ((said.map (entry.note kind)).elim [] Record.bytes ++ rest))
    (room : offset + ((said.map (entry.note kind)).elim [] Record.bytes).length ≤ Numeral.max64)
    (plain : description.attributes = none) (untold : extend none = description)
    (told : ∀ text, description.add? (.ofByte kind) text = some (.ok (extend (some text)))) :
    ∃ after : Source,
      after.IsAt (offset + ((said.map (entry.note kind)).elim [] Record.bytes).length) rest ∧
        source.Leads description after (extend said) := by
  cases said with
  | none => exact ⟨source, isAt, fun member next yields => by rwa [← untold]⟩
  | some text => exact Source.leads_of_note isAt room plain (told text)

theorem leads_of_targetNote (isAt : source.IsAt offset (entry.targetNote ++ rest))
    (room : offset + entry.targetNote.length ≤ Numeral.max64)
    (plain : description.attributes = none) (untold : description.longLink = none) :
    ∃ after : Source, after.IsAt (offset + entry.targetNote.length) rest ∧
      source.Leads description after
        { description with longLink := noted? entry.kind.target } := by
  have same : { description with longLink := none } = description := by rw [← untold]
  refine entry.leads_of_note? description (fun said => { description with longLink := said }) isAt
    room plain same fun text => ?_
  have isLink : Kind.ofByte 0x4b = .longLink := rfl
  rw [isLink, Description.add?, untold]
  rfl

theorem leads_of_pathNote (isAt : source.IsAt offset (entry.pathNote ++ rest))
    (room : offset + entry.pathNote.length ≤ Numeral.max64)
    (plain : description.attributes = none) (untold : description.longName = none) :
    ∃ after : Source, after.IsAt (offset + entry.pathNote.length) rest ∧
      source.Leads description after { description with longName := noted? entry.path } := by
  have same : { description with longName := none } = description := by rw [← untold]
  refine entry.leads_of_note? description (fun said => { description with longName := said }) isAt
    room plain same fun text => ?_
  have isName : Kind.ofByte 0x4c = .longName := rfl
  rw [isName, Description.add?, untold]
  rfl

def told : Description :=
  { longName := noted? entry.path, longLink := noted? entry.kind.target }

theorem zero_not_mem_path : 0 ∉ Utf8.encode entry.path := by
  intro member
  obtain ⟨c, listed, zero⟩ := (Utf8.mem_encode_iff (by decide)).mp member
  have isZero : c = '\x00' := Char.toNat_inj.mp zero
  exact entry.unbroken (isZero ▸ listed)

/-- The path of a member is the one in its note, or else the one in its header. -/
theorem path_told : entry.told.path entry.record.header = Utf8.encode entry.path := by
  rw [Description.path, told, noted?]
  by_cases long : 100 < (Utf8.encode entry.path).length
  · rw [if_pos long]
    simp [Description.withoutEnd]
  · rw [if_neg long]
    dsimp only
    rw [Option.bind_none, Option.getD_none, Record.path_header, record,
      untilZero_fitted entry.zero_not_mem_path (Nat.not_lt.mp long)]

/-- The notes of a member lead to the member itself, whichever of them comes first. -/
theorem leads_to_record (isAt : source.IsAt offset (entry.bytes ++ rest))
    (room : offset + entry.bytes.length ≤ Numeral.max64) :
    ∃ (atRecord : Source) (before : ℕ),
      before + entry.record.bytes.length = offset + entry.bytes.length ∧
        atRecord.IsAt before (entry.record.bytes ++ rest) ∧
        source.Leads {} atRecord entry.told := by
  by_cases order : entry.pathFirst
  · rw [bytes, if_pos order] at *
    rw [List.append_assoc, List.append_assoc] at isAt
    simp only [List.length_append] at room ⊢
    obtain ⟨between, isBetween, first⟩ := entry.leads_of_pathNote {} isAt (by omega) rfl rfl
    obtain ⟨atRecord, isAtRecord, second⟩ :=
      entry.leads_of_targetNote { longName := noted? entry.path } isBetween (by omega) rfl rfl
    refine ⟨atRecord, _, by omega, isAtRecord, fun member next yields => ?_⟩
    exact first _ _ (second _ _ yields)
  · rw [bytes, if_neg order] at *
    rw [List.append_assoc, List.append_assoc] at isAt
    simp only [List.length_append] at room ⊢
    obtain ⟨between, isBetween, first⟩ := entry.leads_of_targetNote {} isAt (by omega) rfl rfl
    obtain ⟨atRecord, isAtRecord, second⟩ :=
      entry.leads_of_pathNote { longLink := noted? entry.kind.target } isBetween (by omega) rfl rfl
    refine ⟨atRecord, _, by omega, isAtRecord, fun member next yields => ?_⟩
    exact first _ _ (second _ _ yields)

theorem ofByte_byte (kind : EntryKind) :
    Kind.ofByte kind.byte = if kind = .regular then .regular else .other := by
  cases kind <;> rfl

/-- A member is read with its notes, and then the reader is behind it. -/
theorem yields (isAt : source.IsAt offset (entry.bytes ++ rest))
    (room : offset + entry.bytes.length ≤ Numeral.max64) :
    ∃ after : Source, after.IsAt (offset + entry.bytes.length) rest ∧
      source.Yields {} entry.member after := by
  obtain ⟨atRecord, before, total, isAtRecord, leads⟩ := entry.leads_to_record isAt room
  -- A member is not taken for one that describes the next one, nor for a file with holes.
  have untold : entry.told.add? (.ofByte entry.record.kind) entry.record.data = none := by
    rw [record, ofByte_byte]
    split <;> rfl
  have notSparse : Kind.ofByte entry.record.kind ≠ .sparse := by
    rw [record, ofByte_byte]
    split <;> decide
  obtain ⟨after, behind, last⟩ :=
    Source.yields_of_record isAtRecord (by omega) rfl untold notSparse
  rw [path_told] at last
  rw [total] at behind
  exact ⟨after, behind, leads _ _ last⟩

end Entry

/-! ## Archives -/

/-- Reading an archive gives back its members, whatever follows the archive. -/
theorem members_of_isAt {entries : List Entry} {source : Source} {offset : ℕ} {filler : Bytes}
    (isAt : source.IsAt offset (write entries ++ filler))
    (room : offset + (write entries).length ≤ Numeral.max64) :
    source.members = (entries.map Entry.member, none) := by
  induction entries generalizing source offset with
  | nil => exact Source.members_of_end (Source.member?_of_end (Source.stored?_of_end isAt))
  | cons entry others inductionHypothesis =>
      have shape : write (entry :: others) = entry.bytes ++ write others := by
        rw [write, List.flatMap_cons, List.append_assoc, ← write]
      rw [shape, List.append_assoc] at isAt
      rw [shape, List.length_append] at room
      obtain ⟨after, behind, yields⟩ := entry.yields isAt (by omega)
      rw [Source.members_of_member? (Source.member?_eq_some_iff.mpr yields),
        inductionHypothesis behind (by omega)]
      rfl

theorem read_write (entries : List Entry) (filler : Bytes)
    (room : (write entries).length ≤ Numeral.max64) :
    read (write entries ++ filler) = (entries.map Entry.member, none) :=
  have start : ({ bytes := write entries ++ filler } : Source).IsAt 0 (write entries ++ filler) :=
    ⟨Nat.zero_le _, rfl, rfl⟩
  members_of_isAt start (by rwa [Nat.zero_add])

end BrowserPods.Tar
