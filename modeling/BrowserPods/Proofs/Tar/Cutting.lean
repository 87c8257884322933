import BrowserPods.Proofs.Tar.Steps
import Mathlib

/-!
# Archives that are cut off

Whatever is read off the beginning of an archive is read off the whole archive, too, and only the
contents of the last member may be shorter (`shortened_read`).  A member that is cut off within its
contents is the last one, since the next header is not reached any more.
-/

namespace BrowserPods

/-- Whether a list is the beginning of another one, but for its last element, which need only be a
cut of the one in the other list. -/
inductive Shortened {α : Type} (isCut : α → α → Prop) : List α → List α → Prop
  | none (whole : List α) : Shortened isCut [] whole
  | last {x y : α} (others : List α) (cut : isCut x y) : Shortened isCut [x] (y :: others)
  | next {xs ys : List α} (x : α) (later : Shortened isCut xs ys) :
      Shortened isCut (x :: xs) (x :: ys)

namespace Tar

open BrowserPods.Text

/-! ## Sources -/

/-- Whether a member is another one whose contents may be cut off. -/
structure Member.IsCutOf (cut whole : Member) : Prop where
  path : cut.path = whole.path
  kind : cut.kind = whole.kind
  contents : cut.contents <+: whole.contents

namespace Source

/-- Whether a source is another one of which only the beginning is left. -/
structure IsCutOf (cut whole : Source) : Prop where
  bytes : cut.bytes <+: whole.bytes
  owed : cut.owed = whole.owed
  position : cut.position = whole.position

variable {cut whole next : Source} {block : Bytes} {attributes : Option Bytes} {stored : Stored}

theorem IsCutOf.take_bytes (isCut : cut.IsCutOf whole) {count : ℕ}
    (long : count ≤ cut.bytes.length) : cut.bytes.take count = whole.bytes.take count := by
  obtain ⟨rest, joined⟩ := isCut.bytes
  rw [← joined, List.take_append_of_le_length long]

/-- A block of a source that is cut off is the block of the whole source. -/
theorem IsCutOf.block? (isCut : cut.IsCutOf whole) (read : cut.block? = .ok (some (block, next))) :
    ∃ after, whole.block? = .ok (some (block, after)) ∧ next.IsCutOf after := by
  obtain ⟨long, rfl, rfl⟩ := block?_eq_some_iff.mp read
  have longer : whole.owed + blockSize ≤ whole.bytes.length := by
    rw [← isCut.owed]
    exact long.trans isCut.bytes.length_le
  have same : (cut.bytes.drop cut.owed).take blockSize =
      (whole.bytes.drop whole.owed).take blockSize := by
    rw [List.take_drop, List.take_drop, ← isCut.owed, isCut.take_bytes long]
  refine ⟨_, block?_eq_some_iff.mpr ⟨longer, same, rfl⟩, ?_, rfl, ?_⟩
  · rw [isCut.owed]
    exact isCut.bytes.drop _
  · rw [isCut.owed, isCut.position]

theorem isPaid_of_stored? (opened : cut.stored? attributes = .ok (some stored)) : cut.IsPaid := by
  obtain ⟨next, opens⟩ := stored?_eq_some_iff.mp opened
  obtain ⟨long, -⟩ := block?_eq_some_iff.mp opens.block
  exact (Nat.le_add_right _ _).trans long

theorem IsCutOf.stored? (isCut : cut.IsCutOf whole)
    (opened : cut.stored? attributes = .ok (some stored)) :
    ∃ after, whole.stored? attributes = .ok (some { stored with source := after }) ∧
      stored.source.IsCutOf after := by
  obtain ⟨next, opens⟩ := stored?_eq_some_iff.mp opened
  obtain ⟨after, block, nextCut⟩ := isCut.block? opens.block
  refine ⟨{ after with owed := stored.source.owed }, stored?_eq_some_iff.mpr ⟨after, ?_⟩, ?_⟩
  · exact ⟨block, opens.notZero, opens.sum, opens.size, nextCut.position ▸ opens.owed, rfl⟩
  · rw [opens.after]
    exact ⟨nextCut.bytes, rfl, nextCut.position⟩

theorem size_le_owed (opened : cut.stored? attributes = .ok (some stored)) :
    stored.size ≤ stored.source.owed := by
  obtain ⟨next, opens⟩ := stored?_eq_some_iff.mp opened
  have room := opens.owed
  rw [paddedSize?] at room
  split at room
  · have padded := Option.some.inj room
    simp only [blockSize] at padded
    omega
  · cases room

/-- The data of a member are whole if they are there to their end. -/
theorem IsCutOf.data_eq (isCut : cut.IsCutOf whole) {size : ℕ} (paid : cut.IsPaid)
    (within : size ≤ cut.owed) : cut.data size = whole.data size :=
  isCut.take_bytes (within.trans paid)

end Source

/-! ## Maps of files with holes -/

namespace Sparse

open Source

variable {size : ℕ} {coverage covered total : Coverage} {cut whole next : Source} {block : Bytes}
  {stored : Stored} {continued : Bool}

theorem readMore_of_block {source : Source}
    (read : ({ source with owed := 0 } : Source).block? = .ok (some (block, next)))
    (added : (parts 21 block).foldlM (cover size) coverage = .ok covered) :
    readMore size coverage source true =
      readMore size covered { next with owed := source.owed }
        (((block.drop 504).headD 0) != 0) := by
  rw [readMore, if_pos rfl]
  split <;> simp_all

theorem exists_readMore (isCut : cut.IsCutOf whole)
    (read : readMore size coverage cut continued = .ok (total, next)) :
    (∃ after, readMore size coverage whole continued = .ok (total, after) ∧ next.IsCutOf after) ∧
      next.owed = cut.owed := by
  fun_induction readMore size coverage cut continued generalizing whole with
  | case1 => simp at read
  | case2 => simp at read
  | case3 => simp at read
  | case4 coverage cut block rest blockRead _ covered added inductionHypothesis =>
      have unowed : ({ cut with owed := 0 } : Source).IsCutOf { whole with owed := 0 } :=
        ⟨isCut.bytes, rfl, isCut.position⟩
      obtain ⟨after, wholeRead, restCut⟩ := unowed.block? blockRead
      have owedAgain : ({ rest with owed := cut.owed } : Source).IsCutOf
          { after with owed := whole.owed } := ⟨restCut.bytes, isCut.owed, restCut.position⟩
      rw [readMore_of_block wholeRead added]
      exact inductionHypothesis owedAgain read
  | case5 coverage cut continued stops =>
      cases read
      refine ⟨⟨whole, ?_, isCut⟩, rfl⟩
      rw [readMore, if_neg stops]

/-- The map of a file with holes in a source that is cut off. -/
theorem exists_readMap {after : Source} (isCut : stored.source.IsCutOf after)
    (mapped : readMap stored = .ok next) :
    ∃ rest, readMap { stored with source := after } = .ok rest ∧ next.IsCutOf rest ∧
      next.owed = stored.source.owed := by
  unfold readMap at mapped
  split at mapped
  · cases mapped
  · rename_i extended
    dsimp only at mapped
    split at mapped
    · cases mapped
    · rename_i covered begun
      split at mapped
      · cases mapped
      · rename_i total source more
        obtain ⟨⟨rest, moreWhole, restCut⟩, owed⟩ := exists_readMore isCut more
        split at mapped
        · cases mapped
        · rename_i length stated
          split at mapped
          · cases mapped
          · rename_i consistent
            cases mapped
            refine ⟨rest, ?_, restCut, owed⟩
            simp only [readMap, extended, begun, moreWhole, stated, consistent, if_false,
              Bool.false_eq_true]

end Sparse

/-! ## Members -/

namespace Source

variable {cut whole next : Source} {description : Description} {member : Member} {stored : Stored}
  {after : Source}

theorem isPaid_of_yields (yields : cut.Yields description member next) : cut.IsPaid := by
  cases yields with
  | described opened => exact isPaid_of_stored? opened
  | plain opened => exact isPaid_of_stored? opened
  | sparse opened => exact isPaid_of_stored? opened

theorem isCutOf_memberAt (isCut : stored.source.IsCutOf after) :
    (memberAt description stored).IsCutOf
      (memberAt description { stored with source := after }) :=
  ⟨rfl, rfl, isCut.bytes.take stored.size⟩

/-- What is said in contents that are there to their end does not depend on what follows. -/
theorem said?_eq (isCut : stored.source.IsCutOf after) (paid : stored.source.IsPaid)
    (within : stored.size ≤ stored.source.owed) :
    said? description { stored with source := after } = said? description stored := by
  rw [said?, said?, isCut.data_eq paid within]
  rfl

/-- Whether a member describes the next one depends on its header alone. -/
theorem said?_eq_none (untold : said? description stored = none) :
    said? description { stored with source := after } = none := by
  unfold said? at *
  split at untold
  · rename_i known
    have known' : describes { stored with source := after } = true := known
    rw [if_pos known']
    cases kind : stored.header.kind <;> simp_all [Description.add?]
  · rename_i unknown
    have unknown' : ¬ describes { stored with source := after } = true := unknown
    rw [if_neg unknown']

/-- A member of a source that is cut off is one of the whole source, and its contents are cut off
only if nothing follows them. -/
theorem IsCutOf.yields (isCut : cut.IsCutOf whole) (read : cut.Yields description member next) :
    ∃ full after, whole.Yields description full after ∧ next.IsCutOf after ∧
      member.IsCutOf full ∧ (next.IsPaid → member = full) := by
  induction read generalizing whole with
  | described opened told later inductionHypothesis =>
      obtain ⟨after, openedWhole, restCut⟩ := isCut.stored? opened
      have paid := isPaid_of_yields later
      have toldWhole := (said?_eq restCut paid (size_le_owed opened)).trans told
      obtain ⟨full, rest, laterWhole, found⟩ := inductionHypothesis restCut
      exact ⟨full, rest, .described openedWhole toldWhole laterWhole, found⟩
  | @plain source description stored opened untold notSparse =>
      obtain ⟨after, openedWhole, restCut⟩ := isCut.stored? opened
      refine ⟨_, _, .plain openedWhole (said?_eq_none untold) notSparse, restCut,
        isCutOf_memberAt restCut, fun paid => ?_⟩
      rw [memberAt, memberAt, restCut.data_eq paid (size_le_owed opened)]
  | @sparse source next description stored opened untold holes mapped =>
      obtain ⟨after, openedWhole, restCut⟩ := isCut.stored? opened
      obtain ⟨rest, mappedWhole, nextCut, owed⟩ := Sparse.exists_readMap restCut mapped
      refine ⟨_, _, .sparse openedWhole (said?_eq_none untold) holes mappedWhole, nextCut,
        isCutOf_memberAt restCut, fun paid => ?_⟩
      have shorter := Sparse.length_readMap mapped
      have sourcePaid : stored.source.IsPaid := by
        rw [IsPaid, ← owed]
        exact paid.trans shorter
      rw [memberAt, memberAt, restCut.data_eq sourcePaid (size_le_owed opened)]

theorem members_of_unpaid (unpaid : ¬ cut.IsPaid) : cut.members.1 = [] := by
  rw [Source.members]
  split
  · rfl
  · rfl
  · rename_i read
    exact absurd (isPaid_of_yields (member?_eq_some_iff.mp read)) unpaid

/-- The members of a source that is cut off are the first ones of the whole source. -/
theorem IsCutOf.members (isCut : cut.IsCutOf whole) :
    Shortened Member.IsCutOf cut.members.1 whole.members.1 := by
  fun_induction Source.members cut generalizing whole with
  | case1 => exact .none _
  | case2 => exact .none _
  | case3 cut member next read _ rest fault later inductionHypothesis =>
      obtain ⟨full, after, yields, nextCut, memberCut, same⟩ :=
        isCut.yields (member?_eq_some_iff.mp read)
      have wholeMembers := members_of_member? (member?_eq_some_iff.mpr yields)
      rw [wholeMembers]
      by_cases paid : next.IsPaid
      · rw [← same paid]
        have rests := inductionHypothesis nextCut
        rw [later] at rests
        exact .next member rests
      · obtain rfl : rest = [] := by
          rw [← members_of_unpaid paid, later]
        exact .last _ memberCut

end Source

/-- What is read off the beginning of an archive is the beginning of what is read off the whole
archive. -/
theorem shortened_read {cut archive : Bytes} (initial : cut <+: archive) :
    Shortened Member.IsCutOf (read cut).1 (read archive).1 := by
  have sources : ({ bytes := cut } : Source).IsCutOf { bytes := archive } := ⟨initial, rfl, rfl⟩
  exact sources.members

end Tar

end BrowserPods
