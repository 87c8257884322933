import BrowserPods.Tar.Attributes
import BrowserPods.Tar.Header

/-!
What is left of an archive while it is read.  The data of the member before are skipped only when
the next header is wanted, so an archive that is cut off within them still yields that member.
-/

namespace BrowserPods.Tar

open BrowserPods.Text

/-- What is left of an archive. -/
structure Source where
  bytes : Bytes
  /-- How many of the bytes belong to the member before. -/
  owed : Nat := 0
  /-- Where the bytes begin in the archive. -/
  position : Nat := 0
deriving Repr

/-- A member as it is stored: its header, its data as far as they are there, and what follows its
header. -/
structure Stored where
  header : Header
  size : Nat
  source : Source

namespace Source

/-- The next block and what follows it; nothing if the archive ends before. -/
def block? (source : Source) : Except Fault (Option (Bytes × Source)) :=
  match dropExact? source.owed source.bytes with
  | none => .error .truncated
  | some [] => .ok none
  | some (b :: rest) =>
    match dropExact? blockSize (b :: rest) with
    | none => .error .truncated
    | some after =>
      .ok (some ((b :: rest).take blockSize,
        { bytes := after, position := source.position + source.owed + blockSize }))

/-- Reading a block leaves fewer bytes. -/
theorem length_block? {source next : Source} {block : Bytes}
    (h : source.block? = .ok (some (block, next))) : next.bytes.length < source.bytes.length := by
  unfold block? at h
  split at h
  · simp at h
  · simp at h
  · rename_i b rest hdrop
    split at h
    · simp at h
    · rename_i after hafter
      have hfirst := dropExact?_length hdrop
      have hsecond := dropExact?_length hafter
      simp only [Except.ok.injEq, Option.some.injEq, Prod.mk.injEq] at h
      obtain ⟨-, rfl⟩ := h
      simp only [blockSize] at hsecond ⊢
      omega

def data (source : Source) (size : Nat) : Bytes := source.bytes.take size

/-- The number of bytes in whole blocks that data of a size take, unless they lead beyond every
archive. -/
def paddedSize? (position size : Nat) : Option Nat :=
  let padded := (size + (blockSize - 1)) / blockSize * blockSize
  if size + (blockSize - 1) ≤ Numeral.max64 ∧ position + padded ≤ Numeral.max64 then some padded
  else none

/-- Reads the next member as it is stored; nothing if the archive ends before.  A block of zeros
ends an archive.  A size in attributes wins over the one of the header. -/
def stored? (source : Source) (attributes : Option Bytes) : Except Fault (Option Stored) :=
  match source.block? with
  | .error fault => .error fault
  | .ok none => .ok none
  | .ok (some (block, next)) =>
    if block.all (· = 0) then .ok none
    else
      let header : Header := ⟨block⟩
      match header.checkSum, header.size? with
      | .error fault, _ => .error fault
      | _, .error fault => .error fault
      | .ok (), .ok stated =>
        let size := (attributes.bind Attributes.size?).getD stated
        match paddedSize? next.position size with
        | none => .error .size
        | some padded => .ok (some { header, size, source := { next with owed := padded } })

theorem length_stored? {source : Source} {attributes : Option Bytes} {stored : Stored}
    (h : source.stored? attributes = .ok (some stored)) :
    stored.source.bytes.length < source.bytes.length := by
  unfold stored? at h
  split at h
  · simp at h
  · simp at h
  · rename_i block next hblock
    have hlength := length_block? hblock
    split at h
    · simp at h
    · simp only at h
      split at h
      · simp at h
      · simp at h
      · split at h
        · simp at h
        · simp only [Except.ok.injEq, Option.some.injEq] at h
          subst h
          exact hlength

end Source

end BrowserPods.Tar
