import BrowserPods.Proofs.Text.Blank
import BrowserPods.Proofs.Text.Numeral
import BrowserPods.Proofs.Text.Utf8
import BrowserPods.Tar.Archive
import Mathlib

/-!
# Writing archives

The layout of an archive in the format with extensions: each member is a header and its data in
whole blocks, a path or a target that is too long for the header goes before in a note of its own,
and two blocks of zeros end the archive.  What a header was written from is read off its fields
(`Record.size?_header` and others).
-/

namespace BrowserPods.Tar

open BrowserPods.Text

/-! ## Fields -/

/-- A field of the given width that begins with some bytes, as far as they fit. -/
def fitted (width : ℕ) (bytes : Bytes) : Bytes :=
  bytes.take width ++ List.replicate (width - bytes.length) 0

def octalDigits (width n : ℕ) : List Char :=
  List.replicate (width - (Nat.toDigits 8 n).length) '0' ++ Nat.toDigits 8 n

def octal (width n : ℕ) : Bytes := Utf8.encode (String.ofList (octalDigits width n))

/-- The last bytes of a number, most significant first. -/
def lastBytes : ℕ → ℕ → Bytes
  | 0, _ => []
  | width + 1, n => lastBytes width (n / 256) ++ [(n % 256).toUInt8]

def sizeField (n : ℕ) : Bytes :=
  if n < 8 ^ 11 then octal 11 n ++ [0] else 0x80 :: 0 :: 0 :: 0 :: lastBytes 8 n

/-- The field of the sum, in one of two spellings; archivers differ. -/
def sumField (wide : Bool) (n : ℕ) : Bytes :=
  if wide then octal 7 n ++ [0] else octal 6 n ++ [0, 0x20]

theorem length_fitted (width : ℕ) (bytes : Bytes) : (fitted width bytes).length = width := by
  simp [fitted]
  omega

theorem ne_zero_of_mem {text : Bytes} (unbroken : 0 ∉ text) :
    ∀ b ∈ text, (b ≠ 0 : Bool) = true := by
  intro b member
  simp only [decide_eq_true_eq]
  rintro rfl
  exact unbroken member

theorem untilZero_append {text : Bytes} (unbroken : 0 ∉ text) (rest : Bytes) :
    untilZero (text ++ 0 :: rest) = text := by
  rw [untilZero, List.takeWhile_append_of_pos (ne_zero_of_mem unbroken)]
  simp

theorem untilZero_fitted {width : ℕ} {text : Bytes} (unbroken : 0 ∉ text)
    (fits : text.length ≤ width) : untilZero (fitted width text) = text := by
  rw [fitted, List.take_of_length_le fits]
  cases width - text.length with
  | zero =>
      rw [List.replicate_zero, List.append_nil, untilZero]
      exact List.takeWhile_eq_self_iff.mpr (ne_zero_of_mem unbroken)
  | succ count =>
      rw [List.replicate_succ]
      exact untilZero_append unbroken _

/-! ## Numbers -/

theorem isDigit_of_mem_octalDigits {width n : ℕ} {c : Char} (member : c ∈ octalDigits width n) :
    c.isDigit := by
  rcases List.mem_append.mp member with zero | digit
  · rw [List.eq_of_mem_replicate zero]
    rfl
  · exact Nat.isDigit_of_mem_toDigits (by decide) (by decide) digit

theorem length_octalDigits {width n : ℕ} (positive : 0 < width) (small : n < 8 ^ width) :
    (octalDigits width n).length = width := by
  have fits := Nat.toDigits_length 8 n width positive small
  rw [octalDigits, List.length_append, List.length_replicate]
  omega

theorem toNat_of_isDigit {c : Char} (digit : c.isDigit) : 48 ≤ c.toNat ∧ c.toNat ≤ 57 := by
  simp only [Char.isDigit, Bool.and_eq_true, decide_eq_true_eq] at digit
  exact digit

theorem encodeChar_of_isDigit {c : Char} (digit : c.isDigit) :
    Utf8.encodeChar c = [c.toNat.toUInt8] := by
  have range := toNat_of_isDigit digit
  rw [Utf8.encodeChar, if_pos (by omega)]

theorem length_octal {width n : ℕ} (positive : 0 < width) (small : n < 8 ^ width) :
    (octal width n).length = width := by
  have single : ∀ c ∈ octalDigits width n, (Utf8.encodeChar c).length = 1 := fun c member => by
    rw [encodeChar_of_isDigit (isDigit_of_mem_octalDigits member), List.length_singleton]
  rw [octal, Utf8.encode, String.toList_ofList, List.length_flatMap, List.map_congr_left single]
  simp [length_octalDigits positive small]

theorem toNat_of_mem_octal {width n : ℕ} {b : UInt8} (member : b ∈ octal width n) :
    48 ≤ b.toNat ∧ b.toNat ≤ 57 := by
  rw [octal, Utf8.encode, String.toList_ofList] at member
  obtain ⟨c, listed, inside⟩ := List.mem_flatMap.mp member
  have digit := isDigit_of_mem_octalDigits listed
  have range := toNat_of_isDigit digit
  rw [encodeChar_of_isDigit digit, List.mem_singleton] at inside
  rw [inside, Utf8.toNat_toUInt8 (by omega)]
  exact range

theorem zero_not_mem_octal (width n : ℕ) : 0 ∉ octal width n := fun member =>
  absurd (toNat_of_mem_octal member).1 (by decide)

theorem unsigned?_octalDigits (width : ℕ) {n : ℕ} (small : n ≤ Numeral.max64) :
    Numeral.unsigned? 8 Numeral.max64 (octalDigits width n) = some n := by
  have unsigned : ∀ rest, octalDigits width n ≠ '+' :: rest := by
    intro rest shape
    have digit := isDigit_of_mem_octalDigits (shape ▸ List.mem_cons_self)
    exact absurd digit (by decide)
  have denoted : Numeral.ofDigits? 8 (octalDigits width n) = some n :=
    Numeral.ofDigits?_zeros_toDigits (by decide) (by decide) _ n
  rw [Numeral.unsigned?, denoted]
  · simp [small]
  · exact unsigned

/-- A number is read back from its octal digits, up to the zero behind them. -/
theorem octal?_octal (width : ℕ) {n : ℕ} (small : n ≤ Numeral.max64) (rest : Bytes) :
    octal? (octal width n ++ 0 :: rest) = some n := by
  have plain : ∀ c ∈ octalDigits width n, ¬ isBlank c := by
    intro c member
    have range := toNat_of_isDigit (isDigit_of_mem_octalDigits member)
    simp [isBlank]
    omega
  rw [octal?, untilZero_append (zero_not_mem_octal width n), octal, Utf8.decode?_encode,
    Option.bind_some, String.toList_ofList, trim_eq_self plain, unsigned?_octalDigits width small]

theorem length_lastBytes (width n : ℕ) : (lastBytes width n).length = width := by
  induction width generalizing n with
  | zero => rfl
  | succ width inductionHypothesis => simp [lastBytes, inductionHypothesis]

theorem bigEndian_lastBytes {width n : ℕ} (small : n < 256 ^ width) :
    bigEndian (lastBytes width n) = n := by
  induction width generalizing n with
  | zero => simp_all [lastBytes, bigEndian]
  | succ width inductionHypothesis =>
      have front := @inductionHypothesis (n / 256) (by
        rw [Nat.div_lt_iff_lt_mul (by decide), ← Nat.pow_succ]
        exact small)
      have last : (n % 256).toUInt8.toNat = n % 256 := by simp
      rw [lastBytes, bigEndian, List.foldl_append, ← bigEndian, front, List.foldl_cons,
        List.foldl_nil, last, Nat.div_add_mod']

theorem length_sizeField (n : ℕ) : (sizeField n).length = 12 := by
  rw [sizeField]
  split
  · rename_i small
    rw [List.length_append, length_octal (by decide) small]
    rfl
  · simp [length_lastBytes]

theorem number?_sizeField {n : ℕ} (small : n ≤ Numeral.max64) :
    number? (sizeField n) = .ok n := by
  rw [sizeField]
  split
  · rename_i few
    have read := octal?_octal 11 small []
    have length := length_octal (by decide) few
    cases shape : octal 11 n with
    | nil => simp [shape] at length
    | cons first rest =>
        have range := toNat_of_mem_octal (shape ▸ List.mem_cons_self : first ∈ octal 11 n)
        have digit : ¬ 0x80 ≤ first := by
          rw [UInt8.le_iff_toNat_le]
          exact Nat.not_le.mpr (range.2.trans_lt (by decide))
        rw [shape, List.cons_append] at read
        simp only [number?, List.cons_append, if_neg digit, read]
  · have inBytes : n < 256 ^ 8 := small.trans_lt (by decide)
    simp [number?, length_lastBytes, bigEndian_lastBytes inBytes]

theorem length_sumField (wide : Bool) {n : ℕ} (small : n < 8 ^ 6) :
    (sumField wide n).length = 8 := by
  have smaller : n < 8 ^ 7 := small.trans (by decide)
  rw [sumField]
  split
  · rw [List.length_append, length_octal (by decide) smaller]
    rfl
  · rw [List.length_append, length_octal (by decide) small]
    rfl

theorem octal?_sumField (wide : Bool) {n : ℕ} (small : n ≤ Numeral.max64) :
    octal? (sumField wide n) = some n := by
  rw [sumField]
  split
  · exact octal?_octal 7 small []
  · exact octal?_octal 6 small [0x20]

/-! ## Headers -/

def inBlocks (size : ℕ) : ℕ := (size + (blockSize - 1)) / blockSize * blockSize

theorem le_inBlocks (size : ℕ) : size ≤ inBlocks size := by
  simp only [inBlocks, blockSize]
  omega

theorem Header.field_of_parts {header : Header} {part : Bytes} {offset length : ℕ}
    (front back : Bytes) (shape : header.block = front ++ (part ++ back))
    (before : front.length = offset) (width : part.length = length) :
    header.field offset length = part := by
  rw [field, shape, List.drop_left' before, List.take_left' width]

/-- What is of no use to a reader of contents: owner, permissions, time, how the sum is spelled, and
the fields behind the mark of the format. -/
structure Details where
  owner : Bytes
  time : Bytes
  wideSum : Bool
  more : Bytes
  length_owner : owner.length = 24
  length_time : time.length = 12
  length_more : more.length = 247

structure Record where
  name : Bytes
  target : Bytes
  kind : UInt8
  details : Details
  data : Bytes

namespace Record

variable (record : Record)

def front : Bytes :=
  fitted 100 record.name ++ record.details.owner ++ sizeField record.data.length ++
    record.details.time

def back : Bytes :=
  [record.kind] ++ fitted 100 record.target ++ Header.extendedMark ++ record.details.more

def total : ℕ := ((record.front ++ List.replicate 8 0x20 ++ record.back).map UInt8.toNat).sum

def statedSum : Bytes := sumField record.details.wideSum record.total

def header : Header := ⟨record.front ++ record.statedSum ++ record.back⟩

theorem length_front : record.front.length = 148 := by
  simp [front, length_fitted, length_sizeField, record.details.length_owner,
    record.details.length_time]

theorem length_back : record.back.length = 356 := by
  have mark : Header.extendedMark.length = 8 := by decide
  simp [back, length_fitted, mark, record.details.length_more]

theorem total_lt : record.total < 8 ^ 6 := by
  have bound : ∀ n ∈ (record.front ++ List.replicate 8 0x20 ++ record.back).map UInt8.toNat,
      n ≤ 255 := by
    intro n member
    obtain ⟨b, -, rfl⟩ := List.mem_map.mp member
    exact Nat.le_of_lt_succ b.toNat_lt
  have sum := List.sum_le_card_nsmul _ 255 bound
  have length : (record.front ++ List.replicate 8 0x20 ++ record.back).length = 512 := by
    simp [length_front, length_back]
  rw [List.length_map, length, smul_eq_mul] at sum
  exact sum.trans_lt (by decide)

theorem length_statedSum : record.statedSum.length = 8 := length_sumField _ record.total_lt

theorem length_header : record.header.block.length = blockSize := by
  simp [header, length_front, length_back, record.length_statedSum, blockSize]

theorem nameField_header : record.header.nameField = fitted 100 record.name :=
  Header.field_of_parts []
    (record.details.owner ++ sizeField record.data.length ++ record.details.time ++
      record.statedSum ++ record.back)
    (by simp [header, front]) rfl (length_fitted 100 _)

theorem sizeField_header : record.header.field 124 12 = sizeField record.data.length :=
  Header.field_of_parts (fitted 100 record.name ++ record.details.owner)
    (record.details.time ++ record.statedSum ++ record.back)
    (by simp [header, front]) (by simp [length_fitted, record.details.length_owner])
    (length_sizeField _)

theorem front_header : record.header.field 0 148 = record.front :=
  Header.field_of_parts [] (record.statedSum ++ record.back)
    (by simp [header]) rfl record.length_front

theorem statedSum_header : record.header.field 148 8 = record.statedSum :=
  Header.field_of_parts record.front record.back (by simp [header])
    record.length_front (record.length_statedSum)

theorem back_header : record.header.block.drop 156 = record.back :=
  List.drop_left' (by simp [length_front, record.length_statedSum])

theorem kindField_header : record.header.field 156 1 = [record.kind] :=
  Header.field_of_parts (record.front ++ record.statedSum)
    (fitted 100 record.target ++ Header.extendedMark ++ record.details.more)
    (by simp [header, back]) (by simp [length_front, record.length_statedSum]) rfl

theorem mark_header : record.header.field 257 8 = Header.extendedMark :=
  Header.field_of_parts
    (record.front ++ record.statedSum ++ [record.kind] ++ fitted 100 record.target)
    record.details.more (by simp [header, back])
    (by simp [length_front, record.length_statedSum, length_fitted]) rfl

/-! ## What is read off a header -/

theorem kind_header : record.header.kind = .ofByte record.kind := by
  rw [Header.kind, kindField_header]
  rfl

theorem isExtended_header : record.header.isExtended = true := by
  rw [Header.isExtended, mark_header, beq_self_eq_true]

theorem isStandard_header : record.header.isStandard = false := by
  rw [Header.isStandard, mark_header]
  decide

theorem path_header : record.header.path = untilZero (fitted 100 record.name) := by
  rw [Header.path, isStandard_header, nameField_header]
  rfl

theorem size?_header (small : record.data.length ≤ Numeral.max64) :
    record.header.size? = .ok record.data.length := by
  rw [Header.size?, sizeField_header, number?_sizeField small]

theorem sum_header : record.header.sum = record.total := by
  have add (start : ℕ) (bytes : Bytes) :
      bytes.foldl (fun n b => n + b.toNat) start = start + (bytes.map UInt8.toNat).sum := by
    induction bytes generalizing start with
    | nil => rfl
    | cons b others inductionHypothesis =>
        rw [List.foldl_cons, inductionHypothesis, List.map_cons, List.sum_cons, Nat.add_assoc]
  rw [Header.sum, front_header, back_header, add, add, total,
    List.map_append, List.map_append, List.sum_append, List.sum_append]
  simp
  omega

theorem checkSum_header : record.header.checkSum = .ok () := by
  have small := record.total_lt
  have inRange : record.total ≤ Numeral.max64 := small.le.trans (by decide)
  have stated : record.total % 4294967296 = record.total :=
    Nat.mod_eq_of_lt (small.trans (by decide))
  have read : octal? record.statedSum = some record.total := octal?_sumField _ inRange
  rw [Header.checkSum, statedSum_header, read, sum_header]
  simp [stated]

theorem notZero_header : record.header.block.all (· = 0) = false := by
  have mark : (0x75 : UInt8) ∈ Header.extendedMark := by decide
  have member : (0x75 : UInt8) ∈ record.header.block := by simp [header, back, mark]
  rw [List.all_eq_false]
  exact ⟨0x75, member, by decide⟩

def blocks : Bytes :=
  record.data ++ List.replicate (inBlocks record.data.length - record.data.length) 0

theorem length_blocks : record.blocks.length = inBlocks record.data.length := by
  have enough := le_inBlocks record.data.length
  rw [blocks, List.length_append, List.length_replicate]
  omega

def bytes : Bytes := record.header.block ++ record.blocks

theorem length_bytes : record.bytes.length = blockSize + inBlocks record.data.length := by
  rw [bytes, List.length_append, length_header, length_blocks]

end Record

/-! ## Archives -/

/-- What a member is in a file system.  Links have a target. -/
inductive EntryKind where
  | regular
  | hardLink (target : String)
  | symbolicLink (target : String)
  | characterDevice
  | blockDevice
  | directory
  | pipe
deriving DecidableEq, Repr

def EntryKind.byte : EntryKind → UInt8
  | .regular => 0x30
  | .hardLink _ => 0x31
  | .symbolicLink _ => 0x32
  | .characterDevice => 0x33
  | .blockDevice => 0x34
  | .directory => 0x35
  | .pipe => 0x36

def EntryKind.target : EntryKind → String
  | .hardLink target => target
  | .symbolicLink target => target
  | _ => ""

structure Entry where
  path : String
  kind : EntryKind
  contents : Bytes
  details : Details
  /-- The details of the notes that go before. -/
  noteDetails : Details
  /-- Which note comes first if there are two; archivers differ. -/
  pathFirst : Bool
  unbroken : '\x00' ∉ path.toList

namespace Entry

variable (entry : Entry)

/-- What a note says about a text that is too long for the header. -/
def noted? (text : String) : Option Bytes :=
  if 100 < (Utf8.encode text).length then some (Utf8.encode text ++ [0]) else none

def note (kind : UInt8) (said : Bytes) : Record :=
  { name := Utf8.encode "././@LongLink"
    target := []
    kind
    details := entry.noteDetails
    data := said }

def targetNote : Bytes := ((noted? entry.kind.target).map (entry.note 0x4b)).elim [] Record.bytes

def pathNote : Bytes := ((noted? entry.path).map (entry.note 0x4c)).elim [] Record.bytes

def record : Record :=
  { name := Utf8.encode entry.path
    target := Utf8.encode entry.kind.target
    kind := entry.kind.byte
    details := entry.details
    data := entry.contents }

def bytes : Bytes :=
  if entry.pathFirst then entry.pathNote ++ (entry.targetNote ++ entry.record.bytes)
  else entry.targetNote ++ (entry.pathNote ++ entry.record.bytes)

end Entry

def write (entries : List Entry) : Bytes :=
  entries.flatMap Entry.bytes ++ List.replicate (2 * blockSize) 0

end BrowserPods.Tar
