import BrowserPods.Text.Utf8
import Mathlib

/-!
# UTF-8 read back

The bytes of a text, read again, are the text (`Utf8.decodeLossy_encode`).  A byte below 0x80 stands
for a character of its own and is no part of another one, so separators can be looked for among the
bytes (`Utf8.mem_encode_iff`).
-/

namespace BrowserPods.Text.Utf8

/-! ## One character -/

theorem toNat_toUInt8 {n : ℕ} (small : n < 256) : n.toUInt8.toNat = n := by
  rw [Nat.toUInt8_eq, UInt8.toNat_ofNat']
  exact Nat.mod_eq_of_lt small

/-- A character is no half of a surrogate pair. -/
theorem toNat_lt_or_gt (c : Char) :
    c.toNat < 0xd800 ∨ (0xdfff < c.toNat ∧ c.toNat < 0x110000) :=
  c.valid

theorem leadRange_of_two {lead : UInt8} (first : 0xc2 ≤ lead.toNat) (last : lead.toNat ≤ 0xdf) :
    leadRange lead = some (1, 0x80, 0xbf) := by
  have inside : (0xc2 ≤ lead && lead ≤ 0xdf) = true := by
    simp [UInt8.le_iff_toNat_le, first, last]
  rw [leadRange, if_pos inside]

theorem leadRange_of_three
    {lead : UInt8} (first : 0xe0 ≤ lead.toNat) (last : lead.toNat ≤ 0xef) :
    leadRange lead = some (2, if lead.toNat = 0xe0 then 0xa0 else 0x80,
      if lead.toNat = 0xed then 0x9f else 0xbf) := by
  simp only [leadRange, UInt8.le_iff_toNat_le, beq_iff_eq, ← UInt8.toNat_inj, Bool.and_eq_true,
    decide_eq_true_eq]
  grind

theorem leadRange_of_four
    {lead : UInt8} (first : 0xf0 ≤ lead.toNat) (last : lead.toNat ≤ 0xf4) :
    leadRange lead = some (3, if lead.toNat = 0xf0 then 0x90 else 0x80,
      if lead.toNat = 0xf4 then 0x8f else 0xbf) := by
  simp only [leadRange, UInt8.le_iff_toNat_le, beq_iff_eq, ← UInt8.toNat_inj, Bool.and_eq_true,
    decide_eq_true_eq]
  grind

theorem takeContinuation_cons
    {low high b : UInt8} (above : low.toNat ≤ b.toNat) (below : b.toNat ≤ high.toNat)
    (value count : ℕ) (rest : Bytes) :
    takeContinuation low high value (count + 1) (b :: rest) =
      takeContinuation 0x80 0xbf (value * 64 + (b.toNat - 0x80)) count rest := by
  have inside : (low ≤ b && b ≤ high) = true := by
    simp [UInt8.le_iff_toNat_le, above, below]
  rw [takeContinuation, if_pos inside]

theorem takeContinuation_inner
    {b : UInt8} {bits : ℕ} (shape : b.toNat = 0x80 + bits) (few : bits < 64)
    (value count : ℕ) (rest : Bytes) :
    takeContinuation 0x80 0xbf value (count + 1) (b :: rest) =
      takeContinuation 0x80 0xbf (value * 64 + bits) count rest := by
  have above : UInt8.toNat 0x80 ≤ b.toNat := show 0x80 ≤ b.toNat by omega
  have below : b.toNat ≤ UInt8.toNat 0xbf := show b.toNat ≤ 0xbf by omega
  have rest' : b.toNat - 0x80 = bits := by omega
  rw [takeContinuation_cons above below, rest']

/-- A character of several bytes is read as its lead says. -/
theorem decodeOne_of_lead
    {lead low high : UInt8} {count value : ℕ} {rest more : Bytes} (long : 0x80 ≤ lead.toNat)
    (range : leadRange lead = some (count, low, high))
    (taken : takeContinuation low high (leadBits lead count) count rest = (value, 0, more)) :
    decodeOne lead rest = (some (Char.ofNat value), more) := by
  have notShort : ¬ lead < 0x80 := by
    rw [UInt8.lt_iff_toNat_lt]
    exact Nat.not_lt.mpr long
  rw [decodeOne, if_neg notShort, range]
  simp only [taken]

variable {c : Char} {lead first second third : UInt8}

theorem decodeOne_one (leads : lead.toNat = c.toNat) (short : c.toNat < 0x80) (more : Bytes) :
    decodeOne lead more = (some c, more) := by
  have isShort : lead < 0x80 := by
    rw [UInt8.lt_iff_toNat_lt, leads]
    exact short
  rw [decodeOne, if_pos isShort, leads, Char.ofNat_toNat]

theorem decodeOne_two
    (leads : lead.toNat = 0xc0 + c.toNat / 64) (follows : first.toNat = 0x80 + c.toNat % 64)
    (least : 0x80 ≤ c.toNat) (most : c.toNat < 0x800) (more : Bytes) :
    decodeOne lead (first :: more) = (some c, more) := by
  have range : leadRange lead = some (1, 0x80, 0xbf) := leadRange_of_two (by omega) (by omega)
  have taken := takeContinuation_inner follows (Nat.mod_lt _ (by decide)) (leadBits lead 1) 0 more
  have bits : leadBits lead 1 = lead.toNat - 0xc0 := rfl
  have value : leadBits lead 1 * 64 + c.toNat % 64 = c.toNat := by omega
  rw [value, takeContinuation] at taken
  rw [decodeOne_of_lead (by omega) range taken, Char.ofNat_toNat]

/-- The first byte after the lead must not make the form overlong or a surrogate. -/
theorem decodeOne_three
    (leads : lead.toNat = 0xe0 + c.toNat / 4096)
    (follows : first.toNat = 0x80 + c.toNat / 64 % 64)
    (ends : second.toNat = 0x80 + c.toNat % 64)
    (least : 0x800 ≤ c.toNat) (most : c.toNat < 0x10000) (more : Bytes) :
    decodeOne lead (first :: second :: more) = (some c, more) := by
  have valid := toNat_lt_or_gt c
  have range : leadRange lead = some (2, if lead.toNat = 0xe0 then 0xa0 else 0x80,
      if lead.toNat = 0xed then 0x9f else 0xbf) :=
    leadRange_of_three (by omega) (by omega)
  have above : UInt8.toNat (if lead.toNat = 0xe0 then 0xa0 else 0x80) ≤ first.toNat := by
    split
    · exact (show 0xa0 ≤ first.toNat by omega)
    · exact (show 0x80 ≤ first.toNat by omega)
  have below : first.toNat ≤ UInt8.toNat (if lead.toNat = 0xed then 0x9f else 0xbf) := by
    split
    · exact (show first.toNat ≤ 0x9f by omega)
    · exact (show first.toNat ≤ 0xbf by omega)
  have taken := takeContinuation_cons above below (leadBits lead 2) 1 (second :: more)
  have bits : leadBits lead 2 = lead.toNat - 0xe0 := rfl
  have value : (leadBits lead 2 * 64 + (first.toNat - 0x80)) * 64 + c.toNat % 64 = c.toNat := by
    omega
  rw [takeContinuation_inner ends (Nat.mod_lt _ (by decide)), value, takeContinuation] at taken
  rw [decodeOne_of_lead (by omega) range taken, Char.ofNat_toNat]

theorem decodeOne_four
    (leads : lead.toNat = 0xf0 + c.toNat / 262144)
    (follows : first.toNat = 0x80 + c.toNat / 4096 % 64)
    (goesOn : second.toNat = 0x80 + c.toNat / 64 % 64)
    (ends : third.toNat = 0x80 + c.toNat % 64) (least : 0x10000 ≤ c.toNat) (more : Bytes) :
    decodeOne lead (first :: second :: third :: more) = (some c, more) := by
  have valid := toNat_lt_or_gt c
  have range : leadRange lead = some (3, if lead.toNat = 0xf0 then 0x90 else 0x80,
      if lead.toNat = 0xf4 then 0x8f else 0xbf) :=
    leadRange_of_four (by omega) (by omega)
  have above : UInt8.toNat (if lead.toNat = 0xf0 then 0x90 else 0x80) ≤ first.toNat := by
    split
    · exact (show 0x90 ≤ first.toNat by omega)
    · exact (show 0x80 ≤ first.toNat by omega)
  have below : first.toNat ≤ UInt8.toNat (if lead.toNat = 0xf4 then 0x8f else 0xbf) := by
    split
    · exact (show first.toNat ≤ 0x8f by omega)
    · exact (show first.toNat ≤ 0xbf by omega)
  have taken := takeContinuation_cons above below (leadBits lead 3) 2 (second :: third :: more)
  have bits : leadBits lead 3 = lead.toNat - 0xf0 := rfl
  have value : ((leadBits lead 3 * 64 + (first.toNat - 0x80)) * 64 + c.toNat / 64 % 64) * 64 +
      c.toNat % 64 = c.toNat := by
    omega
  rw [takeContinuation_inner goesOn (Nat.mod_lt _ (by decide)),
    takeContinuation_inner ends (Nat.mod_lt _ (by decide)), value, takeContinuation] at taken
  rw [decodeOne_of_lead (by omega) range taken, Char.ofNat_toNat]

/-- The bytes of a character are read as that character, whatever follows them. -/
theorem exists_encodeChar (c : Char) :
    ∃ lead rest, encodeChar c = lead :: rest ∧
      ∀ more, decodeOne lead (rest ++ more) = (some c, more) := by
  have valid := toNat_lt_or_gt c
  unfold encodeChar
  by_cases one : c.toNat < 0x80
  · refine ⟨_, _, if_pos one, fun more => decodeOne_one ?_ one more⟩
    exact toNat_toUInt8 (by omega)
  · by_cases two : c.toNat < 0x800
    · refine ⟨_, _, (if_neg one).trans (if_pos two), fun more => decodeOne_two ?_ ?_ ?_ two more⟩
      · exact toNat_toUInt8 (by omega)
      · exact toNat_toUInt8 (by omega)
      · exact Nat.not_lt.mp one
    · by_cases three : c.toNat < 0x10000
      · refine ⟨_, _, (if_neg one).trans ((if_neg two).trans (if_pos three)), fun more =>
          decodeOne_three ?_ ?_ ?_ ?_ three more⟩
        · exact toNat_toUInt8 (by omega)
        · exact toNat_toUInt8 (by omega)
        · exact toNat_toUInt8 (by omega)
        · exact Nat.not_lt.mp two
      · refine ⟨_, _, (if_neg one).trans ((if_neg two).trans (if_neg three)), fun more =>
          decodeOne_four ?_ ?_ ?_ ?_ ?_ more⟩
        · exact toNat_toUInt8 (by omega)
        · exact toNat_toUInt8 (by omega)
        · exact toNat_toUInt8 (by omega)
        · exact toNat_toUInt8 (by omega)
        · exact Nat.not_lt.mp three

/-- A byte below 0x80 is a character of its own. -/
theorem mem_encodeChar_iff {b : UInt8} (short : b.toNat < 0x80) :
    b ∈ encodeChar c ↔ c.toNat = b.toNat := by
  have valid := toNat_lt_or_gt c
  unfold encodeChar
  by_cases one : c.toNat < 0x80
  · simp only [if_pos one, List.mem_singleton, ← UInt8.toNat_inj,
      toNat_toUInt8 (show c.toNat < 256 by omega)]
    exact eq_comm
  · refine iff_of_false ?_ (by omega)
    by_cases two : c.toNat < 0x800
    · simp only [if_neg one, if_pos two, List.mem_cons, List.not_mem_nil, ← UInt8.toNat_inj,
        Nat.toUInt8_eq, UInt8.toNat_ofNat', or_false, not_or]
      omega
    · by_cases three : c.toNat < 0x10000
      · simp only [if_neg one, if_neg two, if_pos three, List.mem_cons, List.not_mem_nil,
          ← UInt8.toNat_inj, Nat.toUInt8_eq, UInt8.toNat_ofNat', or_false, not_or]
        omega
      · simp only [if_neg one, if_neg two, if_neg three, List.mem_cons, List.not_mem_nil,
          ← UInt8.toNat_inj, Nat.toUInt8_eq, UInt8.toNat_ofNat', or_false, not_or]
        omega

theorem encodeChar_ne_nil (c : Char) : encodeChar c ≠ [] := by
  obtain ⟨lead, rest, bytes, _⟩ := exists_encodeChar c
  rw [bytes]
  exact List.cons_ne_nil lead rest

/-! ## Texts -/

theorem scan_flatMap_encodeChar (done : List (Option Char)) (text : List Char) :
    scan done (text.flatMap encodeChar) = done.reverse ++ text.map some := by
  induction text generalizing done with
  | nil => simp [scan]
  | cons c others inductionHypothesis =>
      obtain ⟨lead, rest, bytes, reads⟩ := exists_encodeChar c
      rw [List.flatMap_cons, bytes, List.cons_append, scan, reads, inductionHypothesis]
      simp

/-- The bytes of a text are read as that text. -/
@[simp]
theorem decodeLossy_encode (s : String) : decodeLossy (encode s) = s := by
  rw [decodeLossy, encode, scan_flatMap_encodeChar]
  simp [Function.comp_def]

theorem decode?_encode (s : String) : decode? (encode s) = some s := by
  have whole (cs : List Char) : (cs.map some).mapM id = some cs := by
    induction cs with
    | nil => rfl
    | cons c others inductionHypothesis => simp [inductionHypothesis]
  rw [decode?, encode, scan_flatMap_encodeChar, List.reverse_nil, List.nil_append, whole]
  simp

theorem encode_injective : Function.Injective encode :=
  Function.LeftInverse.injective decodeLossy_encode

theorem encode_append (front back : String) :
    encode (front ++ back) = encode front ++ encode back := by
  simp [encode, List.flatMap_append]

theorem encodeChar_append_inj {c d : Char} {front back : Bytes}
    (same : encodeChar c ++ front = encodeChar d ++ back) : c = d ∧ front = back := by
  obtain ⟨lead, rest, bytes, reads⟩ := exists_encodeChar c
  obtain ⟨otherLead, otherRest, otherBytes, alsoReads⟩ := exists_encodeChar d
  rw [bytes, otherBytes] at same
  obtain ⟨rfl, behind⟩ : lead = otherLead ∧ rest ++ front = otherRest ++ back :=
    List.cons.inj same
  have read := reads front
  rw [behind, alsoReads back] at read
  cases read
  exact ⟨rfl, rfl⟩

/-- A text begins with another one if its bytes do. -/
theorem encode_prefix_iff {first whole : String} :
    encode first <+: encode whole ↔ first.toList <+: whole.toList := by
  have characters (cs ds : List Char) :
      cs.flatMap encodeChar <+: ds.flatMap encodeChar → cs <+: ds := by
    induction cs generalizing ds with
    | nil => exact fun _ => List.nil_prefix
    | cons c others inductionHypothesis =>
        rintro ⟨more, shape⟩
        cases ds with
        | nil =>
            rw [List.flatMap_cons, List.flatMap_nil, List.append_assoc] at shape
            exact absurd (List.append_eq_nil_iff.mp shape).1 (encodeChar_ne_nil c)
        | cons d rest =>
            rw [List.flatMap_cons, List.flatMap_cons, List.append_assoc] at shape
            obtain ⟨rfl, later⟩ := encodeChar_append_inj shape
            exact List.cons_prefix_cons.mpr ⟨rfl, inductionHypothesis rest ⟨more, later⟩⟩
  constructor
  · exact characters first.toList whole.toList
  · rintro ⟨more, shape⟩
    rw [encode, encode, ← shape, List.flatMap_append]
    exact List.prefix_append _ _

theorem mem_encode_iff {b : UInt8} (short : b.toNat < 0x80) {s : String} :
    b ∈ encode s ↔ ∃ c ∈ s.toList, c.toNat = b.toNat := by
  simp only [encode, List.mem_flatMap, mem_encodeChar_iff short]

end BrowserPods.Text.Utf8
