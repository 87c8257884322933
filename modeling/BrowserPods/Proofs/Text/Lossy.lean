import BrowserPods.Proofs.Text.Utf8
import Mathlib

/-!
# Ill-formed byte strings

A character is read only from its own bytes (`Utf8.bytes_of_decodeOne`), so a text without
replacement characters stands for its own bytes alone (`Utf8.encode_of_decodeLossy`).  A byte below
0x80 is no part of an ill-formed one: a byte string can be read piece by piece between such bytes
(`Utf8.decodeLossy_append_cons`).
-/

namespace BrowserPods.Text.Utf8

/-! ## Characters and their bytes -/

variable {lead low high : UInt8} {count value result : ℕ} {bytes more rest : Bytes} {c : Char}

theorem exists_of_takeContinuation
    (taken : takeContinuation low high value (count + 1) bytes = (result, 0, more)) :
    ∃ b rest, bytes = b :: rest ∧ low.toNat ≤ b.toNat ∧ b.toNat ≤ high.toNat ∧
      takeContinuation 0x80 0xbf (value * 64 + (b.toNat - 0x80)) count rest =
        (result, 0, more) := by
  cases bytes with
  | nil => simp [takeContinuation] at taken
  | cons b rest =>
      rw [takeContinuation] at taken
      by_cases inside : (low ≤ b && b ≤ high) = true
      · rw [if_pos inside] at taken
        simp only [Bool.and_eq_true, decide_eq_true_eq, UInt8.le_iff_toNat_le] at inside
        exact ⟨b, rest, rfl, inside.1, inside.2, taken⟩
      · rw [if_neg inside] at taken
        simp at taken

/-- The ranges of leading bytes, with what they say about the bytes that follow. -/
theorem lead_of_leadRange (range : leadRange lead = some (count, low, high)) :
    (count = 1 ∧ 0xc2 ≤ lead.toNat ∧ lead.toNat ≤ 0xdf ∧ low.toNat = 0x80 ∧
        high.toNat = 0xbf) ∨
      (count = 2 ∧ 0xe0 ≤ lead.toNat ∧ lead.toNat ≤ 0xef ∧
        low.toNat = (if lead.toNat = 0xe0 then 0xa0 else 0x80) ∧
        high.toNat = if lead.toNat = 0xed then 0x9f else 0xbf) ∨
      (count = 3 ∧ 0xf0 ≤ lead.toNat ∧ lead.toNat ≤ 0xf4 ∧
        low.toNat = (if lead.toNat = 0xf0 then 0x90 else 0x80) ∧
        high.toNat = if lead.toNat = 0xf4 then 0x8f else 0xbf) := by
  by_cases two : 0xc2 ≤ lead.toNat ∧ lead.toNat ≤ 0xdf
  · rw [leadRange_of_two two.1 two.2] at range
    cases range
    exact .inl ⟨rfl, two.1, two.2, rfl, rfl⟩
  by_cases three : 0xe0 ≤ lead.toNat ∧ lead.toNat ≤ 0xef
  · rw [leadRange_of_three three.1 three.2] at range
    cases range
    refine .inr (.inl ⟨rfl, three.1, three.2, ?_, ?_⟩) <;> split <;> rfl
  by_cases four : 0xf0 ≤ lead.toNat ∧ lead.toNat ≤ 0xf4
  · rw [leadRange_of_four four.1 four.2] at range
    cases range
    refine .inr (.inr ⟨rfl, four.1, four.2, ?_, ?_⟩) <;> split <;> rfl
  · exfalso
    simp only [leadRange, UInt8.le_iff_toNat_le, beq_iff_eq, ← UInt8.toNat_inj, Bool.and_eq_true,
      decide_eq_true_eq] at range
    grind

theorem toNat_ofNat_of_valid {n : ℕ} (valid : n < 0xd800 ∨ (0xdfff < n ∧ n < 0x110000)) :
    (Char.ofNat n).toNat = n := by
  rw [Char.toNat_ofNat, if_pos valid]

theorem eq_toUInt8 {b : UInt8} {n : ℕ} (number : b.toNat = n) : b = n.toUInt8 := by
  rw [← number, Nat.toUInt8_eq, UInt8.ofNat_toNat]

theorem exists_of_decodeOne (long : ¬ lead < 0x80) (read : decodeOne lead rest = (some c, more)) :
    ∃ count low high value, leadRange lead = some (count, low, high) ∧
      takeContinuation low high (leadBits lead count) count rest = (value, 0, more) ∧
      c = Char.ofNat value := by
  rw [decodeOne, if_neg long] at read
  split at read
  · cases read
  · rename_i count low high range
    split at read
    · rename_i value after taken
      cases read
      exact ⟨count, low, high, value, range, taken, rfl⟩
    · cases read

/-- A character is read from its own bytes only. -/
theorem bytes_of_decodeOne (read : decodeOne lead rest = (some c, more)) :
    lead :: rest = encodeChar c ++ more := by
  by_cases short : lead < 0x80
  · have small : lead.toNat < 0x80 := UInt8.lt_iff_toNat_lt.mp short
    rw [decodeOne, if_pos short] at read
    cases read
    rw [encodeChar, toNat_ofNat_of_valid (by omega), if_pos small, ← eq_toUInt8 rfl]
    rfl
  · obtain ⟨count, low, high, value, range, taken, rfl⟩ := exists_of_decodeOne short read
    rcases lead_of_leadRange range with
      ⟨rfl, above, below, least, most⟩ | ⟨rfl, above, below, least, most⟩ |
        ⟨rfl, above, below, least, most⟩
    · obtain ⟨b, after, rfl, low₁, high₁, ends⟩ := exists_of_takeContinuation taken
      have bits : leadBits lead 1 = lead.toNat - 0xc0 := rfl
      rw [takeContinuation] at ends
      simp only [Prod.mk.injEq, true_and] at ends
      obtain ⟨number, rfl⟩ := ends
      have valid : (Char.ofNat value).toNat = value := toNat_ofNat_of_valid (by omega)
      rw [encodeChar, valid, if_neg (by omega), if_pos (by omega),
        ← eq_toUInt8 (show lead.toNat = 0xc0 + value / 64 by omega),
        ← eq_toUInt8 (show b.toNat = 0x80 + value % 64 by omega)]
      rfl
    · obtain ⟨b, after, rfl, low₁, high₁, taken₁⟩ := exists_of_takeContinuation taken
      obtain ⟨b₂, after, rfl, low₂, high₂, ends⟩ := exists_of_takeContinuation taken₁
      have bits : leadBits lead 2 = lead.toNat - 0xe0 := rfl
      have inner : UInt8.toNat 0x80 = 0x80 ∧ UInt8.toNat 0xbf = 0xbf := ⟨rfl, rfl⟩
      rw [takeContinuation] at ends
      simp only [Prod.mk.injEq, true_and] at ends
      obtain ⟨number, rfl⟩ := ends
      have range₁ : 0x80 ≤ b.toNat ∧ b.toNat ≤ 0xbf ∧
          (lead.toNat = 0xe0 → 0xa0 ≤ b.toNat) ∧ (lead.toNat = 0xed → b.toNat ≤ 0x9f) := by
        grind
      have valid : (Char.ofNat value).toNat = value := toNat_ofNat_of_valid (by omega)
      rw [encodeChar, valid, if_neg (by omega), if_neg (by omega), if_pos (by omega),
        ← eq_toUInt8 (show lead.toNat = 0xe0 + value / 4096 by omega),
        ← eq_toUInt8 (show b.toNat = 0x80 + value / 64 % 64 by omega),
        ← eq_toUInt8 (show b₂.toNat = 0x80 + value % 64 by omega)]
      rfl
    · obtain ⟨b, after, rfl, low₁, high₁, taken₁⟩ := exists_of_takeContinuation taken
      obtain ⟨b₂, after, rfl, low₂, high₂, taken₂⟩ := exists_of_takeContinuation taken₁
      obtain ⟨b₃, after, rfl, low₃, high₃, ends⟩ := exists_of_takeContinuation taken₂
      have bits : leadBits lead 3 = lead.toNat - 0xf0 := rfl
      have inner : UInt8.toNat 0x80 = 0x80 ∧ UInt8.toNat 0xbf = 0xbf := ⟨rfl, rfl⟩
      rw [takeContinuation] at ends
      simp only [Prod.mk.injEq, true_and] at ends
      obtain ⟨number, rfl⟩ := ends
      have range₁ : 0x80 ≤ b.toNat ∧ b.toNat ≤ 0xbf ∧
          (lead.toNat = 0xf0 → 0x90 ≤ b.toNat) ∧ (lead.toNat = 0xf4 → b.toNat ≤ 0x8f) := by
        grind
      have valid : (Char.ofNat value).toNat = value := toNat_ofNat_of_valid (by omega)
      rw [encodeChar, valid, if_neg (by omega), if_neg (by omega), if_neg (by omega),
        ← eq_toUInt8 (show lead.toNat = 0xf0 + value / 262144 by omega),
        ← eq_toUInt8 (show b.toNat = 0x80 + value / 4096 % 64 by omega),
        ← eq_toUInt8 (show b₂.toNat = 0x80 + value / 64 % 64 by omega),
        ← eq_toUInt8 (show b₃.toNat = 0x80 + value % 64 by omega)]
      rfl

/-! ## Byte strings, character by character -/

/-- Induction over the characters and ill-formed parts of a byte string. -/
theorem induction_on_characters {motive : Bytes → Prop} (nil : motive [])
    (cons : ∀ lead rest, motive (decodeOne lead rest).2 → motive (lead :: rest)) (bytes : Bytes) :
    motive bytes := by
  induction length : bytes.length using Nat.strong_induction_on generalizing bytes with
  | _ n inductionHypothesis =>
      cases bytes with
      | nil => exact nil
      | cons lead rest =>
          have shorter := decodeOne_length_le lead rest
          rw [List.length_cons] at length
          exact cons lead rest (inductionHypothesis _ (by omega) _ rfl)

theorem scan_eq_append (done : List (Option Char)) (bytes : Bytes) :
    scan done bytes = done.reverse ++ scan [] bytes := by
  induction bytes using induction_on_characters generalizing done with
  | nil => simp [scan]
  | cons lead rest inductionHypothesis =>
      rw [scan, inductionHypothesis, scan, inductionHypothesis [(decodeOne lead rest).1]]
      simp

theorem scan_cons (lead : UInt8) (rest : Bytes) :
    scan [] (lead :: rest) = (decodeOne lead rest).1 :: scan [] (decodeOne lead rest).2 := by
  rw [scan, scan_eq_append]
  rfl

theorem takeContinuation_suffix (low high : UInt8) (value count : ℕ) (bytes : Bytes) :
    (takeContinuation low high value count bytes).2.2 <:+ bytes := by
  fun_induction takeContinuation low high value count bytes with
  | case1 => exact List.suffix_refl _
  | case2 => exact List.suffix_refl _
  | case3 low high value count b rest _ inductionHypothesis =>
      exact inductionHypothesis.trans (List.suffix_cons b rest)
  | case4 => exact List.suffix_refl _

theorem decodeOne_suffix (lead : UInt8) (rest : Bytes) : (decodeOne lead rest).2 <:+ rest := by
  unfold decodeOne
  split
  · exact List.suffix_refl _
  · split
    · exact List.suffix_refl _
    · rename_i count low high _
      have kept := takeContinuation_suffix low high (leadBits lead count) count rest
      split <;> simp_all

/-- A character of a text that is read from a byte string has its bytes there. -/
theorem infix_of_mem_scan (member : some c ∈ scan [] bytes) : encodeChar c <:+: bytes := by
  induction bytes using induction_on_characters with
  | nil => simp [scan] at member
  | cons lead rest inductionHypothesis =>
      rw [scan_cons] at member
      rcases List.mem_cons.mp member with first | later
      · have own : lead :: rest = encodeChar c ++ (decodeOne lead rest).2 :=
          bytes_of_decodeOne (Prod.ext first.symm rfl)
        rw [own]
        exact (List.prefix_append _ _).isInfix
      · have suffix := (decodeOne_suffix lead rest).trans (List.suffix_cons lead rest)
        exact (inductionHypothesis later).trans suffix.isInfix

theorem mem_decodeLossy (different : c ≠ '\uFFFD') (member : c ∈ (decodeLossy bytes).toList) :
    some c ∈ scan [] bytes := by
  rw [decodeLossy, String.toList_ofList] at member
  obtain ⟨read, listed, shown⟩ := List.mem_map.mp member
  cases read with
  | none => exact absurd shown.symm different
  | some found =>
      cases shown
      exact listed

/-- The first character of a text is read from its own bytes, and the others from those behind. -/
theorem exists_of_decodeLossy_cons {others : List Char} (different : c ≠ '\uFFFD')
    (begins : (decodeLossy bytes).toList = c :: others) :
    ∃ more, bytes = encodeChar c ++ more ∧ (decodeLossy more).toList = others := by
  rw [decodeLossy, String.toList_ofList] at begins
  cases bytes with
  | nil => simp [scan] at begins
  | cons lead rest =>
      rw [scan_cons, List.map_cons, List.cons.injEq] at begins
      refine ⟨(decodeOne lead rest).2, ?_, ?_⟩
      · cases found : (decodeOne lead rest).1 with
        | none =>
            rw [found] at begins
            exact absurd begins.1.symm different
        | some first =>
            rw [found] at begins
            cases begins.1
            exact bytes_of_decodeOne (Prod.ext found rfl)
      · rw [decodeLossy, String.toList_ofList]
        exact begins.2

/-- A text without replacement characters is read from its own bytes only. -/
theorem encode_of_decodeLossy (whole : '\uFFFD' ∉ (decodeLossy bytes).toList) :
    encode (decodeLossy bytes) = bytes := by
  rw [decodeLossy, String.toList_ofList] at whole
  rw [decodeLossy, encode, String.toList_ofList]
  induction bytes using induction_on_characters with
  | nil => simp [scan]
  | cons lead rest inductionHypothesis =>
      rw [scan_cons, List.map_cons, List.mem_cons, not_or] at whole
      rw [scan_cons, List.map_cons, List.flatMap_cons, inductionHypothesis whole.2]
      cases found : (decodeOne lead rest).1 with
      | none =>
          rw [found] at whole
          exact absurd rfl whole.1
      | some c => exact (bytes_of_decodeOne (Prod.ext found rfl)).symm

/-! ## Bytes below 0x80 -/

section Short

variable {b : UInt8} (short : b.toNat < 0x80)
include short

theorem takeContinuation_append_cons (least : 0x80 ≤ low.toNat) (back : Bytes) :
    takeContinuation low high value count (bytes ++ b :: back) =
      ((takeContinuation low high value count bytes).1,
        (takeContinuation low high value count bytes).2.1,
        (takeContinuation low high value count bytes).2.2 ++ b :: back) := by
  fun_induction takeContinuation low high value count bytes with
  | case1 => simp [takeContinuation]
  | case2 low high value count =>
      have outside : ¬ (low ≤ b && b ≤ high) = true := by
        simp only [Bool.and_eq_true, decide_eq_true_eq, UInt8.le_iff_toNat_le]
        omega
      rw [List.nil_append, takeContinuation, if_neg outside]
  | case3 low high value count first rest inside inductionHypothesis =>
      rw [List.cons_append, takeContinuation, if_pos inside]
      exact inductionHypothesis (by decide)
  | case4 low high value count first rest outside =>
      rw [List.cons_append, takeContinuation, if_neg outside]

theorem decodeOne_append_cons (lead : UInt8) (rest back : Bytes) :
    decodeOne lead (rest ++ b :: back) =
      ((decodeOne lead rest).1, (decodeOne lead rest).2 ++ b :: back) := by
  unfold decodeOne
  by_cases single : lead < 0x80
  · rw [if_pos single, if_pos single]
  · rw [if_neg single, if_neg single]
    cases range : leadRange lead with
    | none => rfl
    | some found =>
        obtain ⟨count, low, high⟩ := found
        have least : 0x80 ≤ low.toNat := by
          have bounds := lead_of_leadRange range
          grind
        simp only [takeContinuation_append_cons short least]
        rcases takeContinuation low high (leadBits lead count) count rest with
          ⟨value, missing, after⟩
        cases missing with
        | zero => rfl
        | succ missing => rfl

theorem scan_append_cons (front back : Bytes) :
    scan [] (front ++ b :: back) =
      scan [] front ++ some (Char.ofNat b.toNat) :: scan [] back := by
  induction front using induction_on_characters with
  | nil =>
      have single : b < 0x80 := UInt8.lt_iff_toNat_lt.mpr short
      rw [List.nil_append, scan_cons, decodeOne, if_pos single, scan]
      rfl
  | cons lead rest inductionHypothesis =>
      rw [List.cons_append, scan_cons, scan_cons, decodeOne_append_cons short,
        inductionHypothesis, List.cons_append]

/-- Between bytes below 0x80 a byte string is read piece by piece. -/
theorem decodeLossy_append_cons (front back : Bytes) :
    decodeLossy (front ++ b :: back) =
      decodeLossy front ++ String.ofList [Char.ofNat b.toNat] ++ decodeLossy back := by
  rw [← String.toList_inj]
  simp [decodeLossy, scan_append_cons short]

end Short

end BrowserPods.Text.Utf8
