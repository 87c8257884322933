import BrowserPods.Proofs.Text.Blank
import BrowserPods.Proofs.Text.Numeral
import BrowserPods.Text.Port
import Mathlib

/-!
# Ports and the numerals that denote them

A port is a numeral in decimal digits or, behind a mark, in hexadecimal ones, with blanks around it.
Exactly the numerals of numbers below 65536 are read, however long they are
(`readPort?_exact`), and a number that is held in 16 bits on the way comes to the same
(`readPort?_eq_word?`).
-/

namespace BrowserPods

open BrowserPods.Text
open BrowserPods.Text.Numeral

def hexadecimalMarks : List (List Char) := [['0', 'x'], ['0', 'X'], ['#']]

/-- Whether a text without blanks around it is a numeral of a port. -/
inductive IsPortNumeral : List Char → ℕ → Prop
  | decimal {cs : List Char} {n : ℕ} (digits : IsUnsigned 10 cs n) : IsPortNumeral cs n
  | hexadecimal {mark cs : List Char} {n : ℕ} (marked : mark ∈ hexadecimalMarks)
      (digits : IsUnsigned 16 cs n) : IsPortNumeral (mark ++ cs) n

/-- Whether a text is a numeral of a port between blanks. -/
def DenotesPort (text : String) (n : ℕ) : Prop :=
  ∃ numeral, IsPadded text.toList numeral ∧ IsPortNumeral numeral n

/-! ## Marks -/

theorem hexadecimalBody?_eq_some_iff {cs body : List Char} :
    hexadecimalBody? cs = some body ↔ ∃ mark ∈ hexadecimalMarks, cs = mark ++ body := by
  constructor
  · intro found
    fun_cases hexadecimalBody? cs with
    | case1 rest =>
        cases found
        exact ⟨['0', 'x'], by simp [hexadecimalMarks], rfl⟩
    | case2 rest =>
        cases found
        exact ⟨['0', 'X'], by simp [hexadecimalMarks], rfl⟩
    | case3 rest =>
        cases found
        exact ⟨['#'], by simp [hexadecimalMarks], rfl⟩
    | case4 => simp [hexadecimalBody?] at found
  · rintro ⟨mark, marked, rfl⟩
    simp only [hexadecimalMarks, List.mem_cons, List.not_mem_nil, or_false] at marked
    rcases marked with rfl | rfl | rfl <;> rfl

theorem not_isUnsigned_of_marked {mark cs : List Char} {n : ℕ} (marked : mark ∈ hexadecimalMarks) :
    ¬ IsUnsigned 10 (mark ++ cs) n := by
  intro unsigned
  have noDigit : ∃ c ∈ mark, c ≠ '+' ∧ digit? 10 c = none := by
    simp only [hexadecimalMarks, List.mem_cons, List.not_mem_nil, or_false] at marked
    rcases marked with rfl | rfl | rfl
    · exact ⟨'x', by simp, by decide, by decide⟩
    · exact ⟨'X', by simp, by decide, by decide⟩
    · exact ⟨'#', by simp, by decide, by decide⟩
  obtain ⟨c, member, notPlus, notDigit⟩ := noDigit
  rcases eq_plus_or_isDigit_of_mem unsigned (List.mem_append_left _ member) with
    plus | ⟨value, isDigit⟩
  · exact notPlus plus
  · rw [(digit?_eq_some_iff (by decide)).mpr isDigit] at notDigit
    cases notDigit

theorem isPortNumeral_of_marked {cs body : List Char} {n : ℕ}
    (found : hexadecimalBody? cs = some body) : IsPortNumeral cs n ↔ IsUnsigned 16 body n := by
  constructor
  · intro numeral
    cases numeral with
    | decimal digits =>
        obtain ⟨mark, marked, rfl⟩ := hexadecimalBody?_eq_some_iff.mp found
        exact absurd digits (not_isUnsigned_of_marked marked)
    | hexadecimal marked digits =>
        rw [hexadecimalBody?_eq_some_iff.mpr ⟨_, marked, rfl⟩] at found
        cases found
        exact digits
  · intro digits
    obtain ⟨mark, marked, rfl⟩ := hexadecimalBody?_eq_some_iff.mp found
    exact .hexadecimal marked digits

theorem isPortNumeral_of_unmarked {cs : List Char} {n : ℕ} (found : hexadecimalBody? cs = none) :
    IsPortNumeral cs n ↔ IsUnsigned 10 cs n := by
  constructor
  · intro numeral
    cases numeral with
    | decimal digits => exact digits
    | hexadecimal marked digits =>
        rw [hexadecimalBody?_eq_some_iff.mpr ⟨_, marked, rfl⟩] at found
        cases found
  · exact .decimal

theorem portNumber?_eq_some_iff {cs : List Char} {n : ℕ} :
    portNumber? cs = some n ↔ n ≤ max16 ∧ IsPortNumeral cs n := by
  rw [portNumber?]
  cases found : hexadecimalBody? cs with
  | some body =>
      rw [isPortNumeral_of_marked found]
      exact unsigned?_eq_some_iff (by decide)
  | none =>
      rw [isPortNumeral_of_unmarked found]
      exact unsigned?_eq_some_iff (by decide)

theorem IsPortNumeral.unique {cs : List Char} {n m : ℕ}
    (first : IsPortNumeral cs n) (second : IsPortNumeral cs m) : n = m := by
  cases found : hexadecimalBody? cs with
  | some body =>
      rw [isPortNumeral_of_marked found] at first second
      exact first.unique (by decide) second
  | none =>
      rw [isPortNumeral_of_unmarked found] at first second
      exact first.unique (by decide) second

/-! ## Blanks -/

theorem not_isBlank_of_isUnsigned {base : ℕ} (small : base ≤ 16) {cs : List Char} {n : ℕ}
    (unsigned : IsUnsigned base cs n) : ∀ c ∈ cs, ¬ isBlank c := by
  intro c member
  rcases eq_plus_or_isDigit_of_mem unsigned member with rfl | ⟨value, below, written⟩
  · decide
  · have visible : ∀ value < 16, ¬ isBlank value.digitChar ∧ ¬ isBlank value.digitChar.toUpper := by
      decide
    rcases written with rfl | rfl
    · exact (visible value (by omega)).1
    · exact (visible value (by omega)).2

theorem trim_of_isPortNumeral {cs : List Char} {n : ℕ} (numeral : IsPortNumeral cs n) :
    trim cs = cs := by
  apply trim_eq_self
  cases numeral with
  | decimal digits => exact not_isBlank_of_isUnsigned (by decide) digits
  | hexadecimal marked digits =>
      intro c member
      rcases List.mem_append.mp member with inMark | inDigits
      · have visible : ∀ mark ∈ hexadecimalMarks, ∀ c ∈ mark, ¬ isBlank c := by
          simp [hexadecimalMarks, isBlank]
        exact visible _ marked c inMark
      · exact not_isBlank_of_isUnsigned (le_refl 16) digits c inDigits

theorem denotesPort_iff (text : String) (n : ℕ) :
    DenotesPort text n ↔ IsPortNumeral (trim text.toList) n := by
  constructor
  · rintro ⟨numeral, isPadded, isNumeral⟩
    rw [isPadded.trim_eq, trim_of_isPortNumeral isNumeral]
    exact isNumeral
  · intro isNumeral
    exact ⟨trim text.toList, isPadded_trim text.toList, isNumeral⟩

/-! ## Ports -/

theorem map_toNat_readPort? (text : String) :
    (readPort? text).map UInt16.toNat = portNumber? (trim text.toList) := by
  rw [readPort?, Option.map_map]
  cases found : portNumber? (trim text.toList) with
  | none => rfl
  | some n =>
      exact congrArg some (toNat_ofNat_of_le_max16 (portNumber?_eq_some_iff.mp found).1)

/-- The port of a text is the number below 65536 that it denotes.  A text that denotes a larger
number gives no port, whatever its length. -/
theorem readPort?_exact (text : String) (n : ℕ) :
    ((readPort? text).map UInt16.toNat = some n ↔ n ≤ 65535 ∧ DenotesPort text n) ∧
      (DenotesPort text n → 65535 < n → readPort? text = none) := by
  have denoted (m : ℕ) :
      (readPort? text).map UInt16.toNat = some m ↔ m ≤ 65535 ∧ DenotesPort text m := by
    rw [map_toNat_readPort?, portNumber?_eq_some_iff, denotesPort_iff, max16]
  refine ⟨denoted n, ?_⟩
  intro denotes large
  cases read : readPort? text with
  | none => rfl
  | some port =>
      obtain ⟨small, alsoDenotes⟩ :=
        (denoted port.toNat).mp (congrArg (Option.map UInt16.toNat) read)
      rw [denotesPort_iff] at denotes alsoDenotes
      have same : n = port.toNat := denotes.unique alsoDenotes
      omega

theorem long_numeral_overflows :
    let fitting := "\t0x+0000ffff "
    let longer := "\t0x+0000ffff0 "
    (65535 ≤ 65535 ∧ DenotesPort fitting 65535) ∧
      (readPort? fitting).map UInt16.toNat = some 65535 ∧
      DenotesPort longer 1048560 ∧ 65535 < 1048560 ∧ readPort? longer = none := by
  intro fitting longer
  have denotes {text : String} {n : ℕ} (body : List Char)
      (marked : hexadecimalBody? (trim text.toList) = some body)
      (read : unsigned? 16 n body = some n) : DenotesPort text n := by
    rw [denotesPort_iff, isPortNumeral_of_marked marked]
    exact ((unsigned?_eq_some_iff (le_refl 16)).mp read).2
  have fits : 65535 ≤ 65535 ∧ DenotesPort fitting 65535 :=
    ⟨le_refl _, denotes "+0000ffff".toList (by decide) (by decide)⟩
  have overflows : DenotesPort longer 1048560 :=
    denotes "+0000ffff0".toList (by decide) (by decide)
  exact ⟨fits, (readPort?_exact fitting 65535).1.mpr fits, overflows, by decide,
    (readPort?_exact longer 1048560).2 overflows (by decide)⟩

/-- The digits of a port can be read with a number of 16 bits. -/
theorem readPort?_eq_word? (text : String) :
    readPort? text =
      match hexadecimalBody? (trim text.toList) with
      | some digits => word? 16 digits
      | none => word? 10 (trim text.toList) := by
  apply Option.map_injective (fun _ _ => UInt16.toNat_inj.mp)
  rw [map_toNat_readPort?, portNumber?]
  cases hexadecimalBody? (trim text.toList) with
  | some digits => exact (map_toNat_word? (show 0 < 16 by decide) digits).symm
  | none => exact (map_toNat_word? (show 0 < 10 by decide) _).symm

end BrowserPods
