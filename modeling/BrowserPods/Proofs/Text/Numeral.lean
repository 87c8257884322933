import BrowserPods.Text.Numeral
import Mathlib

/-!
# Numerals read back

The digits that a number is written in denote that number again (`Numeral.ofDigits?_toDigits`), and
zeros in front of them change nothing.  What is read is what the digits denote by their places
(`Numeral.unsigned?_eq_some_iff`), and a reader that has only 16 bits for it comes to the same
(`Numeral.map_toNat_word?`).
-/

namespace BrowserPods.Text.Numeral

variable {base : ℕ}

theorem digit?_digitChar (decimal : base ≤ 10) {n : ℕ} (small : n < base) :
    digit? base n.digitChar = some n := by
  have single : n < 10 := by omega
  interval_cases n <;> simpa [digit?, Nat.digitChar, Nat.ne_zero_iff_zero_lt] using small

theorem ofDigitsFrom?_append (value : ℕ) (front back : List Char) :
    ofDigitsFrom? base value (front ++ back) =
      (ofDigitsFrom? base value front).bind fun reached => ofDigitsFrom? base reached back := by
  induction front generalizing value with
  | nil => rfl
  | cons c others inductionHypothesis =>
      rw [List.cons_append, ofDigitsFrom?, ofDigitsFrom?]
      cases digit? base c with
      | none => rfl
      | some digit => exact inductionHypothesis (value * base + digit)

theorem ofDigitsFrom?_toDigits (several : 1 < base) (decimal : base ≤ 10) (n : ℕ) :
    ofDigitsFrom? base 0 (Nat.toDigits base n) = some n := by
  induction n using Nat.strong_induction_on with
  | _ n inductionHypothesis =>
      by_cases single : n < base
      · rw [Nat.toDigits_of_lt_base single, ofDigitsFrom?, digit?_digitChar decimal single]
        simp [ofDigitsFrom?]
      · have long : base ≤ n := Nat.not_lt.mp single
        have front := inductionHypothesis (n / base) (Nat.div_lt_self (by omega) several)
        have last := digit?_digitChar decimal (Nat.mod_lt n (show 0 < base by omega))
        rw [Nat.toDigits_of_base_le several long, ofDigitsFrom?_append, front, Option.bind_some,
          ofDigitsFrom?, last, Option.bind_some, ofDigitsFrom?, Nat.div_add_mod']

theorem ofDigitsFrom?_zeros
    (several : 1 < base) (decimal : base ≤ 10) (count : ℕ) (digits : List Char) :
    ofDigitsFrom? base 0 (List.replicate count '0' ++ digits) = ofDigitsFrom? base 0 digits := by
  have zero : digit? base '0' = some 0 := digit?_digitChar decimal (Nat.zero_lt_of_lt several)
  induction count with
  | zero => rfl
  | succ count inductionHypothesis =>
      rw [List.replicate_succ, List.cons_append, ofDigitsFrom?, zero, Option.bind_some,
        Nat.zero_mul, inductionHypothesis]

/-- A number is read back from its digits, with any number of zeros in front of them. -/
theorem ofDigits?_zeros_toDigits
    (several : 1 < base) (decimal : base ≤ 10) (count n : ℕ) :
    ofDigits? base (List.replicate count '0' ++ Nat.toDigits base n) = some n := by
  rw [ofDigits?, if_neg (by simp), ofDigitsFrom?_zeros several decimal,
    ofDigitsFrom?_toDigits several decimal]

theorem ofDigits?_toDigits (several : 1 < base) (decimal : base ≤ 10) (n : ℕ) :
    ofDigits? base (Nat.toDigits base n) = some n :=
  ofDigits?_zeros_toDigits several decimal 0 n

/-! ## Digits and what they denote -/

/-- Whether a character is the digit of a value, in lower or in upper case. -/
def IsDigit (base : ℕ) (c : Char) (value : ℕ) : Prop :=
  value < base ∧ (c = value.digitChar ∨ c = value.digitChar.toUpper)

/-- Whether one or more digits, that of the highest place first, denote a number. -/
def Denotes (base : ℕ) (cs : List Char) (n : ℕ) : Prop :=
  cs ≠ [] ∧ ∃ values, List.Forall₂ (IsDigit base) cs values ∧ n = Nat.ofDigits base values.reverse

/-- Whether digits, with a plus sign in front of them or not, denote a number. -/
def IsUnsigned (base : ℕ) (cs : List Char) (n : ℕ) : Prop :=
  Denotes base cs n ∨ ∃ rest, cs = '+' :: rest ∧ Denotes base rest n

private theorem toNat_digitChar :
    ∀ value < 16, value.digitChar.toNat = (if value < 10 then 48 else 87) + value ∧
      value.digitChar.toUpper.toNat = (if value < 10 then 48 else 55) + value := by
  decide

theorem digit?_eq_some_iff (small : base ≤ 16) {c : Char} {value : ℕ} :
    digit? base c = some value ↔ IsDigit base c value := by
  constructor
  · intro read
    rw [digit?] at read
    simp only [Option.ite_none_right_eq_some, Option.some.injEq, Char.reduceToNat] at read
    obtain ⟨below, same⟩ := read
    rw [same] at below
    obtain ⟨lower, upper⟩ := toNat_digitChar value (by omega)
    refine ⟨below, Or.imp Char.toNat_inj.mp Char.toNat_inj.mp ?_⟩
    rw [lower, upper]
    split_ifs at same ⊢ <;> omega
  · rintro ⟨below, written⟩
    obtain ⟨lower, upper⟩ := toNat_digitChar value (by omega)
    have place : c.toNat = value.digitChar.toNat ∨ c.toNat = value.digitChar.toUpper.toNat :=
      written.imp (congrArg Char.toNat) (congrArg Char.toNat)
    rw [lower, upper] at place
    rw [digit?]
    simp only [Option.ite_none_right_eq_some, Option.some.injEq, Char.reduceToNat]
    split_ifs at place ⊢ <;> omega

theorem ofDigitsFrom?_eq_some_iff (small : base ≤ 16) (cs : List Char) (value n : ℕ) :
    ofDigitsFrom? base value cs = some n ↔
      ∃ values, List.Forall₂ (IsDigit base) cs values ∧
        n = value * base ^ values.length + Nat.ofDigits base values.reverse := by
  induction cs generalizing value with
  | nil => simp [ofDigitsFrom?, eq_comm]
  | cons c others inductionHypothesis =>
      have place (digit : ℕ) (values : List ℕ) :
          (value * base + digit) * base ^ values.length + Nat.ofDigits base values.reverse =
            value * base ^ (digit :: values).length +
              Nat.ofDigits base (digit :: values).reverse := by
        rw [List.reverse_cons, Nat.ofDigits_append, Nat.ofDigits_singleton, List.length_reverse,
          List.length_cons]
        ring
      rw [ofDigitsFrom?, Option.bind_eq_some_iff]
      constructor
      · rintro ⟨digit, read, rest⟩
        obtain ⟨values, digits, rfl⟩ := (inductionHypothesis _).mp rest
        exact ⟨digit :: values, .cons ((digit?_eq_some_iff small).mp read) digits,
          place digit values⟩
      · rintro ⟨values, digits, rfl⟩
        cases digits with
        | @cons _ digit _ values isDigit digits =>
            refine ⟨digit, (digit?_eq_some_iff small).mpr isDigit, ?_⟩
            exact (inductionHypothesis _).mpr ⟨values, digits, (place digit values).symm⟩

theorem ofDigits?_eq_some_iff (small : base ≤ 16) {cs : List Char} {n : ℕ} :
    ofDigits? base cs = some n ↔ Denotes base cs n := by
  rw [ofDigits?, Denotes]
  by_cases empty : cs = []
  · simp [empty]
  · rw [if_neg (by simpa using empty), ofDigitsFrom?_eq_some_iff small]
    simp [empty]

theorem unsigned?_eq_some_iff (small : base ≤ 16) {limit : ℕ} {cs : List Char} {n : ℕ} :
    unsigned? base limit cs = some n ↔ n ≤ limit ∧ IsUnsigned base cs n := by
  have noDigit (rest : List Char) : ¬ Denotes base ('+' :: rest) n := by
    intro digits
    rw [← ofDigits?_eq_some_iff small] at digits
    simp [ofDigits?, ofDigitsFrom?, digit?] at digits
  have bounded (digits : List Char) :
      (ofDigits? base digits).filter (· ≤ limit) = some n ↔ n ≤ limit ∧ Denotes base digits n := by
    rw [Option.filter_eq_some_iff, ofDigits?_eq_some_iff small, decide_eq_true_iff, and_comm]
  by_cases signed : ∃ rest, cs = '+' :: rest
  · obtain ⟨rest, rfl⟩ := signed
    have read : unsigned? base limit ('+' :: rest) = (ofDigits? base rest).filter (· ≤ limit) := rfl
    rw [read, bounded, IsUnsigned]
    simp [noDigit]
  · have read : unsigned? base limit cs = (ofDigits? base cs).filter (· ≤ limit) := by
      unfold unsigned?
      split
      · exact absurd ⟨_, rfl⟩ signed
      · rfl
    rw [read, bounded, IsUnsigned]
    refine and_congr_right fun _ => ⟨Or.inl, ?_⟩
    rintro (digits | ⟨rest, rfl, _⟩)
    · exact digits
    · exact absurd ⟨rest, rfl⟩ signed

theorem IsUnsigned.unique (small : base ≤ 16) {cs : List Char} {n m : ℕ}
    (first : IsUnsigned base cs n) (second : IsUnsigned base cs m) : n = m := by
  have firstRead := (unsigned?_eq_some_iff small).mpr ⟨le_max_left n m, first⟩
  have secondRead := (unsigned?_eq_some_iff small).mpr ⟨le_max_right n m, second⟩
  exact Option.some.inj (firstRead.symm.trans secondRead)

theorem exists_isDigit_of_mem {cs : List Char} {values : List ℕ}
    (digits : List.Forall₂ (IsDigit base) cs values) {c : Char} (member : c ∈ cs) :
    ∃ value, IsDigit base c value := by
  induction digits with
  | nil => cases member
  | @cons first value others values isDigit _ inductionHypothesis =>
      rcases List.mem_cons.mp member with rfl | later
      · exact ⟨value, isDigit⟩
      · exact inductionHypothesis later

theorem eq_plus_or_isDigit_of_mem {cs : List Char} {n : ℕ} (unsigned : IsUnsigned base cs n)
    {c : Char} (member : c ∈ cs) : c = '+' ∨ ∃ value, IsDigit base c value := by
  rcases unsigned with ⟨_, values, digits, _⟩ | ⟨rest, rfl, _, values, digits, _⟩
  · exact .inr (exists_isDigit_of_mem digits member)
  · rcases List.mem_cons.mp member with sign | later
    · exact .inl sign
    · exact .inr (exists_isDigit_of_mem digits later)

/-! ## Numbers of 16 bits -/

/-- The number that digits denote behind those of a number.  It has 16 bits on the way, too: a digit
for which these do not suffice is refused. -/
def wordFrom? (base : ℕ) (value : UInt16) : List Char → Option UInt16
  | [] => some value
  | c :: cs => (digit? base c).bind fun digit =>
      if value.toNat * base + digit ≤ max16 then
        wordFrom? base (UInt16.ofNat (value.toNat * base + digit)) cs
      else none

def word? (base : ℕ) (cs : List Char) : Option UInt16 :=
  let digits := match cs with
    | '+' :: rest => rest
    | _ => cs
  if digits.isEmpty then none else wordFrom? base 0 digits

/-- More digits never make a number smaller. -/
theorem le_of_ofDigitsFrom? (positive : 0 < base) {value n : ℕ} {cs : List Char}
    (read : ofDigitsFrom? base value cs = some n) : value ≤ n := by
  induction cs generalizing value with
  | nil => exact (Option.some.inj read).le
  | cons c others inductionHypothesis =>
      obtain ⟨digit, _, rest⟩ := Option.bind_eq_some_iff.mp read
      calc
        value ≤ value * base := Nat.le_mul_of_pos_right value positive
        _ ≤ value * base + digit := Nat.le_add_right _ _
        _ ≤ n := inductionHypothesis rest

theorem toNat_ofNat_of_le_max16 {n : ℕ} (small : n ≤ max16) : (UInt16.ofNat n).toNat = n := by
  rw [UInt16.toNat_ofNat']
  exact Nat.mod_eq_of_lt (Nat.lt_succ_of_le small)

/-- Behind a digit that is refused no others could have helped. -/
theorem map_toNat_wordFrom? (positive : 0 < base) (value : UInt16) (cs : List Char) :
    (wordFrom? base value cs).map UInt16.toNat =
      (ofDigitsFrom? base value.toNat cs).filter (· ≤ max16) := by
  induction cs generalizing value with
  | nil =>
      have small : value.toNat ≤ max16 := Nat.le_of_lt_succ value.toNat_lt
      simp [wordFrom?, ofDigitsFrom?, Option.filter, small]
  | cons c others inductionHypothesis =>
      rw [wordFrom?, ofDigitsFrom?]
      cases digit? base c with
      | none => rfl
      | some digit =>
          rw [Option.bind_some, Option.bind_some]
          by_cases small : value.toNat * base + digit ≤ max16
          · rw [if_pos small, inductionHypothesis, toNat_ofNat_of_le_max16 small]
          · rw [if_neg small, Option.map_none, eq_comm, Option.filter_eq_none_iff]
            intro n read
            have large := le_of_ofDigitsFrom? positive read
            simp only [decide_eq_true_iff]
            omega

theorem map_toNat_word? (positive : 0 < base) (cs : List Char) :
    (word? base cs).map UInt16.toNat = unsigned? base max16 cs := by
  have alike (digits : List Char) :
      (if digits.isEmpty then none else wordFrom? base 0 digits).map UInt16.toNat =
        (ofDigits? base digits).filter (· ≤ max16) := by
    rw [ofDigits?]
    split
    · rfl
    · exact map_toNat_wordFrom? positive 0 digits
  exact alike _

end BrowserPods.Text.Numeral
