import BrowserPods.Json.Reader
import BrowserPods.Proofs.Text.Numeral
import Mathlib

/-!
# JSON values read back

A value that is written on one line is read back from its text (`Json.read?_write`), whatever texts
it holds, unless it is one that no text stands for (`Json.IsExact`).  What is written for a value
begins with a character that opens it, and its end shows from what follows.
-/

namespace BrowserPods.Json

open BrowserPods.Text

/-! ## Strings -/

theorem digit?_hexDigit {n : ℕ} (small : n < 16) : Numeral.digit? 16 (hexDigit n) = some n := by
  revert n
  decide

theorem unit?_control {n : ℕ} (small : n < 32) :
    unit? '0' '0' (hexDigit (n / 16)) (hexDigit (n % 16)) = some n := by
  have high := digit?_hexDigit (show n / 16 < 16 by omega)
  have low := digit?_hexDigit (Nat.mod_lt n (show 0 < 16 by decide))
  have zero : Numeral.digit? 16 '0' = some 0 := rfl
  simp only [unit?, Numeral.ofDigits?, Numeral.ofDigitsFrom?, List.isEmpty_cons, zero, high, low,
    Option.bind_some, Bool.false_eq_true, if_false, Option.some_inj]
  omega

theorem readUnits_of_small {n : ℕ} (small : n < 32) (rest : List Char) :
    readUnits n rest = (some (Char.ofNat n), rest) := by
  have notLow : ¬ isLowUnit n = true := by simp [isLowUnit]; omega
  have notHigh : ¬ isHighUnit n = true := by simp [isHighUnit]; omega
  unfold readUnits
  rw [if_neg notLow, if_neg notHigh]

variable {c : Char} {done rest : List Char}

theorem readString?_escaped (escaped : List Char)
    (meant : readEscape? (escaped ++ rest) = some (some c, rest)) :
    readString? (some done) ('\\' :: (escaped ++ rest)) = readString? (some (c :: done)) rest := by
  rw [readString?, if_neg (by decide), if_pos rfl]
  split
  · rename_i failed
    simp [meant] at failed
  · rename_i decoded rest' found
    rw [meant] at found
    cases found
    rfl

/-- What stands for a character inside a string is read as that character. -/
theorem readString?_escape (c : Char) (done rest : List Char) :
    readString? (some done) (escape c ++ rest) = readString? (some (c :: done)) rest := by
  have named {n : ℕ} (number : c.toNat = n) : c = Char.ofNat n := by
    rw [← number, Char.ofNat_toNat]
  unfold escape
  by_cases quote : c = '"'
  · rw [if_pos quote]
    exact readString?_escaped ['"'] (by rw [quote]; rfl)
  rw [if_neg quote]
  by_cases backslash : c = '\\'
  · rw [if_pos backslash]
    exact readString?_escaped ['\\'] (by rw [backslash]; rfl)
  rw [if_neg backslash]
  by_cases back : c.toNat = 8
  · rw [if_pos back]
    exact readString?_escaped ['b'] (named back ▸ rfl)
  rw [if_neg back]
  by_cases tab : c.toNat = 9
  · rw [if_pos tab]
    exact readString?_escaped ['t'] (named tab ▸ rfl)
  rw [if_neg tab]
  by_cases line : c.toNat = 10
  · rw [if_pos line]
    exact readString?_escaped ['n'] (named line ▸ rfl)
  rw [if_neg line]
  by_cases form : c.toNat = 12
  · rw [if_pos form]
    exact readString?_escaped ['f'] (named form ▸ rfl)
  rw [if_neg form]
  by_cases carriage : c.toNat = 13
  · rw [if_pos carriage]
    exact readString?_escaped ['r'] (named carriage ▸ rfl)
  rw [if_neg carriage]
  by_cases control : c.toNat < 32
  · rw [if_pos control]
    refine readString?_escaped
      ['u', '0', '0', hexDigit (c.toNat / 16), hexDigit (c.toNat % 16)] ?_
    simp only [List.cons_append, List.nil_append, readEscape?, unit?_control control,
      Option.map_some, readUnits_of_small control, Char.ofNat_toNat]
  · rw [if_neg control, List.singleton_append, readString?, if_neg quote, if_neg backslash,
      if_neg control]
    rfl

theorem readString?_flatMap_escape (text done rest : List Char) :
    readString? (some done) (text.flatMap escape ++ '"' :: rest) =
      some (some (String.ofList (done.reverse ++ text)), rest) := by
  induction text generalizing done with
  | nil =>
      rw [List.flatMap_nil, List.nil_append, readString?, if_pos rfl]
      simp
  | cons c others inductionHypothesis =>
      rw [List.flatMap_cons, List.append_assoc, readString?_escape, inductionHypothesis]
      simp

/-- A written string is read back, after its opening quote. -/
theorem readString?_writeString (s : String) (rest : List Char) :
    ∃ body, writeString s = '"' :: body ∧
      readString? (some []) (body ++ rest) = some (some s, rest) := by
  refine ⟨s.toList.flatMap escape ++ ['"'], rfl, ?_⟩
  rw [List.append_assoc, List.singleton_append, readString?_flatMap_escape]
  simp

/-! ## Numbers -/

/-- Whether what follows a value shows that the value has come to its end. -/
def Ends (rest : List Char) : Prop := ∀ c ∈ rest.head?, c = ',' ∨ c = ']' ∨ c = '\x7d'

theorem ends_nil : Ends [] := by
  intro c member
  cases member

theorem ends_cons {c : Char} (closing : c = ',' ∨ c = ']' ∨ c = '\x7d') (rest : List Char) :
    Ends (c :: rest) := by
  intro d member
  cases member
  exact closing

theorem isDigit_of_mem_toDigits {n : ℕ} (member : c ∈ Nat.toDigits 10 n) : isDigit c = true := by
  have digit := Nat.isDigit_of_mem_toDigits (by decide) (by decide) member
  exact digit

/-- Only zero is written with a zero in front. -/
theorem head_toDigits {n : ℕ} (positive : 0 < n) : (Nat.toDigits 10 n).head? ≠ some '0' := by
  induction n using Nat.strong_induction_on with
  | _ n inductionHypothesis =>
      by_cases single : n < 10
      · rw [Nat.toDigits_of_lt_base single]
        interval_cases n <;> decide
      · have front := inductionHypothesis (n / 10) (by omega) (by omega)
        have nonempty : Nat.toDigits 10 (n / 10) ≠ [] := Nat.toDigits_ne_nil
        rw [Nat.toDigits_of_base_le (by decide) (Nat.not_lt.mp single),
          List.head?_append_of_ne_nil _ nonempty]
        exact front

theorem takeWhile_isDigit (ends : Ends rest) : rest.takeWhile isDigit = [] := by
  cases rest with
  | nil => rfl
  | cons c others =>
      refine List.takeWhile_cons_of_neg ?_
      rcases ends c rfl with rfl | rfl | rfl <;> decide

theorem dropWhile_isDigit (ends : Ends rest) : rest.dropWhile isDigit = rest := by
  have parts := List.takeWhile_append_dropWhile (p := isDigit) (l := rest)
  rwa [takeWhile_isDigit ends, List.nil_append] at parts

theorem readWhole?_toDigits (n : ℕ) (ends : Ends rest) :
    readWhole? (Nat.toDigits 10 n ++ rest) = some (Nat.toDigits 10 n, rest) := by
  have digits : ∀ c ∈ Nat.toDigits 10 n, isDigit c := fun c member => isDigit_of_mem_toDigits member
  by_cases zero : n = 0
  · subst zero
    cases rest with
    | nil => rfl
    | cons c others =>
        have noDigit : isDigit c = false := by
          rcases ends c rfl with rfl | rfl | rfl <;> rfl
        simp [readWhole?, noDigit]
  · have head := head_toDigits (Nat.pos_of_ne_zero zero)
    have nonempty : Nat.toDigits 10 n ≠ [] := Nat.toDigits_ne_nil
    have taken : (Nat.toDigits 10 n ++ rest).takeWhile isDigit = Nat.toDigits 10 n := by
      rw [List.takeWhile_append_of_pos digits, takeWhile_isDigit ends, List.append_nil]
    have dropped : (Nat.toDigits 10 n ++ rest).dropWhile isDigit = rest := by
      rw [List.dropWhile_append_of_pos digits, dropWhile_isDigit ends]
    unfold readWhole?
    split
    · rename_i others shape
      have first : (Nat.toDigits 10 n ++ rest).head? = (Nat.toDigits 10 n).head? :=
        List.head?_append_of_ne_nil _ nonempty
      rw [← first, shape] at head
      exact absurd rfl head
    · simp only [taken, dropped, List.isEmpty_iff, nonempty, if_false]

theorem readFraction?_of_ends (ends : Ends rest) : readFraction? rest = some ([], rest) := by
  cases rest with
  | nil => rfl
  | cons c others => rcases ends c rfl with rfl | rfl | rfl <;> rfl

theorem readExponent?_of_ends (ends : Ends rest) : readExponent? rest = some ([], rest) := by
  cases rest with
  | nil => rfl
  | cons c others => rcases ends c rfl with rfl | rfl | rfl <;> rfl

/-- Whether an integer fits into 64 bits, signed or unsigned. -/
def IsInRange (n : ℤ) : Prop := -9223372036854775808 ≤ n ∧ n ≤ Numeral.max64

theorem ofInteger_natural {n : ℕ} (inRange : IsInRange n) :
    Number.ofInteger false (Nat.toDigits 10 n) = .integer n := by
  have small : ¬ n > Numeral.max64 := by
    have := inRange.2
    omega
  simp only [Number.ofInteger, Numeral.ofDigits?_toDigits (show 1 < 10 by decide) (le_refl 10),
    Bool.false_eq_true, if_false, if_neg small]

theorem ofInteger_negative {n : ℕ} (inRange : IsInRange (.negSucc n)) :
    Number.ofInteger true (Nat.toDigits 10 (n + 1)) = .integer (.negSucc n) := by
  have small : ¬ (n + 1 = 0 ∨ n + 1 > 9223372036854775808) := by
    have := inRange.1
    omega
  simp only [Number.ofInteger, Numeral.ofDigits?_toDigits (show 1 < 10 by decide) (le_refl 10),
    if_true, if_neg small]
  rfl

/-- The first character of a written natural number is a digit. -/
theorem exists_toDigits (n : ℕ) :
    ∃ c others, Nat.toDigits 10 n = c :: others ∧ isDigit c = true := by
  cases shape : Nat.toDigits 10 n with
  | nil => exact absurd shape Nat.toDigits_ne_nil
  | cons c others =>
      refine ⟨c, others, rfl, isDigit_of_mem_toDigits (n := n) ?_⟩
      rw [shape]
      exact List.mem_cons_self

theorem readNumber?_writeInt {n : ℤ} (inRange : IsInRange n) (ends : Ends rest) :
    readNumber? (writeInt n ++ rest) = some (.integer n, rest) := by
  cases n with
  | ofNat n =>
      obtain ⟨c, others, shape, digit⟩ := exists_toDigits n
      have noSign : ∀ others, Nat.toDigits 10 n ++ rest ≠ '-' :: others := by
        intro others same
        rw [shape, List.cons_append, List.cons.injEq] at same
        rw [same.1] at digit
        cases digit
      have whole := readWhole?_toDigits n ends
      unfold readNumber?
      split
      rename_i negative body sign
      rw [writeInt] at sign
      split at sign
      · rename_i others same
        exact absurd same (noSign others)
      · cases sign
        simp only [whole, Option.bind_some, readFraction?_of_ends ends,
          readExponent?_of_ends ends, Option.map_some, List.isEmpty_nil, Bool.and_self, if_true,
          ofInteger_natural inRange]
        rfl
  | negSucc n =>
      have whole := readWhole?_toDigits (n + 1) ends
      simp only [writeInt, List.cons_append, readNumber?, whole, Option.bind_some,
        readFraction?_of_ends ends, readExponent?_of_ends ends, Option.map_some,
        List.isEmpty_nil, Bool.and_self, if_true, ofInteger_negative inRange]

/-! ## Values -/

/-- Whether the text of a value stands for that value: its numbers are integers that fit into 64
bits, and no string in it is broken. -/
inductive IsExact : Json → Prop where
  | null : IsExact .null
  | bool (value : Bool) : IsExact (.bool value)
  | number {value : ℤ} (inRange : IsInRange value) : IsExact (.number (.integer value))
  | string (value : String) : IsExact (.string value)
  | array {items : List Json} (exact : ∀ item ∈ items, IsExact item) : IsExact (.array items)
  | object {fields : List (String × Json)} (exact : ∀ field ∈ fields, IsExact field.2) :
      IsExact (.object fields)

/-- Whether a value is read off its text, whatever stands behind it. -/
def IsReadBack (value : Json) : Prop :=
  ∀ (fuel : ℕ) (rest : List Char), Ends rest → value.writeChars.length < fuel →
    readValue? fuel (value.writeChars ++ rest) = some (value, rest)

theorem skipBlanks_cons (visible : isBlank c = false) (rest : List Char) :
    skipBlanks (c :: rest) = c :: rest :=
  List.dropWhile_cons_of_neg (by simp [visible])

/-- The first character of a written integer is a digit or a minus sign. -/
theorem exists_writeInt (n : ℤ) :
    ∃ c others, writeInt n = c :: others ∧ (isDigit c = true ∨ c = '-') := by
  cases n with
  | ofNat n =>
      obtain ⟨c, others, shape, digit⟩ := exists_toDigits n
      exact ⟨c, others, shape, .inl digit⟩
  | negSucc n => exact ⟨_, _, rfl, .inr rfl⟩

theorem ne_of_begins (begins : isDigit c = true ∨ c = '-') (mark : Char)
    (other : (isDigit mark || mark == '-') = false) : c ≠ mark := by
  rintro rfl
  simp only [Bool.or_eq_false_iff, beq_eq_false_iff_ne] at other
  rcases begins with digit | sign
  · rw [other.1] at digit
    cases digit
  · exact other.2 sign

theorem visible_of_begins (begins : isDigit c = true ∨ c = '-') : isBlank c = false := by
  simp only [isBlank, ne_of_begins begins ' ' rfl, ne_of_begins begins '\n' rfl,
    ne_of_begins begins '\t' rfl, ne_of_begins begins '\r' rfl, decide_false,
    Bool.or_self]

/-- The text of a value begins with a character that is no blank and closes nothing. -/
theorem exists_writeChars {value : Json} (exact : IsExact value) :
    ∃ c others, value.writeChars = c :: others ∧ isBlank c = false ∧ c ≠ ']' := by
  cases exact with
  | null => exact ⟨_, _, rfl, rfl, by decide⟩
  | bool value =>
      cases value with
      | false => exact ⟨_, _, rfl, rfl, by decide⟩
      | true => exact ⟨_, _, rfl, rfl, by decide⟩
  | @number value _ =>
      obtain ⟨c, others, shape, begins⟩ := exists_writeInt value
      exact ⟨c, others, shape, visible_of_begins begins, ne_of_begins begins _ rfl⟩
  | string value => exact ⟨_, _, rfl, rfl, by decide⟩
  | @array items _ =>
      cases items with
      | nil => exact ⟨_, _, rfl, rfl, by decide⟩
      | cons first others => exact ⟨_, _, rfl, rfl, by decide⟩
  | @object fields _ =>
      cases fields with
      | nil => exact ⟨_, _, rfl, rfl, by decide⟩
      | cons first others => exact ⟨_, _, rfl, rfl, by decide⟩

theorem ends_writeItems (items : List Json) (rest : List Char) :
    Ends (writeItems items ++ rest) := by
  cases items with
  | nil => exact ends_cons (by decide) _
  | cons item others => exact ends_cons (by decide) _

theorem ends_writeFields (fields : List (String × Json)) (rest : List Char) :
    Ends (writeFields fields ++ rest) := by
  cases fields with
  | nil => exact ends_cons (by decide) _
  | cons field others => exact ends_cons (by decide) _

section Steps

variable {fuel : ℕ} {cs rest : List Char}

theorem readItems?_step {item : Json} {done : List Json}
    (read : readValue? fuel cs = some (item, ',' :: rest)) :
    readItems? (fuel + 1) done cs = readItems? fuel (item :: done) rest := by
  simp only [readItems?, read, Option.bind_some, skipBlanks_cons (c := ',') rfl]

theorem readItems?_last {item : Json} {done : List Json}
    (read : readValue? fuel cs = some (item, ']' :: rest)) :
    readItems? (fuel + 1) done cs = some (.array (item :: done).reverse, rest) := by
  simp only [readItems?, read, Option.bind_some, skipBlanks_cons (c := ']') rfl]

variable {name : String} {value : Json} {done : List (String × Json)} {body : List Char}

theorem readFields?_step
    (readName : readString? (some []) cs = some (some name, ':' :: body))
    (read : readValue? fuel body = some (value, ',' :: rest)) :
    readFields? (fuel + 1) (some done) ('"' :: cs) =
      readFields? fuel (some ((name, value) :: done)) rest := by
  simp only [readFields?, skipBlanks_cons (c := '"') rfl, readName, Option.bind_some,
    skipBlanks_cons (c := ':') rfl, read, skipBlanks_cons (c := ',') rfl, Option.map_some]

theorem readFields?_last
    (readName : readString? (some []) cs = some (some name, ':' :: body))
    (read : readValue? fuel body = some (value, '\x7d' :: rest)) :
    readFields? (fuel + 1) (some done) ('"' :: cs) =
      some (.object ((name, value) :: done).reverse, rest) := by
  simp only [readFields?, skipBlanks_cons (c := '"') rfl, readName, Option.bind_some,
    skipBlanks_cons (c := ':') rfl, read, skipBlanks_cons (c := '\x7d') rfl, Option.map_some,
    ofFields]

end Steps

/-- The items of an array are read one by one, each with less fuel than the one before. -/
theorem readItems?_writeItems (done : List Json) (item : Json) {items : List Json}
    (each : ∀ value ∈ item :: items, IsReadBack value) {fuel : ℕ}
    (enough : (item.writeChars ++ writeItems items).length < fuel) (rest : List Char) :
    readItems? fuel done (item.writeChars ++ (writeItems items ++ rest)) =
      some (.array (done.reverse ++ item :: items), rest) := by
  obtain ⟨fuel, rfl⟩ := Nat.exists_eq_add_of_lt (Nat.zero_lt_of_lt enough)
  rw [Nat.zero_add] at enough ⊢
  induction items generalizing done item fuel with
  | nil =>
      simp only [List.length_append, writeItems, List.length_singleton] at enough
      have read := each item List.mem_cons_self fuel (writeItems [] ++ rest)
        (ends_writeItems [] rest) (by omega)
      rw [readItems?_last read]
      simp
  | cons second others inductionHypothesis =>
      simp only [List.length_append, writeItems, List.length_cons, List.cons_append] at enough
      have read := each item List.mem_cons_self fuel (writeItems (second :: others) ++ rest)
        (ends_writeItems _ rest) (by omega)
      obtain ⟨fuel, rfl⟩ := Nat.exists_eq_add_of_lt (show 0 < fuel by omega)
      have remaining := inductionHypothesis (item :: done) second
        (fun value member => each value (List.mem_cons_of_mem _ member)) fuel
        (by simp only [List.length_append]; omega)
      simp only [writeItems, List.cons_append, List.append_assoc, Nat.zero_add] at read remaining ⊢
      rw [readItems?_step read, remaining]
      simp

/-- The fields of an object are read one by one, each with less fuel than the one before. -/
theorem readFields?_writeFields (done : List (String × Json)) (name : String) (value : Json)
    {fields : List (String × Json)}
    (each : ∀ field ∈ (name, value) :: fields, IsReadBack field.2) {fuel : ℕ}
    (enough : (writeString name ++ ':' :: value.writeChars ++ writeFields fields).length < fuel)
    (rest : List Char) :
    readFields? fuel (some done)
        (writeString name ++ ':' :: (value.writeChars ++ (writeFields fields ++ rest))) =
      some (.object (done.reverse ++ (name, value) :: fields), rest) := by
  obtain ⟨fuel, rfl⟩ := Nat.exists_eq_add_of_lt (Nat.zero_lt_of_lt enough)
  rw [Nat.zero_add] at enough ⊢
  induction fields generalizing done name value fuel with
  | nil =>
      simp only [List.length_append, List.length_cons] at enough
      have read := each _ List.mem_cons_self fuel (writeFields [] ++ rest)
        (ends_writeFields [] rest) (by simp only; omega)
      obtain ⟨body, shape, readName⟩ := readString?_writeString name
        (':' :: (value.writeChars ++ (writeFields [] ++ rest)))
      rw [shape, List.cons_append, readFields?_last readName read]
      simp
  | cons second others inductionHypothesis =>
      obtain ⟨nextName, nextValue⟩ := second
      simp only [List.length_append, writeFields, List.length_cons, List.cons_append] at enough
      have read := each _ List.mem_cons_self fuel
        (writeFields ((nextName, nextValue) :: others) ++ rest)
        (ends_writeFields _ rest) (by simp only; omega)
      obtain ⟨body, shape, readName⟩ := readString?_writeString name
        (':' :: (value.writeChars ++ (writeFields ((nextName, nextValue) :: others) ++ rest)))
      obtain ⟨fuel, rfl⟩ := Nat.exists_eq_add_of_lt (show 0 < fuel by omega)
      have remaining := inductionHypothesis ((name, value) :: done) nextName nextValue
        (fun field member => each field (List.mem_cons_of_mem _ member)) fuel
        (by simp only [List.length_append, List.length_cons]; omega)
      simp only [writeFields, List.cons_append, List.append_assoc, Nat.zero_add, shape]
        at read readName remaining ⊢
      rw [readFields?_step readName read, remaining]
      simp

theorem isReadBack_of_succ {value : Json}
    (read : ∀ (fuel : ℕ) (rest : List Char), Ends rest → value.writeChars.length ≤ fuel →
      readValue? (fuel + 1) (value.writeChars ++ rest) = some (value, rest)) :
    IsReadBack value := by
  intro fuel rest ends enough
  cases fuel with
  | zero => cases enough
  | succ fuel => exact read fuel rest ends (Nat.lt_succ_iff.mp enough)

theorem readValue?_writeInt {n : ℤ} (inRange : IsInRange n) (fuel : ℕ) (ends : Ends rest) :
    readValue? (fuel + 1) (writeInt n ++ rest) = some (.number (.integer n), rest) := by
  obtain ⟨c, others, shape, begins⟩ := exists_writeInt n
  have read := readNumber?_writeInt inRange ends
  rw [shape, List.cons_append] at read ⊢
  rw [readValue?, skipBlanks_cons (visible_of_begins begins)]
  split
  · exact absurd (List.cons.inj ‹_›).1 (ne_of_begins begins _ rfl)
  · exact absurd (List.cons.inj ‹_›).1 (ne_of_begins begins _ rfl)
  · exact absurd (List.cons.inj ‹_›).1 (ne_of_begins begins _ rfl)
  · exact absurd (List.cons.inj ‹_›).1 (ne_of_begins begins _ rfl)
  · exact absurd (List.cons.inj ‹_›).1 (ne_of_begins begins _ rfl)
  · exact absurd (List.cons.inj ‹_›).1 (ne_of_begins begins _ rfl)
  · rw [read]
    rfl

/-- A value is read off its text, whatever stands behind it. -/
theorem isReadBack_of_isExact {value : Json} (exact : IsExact value) : IsReadBack value := by
  induction exact with
  | null =>
      refine isReadBack_of_succ fun fuel rest _ _ => ?_
      simp only [writeChars, List.cons_append, readValue?, skipBlanks_cons (c := 'n') rfl]
      rfl
  | bool value =>
      refine isReadBack_of_succ fun fuel rest _ _ => ?_
      cases value with
      | false =>
          simp only [writeChars, List.cons_append, readValue?, skipBlanks_cons (c := 'f') rfl]
          rfl
      | true =>
          simp only [writeChars, List.cons_append, readValue?, skipBlanks_cons (c := 't') rfl]
          rfl
  | number inRange =>
      refine isReadBack_of_succ fun fuel rest ends _ => ?_
      rw [writeChars]
      exact readValue?_writeInt inRange fuel ends
  | string value =>
      refine isReadBack_of_succ fun fuel rest _ _ => ?_
      obtain ⟨body, shape, read⟩ := readString?_writeString value rest
      simp only [writeChars, shape, List.cons_append, readValue?, skipBlanks_cons (c := '"') rfl,
        read, Option.map_some, ofText]
  | @array items exact inductionHypothesis =>
      refine isReadBack_of_succ fun fuel rest _ enough => ?_
      cases items with
      | nil =>
          simp only [writeChars, List.cons_append, List.nil_append, readValue?,
            skipBlanks_cons (c := '[') rfl, skipBlanks_cons (c := ']') rfl]
      | cons item others =>
          simp only [writeChars, List.cons_append, List.length_cons] at enough
          obtain ⟨c, text, shape, visible, notClosed⟩ :=
            exists_writeChars (exact item List.mem_cons_self)
          have read := readItems?_writeItems [] item inductionHypothesis enough rest
          rw [shape, List.cons_append] at read
          simp only [writeChars, List.cons_append, List.append_assoc, readValue?,
            skipBlanks_cons (c := '[') rfl, shape, skipBlanks_cons visible]
          split
          · exact absurd (List.cons.inj ‹_›).1 notClosed
          · exact read
  | @object fields exact inductionHypothesis =>
      refine isReadBack_of_succ fun fuel rest _ enough => ?_
      cases fields with
      | nil =>
          simp only [writeChars, List.cons_append, List.nil_append, readValue?,
            skipBlanks_cons (c := '\x7b') rfl, skipBlanks_cons (c := '\x7d') rfl]
      | cons field others =>
          obtain ⟨name, value⟩ := field
          simp only [writeChars, List.cons_append, List.length_cons] at enough
          have read := readFields?_writeFields [] name value inductionHypothesis enough rest
          obtain ⟨body, shape, _⟩ := readString?_writeString name []
          rw [shape, List.cons_append] at read
          simp only [writeChars, List.cons_append, List.append_assoc, readValue?,
            skipBlanks_cons (c := '\x7b') rfl, shape, skipBlanks_cons (c := '"') rfl]
          exact read

theorem read?_write {value : Json} (exact : IsExact value) : read? value.write = some value := by
  have read := isReadBack_of_isExact exact (value.writeChars.length + 1) [] ends_nil
    (Nat.lt_succ_self _)
  rw [List.append_nil] at read
  simp only [read?, write, String.toList_ofList, read, Option.bind_some]
  rfl

end BrowserPods.Json
