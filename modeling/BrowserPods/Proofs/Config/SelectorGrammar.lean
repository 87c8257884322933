import BrowserPods.Proofs.Config.NodeSelector
import BrowserPods.Proofs.Files.Components
import Mathlib

/-!
# The grammar of node selectors

A node selector is a list of parts between commas: a part is blank, or it assigns a value to a key.
It is read if all of its parts are such parts, and the last assignment to a key counts.  What is
read is in normal form, and a selector in normal form is read back however it is written
(`NodeSelector.parse_follows_grammar`).
-/

namespace BrowserPods.NodeSelector

open BrowserPods.Text

def IsBlankPart (part : List Char) : Prop := ∀ c ∈ part, isBlank c

/-- Whether a part assigns a value to a key: behind its first equals sign and in front of it,
without the blanks around them. -/
def Assigns (part : List Char) (key value : String) : Prop :=
  ∃ before behind, part = before ++ '=' :: behind ∧ '=' ∉ before ∧
    trim before = key.toList ∧ trim behind = value.toList ∧ key ≠ ""

/-- Whether parts assign the values of pairs to their keys, with blank parts between them. -/
inductive Lists : List (List Char) → List (String × String) → Prop
  | nil : Lists [] []
  | blank {part : List Char} {parts : List (List Char)} {pairs : List (String × String)}
      (isBlank : IsBlankPart part) (others : Lists parts pairs) : Lists (part :: parts) pairs
  | assignment {part : List Char} {parts : List (List Char)} {pairs : List (String × String)}
      {key value : String} (assigns : Assigns part key value) (others : Lists parts pairs) :
      Lists (part :: parts) ((key, value) :: pairs)

/-! ## One part -/

variable {part before behind : List Char} {key value : String}

theorem Assigns.not_isBlankPart (assigns : Assigns part key value) : ¬ IsBlankPart part := by
  intro blank
  obtain ⟨before, behind, rfl, _⟩ := assigns
  have sign := blank '=' (by simp)
  revert sign
  decide

theorem keyValue?_append (absent : '=' ∉ before) (behind : List Char) :
    keyValue? (before ++ '=' :: behind) =
      if (trim before).isEmpty then none
      else some (String.ofList (trim before), String.ofList (trim behind)) := by
  have other : ∀ c ∈ before, decide (c ≠ '=') := by
    intro c member
    exact decide_eq_true (ne_of_mem_of_not_mem member absent)
  rw [keyValue?, List.dropWhile_append_of_pos other, List.takeWhile_append_of_pos other]
  simp

theorem keyValue?_eq_some_iff : keyValue? part = some (key, value) ↔ Assigns part key value := by
  constructor
  · intro found
    by_cases sign : '=' ∈ part
    · obtain ⟨before, behind, rfl, absent⟩ := List.eq_append_cons_of_mem sign
      rw [keyValue?_append absent] at found
      split at found
      · cases found
      · rename_i nonempty
        cases found
        refine ⟨before, behind, rfl, absent, ?_, ?_, ?_⟩
        · exact String.toList_ofList.symm
        · exact String.toList_ofList.symm
        · simpa using nonempty
    · have nothing : part.dropWhile (· ≠ '=') = [] := by
        apply List.dropWhile_eq_nil_iff.mpr
        intro c member
        exact decide_eq_true (ne_of_mem_of_not_mem member sign)
      rw [keyValue?, nothing] at found
      cases found
  · rintro ⟨before, behind, rfl, absent, isKey, isValue, nonempty⟩
    rw [keyValue?_append absent, isKey, isValue, if_neg (by simpa using nonempty)]
    simp

theorem assigns_trim : Assigns (trim part) key value ↔ Assigns part key value := by
  have visible : ¬ isBlank '=' := by decide
  constructor
  · rintro ⟨before, behind, shape, absent, isKey, isValue, nonempty⟩
    obtain ⟨front, back, frontBlank, backBlank, whole⟩ := isPadded_trim part
    refine ⟨front ++ before, behind ++ back, ?_, ?_, ?_, ?_, nonempty⟩
    · rw [whole, shape]
      simp
    · intro member
      rcases List.mem_append.mp member with outside | inside
      · exact visible (frontBlank '=' outside)
      · exact absent inside
    · rw [trim_append_front frontBlank, isKey]
    · rw [trim_append_back backBlank, isValue]
  · rintro ⟨before, behind, rfl, absent, isKey, isValue, nonempty⟩
    rw [trim_append_cons visible]
    refine ⟨trimStart before, trimEnd behind, rfl, ?_, ?_, ?_, nonempty⟩
    · intro member
      exact absent (List.dropWhile_subset isBlank member)
    · rw [trim_trimStart, isKey]
    · rw [trim_trimEnd, isValue]

/-! ## All parts -/

variable {parts : List (List Char)} {pairs : List (String × String)}

theorem mapM_readPart_cons (part : List Char) (parts : List (List Char)) :
    (part :: parts).mapM readPart = .ok pairs ↔
      ∃ pair others, keyValue? part = some pair ∧ parts.mapM readPart = .ok others ∧
        pairs = pair :: others := by
  rw [List.mapM_cons, readPart]
  cases keyValue? part with
  | none => simp [bind, Except.bind]
  | some pair =>
      cases parts.mapM readPart with
      | error fault => simp [bind, Except.bind]
      | ok others => simp [bind, Except.bind, pure, Except.pure, eq_comm]

theorem mapM_readPart_eq_ok_iff (parts : List (List Char)) (pairs : List (String × String)) :
    ((parts.map trim).filter fun part => !part.isEmpty).mapM readPart = .ok pairs ↔
      Lists parts pairs := by
  induction parts generalizing pairs with
  | nil =>
      constructor
      · intro read
        cases read
        exact .nil
      · intro lists
        cases lists
        rfl
  | cons part others inductionHypothesis =>
      by_cases blank : IsBlankPart part
      · rw [List.map_cons, trim_eq_nil_iff.mpr blank, List.filter_cons_of_neg (by simp),
          inductionHypothesis]
        constructor
        · exact .blank blank
        · intro lists
          cases lists with
          | blank _ others => exact others
          | assignment assigns _ => exact absurd blank assigns.not_isBlankPart
      · rw [List.map_cons, List.filter_cons,
          if_pos (by simpa [trim_eq_nil_iff, IsBlankPart] using blank),
          mapM_readPart_cons]
        constructor
        · rintro ⟨⟨key, value⟩, more, found, read, rfl⟩
          exact .assignment (assigns_trim.mp (keyValue?_eq_some_iff.mp found))
            ((inductionHypothesis more).mp read)
        · intro lists
          cases lists with
          | blank isBlank _ => exact absurd isBlank blank
          | assignment assigns rest =>
              exact ⟨_, _, keyValue?_eq_some_iff.mpr (assigns_trim.mpr assigns),
                (inductionHypothesis _).mpr rest, rfl⟩

theorem parse_eq_ok_iff {text : String} {selector : Dict String} :
    parse text = .ok selector ↔
      ∃ pairs, Lists (text.toList.splitOn ',') pairs ∧ Dict.ofList pairs = selector := by
  rw [parse, NodeSelector.parts]
  constructor
  · intro read
    cases found : ((text.toList.splitOn ',').map trim |>.filter fun part => !part.isEmpty).mapM
        readPart with
    | error fault =>
        rw [found] at read
        cases read
    | ok pairs =>
        rw [found] at read
        cases read
        exact ⟨pairs, (mapM_readPart_eq_ok_iff _ _).mp found, rfl⟩
  · rintro ⟨pairs, lists, rfl⟩
    rw [(mapM_readPart_eq_ok_iff _ _).mpr lists]
    rfl

theorem exists_lists_iff :
    (∃ pairs, Lists parts pairs) ↔
      ∀ part ∈ parts, IsBlankPart part ∨ ∃ key value, Assigns part key value := by
  constructor
  · rintro ⟨pairs, lists⟩
    induction lists with
    | nil => simp
    | blank isBlank _ inductionHypothesis =>
        exact List.forall_mem_cons.mpr ⟨.inl isBlank, inductionHypothesis⟩
    | assignment assigns _ inductionHypothesis =>
        exact List.forall_mem_cons.mpr ⟨.inr ⟨_, _, assigns⟩, inductionHypothesis⟩
  · intro each
    induction parts with
    | nil => exact ⟨[], .nil⟩
    | cons part others inductionHypothesis =>
        obtain ⟨first, later⟩ := List.forall_mem_cons.mp each
        obtain ⟨pairs, lists⟩ := inductionHypothesis later
        rcases first with isBlank | ⟨key, value, assigns⟩
        · exact ⟨pairs, .blank isBlank lists⟩
        · exact ⟨(key, value) :: pairs, .assignment assigns lists⟩

theorem Assigns.unique {otherKey otherValue : String} (first : Assigns part key value)
    (second : Assigns part otherKey otherValue) : (key, value) = (otherKey, otherValue) := by
  rw [← keyValue?_eq_some_iff] at first second
  exact Option.some.inj (first.symm.trans second)

theorem mem_iff_of_lists (lists : Lists parts pairs) :
    (key, value) ∈ pairs ↔ ∃ part ∈ parts, Assigns part key value := by
  induction lists with
  | nil => simp
  | blank isBlank _ inductionHypothesis =>
      rw [inductionHypothesis, List.exists_mem_cons_iff]
      refine ⟨.inr, ?_⟩
      rintro (assigns | later)
      · exact absurd isBlank assigns.not_isBlankPart
      · exact later
  | assignment assigns _ inductionHypothesis =>
      rw [List.mem_cons, inductionHypothesis, List.exists_mem_cons_iff]
      refine or_congr_left ⟨?_, ?_⟩
      · intro same
        cases same
        exact assigns
      · intro also
        exact also.unique assigns

theorem forall_ne_iff_of_lists (lists : Lists parts pairs) :
    (∀ pair ∈ pairs, pair.1 ≠ key) ↔ ∀ part ∈ parts, ∀ value, ¬ Assigns part key value := by
  constructor
  · intro absent part listed value assigns
    exact absent (key, value) ((mem_iff_of_lists lists).mpr ⟨part, listed, assigns⟩) rfl
  · rintro free ⟨_, value⟩ member rfl
    obtain ⟨part, listed, assigns⟩ := (mem_iff_of_lists lists).mp member
    exact free part listed value assigns

theorem exists_last_cons_iff {α : Type} {hits ends : α → Prop} (first : α) (items : List α) :
    (∃ early last late, first :: items = early ++ last :: late ∧ hits last ∧ ∀ x ∈ late, ends x) ↔
      (hits first ∧ ∀ x ∈ items, ends x) ∨
        ∃ early last late, items = early ++ last :: late ∧ hits last ∧ ∀ x ∈ late, ends x := by
  constructor
  · rintro ⟨early, last, late, shape, hit, free⟩
    cases early with
    | nil =>
        cases shape
        exact .inl ⟨hit, free⟩
    | cons _ early =>
        obtain ⟨rfl, rfl⟩ := List.cons.inj shape
        exact .inr ⟨early, last, late, rfl, hit, free⟩
  · rintro (⟨hit, free⟩ | ⟨early, last, late, rfl, hit, free⟩)
    · exact ⟨[], first, items, rfl, hit, free⟩
    · exact ⟨first :: early, last, late, rfl, hit, free⟩

/-- The last pair with a key comes from the last part that assigns to it. -/
theorem exists_last_iff_of_lists (lists : Lists parts pairs) :
    (∃ early last late, pairs = early ++ last :: late ∧ last = (key, value) ∧
        ∀ pair ∈ late, pair.1 ≠ key) ↔
      ∃ early part late, parts = early ++ part :: late ∧ Assigns part key value ∧
        ∀ other ∈ late, ∀ otherValue, ¬ Assigns other key otherValue := by
  induction lists with
  | nil => simp
  | blank isBlank _ inductionHypothesis =>
      rw [inductionHypothesis, exists_last_cons_iff]
      refine ⟨.inr, ?_⟩
      rintro (⟨assigns, _⟩ | later)
      · exact absurd isBlank assigns.not_isBlankPart
      · exact later
  | assignment assigns others inductionHypothesis =>
      rw [exists_last_cons_iff, exists_last_cons_iff, inductionHypothesis,
        forall_ne_iff_of_lists others]
      refine or_congr_left (and_congr_left fun _ => ⟨?_, assigns.unique⟩)
      intro same
      cases same
      exact assigns

theorem get?_eq_some_iff_of_lists (lists : Lists parts pairs) :
    (Dict.ofList pairs).get? key = some value ↔
      ∃ early part late, parts = early ++ part :: late ∧ Assigns part key value ∧
        ∀ other ∈ late, ∀ otherValue, ¬ Assigns other key otherValue := by
  rw [Dict.get?_ofList_eq_some_iff, ← exists_last_iff_of_lists lists]
  simp

/-! ## Selectors in normal form -/

/-- Whether all keys and values of a selector can be written down: there are no blanks around them,
no commas in them and no equals signs in the keys, and no key is empty. -/
structure IsNormal (selector : Dict String) : Prop where
  keys : ∀ entry ∈ selector.entries,
    trimmed entry.1 = entry.1 ∧ entry.1 ≠ "" ∧ ',' ∉ entry.1.toList ∧ '=' ∉ entry.1.toList
  values : ∀ entry ∈ selector.entries, trimmed entry.2 = entry.2 ∧ ',' ∉ entry.2.toList

/-- Whether parts are pairs of keys and values, written with any blanks, and blank parts. -/
inductive Writes : List (String × String) → List (List Char) → Prop
  | nil : Writes [] []
  | blank {part : List Char} {parts : List (List Char)} {pairs : List (String × String)}
      (isBlank : IsBlankPart part) (others : Writes pairs parts) : Writes pairs (part :: parts)
  | pair {before behind : List Char} {parts : List (List Char)} {pairs : List (String × String)}
      {key value : String} (isKey : IsPadded before key.toList)
      (isValue : IsPadded behind value.toList)
      (others : Writes pairs parts) :
        Writes ((key, value) :: pairs) ((before ++ '=' :: behind) :: parts)

/-- Whether a text is a selector, written with its entries in some order, any blanks and blank
parts. -/
def IsWritten (selector : Dict String) (text : String) : Prop :=
  ∃ pairs parts, pairs.Perm selector.entries ∧ Writes pairs parts ∧
    text.toList = [','].intercalate parts

theorem lists_of_writes {selector : Dict String} (normal : IsNormal selector)
    (listed : ∀ pair ∈ pairs, pair ∈ selector.entries) (writes : Writes pairs parts) :
    Lists parts pairs := by
  induction writes with
  | nil => exact .nil
  | blank isBlank _ inductionHypothesis => exact .blank isBlank (inductionHypothesis listed)
  | pair isKey isValue _ inductionHypothesis =>
      obtain ⟨first, later⟩ := List.forall_mem_cons.mp listed
      obtain ⟨trimmedKey, nonempty, _, noSign⟩ := normal.keys _ first
      obtain ⟨trimmedValue, _⟩ := normal.values _ first
      refine .assignment ⟨_, _, rfl, ?_, ?_, ?_, nonempty⟩ (inductionHypothesis later)
      · exact isKey.not_mem (by decide) noSign
      · rw [isKey.trim_eq, ← toList_trimmed, trimmedKey]
      · rw [isValue.trim_eq, ← toList_trimmed, trimmedValue]

theorem comma_not_mem_of_writes {selector : Dict String} (normal : IsNormal selector)
    (listed : ∀ pair ∈ pairs, pair ∈ selector.entries) (writes : Writes pairs parts) :
    ∀ part ∈ parts, ',' ∉ part := by
  have visible : ¬ isBlank ',' := by decide
  induction writes with
  | nil => simp
  | blank isBlank _ inductionHypothesis =>
      exact List.forall_mem_cons.mpr ⟨fun member => visible (isBlank ',' member),
        inductionHypothesis listed⟩
  | pair isKey isValue _ inductionHypothesis =>
      obtain ⟨first, later⟩ := List.forall_mem_cons.mp listed
      obtain ⟨_, _, noComma, _⟩ := normal.keys _ first
      obtain ⟨_, alsoNoComma⟩ := normal.values _ first
      refine List.forall_mem_cons.mpr ⟨?_, inductionHypothesis later⟩
      intro member
      rcases List.mem_append.mp member with inKey | behind
      · exact isKey.not_mem visible noComma inKey
      · rcases List.mem_cons.mp behind with sign | inValue
        · cases sign
        · exact isValue.not_mem visible alsoNoComma inValue

theorem parse_of_isWritten {selector : Dict String} {text : String} (normal : IsNormal selector)
    (written : IsWritten selector text) : parse text = .ok selector := by
  obtain ⟨pairs, parts, inOrder, writes, shape⟩ := written
  have listed : ∀ pair ∈ pairs, pair ∈ selector.entries := fun pair => inOrder.mem_iff.mp
  have lists := lists_of_writes normal listed writes
  rw [parse_eq_ok_iff, shape]
  refine ⟨pairs, ?_, Dict.ofList_of_perm inOrder⟩
  cases parts with
  | nil =>
      -- No part at all is written like one blank part.
      exact .blank (by simp [IsBlankPart]) lists
  | cons part others =>
      rw [List.splitOn_intercalate ',' (comma_not_mem_of_writes normal listed writes) (by simp)]
      exact lists

theorem isNormal_of_lists (free : ∀ part ∈ parts, ',' ∉ part) (lists : Lists parts pairs) :
    IsNormal (Dict.ofList pairs) := by
  have plain (entry : String × String) (member : entry ∈ (Dict.ofList pairs).entries) :
      (trimmed entry.1 = entry.1 ∧ entry.1 ≠ "" ∧ ',' ∉ entry.1.toList ∧ '=' ∉ entry.1.toList) ∧
        trimmed entry.2 = entry.2 ∧ ',' ∉ entry.2.toList := by
    obtain ⟨key, value⟩ := entry
    have inPairs := Dict.mem_of_get?_ofList (Dict.get?_eq_some_iff_mem.mpr member)
    obtain ⟨part, listed, before, behind, rfl, absent, isKey, isValue, nonempty⟩ :=
      (mem_iff_of_lists lists).mp inPairs
    have noComma := free _ listed
    refine ⟨⟨?_, nonempty, ?_, ?_⟩, ?_, ?_⟩
    · rw [trimmed, ← isKey, trim_trim, isKey, String.ofList_toList]
    · rw [← isKey]
      exact fun inKey => noComma (List.mem_append_left _ (mem_of_mem_trim inKey))
    · rw [← isKey]
      exact fun inKey => absent (mem_of_mem_trim inKey)
    · rw [trimmed, ← isValue, trim_trim, isValue, String.ofList_toList]
    · rw [← isValue]
      exact fun inValue =>
        noComma (List.mem_append_right _ (List.mem_cons_of_mem _ (mem_of_mem_trim inValue)))
  exact ⟨fun entry member => (plain entry member).1, fun entry member => (plain entry member).2⟩

/-- A text is read as a node selector exactly if each of its parts between commas is blank or
assigns to a key, and then the selector gives each key what the last part assigns to it.  Selectors
that are read are in normal form, and those in normal form are read, however they are written. -/
theorem parse_follows_grammar :
    (∀ text : String,
      ((∃ selector, parse text = .ok selector) ↔
        ∀ part ∈ text.toList.splitOn ',', IsBlankPart part ∨ ∃ key value, Assigns part key value) ∧
      ∀ selector, parse text = .ok selector →
        IsNormal selector ∧
        ∀ key value, selector.get? key = some value ↔
          ∃ early part late, text.toList.splitOn ',' = early ++ part :: late ∧
            Assigns part key value ∧
            ∀ other ∈ late, ∀ otherValue, ¬ Assigns other key otherValue) ∧
    ∀ (selector : Dict String) (text : String), IsNormal selector → IsWritten selector text →
      parse text = .ok selector := by
  refine ⟨fun text => ⟨?_, ?_⟩, fun selector text => parse_of_isWritten⟩
  · rw [← exists_lists_iff]
    constructor
    · rintro ⟨selector, read⟩
      obtain ⟨pairs, lists, _⟩ := parse_eq_ok_iff.mp read
      exact ⟨pairs, lists⟩
    · rintro ⟨pairs, lists⟩
      exact ⟨_, parse_eq_ok_iff.mpr ⟨pairs, lists, rfl⟩⟩
  · intro selector read
    obtain ⟨pairs, lists, rfl⟩ := parse_eq_ok_iff.mp read
    have free : ∀ part ∈ text.toList.splitOn ',', ',' ∉ part := fun part listed =>
      Path.separator_not_mem_of_mem_splitOn _ listed
    exact ⟨isNormal_of_lists free lists, fun key value => get?_eq_some_iff_of_lists lists⟩

theorem untidy_selector_is_read :
    let selector : Dict String := .ofList [("pool", "browsers"), ("zone", "a=b"), ("spot", "")]
    let text := " ,\tzone= a=b,pool =browsers,,spot=\n"
    IsNormal selector ∧ IsWritten selector text ∧ parse text = .ok selector ∧
      selector.get? "zone" = some "a=b" := by
  intro selector text
  have normal : IsNormal selector := ⟨by decide +kernel, by decide +kernel⟩
  have padded (front back : List Char) (blank : ∀ c ∈ front ++ back, isBlank c) (value : String) :
      IsPadded (front ++ value.toList ++ back) value.toList :=
    ⟨front, back, fun c member => blank c (List.mem_append_left back member),
      fun c member => blank c (List.mem_append_right front member), rfl⟩
  have bare := padded [] [] (by simp)
  have spaced := padded [] [' '] (by simp [isBlank])
  have writes :=
    Writes.blank (show IsBlankPart [' '] by simp [IsBlankPart, isBlank]) <|
      Writes.pair (padded ['\t'] [] (by simp [isBlank]) "zone")
        (padded [' '] [] (by simp [isBlank]) "a=b") <|
      Writes.pair (spaced "pool") (bare "browsers") <|
      Writes.blank (show IsBlankPart [] by simp [IsBlankPart]) <|
      Writes.pair (bare "spot") (padded [] ['\n'] (by simp [isBlank]) "") Writes.nil
  have written : IsWritten selector text := ⟨_, _, by decide +kernel, writes, by decide +kernel⟩
  exact ⟨normal, written, parse_follows_grammar.2 selector text normal written, by decide +kernel⟩

end BrowserPods.NodeSelector
