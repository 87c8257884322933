import BrowserPods.Text.Blank
import Mathlib.Data.List.DropRight

/-!
# Blanks around a text

Trimming takes away blank characters on either side of a text and nothing else (`isPadded_trim`),
and what it leaves does not depend on how many of them there are.
-/

namespace BrowserPods.Text

/-- Whether one text is another one between blanks. -/
def IsPadded (padded text : List Char) : Prop :=
  ∃ front back, (∀ c ∈ front, isBlank c) ∧ (∀ c ∈ back, isBlank c) ∧ padded = front ++ text ++ back

variable {front back : List Char}

/-! ## Trimming -/

theorem trim_append_front (blank : ∀ c ∈ front, isBlank c) (cs : List Char) :
    trim (front ++ cs) = trim cs := by
  rw [trim, trimStart, List.dropWhile_append_of_pos blank, trim, trimStart]

theorem trimEnd_append_back (blank : ∀ c ∈ back, isBlank c) (cs : List Char) :
    trimEnd (cs ++ back) = trimEnd cs := by
  have reversed : ∀ c ∈ back.reverse, isBlank c := fun c member =>
    blank c (List.mem_reverse.mp member)
  rw [trimEnd, List.reverse_append, List.dropWhile_append_of_pos reversed, trimEnd]

theorem trim_append_back (blank : ∀ c ∈ back, isBlank c) (cs : List Char) :
    trim (cs ++ back) = trim cs := by
  rw [trim, trimStart, List.dropWhile_append, trim, trimStart]
  by_cases nothing : (cs.dropWhile isBlank).isEmpty
  · -- The text is blank, and so are the blanks behind it from their first to their last.
    have rest : ∀ c ∈ back.dropWhile isBlank, isBlank c := fun c member =>
      blank c (List.dropWhile_subset isBlank member)
    rw [if_pos nothing, List.isEmpty_iff.mp nothing, ← List.nil_append (back.dropWhile isBlank),
      trimEnd_append_back rest]
  · rw [if_neg nothing, trimEnd_append_back blank]

theorem trim_eq_self {cs : List Char} (plain : ∀ c ∈ cs, ¬ isBlank c) : trim cs = cs := by
  have kept {ds : List Char} (none : ∀ d ∈ ds, ¬ isBlank d) : ds.dropWhile isBlank = ds := by
    cases ds with
    | nil => rfl
    | cons d others => rw [List.dropWhile_cons_of_neg (none d List.mem_cons_self)]
  rw [trim, trimStart, kept plain, trimEnd,
    kept fun c member => plain c (List.mem_reverse.mp member), List.reverse_reverse]

/-- A text is what trimming leaves of it, between blanks. -/
theorem isPadded_trim (cs : List Char) : IsPadded cs (trim cs) := by
  have ends : trim cs ++ (trimStart cs).rtakeWhile isBlank = trimStart cs :=
    List.rdropWhile_append_rtakeWhile
  refine ⟨cs.takeWhile isBlank, (trimStart cs).rtakeWhile isBlank, ?_, ?_, ?_⟩
  · intro c member
    exact List.mem_takeWhile_imp member
  · intro c member
    exact List.mem_rtakeWhile_imp member
  · rw [List.append_assoc, ends, trimStart, List.takeWhile_append_dropWhile]

theorem IsPadded.trim_eq {padded cs : List Char} (isPadded : IsPadded padded cs) :
    trim padded = trim cs := by
  obtain ⟨front, back, frontBlank, backBlank, rfl⟩ := isPadded
  rw [trim_append_back backBlank, trim_append_front frontBlank]

theorem IsPadded.not_mem {padded cs : List Char} (isPadded : IsPadded padded cs) {c : Char}
    (visible : ¬ isBlank c) (absent : c ∉ cs) : c ∉ padded := by
  obtain ⟨front, back, frontBlank, backBlank, rfl⟩ := isPadded
  intro member
  rcases List.mem_append.mp member with inside | behind
  · rcases List.mem_append.mp inside with inFront | inText
    · exact visible (frontBlank c inFront)
    · exact absent inText
  · exact visible (backBlank c behind)

@[simp]
theorem trim_trim (cs : List Char) : trim (trim cs) = trim cs := (isPadded_trim cs).trim_eq.symm

theorem trim_trimStart (cs : List Char) : trim (trimStart cs) = trim cs := by
  rw [trim, trimStart, trimStart, List.dropWhile_idempotent, trim, trimStart]

theorem trim_trimEnd (cs : List Char) : trim (trimEnd cs) = trim cs := by
  have shape : trimEnd cs ++ cs.rtakeWhile isBlank = cs := List.rdropWhile_append_rtakeWhile
  rw [← trim_append_back (fun c => List.mem_rtakeWhile_imp) (trimEnd cs), shape]

/-- A character that is not blank stops the trimming from either side. -/
theorem trim_append_cons {c : Char} (visible : ¬ isBlank c) (front back : List Char) :
    trim (front ++ c :: back) = trimStart front ++ c :: trimEnd back := by
  have stops (cs ds : List Char) :
      (cs ++ c :: ds).dropWhile isBlank = cs.dropWhile isBlank ++ c :: ds := by
    rw [List.dropWhile_append, List.dropWhile_cons_of_neg visible]
    split
    · rename_i nothing
      rw [List.isEmpty_iff.mp nothing, List.nil_append]
    · rfl
  rw [trim, trimStart, stops, trimEnd, List.reverse_append, List.reverse_cons, List.append_assoc,
    List.singleton_append, stops, List.reverse_append, List.reverse_cons, List.reverse_reverse,
    List.append_assoc, List.singleton_append, trimStart, trimEnd]

theorem mem_of_mem_trim {cs : List Char} {c : Char} (member : c ∈ trim cs) : c ∈ cs := by
  obtain ⟨front, back, _, _, shape⟩ := isPadded_trim cs
  rw [shape]
  exact List.mem_append_left _ (List.mem_append_right _ member)

theorem trim_eq_nil_iff {cs : List Char} : trim cs = [] ↔ ∀ c ∈ cs, isBlank c := by
  constructor
  · intro empty c member
    obtain ⟨front, back, frontBlank, backBlank, shape⟩ := isPadded_trim cs
    rw [shape, empty, List.append_nil] at member
    exact (List.mem_append.mp member).elim (frontBlank c) (backBlank c)
  · intro blank
    rw [← List.nil_append cs, trim_append_back blank]
    rfl

/-! ## Blank texts -/

theorem toList_trimmed (s : String) : (trimmed s).toList = trim s.toList := String.toList_ofList

@[simp]
theorem trimmed_trimmed (s : String) : trimmed (trimmed s) = trimmed s := by
  rw [trimmed, toList_trimmed, trim_trim, trimmed]

theorem unlessBlank?_eq_some {s t : String} :
    unlessBlank? s = some t ↔ trimmed s = t ∧ t ≠ "" := by
  rw [unlessBlank?]
  by_cases blank : trimmed s = ""
  · simp only [blank, if_true]
    constructor
    · nofun
    · rintro ⟨rfl, nonempty⟩
      exact absurd rfl nonempty
  · simp only [if_neg blank, Option.some_inj]
    constructor
    · rintro rfl
      exact ⟨rfl, blank⟩
    · exact And.left

end BrowserPods.Text
