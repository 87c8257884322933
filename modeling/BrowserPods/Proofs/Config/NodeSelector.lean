import BrowserPods.Config.NodeSelector
import BrowserPods.Proofs.Text.Blank

/-!
# Blanks around node selectors

A node selector is read part by part, each without the blanks around it, so blanks around the whole
text change nothing (`NodeSelector.parse_trimmed`).
-/

namespace BrowserPods.NodeSelector

open BrowserPods.Text

variable {front back : List Char}

private theorem comma_not_mem (blank : ∀ c ∈ front, isBlank c) : ',' ∉ front := by
  intro member
  have isBlank := blank ',' member
  revert isBlank
  decide

private theorem map_trim_splitOn_front (blank : ∀ c ∈ front, isBlank c) (cs : List Char) :
    ((front ++ cs).splitOn ',').map trim = (cs.splitOn ',').map trim := by
  induction front with
  | nil => rfl
  | cons c others inductionHypothesis =>
      have isBlank : ∀ d ∈ [c], isBlank d := by simpa using blank c (by simp)
      have notComma : (c == ',') = false := by
        rw [beq_eq_false_iff_ne]
        rintro rfl
        exact comma_not_mem isBlank (by simp)
      rw [List.cons_append, List.splitOn_cons_eq_if_modifyHead, notComma,
        ← inductionHypothesis fun d member => blank d (by simp [member])]
      cases (others ++ cs).splitOn ',' with
      | nil => rfl
      | cons part rest => exact congrArg (· :: _) (trim_append_front isBlank part)

/-- What stands behind the last separator belongs to the last part. -/
private theorem exists_splitOn_append {separator : Char} (absent : separator ∉ back)
    (cs : List Char) :
    ∃ early last, cs.splitOn separator = early ++ [last] ∧
      (cs ++ back).splitOn separator = early ++ [last ++ back] := by
  induction cs with
  | nil => exact ⟨[], [], rfl, List.splitOn_eq_singleton absent⟩
  | cons c others inductionHypothesis =>
      obtain ⟨early, last, shorter, longer⟩ := inductionHypothesis
      rw [List.cons_append, List.splitOn_cons_eq_if_modifyHead,
        List.splitOn_cons_eq_if_modifyHead, shorter, longer]
      by_cases separates : c == separator
      · exact ⟨[] :: early, last, by simp [separates], by simp [separates]⟩
      · cases early with
        | nil => exact ⟨[], c :: last, by simp [separates], by simp [separates]⟩
        | cons part rest =>
            exact ⟨(c :: part) :: rest, last, by simp [separates], by simp [separates]⟩

private theorem map_trim_splitOn_back (blank : ∀ c ∈ back, isBlank c) (cs : List Char) :
    ((cs ++ back).splitOn ',').map trim = (cs.splitOn ',').map trim := by
  obtain ⟨early, last, shorter, longer⟩ := exists_splitOn_append (comma_not_mem blank) cs
  rw [shorter, longer, List.map_append, List.map_append, List.map_singleton, List.map_singleton,
    trim_append_back blank]

@[simp]
theorem parts_trim (cs : List Char) : parts (trim cs) = parts cs := by
  obtain ⟨front, back, frontBlank, backBlank, shape⟩ := isPadded_trim cs
  have same : (cs.splitOn ',').map trim = ((trim cs).splitOn ',').map trim := by
    calc
      (cs.splitOn ',').map trim = ((front ++ trim cs ++ back).splitOn ',').map trim := by
        rw [← shape]
      _ = ((front ++ trim cs).splitOn ',').map trim := map_trim_splitOn_back backBlank _
      _ = ((trim cs).splitOn ',').map trim := map_trim_splitOn_front frontBlank _
  rw [parts, parts, same]

/-- Blanks around a node selector mean nothing. -/
@[simp]
theorem parse_trimmed (text : String) : parse (trimmed text) = parse text := by
  rw [parse, toList_trimmed, parts_trim, parse]

end BrowserPods.NodeSelector
