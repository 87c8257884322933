import BrowserPods.Proofs.Files.Components
import BrowserPods.Proofs.Files.Written
import BrowserPods.Proofs.Text.Lossy
import Mathlib

/-!
# Paths as they are shown

A path that is shown to people and read as a path again has the same components, each of them as it
is shown itself (`Path.components_shown`).  Which of them are names does not change, nor where the
path begins.
-/

namespace BrowserPods.Path

open BrowserPods.Text

/-- A path as it is shown, read as a path again. -/
def shown (path : Path) : Path := ofText path.display

theorem shown_ofText (text : String) : (ofText text).shown = ofText text := by
  rw [shown, display_ofText]

variable {path : Path} {name : FileName}

theorem shown_append_slash (front back : Path) :
    (front ++ slash :: back).shown = front.shown ++ slash :: back.shown := by
  have pieces := Utf8.decodeLossy_append_cons (b := slash) (by decide) front back
  rw [shown, display, pieces, ofText_append, ofText_append, List.append_assoc]
  rfl

@[simp]
theorem shown_eq_nil_iff : path.shown = [] ↔ path = [] := by
  have empty : ofText path.display = ofText "" ↔ path.display = "" := ofText_injective.eq_iff
  exact empty.trans (Utf8.decodeLossy_eq_empty_iff path)

theorem slash_mem_of_mem_shown (member : slash ∈ path.shown) : slash ∈ path := by
  have character : '/' ∈ path.display.toList := slash_mem_ofText.mp member
  have bytes := Utf8.infix_of_mem_scan (Utf8.mem_decodeLossy (by decide) character)
  exact bytes.subset (slash_mem_encodeChar.mpr rfl)

/-- A text without replacement characters is shown by its own bytes only. -/
theorem shown_eq_ofText_iff (text : String) (whole : '\uFFFD' ∉ text.toList) :
    path.shown = ofText text ↔ path = ofText text := by
  constructor
  · intro same
    have sameText : path.display = text := ofText_injective same
    rw [← sameText, ofText, display]
    refine (Utf8.encode_of_decodeLossy ?_).symm
    rw [← display, sameText]
    exact whole
  · rintro rfl
    exact shown_ofText text

theorem shown_eq_here_iff : path.shown = [dot] ↔ path = [dot] :=
  shown_eq_ofText_iff "." (by decide)

theorem shown_eq_up_iff : path.shown = [dot, dot] ↔ path = [dot, dot] :=
  shown_eq_ofText_iff ".." (by decide)

/-! ## Components -/

theorem shown_intercalate (parts : List FileName) :
    shown ([slash].intercalate parts) = [slash].intercalate (parts.map shown) := by
  induction parts with
  | nil => simp
  | cons first others inductionHypothesis =>
      cases others with
      | nil => simp
      | cons second more =>
          rw [List.intercalate_cons_cons, List.append_assoc, List.singleton_append,
            shown_append_slash, inductionHypothesis, List.map_cons, List.map_cons, List.map_cons,
            List.intercalate_cons_cons, List.append_assoc, List.singleton_append]

theorem splitOn_shown (path : Path) :
    path.shown.splitOn slash = (path.splitOn slash).map shown := by
  have unbroken : ∀ part ∈ (path.splitOn slash).map shown, slash ∉ part := by
    intro part member found
    obtain ⟨original, listed, rfl⟩ := List.mem_map.mp member
    exact separator_not_mem_of_mem_splitOn path listed (slash_mem_of_mem_shown found)
  have nonempty : (path.splitOn slash).map shown ≠ [] := by simp
  have whole : path.shown = [slash].intercalate ((path.splitOn slash).map shown) := by
    rw [← shown_intercalate, List.intercalate_splitOn]
  rw [whole, List.splitOn_intercalate slash unbroken nonempty]

theorem segments_shown (path : Path) : path.shown.segments = path.segments.map shown := by
  rw [segments, splitOn_shown, List.filter_map, segments]
  congr 1
  refine List.filter_congr fun part _ => ?_
  rw [Function.comp_apply, Bool.eq_iff_iff]
  simp

theorem isAbsolute_shown (path : Path) : path.shown.isAbsolute = path.isAbsolute := by
  rw [shown, isAbsolute_ofText, Bool.eq_iff_iff, decide_eq_true_eq, isAbsolute, beq_iff_eq]
  constructor
  · intro begins
    obtain ⟨others, shape⟩ := List.head?_eq_some_iff.mp begins
    obtain ⟨more, rfl, _⟩ := Utf8.exists_of_decodeLossy_cons (by decide) shape
    rfl
  · intro begins
    obtain ⟨others, rfl⟩ := List.head?_eq_some_iff.mp begins
    have pieces := Utf8.decodeLossy_append_cons (b := slash) (by decide) [] others
    rw [List.nil_append] at pieces
    rw [display, pieces, (Utf8.decodeLossy_eq_empty_iff []).mpr rfl]
    simp
    rfl

def Component.shown : Component → Component
  | .entry name => .entry (Path.shown name)
  | other => other

theorem Component.ofSegment_shown (name : FileName) :
    ofSegment (Path.shown name) = (ofSegment name).shown := by
  simp only [ofSegment, shown_eq_here_iff, shown_eq_up_iff]
  by_cases atHere : name = [dot]
  · rw [if_pos atHere, if_pos atHere]
    rfl
  · rw [if_neg atHere, if_neg atHere]
    by_cases goesUp : name = [dot, dot]
    · rw [if_pos goesUp, if_pos goesUp]
      rfl
    · rw [if_neg goesUp, if_neg goesUp]
      rfl

theorem lead_shown (path : Path) : path.shown.lead = path.lead.map Component.shown := by
  have sameHead : path.shown.segments.head? = some [dot] ↔ path.segments.head? = some [dot] := by
    rw [segments_shown, List.head?_map, Option.map_eq_some_iff]
    simp [shown_eq_here_iff]
  simp only [lead, isAbsolute_shown, sameHead]
  split
  · rfl
  · split <;> rfl

/-- The components of a path as it is shown are its components as they are shown. -/
theorem components_shown (path : Path) :
    path.shown.components = path.components.map Component.shown := by
  have kept : (path.segments.map shown).filter (· ≠ [dot]) =
      (path.segments.filter (· ≠ [dot])).map shown := by
    rw [List.filter_map]
    congr 1
    refine List.filter_congr fun part _ => ?_
    simp [shown_eq_here_iff]
  rw [components_eq, components_eq, segments_shown, kept, lead_shown, List.map_append,
    List.map_map, List.map_map]
  congr 1
  exact List.map_congr_left fun name _ => Component.ofSegment_shown name

end BrowserPods.Path
