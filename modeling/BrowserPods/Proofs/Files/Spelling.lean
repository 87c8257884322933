import BrowserPods.Proofs.Files.Components
import Mathlib

/-!
# Spellings of a place

A path leads to a place or below it if its components begin with those of the place.  As a text it
then begins with the names of the place, but each behind any slashes and dots
(`Path.prefix_components_iff`).  So one place has many spellings, and a text that begins with one of
them may go on in the middle of a name.
-/

namespace BrowserPods.Path

/-- What can stand in front of a name: slashes, with dots between them or not. -/
inductive IsGap : Path → Prop
  | single : IsGap [slash]
  | double {gap : Path} (isGap : IsGap gap) : IsGap (slash :: gap)
  | here {gap : Path} (isGap : IsGap gap) : IsGap (slash :: dot :: gap)

/-- Whether a path begins with names, each behind a gap, and does not go on in the last one. -/
inductive Spells : List FileName → Path → Prop
  | nil {rest : Path} (ends : rest = [] ∨ rest.isAbsolute) : Spells [] rest
  | cons {gap name rest : Path} {names : List FileName} (isGap : IsGap gap)
      (others : Spells names rest) : Spells (name :: names) (gap ++ (name ++ rest))

/-- Whether a path spells names with a gap that is more than one slash. -/
inductive Respells : List FileName → Path → Prop
  | here {gap name rest : Path} {names : List FileName} (isGap : IsGap gap) (more : gap ≠ [slash])
      (others : Spells names rest) : Respells (name :: names) (gap ++ (name ++ rest))
  | later {name rest : Path} {names : List FileName} (others : Respells names rest) :
      Respells (name :: names) (slash :: (name ++ rest))

def along (names : List FileName) : Path := names.flatMap (slash :: ·)

def steps (path : Path) : List FileName := path.segments.filter (· ≠ [dot])

/-! ## Steps -/

variable {gap name rest path : Path} {names : List FileName}

theorem steps_nil : steps [] = [] := rfl

theorem steps_slash (rest : Path) : steps (slash :: rest) = steps rest := by
  have split : segments (slash :: rest) = segments rest := segments_append_slash [] rest
  rw [steps, split, steps]

theorem IsGap.exists_slash (isGap : IsGap gap) : ∃ others, gap = slash :: others := by
  cases isGap with
  | single => exact ⟨[], rfl⟩
  | double _ => exact ⟨_, rfl⟩
  | here _ => exact ⟨_, rfl⟩

theorem steps_here (rest : Path) : steps (dot :: slash :: rest) = steps rest := by
  have split : segments (dot :: slash :: rest) = segments [dot] ++ segments rest :=
    segments_append_slash [dot] rest
  rw [steps, split, List.filter_append]
  rfl

theorem steps_gap_append (isGap : IsGap gap) (rest : Path) : steps (gap ++ rest) = steps rest := by
  induction isGap with
  | single => exact steps_slash rest
  | double _ inductionHypothesis =>
      rw [List.cons_append, steps_slash, inductionHypothesis]
  | here isGap inductionHypothesis =>
      obtain ⟨others, rfl⟩ := isGap.exists_slash
      rw [List.cons_append, List.cons_append, List.cons_append, steps_slash, steps_here,
        ← inductionHypothesis, List.cons_append, steps_slash]

theorem steps_name_append (nonempty : name ≠ []) (unbroken : slash ∉ name) (notHere : name ≠ [dot])
    (ends : rest = [] ∨ rest.isAbsolute) : steps (name ++ rest) = name :: steps rest := by
  have alone : segments name = [name] := by
    rw [segments, List.splitOn_eq_singleton unbroken]
    simp [nonempty]
  have kept : steps name = [name] := by
    rw [steps, alone]
    simp [notHere]
  rcases ends with rfl | absolute
  · rw [List.append_nil, kept, steps_nil]
  · obtain ⟨others, rfl⟩ := List.head?_eq_some_iff.mp (by simpa [isAbsolute] using absolute)
    rw [steps, segments_append_slash, List.filter_append, ← steps, ← steps, kept, steps_slash]
    rfl

theorem Spells.ends (spells : Spells names path) : path = [] ∨ path.isAbsolute := by
  cases spells with
  | nil ends => exact ends
  | cons isGap _ =>
      obtain ⟨others, rfl⟩ := isGap.exists_slash
      exact .inr rfl

theorem Spells.prefix_steps (valid : ∀ name ∈ names, IsName name) (spells : Spells names path) :
    names <+: path.steps := by
  induction spells with
  | nil _ => exact List.nil_prefix
  | cons isGap others inductionHypothesis =>
      obtain ⟨isName, later⟩ := List.forall_mem_cons.mp valid
      rw [steps_gap_append isGap, steps_name_append isName.nonempty isName.unbroken isName.notHere
        others.ends]
      exact List.cons_prefix_cons.mpr ⟨rfl, inductionHypothesis later⟩

/-- The first step of an absolute path stands behind a gap. -/
theorem exists_gap {others : List FileName} (absolute : path.isAbsolute)
    (shape : path.steps = name :: others) :
    ∃ gap rest, IsGap gap ∧ path = gap ++ (name ++ rest) ∧ (rest = [] ∨ rest.isAbsolute) ∧
      rest.steps = others := by
  induction length : path.length using Nat.strong_induction_on generalizing path with
  | _ n inductionHypothesis =>
      obtain ⟨tail, rfl⟩ := List.head?_eq_some_iff.mp (by simpa [isAbsolute] using absolute)
      rw [steps_slash] at shape
      -- What stands behind the slash up to the next one is nothing, a dot or the first step.
      obtain ⟨front, after, unbroken, ends, rfl⟩ : ∃ front after : Path, slash ∉ front ∧
          (after = [] ∨ after.isAbsolute) ∧ tail = front ++ after := by
        by_cases more : slash ∈ tail
        · obtain ⟨front, back, rfl, unbroken⟩ := List.eq_append_cons_of_mem more
          exact ⟨front, slash :: back, unbroken, .inr rfl, rfl⟩
        · exact ⟨tail, [], more, .inl rfl, (List.append_nil tail).symm⟩
      by_cases nothing : front = []
      · subst front
        rcases ends with rfl | absoluteAfter
        · cases shape
        · obtain ⟨gap, rest, isGap, rfl, result⟩ := inductionHypothesis after.length
            (by rw [← length]; simp) absoluteAfter shape rfl
          exact ⟨slash :: gap, rest, isGap.double, rfl, result⟩
      · by_cases atHere : front = [dot]
        · subst front
          rcases ends with rfl | absoluteAfter
          · cases shape
          · obtain ⟨back, rfl⟩ :=
              List.head?_eq_some_iff.mp (by simpa [isAbsolute] using absoluteAfter)
            rw [List.singleton_append, steps_here, ← steps_slash] at shape
            obtain ⟨gap, rest, isGap, whole, result⟩ := inductionHypothesis (slash :: back).length
              (by rw [← length]; simp) absoluteAfter shape rfl
            refine ⟨slash :: dot :: gap, rest, isGap.here, ?_, result⟩
            rw [whole]
            rfl
        · rw [steps_name_append nothing unbroken atHere ends] at shape
          obtain ⟨rfl, rfl⟩ := List.cons.inj shape
          exact ⟨[slash], after, .single, rfl, ends, rfl⟩

theorem spells_of_prefix_steps (ends : path = [] ∨ path.isAbsolute)
    (initial : names <+: path.steps) :
    Spells names path := by
  induction names generalizing path with
  | nil => exact .nil ends
  | cons name others inductionHypothesis =>
      obtain ⟨more, shape⟩ := initial
      rcases ends with rfl | absolute
      · cases shape
      · obtain ⟨gap, rest, isGap, rfl, restEnds, restSteps⟩ := exists_gap absolute shape.symm
        exact .cons isGap
          (inductionHypothesis restEnds (restSteps ▸ List.prefix_append others more))

theorem spells_iff (valid : ∀ name ∈ names, IsName name) :
    Spells names path ↔ (path = [] ∨ path.isAbsolute) ∧ names <+: path.steps :=
  ⟨fun spells => ⟨spells.ends, spells.prefix_steps valid⟩,
    fun ⟨ends, initial⟩ => spells_of_prefix_steps ends initial⟩

/-- The components of a path begin with those of a place just if the path spells its names. -/
theorem prefix_components_iff (valid : ∀ name ∈ names, IsName name) (nonempty : names ≠ []) :
    .root :: names.map .entry <+: path.components ↔ Spells names path := by
  have entries : names.map .entry = names.map Component.ofSegment :=
    List.map_congr_left fun name member => (Component.ofSegment_of_isName (valid name member)).symm
  have read (parts : List FileName) :
      (parts.map Component.ofSegment).map Component.segment = parts := by
    rw [List.map_map]
    exact (List.map_congr_left fun name _ => Component.segment_ofSegment name).trans
      (List.map_id parts)
  rw [spells_iff valid]
  by_cases absolute : path.isAbsolute
  · have shape : path.components = .root :: path.steps.map Component.ofSegment := by
      rw [components_eq, lead, if_pos absolute]
      rfl
    rw [shape, List.cons_prefix_cons, entries]
    constructor
    · rintro ⟨_, initial⟩
      have steps := initial.map Component.segment
      rw [read, read] at steps
      exact ⟨.inr absolute, steps⟩
    · rintro ⟨_, initial⟩
      exact ⟨rfl, initial.map _⟩
  · constructor
    · rintro ⟨more, shape⟩
      refine absurd ((isAbsolute_iff_head_components path).mpr ?_) absolute
      rw [← shape]
      rfl
    · rintro ⟨rfl | rooted, initial⟩
      · exact absurd (List.prefix_nil.mp initial) nonempty
      · exact absurd rooted absolute

/-! ## Beginnings of texts -/

theorem spells_cons_iff :
    Spells (name :: names) path ↔
      ∃ gap rest, IsGap gap ∧ path = gap ++ (name ++ rest) ∧ Spells names rest := by
  constructor
  · intro spells
    cases spells with
    | cons isGap others => exact ⟨_, _, isGap, rfl, others⟩
  · rintro ⟨gap, rest, isGap, rfl, others⟩
    exact .cons isGap others

theorem along_cons_append (name : FileName) (names : List FileName) (rest : Path) :
    along (name :: names) ++ rest = slash :: (name ++ (along names ++ rest)) := by
  rw [along, List.flatMap_cons, List.cons_append, List.cons_append, List.append_assoc, along]

theorem append_ne_slash_cons {front : Path} (nonempty : front ≠ []) (unbroken : slash ∉ front)
    (back rest : Path) : front ++ back ≠ slash :: rest := by
  intro same
  cases front with
  | nil => exact nonempty rfl
  | cons head letters =>
      apply unbroken
      rw [(List.cons.inj same).1]
      exact List.mem_cons_self

/-- More than a slash in front of a name shows in the text. -/
theorem gap_append_ne (isGap : IsGap gap) (more : gap ≠ [slash]) (isName : IsName name)
    (back rest : Path) : gap ++ back ≠ slash :: (name ++ rest) := by
  intro same
  cases isGap with
  | single => exact more rfl
  | double isGap =>
      obtain ⟨others, rfl⟩ := isGap.exists_slash
      exact append_ne_slash_cons isName.nonempty isName.unbroken _ _ (List.cons.inj same).2.symm
  | here isGap =>
      obtain ⟨others, rfl⟩ := isGap.exists_slash
      -- The name would have to begin with the dot, and to end with it.
      cases shape : name with
      | nil => exact isName.nonempty shape
      | cons head letters =>
          rw [shape] at same isName
          obtain ⟨rfl, later⟩ := List.cons.inj (List.cons.inj same).2
          refine append_ne_slash_cons ?_ ?_ _ _ later.symm
          · rintro rfl
            exact isName.notHere rfl
          · exact fun inside => isName.unbroken (List.mem_cons_of_mem _ inside)

theorem spells_along_append (ends : rest = [] ∨ rest.isAbsolute) :
    Spells names (along names ++ rest) := by
  induction names with
  | nil => exact .nil ends
  | cons name names inductionHypothesis =>
      rw [along_cons_append]
      exact .cons .single inductionHypothesis

theorem not_spells_along_append (valid : ∀ name ∈ names, IsName name) {b : UInt8}
    (goesOn : b ≠ slash) (rest : Path) : ¬ Spells names (along names ++ b :: rest) := by
  induction names with
  | nil =>
      intro spells
      rcases spells.ends with empty | absolute
      · cases empty
      · exact goesOn (by simpa [isAbsolute, along] using absolute)
  | cons name names inductionHypothesis =>
      obtain ⟨isName, later⟩ := List.forall_mem_cons.mp valid
      intro spells
      rw [along_cons_append, spells_cons_iff] at spells
      obtain ⟨gap, back, isGap, shape, others⟩ := spells
      by_cases plain : gap = [slash]
      · rw [plain, List.singleton_append, List.cons_inj_right, List.append_cancel_left_eq] at shape
        exact inductionHypothesis later (shape ▸ others)
      · exact gap_append_ne isGap plain isName _ _ shape.symm

theorem Respells.spells (respells : Respells names path) : Spells names path := by
  induction respells with
  | here isGap _ others => exact .cons isGap others
  | later _ inductionHypothesis => exact .cons .single inductionHypothesis

theorem Respells.not_along_prefix (valid : ∀ name ∈ names, IsName name)
    (respells : Respells names path) : ¬ along names <+: path := by
  induction respells with
  | here isGap more _ =>
      rintro ⟨rest, shape⟩
      rw [along_cons_append] at shape
      exact gap_append_ne isGap more (valid _ List.mem_cons_self) _ _ shape.symm
  | later _ inductionHypothesis =>
      rintro ⟨rest, shape⟩
      rw [along_cons_append, List.cons_inj_right, List.append_cancel_left_eq] at shape
      exact inductionHypothesis (List.forall_mem_cons.mp valid).2 ⟨rest, shape⟩

/-- A path leads to a place without beginning with its text just if it spells it otherwise. -/
theorem spells_and_not_along_prefix_iff (valid : ∀ name ∈ names, IsName name) :
    Spells names path ∧ ¬ along names <+: path ↔ Respells names path := by
  constructor
  · rintro ⟨spells, different⟩
    induction spells with
    | nil _ => exact absurd List.nil_prefix different
    | @cons gap name rest names isGap others inductionHypothesis =>
        by_cases plain : gap = [slash]
        · subst gap
          refine .later (inductionHypothesis (List.forall_mem_cons.mp valid).2 ?_)
          rintro ⟨more, rfl⟩
          exact different ⟨more, along_cons_append name names more⟩
        · exact .here isGap plain others
  · intro respells
    exact ⟨respells.spells, respells.not_along_prefix valid⟩

/-- Places with different first names keep their paths apart. -/
theorem eq_of_spells_of_along_prefix {other next : FileName} {others : List FileName}
    (isName : IsName name) (otherIsName : IsName other) (spells : Spells (name :: names) path)
    (initial : along (other :: next :: others) <+: path) : name = other := by
  obtain ⟨rest, rfl⟩ := initial
  obtain ⟨gap, back, isGap, shape, later⟩ := spells_cons_iff.mp spells
  have first : (along (other :: next :: others) ++ rest).steps = name :: back.steps := by
    rw [shape, steps_gap_append isGap,
      steps_name_append isName.nonempty isName.unbroken isName.notHere later.ends]
  rw [along_cons_append, steps_slash, along_cons_append,
    steps_name_append otherIsName.nonempty otherIsName.unbroken otherIsName.notHere
      (.inr rfl)] at first
  exact (List.cons.inj first).1.symm

end BrowserPods.Path
