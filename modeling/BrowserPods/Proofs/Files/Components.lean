import BrowserPods.Files.Path

/-!
# Segments and components of paths

The segments of a path are names that are not empty and hold no slash, and joining paths joins
their segments.  The components of a path are canonical: only the first one can be the root or a
dot, and writing canonical components down and reading them again gives them back.
-/

namespace BrowserPods.Path

open BrowserPods.Text

/-! ## Segments -/

theorem separator_not_mem_of_mem_splitOn {α : Type} [BEq α] [LawfulBEq α]
    {separator : α} {part : List α} (items : List α)
    (member : part ∈ items.splitOn separator) : separator ∉ part := by
  induction items generalizing part with
  | nil =>
      have empty : part = [] := by simpa using member
      simp [empty]
  | cons head tail inductionHypothesis =>
      rw [List.splitOn_cons_eq_if_modifyHead] at member
      by_cases atSeparator : head = separator
      · rw [if_pos (by simpa using atSeparator)] at member
        rcases List.mem_cons.mp member with first | later
        · simp [first]
        · exact inductionHypothesis later
      · rw [if_neg (by simpa using atSeparator)] at member
        cases split : tail.splitOn separator with
        | nil => exact absurd split (List.splitOn_ne_nil separator tail)
        | cons front rest =>
            rw [split, List.modifyHead_cons] at member
            rcases List.mem_cons.mp member with first | later
            · have frontMember : front ∈ tail.splitOn separator := by simp [split]
              have absent := inductionHypothesis frontMember
              rw [first]
              intro found
              rcases List.mem_cons.mp found with same | inside
              · exact atSeparator same.symm
              · exact absent inside
            · exact inductionHypothesis (by simp [split, later])

theorem slash_not_mem_of_mem_segments
    {path : Path} {segment : FileName} (member : segment ∈ path.segments) :
    slash ∉ segment :=
  separator_not_mem_of_mem_splitOn path (List.mem_filter.mp member).1

theorem ne_nil_of_mem_segments
    {path : Path} {segment : FileName} (member : segment ∈ path.segments) :
    segment ≠ [] := by
  have kept := (List.mem_filter.mp member).2
  simpa using kept

@[simp]
theorem segments_nil : segments [] = [] := rfl

theorem segments_append_slash (front back : Path) :
    segments (front ++ slash :: back) = segments front ++ segments back := by
  simp only [segments, List.splitOn_append_cons_self, List.filter_append]

/-- Names that are not empty and hold no slash are the segments of the path that they make up. -/
theorem segments_intercalate
    {names : List FileName} (nonempty : ∀ name ∈ names, name ≠ [])
    (unbroken : ∀ name ∈ names, slash ∉ name) :
    segments ([slash].intercalate names) = names := by
  by_cases none : names = []
  · simp [none, segments]
  · rw [segments, List.splitOn_intercalate slash unbroken none]
    apply List.filter_eq_self.mpr
    intro name member
    simpa using nonempty name member

theorem segments_join {base path : Path} (relative : path.isAbsolute = false) :
    (base.join path).segments = base.segments ++ path.segments := by
  unfold join
  rw [if_neg (by simp [relative])]
  by_cases ends : base.isEmpty || base.getLast? == some slash
  · rw [if_pos ends]
    rcases List.eq_nil_or_concat base with empty | ⟨front, last, shape⟩
    · simp [empty]
    · have closing : last = slash := by simpa [shape] using ends
      have split : base ++ path = front ++ slash :: path := by simp [shape, closing]
      have alone : base.segments = segments front := by
        rw [shape, closing, List.concat_eq_append, segments_append_slash]
        simp
      rw [split, segments_append_slash, alone]
  · rw [if_neg ends, segments_append_slash]

theorem join_ne_nil (base : Path) {path : Path} (nonempty : path ≠ []) : base.join path ≠ [] := by
  unfold join
  split
  · exact nonempty
  · split
    · simp [nonempty]
    · simp

theorem prefix_join {base path : Path} (relative : path.isAbsolute = false) :
    base <+: base.join path := by
  unfold join
  rw [if_neg (by simp [relative])]
  split
  · exact List.prefix_append _ _
  · exact List.prefix_append _ _

theorem isAbsolute_join {base path : Path} (nonempty : base ≠ [])
    (relative : path.isAbsolute = false) :
    (base.join path).isAbsolute = base.isAbsolute := by
  unfold join
  rw [if_neg (by simp [relative])]
  cases base with
  | nil => exact absurd rfl nonempty
  | cons head tail =>
      split
      · simp [isAbsolute]
      · simp [isAbsolute]

/-! ## Names and components -/

/-- What a segment is when it names an entry: neither empty nor a dot or two dots, and without a
slash. -/
structure IsName (name : FileName) : Prop where
  nonempty : name ≠ []
  unbroken : slash ∉ name
  notHere : name ≠ [dot]
  notUp : name ≠ [dot, dot]

instance (name : FileName) : Decidable (IsName name) :=
  decidable_of_iff (name ≠ [] ∧ slash ∉ name ∧ name ≠ [dot] ∧ name ≠ [dot, dot])
    ⟨fun ⟨nonempty, unbroken, notHere, notUp⟩ => ⟨nonempty, unbroken, notHere, notUp⟩,
      fun valid => ⟨valid.nonempty, valid.unbroken, valid.notHere, valid.notUp⟩⟩

/-- A path that begins with a name is relative. -/
theorem isAbsolute_intercalate {names : List FileName} (valid : ∀ name ∈ names, IsName name) :
    isAbsolute ([slash].intercalate names) = false := by
  cases names with
  | nil => rfl
  | cons first rest =>
      have isName := valid first (by simp)
      cases shape : first with
      | nil => exact absurd shape isName.nonempty
      | cons head tail =>
          have different : head ≠ slash := by
            rintro rfl
            exact isName.unbroken (by simp [shape])
          cases rest with
          | nil => simp [isAbsolute, different]
          | cons second others => simp [isAbsolute, different, List.intercalate_cons_cons]

namespace Component

/-- Whether a component can stand behind another one. -/
def IsInner : Component → Prop
  | .up => True
  | .entry name => IsName name
  | _ => False

theorem isInner_ofSegment
    {segment : FileName} (nonempty : segment ≠ []) (unbroken : slash ∉ segment)
    (notHere : segment ≠ [dot]) : (ofSegment segment).IsInner := by
  unfold ofSegment
  rw [if_neg notHere]
  by_cases goesUp : segment = [dot, dot]
  · rw [if_pos goesUp]
    trivial
  · rw [if_neg goesUp]
    exact ⟨nonempty, unbroken, notHere, goesUp⟩

theorem ofSegment_of_isName {name : FileName} (valid : IsName name) :
    ofSegment name = .entry name := by
  unfold ofSegment
  rw [if_neg valid.notHere, if_neg valid.notUp]

theorem segment_ofSegment (name : FileName) : (ofSegment name).segment = name := by
  unfold ofSegment
  by_cases atHere : name = [dot]
  · simp [atHere, segment]
  · by_cases goesUp : name = [dot, dot]
    · simp [goesUp, segment]
    · simp [atHere, goesUp, segment]

theorem ofSegment_segment {c : Component} (inner : c.IsInner) : ofSegment c.segment = c := by
  cases c with
  | root => exact False.elim inner
  | here => exact False.elim inner
  | up => rfl
  | entry name => exact ofSegment_of_isName inner

theorem isInner_of_mem_entries
    {names : List FileName} (valid : ∀ name ∈ names, IsName name) :
    ∀ c ∈ names.map entry, c.IsInner := by
  intro c member
  obtain ⟨name, listed, rfl⟩ := List.mem_map.mp member
  exact valid name listed

theorem ne_here_of_isInner {c : Component} (inner : c.IsInner) : c ≠ .here := by
  rintro rfl
  exact inner

theorem ne_root_of_isInner {c : Component} (inner : c.IsInner) : c ≠ .root := by
  rintro rfl
  exact inner

theorem segment_ne_nil {c : Component} (inner : c.IsInner ∨ c = .here) : c.segment ≠ [] := by
  rcases inner with inner | rfl
  · cases c with
    | root => exact False.elim inner
    | here => exact False.elim inner
    | up => simp [segment]
    | entry name => exact inner.nonempty
  · simp [segment]

theorem slash_not_mem_segment {c : Component} (inner : c.IsInner ∨ c = .here) :
    slash ∉ c.segment := by
  rcases inner with inner | rfl
  · cases c with
    | root => exact False.elim inner
    | here => exact False.elim inner
    | up => decide
    | entry name => exact inner.unbroken
  · decide

end Component

/-- Components as paths have them: the first one can be anything, and no later one is the root or a
dot. -/
def Canonical : List Component → Prop
  | [] => True
  | first :: rest =>
      (first.IsInner ∨ first = .here ∨ first = .root) ∧ ∀ c ∈ rest, c.IsInner

theorem canonical_of_isInner {parts : List Component} (inner : ∀ c ∈ parts, c.IsInner) :
    Canonical parts := by
  cases parts with
  | nil => trivial
  | cons first rest =>
      exact ⟨.inl (inner first (by simp)), fun c member => inner c (by simp [member])⟩

theorem Canonical.append
    {parts more : List Component} (canonical : Canonical parts)
    (inner : ∀ c ∈ more, c.IsInner) : Canonical (parts ++ more) := by
  cases parts with
  | nil => exact canonical_of_isInner inner
  | cons first rest =>
      refine ⟨canonical.1, fun c member => ?_⟩
      rcases List.mem_append.mp member with early | late
      · exact canonical.2 c early
      · exact inner c late

theorem Canonical.of_beginning
    {beginning parts : List Component} (canonical : Canonical parts)
    (initial : beginning <+: parts) : Canonical beginning := by
  obtain ⟨more, rfl⟩ := initial
  cases beginning with
  | nil => trivial
  | cons first rest =>
      exact ⟨canonical.1, fun c member => canonical.2 c (by simp [member])⟩

/-- What the components of a path begin with, besides those of its segments. -/
def lead (path : Path) : List Component :=
  if path.isAbsolute then [.root]
  else if path.segments.head? = some [dot] then [.here]
  else []

private theorem filter_map_ofSegment (segments : List FileName) :
    (segments.map Component.ofSegment).filter (· ≠ .here) =
      (segments.filter (· ≠ [dot])).map Component.ofSegment := by
  rw [List.filter_map]
  congr 1
  apply List.filter_congr
  intro segment _
  by_cases atHere : segment = [dot]
  · simp [atHere, Component.ofSegment]
  · by_cases goesUp : segment = [dot, dot]
    · simp [goesUp, Component.ofSegment]
    · simp [atHere, goesUp, Component.ofSegment]

/-- The components of a path are its lead and those of its segments other than dots. -/
theorem components_eq (path : Path) :
    path.components =
      path.lead ++ (path.segments.filter (· ≠ [dot])).map Component.ofSegment := by
  unfold components lead
  by_cases absolute : path.isAbsolute
  · rw [if_pos absolute, if_pos absolute, filter_map_ofSegment]
    rfl
  · rw [if_neg absolute, if_neg absolute]
    cases shape : path.segments with
    | nil => simp
    | cons first rest =>
        by_cases atHere : first = [dot]
        · simpa [atHere, Component.ofSegment] using filter_map_ofSegment rest
        · rw [if_neg (by simp [atHere]), ← filter_map_ofSegment]
          by_cases goesUp : first = [dot, dot]
          · simp [goesUp, Component.ofSegment]
          · simp [atHere, goesUp, Component.ofSegment]

theorem isInner_of_mem_segments
    {path : Path} {c : Component}
    (member : c ∈ (path.segments.filter (· ≠ [dot])).map Component.ofSegment) : c.IsInner := by
  obtain ⟨segment, kept, rfl⟩ := List.mem_map.mp member
  obtain ⟨listed, notHere⟩ := List.mem_filter.mp kept
  exact Component.isInner_ofSegment (ne_nil_of_mem_segments listed)
    (slash_not_mem_of_mem_segments listed) (by simpa using notHere)

theorem canonical_components (path : Path) : Canonical path.components := by
  rw [components_eq]
  refine Canonical.append ?_ fun c member => isInner_of_mem_segments member
  unfold lead
  split
  · simp [Canonical]
  · split
    · simp [Canonical]
    · trivial

theorem isName_of_mem_components
    {path : Path} {name : FileName} (member : .entry name ∈ path.components) : IsName name := by
  rw [components_eq] at member
  rcases List.mem_append.mp member with leading | inner
  · unfold lead at leading
    split at leading
    · simp at leading
    · split at leading <;> simp at leading
  · exact isInner_of_mem_segments inner

theorem isAbsolute_iff_head_components (path : Path) :
    path.isAbsolute ↔ path.components.head? = some .root := by
  rw [components_eq]
  unfold lead
  by_cases absolute : path.isAbsolute
  · simp [absolute]
  · rw [if_neg absolute]
    split
    · simp [absolute]
    · simp only [absolute, List.nil_append, false_iff, List.head?_map, Option.map_eq_some_iff,
        not_exists, not_and, Bool.false_eq_true]
      intro segment listed atRoot
      have member : segment ∈ path.segments.filter (· ≠ [dot]) := List.mem_of_head? listed
      have inner : (Component.ofSegment segment).IsInner :=
        isInner_of_mem_segments (List.mem_map.mpr ⟨segment, member, rfl⟩)
      exact Component.ne_root_of_isInner inner atRoot

/-- The components of a path other than the root, written down again. -/
theorem map_segment_components (path : Path) :
    (path.components.filter (· ≠ .root)).map Component.segment =
      (path.lead.filter (· ≠ .root)).map Component.segment ++
        path.segments.filter (· ≠ [dot]) := by
  have unrooted :
      ((path.segments.filter (· ≠ [dot])).map Component.ofSegment).filter (· ≠ .root) =
        (path.segments.filter (· ≠ [dot])).map Component.ofSegment :=
    List.filter_eq_self.mpr fun c member => by
      simpa using Component.ne_root_of_isInner (isInner_of_mem_segments member)
  rw [components_eq, List.filter_append, unrooted, List.map_append, List.map_map]
  congr 1
  calc
    (path.segments.filter (· ≠ [dot])).map (Component.segment ∘ Component.ofSegment) =
        (path.segments.filter (· ≠ [dot])).map id :=
      List.map_congr_left fun name _ => Component.segment_ofSegment name
    _ = path.segments.filter (· ≠ [dot]) := List.map_id _

/-- A path that does not begin at the root has a part at its beginning. -/
theorem segments_ne_nil {path : Path} (nonempty : path ≠ []) (relative : path.isAbsolute = false) :
    path.segments ≠ [] := by
  cases path with
  | nil => exact absurd rfl nonempty
  | cons head tail =>
      have different : head ≠ slash := by simpa [isAbsolute] using relative
      cases split : tail.splitOn slash with
      | nil => exact absurd split (List.splitOn_ne_nil slash tail)
      | cons front rest =>
          rw [segments, List.splitOn_cons_eq_if_modifyHead, if_neg (by simpa using different),
            split, List.modifyHead_cons, List.filter_cons_of_pos (by simp)]
          exact List.cons_ne_nil _ _

/-- The components of a path below another one stand behind those of the other one, without dots. -/
theorem components_join {base path : Path} (nonempty : base ≠ [])
    (relative : path.isAbsolute = false) :
    (base.join path).components =
      base.components ++ (path.segments.filter (· ≠ [dot])).map Component.ofSegment := by
  have joined : (base.join path).segments = base.segments ++ path.segments := segments_join relative
  have sameLead : (base.join path).lead = base.lead := by
    unfold lead
    rw [isAbsolute_join nonempty relative, joined]
    cases absolute : base.isAbsolute with
    | true => rfl
    | false =>
        cases shape : base.segments with
        | nil => exact absurd shape (segments_ne_nil nonempty absolute)
        | cons first rest => rfl
  rw [components_eq, sameLead, joined, List.filter_append, List.map_append, ← List.append_assoc,
    ← components_eq]

/-! ## Paths from components -/

theorem ofComponents_of_head_ne_root
    {parts : List Component} (relative : parts.head? ≠ some .root) :
    ofComponents parts = [slash].intercalate (parts.map Component.segment) := by
  cases parts with
  | nil => rfl
  | cons first rest =>
      cases first with
      | root => exact absurd rfl relative
      | here => rfl
      | up => rfl
      | entry name => rfl

theorem ofComponents_entries (names : List FileName) :
    ofComponents (names.map .entry) = [slash].intercalate names := by
  rw [ofComponents_of_head_ne_root (by cases names <;> simp), List.map_map]
  exact congrArg _ (List.map_id names)

private theorem writable_of_canonical
    {first : Component} {rest : List Component} (canonical : Canonical (first :: rest))
    (notRoot : first ≠ .root) :
    ∀ c ∈ first :: rest, c.IsInner ∨ c = .here := by
  intro c member
  rcases List.mem_cons.mp member with rfl | later
  · rcases canonical.1 with inner | here | root
    · exact .inl inner
    · exact .inr here
    · exact absurd root notRoot
  · exact .inl (canonical.2 c later)

private theorem segments_intercalate_segment
    {parts : List Component} (writable : ∀ c ∈ parts, c.IsInner ∨ c = .here) :
    segments ([slash].intercalate (parts.map Component.segment)) =
      parts.map Component.segment := by
  apply segments_intercalate
  · intro name member
    obtain ⟨c, listed, rfl⟩ := List.mem_map.mp member
    exact Component.segment_ne_nil (writable c listed)
  · intro name member
    obtain ⟨c, listed, rfl⟩ := List.mem_map.mp member
    exact Component.slash_not_mem_segment (writable c listed)

/-- The segments of a path that is written down from canonical components. -/
theorem segments_ofComponents {parts : List Component} (canonical : Canonical parts) :
    (ofComponents parts).segments = (parts.filter (· ≠ .root)).map Component.segment := by
  cases parts with
  | nil => rfl
  | cons first rest =>
      by_cases atRoot : first = .root
      · subst first
        have unrooted : rest.filter (· ≠ .root) = rest :=
          List.filter_eq_self.mpr fun c member => by
            simpa using Component.ne_root_of_isInner (canonical.2 c member)
        change segments ([] ++ slash :: [slash].intercalate (rest.map Component.segment)) = _
        rw [segments_append_slash,
          segments_intercalate_segment fun c member => .inl (canonical.2 c member)]
        simpa using congrArg (List.map Component.segment) unrooted.symm
      · have writable := writable_of_canonical canonical atRoot
        have unrooted : (first :: rest).filter (· ≠ .root) = first :: rest :=
          List.filter_eq_self.mpr fun c member => by
            rcases writable c member with inner | rfl
            · simpa using Component.ne_root_of_isInner inner
            · simp
        rw [ofComponents_of_head_ne_root (by simpa using atRoot), unrooted,
          segments_intercalate_segment writable]

theorem isAbsolute_ofComponents {parts : List Component} (canonical : Canonical parts) :
    (ofComponents parts).isAbsolute ↔ parts.head? = some .root := by
  cases parts with
  | nil => simp [ofComponents, isAbsolute, List.intercalate]
  | cons first rest =>
      by_cases atRoot : first = .root
      · simp [atRoot, ofComponents, isAbsolute]
      · have writable := writable_of_canonical canonical atRoot first (by simp)
        have nonempty := Component.segment_ne_nil writable
        have unbroken := Component.slash_not_mem_segment writable
        rw [ofComponents_of_head_ne_root (by simpa using atRoot)]
        cases shape : first.segment with
        | nil => exact absurd shape nonempty
        | cons head tail =>
            have different : head ≠ slash := by
              rintro rfl
              exact unbroken (by simp [shape])
            cases rest with
            | nil => simp [isAbsolute, shape, different, atRoot]
            | cons second others =>
                simp [isAbsolute, shape, different, atRoot, List.intercalate_cons_cons]

/-- A beginning of components is written down as what begins where they do. -/
theorem isAbsolute_ofComponents_of_prefix
    {parts beginning : List Component} (canonical : Canonical parts) (nonempty : beginning ≠ [])
    (initial : beginning <+: parts) :
    (ofComponents beginning).isAbsolute = (ofComponents parts).isAbsolute := by
  have heads : beginning.head? = parts.head? := by
    rw [List.head?_eq_some_head nonempty, List.head?_eq_some_head (initial.ne_nil nonempty),
      initial.head nonempty]
  rw [Bool.eq_iff_iff, isAbsolute_ofComponents (canonical.of_beginning initial),
    isAbsolute_ofComponents canonical, heads]

theorem components_ofComponents {parts : List Component} (canonical : Canonical parts) :
    (ofComponents parts).components = parts := by
  have reread : ∀ inner : List Component, (∀ c ∈ inner, c.IsInner) →
      ((inner.map Component.segment).filter (· ≠ [dot])).map Component.ofSegment = inner := by
    intro inner allInner
    have same : (inner.map Component.segment).map Component.ofSegment = inner := by
      rw [List.map_map]
      calc
        inner.map (Component.ofSegment ∘ Component.segment) = inner.map id :=
          List.map_congr_left fun c member => Component.ofSegment_segment (allInner c member)
        _ = inner := List.map_id inner
    rw [← filter_map_ofSegment, same]
    exact List.filter_eq_self.mpr fun c member => by
      simpa using Component.ne_here_of_isInner (allInner c member)
  have absolute := isAbsolute_ofComponents canonical
  have written := segments_ofComponents canonical
  rw [components_eq, lead, written]
  cases parts with
  | nil => simp [isAbsolute, ofComponents, List.intercalate]
  | cons first rest =>
      have restUnrooted : rest.filter (· ≠ .root) = rest :=
        List.filter_eq_self.mpr fun c member => by
          simpa using Component.ne_root_of_isInner (canonical.2 c member)
      rcases canonical.1 with inner | rfl | rfl
      · have notRoot := Component.ne_root_of_isInner inner
        have notHere : first.segment ≠ [dot] := by
          intro same
          have reader := Component.ofSegment_segment inner
          rw [same] at reader
          exact Component.ne_here_of_isInner inner
            (by simpa [Component.ofSegment] using reader.symm)
        have whole : (first :: rest).filter (· ≠ .root) = first :: rest := by
          rw [List.filter_cons_of_pos (by simpa using notRoot), restUnrooted]
        rw [if_neg (by simpa [absolute] using notRoot), whole, if_neg (by simpa using notHere),
          List.nil_append]
        exact reread (first :: rest) fun c member => by
          rcases List.mem_cons.mp member with rfl | later
          · exact inner
          · exact canonical.2 c later
      · have whole : (Component.here :: rest).filter (· ≠ .root) = .here :: rest := by
          rw [List.filter_cons_of_pos (by simp), restUnrooted]
        rw [if_neg (by simp [absolute]), whole, if_pos (by simp [Component.segment])]
        simpa [Component.segment] using reread rest canonical.2
      · have whole : (Component.root :: rest).filter (· ≠ .root) = rest := by
          rw [List.filter_cons_of_neg (by simp), restUnrooted]
        rw [if_pos (by simp [absolute]), whole]
        simpa using reread rest canonical.2

theorem components_ofComponents_dropLast (path : Path) :
    (ofComponents path.components.dropLast).components = path.components.dropLast :=
  components_ofComponents ((canonical_components path).of_beginning (List.dropLast_prefix _))

/-- Names below a path are components behind its own. -/
theorem components_join_names
    (base : Path) {names : List FileName} (valid : ∀ name ∈ names, IsName name) :
    (base.join ([slash].intercalate names)).components =
      base.components ++ names.map .entry := by
  by_cases empty : base = []
  · have alone : join [] ([slash].intercalate names) = ofComponents (names.map .entry) := by
      rw [ofComponents_entries]
      simp [join]
    rw [empty, alone,
      components_ofComponents (canonical_of_isInner (Component.isInner_of_mem_entries valid))]
    rfl
  · have kept : names.filter (· ≠ [dot]) = names :=
      List.filter_eq_self.mpr fun name member => by simpa using (valid name member).notHere
    have entries : names.map Component.ofSegment = names.map .entry :=
      List.map_congr_left fun name member => Component.ofSegment_of_isName (valid name member)
    rw [components_join empty (isAbsolute_intercalate valid),
      segments_intercalate (fun name member => (valid name member).nonempty)
        fun name member => (valid name member).unbroken, kept, entries]

theorem prefix_of_mem_properBeginnings
    {beginning parts : List Component} (member : beginning ∈ properBeginnings parts) :
    beginning <+: parts := by
  induction parts generalizing beginning with
  | nil => simp [properBeginnings] at member
  | cons first rest inductionHypothesis =>
      have extended : ∀ shorter ∈ properBeginnings rest, first :: shorter <+: first :: rest :=
        fun shorter listed => List.cons_prefix_cons.mpr ⟨rfl, inductionHypothesis listed⟩
      cases first with
      | root =>
          obtain ⟨shorter, listed, rfl⟩ := List.mem_map.mp member
          exact extended shorter listed
      | _ =>
          rcases List.mem_append.mp member with longer | empty
          · obtain ⟨shorter, listed, rfl⟩ := List.mem_map.mp longer
            exact extended shorter listed
          · rw [List.mem_singleton.mp empty]
            exact List.nil_prefix

end BrowserPods.Path
