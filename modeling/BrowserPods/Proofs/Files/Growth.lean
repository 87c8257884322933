import BrowserPods.Proofs.Files.Walk

/-!
# Trees that grow below a directory

`FileTree.GrowsBelow top before after`: the tree differs only below `top`, all that is new there is
a file or a directory, and directories stay.  Creating directories and writing files grow a tree
below a directory if their paths lead through it and there are no links below it.  Creating them on
a path that leads along some names (`FileTree.LeadsAlong`) puts nothing into the tree but
directories at beginnings of these names (`FileTree.OpensWay`).
-/

namespace BrowserPods

open BrowserPods.Text

def FileNode.IsPlain : FileNode → Prop
  | .file _ => True
  | .directory => True
  | .link _ => False

namespace FileTree

def NoLinksBelow (tree : FileTree) (top : Place) : Prop :=
  ∀ place, Below top place → ∀ aim, tree.node? place ≠ some (.link aim)

/-- Whether each file below a place is at one place only. -/
def NoHardLinksBelow (tree : FileTree) (top : Place) : Prop :=
  ∀ place, Below top place → tree.placesOfFile place = [place]

/-- What may happen to a tree below a directory: entries that are files or directories come or
change, and nothing else differs. -/
structure GrowsBelow (top : Place) (before after : FileTree) : Prop where
  workingDirectory : after.workingDirectory = before.workingDirectory
  hardLinks : after.hardLinks = before.hardLinks
  outside : ∀ place, ¬ Below top place → after.node? place = before.node? place
  plain : ∀ place node, after.node? place = some node →
    before.node? place = some node ∨ node.IsPlain
  directories : ∀ place, before.node? place = some .directory →
    after.node? place = some .directory

namespace GrowsBelow

variable {top : Place} {before between after : FileTree}

theorem refl (top : Place) (tree : FileTree) : GrowsBelow top tree tree where
  workingDirectory := rfl
  hardLinks := rfl
  outside _ _ := rfl
  plain _ _ found := .inl found
  directories _ found := found

theorem trans (first : GrowsBelow top before between) (second : GrowsBelow top between after) :
    GrowsBelow top before after where
  workingDirectory := second.workingDirectory.trans first.workingDirectory
  hardLinks := second.hardLinks.trans first.hardLinks
  outside place away := (second.outside place away).trans (first.outside place away)
  plain place node found := by
    rcases second.plain place node found with kept | new
    · exact first.plain place node kept
    · exact .inr new
  directories place found := second.directories place (first.directories place found)

theorem put
    {place : Place} {node : FileNode} (below : Below top place) (isPlain : node.IsPlain)
    (noDirectory : before.node? place ≠ some .directory) :
    GrowsBelow top before (before.put place node) where
  workingDirectory := rfl
  hardLinks := rfl
  outside other away := by
    refine node?_put_of_ne before node ?_
    rintro rfl
    exact away below
  plain other found equal := by
    by_cases same : other = place
    · subst other
      rw [node?_put_self before node below.ne_root] at equal
      cases equal
      exact .inr isPlain
    · rw [node?_put_of_ne before node same] at equal
      exact .inl equal
  directories other found := by
    have different : other ≠ place := by
      rintro rfl
      exact noDirectory found
    rw [node?_put_of_ne before node different]
    exact found

theorem noLinksBelow (growth : GrowsBelow top before after) (noLinks : before.NoLinksBelow top) :
    after.NoLinksBelow top := by
  intro place below aim found
  rcases growth.plain place _ found with old | new
  · exact noLinks place below aim old
  · exact new

theorem noHardLinksBelow
    (growth : GrowsBelow top before after) (single : before.NoHardLinksBelow top) :
    after.NoHardLinksBelow top := by
  intro place below
  unfold placesOfFile
  rw [growth.hardLinks]
  exact single place below

/-- Ways to the directory and to what lies outside it stay. -/
theorem way
    (growth : GrowsBelow top before after) (noLinks : before.NoLinksBelow top)
    {budget left : Nat} {place goal : Place} {segments : List FileName}
    (old : Way before budget place segments left goal) :
    Way after budget place segments left goal := by
  refine old.of_persistent growth.directories ?_
  intro other aim found
  have away : ¬ Below top other := fun below => noLinks other below aim found
  rw [growth.outside other away]
  exact found

end GrowsBelow

/-- What happens to a tree when the way along some names is opened: directories come at beginnings
of the names, and everything else stays. -/
structure OpensWay (top : Place) (names : List FileName) (before after : FileTree) : Prop where
  workingDirectory : after.workingDirectory = before.workingDirectory
  hardLinks : after.hardLinks = before.hardLinks
  kept : ∀ place node, before.node? place = some node → after.node? place = some node
  gained : ∀ place node, after.node? place = some node →
    before.node? place = some node ∨
      node = .directory ∧ ∃ part, part ≠ [] ∧ part <+: names ∧ place = top ++ part

namespace OpensWay

variable {top : Place} {names : List FileName} {before between after : FileTree}

theorem refl (top : Place) (names : List FileName) (tree : FileTree) :
    OpensWay top names tree tree where
  workingDirectory := rfl
  hardLinks := rfl
  kept _ _ found := found
  gained _ _ found := .inl found

theorem trans (first : OpensWay top names before between)
    (second : OpensWay top names between after) :
    OpensWay top names before after where
  workingDirectory := second.workingDirectory.trans first.workingDirectory
  hardLinks := second.hardLinks.trans first.hardLinks
  kept place node found := second.kept place node (first.kept place node found)
  gained place node found := by
    rcases second.gained place node found with old | new
    · exact first.gained place node old
    · exact .inr new

theorem put {part : List FileName} (nonempty : part ≠ []) (initial : part <+: names)
    (free : before.node? (top ++ part) = none) :
    OpensWay top names before (before.put (top ++ part) .directory) where
  workingDirectory := rfl
  hardLinks := rfl
  kept _ _ found := node?_put_of_free free .directory found
  gained place node found := by
    by_cases same : place = top ++ part
    · rw [same, node?_put_self before .directory (below_append nonempty).ne_root] at found
      cases found
      exact .inr ⟨rfl, part, nonempty, initial, same⟩
    · rw [node?_put_of_ne before .directory same] at found
      exact .inl found

theorem growsBelow (opens : OpensWay top names before after) : GrowsBelow top before after where
  workingDirectory := opens.workingDirectory
  hardLinks := opens.hardLinks
  outside place away := by
    cases found : after.node? place with
    | none =>
        cases old : before.node? place with
        | none => rfl
        | some node => cases found.symm.trans (opens.kept place node old)
    | some node =>
        rcases opens.gained place node found with old | ⟨_, part, nonempty, _, rfl⟩
        · exact old.symm
        · exact absurd (below_append nonempty) away
  plain place node found := by
    rcases opens.gained place node found with old | ⟨rfl, _⟩
    · exact .inl old
    · exact .inr trivial
  directories place := opens.kept place .directory

end OpensWay

/-! ## Paths through a directory -/

/-- Whether the segments of a path lead to a directory and on by some names, or not as far. -/
def LeadsAlong (tree : FileTree) (top : Place) (names : List FileName) (path : Path) : Prop :=
  ∃ segments left,
    Way tree linkLimit (start tree.workingDirectory path) segments left top ∧
      path.segments <+: segments ++ names

theorem LeadsAlong.of_growsBelow
    {top : Place} {names : List FileName} {before after : FileTree} {path : Path}
    (route : LeadsAlong before top names path) (growth : GrowsBelow top before after)
    (noLinks : before.NoLinksBelow top) : LeadsAlong after top names path := by
  obtain ⟨segments, left, way, initial⟩ := route
  refine ⟨segments, left, ?_, initial⟩
  rw [growth.workingDirectory]
  exact growth.way noLinks way

/-- The components of a directory, written down again, lead to it. -/
private theorem way_of_components
    {tree : FileTree} {budget left : Nat} {place top : Place} {dir : Path}
    (way : Way tree budget place dir.segments left top) :
    Way tree budget place ((dir.components.filter (· ≠ .root)).map Path.Component.segment)
      left top := by
  have dotless := Way.filter_dots [] dir.segments way
  rw [Path.map_segment_components]
  unfold Path.lead
  split
  · simpa using dotless
  · split
    · rename_i atHere
      cases shape : dir.segments with
      | nil => simp [shape] at atHere
      | cons first rest =>
          have dotted : first = [Path.dot] := by simpa [shape] using atHere
          rw [shape] at way
          rw [dotted] at way ⊢
          simpa [Path.Component.segment] using Way.filter_dots [[Path.dot]] rest way
    · simpa using dotless

/-- What begins the components of a directory with names behind them leads along the names. -/
theorem leadsAlong_ofComponents
    {tree : FileTree} {top : Place} {dir : Path} {names : List FileName} {left : Nat}
    {beginning : List Path.Component}
    (way : Way tree linkLimit (start tree.workingDirectory dir) dir.segments left top)
    (valid : ∀ name ∈ names, Path.IsName name) (nonempty : beginning ≠ [])
    (initial : beginning <+: dir.components ++ names.map .entry) :
    LeadsAlong tree top names (Path.ofComponents beginning) := by
  have inner := Path.Component.isInner_of_mem_entries valid
  have canonical := (Path.canonical_components dir).append inner
  have sameStart : start tree.workingDirectory (Path.ofComponents beginning) =
      start tree.workingDirectory dir := by
    have sameHead : (dir.components ++ names.map Path.Component.entry).head? = some .root ↔
        dir.components.head? = some .root := by
      cases dir.components with
      | nil => cases names <;> simp
      | cons first rest => simp
    have same : (Path.ofComponents beginning).isAbsolute = dir.isAbsolute := by
      rw [Path.isAbsolute_ofComponents_of_prefix canonical nonempty initial, Bool.eq_iff_iff,
        Path.isAbsolute_ofComponents canonical, sameHead, ← Path.isAbsolute_iff_head_components]
    unfold start
    rw [same]
  refine ⟨(dir.components.filter (· ≠ .root)).map Path.Component.segment, left, ?_, ?_⟩
  · rw [sameStart]
    exact way_of_components way
  · have unrooted : (names.map Path.Component.entry).filter (· ≠ .root) = names.map .entry :=
      List.filter_eq_self.mpr fun c member => by
        simpa using Path.Component.ne_root_of_isInner (inner c member)
    have spelled : (names.map Path.Component.entry).map Path.Component.segment = names := by
      rw [List.map_map]
      exact List.map_id names
    have shorter := (initial.filter (· ≠ .root)).map Path.Component.segment
    rw [List.filter_append, unrooted, List.map_append, spelled] at shorter
    rw [Path.segments_ofComponents (canonical.of_beginning initial)]
    exact shorter

structure Resolvable (path : Path) : Prop where
  nonempty : path ≠ []
  noZero : 0 ∉ path
  short : path.length ≤ pathLimit

theorem Resolvable.of_beginning
    {path front : Path} (resolvable : Resolvable path) (initial : front <+: path)
    (nonempty : front ≠ []) : Resolvable front where
  nonempty := nonempty
  noZero := fun member => resolvable.noZero (initial.subset member)
  short := Nat.le_trans initial.length_le resolvable.short

theorem Resolvable.resolve_eq
    {tree : FileTree} {path : Path} (resolvable : Resolvable path) (follow : Bool) :
    tree.resolve follow path =
      tree.walk follow linkLimit (start tree.workingDirectory path) path.segments := by
  rw [resolve, if_neg (by simpa using resolvable.noZero),
    if_neg (by simpa using resolvable.nonempty), if_neg (Nat.not_lt.mpr resolvable.short)]

theorem resolvable_of_resolve
    {tree : FileTree} {follow : Bool} {path : Path} {target : Target}
    (resolved : tree.resolve follow path = .ok target) : Resolvable path := by
  unfold resolve at resolved
  split at resolved
  · cases resolved
  · rename_i noZero
    split at resolved
    · cases resolved
    · rename_i nonempty
      split at resolved
      · cases resolved
      · rename_i short
        exact ⟨by simpa using nonempty, by simpa using noZero, Nat.not_lt.mp short⟩

theorem walk_of_resolve
    {tree : FileTree} {follow : Bool} {path : Path} {target : Target}
    (resolved : tree.resolve follow path = .ok target) :
    tree.walk follow linkLimit (start tree.workingDirectory path) path.segments = .ok target := by
  rw [← (resolvable_of_resolve resolved).resolve_eq follow, resolved]

theorem resolve_of_find?
    {tree : FileTree} {path : Path} {place : Place} {node : FileNode}
    (found : tree.find? true path = .ok (place, node)) :
    tree.resolve true path = .ok (.present place) ∧ tree.node? place = some node := by
  unfold find? at found
  rw [Bool.true_or] at found
  split at found
  · cases found
  · cases found
  · rename_i other resolved
    split at found
    · cases found
    · rename_i what present
      split at found
      · cases found
      · cases found
        exact ⟨resolved, present⟩

/-- A directory that a path leads to is at the end of a way. -/
theorem way_of_find?
    {tree : FileTree} {dir : Path} {top : Place}
    (found : tree.find? true dir = .ok (top, .directory)) :
    dir ≠ [] ∧
      ∃ left, Way tree linkLimit (start tree.workingDirectory dir) dir.segments left top := by
  obtain ⟨resolved, present⟩ := resolve_of_find? found
  exact ⟨(resolvable_of_resolve resolved).nonempty,
    way_of_walk present (walk_of_resolve resolved)⟩

/-- A path along a way leads to the directory at its end. -/
theorem find?_of_way
    {tree : FileTree} {dir : Path} {top : Place} {left : Nat} (resolvable : Resolvable dir)
    (way : Way tree linkLimit (start tree.workingDirectory dir) dir.segments left top)
    (directory : tree.node? top = some .directory) :
    tree.find? true dir = .ok (top, .directory) := by
  rw [find?, Bool.true_or, resolvable.resolve_eq, way.walk_eq]
  simp [directory]

/-- A path goes on leading to its place in a tree that keeps the directories and links, and what it
leads to is the file that is there then. -/
theorem find?_of_persistent
    {tree after : FileTree} {path : Path} {target : Target} {contents : Bytes}
    (resolved : tree.resolve true path = .ok target) (isFilePath : wantsDirectory path = false)
    (sameStart : after.workingDirectory = tree.workingDirectory)
    (directories : ∀ place, tree.node? place = some .directory →
      after.node? place = some .directory)
    (links : ∀ place aim, tree.node? place = some (.link aim) →
      after.node? place = some (.link aim))
    (present : after.node? target.place = some (.file contents)) :
    after.find? true path = .ok (target.place, .file contents) := by
  have walked :=
    walk_of_persistent (walk_of_resolve resolved) directories links present (by simp)
  rw [← sameStart] at walked
  rw [find?, Bool.true_or, (resolvable_of_resolve resolved).resolve_eq, walked]
  simp [present, isFilePath]

/-- Where a path leads to a file it leads to one at the same place as long as there is one. -/
theorem find?_file_of_persistent
    {tree after : FileTree} {path : Path} {place : Place} {old contents : Bytes}
    (found : tree.find? true path = .ok (place, .file old))
    (sameStart : after.workingDirectory = tree.workingDirectory)
    (directories : ∀ place, tree.node? place = some .directory →
      after.node? place = some .directory)
    (links : ∀ place aim, tree.node? place = some (.link aim) →
      after.node? place = some (.link aim))
    (present : after.node? place = some (.file contents)) :
    after.find? true path = .ok (place, .file contents) := by
  have resolved := (resolve_of_find? found).1
  have isFilePath : wantsDirectory path = false := by
    cases wants : wantsDirectory path with
    | false => rfl
    | true =>
        have isFile := (resolve_of_find? found).2
        rw [find?, Bool.true_or, resolved] at found
        simp [isFile, wants] at found
  exact find?_of_persistent resolved isFilePath sameStart directories links present

/-- Whoever gets to a directory behind a path passes a directory at that path. -/
theorem exists_way_of_find?_join
    {tree : FileTree} {base path : Path} {top : Place} (nonempty : base ≠ [])
    (relative : path.isAbsolute = false)
    (found : tree.find? true (base.join path) = .ok (top, .directory)) :
    ∃ middle between left, tree.find? true base = .ok (middle, .directory) ∧
      Way tree between middle path.segments left top := by
  obtain ⟨resolved, directory⟩ := resolve_of_find? found
  obtain ⟨_, left, way⟩ := way_of_find? found
  rw [start, Path.isAbsolute_join nonempty relative, ← start, Path.segments_join relative] at way
  obtain ⟨between, middle, before, after⟩ := way.split base.segments
  have resolvable :=
    (resolvable_of_resolve resolved).of_beginning (Path.prefix_join relative) nonempty
  exact ⟨middle, between, left, find?_of_way resolvable before (after.directory_of_top directory),
    after⟩

/-- What is free on a path that leads along names is at a beginning of them. -/
theorem LeadsAlong.exists_part_of_resolve
    {tree : FileTree} {top free : Place} {names : List FileName} {path : Path} {follow : Bool}
    (route : LeadsAlong tree top names path) (valid : ∀ name ∈ names, Path.IsName name)
    (noLinks : tree.NoLinksBelow top) (resolved : tree.resolve follow path = .ok (.absent free)) :
    ∃ part, part ≠ [] ∧ part <+: names ∧ free = top ++ part := by
  obtain ⟨segments, left, way, initial⟩ := route
  have reached := walk_of_resolve resolved
  rcases List.prefix_or_prefix_of_prefix initial (List.prefix_append segments names) with
    before | ⟨further, shape⟩
  · exact absurd reached (way.walk_ne_absent follow before free)
  · by_cases nothing : further = []
    · have whole : path.segments <+: segments := by simp [← shape, nothing]
      exact absurd reached (way.walk_ne_absent follow whole free)
    · rw [← shape] at reached initial
      rw [way.walk_append follow (.inl nothing)] at reached
      have part := (List.prefix_append_right_inj segments).mp initial
      have spelled := place_of_walk_names
        (fun name member => valid name (part.subset member)) noLinks reached
      exact ⟨further, nothing, part, spelled⟩

/-- A path behind a directory leads to the place that its names spell. -/
theorem place_of_resolve
    {tree : FileTree} {top : Place} {path : Path} {follow : Bool} {target : Target}
    {segments names : List FileName} {left : Nat}
    (way : Way tree linkLimit (start tree.workingDirectory path) segments left top)
    (valid : ∀ name ∈ names, Path.IsName name) (nonempty : names ≠ [])
    (shape : path.segments = segments ++ names) (noLinks : tree.NoLinksBelow top)
    (resolved : tree.resolve follow path = .ok target) : target.place = top ++ names := by
  have reached := walk_of_resolve resolved
  rw [shape, way.walk_append follow (.inl nonempty)] at reached
  exact place_of_walk_names valid noLinks reached

/-! ## Operations -/

theorem makeDirectory_opensWay
    {tree made : FileTree} {top : Place} {names : List FileName} {path : Path}
    (route : LeadsAlong tree top names path) (valid : ∀ name ∈ names, Path.IsName name)
    (noLinks : tree.NoLinksBelow top) (success : tree.makeDirectory path = .ok made) :
    OpensWay top names tree made := by
  unfold makeDirectory at success
  split at success
  · cases success
  · rename_i place resolved
    cases success
    have free := node?_of_walk_absent (walk_of_resolve resolved)
    obtain ⟨part, nonempty, initial, rfl⟩ := route.exists_part_of_resolve valid noLinks resolved
    exact .put nonempty initial free
  · cases success

/-- What creating one directory of a chain keeps is kept by creating all of them. -/
theorem makeChain_invariant
    {invariant : FileTree → Prop} {tree : FileTree} {chain : List Path} (initial : invariant tree)
    (step : ∀ path ∈ chain, path ≠ [] → ∀ grown made, invariant grown →
      grown.makeDirectory path = .ok made → invariant made) :
    invariant (tree.makeChain chain).1 := by
  induction chain with
  | nil => exact initial
  | cons path parents inductionHypothesis =>
      have behindParents := inductionHypothesis fun other member => step other (by simp [member])
      rw [makeChain]
      by_cases empty : path.isEmpty
      · rw [if_pos empty]
        exact initial
      · rw [if_neg empty]
        have one := step path (by simp) (by simpa using empty)
        split
        · rename_i made success
          exact one tree made initial success
        · cases outcome : tree.makeChain parents with
          | mk grown result =>
              rw [outcome] at behindParents
              cases result with
              | error fault => exact behindParents
              | ok _ =>
                  simp only
                  split
                  · rename_i made success
                    exact one grown made behindParents success
                  · exact behindParents
        · exact initial

theorem makeChain_opensWay
    {tree : FileTree} {top : Place} {names : List FileName} {chain : List Path}
    (routes : ∀ path ∈ chain, path ≠ [] → LeadsAlong tree top names path)
    (valid : ∀ name ∈ names, Path.IsName name) (noLinks : tree.NoLinksBelow top) :
    OpensWay top names tree (tree.makeChain chain).1 := by
  refine makeChain_invariant (.refl top names tree) ?_
  intro path member nonempty grown made opens success
  have growth := opens.growsBelow
  have route := (routes path member nonempty).of_growsBelow growth noLinks
  exact opens.trans (makeDirectory_opensWay route valid (growth.noLinksBelow noLinks) success)

/-- Creating what the components of a directory with names behind them lead to opens the way along
the names. -/
theorem makeDirectories_opensWay
    {tree : FileTree} {top : Place} {dir : Path} {names : List FileName} {left : Nat}
    (way : Way tree linkLimit (start tree.workingDirectory dir) dir.segments left top)
    (valid : ∀ name ∈ names, Path.IsName name) (noLinks : tree.NoLinksBelow top) :
    OpensWay top names tree
      (tree.makeDirectories (Path.ofComponents (dir.components ++ names.map .entry))).1 := by
  have inner := Path.Component.isInner_of_mem_entries valid
  have canonical := (Path.canonical_components dir).append inner
  refine makeChain_opensWay ?_ valid noLinks
  intro path member written
  have beginning : ∃ parts : List Path.Component,
      parts <+: dir.components ++ names.map .entry ∧ path = Path.ofComponents parts := by
    rcases List.mem_cons.mp member with rfl | proper
    · exact ⟨_, List.prefix_rfl, rfl⟩
    · obtain ⟨parts, listed, rfl⟩ := List.mem_map.mp proper
      rw [Path.components_ofComponents canonical] at listed
      exact ⟨parts, Path.prefix_of_mem_properBeginnings listed, rfl⟩
  obtain ⟨parts, initial, rfl⟩ := beginning
  refine leadsAlong_ofComponents way valid ?_ initial
  rintro rfl
  exact written rfl

/-- What is written to a path behind a directory is at the place that its names spell, and the path
leads to it. -/
theorem writeFile_eq_put
    {tree written : FileTree} {top : Place} {path : Path} {contents : Bytes}
    {segments names : List FileName} {left : Nat}
    (way : Way tree linkLimit (start tree.workingDirectory path) segments left top)
    (valid : ∀ name ∈ names, Path.IsName name) (nonempty : names ≠ [])
    (shape : path.segments = segments ++ names) (noLinks : tree.NoLinksBelow top)
    (single : tree.NoHardLinksBelow top) (success : tree.writeFile path contents = .ok written) :
    wantsDirectory path = false ∧ tree.node? (top ++ names) ≠ some .directory ∧
      written = tree.put (top ++ names) (.file contents) ∧
      ∃ target, tree.resolve true path = .ok target ∧ target.place = top ++ names := by
  have spelled : ∀ target, tree.resolve true path = .ok target → target.place = top ++ names :=
    fun _ resolved => place_of_resolve way valid nonempty shape noLinks resolved
  unfold writeFile at success
  split at success
  · cases success
  · rename_i noDirectory
    have isFilePath : wantsDirectory path = false := by simpa using noDirectory
    split at success
    · cases success
    · rename_i place resolved
      cases success
      have atNames : place = top ++ names := spelled _ resolved
      subst atNames
      have free := node?_of_walk_absent (walk_of_resolve resolved)
      exact ⟨isFilePath, by simp [free], rfl, _, resolved, rfl⟩
    · rename_i place resolved
      have atNames : place = top ++ names := spelled _ resolved
      subst atNames
      split at success
      · rename_i old found
        cases success
        have alone : tree.placesOfFile (top ++ names) = [top ++ names] :=
          single _ (below_append nonempty)
        refine ⟨isFilePath, by simp [found], ?_, _, resolved, rfl⟩
        rw [rewrite, alone]
        rfl
      · cases success

theorem writeFile_growsBelow
    {tree written : FileTree} {top : Place} {path : Path} {contents : Bytes}
    {segments names : List FileName} {left : Nat}
    (way : Way tree linkLimit (start tree.workingDirectory path) segments left top)
    (valid : ∀ name ∈ names, Path.IsName name) (nonempty : names ≠ [])
    (shape : path.segments = segments ++ names) (noLinks : tree.NoLinksBelow top)
    (single : tree.NoHardLinksBelow top) (success : tree.writeFile path contents = .ok written) :
    GrowsBelow top tree written := by
  obtain ⟨_, noDirectory, rfl, _⟩ :=
    writeFile_eq_put way valid nonempty shape noLinks single success
  exact .put (below_append nonempty) trivial noDirectory

end FileTree

end BrowserPods
