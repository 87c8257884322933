import BrowserPods.Proofs.Files.Growth

/-!
# Creating directories

Creating a directory with its parents leaves everything as it is and puts directories alone into the
tree, each where a beginning of the path leads (`FileTree.makeDirectories_gains`).  If it succeeds,
the path leads to a directory.
-/

namespace BrowserPods.FileTree

theorem isDirectory_iff {tree : FileTree} {path : Path} :
    tree.isDirectory path ↔ ∃ place, tree.find? true path = .ok (place, .directory) := by
  unfold isDirectory
  split
  · rename_i place found
    exact iff_of_true rfl ⟨place, found⟩
  · rename_i others
    refine iff_of_false nofun ?_
    rintro ⟨place, found⟩
    exact others place found

/-- A directory lies behind directories, at each beginning of its path that can be asked for. -/
theorem isDirectory_of_beginning
    {tree : FileTree} {parts beginning : List Path.Component} (canonical : Path.Canonical parts)
    (initial : beginning <+: parts) (resolvable : Resolvable (Path.ofComponents beginning))
    (isDirectory : tree.isDirectory (Path.ofComponents parts)) :
    tree.isDirectory (Path.ofComponents beginning) := by
  have nonempty : beginning ≠ [] := by
    intro empty
    apply resolvable.nonempty
    rw [empty]
    rfl
  obtain ⟨top, found⟩ := isDirectory_iff.mp isDirectory
  obtain ⟨_, directory⟩ := resolve_of_find? found
  obtain ⟨_, left, way⟩ := way_of_find? found
  have segments :
      (Path.ofComponents beginning).segments <+: (Path.ofComponents parts).segments := by
    rw [Path.segments_ofComponents canonical,
      Path.segments_ofComponents (canonical.of_beginning initial)]
    exact (initial.filter _).map _
  obtain ⟨more, whole⟩ := segments
  rw [start, ← Path.isAbsolute_ofComponents_of_prefix canonical nonempty initial, ← start,
    ← whole] at way
  obtain ⟨between, middle, before, after⟩ := way.split _
  have found := find?_of_way resolvable before (after.directory_of_top directory)
  exact isDirectory_iff.mpr ⟨middle, found⟩

/-- Whether everything in a tree stays as it is, and all that is new are directories, each where a
path of a kind leads. -/
structure GainsDirectories (kind : Path → Prop) (before after : FileTree) : Prop where
  workingDirectory : after.workingDirectory = before.workingDirectory
  hardLinks : after.hardLinks = before.hardLinks
  kept : ∀ place node, before.node? place = some node → after.node? place = some node
  gained : ∀ place node, after.node? place = some node →
    before.node? place = some node ∨
      node = .directory ∧ ∃ path, kind path ∧ after.find? true path = .ok (place, .directory)

namespace GainsDirectories

variable {kind other : Path → Prop} {before between after : FileTree}

theorem refl (kind : Path → Prop) (tree : FileTree) : GainsDirectories kind tree tree where
  workingDirectory := rfl
  hardLinks := rfl
  kept _ _ found := found
  gained _ _ found := .inl found

/-- Where a path leads to a directory it still does. -/
theorem find?_directory
    (gains : GainsDirectories kind before after) {path : Path} {place : Place}
    (found : before.find? true path = .ok (place, .directory)) :
    after.find? true path = .ok (place, .directory) := by
  obtain ⟨resolved, directory⟩ := resolve_of_find? found
  obtain ⟨_, left, way⟩ := way_of_find? found
  have still := way.of_persistent (fun place => gains.kept place .directory)
    fun place target => gains.kept place (.link target)
  rw [← gains.workingDirectory] at still
  exact find?_of_way (resolvable_of_resolve resolved) still (gains.kept _ _ directory)

theorem isDirectory
    (gains : GainsDirectories kind before after) {path : Path} (found : before.isDirectory path) :
    after.isDirectory path := by
  obtain ⟨place, leads⟩ := isDirectory_iff.mp found
  exact isDirectory_iff.mpr ⟨place, gains.find?_directory leads⟩

theorem trans
    (first : GainsDirectories kind before between) (second : GainsDirectories kind between after) :
    GainsDirectories kind before after where
  workingDirectory := second.workingDirectory.trans first.workingDirectory
  hardLinks := second.hardLinks.trans first.hardLinks
  kept place node found := second.kept place node (first.kept place node found)
  gained place node found := by
    rcases second.gained place node found with old | new
    · rcases first.gained place node old with older | ⟨isDirectory, path, isKind, leads⟩
      · exact .inl older
      · exact .inr ⟨isDirectory, path, isKind, second.find?_directory leads⟩
    · exact .inr new

theorem mono
    (gains : GainsDirectories kind before after) (wider : ∀ path, kind path → other path) :
    GainsDirectories other before after where
  workingDirectory := gains.workingDirectory
  hardLinks := gains.hardLinks
  kept := gains.kept
  gained place node found :=
    (gains.gained place node found).imp_right fun ⟨isDirectory, path, isKind, leads⟩ =>
      ⟨isDirectory, path, wider path isKind, leads⟩

end GainsDirectories

/-! ## One directory -/

variable {tree made : FileTree} {path : Path}

/-- A directory that is created is at a free place, and its path leads to it. -/
theorem exists_place_of_makeDirectory (success : tree.makeDirectory path = .ok made) :
    ∃ place, tree.node? place = none ∧ made = tree.put place .directory ∧
      made.find? true path = .ok (place, .directory) := by
  unfold makeDirectory at success
  split at success
  · cases success
  · rename_i place resolved
    cases success
    have reached := walk_of_resolve resolved
    have free := node?_of_walk_absent reached
    obtain ⟨left, way⟩ := way_of_walk_absent reached
    have below : place ≠ [] := by
      rintro rfl
      cases free
    exact ⟨place, free, rfl, find?_of_way (resolvable_of_resolve resolved) way
      (node?_put_self tree .directory below)⟩
  · cases success

theorem makeDirectory_gains
    {kind : Path → Prop} (isKind : kind path) (success : tree.makeDirectory path = .ok made) :
    GainsDirectories kind tree made := by
  obtain ⟨place, free, rfl, leads⟩ := exists_place_of_makeDirectory success
  refine ⟨rfl, rfl, fun _ _ => node?_put_of_free free .directory, ?_⟩
  intro other node found
  by_cases same : other = place
  · subst same
    have new := (resolve_of_find? leads).2
    cases found.symm.trans new
    exact .inr ⟨rfl, path, isKind, leads⟩
  · rw [node?_put_of_ne tree .directory same] at found
    exact .inl found

/-! ## A directory with its parents -/

/-- After a success there is a directory at the end of the path. -/
theorem isDirectory_of_makeChain
    {parents : List Path} (nonempty : path ≠ [])
    (success : (tree.makeChain (path :: parents)).2 = .ok ()) :
    (tree.makeChain (path :: parents)).1.isDirectory path := by
  have created : ∀ {grown made : FileTree}, grown.makeDirectory path = .ok made →
      made.isDirectory path := by
    intro grown made success
    obtain ⟨place, _, _, leads⟩ := exists_place_of_makeDirectory success
    exact isDirectory_iff.mpr ⟨place, leads⟩
  revert success
  rw [makeChain, if_neg (by simpa using nonempty)]
  split
  · rename_i made done
    intro _
    exact created done
  · cases tree.makeChain parents with
    | mk grown result =>
        cases result with
        | error fault =>
            intro failure
            cases failure
        | ok _ =>
            simp only
            split
            · rename_i made done
              intro _
              exact created done
            · intro success
              split at success
              · assumption
              · cases success
  · intro success
    split at success
    · assumption
    · cases success

theorem makeDirectories_gains (tree : FileTree) (path : Path) :
    GainsDirectories (fun part => part.components <+: path.components) tree
      (tree.makeDirectories path).1 := by
  refine makeChain_invariant (.refl _ tree) ?_
  intro part member _ grown made gains success
  refine gains.trans (makeDirectory_gains ?_ success)
  rcases List.mem_cons.mp member with rfl | proper
  · exact List.prefix_rfl
  · obtain ⟨parts, listed, rfl⟩ := List.mem_map.mp proper
    have initial := Path.prefix_of_mem_properBeginnings listed
    rw [Path.components_ofComponents ((Path.canonical_components path).of_beginning initial)]
    exact initial

end BrowserPods.FileTree
