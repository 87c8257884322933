import BrowserPods.Artifact.Stored
import BrowserPods.Proofs.Files.Growth
import BrowserPods.Proofs.Files.Written

/-!
# The files of a folder

A directory that a path leads to lists the files directly in it, each once
(`FileTree.listDirectory_eq`, `FileTree.names_of_files`), and each of them can be read behind that
path, unless the path becomes too long (`FileTree.readFile_join`).
-/

namespace BrowserPods

open BrowserPods.Text

def FileNode.contents? : FileNode → Option Bytes
  | .file contents => some contents
  | _ => none

theorem FileNode.contents?_eq_some {node : FileNode} {contents : Bytes} :
    node.contents? = some contents ↔ node = .file contents := by
  cases node with
  | file bytes => simp [contents?]
  | directory => simp [contents?]
  | link target => simp [contents?]

namespace FileTree

/-! ## Places below a directory -/

def restBelow? (top place : Place) : Option (List FileName) :=
  if top <+: place ∧ top ≠ place then some (place.drop top.length) else none

theorem restBelow?_eq_some {top place : Place} {names : List FileName} :
    restBelow? top place = some names ↔ names ≠ [] ∧ place = top ++ names := by
  unfold restBelow?
  constructor
  · intro rest
    split at rest
    · rename_i below
      obtain ⟨⟨more, rfl⟩, different⟩ := below
      rw [List.drop_left, Option.some_inj] at rest
      subst rest
      refine ⟨?_, rfl⟩
      rintro rfl
      exact different (List.append_nil _).symm
    · cases rest
  · rintro ⟨nonempty, rfl⟩
    have below : top <+: top ++ names ∧ top ≠ top ++ names :=
      ⟨List.prefix_append _ _, by simpa using nonempty⟩
    rw [if_pos below, List.drop_left]

/-- The name of a place in the directory that it is directly below. -/
def nameIn? (top place : Place) : Option FileName :=
  match place.getLast? with
  | some name => if place.dropLast = top then some name else none
  | none => none

theorem nameIn?_eq_some {top place : Place} {name : FileName} :
    nameIn? top place = some name ↔ place = top ++ [name] := by
  unfold nameIn?
  constructor
  · intro found
    split at found
    · rename_i last isLast
      split at found
      · rename_i front
        cases found
        rw [← front, List.dropLast_append_getLast? _ isLast]
      · cases found
    · cases found
  · rintro rfl
    simp

/-! ## Files below a directory -/

def filesBelow (tree : FileTree) (top : Place) : List (List FileName × Bytes) :=
  tree.entries.filterMap fun entry =>
    (restBelow? top entry.1).bind fun names =>
      entry.2.contents?.map fun contents => (names, contents)

def direct? : List FileName × Bytes → Option (FileName × Bytes)
  | ([name], contents) => some (name, contents)
  | _ => none

theorem direct?_eq_some {file : List FileName × Bytes} {name : FileName} {contents : Bytes} :
    direct? file = some (name, contents) ↔ file = ([name], contents) := by
  unfold direct?
  split
  · simp
  · rename_i others
    refine iff_of_false nofun ?_
    rintro rfl
    exact others _ _ rfl

def filesIn (tree : FileTree) (top : Place) : List (FileName × Bytes) :=
  (tree.filesBelow top).filterMap direct?

variable {tree : FileTree} {top place : Place} {node : FileNode}

theorem mem_filesBelow {names : List FileName} {contents : Bytes} :
    (names, contents) ∈ tree.filesBelow top ↔
      names ≠ [] ∧ (top ++ names, .file contents) ∈ tree.entries := by
  rw [filesBelow, List.mem_filterMap]
  constructor
  · rintro ⟨⟨place, node⟩, listed, found⟩
    simp only [Option.bind_eq_some_iff, Option.map_eq_some_iff, Prod.mk.injEq] at found
    obtain ⟨_, rest, _, bytes, rfl, rfl⟩ := found
    obtain ⟨nonempty, rfl⟩ := restBelow?_eq_some.mp rest
    rw [FileNode.contents?_eq_some.mp bytes] at listed
    exact ⟨nonempty, listed⟩
  · rintro ⟨nonempty, listed⟩
    have rest : restBelow? top (top ++ names) = some names :=
      restBelow?_eq_some.mpr ⟨nonempty, rfl⟩
    exact ⟨_, listed, by simp [rest, FileNode.contents?]⟩

theorem mem_filesIn {name : FileName} {contents : Bytes} :
    (name, contents) ∈ tree.filesIn top ↔ ([name], contents) ∈ tree.filesBelow top := by
  simp [filesIn, List.mem_filterMap, direct?_eq_some]

theorem mem_entries_of_node? (below : place ≠ [])
    (present : tree.node? place = some node) : (place, node) ∈ tree.entries := by
  rw [node?, if_neg below] at present
  obtain ⟨front, back, shape, _⟩ := List.lookup_eq_some_iff.mp present
  rw [shape]
  exact List.mem_append_right _ List.mem_cons_self

section Distinct

variable (distinct : (tree.entries.map (·.1)).Nodup)
include distinct

theorem node?_of_mem (listed : (place, node) ∈ tree.entries) (below : place ≠ []) :
    tree.node? place = some node := by
  rw [node?, if_neg below]
  generalize tree.entries = entries at distinct listed
  induction entries with
  | nil => cases listed
  | cons first rest inductionHypothesis =>
      obtain ⟨absent, restDistinct⟩ := List.nodup_cons.mp distinct
      rcases List.mem_cons.mp listed with rfl | later
      · exact List.lookup_cons_self
      · have different : (place == first.1) = false := by
          rw [beq_eq_false_iff_ne]
          rintro rfl
          exact absent (List.mem_map.mpr ⟨_, later, rfl⟩)
        rw [List.lookup_cons, different]
        exact inductionHypothesis restDistinct later

theorem node?_of_mem_filesIn {name : FileName} {contents : Bytes}
    (listed : (name, contents) ∈ tree.filesIn top) :
    tree.node? (top ++ [name]) = some (.file contents) :=
  node?_of_mem distinct (mem_filesBelow.mp (mem_filesIn.mp listed)).2 (by simp)

theorem mem_filesIn_iff {name : FileName} {contents : Bytes} :
    (name, contents) ∈ tree.filesIn top ↔ tree.node? (top ++ [name]) = some (.file contents) := by
  constructor
  · exact node?_of_mem_filesIn distinct
  · intro present
    have listed := mem_entries_of_node? (by simp) present
    exact mem_filesIn.mpr (mem_filesBelow.mpr ⟨by simp, listed⟩)

theorem nodup_namesIn (top : Place) : (tree.namesIn top).Nodup := by
  have asPlaces : tree.namesIn top = (tree.entries.map (·.1)).filterMap (nameIn? top) := by
    rw [List.filterMap_map]
    rfl
  rw [asPlaces]
  refine List.Nodup.filterMap ?_ distinct
  intro place other name first second
  rw [nameIn?_eq_some.mp first, nameIn?_eq_some.mp second]

theorem names_of_files (top : Place) :
    ((tree.namesIn top).filter fun name =>
        (tree.node? (top ++ [name])).any Stored.isRegular) =
      (tree.filesIn top).map (·.1) := by
  have asEntries : tree.namesIn top = tree.entries.filterMap fun entry => nameIn? top entry.1 := rfl
  rw [asEntries, List.filter_filterMap, filesIn, filesBelow, List.filterMap_filterMap,
    List.map_filterMap]
  refine List.filterMap_congr ?_
  rintro ⟨place, node⟩ listed
  ext name
  rw [Option.filter_eq_some_iff, nameIn?_eq_some, Option.map_eq_some_iff]
  constructor
  · rintro ⟨rfl, isFile⟩
    rw [node?_of_mem distinct listed (by simp), Option.any_some] at isFile
    cases node with
    | file contents =>
      have rest : restBelow? top (top ++ [name]) = some [name] :=
        restBelow?_eq_some.mpr ⟨by simp, rfl⟩
      exact ⟨(name, contents), by simp [rest, FileNode.contents?, direct?], rfl⟩
    | directory => cases isFile
    | link target => cases isFile
  · rintro ⟨⟨other, contents⟩, found, rfl⟩
    simp only [Option.bind_eq_some_iff, Option.map_eq_some_iff, direct?_eq_some] at found
    obtain ⟨_, ⟨_, rest, _, bytes, rfl⟩, shape⟩ := found
    cases shape
    obtain ⟨_, rfl⟩ := restBelow?_eq_some.mp rest
    rw [FileNode.contents?_eq_some.mp bytes] at listed
    rw [node?_of_mem distinct listed (by simp)]
    exact ⟨rfl, rfl⟩

end Distinct

/-! ## Names behind a path -/

/-- What the name of an entry is whose bytes are a text. -/
structure IsTextName (name : FileName) : Prop where
  isName : Path.IsName name
  noZero : 0 ∉ name
  short : name.length ≤ nameLimit
  text : ∃ text, name = Path.ofText text

end FileTree

namespace Path

/-- What is relative is written behind a path and perhaps a slash. -/
theorem exists_front_of_join (base : Path) :
    ∃ front, (∀ path, path.isAbsolute = false → base.join path = front ++ path) ∧
      ∀ byte ∈ front, byte ∈ base ∨ byte = slash := by
  by_cases plain : base.isEmpty || base.getLast? == some slash
  · refine ⟨base, ?_, fun byte => .inl⟩
    intro path relative
    simp [join, relative, plain]
  · refine ⟨base ++ [slash], ?_, by simp⟩
    intro path relative
    simp [join, relative, plain]

variable {base : Path} {name : FileName} (valid : IsName name)
include valid

private theorem valid_of_mem_singleton : ∀ part ∈ [name], IsName part := by
  simpa using valid

theorem isAbsolute_of_isName : isAbsolute name = false := by
  have alone := isAbsolute_intercalate (valid_of_mem_singleton valid)
  rwa [List.intercalate_singleton] at alone

theorem segments_of_isName : segments name = [name] := by
  have valids := valid_of_mem_singleton valid
  have alone := segments_intercalate (fun part member => (valids part member).nonempty)
    fun part member => (valids part member).unbroken
  rwa [List.intercalate_singleton] at alone

theorem segments_join_name (base : Path) : (base.join name).segments = base.segments ++ [name] := by
  rw [segments_join (isAbsolute_of_isName valid), segments_of_isName valid]

theorem wantsDirectory_join_name (base : Path) :
    FileTree.wantsDirectory (base.join name) = false := by
  obtain ⟨front, shape, _⟩ := exists_front_of_join base
  rw [FileTree.wantsDirectory, shape name (isAbsolute_of_isName valid),
    List.getLast?_append_of_ne_nil _ valid.nonempty,
    beq_eq_false_iff_ne]
  intro last
  exact valid.unbroken (List.mem_of_getLast? last)

theorem components_of_isName : components name = [.entry name] := by
  have canonical : Canonical [.entry name] := ⟨.inl valid, by simp⟩
  have written : ofComponents [.entry name] = name := by
    rw [ofComponents_of_head_ne_root (by simp)]
    exact List.intercalate_singleton
  rw [← written, components_ofComponents canonical, written]

/-- A name below a path, be it empty, is one more component. -/
theorem components_join_name (base : Path) :
    (base.join name).components = base.components ++ [.entry name] := by
  have behind := components_join_names base (valid_of_mem_singleton valid)
  rwa [List.intercalate_singleton] at behind

theorem fileName?_join_name (base : Path) : (base.join name).fileName? = some name := by
  rw [fileName?, components_join_name valid]
  simp

theorem fileName?_of_isName : fileName? name = some name := by
  rw [fileName?, components_of_isName valid]
  rfl

end Path

namespace FileTree

variable {tree : FileTree} {top : Place} {dir : Path} {name : FileName} {contents : Bytes}

section Found

variable (found : tree.find? true dir = .ok (top, .directory))
include found

theorem listDirectory_eq :
    tree.listDirectory dir = .ok ((tree.namesIn top).filterMap fun name =>
      (tree.node? (top ++ [name])).map fun node => (name, node)) := by
  rw [listDirectory, found]

section Present

variable (valid : IsTextName name)
  (present : tree.node? (top ++ [name]) = some (.file contents))
include valid present

theorem resolve_join :
    tree.resolve true (dir.join name) =
      if pathLimit < (dir.join name).length then .error .nameTooLong
      else .ok (.present (top ++ [name])) := by
  obtain ⟨nonempty, left, way⟩ := way_of_find? found
  obtain ⟨resolved, directory⟩ := resolve_of_find? found
  obtain ⟨front, shapes, parts⟩ := Path.exists_front_of_join dir
  have shape := shapes name (Path.isAbsolute_of_isName valid.isName)
  have noZero : 0 ∉ dir.join name := by
    rw [shape]
    intro member
    rcases List.mem_append.mp member with early | late
    · rcases parts _ early with inside | isSlash
      · exact (resolvable_of_resolve resolved).noZero inside
      · exact absurd isSlash (by decide)
    · exact valid.noZero late
  have written : dir.join name ≠ [] := by
    rw [shape]
    simp [valid.isName.nonempty]
  -- The way to the directory is walked as before, and one more segment leads to the file.
  have walked : tree.walk true linkLimit (start tree.workingDirectory (dir.join name))
      (dir.join name).segments = .ok (.present (top ++ [name])) := by
    rw [start, Path.isAbsolute_join nonempty (Path.isAbsolute_of_isName valid.isName), ← start,
      Path.segments_join_name valid.isName, way.walk_append true (.inr rfl), walk,
      if_neg (by simp [directory]), if_neg valid.isName.notHere, if_neg valid.isName.notUp,
      if_neg (Nat.not_lt.mpr valid.short), present, walk]
  rw [resolve, if_neg (by simpa using noZero), if_neg (by simpa using written), walked]

/-- A file directly in a directory can be read behind the path of the directory, unless that is too
long. -/
theorem readFile_join :
    tree.readFile (dir.join name) =
      if pathLimit < (dir.join name).length then .error .nameTooLong else .ok contents := by
  have resolved := resolve_join found valid present
  have notDirectory := Path.wantsDirectory_join_name valid.isName dir
  rw [readFile, find?, notDirectory, Bool.or_false, resolved]
  by_cases long : pathLimit < (dir.join name).length
  · rw [if_pos long, if_pos long]
  · rw [if_neg long, if_neg long]
    simp [present]

end Present

end Found

end FileTree

/-! ## Folders of a directory -/

namespace Stored

theorem map_fst_filter_filterMap
    (names : List FileName) (node? : FileName → Option FileNode) (wanted : FileNode → Bool) :
    ((names.filterMap fun name => (node? name).map fun node => (name, node)).filter
        fun entry => wanted entry.2).map (·.1) =
      names.filter fun name => (node? name).any wanted := by
  induction names with
  | nil => rfl
  | cons name others inductionHypothesis =>
      cases found : node? name with
      | none => simpa [found] using inductionHypothesis
      | some node =>
          cases kept : wanted node with
          | false => simpa [found, kept] using inductionHypothesis
          | true => simpa [found, kept] using inductionHypothesis

variable {tree : FileTree} {dir : Path} {top : Place} {paths : List Path}

/-- What is listed are the regular files of a directory with names of artifacts. -/
theorem list_of_find? (found : tree.find? true dir = .ok (top, .directory)) :
    list tree dir =
      .ok (((((tree.namesIn top).filter fun name =>
        (tree.node? (top ++ [name])).any isRegular).mergeSort nameLe).map dir.join).filter
          hasArtifactName) := by
  rw [list, FileTree.listDirectory_eq found]
  simp only [Except.map]
  rw [map_fst_filter_filterMap]

/-- Only a directory is listed. -/
theorem find?_of_list (listed : list tree dir = .ok paths) :
    ∃ top, tree.find? true dir = .ok (top, .directory) := by
  rw [list, FileTree.listDirectory] at listed
  cases found : tree.find? true dir with
  | error fault =>
      rw [found] at listed
      cases listed
  | ok entry =>
      obtain ⟨top, node⟩ := entry
      rw [found] at listed
      cases node with
      | directory => exact ⟨top, rfl⟩
      | file contents => cases listed
      | link target => cases listed

theorem isAbsolute_folder (folder : String) :
    (Path.ofText (String.ofList (folder.toList.dropWhile (· = '/')))).isAbsolute = false := by
  rw [Path.isAbsolute_ofText, String.toList_ofList]
  refine decide_eq_false fun begins => ?_
  have notSlash := List.head?_dropWhile_not (· = '/') folder.toList
  rw [begins] at notSlash
  cases notSlash

theorem segments_folder (folder : String) :
    (Path.ofText (String.ofList (folder.toList.dropWhile (· = '/')))).segments =
      (Path.ofText folder).segments := by
  rw [Path.ofText, Path.ofText, Utf8.encode, Utf8.encode, String.toList_ofList]
  induction folder.toList with
  | nil => rfl
  | cons c others inductionHypothesis =>
      by_cases isSlash : c = '/'
      · subst isSlash
        rw [List.dropWhile_cons_of_pos (by simp), inductionHypothesis, List.flatMap_cons]
        exact (Path.segments_append_slash [] _).symm
      · rw [List.dropWhile_cons_of_neg (by simpa using isSlash)]

/-- The directory of a folder has the components of the folder behind those of the root. -/
theorem components_folderPath {sharedDir : String} (nonempty : Path.ofText sharedDir ≠ [])
    (folder : String) :
    (folderPath sharedDir folder).components =
      (Path.ofText sharedDir).components ++
        ((Path.ofText folder).segments.filter (· ≠ [Path.dot])).map Path.Component.ofSegment := by
  rw [folderPath, Path.components_join nonempty (isAbsolute_folder folder), segments_folder]

/-- Whoever lists a folder of a directory goes through the directory. -/
theorem exists_way_of_list
    {sharedDir folder : String} (nonempty : Path.ofText sharedDir ≠ [])
    (listed : list tree (folderPath sharedDir folder) = .ok paths) :
    ∃ top found budget left, tree.find? true (Path.ofText sharedDir) = .ok (top, .directory) ∧
      tree.find? true (folderPath sharedDir folder) = .ok (found, .directory) ∧
      FileTree.Way tree budget top (Path.ofText folder).segments left found := by
  obtain ⟨found, isFound⟩ := find?_of_list listed
  obtain ⟨top, budget, left, passed, way⟩ :=
    FileTree.exists_way_of_find?_join nonempty (isAbsolute_folder folder) isFound
  rw [segments_folder] at way
  exact ⟨top, found, budget, left, passed, isFound, way⟩

/-- In a directory that is missing no folder can be listed. -/
theorem exists_fault_of_missing
    {sharedDir : String} (nonempty : Path.ofText sharedDir ≠ [])
    (missing : tree.reaches (Path.ofText sharedDir) = false) (folder : String) :
    ∃ fault, list tree (folderPath sharedDir folder) = .error fault := by
  cases listed : list tree (folderPath sharedDir folder) with
  | error fault => exact ⟨fault, rfl⟩
  | ok paths =>
      obtain ⟨top, found, budget, left, passed, _⟩ := exists_way_of_list nonempty listed
      rw [FileTree.reaches, passed] at missing
      cases missing

end Stored

end BrowserPods
