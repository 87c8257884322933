import BrowserPods.Proofs.Files.Folder

/-!
# Links on the way to a folder

A link in a folder is no artifact, but links on the way to the folder are followed, wherever they
lead.  What is read from a folder therefore lies below the pod's directory exactly if the folder
does, or if nothing is read at all (`Stored.staysBelow_iff`).  A pod that puts a link there makes
its client read files of others (`Stored.link_leads_outside`).
-/

namespace BrowserPods

open BrowserPods.Text

/-! ## Names in a directory -/

namespace FileTree

/-- Whether what is in a tree has names. -/
def HasNames (tree : FileTree) : Prop :=
  ∀ entry ∈ tree.entries, ∀ name ∈ entry.1, Path.IsName name

instance (tree : FileTree) : Decidable tree.HasNames :=
  inferInstanceAs (Decidable (∀ entry ∈ tree.entries, ∀ name ∈ entry.1, Path.IsName name))

variable {tree : FileTree} {top place : Place} {dir : Path} {name : FileName}

theorem HasNames.isName_of_mem (named : tree.HasNames) (member : name ∈ tree.namesIn top) :
    Path.IsName name := by
  obtain ⟨entry, listed, isName⟩ := List.mem_filterMap.mp member
  have shape : entry.1 = top ++ [name] := nameIn?_eq_some.mp isName
  refine named entry listed name ?_
  rw [shape]
  exact List.mem_append_right _ List.mem_cons_self

/-- A regular file directly in a directory is read from its own place. -/
theorem place_of_find?_join
    (found : tree.find? true dir = .ok (top, .directory)) (valid : Path.IsName name)
    {contents : Bytes} (present : tree.node? (top ++ [name]) = some (.file contents))
    {node : FileNode} (read : tree.find? true (dir.join name) = .ok (place, node)) :
    place = top ++ [name] := by
  obtain ⟨nonempty, left, way⟩ := way_of_find? found
  have directory := (resolve_of_find? found).2
  have walked := walk_of_resolve (resolve_of_find? read).1
  rw [start, Path.isAbsolute_join nonempty (Path.isAbsolute_of_isName valid), ← start,
    Path.segments_join_name valid, way.walk_append true (.inr rfl), walk,
    if_neg (by simp [directory]), if_neg valid.notHere, if_neg valid.notUp] at walked
  split at walked
  · cases walked
  · rw [present, walk] at walked
    cases walked
    rfl

end FileTree

/-! ## Artifacts below a directory -/

namespace Stored

open FileTree

/-- Whether an artifact that an item yields is a regular file at a place. -/
def IsReadFrom (tree : FileTree) (item : Pending) (artifact : Artifact) (place : Place) : Prop :=
  ∃ containerId path, item = .stored containerId path ∧
    tree.find? true path = .ok (place, .file artifact.contents)

/-- Whether all artifacts that a stream yields are regular files below a place. -/
def StaysBelow (tree : FileTree) (top : Place) (items : PendingArtifacts) : Prop :=
  ∀ item ∈ items, ∀ artifact, item.read tree = .ok artifact →
    ∃ place, Below top place ∧ IsReadFrom tree item artifact place

variable {tree : FileTree} {top place other : Place} {dir : Path} {paths : List Path}
  {item : Pending} {artifact : Artifact}

theorem IsReadFrom.place_unique
    (first : IsReadFrom tree item artifact place) (second : IsReadFrom tree item artifact other) :
    place = other := by
  obtain ⟨containerId, path, rfl, found⟩ := first
  obtain ⟨_, _, same, otherFound⟩ := second
  cases same
  cases found.symm.trans otherFound
  rfl

theorem exists_find?_of_read
    {containerId : String} {path : Path}
    (read : (Pending.stored containerId path).read tree = .ok artifact) :
    ∃ place, tree.find? true path = .ok (place, .file artifact.contents) := by
  rw [Pending.read, FileTree.readFile] at read
  cases found : tree.find? true path with
  | error fault =>
      rw [found] at read
      cases read
  | ok entry =>
      obtain ⟨place, node⟩ := entry
      rw [found] at read
      cases node with
      | file contents =>
          cases read
          exact ⟨place, rfl⟩
      | directory => cases read
      | link target => cases read

theorem exists_name_of_mem_list
    (found : tree.find? true dir = .ok (top, .directory)) (listed : list tree dir = .ok paths)
    {path : Path} (member : path ∈ paths) :
    ∃ name contents, name ∈ tree.namesIn top ∧
      tree.node? (top ++ [name]) = some (.file contents) ∧ path = dir.join name := by
  rw [list_of_find? found] at listed
  cases listed
  obtain ⟨name, sorted, rfl⟩ := List.mem_map.mp (List.mem_filter.mp member).1
  obtain ⟨inDirectory, regular⟩ := List.mem_filter.mp (List.mem_mergeSort.mp sorted)
  obtain ⟨node, present, isRegular⟩ := (Option.any_eq_true _ _).mp regular
  cases node with
  | file contents => exact ⟨name, contents, inDirectory, present, rfl⟩
  | directory => cases isRegular
  | link target => cases isRegular

/-- What is read from a listed directory are files directly in it. -/
theorem exists_isReadFrom
    (named : tree.HasNames) (found : tree.find? true dir = .ok (top, .directory))
    (listed : list tree dir = .ok paths) {containerId : String}
    (member : item ∈ stream containerId paths) (read : item.read tree = .ok artifact) :
    ∃ name, IsReadFrom tree item artifact (top ++ [name]) := by
  obtain ⟨path, inList, rfl⟩ := List.mem_map.mp member
  obtain ⟨name, contents, inDirectory, present, rfl⟩ := exists_name_of_mem_list found listed inList
  obtain ⟨place, isFound⟩ := exists_find?_of_read read
  obtain rfl := place_of_find?_join found (named.isName_of_mem inDirectory) present isFound
  exact ⟨name, containerId, _, rfl, isFound⟩

/-- Of a pod's folder that can be listed regular files are read, all directly in the directory that
the folder leads to.  They lie below the pod's directory exactly if this one does or none of them
can be read; it does if no directory on the way is a link. -/
theorem staysBelow_iff
    (containerId : String) (named : tree.HasNames) {sharedDir folder : String}
    (shared : tree.find? true (Path.ofText sharedDir) = .ok (top, .directory))
    (listed : list tree (folderPath sharedDir folder) = .ok paths) :
    let items := stream containerId paths
    let segments := (Path.ofText folder).segments
    ∃ found, tree.find? true (folderPath sharedDir folder) = .ok (found, .directory) ∧
      (∀ item ∈ items, ∀ artifact, item.read tree = .ok artifact →
        ∃ name, IsReadFrom tree item artifact (found ++ [name])) ∧
      (StaysBelow tree top items ↔
        top <+: found ∨ ∀ item ∈ items, ∀ artifact, item.read tree ≠ .ok artifact) ∧
      ([Path.dot, Path.dot] ∉ segments →
        (∀ names, names <+: segments.filter (· ≠ [Path.dot]) →
          ∀ aim, tree.node? (top ++ names) ≠ some (.link aim)) →
        found = top ++ segments.filter (· ≠ [Path.dot])) := by
  intro items segments
  have nonempty := (way_of_find? shared).1
  obtain ⟨start, found, budget, left, isStart, isFound, way⟩ := exists_way_of_list nonempty listed
  cases shared.symm.trans isStart
  have inFolder : ∀ item ∈ items, ∀ artifact, item.read tree = .ok artifact →
      ∃ name, IsReadFrom tree item artifact (found ++ [name]) :=
    fun item member artifact read => exists_isReadFrom named isFound listed member read
  refine ⟨found, isFound, inFolder, ?_, way.top_eq_of_no_links⟩
  constructor
  · intro staysBelow
    by_cases inside : top <+: found
    · exact .inl inside
    · right
      intro item member artifact read
      obtain ⟨name, atName⟩ := inFolder item member artifact read
      obtain ⟨_, ⟨first, more, rfl⟩, below⟩ := staysBelow item member artifact read
      -- A directory that has a file below another one in it is that one or lies below it.
      have same := congrArg List.dropLast (atName.place_unique below)
      rw [List.dropLast_concat, List.dropLast_append_of_ne_nil (List.cons_ne_nil _ _)] at same
      exact inside ⟨_, same.symm⟩
  · rintro (⟨more, rfl⟩ | nothing)
    · intro item member artifact read
      obtain ⟨name, atName⟩ := inFolder item member artifact read
      rw [List.append_assoc] at atName
      exact ⟨_, below_append (by simp), atName⟩
    · intro item member artifact read
      exact absurd read (nothing item member artifact)

/-! ### Links in place of the folder of recordings -/

def podTree (videos : FileNode) : FileTree :=
  let place (names : List String) : Place := names.map Path.ofText
  { entries :=
      [(place ["pod"], .directory), (place ["pod", "videos"], videos),
        (place ["pod", "rec"], .directory), (place ["pod", "rec", "a.mp4"], .file [1]),
        (place ["out"], .directory), (place ["out", "secret.log"], .file [2])] }

/-- A link to another directory of the pod does no harm. -/
theorem link_stays_inside :
    let tree := podTree (.link (Path.ofText "rec"))
    let paths := [Path.ofText "/pod/videos/a.mp4"]
    tree.HasNames ∧
      tree.find? true (Path.ofText "/pod") = .ok ([Path.ofText "pod"], .directory) ∧
      list tree (folderPath "/pod" "/videos") = .ok paths ∧
      StaysBelow tree [Path.ofText "pod"] (stream "grid-1" paths) := by
  intro tree paths
  have named : tree.HasNames := by decide
  have shared : tree.find? true (Path.ofText "/pod") =
      .ok ([Path.ofText "pod"], .directory) := by
    cbv
  have listed : list tree (folderPath "/pod" "/videos") = .ok paths := by cbv
  obtain ⟨found, isFound, _, iff, _⟩ := staysBelow_iff "grid-1" named shared listed
  have place : tree.find? true (folderPath "/pod" "/videos") =
      .ok ([Path.ofText "pod", Path.ofText "rec"], .directory) := by
    cbv
  cases isFound.symm.trans place
  exact ⟨named, shared, listed, iff.mpr (.inl (by decide))⟩

/-- A link to the directory of somebody else makes the client read what is there. -/
theorem link_leads_outside :
    let tree := podTree (.link (Path.ofText "../out"))
    let secret : Pending := .stored "grid-1" (Path.ofText "/pod/videos/secret.log")
    tree.HasNames ∧
      tree.find? true (Path.ofText "/pod") = .ok ([Path.ofText "pod"], .directory) ∧
      [Path.dot, Path.dot] ∉ (Path.ofText "videos").segments ∧
      list tree (folderPath "/pod" "videos") = .ok [Path.ofText "/pod/videos/secret.log"] ∧
      secret.read tree = .ok { name := "secret.log", contents := [2] } ∧
      ¬ StaysBelow tree [Path.ofText "pod"] [secret] := by
  intro tree secret
  have read : secret.read tree = .ok { name := "secret.log", contents := [2] } := by cbv
  refine ⟨by decide, by cbv, by decide, by cbv, read, ?_⟩
  intro staysBelow
  obtain ⟨place, below, inside⟩ := staysBelow secret List.mem_cons_self _ read
  have outside : IsReadFrom tree secret { name := "secret.log", contents := [2] }
      [Path.ofText "out", Path.ofText "secret.log"] :=
    ⟨"grid-1", _, rfl, by cbv⟩
  obtain ⟨first, more, shape⟩ := below
  have same := outside.place_unique inside
  rw [shape] at same
  exact absurd (List.cons.inj same).1 (by decide)

end Stored

end BrowserPods
