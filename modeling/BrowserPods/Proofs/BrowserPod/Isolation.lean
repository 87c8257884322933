import BrowserPods.Proofs.Artifact.Links
import BrowserPods.Proofs.Client.SharedDir
import BrowserPods.Proofs.Files.Creation

/-!
# Pods on one mount

Pods that share a mount have working directories of different names below it.  Part by part, no
folder of one pod is one of another pod or lies in one, so that no artifact is listed for both
(`WorkDir.pods_are_isolated`).  Allocating a working directory touches nothing that is there.
-/

namespace BrowserPods

/-- Whether neither of two paths is the other one or lies below it, part by part. -/
def Path.Apart (path other : Path) : Prop :=
  ¬ path.components <+: other.components ∧ ¬ other.components <+: path.components

theorem Path.apart_of_entry_ne
    {path other : Path} {parts more others : List Component} {name otherName : FileName}
    (different : name ≠ otherName) (shape : path.components = parts ++ .entry name :: more)
    (otherShape : other.components = parts ++ .entry otherName :: others) : path.Apart other := by
  rw [Apart, shape, otherShape, List.prefix_append_right_inj, List.prefix_append_right_inj,
    List.cons_prefix_cons, List.cons_prefix_cons]
  refine ⟨fun nested => ?_, fun nested => ?_⟩
  · exact different (Component.entry.inj nested.1)
  · exact different (Component.entry.inj nested.1).symm

namespace WorkDir

/-! ## Paths below a working directory -/

section Under

variable (mountPath : String) {name : String} (valid : Path.IsName (Path.ofText name))
include valid

theorem components_root_under :
    (under mountPath name).root.components =
      (Path.ofText mountPath).components ++ [.entry (Path.ofText name)] :=
  Path.components_join_name valid _

theorem ofText_display_root_under :
    Path.ofText (under mountPath name).root.display = (under mountPath name).root := by
  have relative : name.toList.head? ≠ some '/' := by
    simpa [Path.isAbsolute_ofText] using Path.isAbsolute_of_isName valid
  rw [root_under mountPath relative, Path.display_ofText]

/-- A folder of a working directory has its name in it, behind the parts of the mount. -/
theorem exists_components_folderPath (folder : String) :
    ∃ more, (Stored.folderPath (under mountPath name).root.display folder).components =
      (Path.ofText mountPath).components ++ .entry (Path.ofText name) :: more := by
  have root := ofText_display_root_under mountPath valid
  have nonempty : Path.ofText (under mountPath name).root.display ≠ [] := by
    rw [root]
    exact Path.join_ne_nil _ valid.nonempty
  rw [Stored.components_folderPath nonempty, root, components_root_under mountPath valid,
    List.append_assoc]
  exact ⟨_, rfl⟩

/-- So have the artifacts that are listed in the folder. -/
theorem exists_components_of_mem_list
    {tree : FileTree} (named : tree.HasNames) {folder : String} {paths : List Path}
    (listed : Stored.list tree (Stored.folderPath (under mountPath name).root.display folder) =
      .ok paths) {path : Path} (member : path ∈ paths) :
    ∃ more, path.components =
      (Path.ofText mountPath).components ++ .entry (Path.ofText name) :: more := by
  obtain ⟨top, found⟩ := Stored.find?_of_list listed
  obtain ⟨file, contents, inDirectory, _, rfl⟩ := Stored.exists_name_of_mem_list found listed member
  obtain ⟨more, shape⟩ := exists_components_folderPath mountPath valid folder
  rw [Path.components_join_name (named.isName_of_mem inDirectory), shape, List.append_assoc]
  exact ⟨_, rfl⟩

end Under

/-! ## Allocation -/

/-- Whether a path is on the way to a directory that is created for a pod. -/
def IsOnWay (workDir : WorkDir) (path : Path) : Prop :=
  path.components <+: workDir.videos.components ∨ path.components <+: workDir.logs.components

/-- Both directories are attempted, whatever becomes of the first one. -/
theorem allocate_of_not_reaches
    (workDir : WorkDir) {tree : FileTree} (missing : tree.reaches workDir.root = false) :
    workDir.allocate tree =
      ((tree.makeDirectories workDir.videos).1.makeDirectories workDir.logs).1 := by
  rw [allocate, missing]
  rfl

theorem allocate_gains (workDir : WorkDir) (tree : FileTree) :
    FileTree.GainsDirectories workDir.IsOnWay tree (workDir.allocate tree) := by
  cases missing : tree.reaches workDir.root with
  | true =>
      rw [allocate, if_pos missing]
      exact .refl _ tree
  | false =>
      rw [allocate_of_not_reaches workDir missing]
      exact ((FileTree.makeDirectories_gains tree workDir.videos).mono fun _ => .inl).trans
        ((FileTree.makeDirectories_gains _ workDir.logs).mono fun _ => .inr)

/-- Pods with different names below one mount are isolated.  Their folders are apart, and so is what
is listed in them, at any times.  Allocating the directory of one keeps everything in the tree and
adds directories alone, on the two ways to recordings and logs; unless the root is there already,
both are attempted, and each attempt that succeeds has its directory in the end. -/
theorem pods_are_isolated
    {first second : String} (firstName : Path.IsName (Path.ofText first))
    (secondName : Path.IsName (Path.ofText second)) (different : first ≠ second)
    (mountPath : String) :
    (∀ firstFolder secondFolder : String,
      let firstDir := Stored.folderPath (under mountPath first).root.display firstFolder
      let secondDir := Stored.folderPath (under mountPath second).root.display secondFolder
      firstDir.Apart secondDir ∧
        ∀ tree later : FileTree, tree.HasNames → later.HasNames → ∀ paths others,
          Stored.list tree firstDir = .ok paths → Stored.list later secondDir = .ok others →
          ∀ path ∈ paths, ∀ other ∈ others, path.Apart other) ∧
    ∀ tree : FileTree,
      let workDir := under mountPath first
      let after := workDir.allocate tree
      FileTree.GainsDirectories workDir.IsOnWay tree after ∧
        if tree.reaches workDir.root then after = tree
        else
          let videos := tree.makeDirectories workDir.videos
          let logs := videos.1.makeDirectories workDir.logs
          after = logs.1 ∧ (videos.2 = .ok () → after.isDirectory workDir.videos) ∧
            (logs.2 = .ok () → after.isDirectory workDir.logs) := by
  have apart : Path.ofText first ≠ Path.ofText second := fun same =>
    different (Path.ofText_injective same)
  refine ⟨fun firstFolder secondFolder => ⟨?_, ?_⟩, fun tree => ⟨allocate_gains _ tree, ?_⟩⟩
  · obtain ⟨_, firstShape⟩ := exists_components_folderPath mountPath firstName firstFolder
    obtain ⟨_, secondShape⟩ := exists_components_folderPath mountPath secondName secondFolder
    exact Path.apart_of_entry_ne apart firstShape secondShape
  · intro tree later named laterNamed paths others listed otherListed path member other otherMember
    obtain ⟨_, shape⟩ := exists_components_of_mem_list mountPath firstName named listed member
    obtain ⟨_, otherShape⟩ :=
      exists_components_of_mem_list mountPath secondName laterNamed otherListed otherMember
    exact Path.apart_of_entry_ne apart shape otherShape
  · cases missing : tree.reaches (under mountPath first).root with
    | true => simp [allocate, missing]
    | false =>
        rw [if_neg (by simp), allocate_of_not_reaches _ missing]
        refine ⟨rfl, fun success => ?_, fun success => ?_⟩
        · exact (FileTree.makeDirectories_gains _ _).isDirectory
            (FileTree.isDirectory_of_makeChain (Path.join_ne_nil _ (by decide)) success)
        · exact FileTree.isDirectory_of_makeChain (Path.join_ne_nil _ (by decide)) success

/-! ### Two pods below a mount -/

def mountTree : FileTree :=
  { entries :=
      [([Path.ofText "srv"], .directory), ([Path.ofText "srv", Path.ofText "a.log"], .file [1])] }

theorem two_pods_are_isolated :
    let first := "9b2f0c0e-55a5-4c3d-9d0b-2f6f2d1f4a11"
    let second := "0d4c7d3e-6a1f-4b7e-8f55-91f3c2a7b6d0"
    let workDir := under "/srv/" first
    Path.IsName (Path.ofText first) ∧ Path.IsName (Path.ofText second) ∧ first ≠ second ∧
      (Stored.folderPath workDir.root.display "videos").Apart
        (Stored.folderPath (under "/srv/" second).root.display "//videos/") ∧
      (workDir.allocate mountTree).isDirectory workDir.videos ∧
      (workDir.allocate mountTree).isDirectory workDir.logs ∧
      (workDir.allocate mountTree).node? [Path.ofText "srv", Path.ofText "a.log"] =
        some (.file [1]) := by
  intro first second workDir
  have firstName : Path.IsName (Path.ofText first) := by decide
  have secondName : Path.IsName (Path.ofText second) := by decide
  have different : first ≠ second := by decide
  obtain ⟨apart, careful⟩ := pods_are_isolated firstName secondName different "/srv/"
  obtain ⟨gains, attempts⟩ := careful mountTree
  have missing : mountTree.reaches workDir.root = false := by cbv
  have videosMade : (mountTree.makeDirectories workDir.videos).2 = .ok () := by cbv
  have logsMade : ((mountTree.makeDirectories workDir.videos).1.makeDirectories
      workDir.logs).2 = .ok () := by
    cbv
  rw [if_neg (by rw [missing]; simp)] at attempts
  obtain ⟨_, videos, logs⟩ := attempts
  exact ⟨firstName, secondName, different, (apart "videos" "//videos/").1, videos videosMade,
    logs logsMade, gains.kept _ _ (by cbv)⟩

end WorkDir

end BrowserPods
