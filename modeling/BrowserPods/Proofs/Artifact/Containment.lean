import BrowserPods.Artifact.Archived
import BrowserPods.Proofs.Files.Growth
import Mathlib

/-!
# Artifacts stay in their directory

Whatever names a stream gives its artifacts, writing it to a directory grows the tree below that
directory and does nothing else, even if it fails on the way.  This holds for the stream of every
archive, and no matter what is read off its bytes.
-/

namespace BrowserPods.Artifact

open BrowserPods.Text
open FileTree

/-! ## Names of artifacts -/

private theorem exists_names_of_all_isEntry
    {parts : List Path.Component} (allEntries : ∀ c ∈ parts, isEntry c) :
    ∃ names : List FileName, parts = names.map .entry := by
  induction parts with
  | nil => exact ⟨[], rfl⟩
  | cons first rest inductionHypothesis =>
      obtain ⟨names, rfl⟩ := inductionHypothesis fun c member => allEntries c (by simp [member])
      have isFirst := allEntries first (by simp)
      cases first with
      | entry name => exact ⟨name :: names, rfl⟩
      | root => cases isFirst
      | here => cases isFirst
      | up => cases isFirst

/-- A name that denotes a path below a directory denotes one that is made up of names alone. -/
theorem names_of_relativePath?
    {name : String} {relative : Path} (denoted : relativePath? name = some relative) :
    ∃ names : List FileName,
      names ≠ [] ∧ (∀ part ∈ names, Path.IsName part) ∧
        relative = [Path.slash].intercalate names := by
  unfold relativePath? at denoted
  simp only at denoted
  split at denoted
  · rename_i admitted
    simp only [Bool.and_eq_true, List.all_eq_true, Bool.not_eq_true', List.isEmpty_eq_false_iff]
      at admitted
    obtain ⟨names, shape⟩ := exists_names_of_all_isEntry admitted.1
    cases denoted
    refine ⟨names, ?_, ?_, ?_⟩
    · rintro rfl
      exact admitted.2 shape
    · intro part member
      have listed : Path.Component.entry part ∈
          (Path.ofText name).components.filter (· ≠ .here) := by
        rw [shape]
        exact List.mem_map.mpr ⟨part, member, rfl⟩
      exact Path.isName_of_mem_components (List.mem_filter.mp listed).1
    · rw [shape, Path.ofComponents_entries]
  · cases denoted

/-! ## Writing one artifact -/

variable {tree : FileTree} {top : Place} {dir : Path} {names : List FileName} {left : Nat}

theorem start_join_names
    (directory : Place) (nonempty : dir ≠ []) (valid : ∀ name ∈ names, Path.IsName name) :
    start directory (dir.join ([Path.slash].intercalate names)) = start directory dir := by
  unfold start
  rw [Path.isAbsolute_join nonempty (Path.isAbsolute_intercalate valid)]

theorem parent?_join_names
    (dir : Path) (named : names ≠ []) (valid : ∀ name ∈ names, Path.IsName name) :
    (dir.join ([Path.slash].intercalate names)).parent? =
      some (Path.ofComponents (dir.components ++ names.dropLast.map .entry)) := by
  rw [Path.parent?, Path.components_join_names dir valid]
  rcases List.eq_nil_or_concat names with empty | ⟨front, last, shape⟩
  · exact absurd empty named
  · rw [shape, List.concat_eq_append]
    simp [Path.parentComponents?, ← List.append_assoc]

private theorem finish_growsBelow
    {grown : FileTree} {contents : Bytes}
    (way : Way tree linkLimit (start tree.workingDirectory dir) dir.segments left top)
    (nonempty : dir ≠ []) (named : names ≠ []) (valid : ∀ name ∈ names, Path.IsName name)
    (noLinks : tree.NoLinksBelow top) (single : tree.NoHardLinksBelow top)
    (growth : GrowsBelow top tree grown) :
    GrowsBelow top tree
      (store.finish (dir.join ([Path.slash].intercalate names)) contents grown).1 := by
  have relative := Path.isAbsolute_intercalate valid
  have shape : (dir.join ([Path.slash].intercalate names)).segments = dir.segments ++ names := by
    rw [Path.segments_join relative,
      Path.segments_intercalate (fun name member => (valid name member).nonempty)
        fun name member => (valid name member).unbroken]
  unfold store.finish
  split
  · rename_i written success
    have later := growth.way noLinks way
    rw [← growth.workingDirectory, ← start_join_names _ nonempty valid] at later
    exact growth.trans (writeFile_growsBelow later valid named shape
      (growth.noLinksBelow noLinks) (growth.noHardLinksBelow single) success)
  · exact growth

/-- Writing an artifact to a path below a directory grows the tree below that directory. -/
theorem store_growsBelow
    (contents : Bytes)
    (way : Way tree linkLimit (start tree.workingDirectory dir) dir.segments left top)
    (nonempty : dir ≠ []) (named : names ≠ []) (valid : ∀ name ∈ names, Path.IsName name)
    (noLinks : tree.NoLinksBelow top) (single : tree.NoHardLinksBelow top) :
    GrowsBelow top tree
      (store tree (dir.join ([Path.slash].intercalate names)) contents).1 := by
  have validAbove : ∀ name ∈ names.dropLast, Path.IsName name :=
    fun name member => valid name (List.dropLast_subset names member)
  have chained : GrowsBelow top tree (tree.makeDirectories
      (Path.ofComponents (dir.components ++ names.dropLast.map .entry))).1 :=
    (makeDirectories_opensWay way validAbove noLinks).growsBelow
  unfold store
  rw [parent?_join_names dir named valid]
  cases outcome : tree.makeDirectories
      (Path.ofComponents (dir.components ++ names.dropLast.map .entry)) with
  | mk grown result =>
      rw [outcome] at chained
      cases result with
      | error fault =>
          simp only [outcome]
          exact chained
      | ok _ =>
          simp only [outcome]
          exact finish_growsBelow way nonempty named valid noLinks single chained

/-! ## Writing a stream -/

/-- Every item of a stream grows the tree below the directory, and so does the whole stream. -/
theorem saveFrom_growsBelow
    (stream : PendingArtifacts) (written : Nat)
    (way : Way tree linkLimit (start tree.workingDirectory dir) dir.segments left top)
    (nonempty : dir ≠ []) (noLinks : tree.NoLinksBelow top)
    (single : tree.NoHardLinksBelow top) :
    GrowsBelow top tree (saveFrom dir written tree stream).1 := by
  induction stream generalizing tree written with
  | nil => exact .refl top tree
  | cons item rest inductionHypothesis =>
      rw [saveFrom]
      split
      · exact .refl top tree
      · rename_i artifact _
        split
        · exact inductionHypothesis written way noLinks single
        · rename_i relative denoted
          obtain ⟨names, named, valid, rfl⟩ := names_of_relativePath? denoted
          have growth :=
            store_growsBelow artifact.contents way nonempty named valid noLinks single
          simp only
          split
          · rename_i grown stored
            rw [stored] at growth
            have later := growth.way noLinks way
            rw [← growth.workingDirectory] at later
            exact growth.trans (inductionHypothesis (written + 1) later
              (growth.noLinksBelow noLinks) (growth.noHardLinksBelow single))
          · rename_i grown fault stored
            rw [stored] at growth
            exact growth

theorem saveAll_growsBelow
    (stream : PendingArtifacts) (found : tree.find? true dir = .ok (top, .directory))
    (noLinks : tree.NoLinksBelow top) (single : tree.NoHardLinksBelow top) :
    GrowsBelow top tree (saveAll tree dir stream).1 := by
  obtain ⟨nonempty, left, way⟩ := way_of_find? found
  exact saveFrom_growsBelow stream 0 way nonempty noLinks single

/-- Containment.  Let any bytes be received as an archive, and let anything be read off them:
writing the artifacts to a directory without links below it leaves everything else as it is, whether
it succeeds or not, and all that it puts below the directory are files and directories, each file at
that one place.  The stream of an archive (`Archived.stream`) is the case where `Tar.read` reads. -/
theorem archive_stays_below_directory
    (reader : Bytes → List Tar.Member × Option Tar.Fault) (containerId : String) (archive : Bytes)
    (tree : FileTree) (dir : Path) (top : Place)
    (found : tree.find? true dir = .ok (top, .directory))
    (noLinks : tree.NoLinksBelow top) (single : tree.NoHardLinksBelow top) :
    let after := (saveAll tree dir (Archived.streamOf containerId (reader archive))).1
    (∀ place, ¬ Below top place →
      after.node? place = tree.node? place ∧ after.placesOfFile place = tree.placesOfFile place) ∧
    (∀ place node, after.node? place = some node → tree.node? place ≠ some node →
      Below top place ∧ node.IsPlain ∧ after.placesOfFile place = [place]) := by
  intro after
  have growth : GrowsBelow top tree after := saveAll_growsBelow _ found noLinks single
  refine ⟨?_, ?_⟩
  · intro place away
    refine ⟨growth.outside place away, ?_⟩
    unfold placesOfFile
    rw [growth.hardLinks]
  · intro place node present new
    have below : Below top place := by
      apply Classical.byContradiction
      intro away
      rw [growth.outside place away] at present
      exact new present
    refine ⟨below, ?_, growth.noHardLinksBelow single place below⟩
    exact (growth.plain place node present).resolve_left new

/-! ### A hostile archive -/

def outPlace : Place := [Path.ofText "out"]

/-- A tree where `/away` leads to `/out`, which holds a file, and where the file `/secret` is at
another place, too. -/
def linkedTree : FileTree :=
  { entries :=
      [(outPlace, .directory), (outPlace ++ [Path.ofText "old"], .file [1]),
        ([Path.ofText "away"], .link (Path.ofText "/out")),
        ([Path.ofText "secret"], .file [2]), ([Path.ofText "copy"], .file [2])]
    hardLinks := [[[Path.ofText "secret"], [Path.ofText "copy"]]] }

theorem find?_linkedTree :
    linkedTree.find? true (Path.ofText "/away") = .ok (outPlace, .directory) := by
  cbv

theorem noLinksBelow_linkedTree : linkedTree.NoLinksBelow outPlace := by
  rintro place ⟨name, names, rfl⟩ aim
  simp only [node?, linkedTree, outPlace, List.lookup_cons, List.cons_append, List.nil_append]
  cases old : name :: names == [Path.ofText "old"] <;> simp [old]

theorem noHardLinksBelow_linkedTree : linkedTree.NoHardLinksBelow outPlace := by
  rintro place ⟨name, names, rfl⟩
  simp [placesOfFile, linkedTree, outPlace]

/-- Members whose names try to lead elsewhere, and a fault behind them. -/
def hostileContent : List Tar.Member × Option Tar.Fault :=
  let member (name : String) (kind : Tar.Kind) : Tar.Member :=
    { path := Path.ofText name, kind, contents := [3] }
  ([member "./../secret" .regular, member "/secret" .regular, member ".//secret" .regular,
    member "logs/link" .other, member "./logs/a.log" .regular, member "old" .regular],
    some .truncated)

theorem hostile_archive_stays_below_out :
    linkedTree.find? true (Path.ofText "/away") = .ok (outPlace, .directory) ∧
      linkedTree.NoLinksBelow outPlace ∧ linkedTree.NoHardLinksBelow outPlace ∧
      let after := (saveAll linkedTree (Path.ofText "/away")
        (Archived.streamOf "grid-1" ((fun _ => hostileContent) ([] : Bytes)))).1
      (∀ place, ¬ Below outPlace place →
        after.node? place = linkedTree.node? place ∧
          after.placesOfFile place = linkedTree.placesOfFile place) ∧
      (∀ place node, after.node? place = some node → linkedTree.node? place ≠ some node →
        Below outPlace place ∧ node.IsPlain ∧ after.placesOfFile place = [place]) := by
  exact ⟨find?_linkedTree, noLinksBelow_linkedTree, noHardLinksBelow_linkedTree,
    archive_stays_below_directory (fun _ => hostileContent) "grid-1" [] linkedTree
      (Path.ofText "/away") outPlace find?_linkedTree noLinksBelow_linkedTree
      noHardLinksBelow_linkedTree⟩

end BrowserPods.Artifact
