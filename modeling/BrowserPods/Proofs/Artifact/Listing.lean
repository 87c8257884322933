import BrowserPods.Proofs.Artifact.Agreement
import BrowserPods.Proofs.Artifact.Links
import Mathlib

/-!
# Listing a directory and reading what is listed

A directory lists the regular files in it that are artifacts by their names, each once and in
ascending order, and the stream of these files yields one item for each of them, which tells what is
in the file when the item is read (`Stored.each_file_is_listed_and_read`).  A file that cannot be
read by then changes nothing about the others.
-/

namespace BrowserPods

open BrowserPods.Text
open FileTree

/-! ## Extensions -/

/-- The extension of a name stands behind its last dot, and something stands before that dot. -/
theorem Path.extensionOf?_eq_some_iff {name extension : FileName} :
    Path.extensionOf? name = some extension ↔
      Path.dot ∉ extension ∧ ∃ stem, stem ≠ [] ∧ name = stem ++ Path.dot :: extension := by
  constructor
  · intro found
    rw [Path.extensionOf?] at found
    have whole := List.takeWhile_append_dropWhile (p := (· ≠ Path.dot)) (l := name.reverse)
    split at found
    · cases found
    · rename_i first stem shape
      split at found
      · cases found
      · rename_i nonempty
        cases found
        have isDot : first = Path.dot := by
          have head := List.head?_dropWhile_not (· ≠ Path.dot) name.reverse
          rw [shape] at head
          simpa using head
        refine ⟨?_, stem.reverse, by simpa using nonempty, ?_⟩
        · intro member
          simpa using List.mem_takeWhile_imp (List.mem_reverse.mp member)
        · rw [shape, isDot] at whole
          have same := congrArg List.reverse whole
          simpa using same.symm
  · intro parts
    obtain ⟨noDot, stem, nonempty, shape⟩ := parts
    have reversed : name.reverse = extension.reverse ++ Path.dot :: stem.reverse := by
      simp [shape]
    have plain : ∀ byte ∈ extension.reverse, decide (byte ≠ Path.dot) = true := by
      intro byte member
      have different : byte ≠ Path.dot := by
        intro same
        rw [same, List.mem_reverse] at member
        exact noDot member
      simpa using different
    rw [Path.extensionOf?, reversed]
    rw [List.takeWhile_append_of_pos plain, List.dropWhile_append_of_pos plain]
    simp [nonempty]

namespace Stored

open Artifact (logsPlace)

variable {tree : FileTree} {dir : Path} {top : Place} {name : FileName}

/-- Whether a name is one of an artifact: something, a dot, and the extension of a log or a
recording. -/
def IsArtifactName (name : FileName) : Prop :=
  ∃ stem, stem ≠ [] ∧ ∃ extension ∈ extensions, name = stem ++ Path.dot :: extension

theorem hasArtifactName_iff (valid : Path.IsName name) :
    hasArtifactName name ↔ IsArtifactName name := by
  have undotted : ∀ extension ∈ extensions, Path.dot ∉ extension := by decide
  rw [hasArtifactName, Path.extension?, Path.fileName?_of_isName valid, Option.bind_some,
    Option.any_eq_true]
  constructor
  · intro isKnown
    obtain ⟨extension, found, known⟩ := isKnown
    obtain ⟨_, stem, nonempty, shape⟩ := Path.extensionOf?_eq_some_iff.mp found
    exact ⟨stem, nonempty, extension, by simpa using known, shape⟩
  · intro isArtifact
    obtain ⟨stem, nonempty, extension, known, shape⟩ := isArtifact
    have found := Path.extensionOf?_eq_some_iff.mpr
      ⟨undotted extension known, stem, nonempty, shape⟩
    exact ⟨extension, found, by simpa using known⟩

/-! ## What is listed and read -/

/-- Paths behind one directory are in the order of their names. -/
theorem pairwise_map_join {names : List FileName} (valid : ∀ name ∈ names, Path.IsName name)
    (ascending : names.Pairwise (· < ·)) (dir : Path) :
    (names.map dir.join).Pairwise (· < ·) := by
  obtain ⟨front, shape, _⟩ := Path.exists_front_of_join dir
  rw [List.pairwise_map]
  apply ascending.imp_of_mem
  intro first second isFirst isSecond before
  rw [shape first (Path.isAbsolute_of_isName (valid first isFirst)),
    shape second (Path.isAbsolute_of_isName (valid second isSecond))]
  exact List.append_left_lt before

/-- What the items of a stream yield that are read one after the other while the files change. -/
def readEach (later : ℕ → FileTree) (items : PendingArtifacts) : List (Except Failure Artifact) :=
  items.mapIdx fun turn item => item.read (later turn)

/-- Listing and reading lose and repeat nothing, in a tree with one thing at each place.  What is
listed are the regular files directly in the directory with names of artifacts, each once and in
ascending order.  Whatever happens to the files then, there is one item for each of them, in this
order, and an item tells what its file holds when its turn comes, or that it cannot be read. -/
theorem each_file_is_listed_and_read
    (distinct : (tree.entries.map (·.1)).Nodup) (named : tree.HasNames)
    (found : tree.find? true dir = .ok (top, .directory)) (containerId : String) :
    ∃ names : List FileName, list tree dir = .ok (names.map dir.join) ∧
      names.Pairwise (· < ·) ∧ (names.map dir.join).Pairwise (· < ·) ∧
      (∀ name, name ∈ names ↔
        IsArtifactName name ∧ ∃ contents, tree.node? (top ++ [name]) = some (.file contents)) ∧
      ∀ later : ℕ → FileTree,
        readEach later (stream containerId (names.map dir.join)) =
          names.mapIdx fun turn name =>
            match (later turn).readFile (dir.join name) with
            | .ok contents => .ok { name := Utf8.decodeLossy name, contents }
            | .error _ => .error
                { cause := .artifactUnreadable containerId
                  notes := ["path: " ++ (dir.join name).display] } := by
  have valid : ∀ file ∈ tree.filesIn top, Path.IsName file.1 := by
    intro file listed
    have entry := (mem_filesBelow.mp (mem_filesIn.mp listed)).2
    exact named _ entry file.1 (by simp)
  have validNames : ∀ name ∈ names tree top, Path.IsName name := by
    intro name listed
    obtain ⟨_, contents, inDirectory⟩ := mem_names.mp listed
    exact valid _ inDirectory
  have ascending : (names tree top).Pairwise (· < ·) := pairwise_names distinct
  refine ⟨names tree top, list_eq_names found distinct valid, ascending,
    pairwise_map_join validNames ascending dir, ?_, ?_⟩
  · intro name
    rw [mem_names]
    constructor
    · intro listed
      obtain ⟨isArtifact, contents, inDirectory⟩ := listed
      exact ⟨(hasArtifactName_iff (valid _ inDirectory)).mp isArtifact, contents,
        (mem_filesIn_iff distinct).mp inDirectory⟩
    · intro there
      obtain ⟨isArtifact, contents, present⟩ := there
      have inDirectory := (mem_filesIn_iff distinct).mpr present
      exact ⟨(hasArtifactName_iff (valid _ inDirectory)).mpr isArtifact, contents, inDirectory⟩
  · intro later
    rw [readEach, stream, List.map_map]
    apply List.ext_getElem
    · simp
    · intro turn inItems inNames
      simp only [List.getElem_mapIdx, List.getElem_map, Function.comp_apply]
      exact read_join (validNames _ (List.getElem_mem _)) dir containerId (later turn)

def mixedTree : FileTree :=
  { entries :=
      [(logsPlace, .directory), (logsPlace ++ [Path.ofText "b.mp4"], .file [2]),
        (logsPlace ++ [Path.ofText "a.log"], .file [1]),
        (logsPlace ++ [Path.ofText ".log"], .file [3]),
        (logsPlace ++ [Path.ofText "c.txt"], .file [4]),
        (logsPlace ++ [Path.ofText "d.log"], .directory),
        (logsPlace ++ [Path.ofText "e.log"], .link (Path.ofText "a.log"))] }

/-- The tree as it is when each item is read: the log is away when the first one is. -/
def logRemoved (turn : ℕ) : FileTree :=
  if turn = 0 then mixedTree.erase (logsPlace ++ [Path.ofText "a.log"]) else mixedTree

/-- A log that is removed after it was listed does not end the stream. -/
theorem removed_file_is_one_failure :
    (mixedTree.entries.map (·.1)).Nodup ∧ mixedTree.HasNames ∧
      mixedTree.find? true (Path.ofText "/logs") = .ok (logsPlace, .directory) ∧
      ∃ names : List FileName,
        list mixedTree (Path.ofText "/logs") = .ok (names.map (Path.ofText "/logs").join) ∧
        names.Pairwise (· < ·) ∧
        readEach logRemoved (stream "grid-1" (names.map (Path.ofText "/logs").join)) =
          [.error
            { cause := .artifactUnreadable "grid-1", notes := ["path: /logs/a.log"] },
            .ok { name := "b.mp4", contents := [2] }] := by
  have distinct : (mixedTree.entries.map (·.1)).Nodup := by decide
  have named : mixedTree.HasNames := by decide
  have found : mixedTree.find? true (Path.ofText "/logs") = .ok (logsPlace, .directory) := by cbv
  obtain ⟨names, listed, ascending, _, _, _⟩ :=
    each_file_is_listed_and_read distinct named found "grid-1"
  have computed : list mixedTree (Path.ofText "/logs") =
      .ok [Path.ofText "/logs/a.log", Path.ofText "/logs/b.mp4"] := by
    cbv
  have paths := Except.ok.inj (listed.symm.trans computed)
  refine ⟨distinct, named, found, names, listed, ascending, ?_⟩
  rw [paths]
  cbv

end Stored

end BrowserPods
