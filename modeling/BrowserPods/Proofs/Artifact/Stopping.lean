import BrowserPods.Proofs.Artifact.Saving
import BrowserPods.Proofs.Files.Creation
import Mathlib

/-!
# Where writing a stream stops

Writing a stream to a directory stops at the first item that cannot be read or written, in any tree
(`Artifact.failure_ends_saving`).  The files are left as the items before it left them, but for
parents of the file that cannot be written, and what comes behind that item makes no difference.
-/

namespace BrowserPods

open BrowserPods.Text
open FileTree

/-! ## Barred paths -/

namespace Path

/-- Whether a path leads to a directory in which another one lies. -/
def IsAbove (target path : Path) : Prop := path.components <+: target.components.dropLast

/-- Whether no file can be written to a path because a parent is a file, or because the path leads
to a directory. -/
def IsBarred (tree : FileTree) (target : Path) : Prop :=
  (∃ parts place contents, parts <+: target.components.dropLast ∧
    tree.find? true (ofComponents parts) = .ok (place, .file contents)) ∨
  tree.isDirectory target

end Path

namespace Artifact

variable {dir : Path} {tree grown after : FileTree} {item : Pending} {artifact : Artifact}

theorem IsNamed.components_target (named : artifact.IsNamed) (dir : Path) :
    (artifact.target dir).components = dir.components ++ artifact.relative.segments.map .entry := by
  obtain ⟨_, valid, shape⟩ := named.names
  have components := Path.components_join_names dir valid
  rw [← shape] at components
  exact components

/-- The parents of an artifact are the beginnings of its path. -/
theorem IsNamed.parent?_target (named : artifact.IsNamed) (dir : Path) :
    (artifact.target dir).parent? =
      some (Path.ofComponents (artifact.target dir).components.dropLast) := by
  obtain ⟨hasNames, valid, shape⟩ := named.names
  have above := parent?_join_names dir hasNames valid
  rw [← shape] at above
  rw [named.components_target dir, List.dropLast_append_of_ne_nil (by simpa using hasNames),
    ← List.map_dropLast]
  exact above

/-! ## A file that cannot be written -/

/-- A file that cannot be written leaves nothing but parents behind. -/
theorem gains_of_refused {contents : Bytes} {fault : FileFault} (named : artifact.IsNamed)
    (refused : store tree (artifact.target dir) contents = (grown, .error fault)) :
    GainsDirectories (Path.IsAbove (artifact.target dir)) tree grown := by
  have gains := makeDirectories_gains tree
    (Path.ofComponents (artifact.target dir).components.dropLast)
  rw [Path.components_ofComponents_dropLast] at gains
  rw [store, named.parent?_target dir] at refused
  cases made : tree.makeDirectories
      (Path.ofComponents (artifact.target dir).components.dropLast) with
  | mk opened outcome =>
      rw [made] at gains
      cases outcome with
      | error fault =>
          simp only [made] at refused
          cases refused
          exact gains
      | ok done =>
          simp only [made, store.finish] at refused
          split at refused
          · cases refused
          · cases refused
            exact gains

theorem not_isBarred_of_stored {contents : Bytes} (named : artifact.IsNamed)
    (stored : store tree (artifact.target dir) contents = (grown, .ok ())) :
    ¬ Path.IsBarred tree (artifact.target dir) := by
  have above := named.parent?_target dir
  obtain ⟨opened, made, success⟩ := exists_opened_of_store above stored
  have gains := makeDirectories_gains tree
    (Path.ofComponents (artifact.target dir).components.dropLast)
  rw [made] at gains
  intro barred
  rcases barred with ⟨parts, place, contents, initial, isFile⟩ | isDirectory
  · -- The file is there still, and the parent behind it is a directory.
    have resolvable := resolvable_of_resolve (resolve_of_find? isFile).1
    have hasParent : Path.ofComponents (artifact.target dir).components.dropLast ≠ [] := by
      intro empty
      have nothing := Path.components_ofComponents_dropLast (artifact.target dir)
      rw [empty] at nothing
      rw [← nothing] at initial
      apply resolvable.nonempty
      rw [List.prefix_nil.mp initial]
      rfl
    have parent : opened.isDirectory
        (Path.ofComponents (artifact.target dir).components.dropLast) := by
      have created := isDirectory_of_makeChain hasParent (congrArg Prod.snd made)
      rw [← makeDirectories, made] at created
      exact created
    have canonical := (Path.canonical_components (artifact.target dir)).of_beginning
      (List.dropLast_prefix _)
    obtain ⟨middle, isDirectory⟩ :=
      isDirectory_iff.mp (isDirectory_of_beginning canonical initial resolvable parent)
    have still := find?_file_of_persistent isFile gains.workingDirectory
      (fun place => gains.kept place .directory) (fun place aim => gains.kept place (.link aim))
      (gains.kept _ _ (resolve_of_find? isFile).2)
    cases still.symm.trans isDirectory
  · obtain ⟨place, found⟩ := isDirectory_iff.mp isDirectory
    obtain ⟨resolved, directory⟩ := resolve_of_find? (gains.find?_directory found)
    rw [writeFile, resolved] at success
    simp only [directory] at success
    split at success <;> cases success

/-! ## A stream that stops -/

/-- A stream is written item by item. -/
theorem saveFrom_append {front : PendingArtifacts} {written count : ℕ}
    (success : saveFrom dir written tree front = (grown, .ok count)) (rest : PendingArtifacts) :
    saveFrom dir written tree (front ++ rest) = saveFrom dir count grown rest := by
  induction front generalizing tree written with
  | nil =>
      cases success
      rfl
  | cons item others inductionHypothesis =>
      obtain ⟨artifact, read, outcome⟩ := saved_cons success
      rw [List.cons_append]
      rcases outcome with ⟨unnamed, skipped⟩ | ⟨named, next, stored, saved⟩
      · rw [saveFrom_of_unnamed written read unnamed]
        exact inductionHypothesis skipped
      · rw [saveFrom_of_stored written read named stored]
        exact inductionHypothesis saved

/-- After some items that are written or skipped the next one decides.  If it cannot be read, its
failure is the answer and the tree stays as it is.  If its name is none of a file below the
directory, it is skipped.  If it is written, it counts; that happens only where its path is not
barred.  Otherwise the answer names it, and its parents are all that may be new.  Nothing behind
an item that fails makes a difference. -/
theorem failure_ends_saving {front : PendingArtifacts} {handled : ℕ}
    (success : saveAll tree dir front = (grown, .ok handled)) (item : Pending) :
    (∀ failure, item.read grown = .error failure →
      ∀ rest, saveAll tree dir (front ++ item :: rest) = (grown, .error failure)) ∧
    ∀ artifact, item.read grown = .ok artifact →
      (¬ artifact.IsNamed ∧ saveAll tree dir (front ++ [item]) = (grown, .ok handled)) ∨
      (artifact.IsNamed ∧ ¬ Path.IsBarred grown (artifact.target dir) ∧
        ∃ after, saveAll tree dir (front ++ [item]) = (after, .ok (handled + 1))) ∨
      (artifact.IsNamed ∧ ∃ after,
        GainsDirectories (Path.IsAbove (artifact.target dir)) grown after ∧
        ∀ rest, saveAll tree dir (front ++ item :: rest) =
          (after, .error
            { cause := .artifactUnwritable artifact.name (artifact.target dir).display })) := by
  have further : ∀ rest, saveAll tree dir (front ++ item :: rest) =
      saveFrom dir handled grown (item :: rest) :=
    fun rest => saveFrom_append success (item :: rest)
  constructor
  · intro failure unread rest
    rw [further rest, saveFrom_of_unread handled unread]
  · intro artifact read
    by_cases named : artifact.IsNamed
    · right
      cases stored : store grown (artifact.target dir) artifact.contents with
      | mk after outcome =>
          cases outcome with
          | ok done =>
              left
              refine ⟨named, not_isBarred_of_stored named stored, after, ?_⟩
              rw [further [], saveFrom_of_stored handled read named stored]
              rfl
          | error fault =>
              right
              refine ⟨named, after, gains_of_refused named stored, ?_⟩
              intro rest
              rw [further rest, saveFrom_of_refused handled read named stored]
    · left
      refine ⟨named, ?_⟩
      rw [further [], saveFrom_of_unnamed handled read named]
      rfl

def artifactBelowFile : Artifact := { name := "old/sub/x.log", contents := [4] }

theorem file_above_ends_saving :
    ∃ grown after,
      saveAll linkedTree (Path.ofText "/away")
        (streamed [{ name := "logs/a.log", contents := [3] }]) = (grown, .ok 1) ∧
      GainsDirectories (Path.IsAbove (Path.ofText "/away/old/sub/x.log")) grown after ∧
      ∀ rest, saveAll linkedTree (Path.ofText "/away")
          (streamed [{ name := "logs/a.log", contents := [3] }] ++
            .decoded (.ok artifactBelowFile) :: rest) =
        (after,
          .error { cause := .artifactUnwritable "old/sub/x.log" "/away/old/sub/x.log" }) := by
  have target : artifactBelowFile.target (Path.ofText "/away") =
      Path.ofText "/away/old/sub/x.log" := by
    decide +kernel
  have shown : (Path.ofText "/away/old/sub/x.log").display = "/away/old/sub/x.log" := by
    decide +kernel
  have written :
      (saveAll linkedTree (Path.ofText "/away")
        (streamed [{ name := "logs/a.log", contents := [3] }])).2 = .ok 1 := by
    cbv
  have isFile :
      (saveAll linkedTree (Path.ofText "/away")
        (streamed [{ name := "logs/a.log", contents := [3] }])).1.find? true
          (Path.ofComponents (Path.ofText "/away/old").components) =
        .ok (outPlace ++ [Path.ofText "old"], .file [1]) := by
    cbv
  have initial : (Path.ofText "/away/old").components <+:
      (Path.ofText "/away/old/sub/x.log").components.dropLast := by
    decide +kernel
  generalize outcome : saveAll linkedTree (Path.ofText "/away")
    (streamed [{ name := "logs/a.log", contents := [3] }]) = saved at written isFile
  obtain ⟨grown, result⟩ := saved
  cases written
  have barred : Path.IsBarred grown (artifactBelowFile.target (Path.ofText "/away")) := by
    rw [target]
    exact .inl ⟨_, _, _, initial, isFile⟩
  have named : artifactBelowFile.IsNamed := by decide +kernel
  rcases (failure_ends_saving outcome (.decoded (.ok artifactBelowFile))).2 _ rfl with
    ⟨unnamed, _⟩ | ⟨_, free, _⟩ | ⟨_, after, gains, ended⟩
  · exact absurd named unnamed
  · exact absurd barred free
  · rw [target] at gains ended
    rw [shown] at ended
    exact ⟨grown, after, rfl, gains, ended⟩

end Artifact

end BrowserPods
