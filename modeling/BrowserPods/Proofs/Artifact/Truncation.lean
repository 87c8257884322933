import BrowserPods.Proofs.Artifact.Agreement
import BrowserPods.Proofs.Tar.Cutting
import Mathlib

/-!
# Streams of archives that are cut off

An archive may end anywhere, since the command that writes it or the channel that it comes through
may die.  What is left of it yields the first artifacts of the whole archive; only the contents of
the last one may be cut off, and a failure at the end says that something is missing, if it can be
noticed at all (`Archived.cut_archive_shortens_stream`).
-/

namespace BrowserPods

open BrowserPods.Text

namespace Shortened

variable {α β : Type} {isCut : α → α → Prop} {isCutImage : β → β → Prop} {f : α → Option β}
  {xs ys : List α}

theorem filterMap
    (image : ∀ x y, isCut x y →
      (f x = .none ∧ f y = .none) ∨ ∃ u v, f x = some u ∧ f y = some v ∧ isCutImage u v)
    (shortened : Shortened isCut xs ys) :
    Shortened isCutImage (xs.filterMap f) (ys.filterMap f) := by
  induction shortened with
  | none whole => exact .none _
  | last others cut =>
      rcases image _ _ cut with ⟨left, right⟩ | ⟨u, v, left, right, cutImage⟩
      · rw [List.filterMap_cons_none left]
        exact .none _
      · rw [List.filterMap_cons_some left, List.filterMap_cons_some right]
        exact .last _ cutImage
  | next x later inductionHypothesis =>
      cases kept : f x with
      | none =>
          rw [List.filterMap_cons_none kept, List.filterMap_cons_none kept]
          exact inductionHypothesis
      | some u =>
          rw [List.filterMap_cons_some kept, List.filterMap_cons_some kept]
          exact .next u inductionHypothesis

end Shortened

/-- Whether an artifact is another one whose contents may be cut off. -/
structure Artifact.IsCutOf (cut whole : Artifact) : Prop where
  name : cut.name = whole.name
  contents : cut.contents <+: whole.contents

namespace Archived

theorem artifact?_of_isCutOf {cut whole : Tar.Member} (isCut : cut.IsCutOf whole) :
    (artifact? cut = none ∧ artifact? whole = none) ∨
      ∃ short long, artifact? cut = some short ∧ artifact? whole = some long ∧
        short.IsCutOf long := by
  obtain ⟨path, kind, contents⟩ := isCut
  by_cases regular : whole.kind = .regular
  · refine .inr ⟨_, _, if_pos (kind.trans regular), if_pos regular, ?_, contents⟩
    rw [path]
  · exact .inl ⟨if_neg (kind ▸ regular), if_neg regular⟩

/-- What a stream yields if nothing comes behind a failure: artifacts, and then the end or a failure
to read on and the end. -/
def Yields (containerId : String) (stream : PendingArtifacts) (artifacts : List Artifact) : Prop :=
  ∃ ending ∈ [[], [.decoded (.error { cause := .artifactUnreadable containerId })]],
    stream = artifacts.map (fun artifact => .decoded (.ok artifact)) ++ ending

theorem stream_yields (containerId : String) (archive : Bytes) :
    Yields containerId (stream containerId archive)
      ((Tar.read archive).1.filterMap artifact?) := by
  rw [stream, streamOf, items]
  split
  · refine ⟨[], List.mem_cons_self, ?_⟩
    rw [List.map_map, List.append_nil]
    rfl
  · refine ⟨_, List.mem_cons_of_mem _ List.mem_cons_self, ?_⟩
    rw [List.map_append, List.map_map]
    rfl

/-- The stream of an archive that is cut off.  It yields the first artifacts of the whole archive,
the last of them with contents that may be cut off, and then it ends, with or without a failure.
The stream of the whole archive, whatever bytes it is, has nothing behind a failure, either. -/
theorem cut_archive_shortens_stream
    (containerId : String) {cut archive : Bytes} (initial : cut <+: archive) :
    ∃ found whole : List Artifact,
      Yields containerId (stream containerId cut) found ∧
        Yields containerId (stream containerId archive) whole ∧
        Shortened Artifact.IsCutOf found whole :=
  ⟨_, _, stream_yields containerId cut, stream_yields containerId archive,
    (Tar.shortened_read initial).filterMap fun _ _ => artifact?_of_isCutOf⟩

/-- An archive of which the second file is cut off before its only byte. -/
def cutArchive : Bytes := Artifact.logsArchive.take 2048

theorem cutArchive_shortens_stream :
    cutArchive <+: Artifact.logsArchive ∧
      ∃ found whole : List Artifact,
        Yields "grid-1" (stream "grid-1" cutArchive) found ∧
          Yields "grid-1" (stream "grid-1" Artifact.logsArchive) whole ∧
          Shortened Artifact.IsCutOf found whole :=
  ⟨List.take_prefix _ _, cut_archive_shortens_stream "grid-1" (List.take_prefix _ _)⟩

end Archived

end BrowserPods
