import BrowserPods.Proofs.Artifact.Stripping
import BrowserPods.Proofs.Tar.RoundTrip
import Mathlib

/-!
# Artifacts that were archived

The stream of an archive yields the regular files that were written to it, in their order and with
their contents, and nothing else (`Artifact.archived_files_are_restored`).  Whoever stops after some
artifacts has the first ones.
-/

namespace BrowserPods

open BrowserPods.Text

/-! ## Reading a stream of artifacts -/

namespace StreamReading

theorem readFrom_artifacts (tree : FileTree) (done artifacts : List Artifact) (limit : Option ℕ) :
    readFrom tree done limit (artifacts.map fun artifact => .decoded (.ok artifact)) =
      { artifacts := done.reverse ++ limit.elim artifacts artifacts.take, failure := none } := by
  induction artifacts generalizing done limit with
  | nil => cases limit with
    | none => simp [readFrom]
    | some count => cases count <;> simp [readFrom]
  | cons artifact others inductionHypothesis =>
      cases limit with
      | none => simp [readFrom, Pending.read, inductionHypothesis]
      | some count =>
          cases count with
          | zero => simp [readFrom]
          | succ count => simp [readFrom, Pending.read, inductionHypothesis]

/-- Reading a stream of artifacts gives all of them, or the first ones up to the limit. -/
theorem ofStream_artifacts (tree : FileTree) (artifacts : List Artifact) (limit : Option ℕ) :
    ofStream tree limit (artifacts.map fun artifact => .decoded (.ok artifact)) =
      { artifacts := limit.elim artifacts artifacts.take, failure := none } := by
  rw [ofStream, readFrom_artifacts]
  rfl

end StreamReading

namespace Artifact

/-- Whether an artifact is an archived file: its contents are those of the file, and its name is the
path of the file without the run of `./` in front. -/
structure IsFile (entry : Tar.Entry) (artifact : Artifact) : Prop where
  contents : artifact.contents = entry.contents
  stripped : ∃ count, entry.path.toList = Archived.run count ++ artifact.name.toList
  bare : ¬ ['.', '/'] <+: artifact.name.toList

theorem artifact?_member (entry : Tar.Entry) :
    if entry.kind = .regular then
      ∃ artifact, Archived.artifact? entry.member = some artifact ∧ IsFile entry artifact
    else Archived.artifact? entry.member = none := by
  split
  · rename_i regular
    have kind : entry.member.kind = .regular := by
      rw [Tar.Entry.member, regular]
      rfl
    obtain ⟨count, shape, bare⟩ := Archived.exists_run entry.path.toList
    have path : Utf8.decodeLossy entry.member.path = entry.path :=
      Utf8.decodeLossy_encode entry.path
    refine ⟨_, if_pos kind, rfl, ⟨count, ?_⟩, ?_⟩
    · rw [path, String.toList_ofList]
      exact shape
    · rw [path, String.toList_ofList]
      exact bare
  · rename_i irregular
    refine if_neg ?_
    rw [Tar.Entry.member, Tar.Entry.ofByte_byte, if_neg irregular]
    nofun

theorem exists_artifacts (entries : List Tar.Entry) :
    ∃ artifacts, (entries.map Tar.Entry.member).filterMap Archived.artifact? = artifacts ∧
      List.Forall₂ IsFile (entries.filter fun entry => entry.kind = .regular) artifacts := by
  induction entries with
  | nil => exact ⟨[], rfl, .nil⟩
  | cons entry others inductionHypothesis =>
      obtain ⟨artifacts, rest, files⟩ := inductionHypothesis
      have first := artifact?_member entry
      split at first
      · rename_i regular
        obtain ⟨artifact, found, isFile⟩ := first
        refine ⟨artifact :: artifacts, ?_, ?_⟩
        · rw [List.map_cons, List.filterMap_cons_some found, rest]
        · rw [List.filter_cons_of_pos (by simpa using regular)]
          exact .cons isFile files
      · rename_i irregular
        refine ⟨artifacts, ?_, ?_⟩
        · rw [List.map_cons, List.filterMap_cons_none first, rest]
        · rwa [List.filter_cons_of_neg (by simpa using irregular)]

/-- The stream of an archive yields its regular files and ends, whatever follows the archive, and
reading up to some number of artifacts gives that many of the first ones.  The archive must not be
longer than its positions can say, in 64 bits. -/
theorem archived_files_are_restored
    (containerId : String) (entries : List Tar.Entry) (filler : Bytes)
    (room : (Tar.write entries).length ≤ Numeral.max64) :
    ∃ artifacts : List Artifact,
      List.Forall₂ IsFile (entries.filter fun entry => entry.kind = .regular) artifacts ∧
      Archived.stream containerId (Tar.write entries ++ filler) =
        artifacts.map (fun artifact => .decoded (.ok artifact)) ∧
      ∀ tree limit,
        StreamReading.ofStream tree limit
            (Archived.stream containerId (Tar.write entries ++ filler)) =
          { artifacts := limit.elim artifacts artifacts.take, failure := none } := by
  obtain ⟨artifacts, restored, files⟩ := exists_artifacts entries
  have whole : Archived.stream containerId (Tar.write entries ++ filler) =
      artifacts.map fun artifact => .decoded (.ok artifact) := by
    have read := Tar.read_write entries filler room
    rw [Archived.stream_of_whole containerId (by rw [read]), read, restored]
  refine ⟨artifacts, files, whole, fun tree limit => ?_⟩
  rw [whole]
  exact StreamReading.ofStream_artifacts tree artifacts limit

def blankDetails : Tar.Details :=
  { owner := List.replicate 24 0
    time := List.replicate 12 0
    wideSum := false
    more := List.replicate 247 0
    length_owner := List.length_replicate
    length_time := List.length_replicate
    length_more := List.length_replicate }

/-- A directory, a link with a long target and a file with a long path, whose contents are blocks of
zeros. -/
def longEntries : List Tar.Entry :=
  let long : String := "./" ++ String.ofList (List.replicate 120 'a')
  let entry (path : String) (unbroken : '\x00' ∉ path.toList) (kind : Tar.EntryKind)
      (contents : Bytes) : Tar.Entry :=
    { path, unbroken, kind, contents
      details := blankDetails
      noteDetails := blankDetails
      pathFirst := true }
  [entry "./" (by decide) .directory [], entry "./l.log" (by decide) (.symbolicLink long) [],
    entry long (by simp [long]) .regular (List.replicate 1024 0)]

theorem long_files_are_restored :
    (Tar.write longEntries).length ≤ Numeral.max64 ∧
    ∃ artifacts : List Artifact,
      List.Forall₂ IsFile (longEntries.filter fun entry => entry.kind = .regular) artifacts ∧
      Archived.stream "grid-1" (Tar.write longEntries ++ []) =
        artifacts.map (fun artifact => .decoded (.ok artifact)) ∧
      ∀ tree limit,
        StreamReading.ofStream tree limit
            (Archived.stream "grid-1" (Tar.write longEntries ++ [])) =
          { artifacts := limit.elim artifacts artifacts.take, failure := none } := by
  have room : (Tar.write longEntries).length ≤ Numeral.max64 := by decide +kernel
  exact ⟨room, archived_files_are_restored "grid-1" longEntries [] room⟩

end Artifact

end BrowserPods
