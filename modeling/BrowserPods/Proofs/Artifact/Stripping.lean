import BrowserPods.Proofs.Artifact.Agreement
import BrowserPods.Proofs.Files.Shown
import Mathlib

/-!
# Names without the run of dots

The name of an archived artifact is the path of its member without the run of `./` in front.  It
denotes the same place below a directory as the path does, unless the run is followed by one more
slash (`Artifact.stripped_name_denotes_iff`): then the name begins at the root, and the artifact is
not written at all.
-/

namespace BrowserPods

open BrowserPods.Text

namespace Archived

/-! ## Runs of dots -/

/-- A run of `./`, as a text. -/
def run (count : ℕ) : List Char := (List.replicate count ['.', '/']).flatten

theorem run_succ (count : ℕ) : run (count + 1) = '.' :: '/' :: run count := by
  rw [run, List.replicate_succ, List.flatten_cons]
  rfl

theorem stripHere_run (count : ℕ) (name : List Char) :
    stripHere (run count ++ name) = stripHere name := by
  induction count with
  | zero => rfl
  | succ count inductionHypothesis =>
      rw [run_succ, List.cons_append, List.cons_append, stripHere, inductionHypothesis]

/-- Stripping takes away a run of `./` and leaves a name that does not begin with another one. -/
theorem exists_run (name : List Char) :
    ∃ count, name = run count ++ stripHere name ∧ ¬ ['.', '/'] <+: stripHere name := by
  fun_induction stripHere name with
  | case1 rest inductionHypothesis =>
      obtain ⟨count, shape, bare⟩ := inductionHypothesis
      refine ⟨count + 1, ?_, bare⟩
      rw [run_succ, List.cons_append, List.cons_append, ← shape]
  | case2 name plain =>
      refine ⟨0, rfl, ?_⟩
      rintro ⟨rest, rfl⟩
      exact plain rest rfl

end Archived

namespace Path

variable {path rest place : Path}

def hereSlash : Path := [dot, slash]

/-- A run of `./`, as a path. -/
def dots (count : ℕ) : Path := (List.replicate count hereSlash).flatten

theorem dots_succ_append (count : ℕ) (rest : Path) :
    dots (count + 1) ++ rest = [dot] ++ slash :: (dots count ++ rest) := by
  rw [dots, List.replicate_succ, List.flatten_cons, List.append_assoc]
  rfl

theorem exists_dots (path : Path) :
    ∃ count rest, path = dots count ++ rest ∧ ¬ hereSlash <+: rest := by
  induction length : path.length using Nat.strong_induction_on generalizing path with
  | _ n inductionHypothesis =>
      by_cases begins : hereSlash <+: path
      · obtain ⟨others, rfl⟩ := begins
        obtain ⟨count, rest, rfl, bare⟩ :=
          inductionHypothesis others.length (by rw [← length]; simp [hereSlash]) others rfl
        exact ⟨count + 1, rest, (dots_succ_append count rest).symm, bare⟩
      · exact ⟨0, path, rfl, begins⟩

theorem toList_display_dots_append (count : ℕ) (rest : Path) :
    (dots count ++ rest).display.toList = Archived.run count ++ rest.display.toList := by
  have atHere : display [dot] = "." := display_ofText "."
  induction count with
  | zero => rfl
  | succ count inductionHypothesis =>
      have pieces :=
        Utf8.decodeLossy_append_cons (b := slash) (by decide) [dot] (dots count ++ rest)
      rw [dots_succ_append, display, pieces, String.toList_append, String.toList_append,
        ← display, ← display, atHere, inductionHypothesis, Archived.run_succ]
      rfl

/-- What is shown of a path, without its run of dots, is what is shown of the rest. -/
theorem stripHere_display {count : ℕ} (bare : ¬ hereSlash <+: rest) :
    Archived.stripHere (dots count ++ rest).display.toList = rest.display.toList := by
  rw [toList_display_dots_append, Archived.stripHere_run]
  refine Archived.stripHere_eq_self fun others begins => bare ?_
  obtain ⟨more, rfl, later⟩ := Utf8.exists_of_decodeLossy_cons (by decide) begins
  obtain ⟨more', rfl, _⟩ := Utf8.exists_of_decodeLossy_cons (by decide) later
  exact ⟨more', rfl⟩

/-! ## Places below a directory -/

def inner (path : Path) : List Component := path.components.filter (· ≠ .here)

def normalized (path : Path) : Path := ofComponents path.inner

/-- Whether a path names a file below a directory: it is relative, names an entry and never goes
up. -/
structure NamesFile (path : Path) : Prop where
  relative : .root ∉ path.components
  named : ∃ name, .entry name ∈ path.components
  inside : .up ∉ path.components

/-- Whether a path has another slash behind the run of `./` that it begins with. -/
def IsRootedBehindDots (path : Path) : Prop := ∃ count rest, path = dots count ++ slash :: rest

theorem inner_eq (path : Path) :
    path.inner = (if path.isAbsolute then [.root] else []) ++
      (path.segments.filter (· ≠ [dot])).map Component.ofSegment := by
  have kept : ((path.segments.filter (· ≠ [dot])).map Component.ofSegment).filter (· ≠ .here) =
      (path.segments.filter (· ≠ [dot])).map Component.ofSegment :=
    List.filter_eq_self.mpr fun c member => by
      simpa using Component.ne_here_of_isInner (isInner_of_mem_segments member)
  rw [inner, components_eq, List.filter_append, kept, lead]
  congr 1
  split
  · rfl
  · split <;> rfl

theorem inner_dots_append (count : ℕ) (relative : rest.isAbsolute = false) :
    (dots count ++ rest).inner = rest.inner := by
  induction count with
  | zero => rfl
  | succ count inductionHypothesis =>
      have behind : (dots count ++ rest).isAbsolute = false := by
        cases count with
        | zero => exact relative
        | succ count => rfl
      rw [← inductionHypothesis, inner_eq, inner_eq, behind, dots_succ_append,
        segments_append_slash]
      rfl

theorem inner_shown (path : Path) : path.shown.inner = path.inner.map Component.shown := by
  rw [inner, components_shown, List.filter_map, inner]
  congr 1
  refine List.filter_congr fun c _ => ?_
  cases c <;> rfl

theorem namesFile_iff (path : Path) :
    path.NamesFile ↔ (∀ c ∈ path.inner, Artifact.isEntry c) ∧ path.inner ≠ [] := by
  constructor
  · rintro ⟨relative, ⟨name, named⟩, inside⟩
    refine ⟨fun c member => ?_, List.ne_nil_of_mem (List.mem_filter.mpr ⟨named, rfl⟩)⟩
    obtain ⟨listed, kept⟩ := List.mem_filter.mp member
    cases c with
    | root => exact absurd listed relative
    | here => simp at kept
    | up => exact absurd listed inside
    | entry name => rfl
  · rintro ⟨entries, nonempty⟩
    constructor
    case relative =>
      intro listed
      exact Bool.false_ne_true (entries .root (List.mem_filter.mpr ⟨listed, rfl⟩))
    case named =>
      obtain ⟨c, member⟩ := List.exists_mem_of_ne_nil _ nonempty
      have isName := entries c member
      cases c with
      | entry name => exact ⟨name, (List.mem_filter.mp member).1⟩
      | root => cases isName
      | here => cases isName
      | up => cases isName
    case inside =>
      intro listed
      exact Bool.false_ne_true (entries .up (List.mem_filter.mpr ⟨listed, rfl⟩))

theorem isEntry_shown (c : Component) : Artifact.isEntry c.shown = Artifact.isEntry c := by
  cases c <;> rfl

theorem namesFile_shown (path : Path) : path.shown.NamesFile ↔ path.NamesFile := by
  rw [namesFile_iff, namesFile_iff, inner_shown]
  simp [isEntry_shown]

theorem normalized_shown (path : Path) :
    path.shown.normalized = ofComponents (path.inner.map Component.shown) := by
  rw [normalized, inner_shown]

/-! ## Behind the run of dots -/

theorem not_namesFile_of_isAbsolute (absolute : path.isAbsolute = true) : ¬ path.NamesFile := by
  intro names
  refine names.relative (List.mem_of_head? ?_)
  exact (isAbsolute_iff_head_components path).mp absolute

theorem isRootedBehindDots_iff {count : ℕ} (bare : ¬ hereSlash <+: rest) :
    (dots count ++ rest).IsRootedBehindDots ↔ rest.isAbsolute = true := by
  constructor
  · rintro ⟨other, tail, same⟩
    have alsoBare : ¬ hereSlash <+: slash :: tail := fun begins =>
      absurd (List.cons_prefix_cons.mp begins).1 (by decide)
    have sameText : rest.display.toList = (display (slash :: tail)).toList := by
      rw [← stripHere_display bare, same, stripHere_display alsoBare]
    have sameShown : rest.shown = shown (slash :: tail) :=
      congrArg ofText (String.toList_inj.mp sameText)
    rw [← isAbsolute_shown, sameShown, isAbsolute_shown]
    rfl
  · intro absolute
    obtain ⟨tail, rfl⟩ := List.head?_eq_some_iff.mp (by simpa [isAbsolute] using absolute)
    exact ⟨count, tail, rfl⟩

/-- Behind a run of dots is the name of a file if the whole path is one, unless a slash begins
there. -/
theorem namesFile_iff_of_dots (count : ℕ) (bare : ¬ hereSlash <+: rest) :
    rest.NamesFile ↔
      (dots count ++ rest).NamesFile ∧ ¬ (dots count ++ rest).IsRootedBehindDots := by
  rw [isRootedBehindDots_iff bare]
  cases absolute : rest.isAbsolute with
  | true => simp [not_namesFile_of_isAbsolute absolute]
  | false => simp [namesFile_iff, inner_dots_append count absolute]

end Path

namespace Archived

variable {member : Tar.Member} {archive : Bytes}

theorem mem_stream {artifact : Artifact} (containerId : String)
    (listed : member ∈ (Tar.read archive).1) (isArtifact : artifact? member = some artifact) :
    .decoded (.ok artifact) ∈ stream containerId archive := by
  have found : (.ok artifact : Except Failure Artifact) ∈
      ((Tar.read archive).1.filterMap artifact?).map .ok :=
    List.mem_map_of_mem (List.mem_filterMap.mpr ⟨member, listed, isArtifact⟩)
  refine List.mem_map_of_mem ?_
  rw [items]
  split
  · exact found
  · exact List.mem_append_left _ found

end Archived

namespace Artifact

/-- A name denotes a path if it names a file below a directory, and then the shortest such path. -/
theorem relativePath?_eq_some_iff {name : String} {place : Path} :
    relativePath? name = some place ↔
      (Path.ofText name).NamesFile ∧ place = (Path.ofText name).normalized := by
  have admitted : (Path.inner (Path.ofText name)).all isEntry &&
      !(Path.inner (Path.ofText name)).isEmpty ↔ (Path.ofText name).NamesFile := by
    simp [Path.namesFile_iff]
  rw [relativePath?, Path.normalized, ← Path.inner, ← admitted]
  split
  · rename_i named
    simp [named, eq_comm]
  · rename_i refused
    simp [refused]

theorem relativePath?_stripHere {path place : Path} :
    relativePath? (String.ofList (Archived.stripHere path.display.toList)) = some place ↔
      path.NamesFile ∧ ¬ path.IsRootedBehindDots ∧ place = path.shown.normalized := by
  obtain ⟨count, rest, rfl, bare⟩ := Path.exists_dots path
  have name : Path.ofText (String.ofList rest.display.toList) = rest.shown := by
    rw [String.ofList_toList, Path.shown]
  rw [Path.stripHere_display bare, relativePath?_eq_some_iff, name, Path.namesFile_shown,
    Path.namesFile_iff_of_dots count bare, and_assoc, Path.isRootedBehindDots_iff bare]
  refine and_congr_right fun _ => and_congr_right fun relative => ?_
  rw [Path.normalized_shown, Path.normalized_shown,
    Path.inner_dots_append count (by simpa using relative)]

/-- What the name of an artifact is worth whose member has some path.  The artifact is written at
the place that the path names below a directory, with ill-formed parts of the path as they are
shown.  It is skipped if the path begins at the root, goes up or names no entry; but so it is, too,
if another slash follows the `./` that the path begins with. -/
structure StandsFor (artifact : Artifact) (path : Path) : Prop where
  stripped : ∃ count, path.display.toList = Archived.run count ++ artifact.name.toList
  denoted : ∀ place, relativePath? artifact.name = some place ↔
    path.NamesFile ∧ ¬ path.IsRootedBehindDots ∧ place = path.shown.normalized
  saved : ∀ dir written tree rest, path.NamesFile → ¬ path.IsRootedBehindDots →
    saveFrom dir written tree (.decoded (.ok artifact) :: rest) =
      let target := dir.join path.shown.normalized
      match store tree target artifact.contents with
      | (grown, .ok ()) => saveFrom dir (written + 1) grown rest
      | (grown, .error _) =>
        (grown, .error { cause := .artifactUnwritable artifact.name target.display })
  skipped : ∀ dir written tree rest, ¬ path.NamesFile ∨ path.IsRootedBehindDots →
    saveFrom dir written tree (.decoded (.ok artifact) :: rest) = saveFrom dir written tree rest

/-- Every regular member of an archive yields an artifact with its contents and with a name that
stands for its path. -/
theorem stripped_name_stands_for_path
    (containerId : String) {archive contents : Bytes} {path : Path}
    (listed : { path, kind := .regular, contents } ∈ (Tar.read archive).1) :
    ∃ artifact : Artifact,
      .decoded (.ok artifact) ∈ Archived.stream containerId archive ∧
        artifact.contents = contents ∧ artifact.StandsFor path := by
  let name := String.ofList (Archived.stripHere path.display.toList)
  have isArtifact : Archived.artifact? { path, kind := .regular, contents } =
      some { name, contents } := rfl
  have denoted (place : Path) : relativePath? name = some place ↔
      path.NamesFile ∧ ¬ path.IsRootedBehindDots ∧ place = path.shown.normalized :=
    relativePath?_stripHere
  refine ⟨_, Archived.mem_stream containerId listed isArtifact, rfl, ?_⟩
  constructor
  case stripped =>
    obtain ⟨count, shape, -⟩ := Archived.exists_run path.display.toList
    refine ⟨count, ?_⟩
    rw [String.toList_ofList]
    exact shape
  case denoted => exact denoted
  case saved =>
    intro dir written tree rest names notRooted
    have place : relativePath? name = some path.shown.normalized :=
      (denoted _).mpr ⟨names, notRooted, rfl⟩
    obtain ⟨⟨grown, outcome⟩, stored⟩ :
        ∃ result, store tree (dir.join path.shown.normalized) contents = result := ⟨_, rfl⟩
    cases outcome with
    | ok _ => simp only [saveFrom, Pending.read, place, stored]
    | error fault => simp only [saveFrom, Pending.read, place, stored]
  case skipped =>
    intro dir written tree rest lost
    have refused : relativePath? name = none := by
      rw [Option.eq_none_iff_forall_ne_some]
      intro place found
      obtain ⟨names, notRooted, -⟩ := (denoted place).mp found
      exact lost.elim (absurd names) notRooted
    rw [saveFrom, Pending.read]
    simp only [refused]

/-- An archive of two files, one of them with a second slash behind the dot that its path begins
with. -/
def doubledArchive : Bytes :=
  fileMember "././logs//./a.log" "3134" 1 ++ fileMember ".//b.log" "1677" 2

theorem read_doubledArchive :
    Tar.read doubledArchive =
      ([{ path := Path.ofText "././logs//./a.log", kind := .regular, contents := [1] },
        { path := Path.ofText ".//b.log", kind := .regular, contents := [2] }], none) := by
  decide +kernel

theorem log_behind_dots_stands_for_path :
    { path := Path.ofText "././logs//./a.log", kind := .regular, contents := [1] } ∈
        (Tar.read doubledArchive).1 ∧
      ∃ artifact : Artifact,
        .decoded (.ok artifact) ∈ Archived.stream "grid-1" doubledArchive ∧
          artifact.contents = [1] ∧
          artifact.StandsFor (Path.ofText "././logs//./a.log") := by
  have listed : { path := Path.ofText "././logs//./a.log", kind := .regular, contents := [1] } ∈
      (Tar.read doubledArchive).1 := by
    rw [read_doubledArchive]
    exact List.mem_cons_self
  exact ⟨listed, stripped_name_stands_for_path "grid-1" listed⟩

/-- The other file of the archive is lost: its path names a file below a directory, and the same
text as a name denotes that file, but the name that is left of it begins at the root. -/
theorem log_behind_doubled_slash_is_lost :
    { path := Path.ofText ".//b.log", kind := .regular, contents := [2] } ∈
        (Tar.read doubledArchive).1 ∧
      (Path.ofText ".//b.log").NamesFile ∧
      (Path.ofText ".//b.log").normalized = Path.ofText "b.log" ∧
      relativePath? ".//b.log" = some (Path.ofText "b.log") ∧
      Archived.artifact? { path := Path.ofText ".//b.log", kind := .regular, contents := [2] } =
        some { name := "/b.log", contents := [2] } ∧
      relativePath? "/b.log" = none ∧
      ∀ tree dir, saveAll tree dir [.decoded (.ok { name := "/b.log", contents := [2] })] =
        (tree, .ok 0) := by
  have refused : relativePath? "/b.log" = none := by decide +kernel
  refine ⟨?_, ?_, by decide +kernel, by decide +kernel, by decide +kernel, refused, ?_⟩
  · rw [read_doubledArchive]
    exact List.mem_cons_of_mem _ List.mem_cons_self
  · exact ⟨by decide +kernel, ⟨Path.ofText "b.log", by decide +kernel⟩, by decide +kernel⟩
  · intro tree dir
    rw [saveAll, saveFrom, Pending.read]
    simp only [refused]
    rfl

end Artifact

end BrowserPods
