import BrowserPods.Proofs.Artifact.Containment
import BrowserPods.Proofs.Artifact.Stripping
import Mathlib

/-!
# What a stream leaves in a directory

A stream that is written to its end leaves in the directory what it has yielded
(`Artifact.saves_what_it_yields`): at each path the last artifact with that path, directories on the
way to them, and everything else as it was.  Artifacts whose names lead nowhere below the directory
count for nothing.
-/

namespace BrowserPods

open BrowserPods.Text
open FileTree

namespace Artifact

/-! ## Where an artifact goes -/

/-- Whether the name of an artifact denotes a file below a directory. -/
def IsNamed (artifact : Artifact) : Prop := (Path.ofText artifact.name).NamesFile

instance (artifact : Artifact) : Decidable artifact.IsNamed :=
  decidable_of_iff _ (Path.namesFile_iff _).symm

/-- The shortest path that the name of an artifact denotes. -/
def relative (artifact : Artifact) : Path := (Path.ofText artifact.name).normalized

def target (dir : Path) (artifact : Artifact) : Path := dir.join artifact.relative

def place (top : Place) (artifact : Artifact) : Place := top ++ artifact.relative.segments

variable {artifact : Artifact}

theorem IsNamed.relativePath? (named : artifact.IsNamed) :
    relativePath? artifact.name = some artifact.relative :=
  relativePath?_eq_some_iff.mpr ⟨named, rfl⟩

theorem relativePath?_of_not_isNamed (unnamed : ¬ artifact.IsNamed) :
    Artifact.relativePath? artifact.name = none := by
  rw [Option.eq_none_iff_forall_ne_some]
  intro path denoted
  exact unnamed (relativePath?_eq_some_iff.mp denoted).1

theorem IsNamed.names (named : artifact.IsNamed) :
    artifact.relative.segments ≠ [] ∧ (∀ name ∈ artifact.relative.segments, Path.IsName name) ∧
      artifact.relative = [Path.slash].intercalate artifact.relative.segments := by
  obtain ⟨names, nonempty, valid, shape⟩ := names_of_relativePath? named.relativePath?
  have segments : artifact.relative.segments = names := by
    rw [shape]
    exact Path.segments_intercalate (fun name member => (valid name member).nonempty)
      fun name member => (valid name member).unbroken
  rw [segments]
  exact ⟨nonempty, valid, shape⟩

theorem IsNamed.place_injective {other : Artifact} {top : Place} (named : artifact.IsNamed)
    (otherNamed : other.IsNamed) (same : artifact.place top = other.place top) :
    artifact.relative = other.relative := by
  have names : artifact.relative.segments = other.relative.segments :=
    List.append_cancel_left same
  rw [named.names.2.2, otherNamed.names.2.2, names]

/-! ## One item -/

variable {dir : Path} {tree grown after : FileTree} {item : Pending} {rest : PendingArtifacts}

theorem saveFrom_of_unread {failure : Failure} (written : ℕ)
    (unread : item.read tree = .error failure) :
    saveFrom dir written tree (item :: rest) = (tree, .error failure) := by
  rw [saveFrom, unread]

theorem saveFrom_of_unnamed (written : ℕ) (read : item.read tree = .ok artifact)
    (unnamed : ¬ artifact.IsNamed) :
    saveFrom dir written tree (item :: rest) = saveFrom dir written tree rest := by
  rw [saveFrom, read]
  simp only [relativePath?_of_not_isNamed unnamed]

theorem saveFrom_of_stored (written : ℕ) (read : item.read tree = .ok artifact)
    (named : artifact.IsNamed)
    (stored : store tree (artifact.target dir) artifact.contents = (grown, .ok ())) :
    saveFrom dir written tree (item :: rest) = saveFrom dir (written + 1) grown rest := by
  rw [target] at stored
  rw [saveFrom, read]
  simp only [named.relativePath?, stored]

theorem saveFrom_of_refused {fault : FileFault} (written : ℕ) (read : item.read tree = .ok artifact)
    (named : artifact.IsNamed)
    (refused : store tree (artifact.target dir) artifact.contents = (grown, .error fault)) :
    saveFrom dir written tree (item :: rest) =
      (grown,
        .error { cause := .artifactUnwritable artifact.name (artifact.target dir).display }) := by
  rw [target] at refused ⊢
  rw [saveFrom, read]
  simp only [named.relativePath?, refused]

/-- What becomes of a stream that is written to its end: its first item is skipped or written, and
so is the rest. -/
theorem saved_cons {written total : ℕ}
    (success : saveFrom dir written tree (item :: rest) = (after, .ok total)) :
    ∃ artifact, item.read tree = .ok artifact ∧
      ((¬ artifact.IsNamed ∧ saveFrom dir written tree rest = (after, .ok total)) ∨
        (artifact.IsNamed ∧ ∃ grown,
          store tree (artifact.target dir) artifact.contents = (grown, .ok ()) ∧
            saveFrom dir (written + 1) grown rest = (after, .ok total))) := by
  cases read : item.read tree with
  | error failure =>
      rw [saveFrom_of_unread written read] at success
      cases success
  | ok artifact =>
      refine ⟨artifact, rfl, ?_⟩
      by_cases named : artifact.IsNamed
      · cases stored : store tree (artifact.target dir) artifact.contents with
        | mk grown outcome =>
            cases outcome with
            | ok done =>
                rw [saveFrom_of_stored written read named stored] at success
                exact .inr ⟨named, grown, rfl, success⟩
            | error fault =>
                rw [saveFrom_of_refused written read named stored] at success
                cases success
      · rw [saveFrom_of_unnamed written read named] at success
        exact .inl ⟨named, success⟩

/-! ## What a stream yields -/

/-- What the items of a stream yield, each of them read when those before it are written. -/
def yielded (dir : Path) (tree : FileTree) : PendingArtifacts → List Artifact
  | [] => []
  | item :: rest =>
    (item.read tree).toOption.toList ++ yielded dir (saveAll tree dir [item]).1 rest

/-- The stream of some artifacts that are there already. -/
def streamed (artifacts : List Artifact) : PendingArtifacts :=
  artifacts.map fun artifact => .decoded (.ok artifact)

@[simp]
theorem yielded_streamed (dir : Path) (tree : FileTree) (artifacts : List Artifact) :
    yielded dir tree (streamed artifacts) = artifacts := by
  induction artifacts generalizing tree with
  | nil => rfl
  | cons artifact others inductionHypothesis =>
      have tail := inductionHypothesis
        (saveAll tree dir [.decoded (.ok artifact)]).1
      rw [streamed] at tail ⊢
      rw [List.map_cons, yielded, tail]
      rfl

theorem yielded_of_unnamed (read : item.read tree = .ok artifact) (unnamed : ¬ artifact.IsNamed) :
    yielded dir tree (item :: rest) = artifact :: yielded dir tree rest := by
  have same : (saveAll tree dir [item]).1 = tree := by
    rw [saveAll, saveFrom_of_unnamed 0 read unnamed, saveFrom]
  rw [yielded, same, read]
  rfl

theorem yielded_of_stored (read : item.read tree = .ok artifact) (named : artifact.IsNamed)
    (stored : store tree (artifact.target dir) artifact.contents = (grown, .ok ())) :
    yielded dir tree (item :: rest) = artifact :: yielded dir grown rest := by
  have next : (saveAll tree dir [item]).1 = grown := by
    rw [saveAll, saveFrom_of_stored 0 read named stored, saveFrom]
  rw [yielded, next, read]
  rfl

/-- A stream that is written to its end yields an artifact for each item, and is written like the
artifacts that it yields. -/
theorem saveFrom_yielded (stream : PendingArtifacts) {written total : ℕ}
    (success : saveFrom dir written tree stream = (after, .ok total)) :
    (yielded dir tree stream).length = stream.length ∧
      saveFrom dir written tree (streamed (yielded dir tree stream)) = (after, .ok total) := by
  induction stream generalizing tree written with
  | nil =>
      cases success
      exact ⟨rfl, rfl⟩
  | cons item rest inductionHypothesis =>
      obtain ⟨artifact, read, outcome⟩ := saved_cons success
      have decoded : (Pending.decoded (.ok artifact)).read tree = .ok artifact := rfl
      rcases outcome with ⟨unnamed, skipped⟩ | ⟨named, grown, stored, saved⟩
      · obtain ⟨length, same⟩ := inductionHypothesis skipped
        rw [yielded_of_unnamed read unnamed]
        refine ⟨congrArg Nat.succ length, ?_⟩
        rw [streamed, List.map_cons, saveFrom_of_unnamed written decoded unnamed]
        exact same
      · obtain ⟨length, same⟩ := inductionHypothesis saved
        rw [yielded_of_stored read named stored]
        refine ⟨congrArg Nat.succ length, ?_⟩
        rw [streamed, List.map_cons, saveFrom_of_stored written decoded named stored]
        exact same

/-- Artifacts whose names denote no file below the directory change nothing, wherever they are. -/
theorem saveFrom_filter (dir : Path) (written : ℕ) (tree : FileTree) (artifacts : List Artifact) :
    saveFrom dir written tree (streamed artifacts) =
      saveFrom dir written tree (streamed (artifacts.filter IsNamed)) := by
  induction artifacts generalizing tree written with
  | nil => rfl
  | cons artifact others inductionHypothesis =>
      have decoded : (Pending.decoded (.ok artifact)).read tree = .ok artifact := rfl
      by_cases named : artifact.IsNamed
      · rw [List.filter_cons_of_pos (by simpa using named)]
        cases stored : store tree (artifact.target dir) artifact.contents with
        | mk grown outcome =>
            cases outcome with
            | ok done =>
                calc
                  saveFrom dir written tree (streamed (artifact :: others)) =
                      saveFrom dir (written + 1) grown (streamed others) :=
                    saveFrom_of_stored written decoded named stored
                  _ = saveFrom dir (written + 1) grown (streamed (others.filter IsNamed)) :=
                    inductionHypothesis _ _
                  _ = saveFrom dir written tree (streamed (artifact :: others.filter IsNamed)) :=
                    (saveFrom_of_stored written decoded named stored).symm
            | error fault =>
                exact (saveFrom_of_refused written decoded named stored).trans
                  (saveFrom_of_refused written decoded named stored).symm
      · rw [List.filter_cons_of_neg (by simpa using named), ← inductionHypothesis]
        exact saveFrom_of_unnamed written decoded named

theorem total_of_named (artifacts : List Artifact) {written total : ℕ}
    (named : ∀ artifact ∈ artifacts, artifact.IsNamed)
    (success : saveFrom dir written tree (streamed artifacts) = (after, .ok total)) :
    total = written + artifacts.length := by
  induction artifacts generalizing tree written with
  | nil =>
      cases success
      rfl
  | cons artifact others inductionHypothesis =>
      obtain ⟨_, read, outcome⟩ := saved_cons success
      cases read
      rcases outcome with ⟨unnamed, _⟩ | ⟨_, grown, _, saved⟩
      · exact absurd (named artifact List.mem_cons_self) unnamed
      · have count :=
          inductionHypothesis
            (fun other member => named other (List.mem_cons_of_mem _ member)) saved
        rw [count, List.length_cons]
        omega

/-! ## What is left in the directory -/

/-- What some artifacts leave below a directory that are written to it one after the other. -/
structure AreSaved (dir : Path) (top : Place) (artifacts : List Artifact)
    (before after : FileTree) : Prop where
  /-- The last artifact of each path is at the end of that path. -/
  files : ∀ front artifact back, artifacts = front ++ artifact :: back →
    (∀ later ∈ back, later.relative ≠ artifact.relative) →
      after.find? true (artifact.target dir) = .ok (artifact.place top, .file artifact.contents)
  kept : ∀ place node, before.node? place = some node →
    (∀ artifact ∈ artifacts, artifact.place top ≠ place) → after.node? place = some node
  /-- Nothing else is new but directories on the way to the artifacts. -/
  gained : ∀ place node, after.node? place = some node →
    before.node? place = some node ∨ ∃ artifact ∈ artifacts,
      (place = artifact.place top ∧ node = .file artifact.contents) ∨
        (node = .directory ∧ Below top place ∧ Below place (artifact.place top))

theorem areSaved_nil (dir : Path) (top : Place) (tree : FileTree) :
    AreSaved dir top [] tree tree where
  files front artifact back shape := by simp at shape
  kept _ _ found _ := found
  gained _ _ found := .inl found

/-- What is left of an artifact by those behind it is left by all of them. -/
theorem AreSaved.cons {top : Place} {others : List Artifact}
    (first : AreSaved dir top [artifact] tree grown) (further : AreSaved dir top others grown after)
    (growth : GrowsBelow top grown after) (grownNoLinks : grown.NoLinksBelow top)
    (distinct : ∀ later ∈ others, later.relative ≠ artifact.relative →
      later.place top ≠ artifact.place top) :
    AreSaved dir top (artifact :: others) tree after := by
  have here := first.files [] artifact [] rfl (by simp)
  constructor
  case files =>
    intro front other back split last
    rcases List.cons_eq_append_iff.mp split with ⟨rfl, same⟩ | ⟨shorter, rfl, rest⟩
    · cases same
      have links : ∀ place aim, grown.node? place = some (.link aim) →
          after.node? place = some (.link aim) := by
        intro place aim isLink
        have away : ¬ Below top place := fun below => grownNoLinks place below aim isLink
        rw [growth.outside place away, isLink]
      have still := further.kept _ _ (resolve_of_find? here).2
        fun later member => distinct later member (last later member)
      exact find?_file_of_persistent here growth.workingDirectory growth.directories links still
    · exact further.files shorter other back rest last
  case kept =>
    intro place node found elsewhere
    have early : ∀ other ∈ [artifact], other.place top ≠ place := by
      simpa using elsewhere artifact List.mem_cons_self
    exact further.kept place node (first.kept place node found early)
      fun other member => elsewhere other (List.mem_cons_of_mem _ member)
  case gained =>
    intro place node found
    rcases further.gained place node found with old | ⟨other, member, new⟩
    · rcases first.gained place node old with older | ⟨other, member, new⟩
      · exact .inl older
      · cases List.mem_singleton.mp member
        exact .inr ⟨artifact, List.mem_cons_self, new⟩
    · exact .inr ⟨other, List.mem_cons_of_mem _ member, new⟩

theorem exists_opened_of_store {target parent : Path} {contents : Bytes}
    (above : target.parent? = some parent) (stored : store tree target contents = (grown, .ok ())) :
    ∃ opened, tree.makeDirectories parent = (opened, .ok ()) ∧
      opened.writeFile target contents = .ok grown := by
  rw [store, above] at stored
  cases made : tree.makeDirectories parent with
  | mk opened outcome =>
      cases outcome with
      | error fault =>
          simp only [made] at stored
          cases stored
      | ok done =>
          simp only [made, store.finish] at stored
          refine ⟨opened, rfl, ?_⟩
          split at stored
          · rename_i written success
            cases stored
            exact success
          · cases stored

section Named

variable {top : Place} {left : ℕ}
  (way : Way tree linkLimit (start tree.workingDirectory dir) dir.segments left top)
  (nonempty : dir ≠ []) (noLinks : tree.NoLinksBelow top) (single : tree.NoHardLinksBelow top)
include way nonempty noLinks single

/-- Writing an artifact opens the way to its place and puts it there. -/
theorem exists_put_of_stored (named : artifact.IsNamed)
    (stored : store tree (artifact.target dir) artifact.contents = (grown, .ok ())) :
    ∃ opened, OpensWay top artifact.relative.segments.dropLast tree opened ∧
      opened.node? (artifact.place top) ≠ some .directory ∧
      grown = opened.put (artifact.place top) (.file artifact.contents) ∧
      wantsDirectory (artifact.target dir) = false ∧
      ∃ goal, opened.resolve true (artifact.target dir) = .ok goal ∧
        goal.place = artifact.place top := by
  obtain ⟨hasNames, valid, shape⟩ := named.names
  have path : artifact.target dir =
      dir.join ([Path.slash].intercalate artifact.relative.segments) :=
    congrArg dir.join shape
  have above := parent?_join_names dir hasNames valid
  rw [← path] at above
  obtain ⟨opened, made, success⟩ := exists_opened_of_store above stored
  have validAbove : ∀ name ∈ artifact.relative.segments.dropLast, Path.IsName name :=
    fun name member => valid name (List.dropLast_subset _ member)
  have opens := makeDirectories_opensWay way validAbove noLinks
  rw [made] at opens
  have growth := opens.growsBelow
  have later := growth.way noLinks way
  rw [← growth.workingDirectory, ← start_join_names _ nonempty valid, ← path] at later
  have relative : artifact.relative.isAbsolute = false := by
    rw [shape]
    exact Path.isAbsolute_intercalate valid
  have segments : (artifact.target dir).segments = dir.segments ++ artifact.relative.segments :=
    Path.segments_join relative
  obtain ⟨isFilePath, noDirectory, put, goal⟩ :=
    writeFile_eq_put later valid hasNames segments (growth.noLinksBelow noLinks)
      (growth.noHardLinksBelow single) success
  exact ⟨opened, opens, noDirectory, put, isFilePath, goal⟩

theorem store_areSaved (named : artifact.IsNamed)
    (stored : store tree (artifact.target dir) artifact.contents = (grown, .ok ())) :
    AreSaved dir top [artifact] tree grown := by
  obtain ⟨opened, opens, noDirectory, rfl, isFilePath, goal, resolved, atPlace⟩ :=
    exists_put_of_stored way nonempty noLinks single named stored
  have hasNames := named.names.1
  have below : Below top (artifact.place top) := below_append hasNames
  have openedNoLinks := opens.growsBelow.noLinksBelow noLinks
  have others : ∀ {place}, place ≠ artifact.place top →
      (opened.put (artifact.place top) (.file artifact.contents)).node? place =
        opened.node? place :=
    fun different => node?_put_of_ne opened _ different
  have present := node?_put_self opened (.file artifact.contents) below.ne_root
  constructor
  case files =>
    intro front other back split _
    obtain ⟨rfl, rfl, rfl⟩ : front = [] ∧ artifact = other ∧ back = [] := by
      cases front with
      | nil => simpa using split
      | cons first others => simp at split
    have directories : ∀ place, opened.node? place = some .directory →
        (opened.put (artifact.place top) (.file artifact.contents)).node? place =
          some .directory := by
      intro place directory
      rw [others, directory]
      rintro rfl
      exact noDirectory directory
    have links : ∀ place aim, opened.node? place = some (.link aim) →
        (opened.put (artifact.place top) (.file artifact.contents)).node? place =
          some (.link aim) := by
      intro place aim isLink
      rw [others, isLink]
      rintro rfl
      exact openedNoLinks _ below aim isLink
    rw [← atPlace] at present directories links ⊢
    exact find?_of_persistent resolved isFilePath rfl directories links present
  case kept =>
    intro place node found elsewhere
    have different : place ≠ artifact.place top := (elsewhere artifact (by simp)).symm
    rw [others different]
    exact opens.kept place node found
  case gained =>
    intro place node found
    by_cases same : place = artifact.place top
    · subst same
      cases present.symm.trans found
      exact .inr ⟨artifact, by simp, .inl ⟨rfl, rfl⟩⟩
    · rw [others same] at found
      rcases opens.gained place node found with old | ⟨rfl, part, some, initial, rfl⟩
      · exact .inl old
      · -- The last name is the one of the artifact, so something is left behind the beginning.
        obtain ⟨more, whole⟩ := initial
        have rest : artifact.relative.segments =
            part ++ (more ++ [artifact.relative.segments.getLast hasNames]) := by
          rw [← List.append_assoc, whole, List.dropLast_append_getLast]
        have onWay : Below (top ++ part) (artifact.place top) := by
          rw [place, rest, ← List.append_assoc]
          exact below_append (by simp)
        exact .inr ⟨artifact, by simp, .inr ⟨rfl, below_append some, onWay⟩⟩

theorem streamed_areSaved (artifacts : List Artifact) {written total : ℕ}
    (named : ∀ artifact ∈ artifacts, artifact.IsNamed)
    (success : saveFrom dir written tree (streamed artifacts) = (after, .ok total)) :
    AreSaved dir top artifacts tree after := by
  induction artifacts generalizing tree written with
  | nil =>
      cases success
      exact areSaved_nil _ _ _
  | cons artifact others inductionHypothesis =>
      obtain ⟨_, read, outcome⟩ := saved_cons success
      cases read
      have isNamed := named artifact List.mem_cons_self
      have othersNamed : ∀ other ∈ others, other.IsNamed :=
        fun other member => named other (List.mem_cons_of_mem _ member)
      rcases outcome with ⟨unnamed, _⟩ | ⟨_, grown, stored, saved⟩
      · exact absurd isNamed unnamed
      · have first := store_areSaved way nonempty noLinks single isNamed stored
        obtain ⟨hasNames, valid, shape⟩ := isNamed.names
        have growth : GrowsBelow top tree grown := by
          have growth :=
            store_growsBelow artifact.contents way nonempty hasNames valid noLinks single
          rw [← shape, ← target, stored] at growth
          exact growth
        have grownWay := growth.way noLinks way
        rw [← growth.workingDirectory] at grownWay
        have grownNoLinks := growth.noLinksBelow noLinks
        have grownSingle := growth.noHardLinksBelow single
        have further := inductionHypothesis grownWay grownNoLinks grownSingle othersNamed saved
        have laterGrowth := saveFrom_growsBelow (streamed others) (written + 1) grownWay nonempty
          grownNoLinks grownSingle
        rw [show saveFrom dir (written + 1) grown (streamed others) = (after, .ok total) from saved]
          at laterGrowth
        refine first.cons further laterGrowth grownNoLinks ?_
        intro later member different same
        exact different ((othersNamed later member).place_injective isNamed same)

end Named

/-- A stream that is written to its end leaves in the directory what it has yielded.  The number of
files written is that of the artifacts with names of files below the directory.  At each path is the
last of them with that path; what was there before stays where none of them is; and the artifacts
with other names might as well not have been yielded. -/
theorem saves_what_it_yields
    {tree after : FileTree} {dir : Path} {top : Place} {stream : PendingArtifacts} {written : ℕ}
    (found : tree.find? true dir = .ok (top, .directory)) (noLinks : tree.NoLinksBelow top)
    (single : tree.NoHardLinksBelow top)
    (success : saveAll tree dir stream = (after, .ok written)) :
    let artifacts := yielded dir tree stream
    let named := artifacts.filter IsNamed
    artifacts.length = stream.length ∧ written = named.length ∧ AreSaved dir top named tree after ∧
      saveAll tree dir (streamed named) = (after, .ok written) := by
  intro artifacts named
  obtain ⟨nonempty, left, way⟩ := way_of_find? found
  obtain ⟨length, same⟩ := saveFrom_yielded stream success
  rw [saveFrom_filter] at same
  have allNamed : ∀ artifact ∈ named, artifact.IsNamed := by
    intro artifact member
    simpa using (List.mem_filter.mp member).2
  have count := total_of_named named allNamed same
  have saved := streamed_areSaved way nonempty noLinks single named allNamed same
  exact ⟨length, by rw [count, Nat.zero_add], saved, same⟩

/-- Artifacts of which two have one path and two lead elsewhere. -/
def mixedArtifacts : List Artifact :=
  [{ name := "logs/a.log", contents := [3] }, { name := "../secret", contents := [4] },
    { name := "./logs//a.log", contents := [5] }, { name := "/secret", contents := [6] },
    { name := "old", contents := [7] }]

def keptArtifacts : List Artifact :=
  [{ name := "logs/a.log", contents := [3] }, { name := "./logs//a.log", contents := [5] },
    { name := "old", contents := [7] }]

theorem last_of_one_path_is_saved :
    let after := (saveAll linkedTree (Path.ofText "/away") (streamed mixedArtifacts)).1
    linkedTree.find? true (Path.ofText "/away") = .ok (outPlace, .directory) ∧
      linkedTree.NoLinksBelow outPlace ∧ linkedTree.NoHardLinksBelow outPlace ∧
      saveAll linkedTree (Path.ofText "/away") (streamed mixedArtifacts) = (after, .ok 3) ∧
      AreSaved (Path.ofText "/away") outPlace keptArtifacts linkedTree after ∧
      after.find? true (Path.ofText "/away/logs/a.log") =
        .ok (outPlace ++ [Path.ofText "logs", Path.ofText "a.log"], .file [5]) := by
  intro after
  have kept : mixedArtifacts.filter IsNamed = keptArtifacts := by decide +kernel
  have written :
      (saveAll linkedTree (Path.ofText "/away") (streamed mixedArtifacts)).2 = .ok 3 := by
    rw [saveAll, saveFrom_filter, kept]
    cbv
  have success : saveAll linkedTree (Path.ofText "/away") (streamed mixedArtifacts) =
      (after, .ok 3) :=
    Prod.ext rfl written
  obtain ⟨_, _, saved, _⟩ := saves_what_it_yields find?_linkedTree noLinksBelow_linkedTree
    noHardLinksBelow_linkedTree success
  rw [yielded_streamed, kept] at saved
  have last := saved.files [{ name := "logs/a.log", contents := [3] }]
    { name := "./logs//a.log", contents := [5] } [{ name := "old", contents := [7] }] rfl
    (by decide +kernel)
  have target : Artifact.target (Path.ofText "/away") { name := "./logs//a.log", contents := [5] } =
      Path.ofText "/away/logs/a.log" := by
    decide +kernel
  have place : Artifact.place outPlace { name := "./logs//a.log", contents := [5] } =
      outPlace ++ [Path.ofText "logs", Path.ofText "a.log"] := by
    decide +kernel
  rw [target, place] at last
  exact ⟨find?_linkedTree, noLinksBelow_linkedTree, noHardLinksBelow_linkedTree,
    success, saved, last⟩

end Artifact

end BrowserPods
