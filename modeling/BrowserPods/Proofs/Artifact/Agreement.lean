import BrowserPods.Artifact.Archived
import BrowserPods.Proofs.Files.Folder
import Mathlib

/-!
# Archived and stored artifacts

The files directly in a folder that are artifacts by their names are the same, whether the folder is
read from a mount or from an archive of it (`Artifact.stored_agrees_with_archived`).  On a mount
they come in ascending order of their names, and one whose path is too long is listed, but cannot be
read.
-/

namespace BrowserPods

open BrowserPods.Text
open FileTree

/-! ## Files in an archive -/

namespace Artifact

/-- The artifact that a file below a folder is. -/
def ofFile (file : List FileName × Bytes) : Artifact :=
  { name := Utf8.decodeLossy ([Path.slash].intercalate file.1), contents := file.2 }

end Artifact

namespace Archived

/-- The member that a file below a folder is in an archive of the folder. -/
def memberOf (file : List FileName × Bytes) : Tar.Member :=
  { path := Path.ofText "./" ++ [Path.slash].intercalate file.1
    kind := .regular
    contents := file.2 }

/-- Whether a complete archive holds some files as its regular members, in any order.  Members of
other kinds may be among them. -/
structure HoldsFiles (files : List (List FileName × Bytes))
    (content : List Tar.Member × Option Tar.Fault) : Prop where
  whole : content.2 = none
  regular : (content.1.filter fun member => member.kind = .regular).Perm (files.map memberOf)

theorem stripHere_eq_self {name : List Char} (plain : ∀ rest, name ≠ '.' :: '/' :: rest) :
    stripHere name = name := by
  rw [stripHere]
  exact plain

end Archived

section Names

variable {names : List FileName} (named : ∀ name ∈ names, IsTextName name)
include named

theorem exists_text_of_names : ∃ text, [Path.slash].intercalate names = Path.ofText text := by
  induction names with
  | nil => exact ⟨"", rfl⟩
  | cons name others inductionHypothesis =>
      obtain ⟨first, rfl⟩ := (named name List.mem_cons_self).text
      obtain ⟨rest, shape⟩ :=
        inductionHypothesis fun other member => named other (List.mem_cons_of_mem _ member)
      cases others with
      | nil => exact ⟨first, List.intercalate_singleton⟩
      | cons second more =>
          refine ⟨first ++ "/" ++ rest, ?_⟩
          rw [List.intercalate_cons_cons, shape, Path.ofText_append, Path.ofText_append]
          rfl

theorem segments_of_names : Path.segments ([Path.slash].intercalate names) = names :=
  Path.segments_intercalate (fun name member => (named name member).isName.nonempty)
    fun name member => (named name member).isName.unbroken

theorem ofText_name_ofFile (contents : Bytes) :
    Path.ofText (Artifact.ofFile (names, contents)).name = [Path.slash].intercalate names := by
  obtain ⟨text, shape⟩ := exists_text_of_names named
  rw [Artifact.ofFile, shape]
  exact congrArg Path.ofText (Path.display_ofText text)

/-- A regular member is the artifact of its file: the dot that its path begins with is stripped, and
nothing else is. -/
theorem artifact?_memberOf (contents : Bytes) :
    Archived.artifact? (Archived.memberOf (names, contents)) =
      some (Artifact.ofFile (names, contents)) := by
  obtain ⟨text, shape⟩ := exists_text_of_names named
  -- A run of `./` is stripped, so the first name must not be a dot itself.
  have plain : ∀ rest, text.toList ≠ '.' :: '/' :: rest := by
    intro rest begins
    have bytes : Path.ofText text = [Path.dot] ++ Path.slash :: rest.flatMap Utf8.encodeChar := by
      rw [Path.ofText, Utf8.encode, begins]
      rfl
    have segments := segments_of_names named
    rw [shape, bytes, Path.segments_append_slash] at segments
    have member : [Path.dot] ∈ names := by
      rw [← segments]
      exact List.mem_append_left _ (List.mem_singleton.mpr rfl)
    exact (named _ member).isName.notHere rfl
  have decoded : Utf8.decodeLossy (Archived.memberOf (names, contents)).path = "./" ++ text := by
    rw [Archived.memberOf, shape, ← Path.ofText_append]
    exact Path.display_ofText _
  have stripped : Archived.stripHere ("./" ++ text).toList = text.toList := by
    rw [String.toList_append]
    exact Archived.stripHere_eq_self plain
  have name : (Artifact.ofFile (names, contents)).name = text := by
    rw [Artifact.ofFile, shape]
    exact Path.display_ofText text
  have isRegular : (Archived.memberOf (names, contents)).kind = .regular := rfl
  rw [Archived.artifact?, if_pos isRegular, decoded, stripped]
  dsimp only
  rw [String.ofList_toList, ← name]
  rfl

end Names

namespace Archived

variable {files : List (List FileName × Bytes)} {archive : Bytes}

theorem stream_of_whole (containerId : String) (whole : (Tar.read archive).2 = none) :
    stream containerId archive =
      ((Tar.read archive).1.filterMap artifact?).map fun artifact => .decoded (.ok artifact) := by
  rw [stream, streamOf, items, whole, List.map_map]
  rfl

/-- The stream of an archive of a folder yields its files and no failure. -/
theorem stream_of_holdsFiles
    (containerId : String) (holds : HoldsFiles files (Tar.read archive))
    (named : ∀ file ∈ files, ∀ name ∈ file.1, IsTextName name) :
    ∃ artifacts : List Artifact,
      stream containerId archive = artifacts.map (fun artifact => .decoded (.ok artifact)) ∧
        artifacts.Perm (files.map Artifact.ofFile) := by
  refine ⟨(Tar.read archive).1.filterMap artifact?, stream_of_whole containerId holds.whole, ?_⟩
  -- What is no regular member yields no artifact, whatever its name.
  have regularOnly : (Tar.read archive).1.filterMap artifact? =
      ((Tar.read archive).1.filter fun member => member.kind = .regular).filterMap artifact? := by
    rw [List.filterMap_filter]
    refine List.filterMap_congr fun member _ => ?_
    by_cases isRegular : member.kind = .regular
    · simp [isRegular]
    · simp [isRegular, artifact?]
  have each : (files.map memberOf).filterMap artifact? = files.map Artifact.ofFile := by
    rw [List.filterMap_map, ← List.filterMap_eq_map]
    exact List.filterMap_congr fun file listed => artifact?_memberOf (named file listed) file.2
  rw [regularOnly, ← each]
  exact holds.regular.filterMap _

end Archived

/-! ## Files on a mount -/

namespace Stored

variable {tree : FileTree} {dir : Path} {top : Place}

theorem list_eq
    (found : tree.find? true dir = .ok (top, .directory))
    (distinct : (tree.entries.map (·.1)).Nodup) :
    list tree dir =
      .ok (((((tree.filesIn top).map (·.1)).mergeSort nameLe).map dir.join).filter
        hasArtifactName) := by
  rw [list_of_find? found, names_of_files distinct]

theorem nameLe_iff {first second : FileName} : nameLe first second ↔ first ≤ second := by
  simp [nameLe]

theorem pairwise_mergeSort_nameLe {names : List FileName} (distinct : names.Nodup) :
    (names.mergeSort nameLe).Pairwise (· < ·) := by
  have ascending : (names.mergeSort nameLe).Pairwise fun first second => nameLe first second := by
    refine List.pairwise_mergeSort ?_ ?_ names
    · intro first second third below further
      exact nameLe_iff.mpr (List.le_trans (nameLe_iff.mp below) (nameLe_iff.mp further))
    · intro first second
      simpa [nameLe_iff] using List.le_total first second
  -- Strict, since no name is there twice.
  have different : (names.mergeSort nameLe).Nodup :=
    (List.mergeSort_perm names nameLe).nodup_iff.mpr distinct
  refine (ascending.and different).imp ?_
  rintro first second ⟨below, notSame⟩
  by_contra notBelow
  exact notSame (List.le_antisymm (nameLe_iff.mp below) (List.not_lt.mp notBelow))

theorem read_join
    {name : FileName} (valid : Path.IsName name) (dir : Path) (containerId : String)
    (tree : FileTree) :
    (Pending.stored containerId (dir.join name)).read tree =
      match tree.readFile (dir.join name) with
      | .ok contents => .ok { name := Utf8.decodeLossy name, contents }
      | .error _ => .error
          { cause := .artifactUnreadable containerId
            notes := ["path: " ++ (dir.join name).display] } := by
  rw [Pending.read, Path.fileName?_join_name valid dir]
  rfl

theorem read_stored
    (found : tree.find? true dir = .ok (top, .directory)) {name : FileName} {contents : Bytes}
    (valid : IsTextName name) (present : tree.node? (top ++ [name]) = some (.file contents))
    (containerId : String) :
    (Pending.stored containerId (dir.join name)).read tree =
      if pathLimit < (dir.join name).length then
        .error
          { cause := .artifactUnreadable containerId
            notes := ["path: " ++ (dir.join name).display] }
      else .ok { name := Utf8.decodeLossy name, contents } := by
  rw [read_join valid.isName, readFile_join found valid present]
  by_cases long : pathLimit < (dir.join name).length
  · simp only [if_pos long]
  · simp only [if_neg long]

theorem hasArtifactName_join {name : FileName} (valid : Path.IsName name) :
    hasArtifactName (dir.join name) = hasArtifactName name := by
  rw [hasArtifactName, hasArtifactName, Path.extension?, Path.extension?,
    Path.fileName?_join_name valid dir, Path.fileName?_of_isName valid]

end Stored

/-! ## Agreement -/

/-- What a folder must be for its archive to tell everything about its files: at each place is one
thing, and the names of the files and of the directories that lead to them are texts. -/
structure FileTree.IsTextFolder (tree : FileTree) (top : Place) : Prop where
  distinct : (tree.entries.map (·.1)).Nodup
  named : ∀ file ∈ tree.filesBelow top, ∀ name ∈ file.1, IsTextName name

namespace Artifact

/-- Whether an artifact of an archive is also one of those that are read from a mount. -/
def isStorable (artifact : Artifact) : Bool :=
  '/' ∉ artifact.name.toList ∧ Stored.hasArtifactName (Path.ofText artifact.name)

def ofDirect (file : FileName × Bytes) : Artifact :=
  { name := Utf8.decodeLossy file.1, contents := file.2 }

/-- A file directly in the folder is storable if its name says so, and no other file is. -/
theorem isStorable_ofFile
    {file : List FileName × Bytes} (named : ∀ name ∈ file.1, IsTextName name)
    (below : file.1 ≠ []) :
    (ofFile file).isStorable =
      (direct? file).any fun direct => Stored.hasArtifactName direct.1 := by
  obtain ⟨names, contents⟩ := file
  rw [Bool.eq_iff_iff, isStorable, decide_eq_true_iff, ← Path.slash_mem_ofText,
    ofText_name_ofFile named]
  cases names with
  | nil => exact absurd rfl below
  | cons name others =>
      have unbroken : Path.slash ∉ name := (named name List.mem_cons_self).isName.unbroken
      cases others with
      | nil => simp [unbroken, direct?]
      | cons second more => simp [List.intercalate_cons_cons, direct?]

theorem filter_isStorable
    {files : List (List FileName × Bytes)} (below : ∀ file ∈ files, file.1 ≠ [])
    (named : ∀ file ∈ files, ∀ name ∈ file.1, IsTextName name) :
    (files.map ofFile).filter isStorable =
      ((files.filterMap direct?).filter fun file => Stored.hasArtifactName file.1).map
        ofDirect := by
  induction files with
  | nil => rfl
  | cons file others inductionHypothesis =>
      have rest := inductionHypothesis
        (fun other member => below other (List.mem_cons_of_mem _ member))
        fun other member => named other (List.mem_cons_of_mem _ member)
      have first :=
        isStorable_ofFile (named file List.mem_cons_self) (below file List.mem_cons_self)
      rw [List.map_cons, List.filter_cons, first, rest]
      cases isDirect : direct? file with
      | none => simp [isDirect]
      | some direct =>
          obtain ⟨name, contents⟩ := direct
          have same : ofFile file = ofDirect (name, contents) := by
            rw [direct?_eq_some.mp isDirect, ofFile, List.intercalate_singleton, ofDirect]
          cases kept : Stored.hasArtifactName name with
          | false => simp [isDirect, kept]
          | true => simp [isDirect, kept, same]

end Artifact

namespace Stored

def names (tree : FileTree) (top : Place) : List FileName :=
  (((tree.filesIn top).map (·.1)).mergeSort nameLe).filter hasArtifactName

def artifactAt (tree : FileTree) (top : Place) (name : FileName) : Artifact :=
  { name := Utf8.decodeLossy name
    contents := ((tree.node? (top ++ [name])).bind FileNode.contents?).getD [] }

variable {tree : FileTree} {dir : Path} {top : Place} {name : FileName}

theorem mem_names :
    name ∈ names tree top ↔
      hasArtifactName name ∧ ∃ contents, (name, contents) ∈ tree.filesIn top := by
  rw [names, List.mem_filter, List.mem_mergeSort, List.mem_map]
  simp [and_comm]

/-- Names that are all different are listed in strictly ascending order. -/
theorem pairwise_names (distinct : (tree.entries.map (·.1)).Nodup) :
    (names tree top).Pairwise (· < ·) := by
  refine (pairwise_mergeSort_nameLe ?_).filter _
  rw [← names_of_files distinct]
  exact (nodup_namesIn distinct top).filter _

theorem list_eq_names
    (found : tree.find? true dir = .ok (top, .directory))
    (distinct : (tree.entries.map (·.1)).Nodup)
    (valid : ∀ file ∈ tree.filesIn top, Path.IsName file.1) :
    list tree dir = .ok ((names tree top).map dir.join) := by
  rw [list_eq found distinct, List.filter_map, names]
  congr 2
  refine List.filter_congr fun name sorted => ?_
  obtain ⟨file, inDirectory, rfl⟩ := List.mem_map.mp (List.mem_mergeSort.mp sorted)
  exact hasArtifactName_join (valid file inDirectory)

section Folder

variable (folder : tree.IsTextFolder top)
include folder

theorem isTextName_of_mem_filesIn {contents : Bytes}
    (listed : (name, contents) ∈ tree.filesIn top) : IsTextName name :=
  folder.named _ (mem_filesIn.mp listed) name (List.mem_singleton.mpr rfl)

theorem isName_of_mem_filesIn :
    ∀ file ∈ tree.filesIn top, Path.IsName file.1 :=
  fun _ listed => (isTextName_of_mem_filesIn folder listed).isName

theorem isTextName_of_mem_names (listed : name ∈ names tree top) : IsTextName name := by
  obtain ⟨_, contents, inDirectory⟩ := mem_names.mp listed
  exact isTextName_of_mem_filesIn folder inDirectory

theorem artifactAt_eq {contents : Bytes} (listed : (name, contents) ∈ tree.filesIn top) :
    artifactAt tree top name = Artifact.ofDirect (name, contents) := by
  rw [artifactAt, node?_of_mem_filesIn folder.distinct listed]
  rfl

theorem ofText_name_artifactAt (listed : name ∈ names tree top) :
    Path.ofText (artifactAt tree top name).name = name := by
  obtain ⟨text, rfl⟩ := (isTextName_of_mem_names folder listed).text
  exact congrArg Path.ofText (Path.display_ofText text)

theorem names_perm :
    ((names tree top).map (artifactAt tree top)).Perm
      (((tree.filesIn top).filter fun file => hasArtifactName file.1).map Artifact.ofDirect) := by
  have unsorted := ((List.mergeSort_perm ((tree.filesIn top).map (·.1)) nameLe).filter
    hasArtifactName).map (artifactAt tree top)
  -- Looking a name up again gives the contents that were listed with it.
  have same : (((tree.filesIn top).map (·.1)).filter hasArtifactName).map (artifactAt tree top) =
      ((tree.filesIn top).filter fun file => hasArtifactName file.1).map Artifact.ofDirect := by
    rw [List.filter_map, List.map_map]
    refine List.map_congr_left ?_
    rintro ⟨name, contents⟩ listed
    exact artifactAt_eq folder (List.mem_filter.mp listed).1
  rw [← same]
  exact unsorted

section Found

variable (found : tree.find? true dir = .ok (top, .directory))
include found

theorem read_of_mem_names (containerId : String) (listed : name ∈ names tree top) :
    (Pending.stored containerId (dir.join name)).read tree =
      if pathLimit < (dir.join name).length then
        .error
          { cause := .artifactUnreadable containerId
            notes := ["path: " ++ (dir.join name).display] }
      else .ok (artifactAt tree top name) := by
  obtain ⟨_, contents, inDirectory⟩ := mem_names.mp listed
  rw [artifactAt_eq folder inDirectory]
  exact read_stored found (isTextName_of_mem_filesIn folder inDirectory)
    (node?_of_mem_filesIn folder.distinct inDirectory) containerId

end Found

end Folder

end Stored

namespace Artifact

def pathIn (dir : Path) (artifact : Artifact) : Path := dir.join (Path.ofText artifact.name)

/-- What it means that a folder yields the same artifacts from an archive and from a mount.  The
archive yields all files; on the mount those of them are listed that are directly in the folder and
are artifacts by their names, each once and in ascending order.  Each of these is read with the same
name and contents, unless its path behind that of the folder is too long. -/
structure AgreesOnFolder (containerId : String) (tree : FileTree) (dir : Path) (archive : Bytes)
    (archived stored : List Artifact) : Prop where
  streamed : Archived.stream containerId archive =
    archived.map fun artifact => .decoded (.ok artifact)
  restricted : stored.Perm (archived.filter isStorable)
  ascending : stored.Pairwise fun first second => Path.ofText first.name < Path.ofText second.name
  listed : Stored.list tree dir = .ok (stored.map (pathIn dir))
  read : (Stored.stream containerId (stored.map (pathIn dir))).map (Pending.read tree) =
    stored.map fun artifact =>
      if pathLimit < (artifact.pathIn dir).length then
        .error
          { cause := .artifactUnreadable containerId
            notes := ["path: " ++ (artifact.pathIn dir).display] }
      else .ok artifact

/-- A folder yields the same artifacts, whether it is read from a mount or from an archive of it. -/
theorem stored_agrees_with_archived
    (containerId : String) {tree : FileTree} {dir : Path} {top : Place} {archive : Bytes}
    (found : tree.find? true dir = .ok (top, .directory)) (folder : tree.IsTextFolder top)
    (holds : Archived.HoldsFiles (tree.filesBelow top) (Tar.read archive)) :
    ∃ archived stored, AgreesOnFolder containerId tree dir archive archived stored := by
  obtain ⟨archived, stream, files⟩ :=
    Archived.stream_of_holdsFiles containerId holds folder.named
  have below : ∀ file ∈ tree.filesBelow top, file.1 ≠ [] :=
    fun file listed => (mem_filesBelow.mp listed).1
  have spelled : ∀ name ∈ Stored.names tree top,
      Path.ofText (Stored.artifactAt tree top name).name = name :=
    fun name listed => Stored.ofText_name_artifactAt folder listed
  have paths : ∀ name ∈ Stored.names tree top,
      (Stored.artifactAt tree top name).pathIn dir = dir.join name := by
    intro name listed
    rw [pathIn, spelled name listed]
  refine ⟨archived, (Stored.names tree top).map (Stored.artifactAt tree top), ?_⟩
  constructor
  case streamed => exact stream
  case restricted =>
    have storable := files.filter isStorable
    rw [filter_isStorable below folder.named] at storable
    exact (Stored.names_perm folder).trans storable.symm
  case ascending =>
    rw [List.pairwise_map]
    refine (Stored.pairwise_names folder.distinct).imp_of_mem fun first second before => ?_
    rw [spelled _ first, spelled _ second]
    exact before
  case listed =>
    rw [Stored.list_eq_names found folder.distinct (Stored.isName_of_mem_filesIn folder),
      List.map_map]
    congr 1
    exact List.map_congr_left fun name listed => (paths name listed).symm
  case read =>
    rw [Stored.stream, List.map_map, List.map_map, List.map_map, List.map_map]
    refine List.map_congr_left fun name listed => ?_
    simp only [Function.comp_apply, paths name listed]
    exact Stored.read_of_mem_names folder found containerId listed

/-! ### A folder of logs -/

def padded (length : ℕ) (bytes : Bytes) : Bytes :=
  bytes ++ List.replicate (length - bytes.length) 0

def headerOf (path : String) (kind : UInt8) (size sum : String) : Bytes :=
  padded 124 (Utf8.encode path) ++ padded 24 (Utf8.encode size) ++ padded 8 (Utf8.encode sum) ++
    padded 356 [kind]

def fileMember (path sum : String) (byte : UInt8) : Bytes :=
  headerOf path 0x30 "1" sum ++ padded 512 [byte]

/-- An archive of a folder with two files, one of them in a directory below. -/
def logsArchive : Bytes :=
  headerOf "./" 0x35 "0" "702" ++ fileMember "./sub/b.log" "2411" 1 ++
    fileMember "./a.log" "1617" 3

theorem read_logsArchive :
    Tar.read logsArchive =
      ([{ path := Path.ofText "./", kind := .other, contents := [] },
        { path := Path.ofText "./sub/b.log", kind := .regular, contents := [1] },
        { path := Path.ofText "./a.log", kind := .regular, contents := [3] }], none) := by
  decide +kernel

def logsPlace : Place := [Path.ofText "logs"]

/-- A tree where `/logs` is the folder of the archive, with a link besides. -/
def logsTree : FileTree :=
  { entries :=
      [(logsPlace, .directory), (logsPlace ++ [Path.ofText "a.log"], .file [3]),
        (logsPlace ++ [Path.ofText "l.log"], .link (Path.ofText "a.log")),
        (logsPlace ++ [Path.ofText "sub"], .directory),
        (logsPlace ++ [Path.ofText "sub", Path.ofText "b.log"], .file [1])] }

theorem holdsFiles_logsArchive :
    Archived.HoldsFiles (logsTree.filesBelow logsPlace) (Tar.read logsArchive) := by
  rw [read_logsArchive]
  exact ⟨rfl, by decide +kernel⟩

theorem isTextFolder_logsTree : logsTree.IsTextFolder logsPlace := by
  have named : ∀ text ∈ ["a.log", "sub", "b.log"], IsTextName (Path.ofText text) := by
    intro text listed
    refine ⟨⟨?_, ?_, ?_, ?_⟩, ?_, ?_, text, rfl⟩ <;> revert text <;> decide
  have files : logsTree.filesBelow logsPlace =
      [(["a.log"].map Path.ofText, [3]), (["sub", "b.log"].map Path.ofText, [1])] := by decide
  refine ⟨by decide, ?_⟩
  rw [files]
  intro file listed name member
  simp only [List.mem_cons, List.not_mem_nil, or_false] at listed
  rcases listed with rfl | rfl
  · obtain ⟨text, known, rfl⟩ := List.mem_map.mp member
    exact named text (List.mem_cons.mpr (.inl (List.mem_singleton.mp known)))
  · obtain ⟨text, known, rfl⟩ := List.mem_map.mp member
    exact named text (List.mem_cons_of_mem _ known)

theorem mounted_and_archived_logs :
    logsTree.find? true (Path.ofText "/logs") = .ok (logsPlace, .directory) ∧
      logsTree.IsTextFolder logsPlace ∧
      Archived.HoldsFiles (logsTree.filesBelow logsPlace) (Tar.read logsArchive) ∧
      ∃ archived stored, AgreesOnFolder "grid-1" logsTree (Path.ofText "/logs") logsArchive
        archived stored := by
  have found : logsTree.find? true (Path.ofText "/logs") = .ok (logsPlace, .directory) := by cbv
  exact ⟨found, isTextFolder_logsTree, holdsFiles_logsArchive,
    stored_agrees_with_archived "grid-1" found isTextFolder_logsTree holdsFiles_logsArchive⟩

/-- The directory `/logs`, written with slashes up to almost the longest path. -/
def longPath : Path := Path.ofText "/logs" ++ List.replicate 4088 Path.slash

/-- Slashes at the end mean nothing, as long as there are not too many of them. -/
theorem find?_longPath : logsTree.find? true longPath = .ok (logsPlace, .directory) := by
  have segments : longPath.segments = logsPlace := by decide +kernel
  have noZero : ¬ longPath.contains 0 = true := by decide +kernel
  have nonempty : ¬ longPath.isEmpty = true := by decide +kernel
  have short : ¬ pathLimit < longPath.length := by decide +kernel
  have absolute : longPath.isAbsolute = true := by decide +kernel
  have walked : logsTree.walk true linkLimit [] logsPlace = .ok (.present logsPlace) := by cbv
  have resolved : logsTree.resolve true longPath = .ok (.present logsPlace) := by
    rw [resolve, if_neg noZero, if_neg nonempty, if_neg short, segments, start, if_pos absolute,
      walked]
  have directory : logsTree.node? logsPlace = some .directory := by decide
  rw [find?, Bool.true_or, resolved]
  simp [directory]

def longLogPath : Path := longPath.join (Path.ofText "a.log")

/-- An artifact of the archive that is listed on the mount, but cannot be read there. -/
theorem long_path_is_listed_but_unreadable :
    logsTree.find? true longPath = .ok (logsPlace, .directory) ∧
      logsTree.IsTextFolder logsPlace ∧
      Archived.HoldsFiles (logsTree.filesBelow logsPlace) (Tar.read logsArchive) ∧
      Archived.stream "grid-1" logsArchive =
        [.decoded (.ok { name := "sub/b.log", contents := [1] }),
          .decoded (.ok { name := "a.log", contents := [3] })] ∧
      isStorable { name := "a.log", contents := [3] } ∧
      Stored.list logsTree longPath = .ok [longLogPath] ∧
      (Stored.stream "grid-1" [longLogPath]).map (Pending.read logsTree) =
        [.error
          { cause := .artifactUnreadable "grid-1"
            notes := ["path: " ++ longLogPath.display] }] := by
  have names : Stored.names logsTree logsPlace = [Path.ofText "a.log"] := by decide +kernel
  refine ⟨find?_longPath, isTextFolder_logsTree, holdsFiles_logsArchive, ?_, ?_, ?_, ?_⟩
  · have whole : (Tar.read logsArchive).2 = none := by rw [read_logsArchive]
    have artifacts : (Tar.read logsArchive).1.filterMap Archived.artifact? =
        [{ name := "sub/b.log", contents := [1] }, { name := "a.log", contents := [3] }] := by
      rw [read_logsArchive]
      decide +kernel
    rw [Archived.stream_of_whole "grid-1" whole, artifacts]
    rfl
  · decide +kernel
  · rw [Stored.list_eq_names find?_longPath isTextFolder_logsTree.distinct
      (Stored.isName_of_mem_filesIn isTextFolder_logsTree), names]
    rfl
  · have listed : Path.ofText "a.log" ∈ Stored.names logsTree logsPlace := by
      rw [names]
      exact List.mem_singleton.mpr rfl
    have tooLong : pathLimit < longLogPath.length := by decide +kernel
    have read := Stored.read_of_mem_names isTextFolder_logsTree find?_longPath "grid-1" listed
    rw [← longLogPath, if_pos tooLong] at read
    rw [Stored.stream, List.map_singleton, List.map_singleton, read]

end Artifact

end BrowserPods
