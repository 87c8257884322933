import BrowserPods.Proofs.Config.FolderMounts
import BrowserPods.Proofs.Config.MountSearch
import BrowserPods.Proofs.Files.Spelling
import BrowserPods.Proofs.Files.Written
import Mathlib

/-!
# Protected places and their spellings

A mount is taken for protected if its path begins with the text of a protected place.  That is not
what it means to lie there: another spelling of the place is shared all the same, and a mount beside
the place, whose name begins with the last name of the place, is dropped
(`FolderMounts.alias_is_shared`).  Where no mount is spelled in these two ways, just what lies at
protected places is kept back (`FolderMounts.protects_places_iff`).
-/

namespace BrowserPods.FolderMounts

open BrowserPods.Path BrowserPods.Text

/-- Whether a path, by its components, is a place or lies below it. -/
def LiesAt (place path : String) : Prop := (ofText place).components <+: (ofText path).components

instance (place path : String) : Decidable (LiesAt place path) :=
  inferInstanceAs (Decidable ((ofText place).components <+: (ofText path).components))

/-- Whether a path leads to a place, with more than one slash in front of a name of it. -/
def IsAlias (place path : String) : Prop := Respells (ofText place).segments (ofText path)

/-- Whether a path begins with the text of a place and goes on with its last name. -/
def IsBeside (place path : String) : Prop :=
  ∃ c rest, c ≠ '/' ∧ path.toList = place.toList ++ c :: rest

/-! ## Places and texts -/

variable {place other path : String}

theorem shape_of_mem_protectedPaths (listed : place ∈ protectedPaths) :
    ∃ first second others, (ofText place).segments = first :: second :: others ∧
      (∀ name ∈ (ofText place).segments, IsName name) ∧
      ofText place = along (ofText place).segments ∧
      (ofText place).components = .root :: (ofText place).segments.map .entry := by
  simp only [protectedPaths, List.mem_cons, List.not_mem_nil, or_false] at listed
  rcases listed with rfl | rfl
  · exact ⟨ofText "home", ofText "seluser", [ofText "videos"], by decide +kernel, by decide +kernel,
      by decide +kernel, by decide +kernel⟩
  · exact ⟨ofText "dev", ofText "shm", [], by decide +kernel, by decide +kernel,
      by decide +kernel, by decide +kernel⟩

theorem liesAt_iff (listed : place ∈ protectedPaths) :
    LiesAt place path ↔ Spells (ofText place).segments (ofText path) := by
  obtain ⟨first, second, others, shape, valid, _, components⟩ := shape_of_mem_protectedPaths listed
  rw [LiesAt, components]
  exact prefix_components_iff valid (by simp [shape])

theorem prefix_toList_iff (listed : place ∈ protectedPaths) :
    place.toList <+: path.toList ↔ along (ofText place).segments <+: ofText path := by
  obtain ⟨_, _, _, _, _, written, _⟩ := shape_of_mem_protectedPaths listed
  rw [← written]
  exact Utf8.encode_prefix_iff.symm

theorem isAlias_iff (listed : place ∈ protectedPaths) :
    IsAlias place path ↔ LiesAt place path ∧ ¬ place.toList <+: path.toList := by
  obtain ⟨_, _, _, _, valid, _, _⟩ := shape_of_mem_protectedPaths listed
  rw [liesAt_iff listed, prefix_toList_iff listed, spells_and_not_along_prefix_iff valid, IsAlias]

theorem isBeside_iff (listed : place ∈ protectedPaths) :
    IsBeside place path ↔ place.toList <+: path.toList ∧ ¬ LiesAt place path := by
  obtain ⟨_, _, _, _, valid, written, _⟩ := shape_of_mem_protectedPaths listed
  have bytes {more : List Char} (shape : path.toList = place.toList ++ more) :
      ofText path = along (ofText place).segments ++ more.flatMap Utf8.encodeChar := by
    rw [← written, ofText, ofText, Utf8.encode, Utf8.encode, shape, List.flatMap_append]
  rw [liesAt_iff listed]
  constructor
  · rintro ⟨c, rest, goesOn, shape⟩
    refine ⟨⟨c :: rest, shape.symm⟩, ?_⟩
    obtain ⟨lead, more, character, _⟩ := Utf8.exists_encodeChar c
    have notSlash : lead ≠ slash := by
      rintro rfl
      apply goesOn
      rw [← slash_mem_encodeChar, character]
      exact List.mem_cons_self
    rw [bytes shape, List.flatMap_cons, character, List.cons_append]
    exact not_spells_along_append valid notSlash _
  · rintro ⟨⟨more, shape⟩, elsewhere⟩
    rw [bytes shape.symm] at elsewhere
    cases more with
    | nil => exact absurd (spells_along_append (.inl rfl)) elsewhere
    | cons c rest =>
        refine ⟨c, rest, ?_, shape.symm⟩
        rintro rfl
        exact elsewhere (spells_along_append (.inr rfl))

/-- What lies at one protected place does not begin with the text of another one. -/
theorem eq_of_liesAt_of_prefix (listed : place ∈ protectedPaths)
    (otherListed : other ∈ protectedPaths)
    (lies : LiesAt place path) (initial : other.toList <+: path.toList) : place = other := by
  rw [liesAt_iff listed] at lies
  rw [prefix_toList_iff otherListed] at initial
  have first : (ofText place).segments.head? = (ofText other).segments.head? := by
    obtain ⟨name, _, _, shape, valid, _⟩ := shape_of_mem_protectedPaths listed
    obtain ⟨otherName, _, _, otherShape, otherValid, _⟩ := shape_of_mem_protectedPaths otherListed
    rw [shape] at lies valid
    rw [otherShape] at initial otherValid
    rw [shape, otherShape, eq_of_spells_of_along_prefix (valid name List.mem_cons_self)
      (otherValid otherName List.mem_cons_self) lies initial]
    rfl
  simp only [protectedPaths, List.mem_cons, List.not_mem_nil, or_false] at listed otherListed
  rcases listed with rfl | rfl
  · rcases otherListed with rfl | rfl
    · rfl
    · exact absurd first (by decide +kernel)
  · rcases otherListed with rfl | rfl
    · exact absurd first (by decide +kernel)
    · rfl

/-! ## Mounts at places -/

/-- Whether a mount has the name of a volume, in upper or lower case. -/
def FindsVolume (volumes : List Volume) (mount : VolumeMount) : Prop :=
  ∃ volume ∈ volumes, folded volume.name = folded mount.name

/-- Whether nothing at a protected place is shared, and no artifacts are kept there. -/
def KeepsBack (mounts : List VolumeMount) (volumes : List Volume) : Prop :=
  (∀ pair ∈ shared mounts volumes, ∀ place ∈ protectedPaths,
    ¬ LiesAt place pair.mount.mountPath) ∧
  ∀ mount, artifacts? (shared mounts volumes) = some mount → ∀ place ∈ protectedPaths,
    ¬ LiesAt place mount.mountPath

/-- Whether everything else with a volume is shared. -/
def DropsNothingElse (mounts : List VolumeMount) (volumes : List Volume) : Prop :=
  ∀ mount ∈ mounts, FindsVolume volumes mount →
    (∀ place ∈ protectedPaths, ¬ LiesAt place mount.mountPath) →
      mount ∈ (shared mounts volumes).map (·.mount)

variable {mounts : List VolumeMount} {volumes : List Volume}

theorem mem_map_mount_shared_iff {mount : VolumeMount} :
    mount ∈ (shared mounts volumes).map (·.mount) ↔
      mount ∈ mounts ∧ FindsVolume volumes mount ∧
        ∀ place ∈ protectedPaths, ¬ place.toList <+: mount.mountPath.toList := by
  rw [map_mount_shared_eq_filter_finds, List.mem_filter, decide_eq_true_iff]
  exact and_congr_right fun _ => and_comm

theorem keepsBack_iff :
    KeepsBack mounts volumes ↔
      ∀ mount ∈ mounts, FindsVolume volumes mount → ∀ place ∈ protectedPaths,
        ¬ IsAlias place mount.mountPath := by
  constructor
  · rintro ⟨keeps, _⟩ mount member finds place listed isAlias
    obtain ⟨lies, different⟩ := (isAlias_iff listed).mp isAlias
    have isShared : mount ∈ (shared mounts volumes).map (·.mount) := by
      refine mem_map_mount_shared_iff.mpr ⟨member, finds, fun other otherListed initial => ?_⟩
      obtain rfl := eq_of_liesAt_of_prefix listed otherListed lies initial
      exact different initial
    obtain ⟨pair, inShared, rfl⟩ := List.mem_map.mp isShared
    exact keeps pair inShared place listed lies
  · intro noAlias
    have keeps : ∀ mount ∈ (shared mounts volumes).map (·.mount), ∀ place ∈ protectedPaths,
        ¬ LiesAt place mount.mountPath := by
      intro mount isShared place listed lies
      obtain ⟨member, finds, unprotected⟩ := mem_map_mount_shared_iff.mp isShared
      exact noAlias mount member finds place listed
        ((isAlias_iff listed).mpr ⟨lies, unprotected place listed⟩)
    refine ⟨fun pair member => keeps pair.mount (List.mem_map_of_mem member), ?_⟩
    intro mount found
    exact keeps mount (mem_of_artifacts? found)

theorem dropsNothingElse_iff :
    DropsNothingElse mounts volumes ↔
      ∀ mount ∈ mounts, FindsVolume volumes mount → ∀ place ∈ protectedPaths,
        ¬ IsBeside place mount.mountPath := by
  constructor
  · intro drops mount member finds place listed isBeside
    obtain ⟨initial, elsewhere⟩ := (isBeside_iff listed).mp isBeside
    have nowhere : ∀ other ∈ protectedPaths, ¬ LiesAt other mount.mountPath := by
      intro other otherListed lies
      obtain rfl := eq_of_liesAt_of_prefix otherListed listed lies initial
      exact elsewhere lies
    obtain ⟨_, _, unprotected⟩ := mem_map_mount_shared_iff.mp (drops mount member finds nowhere)
    exact unprotected place listed initial
  · intro noneBeside mount member finds nowhere
    refine mem_map_mount_shared_iff.mpr ⟨member, finds, fun place listed initial => ?_⟩
    exact noneBeside mount member finds place listed
      ((isBeside_iff listed).mpr ⟨initial, nowhere place listed⟩)

/-- What lies at protected places is kept back exactly if no mount with a volume is an alias of one,
and nothing else is dropped exactly if no mount with a volume is beside one. -/
theorem protects_places_iff (mounts : List VolumeMount) (volumes : List Volume) :
    (KeepsBack mounts volumes ↔
      ∀ mount ∈ mounts, FindsVolume volumes mount → ∀ place ∈ protectedPaths,
        ¬ IsAlias place mount.mountPath) ∧
    (DropsNothingElse mounts volumes ↔
      ∀ mount ∈ mounts, FindsVolume volumes mount → ∀ place ∈ protectedPaths,
        ¬ IsBeside place mount.mountPath) :=
  ⟨keepsBack_iff, dropsNothingElse_iff⟩

/-- Volumes and mounts in the way that pods have them. -/
theorem plain_mounts_are_protected :
    let volumes : List Volume := [.ofClaim "shm-data" "shm", .ofClaim "grid-data" "logs"]
    let mounts : List VolumeMount :=
      [{ name := "shm-data", mountPath := "/dev/shm" },
        { name := "shm-data", mountPath := "/home/seluser/videos//./new/" },
        { name := "grid-data", mountPath := "/home/seluser/logs" }]
    KeepsBack mounts volumes ∧ DropsNothingElse mounts volumes := by
  intro volumes mounts
  have agree : ∀ mount ∈ mounts, ∀ place ∈ protectedPaths,
      (LiesAt place mount.mountPath ↔ place.toList <+: mount.mountPath.toList) := by
    decide +kernel
  obtain ⟨keepsBack, dropsNothingElse⟩ := protects_places_iff mounts volumes
  constructor
  · refine keepsBack.mpr fun mount member _ place listed isAlias => ?_
    obtain ⟨lies, different⟩ := (isAlias_iff listed).mp isAlias
    exact different ((agree mount member place listed).mp lies)
  · refine dropsNothingElse.mpr fun mount member _ place listed isBeside => ?_
    obtain ⟨initial, elsewhere⟩ := (isBeside_iff listed).mp isBeside
    exact elsewhere ((agree mount member place listed).mpr initial)

/-- A mount of the shared memory with one slash too many is shared, and even taken for artifacts,
while the data of a neighbour of the recordings are dropped. -/
theorem alias_is_shared :
    let volumes : List Volume := [.ofClaim "shm-data" "shm", .ofClaim "grid-data" "logs"]
    let shm : VolumeMount := { name := "shm-data", mountPath := "/dev//shm" }
    let data : VolumeMount := { name := "grid-data", mountPath := "/home/seluser/videos-data" }
    LiesAt "/dev/shm" shm.mountPath ∧
      (∀ place ∈ protectedPaths, ¬ LiesAt place data.mountPath) ∧
      (shared [shm, data] volumes).map (·.mount) = [shm] ∧
      artifacts? (shared [shm, data] volumes) = some shm ∧
      ¬ KeepsBack [shm, data] volumes ∧ ¬ DropsNothingElse [shm, data] volumes := by
  intro volumes shm data
  have lies : LiesAt "/dev/shm" shm.mountPath := by decide +kernel
  have nowhere : ∀ place ∈ protectedPaths, ¬ LiesAt place data.mountPath := by decide +kernel
  have isShared : (shared [shm, data] volumes).map (·.mount) = [shm] := by decide +kernel
  have isArtifacts : artifacts? (shared [shm, data] volumes) = some shm := by decide +kernel
  refine ⟨lies, nowhere, isShared, isArtifacts, ?_, ?_⟩
  · rintro ⟨_, keeps⟩
    exact keeps shm isArtifacts "/dev/shm" (by simp [protectedPaths]) lies
  · intro drops
    have kept := drops data (by simp) ⟨.ofClaim "grid-data" "logs", by simp [volumes], rfl⟩ nowhere
    rw [isShared] at kept
    exact absurd kept (by decide)

end BrowserPods.FolderMounts
