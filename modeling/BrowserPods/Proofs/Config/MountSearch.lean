import BrowserPods.Proofs.Config.FolderMounts
import Mathlib.Tactic.Common

/-!
# One pass over the mounts

One pass over the mounts of our own pod finds the shared ones and, beside them, the one where
artifacts are kept: the first of them whose volume is lasting and named for data
(`FolderMounts.search_finds`).  More mounts behind the others are more to find, and nothing else.
-/

namespace BrowserPods

namespace FolderMounts

structure Findings where
  shared : List FolderMount := []
  artifacts : Option VolumeMount := none

def Findings.visit (volumes : List Volume) (found : Findings) (mount : VolumeMount) : Findings :=
  if isProtected mount then found
  else
    match volumes.find? fun volume => sameName volume.name mount.name with
    | none => found
    | some volume =>
      { shared := found.shared ++ [{ mount, volume }]
        artifacts :=
          if found.artifacts.isNone && holdsArtifacts { mount, volume } then some mount
          else found.artifacts }

def search (mounts : List VolumeMount) (volumes : List Volume) : Findings :=
  mounts.foldl (Findings.visit volumes) {}

/-- Whether the volume of a shared mount is lasting and named for data. -/
structure HoldsData (pair : FolderMount) : Prop where
  lasting : pair.volume.emptyDir = none
  named : artifactsSuffix.toList <:+ pair.volume.name.toList

variable {volumes : List Volume} {mount : VolumeMount} {pairs : List FolderMount}

theorem holdsArtifacts_iff (pair : FolderMount) : holdsArtifacts pair = true ↔ HoldsData pair := by
  rw [holdsArtifacts, Bool.and_eq_true, Option.isNone_iff_eq_none, List.isSuffixOf_iff_suffix]
  exact ⟨fun ⟨lasting, named⟩ => ⟨lasting, named⟩, fun holds => ⟨holds.lasting, holds.named⟩⟩

theorem isProtected_iff :
    isProtected mount = true ↔
      ∃ place ∈ protectedPaths, place.toList <+: mount.mountPath.toList := by
  simp [isProtected]

/-! ## More mounts -/

theorem shared_append (first second : List VolumeMount) (volumes : List Volume) :
    shared (first ++ second) volumes = shared first volumes ++ shared second volumes := by
  rw [shared, List.filter_append, List.filterMap_append]
  rfl

theorem artifacts?_append (first second : List FolderMount) :
    artifacts? (first ++ second) = (artifacts? first).or (artifacts? second) := by
  rw [artifacts?, List.find?_append, Option.map_or]
  rfl

theorem shared_singleton_of_isProtected (isProtected : isProtected mount) :
    shared [mount] volumes = [] := by
  simp [shared, isProtected]

theorem shared_singleton (unprotected : ¬ isProtected mount) :
    shared [mount] volumes = (withVolume? volumes mount).toList := by
  cases found : withVolume? volumes mount with
  | none => simp [shared, unprotected, found]
  | some pair => simp [shared, unprotected, found]

/-! ## The pass -/

/-- A pass that has found pairs and the mount for artifacts among them, one step on. -/
theorem visit_eq (volumes : List Volume) (pairs : List FolderMount) (mount : VolumeMount) :
    Findings.visit volumes ⟨pairs, artifacts? pairs⟩ mount =
      ⟨pairs ++ shared [mount] volumes, artifacts? (pairs ++ shared [mount] volumes)⟩ := by
  rw [Findings.visit]
  by_cases protectedHere : isProtected mount
  · rw [if_pos protectedHere, shared_singleton_of_isProtected protectedHere, List.append_nil]
  · rw [if_neg protectedHere, shared_singleton protectedHere, withVolume?]
    cases volumes.find? fun volume => sameName volume.name mount.name with
    | none => simp
    | some volume =>
        rw [artifacts?_append]
        cases artifacts? pairs with
        | some _ => rfl
        | none =>
            by_cases holds : holdsArtifacts { mount, volume }
            · simp [artifacts?, holds]
            · simp [artifacts?, holds]

theorem foldl_visit (volumes : List Volume) (mounts : List VolumeMount) (pairs : List FolderMount) :
    mounts.foldl (Findings.visit volumes) ⟨pairs, artifacts? pairs⟩ =
      ⟨pairs ++ shared mounts volumes, artifacts? (pairs ++ shared mounts volumes)⟩ := by
  induction mounts generalizing pairs with
  | nil => simp [shared]
  | cons mount others inductionHypothesis =>
      rw [List.foldl_cons, visit_eq, inductionHypothesis, List.append_assoc, ← shared_append,
        List.singleton_append]

theorem search_eq (mounts : List VolumeMount) (volumes : List Volume) :
    search mounts volumes = ⟨shared mounts volumes, artifacts? (shared mounts volumes)⟩ :=
  foldl_visit volumes mounts []

/-! ## What is found -/

theorem map_mount_shared_eq_filter_finds (mounts : List VolumeMount) (volumes : List Volume) :
    (shared mounts volumes).map (·.mount) =
      mounts.filter fun mount =>
        (∀ place ∈ protectedPaths, ¬ place.toList <+: mount.mountPath.toList) ∧
          ∃ volume ∈ volumes, folded volume.name = folded mount.name := by
  rw [map_mount_shared_eq_filter, unprotected, List.filter_filter]
  refine List.filter_congr fun mount _ => ?_
  rw [Bool.eq_iff_iff, Bool.and_eq_true, Bool.not_eq_true', Bool.eq_false_iff, ne_eq,
    isProtected_iff, decide_eq_true_iff, decide_eq_true_iff, and_comm]
  simp only [not_exists, not_and]

theorem isFirstOf_of_mem_shared {mounts : List VolumeMount} {pair : FolderMount}
    (member : pair ∈ shared mounts volumes) :
    IsFirstOf volumes (fun volume => folded volume.name = folded pair.mount.name) pair.volume := by
  have found := find?_of_mem_shared member
  rw [find?_eq_some_iff_isFirstOf] at found
  simpa only [sameName_iff] using found

theorem artifacts?_eq_some_iff :
    artifacts? pairs = some mount ↔
      ∃ pair, IsFirstOf pairs HoldsData pair ∧ pair.mount = mount := by
  rw [artifacts?, Option.map_eq_some_iff]
  simp only [find?_eq_some_iff_isFirstOf, holdsArtifacts_iff]

theorem artifacts?_eq_none_iff : artifacts? pairs = none ↔ ∀ pair ∈ pairs, ¬ HoldsData pair := by
  rw [artifacts?, Option.map_eq_none_iff, List.find?_eq_none]
  simp only [holdsArtifacts_iff]

theorem mem_of_artifacts? (found : artifacts? pairs = some mount) :
    mount ∈ pairs.map (·.mount) := by
  obtain ⟨pair, ⟨before, after, shape, _⟩, rfl⟩ := artifacts?_eq_some_iff.mp found
  rw [shape]
  simp

/-- One pass finds the shared mounts and the one for artifacts.  The shared mounts are, in their
order and as often as they are there, those that do not begin with the text of a protected place and
have the name of a volume; each comes with the first volume of its name.  The mount for artifacts is
that of the first of them with a lasting volume for data.  More mounts add to them and never change
it. -/
theorem search_finds (mounts : List VolumeMount) (volumes : List Volume) :
    let found := search mounts volumes
    found.shared = shared mounts volumes ∧ found.artifacts = artifacts? (shared mounts volumes) ∧
    (found.shared.map (·.mount) =
      mounts.filter fun mount =>
        (∀ place ∈ protectedPaths, ¬ place.toList <+: mount.mountPath.toList) ∧
          ∃ volume ∈ volumes, folded volume.name = folded mount.name) ∧
    (∀ pair ∈ found.shared,
      IsFirstOf volumes (fun volume => folded volume.name = folded pair.mount.name) pair.volume) ∧
    (∀ mount, found.artifacts = some mount ↔
      ∃ pair, IsFirstOf found.shared HoldsData pair ∧ pair.mount = mount) ∧
    (found.artifacts = none ↔ ∀ pair ∈ found.shared, ¬ HoldsData pair) ∧
    (∀ mount, found.artifacts = some mount → mount ∈ found.shared.map (·.mount)) ∧
    ∀ more,
      (search (mounts ++ more) volumes).shared =
          found.shared ++ (search more volumes).shared ∧
      ∀ mount, found.artifacts = some mount →
        (search (mounts ++ more) volumes).artifacts = some mount := by
  intro found
  have isFound : found = ⟨shared mounts volumes, artifacts? (shared mounts volumes)⟩ :=
    search_eq mounts volumes
  rw [isFound]
  refine ⟨rfl, rfl, map_mount_shared_eq_filter_finds mounts volumes,
    fun pair => isFirstOf_of_mem_shared, fun mount => artifacts?_eq_some_iff,
    artifacts?_eq_none_iff,
    fun mount => mem_of_artifacts?, ?_⟩
  intro more
  rw [search_eq, search_eq, shared_append, artifacts?_append]
  refine ⟨rfl, fun mount (isArtifacts : artifacts? (shared mounts volumes) = some mount) => ?_⟩
  change (artifacts? (shared mounts volumes)).or (artifacts? (shared more volumes)) = some mount
  rw [isArtifacts, Option.some_or]

theorem later_mount_changes_nothing :
    let volumes : List Volume := [.memory "Scratch-data", .ofClaim "grid-data" "logs"]
    let mounts : List VolumeMount :=
      [{ name := "grid-data", mountPath := "/dev/shm/x" },
        { name := "scratch-DATA", mountPath := "/scratch" },
        { name := "ghost-data", mountPath := "/ghost" },
        { name := "GRID-data", mountPath := "/data" }]
    let later : VolumeMount := { name := "grid-data", mountPath := "/later" }
    let wanted : VolumeMount := { name := "GRID-data", mountPath := "/data" }
    (search mounts volumes).artifacts = some wanted ∧
      wanted ∈ (search mounts volumes).shared.map (·.mount) ∧
      (search (mounts ++ [later]) volumes).artifacts = some wanted := by
  intro volumes mounts later wanted
  obtain ⟨_, _, _, _, _, _, isShared, grows⟩ := search_finds mounts volumes
  have found : (search mounts volumes).artifacts = some wanted := by decide +kernel
  exact ⟨found, isShared wanted found, (grows [later]).2 wanted found⟩

end FolderMounts

end BrowserPods
