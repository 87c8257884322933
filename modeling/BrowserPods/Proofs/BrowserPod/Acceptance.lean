import BrowserPods.BrowserPod.Build
import BrowserPods.Proofs.Config.FolderMounts
import Mathlib

/-!
# When the cluster accepts the volumes of a browser pod

A cluster accepts a pod only if its volumes have different names, the mounts of a container have
different paths, and each mount names exactly one volume (`Pod.IsAcceptable`).  A browser pod has
two volumes of its own and, behind them, one for each shared mount.  So it is acceptable just if our
own pod shares each volume once, under the name that it has, and none that is named like those two
(`Pod.SharesEachVolumeOnce`).
-/

namespace BrowserPods

def Pod.volumes (pod : Pod) : List Volume := (pod.spec.bind (·.volumes)).getD []

def Pod.containers (pod : Pod) : List Container := (pod.spec.map (·.containers)).getD []

def Container.mounts (container : Container) : List VolumeMount := container.volumeMounts.getD []

def Pod.firstMounts (pod : Pod) : List VolumeMount :=
  (pod.firstContainer?.map (·.mounts)).getD []

/-- What a cluster asks of the volumes and mounts of a pod. -/
structure Pod.IsAcceptable (pod : Pod) : Prop where
  volumeNames : (pod.volumes.map (·.name)).Nodup
  mountPaths : ∀ container ∈ pod.containers, (container.mounts.map (·.mountPath)).Nodup
  mountNames : ∀ container ∈ pod.containers, ∀ mount ∈ container.mounts,
    (pod.volumes.filter (·.name = mount.name)).length = 1

def BrowserPod.ownVolumeNames : List String := ["dshm", "cache"]

/-- Whether the volumes that our own pod shares can stand in one pod with those that every browser
pod has. -/
structure Pod.SharesEachVolumeOnce (pod : Pod) : Prop where
  /-- No two shared mounts are of one volume. -/
  once : ((FolderMounts.unprotected pod.firstMounts).map
    fun mount => FolderMounts.folded mount.name).Nodup
  /-- The volume that a shared mount finds is not named like one that every browser pod has, and it
  is the one that the mount names, unless the mount names one that every browser pod has. -/
  found : ∀ mount ∈ FolderMounts.unprotected pod.firstMounts, ∀ volume,
    pod.volumes.find? (fun volume => FolderMounts.sameName volume.name mount.name) = some volume →
    volume.name ∉ BrowserPod.ownVolumeNames ∧
      (volume.name = mount.name ∨ mount.name ∈ BrowserPod.ownVolumeNames)

namespace BrowserPod

/-! ## What a browser pod consists of -/

variable (config : BrowserConfig) (request : BrowserRequest) (workDir : Option WorkDir)

@[simp]
theorem volumes_build : (build config request workDir).volumes = volumes config := rfl

@[simp]
theorem containers_build :
    (build config request workDir).containers = [container config request workDir] := rfl

@[simp]
theorem mounts_container : (container config request workDir).mounts = volumeMounts config := rfl

theorem map_name_volumes :
    (volumes config).map (·.name) =
      ownVolumeNames ++ config.sharedMounts.map (·.volume.name) := by
  simp [volumes, ownVolumeNames, memoryVolume, cacheStore, Volume.memory, Volume.ofClaim]

theorem map_mountPath_volumeMounts :
    (volumeMounts config).map (·.mountPath) =
      "/dev/shm" :: config.cacheMountPath :: config.sharedMounts.map (·.mount.mountPath) := by
  simp [volumeMounts, memoryMount, cacheMount]

theorem map_name_volumeMounts :
    (volumeMounts config).map (·.name) =
      ownVolumeNames ++ config.sharedMounts.map (·.mount.name) := by
  simp [volumeMounts, ownVolumeNames, memoryMount, cacheMount, memoryVolume, cacheStore,
    Volume.memory, Volume.ofClaim]

theorem sharedMounts_ofPod (pod : Pod) (settings : Settings) :
    (BrowserConfig.ofPod pod settings).sharedMounts =
      FolderMounts.shared pod.firstMounts pod.volumes := by
  cases shape : pod.spec with
  | none =>
      simp [BrowserConfig.ofPod, BrowserConfig.ofSpec, BrowserConfig.sharedMountsOf, shape,
        Pod.firstMounts, Pod.firstContainer?, Pod.volumes]
  | some spec =>
      cases first : spec.containers.head? with
      | none =>
          simp [BrowserConfig.ofPod, BrowserConfig.ofSpec, BrowserConfig.sharedMountsOf, shape,
            Pod.firstMounts, Pod.firstContainer?, Pod.volumes, first]
      | some container =>
          simp [BrowserConfig.ofPod, BrowserConfig.ofSpec, BrowserConfig.sharedMountsOf, shape,
            Pod.firstMounts, Pod.firstContainer?, Pod.volumes, Container.mounts, first]

/-! ## Names among names -/

/-- Among volumes with different names exactly one has a given name if any has. -/
theorem length_filter_name_eq_one_iff
    {volumes : List Volume} (different : (volumes.map (·.name)).Nodup) (wanted : String) :
    (volumes.filter (·.name = wanted)).length = 1 ↔ wanted ∈ volumes.map (·.name) := by
  have counted : (volumes.filter (·.name = wanted)).length =
      (volumes.map (·.name)).count wanted := by
    rw [List.count_eq_countP, List.countP_map, List.countP_eq_length_filter]
    congr 1
  rw [counted]
  constructor
  · intro one
    exact List.count_pos_iff.mp (by omega)
  · intro member
    have atLeast := List.count_pos_iff.mpr member
    have atMost := List.nodup_iff_count.mp different wanted
    omega

variable {mounts : List VolumeMount} {volumes : List Volume}

/-- Shared mounts have different volumes if and only if their names differ by more than case. -/
private theorem nodup_volume_names_iff
    (named : ∀ mount ∈ mounts, ∃ volume ∈ volumes, volume.name = mount.name) :
    ((FolderMounts.shared mounts volumes).map (·.volume.name)).Nodup ↔
      ((FolderMounts.unprotected mounts).map fun mount =>
        FolderMounts.folded mount.name).Nodup := by
  rw [← FolderMounts.map_mount_shared named, List.map_map, List.Nodup, List.Nodup,
    List.pairwise_map, List.pairwise_map]
  constructor
  · refine List.Pairwise.imp_of_mem fun firstMember secondMember apart same => apart ?_
    rw [FolderMounts.volume_eq_of_folded_eq firstMember secondMember same]
  · refine List.Pairwise.imp_of_mem fun firstMember secondMember apart same => apart ?_
    change FolderMounts.folded _ = FolderMounts.folded _
    rw [← FolderMounts.folded_volume_of_mem_shared firstMember, same,
      FolderMounts.folded_volume_of_mem_shared secondMember]

/-- A shared mount names one of the volumes of the browser pod if and only if it names the volume
that it has found or one that every browser pod has. -/
private theorem mem_names_iff
    {pair : FolderMount} (member : pair ∈ FolderMounts.shared mounts volumes) :
    pair.mount.name ∈
        ownVolumeNames ++ (FolderMounts.shared mounts volumes).map (·.volume.name) ↔
      pair.volume.name = pair.mount.name ∨ pair.mount.name ∈ ownVolumeNames := by
  rw [List.mem_append]
  constructor
  · rintro (own | shared)
    · exact .inr own
    · obtain ⟨other, otherMember, same⟩ := List.mem_map.mp shared
      have alike : FolderMounts.folded other.mount.name = FolderMounts.folded pair.mount.name := by
        rw [← FolderMounts.folded_volume_of_mem_shared otherMember, same]
      rw [← FolderMounts.volume_eq_of_folded_eq otherMember member alike]
      exact .inl same
  · rintro (exact' | own)
    · exact .inr (List.mem_map.mpr ⟨pair, member, exact'⟩)
    · exact .inl own

private theorem isProtected_of_mountPath {mount : VolumeMount}
    (shm : mount.mountPath = "/dev/shm") :
    FolderMounts.isProtected mount := by
  simp [FolderMounts.isProtected, FolderMounts.protectedPaths, shm]

private theorem nodup_mountPaths
    {cachePath : String} (paths : (mounts.map (·.mountPath)).Nodup)
    (notMemory : cachePath ≠ "/dev/shm") (free : cachePath ∉ mounts.map (·.mountPath)) :
    ("/dev/shm" :: cachePath ::
      (FolderMounts.unprotected mounts).map (·.mountPath)).Nodup := by
  have fewer : ((FolderMounts.unprotected mounts).map (·.mountPath)).Sublist
      (mounts.map (·.mountPath)) := List.filter_sublist.map _
  refine List.nodup_cons.mpr ⟨?_, List.nodup_cons.mpr ⟨?_, paths.sublist fewer⟩⟩
  · intro taken
    rcases List.mem_cons.mp taken with cache | shared
    · exact notMemory cache.symm
    · obtain ⟨mount, member, shm⟩ := List.mem_map.mp shared
      have allowed := (List.mem_filter.mp member).2
      rw [isProtected_of_mountPath shm] at allowed
      cases allowed
  · intro taken
    exact free (fewer.subset taken)

/-! ## Acceptance -/

section SharedVolumes

variable {config : BrowserConfig}

/-- Different volume names make the shared mounts have different volumes, none of them named like
those that every browser pod has. -/
private theorem nodup_volumes_iff
    (shares : config.sharedMounts = FolderMounts.shared mounts volumes)
    (named : ∀ mount ∈ mounts, ∃ volume ∈ volumes, volume.name = mount.name) :
    ((BrowserPod.volumes config).map (·.name)).Nodup ↔
      ((FolderMounts.unprotected mounts).map fun mount => FolderMounts.folded mount.name).Nodup ∧
        ∀ pair ∈ FolderMounts.shared mounts volumes, pair.volume.name ∉ ownVolumeNames := by
  rw [map_name_volumes, shares, List.nodup_append, nodup_volume_names_iff named]
  constructor
  · rintro ⟨_, once, apart⟩
    refine ⟨once, ?_⟩
    intro pair member own
    exact apart _ own _ (List.mem_map.mpr ⟨pair, member, rfl⟩) rfl
  · rintro ⟨once, apart⟩
    refine ⟨by decide, once, ?_⟩
    rintro own isOwn name shared rfl
    obtain ⟨pair, member, rfl⟩ := List.mem_map.mp shared
    exact apart pair member isOwn

/-- Every mount of a browser pod names a volume of it just if each shared mount names the volume
that it has found or one that every browser pod has. -/
private theorem mountNames_iff
    (shares : config.sharedMounts = FolderMounts.shared mounts volumes) :
    (∀ mount ∈ volumeMounts config,
        mount.name ∈ (BrowserPod.volumes config).map (·.name)) ↔
      ∀ pair ∈ FolderMounts.shared mounts volumes,
        pair.volume.name = pair.mount.name ∨ pair.mount.name ∈ ownVolumeNames := by
  have mountsNamed := map_name_volumeMounts config
  rw [map_name_volumes, shares]
  rw [shares] at mountsNamed
  constructor
  · intro found pair member
    refine (mem_names_iff member).mp (found pair.mount ?_)
    rw [volumeMounts, shares]
    exact List.mem_cons_of_mem _ (List.mem_cons_of_mem _ (List.mem_map.mpr ⟨pair, member, rfl⟩))
  · intro found mount built
    have mountName : mount.name ∈ (volumeMounts config).map (·.name) :=
      List.mem_map.mpr ⟨mount, built, rfl⟩
    rw [mountsNamed] at mountName
    rcases List.mem_append.mp mountName with own | shared
    · exact List.mem_append.mpr (.inl own)
    · obtain ⟨pair, member, same⟩ := List.mem_map.mp shared
      rw [← same]
      exact (mem_names_iff member).mpr (found pair member)

/-- What holds of the volume that each shared mount finds holds of each shared mount with its
volume. -/
private theorem forall_found_iff
    (named : ∀ mount ∈ mounts, ∃ volume ∈ volumes, volume.name = mount.name)
    (holds : VolumeMount → Volume → Prop) :
    (∀ mount ∈ FolderMounts.unprotected mounts, ∀ volume,
        volumes.find? (fun volume => FolderMounts.sameName volume.name mount.name) =
          some volume →
        holds mount volume) ↔
      ∀ pair ∈ FolderMounts.shared mounts volumes, holds pair.mount pair.volume := by
  constructor
  · intro each pair member
    refine each pair.mount ?_ pair.volume (FolderMounts.find?_of_mem_shared member)
    rw [← FolderMounts.map_mount_shared named]
    exact List.mem_map.mpr ⟨pair, member, rfl⟩
  · intro each mount member volume found
    exact each ⟨mount, volume⟩
      (List.mem_filterMap.mpr ⟨mount, member, by simp [FolderMounts.withVolume?, found]⟩)

end SharedVolumes

/-- The exact condition.  Let our own pod have mounts with different paths that each name a volume,
and a free place for the cache: a browser pod is acceptable if and only if our own pod shares each
volume once. -/
theorem build_isAcceptable_iff
    (pod : Pod) (settings : Settings) (request : BrowserRequest) (workDir : Option WorkDir)
    (mountPaths : (pod.firstMounts.map (·.mountPath)).Nodup)
    (mountNames : ∀ mount ∈ pod.firstMounts, ∃ volume ∈ pod.volumes, volume.name = mount.name)
    (notMemory : settings.volumeMountPath ≠ "/dev/shm")
    (free : settings.volumeMountPath ∉ pod.firstMounts.map (·.mountPath)) :
    (build (BrowserConfig.ofPod pod settings) request workDir).IsAcceptable ↔
      pod.SharesEachVolumeOnce := by
  have shares := sharedMounts_ofPod pod settings
  have volumesDiffer := nodup_volumes_iff shares mountNames
  have mountsFind := mountNames_iff shares
  constructor
  · rintro ⟨different, _, exactly⟩
    rw [volumes_build] at different
    simp only [volumes_build, containers_build, List.mem_singleton, forall_eq,
      mounts_container, length_filter_name_eq_one_iff different] at exactly
    obtain ⟨once, apart⟩ := volumesDiffer.mp different
    refine ⟨once, (forall_found_iff mountNames _).mpr ?_⟩
    intro pair member
    exact ⟨apart pair member, mountsFind.mp exactly pair member⟩
  · rintro ⟨once, found⟩
    have foundPairs := (forall_found_iff mountNames _).mp found
    have different := volumesDiffer.mpr ⟨once, fun pair member => (foundPairs pair member).1⟩
    refine ⟨different, ?_, ?_⟩
    · simp only [containers_build, List.mem_singleton, forall_eq, mounts_container]
      have spelled := congrArg (List.map VolumeMount.mountPath)
        (FolderMounts.map_mount_shared mountNames)
      rw [List.map_map] at spelled
      rw [map_mountPath_volumeMounts, shares]
      change ("/dev/shm" :: _ :: List.map (VolumeMount.mountPath ∘ FolderMount.mount) _).Nodup
      rw [spelled]
      exact nodup_mountPaths mountPaths notMemory free
    · simp only [containers_build, List.mem_singleton, forall_eq, mounts_container,
        volumes_build, length_filter_name_eq_one_iff different]
      exact mountsFind.mpr fun pair member => (foundPairs pair member).2

/-! ### A volume at one place and at two -/

def mediaPod (mounts : List VolumeMount) : Pod :=
  { spec := some
      { containers := [{ name := "grid", volumeMounts := some mounts }]
        volumes := some [{ name := "media" }] } }

def mediaMount (folder : String) : VolumeMount :=
  { name := "media", mountPath := "/srv/" ++ folder, subPath := some folder }

def cacheSettings : Settings := { appName := "grid", volumeMountPath := "/cache" }

def bareRequest : BrowserRequest := .bare "grid" "selenium/node" "40000"

/-- A pod that mounts one folder of a volume. -/
theorem one_folder_isAcceptable_iff :
    ((mediaPod [mediaMount "a"]).firstMounts.map (·.mountPath)).Nodup ∧
      (∀ mount ∈ (mediaPod [mediaMount "a"]).firstMounts,
        ∃ volume ∈ (mediaPod [mediaMount "a"]).volumes, volume.name = mount.name) ∧
      cacheSettings.volumeMountPath ≠ "/dev/shm" ∧
      cacheSettings.volumeMountPath ∉ (mediaPod [mediaMount "a"]).firstMounts.map (·.mountPath) ∧
      ((build (BrowserConfig.ofPod (mediaPod [mediaMount "a"]) cacheSettings) bareRequest
          none).IsAcceptable ↔
        (mediaPod [mediaMount "a"]).SharesEachVolumeOnce) := by
  have mountPaths : ((mediaPod [mediaMount "a"]).firstMounts.map (·.mountPath)).Nodup := by decide
  have mountNames : ∀ mount ∈ (mediaPod [mediaMount "a"]).firstMounts,
      ∃ volume ∈ (mediaPod [mediaMount "a"]).volumes, volume.name = mount.name := by
    simp [mediaPod, mediaMount, Pod.firstMounts, Pod.firstContainer?, Container.mounts, Pod.volumes]
  have notMemory : cacheSettings.volumeMountPath ≠ "/dev/shm" := by decide
  have free : cacheSettings.volumeMountPath ∉
      (mediaPod [mediaMount "a"]).firstMounts.map (·.mountPath) := by decide
  exact ⟨mountPaths, mountNames, notMemory, free,
    build_isAcceptable_iff _ cacheSettings bareRequest none mountPaths mountNames notMemory free⟩

/-- A pod that mounts two folders of a volume is in order, but a browser pod of it has that volume
twice and is refused. -/
theorem two_folders_not_isAcceptable :
    ((mediaPod [mediaMount "a", mediaMount "b"]).volumes.map (·.name)).Nodup ∧
      ((mediaPod [mediaMount "a", mediaMount "b"]).firstMounts.map (·.mountPath)).Nodup ∧
      (∀ mount ∈ (mediaPod [mediaMount "a", mediaMount "b"]).firstMounts,
        ∃ volume ∈ (mediaPod [mediaMount "a", mediaMount "b"]).volumes,
          volume.name = mount.name) ∧
      cacheSettings.volumeMountPath ≠ "/dev/shm" ∧
      cacheSettings.volumeMountPath ∉
        (mediaPod [mediaMount "a", mediaMount "b"]).firstMounts.map (·.mountPath) ∧
      ¬ (build (BrowserConfig.ofPod (mediaPod [mediaMount "a", mediaMount "b"]) cacheSettings)
        bareRequest none).IsAcceptable := by
  refine ⟨by decide, by decide, ?_, by decide, by decide, ?_⟩
  · simp [mediaPod, mediaMount, Pod.firstMounts, Pod.firstContainer?, Container.mounts, Pod.volumes]
  · intro acceptable
    have names : (build (BrowserConfig.ofPod (mediaPod [mediaMount "a", mediaMount "b"])
        cacheSettings) bareRequest none).volumes.map (·.name) =
          ["dshm", "cache", "media", "media"] := by
      cbv
    have different := acceptable.volumeNames
    rw [names] at different
    exact absurd different (by decide)

end BrowserPod

end BrowserPods
