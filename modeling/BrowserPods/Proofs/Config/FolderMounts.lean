import BrowserPods.Config.FolderMounts
import Mathlib.Data.List.Basic

/-!
# Shared mounts and the volumes that they find

The shared mounts are the mounts that are not protected, and each one is paired with the first
volume of its name.  Letters count alike in upper and lower case, so a volume is found by the form
of the name without them (`FolderMounts.folded`).
-/

namespace BrowserPods

/-- The first item of a list with a property. -/
def IsFirstOf {α : Type} (items : List α) (property : α → Prop) (item : α) : Prop :=
  ∃ before after, items = before ++ item :: after ∧ (∀ other ∈ before, ¬ property other) ∧
    property item

theorem find?_eq_some_iff_isFirstOf {α : Type} {items : List α} {item : α} (test : α → Bool) :
    items.find? test = some item ↔ IsFirstOf items (fun other => test other = true) item := by
  rw [List.find?_eq_some_iff_append, IsFirstOf]
  constructor
  · rintro ⟨passes, before, after, shape, earlier⟩
    exact ⟨before, after, shape, fun other member => by simpa using earlier other member, passes⟩
  · rintro ⟨before, after, shape, earlier, passes⟩
    exact ⟨passes, before, after, shape, fun other member => by simpa using earlier other member⟩

namespace FolderMounts

def folded (name : String) : List Char := name.toList.map lowerAscii

theorem sameName_iff (first second : String) :
    sameName first second ↔ folded first = folded second := by
  simp [sameName, folded]

def unprotected (mounts : List VolumeMount) : List VolumeMount :=
  mounts.filter fun mount => !isProtected mount

theorem shared_eq (mounts : List VolumeMount) (volumes : List Volume) :
    shared mounts volumes = (unprotected mounts).filterMap (withVolume? volumes) := rfl

theorem mount_of_withVolume?
    {volumes : List Volume} {mount : VolumeMount} {pair : FolderMount}
    (found : withVolume? volumes mount = some pair) :
    pair.mount = mount ∧
      volumes.find? (fun volume => sameName volume.name mount.name) = some pair.volume := by
  obtain ⟨volume, first, rfl⟩ := Option.map_eq_some_iff.mp found
  exact ⟨rfl, first⟩

/-- A shared mount is paired with the first volume of its name. -/
theorem find?_of_mem_shared
    {mounts : List VolumeMount} {volumes : List Volume} {pair : FolderMount}
    (member : pair ∈ shared mounts volumes) :
    volumes.find? (fun volume => sameName volume.name pair.mount.name) = some pair.volume := by
  obtain ⟨mount, _, found⟩ := List.mem_filterMap.mp member
  obtain ⟨rfl, first⟩ := mount_of_withVolume? found
  exact first

theorem folded_volume_of_mem_shared
    {mounts : List VolumeMount} {volumes : List Volume} {pair : FolderMount}
    (member : pair ∈ shared mounts volumes) :
    folded pair.volume.name = folded pair.mount.name :=
  (sameName_iff _ _).mp <| by
    simpa using List.find?_some (find?_of_mem_shared member)

/-- Two shared mounts have one volume if and only if their names are the same up to case. -/
theorem volume_eq_of_folded_eq
    {mounts : List VolumeMount} {volumes : List Volume} {first second : FolderMount}
    (firstMember : first ∈ shared mounts volumes) (secondMember : second ∈ shared mounts volumes)
    (same : folded first.mount.name = folded second.mount.name) :
    first.volume = second.volume := by
  have found := find?_of_mem_shared firstMember
  have alike : (fun volume : Volume => sameName volume.name first.mount.name) =
      fun volume => sameName volume.name second.mount.name := by
    funext volume
    rw [Bool.eq_iff_iff, sameName_iff, sameName_iff, same]
  rw [alike, find?_of_mem_shared secondMember] at found
  exact (Option.some.inj found).symm

theorem map_mount_withVolume? (volumes : List Volume) (mount : VolumeMount) :
    (withVolume? volumes mount).map (·.mount) =
      if ∃ volume ∈ volumes, folded volume.name = folded mount.name then some mount else none := by
  cases found : volumes.find? fun volume => sameName volume.name mount.name with
  | none =>
      have unnamed : ¬ ∃ volume ∈ volumes, folded volume.name = folded mount.name := by
        rintro ⟨volume, listed, same⟩
        exact List.find?_eq_none.mp found volume listed ((sameName_iff _ _).mpr same)
      simp [withVolume?, found, if_neg unnamed]
  | some volume =>
      have named : ∃ volume ∈ volumes, folded volume.name = folded mount.name :=
        ⟨volume, List.mem_of_find?_eq_some found,
          (sameName_iff _ _).mp (by simpa using List.find?_some found)⟩
      simp [withVolume?, found, if_pos named]

/-- The shared mounts are those that are not protected and have the name of a volume. -/
theorem map_mount_shared_eq_filter (mounts : List VolumeMount) (volumes : List Volume) :
    (shared mounts volumes).map (·.mount) =
      (unprotected mounts).filter fun mount =>
        ∃ volume ∈ volumes, folded volume.name = folded mount.name := by
  rw [shared_eq, List.map_filterMap, ← List.filterMap_eq_filter]
  congr 1
  funext mount
  rw [map_mount_withVolume?]
  simp only [Option.guard, decide_eq_true_eq]

/-- If every mount names a volume, the shared mounts are all those that are not protected. -/
theorem map_mount_shared
    {mounts : List VolumeMount} {volumes : List Volume}
    (named : ∀ mount ∈ mounts, ∃ volume ∈ volumes, volume.name = mount.name) :
    (shared mounts volumes).map (·.mount) = unprotected mounts := by
  rw [map_mount_shared_eq_filter, List.filter_eq_self]
  intro mount member
  obtain ⟨volume, listed, same⟩ := named mount (List.mem_filter.mp member).1
  exact decide_eq_true ⟨volume, listed, by rw [same]⟩

end FolderMounts

end BrowserPods
