import BrowserPods.Pod.Volume

/-!
The mounts of our own pod that the pods of browsers share, and the one among them where artifacts
are kept.
-/

namespace BrowserPods

/-- A mount of our own pod together with its volume. -/
structure FolderMount where
  mount : VolumeMount
  volume : Volume
deriving Repr

namespace FolderMounts

/-- Places of our own pod that browsers never share. -/
def protectedPaths : List String := ["/home/seluser/videos", "/dev/shm"]

def artifactsSuffix : String := "-data"

def lowerAscii (c : Char) : Char :=
  if 'A' ≤ c ∧ c ≤ 'Z' then Char.ofNat (c.toNat + 32) else c

/-- Whether two names are equal but for the case of ASCII letters. -/
def sameName (first second : String) : Bool :=
  first.toList.map lowerAscii == second.toList.map lowerAscii

/-- Whether the path of a mount begins, as a text, with that of a protected place. -/
def isProtected (mount : VolumeMount) : Bool :=
  protectedPaths.any fun path => path.toList.isPrefixOf mount.mountPath.toList

def withVolume? (volumes : List Volume) (mount : VolumeMount) : Option FolderMount :=
  (volumes.find? fun volume => sameName volume.name mount.name).map fun volume =>
    { mount, volume }

/-- Whether a shared mount may hold artifacts: its volume outlives the pod and is named for
data. -/
def holdsArtifacts (shared : FolderMount) : Bool :=
  shared.volume.emptyDir.isNone
    && artifactsSuffix.toList.isSuffixOf shared.volume.name.toList

/-- The mounts that browsers share: those that are not protected and have a volume. -/
def shared (mounts : List VolumeMount) (volumes : List Volume) : List FolderMount :=
  (mounts.filter fun mount => !isProtected mount).filterMap (withVolume? volumes)

/-- The mount where artifacts are kept: the first shared one that may hold them. -/
def artifacts? (sharedMounts : List FolderMount) : Option VolumeMount :=
  (sharedMounts.find? holdsArtifacts).map (·.mount)

end FolderMounts

end BrowserPods
