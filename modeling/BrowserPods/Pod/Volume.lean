import BrowserPods.Pod.Schema.Volume

/-!
Volumes of a pod and their mounts in a container.
-/

namespace BrowserPods

structure Volume where
  name : String
  /-- The directory that lives as long as the pod, if the volume is one. -/
  emptyDir : Option Json := none
  /-- The other sources, in normal form. -/
  sources : List (String × Json) := []
deriving Repr

namespace Volume

/-- A volume in memory. -/
def memory (name : String) : Volume :=
  { name, emptyDir := some (.object [("medium", .string "Memory")]) }

/-- A volume of a claim that is mounted for reading and writing. -/
def ofClaim (name claim : String) : Volume :=
  let source := Json.object [("claimName", .string claim), ("readOnly", .bool false)]
  { name, sources := [("persistentVolumeClaim", source)] }

def toJson (volume : Volume) : Json :=
  .object (("name", .string volume.name)
    :: Json.optionalField "emptyDir" id volume.emptyDir ++ volume.sources)

def ofJson? (value : Json) : Option Volume := do
  let fields ← value.fields?
  let name ← Json.apiFieldOr? fields "name" Json.text? ""
  let emptyDir ← Json.apiField? fields "emptyDir" Schema.emptyDir.conform?
  let sources ← Schema.conformFields? Schema.volumeSources fields
  pure { name, emptyDir, sources }

end Volume

/-- A place of a container's file system where a volume is mounted. -/
structure VolumeMount where
  /-- The name of the volume. -/
  name : String
  mountPath : String
  readOnly : Option Bool := none
  subPath : Option String := none
  subPathExpr : Option String := none
  mountPropagation : Option String := none
deriving DecidableEq, Repr

namespace VolumeMount

def toJson (mount : VolumeMount) : Json :=
  .object ([("name", .string mount.name), ("mountPath", .string mount.mountPath)]
    ++ Json.optionalField "readOnly" .bool mount.readOnly
    ++ Json.optionalField "subPath" .string mount.subPath
    ++ Json.optionalField "subPathExpr" .string mount.subPathExpr
    ++ Json.optionalField "mountPropagation" .string mount.mountPropagation)

def ofJson? (value : Json) : Option VolumeMount := do
  let fields ← value.fields?
  let name ← Json.apiFieldOr? fields "name" Json.text? ""
  let mountPath ← Json.apiFieldOr? fields "mountPath" Json.text? ""
  let readOnly ← Json.apiField? fields "readOnly" Json.bool?
  let subPath ← Json.apiField? fields "subPath" Json.text?
  let subPathExpr ← Json.apiField? fields "subPathExpr" Json.text?
  let mountPropagation ← Json.apiField? fields "mountPropagation" Json.text?
  pure { name, mountPath, readOnly, subPath, subPathExpr, mountPropagation }

end VolumeMount

end BrowserPods
