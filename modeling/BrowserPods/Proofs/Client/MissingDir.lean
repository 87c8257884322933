import BrowserPods.Proofs.Client.SharedDir
import BrowserPods.Proofs.Files.Folder

/-!
# Directories that could not be created

A client on a shared mount creates pods whether or not it can create their directories.  How it
copies does not depend on that: it asks for the pod and never for a command, so that nothing can be
copied from a pod as long as its directory is missing (`Client.missing_dir_fails_copies`).
-/

namespace BrowserPods

/-! ## Requests -/

namespace Cluster

variable (cluster : Cluster) (namespaceName : String)

theorem get_fst {name : String} (askable : isName name) :
    (cluster.get namespaceName name).1 =
      if cluster.reachable then (cluster.receive (.get namespaceName name)).1 else cluster := by
  rw [get, if_pos askable]
  refine cluster.answer_fst _ _ fun received => ?_
  cases received.find? name with
  | some pod => rfl
  | none => rfl

theorem get_log (name : String) :
    (cluster.get namespaceName name).1.log = cluster.log ++
      if isName name && cluster.reachable then [.get namespaceName name] else [] := by
  cases askable : isName name with
  | false => simp [get, askable]
  | true =>
      rw [Bool.true_and, get_fst _ _ askable]
      split
      · exact receive_log cluster _
      · exact (List.append_nil _).symm

end Cluster

namespace Client

/-- The answer to a creation depends on the directory only by its name. -/
theorem create_snd (client : Client) (world : World) (request : BrowserRequest) :
    (client.create world request).2 =
      match (world.cluster.create client.namespaceName
        (BrowserPod.build client.config request (client.allocate world).2)).2 with
      | .ok created =>
        .ok (.ofName (created.metadata.name.getD request.namePrefix) request.nodePort)
      | .error _ => .error { cause := .podRefused request.namePrefix } := by
  rw [← client.allocate_cluster world]
  cases allocation : client.allocate world with
  | mk allocated workDir =>
      rw [create, allocation]
      simp only [ask_eq]
      cases (allocated.cluster.create client.namespaceName
          (BrowserPod.build client.config request workDir)).2 with
      | ok pod => rfl
      | error error => rfl

/-- A client on a shared mount that cannot create the directory of a pod creates the pod all the
same, but never copies from it through a command: as long as the directory is missing, each copy
asks for the pod and fails. -/
theorem missing_dir_fails_copies
    (client : Client) {mount : VolumeMount} (shared : client.config.artifactsMount = some mount)
    (world : World) (named : world.freshName world.namesUsed ≠ "")
    (relative : (world.freshName world.namesUsed).toList.head? ≠ some '/')
    (request : BrowserRequest) :
    let name := world.freshName world.namesUsed
    let sharedDir := Path.joinText mount.mountPath name
    let pod := BrowserPod.build client.config request (some (.under mount.mountPath name))
    (∀ tree, (client.create { world with tree } request).2 = (client.create world request).2) ∧
      (client.create world request).1.cluster =
        (world.cluster.create client.namespaceName pod).1 ∧
      pod.literalEnv? "SHARED_DIR" = some sharedDir ∧
      ∀ later containerId folder,
        (client.copy later containerId folder).1.cluster.log =
          later.cluster.log ++
            (if Cluster.isName containerId && later.cluster.reachable then
              [.get client.namespaceName containerId] else []) ∧
        ∀ read, (later.cluster.get client.namespaceName containerId).2 = .ok read →
          read.literalEnv? "SHARED_DIR" = some sharedDir →
          later.tree.reaches (Path.ofText sharedDir) = false →
          (client.copy later containerId folder).2 =
            .error
              { cause := .artifactUnreadable containerId
                notes := ["dir: " ++ (Stored.folderPath sharedDir folder).display] } := by
  intro name sharedDir pod
  have nonempty : Path.ofText sharedDir ≠ [] := fun empty =>
    Path.joinText_ne_empty mount.mountPath named (Path.ofText_injective empty)
  refine ⟨?_, ?_, (agreesOnDir_build shared relative request).root, ?_⟩
  · intro tree
    rw [create_snd, create_snd, allocate_eq shared, allocate_eq shared]
  · rw [create_fst, allocate_eq shared]
  · intro later containerId folder
    rw [copy_eq_copyStored shared, copyStored_fst]
    refine ⟨Cluster.get_log _ _ _, fun read found set missing => ?_⟩
    obtain ⟨fault, unlisted⟩ := Stored.exists_fault_of_missing nonempty missing folder
    have isSet : read.literalEnv? WorkDir.sharedDirVariable = some sharedDir := set
    simp only [copyStored, ask_eq, found, sharedStream, isSet, unlisted]

/-! ### Mounts that are not there -/

/-- A world with something at the mount point that is no directory. -/
def unmountedWorld (mountPoint : FileNode) : World :=
  { namedWorld with
    tree :=
      { entries :=
          [([Path.ofText "srv"], .directory),
            ([Path.ofText "srv", Path.ofText "grid"], mountPoint)] } }

def createdWorld (mountPoint : FileNode) : World :=
  (mountedClient.create (unmountedWorld mountPoint) redirectingRequest).1

/-- Behind a link to nothing no directory can be created. -/
theorem dangling_mount_fails_copies :
    let world := unmountedWorld (.link (Path.ofText "/lost"))
    let later := createdWorld (.link (Path.ofText "/lost"))
    mountedClient.config.artifactsMount = some { name := "media", mountPath := "/srv/grid/" } ∧
      world.freshName world.namesUsed ≠ "" ∧
      (world.freshName world.namesUsed).toList.head? ≠ some '/' ∧
      (mountedClient.copy later "grid-40000-p1" "/videos").2 =
        .error
          { cause := .artifactUnreadable "grid-40000-p1"
            notes := ["dir: /srv/grid/9b2f0c0e-55a5-4c3d-9d0b-2f6f2d1f4a11/videos"] } := by
  intro world later
  have shared : mountedClient.config.artifactsMount =
      some { name := "media", mountPath := "/srv/grid/" } := rfl
  have named : world.freshName world.namesUsed ≠ "" := by decide
  have relative : (world.freshName world.namesUsed).toList.head? ≠ some '/' := by decide
  obtain ⟨_, _, isSet, copies⟩ :=
    missing_dir_fails_copies mountedClient shared world named relative redirectingRequest
  have missing : later.tree.reaches (Path.ofText
      (Path.joinText "/srv/grid/" "9b2f0c0e-55a5-4c3d-9d0b-2f6f2d1f4a11")) = false := by
    cbv
  have dir : (Stored.folderPath
      (Path.joinText "/srv/grid/" "9b2f0c0e-55a5-4c3d-9d0b-2f6f2d1f4a11") "/videos").display =
        "/srv/grid/9b2f0c0e-55a5-4c3d-9d0b-2f6f2d1f4a11/videos" := by
    cbv
  have failed := (copies later "grid-40000-p1" "/videos").2 _ rfl isSet missing
  let failure (dir : String) : Failure :=
    { cause := .artifactUnreadable "grid-40000-p1", notes := ["dir: " ++ dir] }
  exact ⟨shared, named, relative, failed.trans (congrArg Except.error (congrArg failure dir))⟩

/-- The mount point is a file: the pod is created, and a copy from it asks for no command. -/
theorem blocked_mount_copies_nothing :
    let later := createdWorld (.file [])
    let copied := mountedClient.copy later "grid-40000-p1" "videos"
    (mountedClient.create (unmountedWorld (.file [])) redirectingRequest).2 =
        .ok (.ofName "grid-40000-p1" "40000") ∧
      later.tree.reaches (Path.ofText "/srv/grid/9b2f0c0e-55a5-4c3d-9d0b-2f6f2d1f4a11") = false ∧
      copied.2 =
        .error
          { cause := .artifactUnreadable "grid-40000-p1"
            notes := ["dir: /srv/grid/9b2f0c0e-55a5-4c3d-9d0b-2f6f2d1f4a11/videos"] } ∧
      copied.1.cluster.log.map Request.verb = [.create, .get] := by
  refine ⟨?_, ?_, ?_, ?_⟩
  · cbv
  · cbv
  · cbv
  · cbv

end Client

end BrowserPods
