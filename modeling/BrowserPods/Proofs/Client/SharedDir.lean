import BrowserPods.Proofs.Client.Copying
import BrowserPods.Proofs.Client.Ownership
import BrowserPods.Proofs.Files.Written

/-!
# The directory that a pod and its client share

A client that creates a pod on a shared mount tells it by variables where to write, and finds that
directory again by one of them when it copies.  The variables win over those of the request, so
every copy reads the directory that was created, whatever the request asks for
(`Client.create_agrees_on_dir`).
-/

namespace BrowserPods

/-! ## Variables -/

namespace BrowserPod

theorem bind_find?_map (entries : List (String × String)) (name : String) :
    ((entries.map fun (name, value) => ({ name, value := some value } : EnvVar)).find?
        (·.name = name)).bind (·.value) =
      entries.lookup name := by
  induction entries with
  | nil => rfl
  | cons entry others inductionHypothesis =>
      obtain ⟨key, value⟩ := entry
      rw [Dict.lookup_cons_eq_ite, List.map_cons, List.find?_cons]
      by_cases same : key = name
      · simp [same]
      · simp only [same, decide_false, if_neg (Ne.symm same)]
        exact inductionHypothesis

/-- A browser has each variable of its working directory, and the other ones of the request. -/
theorem literalEnv?_build
    (config : BrowserConfig) (request : BrowserRequest) (workDir : WorkDir) (name : String) :
    (build config request (some workDir)).literalEnv? name =
      (workDir.env.get? name).or (request.env.get? name) := by
  rw [← Dict.get?_union]
  exact bind_find?_map _ name

theorem nodup_names_env (request : BrowserRequest) (workDir : Option WorkDir) :
    ((env request workDir).map (·.name)).Nodup := by
  simp only [env, List.map_map]
  refine List.pairwise_map.mpr ((Dict.sorted _).imp ?_)
  intro entry later below same
  exact String.ne_of_lt below same

end BrowserPod

/-! ## Working directories -/

/-- However many slashes a folder begins with, it is below the root. -/
theorem Stored.folderPath_eq_ofText
    (root : String) {folder written : String}
    (stripped : folder.toList.dropWhile (· = '/') = written.toList)
    (relative : written.toList.head? ≠ some '/') :
    Stored.folderPath root folder = Path.ofText (Path.joinText root written) := by
  rw [Stored.folderPath, stripped, String.ofList_toList, Path.ofText_joinText root relative]

namespace WorkDir

theorem get?_env (workDir : WorkDir) (name : String) :
    workDir.env.get? name =
      if name = logsDirVariable then some workDir.logs.display
      else if name = videosDirVariable then some workDir.videos.display
      else if name = sharedDirVariable then some workDir.root.display
      else none := by
  simp [env, Dict.ofList]

section Under

variable (mountPath : String) {name : String} (relative : name.toList.head? ≠ some '/')
include relative

theorem root_under : (under mountPath name).root = Path.ofText (Path.joinText mountPath name) :=
  (Path.ofText_joinText mountPath relative).symm

theorem videos_under :
    (under mountPath name).videos =
      Path.ofText (Path.joinText (Path.joinText mountPath name) "videos") := by
  rw [Path.ofText_joinText _ (by decide), ← root_under mountPath relative]
  rfl

theorem logs_under :
    (under mountPath name).logs =
      Path.ofText (Path.joinText (Path.joinText mountPath name) "var/log/cont") := by
  rw [Path.ofText_joinText _ (by decide), ← root_under mountPath relative]
  rfl

end Under

theorem folderPath_videos (root : String) :
    ∀ folder ∈ ["videos", "/videos"],
      Stored.folderPath root folder = Path.ofText (Path.joinText root "videos") := by
  intro folder spelled
  refine Stored.folderPath_eq_ofText root ?_ (by decide)
  revert folder
  decide

theorem folderPath_logs (root : String) :
    ∀ folder ∈ ["var/log/cont", "/var/log/cont"],
      Stored.folderPath root folder = Path.ofText (Path.joinText root "var/log/cont") := by
  intro folder spelled
  refine Stored.folderPath_eq_ofText root ?_ (by decide)
  revert folder
  decide

end WorkDir

/-! ## Creation and copy -/

namespace Client

/-- Whether a client and a pod on a shared mount agree where the artifacts are. -/
structure AgreesOnDir (client : Client) (request : BrowserRequest) (sharedDir : String)
    (pod : Pod) : Prop where
  root : pod.literalEnv? "SHARED_DIR" = some sharedDir
  videos : ∃ videosDir, pod.literalEnv? "VIDEOS_DIR" = some videosDir ∧
    ∀ folder ∈ ["videos", "/videos"], Stored.folderPath sharedDir folder = Path.ofText videosDir
  logs : ∃ logsDir, pod.literalEnv? "LOGS_DIR" = some logsDir ∧
    ∀ folder ∈ ["var/log/cont", "/var/log/cont"],
      Stored.folderPath sharedDir folder = Path.ofText logsDir
  others : ∀ name ∉ ["SHARED_DIR", "VIDEOS_DIR", "LOGS_DIR"],
    pod.literalEnv? name = request.env.get? name
  distinct : ∀ container ∈ pod.firstContainer?, ((container.env.getD []).map (·.name)).Nodup
  /-- A copy from the pod, as long as it is read back as it was submitted, is of the folder in that
  directory; it fails only if the folder cannot be listed. -/
  listed : ∀ (world : World) (containerId folder : String) (read : Pod) (paths : List Path),
    (world.cluster.get client.namespaceName containerId).2 = .ok read → read.spec = pod.spec →
    Stored.list world.tree (Stored.folderPath sharedDir folder) = .ok paths →
    (client.copy world containerId folder).2 = .ok (Stored.stream containerId paths)
  unlisted : ∀ (world : World) (containerId folder : String) (read : Pod) (fault : FileFault),
    (world.cluster.get client.namespaceName containerId).2 = .ok read → read.spec = pod.spec →
    Stored.list world.tree (Stored.folderPath sharedDir folder) = .error fault →
    (client.copy world containerId folder).2 =
      .error
        { cause := .artifactUnreadable containerId
          notes := ["dir: " ++ (Stored.folderPath sharedDir folder).display] }

variable {client : Client} {mount : VolumeMount} {world : World}

theorem allocate_eq (shared : client.config.artifactsMount = some mount) (world : World) :
    let workDir := WorkDir.under mount.mountPath (world.freshName world.namesUsed)
    client.allocate world =
      ({ world with tree := workDir.allocate world.tree, namesUsed := world.namesUsed + 1 },
        some workDir) := by
  rw [allocate, shared]

theorem copyStored_fst (client : Client) (world : World) (containerId folder : String) :
    (client.copyStored world containerId folder).1 =
      { world with cluster := (world.cluster.get client.namespaceName containerId).1 } := by
  rw [copyStored, ask_eq]
  cases (world.cluster.get client.namespaceName containerId).2 with
  | ok pod => rfl
  | error error => rfl

theorem copy_eq_copyStored
    (shared : client.config.artifactsMount = some mount) (world : World)
    (containerId folder : String) :
    client.copy world containerId folder = client.copyStored world containerId folder := by
  have route : client.config.copyRoute = .sharedMount := by
    rw [BrowserConfig.copyRoute, shared]
    rfl
  rw [copy, route]

/-- A copy from the shared mount reads the pod, and then the folder below the pod's directory. -/
theorem copy_eq_sharedStream
    (shared : client.config.artifactsMount = some mount) {containerId : String} {read pod : Pod}
    (found : (world.cluster.get client.namespaceName containerId).2 = .ok read)
    (same : read.spec = pod.spec) (folder : String) :
    (client.copy world containerId folder).2 = sharedStream world.tree containerId folder pod := by
  have alike : ∀ name, read.literalEnv? name = pod.literalEnv? name := by
    intro name
    rw [Pod.literalEnv?, Pod.literalEnv?, Pod.firstContainer?, Pod.firstContainer?, same]
  rw [copy_eq_copyStored shared]
  simp only [copyStored, ask_eq, found, sharedStream, alike]

theorem agreesOnDir_build
    (shared : client.config.artifactsMount = some mount) {name : String}
    (relative : name.toList.head? ≠ some '/') (request : BrowserRequest) :
    client.AgreesOnDir request (Path.joinText mount.mountPath name)
      (BrowserPod.build client.config request (some (.under mount.mountPath name))) := by
  have literal :=
    BrowserPod.literalEnv?_build client.config request (.under mount.mountPath name)
  -- The paths are texts, so showing them as the values of variables loses nothing.
  simp only [WorkDir.get?_env, WorkDir.root_under _ relative, WorkDir.videos_under _ relative,
    WorkDir.logs_under _ relative, Path.display_ofText] at literal
  have root : (BrowserPod.build client.config request
      (some (.under mount.mountPath name))).literalEnv? WorkDir.sharedDirVariable =
        some (Path.joinText mount.mountPath name) :=
    literal WorkDir.sharedDirVariable
  constructor
  case root => exact root
  case videos =>
    exact ⟨_, literal WorkDir.videosDirVariable, WorkDir.folderPath_videos _⟩
  case logs =>
    exact ⟨_, literal WorkDir.logsDirVariable, WorkDir.folderPath_logs _⟩
  case others =>
    intro other unset
    -- Nothing else is set for the working directory, so the request decides.
    simp only [List.mem_cons, List.not_mem_nil, or_false, not_or] at unset
    have notRoot : other ≠ WorkDir.sharedDirVariable := unset.1
    have notVideos : other ≠ WorkDir.videosDirVariable := unset.2.1
    have notLogs : other ≠ WorkDir.logsDirVariable := unset.2.2
    rw [literal, if_neg notLogs, if_neg notVideos, if_neg notRoot, Option.none_or]
  case distinct =>
    rintro container ⟨⟩
    exact BrowserPod.nodup_names_env request (some _)
  case listed =>
    intro later containerId folder read paths found same list
    rw [copy_eq_sharedStream shared found same]
    simp only [sharedStream, root, list]
  case unlisted =>
    intro later containerId folder read fault found same list
    rw [copy_eq_sharedStream shared found same]
    simp only [sharedStream, root, list]

/-- A client on a shared mount and the pod that it submits agree where the artifacts are, whatever
the request asks for: in the fresh directory below the mount, of which it has created the parts for
recordings and logs if the name was free. -/
theorem create_agrees_on_dir
    (client : Client) {mount : VolumeMount} (shared : client.config.artifactsMount = some mount)
    (world : World) (relative : (world.freshName world.namesUsed).toList.head? ≠ some '/')
    (request : BrowserRequest) :
    let name := world.freshName world.namesUsed
    let sharedDir := Path.joinText mount.mountPath name
    let pod := BrowserPod.build client.config request (some (.under mount.mountPath name))
    let created := (client.create world request).1
    created.cluster = (world.cluster.create client.namespaceName pod).1 ∧
      client.AgreesOnDir request sharedDir pod ∧
      created.tree =
        if world.tree.reaches (Path.ofText sharedDir) then world.tree
        else
          let withVideos := (world.tree.makeDirectories (Stored.folderPath sharedDir "videos")).1
          (withVideos.makeDirectories (Stored.folderPath sharedDir "var/log/cont")).1 := by
  intro name sharedDir pod created
  have creation := client.create_fst world request
  rw [allocate_eq shared] at creation
  refine ⟨congrArg (·.cluster) creation, agreesOnDir_build shared relative request, ?_⟩
  have tree := congrArg (·.tree) creation
  rw [WorkDir.folderPath_videos sharedDir _ List.mem_cons_self,
    WorkDir.folderPath_logs sharedDir _ List.mem_cons_self,
    ← WorkDir.videos_under mount.mountPath relative,
    ← WorkDir.logs_under mount.mountPath relative, ← WorkDir.root_under mount.mountPath relative]
  exact tree

/-! ### A request that names the variables itself -/

def mountedClient : Client :=
  { config :=
      { BrowserConfig.withoutPod { appName := "grid" } with
        artifactsMount := some { name := "media", mountPath := "/srv/grid/" } }
    namespaceName := "pods" }

def namedWorld : World :=
  { freshName := fun _ => "9b2f0c0e-55a5-4c3d-9d0b-2f6f2d1f4a11" }

def redirectingRequest : BrowserRequest :=
  ((BrowserRequest.bare "hub" "selenium/node" "40000").addEnv "SHARED_DIR" "/tmp").addEnv
    "LANG" "C.UTF-8"

def redirectedPod : Pod :=
  { BrowserPod.build mountedClient.config redirectingRequest
      (some (.under "/srv/grid/" "9b2f0c0e-55a5-4c3d-9d0b-2f6f2d1f4a11")) with
    metadata := { name := some "grid-40000-p1" } }

def recordedWorld : World :=
  let place (names : List String) : Place := names.map Path.ofText
  let name := "9b2f0c0e-55a5-4c3d-9d0b-2f6f2d1f4a11"
  { namedWorld with
    cluster := { pods := [redirectedPod] }
    tree :=
      { entries :=
          [(place ["srv"], .directory), (place ["srv", "grid"], .directory),
            (place ["srv", "grid", name], .directory),
            (place ["srv", "grid", name, "videos"], .directory),
            (place ["srv", "grid", name, "videos", "a.mp4"], .file [1])] } }

theorem request_cannot_redirect :
    mountedClient.config.artifactsMount = some { name := "media", mountPath := "/srv/grid/" } ∧
      (namedWorld.freshName namedWorld.namesUsed).toList.head? ≠ some '/' ∧
      redirectedPod.literalEnv? "SHARED_DIR" =
        some "/srv/grid/9b2f0c0e-55a5-4c3d-9d0b-2f6f2d1f4a11" ∧
      redirectedPod.literalEnv? "LANG" = some "C.UTF-8" ∧
      (mountedClient.copy recordedWorld "grid-40000-p1" "/videos").2 =
        .ok (Stored.stream "grid-40000-p1"
          [Path.ofText "/srv/grid/9b2f0c0e-55a5-4c3d-9d0b-2f6f2d1f4a11/videos/a.mp4"]) := by
  have shared : mountedClient.config.artifactsMount =
      some { name := "media", mountPath := "/srv/grid/" } := rfl
  have relative : (namedWorld.freshName namedWorld.namesUsed).toList.head? ≠ some '/' := by decide
  have joined : Path.joinText "/srv/grid/" "9b2f0c0e-55a5-4c3d-9d0b-2f6f2d1f4a11" =
      "/srv/grid/9b2f0c0e-55a5-4c3d-9d0b-2f6f2d1f4a11" := by decide
  obtain ⟨_, agrees, _⟩ :=
    create_agrees_on_dir mountedClient shared namedWorld relative redirectingRequest
  refine ⟨shared, relative, ?_, ?_, ?_⟩
  · exact agrees.root.trans (congrArg some joined)
  · exact (agrees.others "LANG" (by decide)).trans (by decide)
  · refine agrees.listed recordedWorld _ _ redirectedPod _ ?_ rfl ?_
    · rfl
    · cbv

end Client

end BrowserPods
