import BrowserPods.Client.Copying
import BrowserPods.Proofs.Client.Absence
import BrowserPods.Proofs.Client.Ownership
import BrowserPods.Proofs.Client.Registration
import BrowserPods.Proofs.Client.SharedDir

/-!
# Pods that are gone

A pod that a client has stopped or swept away is gone for good: at any later time of any run the
client takes it to have ended, not to be ready and to have no address, and stopping it once more
changes nothing (`Client.gone_stays_gone`).  That rests on the cluster, which gives no name twice
(`History.Step`).  An answer that is neither a pod nor says that there is none proves nothing.
-/

namespace BrowserPods

/-! ## Histories -/

/-- A world, and the names of all pods that have been there. -/
structure History where
  world : World
  known : List String

/-- What a client can be asked to do that leaves the pods as they are. -/
inductive Errand where
  | askReady (containerId : String)
  | askEnded (containerId : String)
  | askIp (containerId : String)
  | copy (containerId folder : String)
  | execute (containerId : String) (command : List String) (wait : Bool)
  | register (url : Url)

def Client.run (client : Client) (world : World) : Errand → World
  | .askReady containerId => (client.containerReady world containerId).1
  | .askEnded containerId => (client.containerEnded world containerId).1
  | .askIp containerId => (client.containerIp world containerId).1
  | .copy containerId folder => (client.copy world containerId folder).1
  | .execute containerId command wait => client.execute world containerId command wait
  | .register url => (client.register world url).1

def Client.nextName (client : Client) (world : World) (request : BrowserRequest) : String :=
  Tenancy.nextName client (.start world) request

namespace History

def start (world : World) : History := { world, known := world.cluster.podNames }

def next (now : History) (later : World) : History :=
  { world := later, known := now.known ++ later.cluster.podNames }

inductive Step (client : Client) : History → History → Prop where
  /-- The cluster chooses a name that no pod has had. -/
  | created (now : History) (request : BrowserRequest)
      (askable : Cluster.isName (client.nextName now.world request))
      (unused : client.nextName now.world request ∉ now.known) :
      Step client now (now.next (client.create now.world request).1)
  | stopped (now : History) (containerId : String) :
      Step client now (now.next (client.stop now.world containerId))
  | swept (now : History) : Step client now (now.next (client.sweep now.world).1)
  | ran (now : History) (errand : Errand) : Step client now (now.next (client.run now.world errand))
  /-- Others change anything, except that they bring back no name of a pod that is gone. -/
  | others (now : History) (later : World) (orderly : later.cluster.IsOrderly)
      (unused : ∀ name ∈ later.cluster.podNames,
        name ∈ now.world.cluster.podNames ∨ name ∉ now.known) :
      Step client now (now.next later)

/-- Whether the client removes a pod, by stopping it or by a sweep. -/
inductive Removes (client : Client) (now : History) (containerId : String) : History → Prop where
  | stopped (present : containerId ∈ now.world.cluster.podNames) :
      Removes client now containerId (now.next (client.stop now.world containerId))
  | swept (marked : containerId ∈ client.markedNames now.world) :
      Removes client now containerId (now.next (client.sweep now.world).1)

/-- What holds at any time. -/
structure IsSound (now : History) : Prop where
  orderly : now.world.cluster.IsOrderly
  recorded : ∀ name ∈ now.world.cluster.podNames, name ∈ now.known

/-- What a step does to the pods, as far as their names are concerned. -/
structure Follows (now later : History) : Prop where
  orderly : later.world.cluster.IsOrderly
  known : later.known = now.known ++ later.world.cluster.podNames
  unused : ∀ name ∈ later.world.cluster.podNames,
    name ∈ now.world.cluster.podNames ∨ name ∉ now.known

end History

/-! ## Errands -/

/-- Whatever name is asked for, an orderly cluster notes at most the request. -/
theorem Cluster.IsOrderly.get_fst
    {cluster : Cluster} (orderly : cluster.IsOrderly) (namespaceName name : String) :
    ∃ log, (cluster.get namespaceName name).1 = { cluster with log } := by
  cases askable : isName name with
  | true => exact ⟨_, congrArg Prod.fst (orderly.get_eq askable)⟩
  | false =>
      rw [get, askable]
      exact ⟨cluster.log, rfl⟩

namespace Client

variable {client : Client} {world : World} {containerId : String}

theorem lookUp_eq (client : Client) (world : World) (containerId : String) :
    client.lookUp world containerId =
      ({ world with cluster := (world.cluster.get client.namespaceName containerId).1 },
        match (world.cluster.get client.namespaceName containerId).2 with
        | .ok pod => .ok (some pod)
        | .error error => if error.hasMissingReason then .ok none else .error error) := by
  rw [lookUp, ask_eq]
  cases (world.cluster.get client.namespaceName containerId).2 with
  | ok pod => rfl
  | error error => rfl

theorem execute_eq
    (client : Client) (world : World) (containerId : String) (command : List String)
    (wait : Bool) :
    client.execute world containerId command wait =
      { world with
        cluster := (world.cluster.exec client.namespaceName containerId command).1 } := by
  rw [execute, runCommand, ask_eq]
  cases (world.cluster.exec client.namespaceName containerId command).2 with
  | ok frames => rfl
  | error error => rfl

/-- An errand leaves an orderly cluster as it is, up to the log and what the next channels play. -/
theorem run_of_orderly
    (client : Client) (orderly : world.cluster.IsOrderly) (errand : Errand) :
    ∃ scripts log, (client.run world errand).cluster = { world.cluster with scripts, log } := by
  have looked : ∀ containerId, ∃ scripts log,
      (client.lookUp world containerId).1.cluster = { world.cluster with scripts, log } := by
    intro containerId
    rw [lookUp_eq]
    exact ⟨_, orderly.get_fst _ _⟩
  cases errand with
  | askReady containerId => exact looked containerId
  | askEnded containerId => exact looked containerId
  | askIp containerId => exact looked containerId
  | copy containerId folder =>
      cases route : client.config.copyRoute with
      | sharedMount =>
          have copied : client.run world (.copy containerId folder) =
              (client.copyStored world containerId folder).1 := by
            rw [run, copy, route]
          rw [copied, copyStored_fst]
          exact ⟨_, orderly.get_fst _ _⟩
      | command =>
          rw [run, copy_eq route]
          exact ⟨_, _, orderly.exec_fst _ _⟩
  | execute containerId command wait =>
      rw [run, execute_eq]
      exact ⟨_, _, orderly.exec_fst _ _⟩
  | register url =>
      rw [run, register_fst]
      split
      · exact ⟨_, _, congrArg Prod.fst (orderly.list_eq _)⟩
      · exact ⟨_, _, rfl⟩

end Client

/-! ## Steps -/

theorem Client.podNames_create
    (client : Client) {world : World} (orderly : world.cluster.IsOrderly)
    (request : BrowserRequest) :
    (client.create world request).1.cluster.podNames =
      world.cluster.podNames ++ [client.nextName world request] := by
  obtain ⟨workDir, cluster⟩ := client.create_cluster world request
  rw [cluster, orderly.create_fst, Cluster.podNames, List.filterMap_append]
  rfl

theorem Client.create_of_orderly
    (client : Client) {world : World} (orderly : world.cluster.IsOrderly)
    {request : BrowserRequest} (askable : Cluster.isName (client.nextName world request))
    (fresh : client.nextName world request ∉ world.cluster.podNames) :
    (client.create world request).1.cluster.IsOrderly := by
  obtain ⟨workDir, cluster⟩ := client.create_cluster world request
  rw [cluster]
  exact orderly.create rfl askable fresh

namespace History

variable {client : Client} {now later removed : History} {containerId : String}

/-- What an action does that adds no pods. -/
theorem follows_of_sublist
    {next : World} (orderly : next.cluster.IsOrderly)
    (fewer : next.cluster.pods.Sublist now.world.cluster.pods) : now.Follows (now.next next) where
  orderly := orderly
  known := rfl
  unused := fun _ member => .inl ((fewer.filterMap _).subset member)

theorem IsSound.follows (sound : now.IsSound) (step : Step client now later) :
    now.Follows later := by
  cases step with
  | created request askable unused =>
      have fresh : client.nextName now.world request ∉ now.world.cluster.podNames :=
        fun present => unused (sound.recorded _ present)
      refine ⟨client.create_of_orderly sound.orderly askable fresh, rfl, ?_⟩
      intro name member
      have either : name ∈ now.world.cluster.podNames ++ [client.nextName now.world request] :=
        client.podNames_create sound.orderly request ▸ member
      rcases List.mem_append.mp either with old | new
      · exact .inl old
      · exact .inr (List.mem_singleton.mp new ▸ unused)
  | stopped containerId =>
      have cluster := client.stop_cluster sound.orderly containerId
      refine follows_of_sublist ?_ ?_
      · rw [cluster]
        exact sound.orderly.afterDeletion containerId
      · rw [cluster]
        exact Cluster.afterDeletion_pods_sublist containerId
  | swept =>
      obtain ⟨summary, _, cleared⟩ := client.sweep_of_orderly sound.orderly
      refine follows_of_sublist cleared.orderly ?_
      rw [cleared.pods]
      exact List.filter_sublist
  | ran errand =>
      obtain ⟨scripts, log, cluster⟩ := client.run_of_orderly sound.orderly errand
      refine follows_of_sublist ?_ ?_
      · rw [cluster]
        exact sound.orderly.of_sublist (List.Sublist.refl _) rfl sound.orderly.reachable
      · rw [cluster]
  | others next orderly unused => exact ⟨orderly, rfl, unused⟩

theorem IsSound.of_follows (follows : now.Follows later) : later.IsSound where
  orderly := follows.orderly
  recorded := fun name member => by
    rw [follows.known]
    exact List.mem_append_right _ member

theorem isSound_of_run
    {world : World} (orderly : world.cluster.IsOrderly)
    (run : Relation.ReflTransGen (Step client) (start world) now) : now.IsSound := by
  induction run with
  | refl => exact ⟨orderly, fun _ member => member⟩
  | tail earlier step inductionHypothesis => exact .of_follows (inductionHypothesis.follows step)

/-- Whether a pod has been there and is there no more. -/
structure IsGone (now : History) (containerId : String) : Prop where
  sound : now.IsSound
  known : containerId ∈ now.known
  absent : containerId ∉ now.world.cluster.podNames

theorem IsGone.of_follows (gone : now.IsGone containerId) (follows : now.Follows later) :
    later.IsGone containerId where
  sound := .of_follows follows
  known := by
    rw [follows.known]
    exact List.mem_append_left _ gone.known
  absent := fun back =>
    (follows.unused containerId back).elim gone.absent fun unknown => unknown gone.known

/-- What is gone at some time is gone at any later time. -/
theorem IsGone.of_run
    (gone : now.IsGone containerId) (run : Relation.ReflTransGen (Step client) now later) :
    later.IsGone containerId := by
  induction run with
  | refl => exact gone
  | tail earlier step inductionHypothesis =>
      exact inductionHypothesis.of_follows (inductionHypothesis.sound.follows step)

theorem IsSound.stop_pods (sound : now.IsSound) (containerId : String) :
    (client.stop now.world containerId).cluster.pods =
      now.world.cluster.pods.filter (·.metadata.name ≠ some containerId) := by
  have refused : now.world.cluster.refuses client.namespaceName containerId =
      !Cluster.isName containerId :=
    sound.orderly.refuses_eq containerId
  rw [client.stop_cluster sound.orderly, Cluster.afterDeletion, refused]
  cases askable : Cluster.isName containerId with
  | true => rfl
  | false =>
      -- No pod has a name that cannot be asked for.
      refine (List.filter_eq_self.mpr fun pod stored => ?_).symm
      obtain ⟨name, named, isName⟩ := sound.orderly.named pod stored
      have different : name ≠ containerId := by
        rintro rfl
        rw [isName] at askable
        cases askable
      simpa [named] using different

theorem IsSound.gone_of_removes
    (sound : now.IsSound) (removes : Removes client now containerId removed) :
    removed.IsGone containerId := by
  have gone : ∀ {later : History}, Step client now later →
      containerId ∈ now.world.cluster.podNames → containerId ∉ later.world.cluster.podNames →
      later.IsGone containerId := by
    intro later step present absent
    have follows := sound.follows step
    refine ⟨.of_follows follows, ?_, absent⟩
    rw [follows.known]
    exact List.mem_append_left _ (sound.recorded _ present)
  cases removes with
  | stopped present =>
      refine gone (.stopped now containerId) present fun back => ?_
      obtain ⟨pod, stored, named⟩ := Cluster.mem_podNames.mp back
      have kept : pod ∈ (client.stop now.world containerId).cluster.pods := stored
      rw [sound.stop_pods] at kept
      simpa [named] using (List.mem_filter.mp kept).2
  | swept marked =>
      obtain ⟨pod, isMarked, named⟩ := List.mem_filterMap.mp marked
      obtain ⟨stored, marks⟩ := List.mem_filter.mp isMarked
      refine gone (.swept now) (Cluster.mem_podNames.mpr ⟨pod, stored, named⟩) fun back => ?_
      obtain ⟨summary, _, cleared⟩ := client.sweep_of_orderly sound.orderly
      obtain ⟨other, otherStored, otherNamed⟩ := Cluster.mem_podNames.mp back
      have kept : other ∈ (client.sweep now.world).1.cluster.pods := otherStored
      rw [cleared.pods] at kept
      obtain ⟨otherWasThere, unmarked⟩ := List.mem_filter.mp kept
      rw [sound.orderly.eq_of_name_eq otherWasThere stored (otherNamed.trans named.symm), marks]
        at unmarked
      cases unmarked

theorem IsSound.isName_of_removes
    (sound : now.IsSound) (removes : Removes client now containerId removed) :
    Cluster.isName containerId := by
  cases removes with
  | stopped present =>
      obtain ⟨pod, stored, named⟩ := Cluster.mem_podNames.mp present
      obtain ⟨name, otherNamed, askable⟩ := sound.orderly.named pod stored
      rw [named] at otherNamed
      exact Option.some.inj otherNamed ▸ askable
  | swept marked => exact Client.isName_of_mem_markedNames sound.orderly marked

end History

/-! ## What a client takes for gone -/

namespace Client

/-- Whether a client takes a pod to be gone, whatever it is asked about it. -/
structure TakesForGone (client : Client) (world : World) (containerId : String) : Prop where
  ended : (client.containerEnded world containerId).2 = true
  unready : (client.containerReady world containerId).2 = false
  unaddressed : (client.containerIp world containerId).2 = none
  /-- To stop the pod is no failure and changes nothing but the log. -/
  stopped : client.delete world containerId =
    ({ world with cluster := world.cluster.logDeletion client.namespaceName containerId }, true)

/-- Whether a client claims nothing of a pod. -/
structure ClaimsNothing (client : Client) (world : World) (containerId : String) : Prop where
  unended : (client.containerEnded world containerId).2 = false
  unready : (client.containerReady world containerId).2 = false
  unaddressed : (client.containerIp world containerId).2 = none

variable {client : Client} {world : World} {containerId : String}

theorem takesForGone_of_absent
    (orderly : world.cluster.IsOrderly) (askable : Cluster.isName containerId)
    (absent : world.cluster.find? containerId = none) : client.TakesForGone world containerId := by
  have answered : (world.cluster.get client.namespaceName containerId).2 =
      .error (.refused ApiError.notFoundCode ApiError.notFoundReason) := by
    rw [orderly.get_eq askable, absent]
    rfl
  have looked : (client.lookUp world containerId).2 = .ok none := by
    rw [lookUp_eq, answered]
    rfl
  constructor
  case ended => simp [containerEnded, looked, isGoneOrEnded]
  case unready => simp [containerReady, looked, isKnownReady]
  case unaddressed => simp [containerIp, looked]
  case stopped =>
    have unanswered : world.cluster.deletionFault? client.namespaceName containerId = none := by
      rw [Cluster.deletionFault?, Cluster.deletionFaults, orderly.faultless]
      rfl
    rw [delete, ask_eq, orderly.isSteady.delete_eq orderly.reachable askable, unanswered, absent]
    rfl

theorem claimsNothing_of_error
    {error : ApiError}
    (asked : (world.cluster.get client.namespaceName containerId).2 = .error error)
    (present : error.hasMissingReason = false) : client.ClaimsNothing world containerId := by
  have looked : (client.lookUp world containerId).2 = .error error := by
    rw [lookUp_eq, asked]
    simp [present]
  constructor
  case unended => simp [containerEnded, looked]
  case unready => simp [containerReady, looked]
  case unaddressed => simp [containerIp, looked]

/-- A pod is known to be ready only by what its first condition of that type says. -/
theorem isReady_iff (pod : Pod) :
    pod.isReady ↔
      ∃ status conditions earlier condition later, pod.status = some status ∧
        status.conditions = some conditions ∧ conditions = earlier ++ condition :: later ∧
        (∀ other ∈ earlier, other.type ≠ "Ready") ∧ condition.type = "Ready" ∧
        condition.status = "True" := by
  rw [Pod.isReady, Option.any_eq_true]
  constructor
  · rintro ⟨condition, found, holds⟩
    obtain ⟨isType, earlier, later, shape, others⟩ := List.find?_eq_some_iff_append.mp found
    cases stated : pod.status.bind (·.conditions) with
    | none => simp [stated] at shape
    | some conditions =>
        obtain ⟨status, isStatus, isConditions⟩ := Option.bind_eq_some_iff.mp stated
        rw [stated, Option.getD_some] at shape
        exact ⟨status, conditions, earlier, condition, later, isStatus, isConditions, shape,
          by simpa using others, by simpa using isType, by simpa using holds⟩
  · rintro ⟨status, conditions, earlier, condition, later, isStatus, isConditions, shape, others,
      isType, holds⟩
    refine ⟨condition, ?_, by simpa using holds⟩
    rw [isStatus, Option.bind_some, isConditions, Option.getD_some]
    exact List.find?_eq_some_iff_append.mpr
      ⟨by simpa using isType, earlier, later, shape, by simpa using others⟩

theorem containerReady_iff (client : Client) (world : World) (containerId : String) :
    (client.containerReady world containerId).2 = true ↔
      ∃ pod, (world.cluster.get client.namespaceName containerId).2 = .ok pod ∧ pod.isReady := by
  rw [containerReady]
  cases asked : (world.cluster.get client.namespaceName containerId).2 with
  | ok pod =>
      have looked : (client.lookUp world containerId).2 = .ok (some pod) := by
        rw [lookUp_eq, asked]
      simp [looked, isKnownReady]
  | error error =>
      cases missing : error.hasMissingReason with
      | true =>
          have looked : (client.lookUp world containerId).2 = .ok none := by
            rw [lookUp_eq, asked]
            simp [missing]
          simp [looked, isKnownReady]
      | false => simpa [containerReady] using (claimsNothing_of_error asked missing).unready

/-- What a client has removed stays gone, at any later time of any run, and stopping a pod takes
away no other.  Where an answer neither is a pod nor says that there is none, the client claims
nothing; and it takes a pod to be ready only if the pod itself says so. -/
theorem gone_stays_gone
    (client : Client) {world : World} {before : History} (orderly : world.cluster.IsOrderly)
    (run : Relation.ReflTransGen (History.Step client) (History.start world) before) :
    (∀ containerId removed now, before.Removes client containerId removed →
      Relation.ReflTransGen (History.Step client) removed now →
      client.TakesForGone now.world containerId) ∧
    (∀ containerId, (client.stop before.world containerId).cluster.pods =
      before.world.cluster.pods.filter (·.metadata.name ≠ some containerId)) ∧
    (∀ world containerId error,
      (world.cluster.get client.namespaceName containerId).2 = .error error →
      (∀ code, error ≠ .refused code "NotFound") → client.ClaimsNothing world containerId) ∧
    ∀ world containerId, (client.containerReady world containerId).2 = true ↔
      ∃ pod, (world.cluster.get client.namespaceName containerId).2 = .ok pod ∧
        ∃ status conditions earlier condition later, pod.status = some status ∧
          status.conditions = some conditions ∧ conditions = earlier ++ condition :: later ∧
          (∀ other ∈ earlier, other.type ≠ "Ready") ∧ condition.type = "Ready" ∧
          condition.status = "True" := by
  have sound := History.isSound_of_run orderly run
  refine ⟨?_, fun containerId => sound.stop_pods containerId, ?_, ?_⟩
  · intro containerId removed now removes later
    have askable := sound.isName_of_removes removes
    have gone := (sound.gone_of_removes removes).of_run later
    refine takesForGone_of_absent gone.sound.orderly askable ?_
    rw [Cluster.find?_eq_none_iff]
    exact fun pod stored named => gone.absent (Cluster.mem_podNames.mpr ⟨pod, stored, named⟩)
  · intro world containerId error asked present
    refine claimsNothing_of_error asked ?_
    cases error with
    | unusable => rfl
    | refused code reason =>
        refine beq_eq_false_iff_ne.mpr ?_
        rintro rfl
        exact present code rfl
  · intro world containerId
    rw [containerReady_iff]
    simp only [isReady_iff]

/-! ### A pod that is stopped before the next one is created -/

def createdHistory : History :=
  (History.start emptyWorld).next (gridClient.create emptyWorld foreignRequest).1

def stoppedHistory : History :=
  createdHistory.next (gridClient.stop createdHistory.world "grid-40000-p1")

def repeatedHistory : History :=
  stoppedHistory.next (gridClient.create stoppedHistory.world foreignRequest).1

theorem stopped_pod_stays_gone :
    emptyWorld.cluster.IsOrderly ∧
      Relation.ReflTransGen (History.Step gridClient) (History.start emptyWorld) createdHistory ∧
      createdHistory.Removes gridClient "grid-40000-p1" stoppedHistory ∧
      Relation.ReflTransGen (History.Step gridClient) stoppedHistory repeatedHistory ∧
      repeatedHistory.world.cluster.podNames = ["grid-40000-p2"] ∧
      gridClient.TakesForGone repeatedHistory.world "grid-40000-p1" ∧
      gridClient.ClaimsNothing (interceptedWorld 503 "service unavailable") "grid-1" := by
  have orderly : emptyWorld.cluster.IsOrderly := by
    constructor <;> simp [emptyWorld]
  have created : History.Step gridClient (History.start emptyWorld) createdHistory :=
    .created _ foreignRequest (by cbv) List.not_mem_nil
  have present : createdHistory.world.cluster.podNames = ["grid-40000-p1"] := by cbv
  have removes : createdHistory.Removes gridClient "grid-40000-p1" stoppedHistory :=
    .stopped (by rw [present]; exact List.mem_cons_self)
  have known : stoppedHistory.known = ["grid-40000-p1"] := by cbv
  have chosen : gridClient.nextName stoppedHistory.world foreignRequest = "grid-40000-p2" := by cbv
  have repeated : History.Step gridClient stoppedHistory repeatedHistory := by
    refine .created _ foreignRequest (by rw [chosen]; decide) ?_
    rw [chosen, known]
    decide
  obtain ⟨gone, _, doubt, _⟩ := gone_stays_gone gridClient orderly (.single created)
  have asked : ((interceptedWorld 503 "service unavailable").cluster.get
      gridClient.namespaceName "grid-1").2 =
        .error (.refused 503 "Failed to parse error data") := by
    cbv
  exact ⟨orderly, .single created, removes, .single repeated, by cbv,
    gone _ _ _ removes (.single repeated), doubt _ _ _ asked (by simp)⟩

end Client

end BrowserPods
