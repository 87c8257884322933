import BrowserPods.Proofs.Client.Sweeping
import BrowserPods.Proofs.Cluster.Orderly

/-!
# The pods that a client owns

A client shares a cluster with others.  It creates pods for whatever requests it gets, stops some
and sweeps; in between others do what they like with pods that are not the client's
(`Tenancy.Step`).  The pods that the client has created are known by one label, which no request
can take away (`Tenancy.IsKept`): a sweep finds them, and it finds no pod without the label.
-/

namespace BrowserPods

/-- Whether a pod carries the label of the client's application. -/
def Client.marks (client : Client) (pod : Pod) : Bool :=
  pod.label? BrowserConfig.markKey = some client.config.appName

/-- A client among others. -/
structure Tenancy where
  world : World
  /-- The names of the pods that the client has created and that still exist. -/
  mine : List String

namespace Tenancy

def start (world : World) : Tenancy := { world, mine := [] }

/-- After an action of the client; what is there for the first time is the client's. -/
def act (now : Tenancy) (later : World) : Tenancy :=
  { world := later
    mine := later.cluster.podNames.filter fun name =>
      name ∈ now.mine ∨ name ∉ now.world.cluster.podNames }

def endure (now : Tenancy) (later : World) : Tenancy :=
  { world := later, mine := now.mine.filter (· ∈ later.cluster.podNames) }

/-- The name that the cluster chooses for the next pod. -/
def nextName (client : Client) (now : Tenancy) (request : BrowserRequest) : String :=
  now.world.cluster.chooseName (BrowserPod.nameStart client.config.appName request.nodePort)
    (now.world.cluster.created + 1)

inductive Step (client : Client) : Tenancy → Tenancy → Prop where
  | created (now : Tenancy) (request : BrowserRequest)
      (askable : Cluster.isName (nextName client now request))
      (fresh : nextName client now request ∉ now.world.cluster.podNames) :
      Step client now (now.act (client.create now.world request).1)
  | stopped (now : Tenancy) (containerId : String) :
      Step client now (now.act (client.stop now.world containerId))
  | swept (now : Tenancy) : Step client now (now.act (client.sweep now.world).1)
  /-- Others change anything, except that they leave the client's pods as they are or remove
  them. -/
  | others (now : Tenancy) (later : World) (orderly : later.cluster.IsOrderly)
      (kept : ∀ name ∈ now.mine, name ∈ later.cluster.podNames →
        later.cluster.find? name = now.world.cluster.find? name) :
      Step client now (now.endure later)

structure IsKept (client : Client) (now : Tenancy) : Prop where
  orderly : now.world.cluster.IsOrderly
  present : ∀ name ∈ now.mine, name ∈ now.world.cluster.podNames
  marked : ∀ pod ∈ now.world.cluster.pods, ∀ name ∈ now.mine,
    pod.metadata.name = some name → client.marks pod

end Tenancy

/-! ## Creations -/

/-- Every browser pod carries the label of the application, whatever its request asks for. -/
theorem BrowserPod.label?_build
    (config : BrowserConfig) (request : BrowserRequest) (workDir : Option WorkDir) :
    (BrowserPod.build config request workDir).label? BrowserConfig.markKey =
      some config.appName := by
  change (BrowserPod.labels config request).get? BrowserConfig.markKey = _
  rw [BrowserPod.labels, Dict.get?_union]
  simp [BrowserConfig.markLabels, Dict.ofList]

namespace Client

variable (client : Client) {world : World}

theorem allocate_cluster (world : World) :
    (client.allocate world).1.cluster = world.cluster := by
  rw [allocate]
  cases client.config.artifactsMount with
  | none => rfl
  | some mount => rfl

/-- A creation allocates a working directory, submits one pod, and changes nothing else. -/
theorem create_fst (world : World) (request : BrowserRequest) :
    (client.create world request).1 =
      { (client.allocate world).1 with
        cluster := (world.cluster.create client.namespaceName
          (BrowserPod.build client.config request (client.allocate world).2)).1 } := by
  rw [← client.allocate_cluster world]
  cases allocation : client.allocate world with
  | mk allocated workDir =>
      rw [create, allocation]
      simp only [ask]
      cases allocated.cluster.create client.namespaceName
          (BrowserPod.build client.config request workDir) with
      | mk cluster answer =>
          cases answer with
          | ok pod => rfl
          | error error => rfl

theorem create_cluster (world : World) (request : BrowserRequest) :
    ∃ workDir, (client.create world request).1.cluster =
      (world.cluster.create client.namespaceName
        (BrowserPod.build client.config request workDir)).1 := by
  rw [create_fst]
  exact ⟨_, rfl⟩

end Client

/-! ## Deletions and sweeps -/

namespace Client

/-- The names of the pods that carry the label of the client's application. -/
def markedNames (client : Client) (world : World) : List String :=
  (world.cluster.pods.filter client.marks).filterMap (·.metadata.name)

variable {client : Client} {world : World}

theorem stop_cluster
    (client : Client) (orderly : world.cluster.IsOrderly) (containerId : String) :
    (client.stop world containerId).cluster =
      world.cluster.afterDeletion client.namespaceName containerId := by
  rw [stop, client.delete_fst orderly.isSteady orderly.reachable]

/-- The selector of the application selects the pods with its label. -/
theorem selected_markSelector (client : Client) (cluster : Cluster) :
    cluster.selected client.config.markSelector = cluster.pods.filter client.marks := by
  rw [Cluster.selected, BrowserConfig.markSelector, Cluster.splitSelector_eq (by decide)]
  rfl

/-- An orderly cluster lists exactly the pods with the label; the list changes nothing but the
log. -/
theorem listOwn_of_orderly (client : Client) (orderly : world.cluster.IsOrderly) :
    ∃ next, client.listOwn world = (next, .ok (world.cluster.pods.filter client.marks)) ∧
      next.cluster.IsOrderly ∧ next.cluster.pods = world.cluster.pods ∧
      next.cluster.log =
        world.cluster.log ++ [.list client.namespaceName client.config.markSelector] := by
  rw [listOwn, ask, orderly.list_eq, client.selected_markSelector]
  exact ⟨_, rfl, orderly.of_sublist (List.Sublist.refl _) rfl orderly.reachable, rfl, rfl⟩

theorem isName_of_mem_markedNames
    (orderly : world.cluster.IsOrderly) {name : String} (member : name ∈ client.markedNames world) :
    Cluster.isName name := by
  obtain ⟨pod, marked, named⟩ := List.mem_filterMap.mp member
  obtain ⟨other, otherNamed, askable⟩ := orderly.named pod (List.mem_filter.mp marked).1
  rw [named] at otherNamed
  exact Option.some.inj otherNamed ▸ askable

theorem length_markedNames (orderly : world.cluster.IsOrderly) :
    (client.markedNames world).length = world.cluster.pods.countP client.marks := by
  rw [markedNames, List.length_filterMap_eq_countP,
    List.countP_eq_length_filter (p := client.marks),
    List.countP_eq_length]
  intro pod marked
  obtain ⟨name, named, _⟩ := orderly.named pod (List.mem_filter.mp marked).1
  simp [named]

/-- Without the names of the pods that carry the label exactly the others are left. -/
theorem without_markedNames (orderly : world.cluster.IsOrderly) :
    Pod.without (client.markedNames world) world.cluster.pods =
      world.cluster.pods.filter fun pod => !client.marks pod := by
  refine List.filter_congr fun pod stored => ?_
  rw [Bool.eq_iff_iff, decide_eq_true_eq, Bool.not_eq_true']
  constructor
  · intro unnamed
    obtain ⟨name, named, _⟩ := orderly.named pod stored
    refine Bool.eq_false_iff.mpr fun marked => unnamed name ?_ named
    exact List.mem_filterMap.mpr ⟨pod, List.mem_filter.mpr ⟨stored, marked⟩, named⟩
  · intro unmarked name member named
    obtain ⟨other, otherMarked, otherNamed⟩ := List.mem_filterMap.mp member
    obtain ⟨otherStored, marked⟩ := List.mem_filter.mp otherMarked
    have same := orderly.eq_of_name_eq stored otherStored (named.trans otherNamed.symm)
    rw [same, marked] at unmarked
    cases unmarked

/-- What a sweep does to an orderly cluster, and what it tells of it. -/
structure IsCleared (client : Client) (before after : World) (summary : SweepResult) : Prop where
  orderly : after.cluster.IsOrderly
  /-- The pods without the label are left, as they were. -/
  pods : after.cluster.pods = before.cluster.pods.filter fun pod => !client.marks pod
  deleted : summary.deleted = before.cluster.pods.countP client.marks
  failed : summary.failed = 0
  requests : ∃ sent, after.cluster.log = before.cluster.log ++
      .list client.namespaceName client.config.markSelector :: sent ∧
    sent.Perm ((client.markedNames before).map (.delete client.namespaceName))

theorem sweep_of_orderly (client : Client) (orderly : world.cluster.IsOrderly) :
    ∃ summary, (client.sweep world).2 = .ok summary ∧
      client.IsCleared world (client.sweep world).1 summary := by
  obtain ⟨next, listed, nextOrderly, nextPods, nextLog⟩ := client.listOwn_of_orderly orderly
  have underway := Sweeping.isUnderway_of_run nextOrderly.isSteady nextOrderly.reachable
    (Sweeping.run_inTurn client next (client.markedNames world))
  have swept := underway.isSwept (Sweeping.isDone_inTurn client next (client.markedNames world))
  rw [sweep_of_listed listed]
  refine ⟨_, rfl, ?_⟩
  change client.IsCleared world (Sweeping.inTurn client next (client.markedNames world)).world
    (Sweeping.inTurn client next (client.markedNames world)).summary
  generalize Sweeping.inTurn client next (client.markedNames world) = last at underway swept ⊢
  have allowed : ∀ name ∈ client.markedNames world,
      next.cluster.refuses client.namespaceName name = false := by
    intro name member
    rw [nextOrderly.refuses_eq, isName_of_mem_markedNames orderly member]
    rfl
  have pods : last.world.cluster.pods =
      world.cluster.pods.filter fun pod => !client.marks pod := by
    rw [swept.pods, nextPods, List.filter_eq_self.mpr, without_markedNames orderly]
    intro name member
    rw [allowed name member]
    rfl
  have failed : last.summary.failed = 0 := by
    rw [swept.failed, List.countP_eq_zero]
    intro name member
    rw [allowed name member]
    exact Bool.false_ne_true
  obtain ⟨sent, log, order⟩ := swept.requests
  constructor
  case orderly =>
    refine nextOrderly.of_sublist ?_ underway.faults underway.reachable
    rw [pods, nextPods]
    exact List.filter_sublist
  case pods => exact pods
  case deleted =>
    have total := swept.total
    rw [failed, length_markedNames orderly] at total
    exact total
  case failed => exact failed
  case requests =>
    refine ⟨sent, ?_, ?_⟩
    · rw [log, nextLog, List.append_assoc, List.singleton_append]
    · rwa [List.filter_eq_self.mpr fun name => isName_of_mem_markedNames orderly] at order

end Client

/-! ## Runs -/

namespace Tenancy

variable {client : Client} {now later : Tenancy}

/-- An action that adds only pods with the label keeps every pod of the client marked. -/
theorem IsKept.act
    (kept : now.IsKept client) {next : World} (orderly : next.cluster.IsOrderly)
    (added : ∀ pod ∈ next.cluster.pods, pod ∈ now.world.cluster.pods ∨ client.marks pod) :
    (now.act next).IsKept client where
  orderly := orderly
  present := fun name member => (List.mem_filter.mp member).1
  marked := by
    intro pod stored name member named
    rcases added pod stored with old | marked
    · have mineOrNew : name ∈ now.mine ∨ name ∉ now.world.cluster.podNames := by
        simpa using (List.mem_filter.mp member).2
      rcases mineOrNew with mine | new
      · exact kept.marked pod old name mine named
      · exact absurd (Cluster.mem_podNames.mpr ⟨pod, old, named⟩) new
    · exact marked

theorem IsKept.create
    (kept : now.IsKept client) {request : BrowserRequest}
    (askable : Cluster.isName (nextName client now request))
    (fresh : nextName client now request ∉ now.world.cluster.podNames) :
    (now.act (client.create now.world request).1).IsKept client := by
  obtain ⟨workDir, cluster⟩ := client.create_cluster now.world request
  refine kept.act ?_ ?_
  · rw [cluster]
    exact kept.orderly.create rfl askable fresh
  · rw [cluster, kept.orderly.create_fst]
    intro pod stored
    rcases List.mem_append.mp stored with old | new
    · exact .inl old
    · right
      obtain rfl := List.mem_singleton.mp new
      exact decide_eq_true (BrowserPod.label?_build client.config request workDir)

theorem IsKept.stop (kept : now.IsKept client) (containerId : String) :
    (now.act (client.stop now.world containerId)).IsKept client := by
  have cluster := client.stop_cluster kept.orderly containerId
  refine kept.act ?_ ?_
  · rw [cluster]
    exact kept.orderly.afterDeletion containerId
  · rw [cluster]
    exact fun pod stored => .inl ((Cluster.afterDeletion_pods_sublist containerId).subset stored)

theorem IsKept.sweep (kept : now.IsKept client) :
    (now.act (client.sweep now.world).1).IsKept client := by
  obtain ⟨summary, _, cleared⟩ := client.sweep_of_orderly kept.orderly
  refine kept.act cleared.orderly ?_
  rw [cleared.pods]
  exact fun pod stored => .inl (List.mem_filter.mp stored).1

theorem IsKept.endure
    (kept : now.IsKept client) {next : World} (orderly : next.cluster.IsOrderly)
    (unchanged : ∀ name ∈ now.mine, name ∈ next.cluster.podNames →
      next.cluster.find? name = now.world.cluster.find? name) :
    (now.endure next).IsKept client where
  orderly := orderly
  present := by
    intro name member
    exact of_decide_eq_true (List.mem_filter.mp member).2
  marked := by
    intro pod stored name member named
    have mine := (List.mem_filter.mp member).1
    have found := unchanged name mine (Cluster.mem_podNames.mpr ⟨pod, stored, named⟩)
    rw [orderly.find?_eq_some stored named] at found
    exact kept.marked pod (List.mem_of_find?_eq_some found.symm) name mine named

theorem IsKept.step (kept : now.IsKept client) (step : Step client now later) :
    later.IsKept client := by
  cases step with
  | created request askable fresh => exact kept.create askable fresh
  | stopped containerId => exact kept.stop containerId
  | swept => exact kept.sweep
  | others next orderly unchanged => exact kept.endure orderly unchanged

theorem isKept_of_run
    {world : World} (orderly : world.cluster.IsOrderly)
    (run : Relation.ReflTransGen (Step client) (start world) now) : now.IsKept client := by
  induction run with
  | refl => exact ⟨orderly, by simp [start], by simp [start]⟩
  | tail earlier step inductionHypothesis => exact inductionHypothesis.step step

end Tenancy

/-! ## Ownership -/

/-- At any time of any run, every pod that the client has created and that still exists carries its
label and is among the pods that it lists.  A sweep at that time takes the pods with the label and
no others, and one more finds nothing to delete. -/
theorem Client.owns_its_pods
    (client : Client) {world : World} {now : Tenancy} (orderly : world.cluster.IsOrderly)
    (run : Relation.ReflTransGen (Tenancy.Step client) (Tenancy.start world) now) :
    (∀ name ∈ now.mine, ∃ pod, now.world.cluster.find? name = some pod ∧
        pod.label? BrowserConfig.markKey = some client.config.appName ∧
        ∃ pods, (client.listOwn now.world).2 = .ok pods ∧ pod ∈ pods) ∧
      ∃ summary, (client.sweep now.world).2 = .ok summary ∧
        client.IsCleared now.world (client.sweep now.world).1 summary ∧
        (client.sweep (client.sweep now.world).1).2 = .ok { deleted := 0, failed := 0 } ∧
        (client.sweep (client.sweep now.world).1).1.cluster.pods =
          (client.sweep now.world).1.cluster.pods ∧
        (client.sweep (client.sweep now.world).1).1.cluster.log =
          (client.sweep now.world).1.cluster.log ++
            [.list client.namespaceName client.config.markSelector] := by
  have kept := Tenancy.isKept_of_run orderly run
  constructor
  · intro name mine
    obtain ⟨pod, stored, named⟩ := Cluster.mem_podNames.mp (kept.present name mine)
    have marked := kept.marked pod stored name mine named
    obtain ⟨next, listed, _⟩ := client.listOwn_of_orderly kept.orderly
    exact ⟨pod, kept.orderly.find?_eq_some stored named, of_decide_eq_true marked, _,
      congrArg Prod.snd listed, List.mem_filter.mpr ⟨stored, marked⟩⟩
  · obtain ⟨summary, first, cleared⟩ := client.sweep_of_orderly kept.orderly
    obtain ⟨again, second, clearedAgain⟩ := client.sweep_of_orderly cleared.orderly
    have unmarked : (client.sweep now.world).1.cluster.pods.filter client.marks = [] := by
      simp [cleared.pods, List.filter_filter]
    obtain ⟨sent, log, order⟩ := clearedAgain.requests
    rw [markedNames, unmarked] at order
    refine ⟨summary, first, cleared, ?_, ?_, ?_⟩
    · have deleted := clearedAgain.deleted
      have failed := clearedAgain.failed
      rw [List.countP_eq_length_filter, unmarked] at deleted
      obtain ⟨_, _⟩ := again
      obtain rfl : _ = 0 := deleted
      obtain rfl : _ = 0 := failed
      exact second
    · rw [clearedAgain.pods, cleared.pods, List.filter_filter]
      simp
    · rw [log, order.eq_nil]

/-! ### A request that asks for another mark -/

def foreignRequest : BrowserRequest :=
  { BrowserRequest.bare "grid" "selenium/node" "40000" with
    labels := .ofList [(BrowserConfig.markKey, "other"), (BrowserConfig.appKey, "other")] }

def emptyWorld : World := { freshName := fun count => toString count }

def createdTenancy : Tenancy :=
  (Tenancy.start emptyWorld).act (gridClient.create emptyWorld foreignRequest).1

def sharedWorld : World :=
  { createdTenancy.world with
    cluster :=
      { createdTenancy.world.cluster with
        pods := createdTenancy.world.cluster.pods ++ [.marked (some "d") "other"] } }

theorem sharedWorld_isOrderly : sharedWorld.cluster.IsOrderly := by
  have names : sharedWorld.cluster.pods.map (·.metadata.name) =
      [some "grid-40000-p1", some "d"] := by
    cbv
  constructor
  case reachable => cbv
  case faultless => cbv
  case named =>
    intro pod stored
    have named := List.mem_map_of_mem (f := (·.metadata.name)) stored
    rw [names] at named
    rcases List.mem_cons.mp named with first | second
    · exact ⟨_, first, by decide⟩
    · exact ⟨_, List.mem_singleton.mp second, by decide⟩
  case unique =>
    rw [names]
    decide

/-- The pod is the client's whatever its request asks for, and a sweep deletes it and no other. -/
theorem owns_pod_of_foreignRequest :
    emptyWorld.cluster.IsOrderly ∧
      Relation.ReflTransGen (Tenancy.Step gridClient) (Tenancy.start emptyWorld)
        (createdTenancy.endure sharedWorld) ∧
      (createdTenancy.endure sharedWorld).mine = ["grid-40000-p1"] ∧
      (∀ name ∈ (createdTenancy.endure sharedWorld).mine,
        ∃ pod, sharedWorld.cluster.find? name = some pod ∧
          pod.label? BrowserConfig.markKey = some "grid" ∧
          ∃ pods, (gridClient.listOwn sharedWorld).2 = .ok pods ∧ pod ∈ pods) ∧
      ∃ summary, (gridClient.sweep sharedWorld).2 = .ok summary ∧
        gridClient.IsCleared sharedWorld (gridClient.sweep sharedWorld).1 summary := by
  have orderly : emptyWorld.cluster.IsOrderly := by
    constructor <;> simp [emptyWorld]
  have created : Tenancy.Step gridClient (Tenancy.start emptyWorld) createdTenancy :=
    .created _ foreignRequest (by cbv) List.not_mem_nil
  have joined : Tenancy.Step gridClient createdTenancy (createdTenancy.endure sharedWorld) := by
    refine .others _ _ sharedWorld_isOrderly ?_
    intro name mine _
    have names : createdTenancy.mine = ["grid-40000-p1"] := by cbv
    rw [names] at mine
    obtain rfl := List.mem_singleton.mp mine
    cbv
  have run := (Relation.ReflTransGen.single created).tail joined
  obtain ⟨owned, summary, swept, cleared, _⟩ := gridClient.owns_its_pods orderly run
  exact ⟨orderly, run, by cbv, owned, summary, swept, cleared⟩

end BrowserPods
