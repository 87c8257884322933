import BrowserPods.Proofs.Cluster.Deletion
import Mathlib

/-!
# Sweeps whose deletions are answered in any order

A sweep issues its deletions all at once, and they reach the cluster in an order that nobody
chooses.  In the meantime others may remove pods that the sweep is about to delete.  A step is one
such event (`Sweeping.Step`).  However the steps are ordered, the sweep comes to the same requests,
pods and summary (`IsSwept`); deleting one pod after another is one of the orders.
-/

namespace BrowserPods

structure Sweeping where
  world : World
  /-- The deletions in the order of the list, with whether the pod is gone once one is answered. -/
  calls : List (String × Option Bool)

def Pod.without (names : List String) (pods : List Pod) : List Pod :=
  pods.filter fun pod => ∀ name ∈ names, pod.metadata.name ≠ some name

theorem Pod.filter_without (names : List String) (name : String) (pods : List Pod) :
    (Pod.without names pods).filter (·.metadata.name ≠ some name) =
      Pod.without (name :: names) pods := by
  rw [Pod.without, Pod.without, List.filter_filter]
  refine List.filter_congr fun pod member => ?_
  simp

theorem Pod.without_congr
    {first second : List String} (same : ∀ name, name ∈ first ↔ name ∈ second) (pods : List Pod) :
    Pod.without first pods = Pod.without second pods := by
  simp only [Pod.without, same]

namespace Sweeping

def issue (world : World) (names : List String) : Sweeping :=
  { world, calls := names.map fun name => (name, none) }

def IsDone (now : Sweeping) : Prop := ∀ call ∈ now.calls, call.2.isSome

def summary (now : Sweeping) : SweepResult := Client.summarize (now.calls.filterMap (·.2))

def requests (now : Sweeping) (namespaceName : String) : List Request :=
  now.calls.filterMap fun call =>
    if call.2.isSome && Cluster.isName call.1 then some (.delete namespaceName call.1) else none

inductive Step (client : Client) : Sweeping → Sweeping → Prop where
  /-- Any deletion that is not answered yet reaches the cluster. -/
  | answered (world : World) (before : List (String × Option Bool)) (name : String)
      (after : List (String × Option Bool)) :
      Step client { world, calls := before ++ (name, none) :: after }
        { world := (client.delete world name).1
          calls := before ++ (name, some (client.delete world name).2) :: after }
  /-- Others remove a pod that the sweep may delete. -/
  | vanished (world : World) (calls : List (String × Option Bool)) (name : String)
      (listed : name ∈ calls.map (·.1))
      (allowed : world.cluster.refuses client.namespaceName name = false) :
      Step client { world, calls }
        { world := { world with cluster := world.cluster.remove name }, calls }

/-- An answer adds the request of its deletion to those that are answered. -/
theorem requests_answered
    (namespaceName name : String) (world : World) (first last : List (String × Option Bool))
    (gone : Bool) :
    (requests ⟨world, first ++ (name, some gone) :: last⟩ namespaceName).Perm
      (requests ⟨world, first ++ (name, none) :: last⟩ namespaceName ++
        if Cluster.isName name then [.delete namespaceName name] else []) := by
  cases askable : Cluster.isName name with
  | false => simp [requests, askable]
  | true =>
      simp only [requests, List.filterMap_append, List.filterMap_cons, askable, if_true,
        Option.isSome_some, Option.isSome_none, Bool.and_self, Bool.false_and,
        Bool.false_eq_true, if_false]
      exact List.perm_middle.trans (List.perm_append_singleton _ _).symm

/-- Until all deletions are answered, one of them can be. -/
theorem isDone_or_step (client : Client) (now : Sweeping) :
    now.IsDone ∨ ∃ later, Step client now later := by
  by_cases done : now.IsDone
  · exact .inl done
  · right
    obtain ⟨⟨name, gone⟩, member, waiting⟩ : ∃ call ∈ now.calls, ¬ call.2.isSome := by
      simpa [IsDone] using done
    obtain rfl : gone = none := by simpa using waiting
    obtain ⟨before, after, calls⟩ := List.append_of_mem member
    obtain ⟨world, _⟩ := now
    obtain rfl := calls
    exact ⟨_, .answered world before name after⟩

end Sweeping

/-- What a sweep comes to, from the world before its deletions and the names that it has listed. -/
structure IsSwept (client : Client) (before : World) (names : List String) (after : World)
    (summary : SweepResult) : Prop where
  /-- Each name that can be asked for is asked to be deleted once, and nothing else is asked. -/
  requests : ∃ sent, after.cluster.log = before.cluster.log ++ sent ∧
    sent.Perm ((names.filter Cluster.isName).map (.delete client.namespaceName))
  /-- The listed pods are gone, except where that is refused, and the others are as they were. -/
  pods : after.cluster.pods =
    Pod.without (names.filter fun name => !before.cluster.refuses client.namespaceName name)
      before.cluster.pods
  deleted : summary.deleted =
    names.countP fun name => !before.cluster.refuses client.namespaceName name
  failed : summary.failed = names.countP (before.cluster.refuses client.namespaceName)
  total : summary.deleted + summary.failed = names.length

/-- Whether of the pods before a sweep exactly those of some names are gone, which the sweep has
listed and may delete. -/
structure Sweeping.Lacks (client : Client) (before : World) (names gone : List String)
    (pods : List Pod) : Prop where
  left : pods = Pod.without gone before.cluster.pods
  allowed : ∀ name ∈ gone, name ∈ names ∧
    before.cluster.refuses client.namespaceName name = false

/-- What holds of a sweep at any time. -/
structure Sweeping.IsUnderway (client : Client) (before : World) (names : List String)
    (now : Sweeping) : Prop where
  calls : now.calls.map (·.1) = names
  faults : now.world.cluster.faults = before.cluster.faults
  reachable : now.world.cluster.reachable
  results : ∀ name gone, (name, some gone) ∈ now.calls →
    gone = !before.cluster.refuses client.namespaceName name
  requests : ∃ sent, now.world.cluster.log = before.cluster.log ++ sent ∧
    sent.Perm (now.requests client.namespaceName)
  /-- At least the pods are gone of which an answer says so. -/
  pods : ∃ gone, Lacks client before names gone now.world.cluster.pods ∧
    ∀ name, (name, some true) ∈ now.calls → name ∈ gone

namespace Sweeping

variable {client : Client} {before : World} {names : List String} {now later : Sweeping}

theorem isUnderway_issue (reachable : before.cluster.reachable) :
    (issue before names).IsUnderway client before names where
  calls := by simp [issue, Function.comp_def]
  faults := rfl
  reachable := reachable
  results := by simp [issue]
  requests := ⟨[], by simp [issue], by simp [issue, requests]⟩
  pods := ⟨[], ⟨by simp [issue, Pod.without], by simp⟩, by simp [issue]⟩

theorem Lacks.remove
    {gone : List String} {pods : List Pod} {name : String}
    (lacks : Lacks client before names gone pods) (listed : name ∈ names)
    (allowed : before.cluster.refuses client.namespaceName name = false) :
    Lacks client before names (name :: gone) (pods.filter (·.metadata.name ≠ some name)) where
  left := by rw [lacks.left, Pod.filter_without]
  allowed := by
    intro other member
    rcases List.mem_cons.mp member with rfl | member
    · exact ⟨listed, allowed⟩
    · exact lacks.allowed other member

theorem IsUnderway.deletionFaults (underway : now.IsUnderway client before names) :
    now.world.cluster.deletionFaults = before.cluster.deletionFaults := by
  rw [Cluster.deletionFaults, underway.faults, Cluster.deletionFaults]

theorem IsUnderway.steady
    (underway : now.IsUnderway client before names)
    (steady : before.cluster.IsSteady client.namespaceName) :
    now.world.cluster.IsSteady client.namespaceName := by
  refine steady.mono underway.deletionFaults ?_
  obtain ⟨gone, lacks, _⟩ := underway.pods
  rw [lacks.left]
  exact fun pod member => (List.mem_filter.mp member).1

theorem IsUnderway.refuses
    (underway : now.IsUnderway client before names)
    (steady : before.cluster.IsSteady client.namespaceName) (reachable : before.cluster.reachable)
    (name : String) :
    now.world.cluster.refuses client.namespaceName name =
      before.cluster.refuses client.namespaceName name :=
  steady.refuses_congr (underway.steady steady) reachable underway.reachable
    underway.deletionFaults name

/-- A deletion that has an answer now is the one just answered or had it before. -/
private theorem mem_calls
    {call : String × Option Bool} {first last : List (String × Option Bool)} {name : String}
    {gone : Option Bool} (member : call ∈ first ++ (name, gone) :: last) :
    call = (name, gone) ∨ call ∈ first ++ (name, none) :: last := by
  simp only [List.mem_append, List.mem_cons] at member ⊢
  tauto

theorem IsUnderway.answered
    {world : World} {first last : List (String × Option Bool)} {name : String}
    (underway : IsUnderway client before names ⟨world, first ++ (name, none) :: last⟩)
    (steady : before.cluster.IsSteady client.namespaceName)
    (reachable : before.cluster.reachable) :
    IsUnderway client before names ⟨(client.delete world name).1,
      first ++ (name, some (client.delete world name).2) :: last⟩ := by
  have refusal : world.cluster.refuses client.namespaceName name =
      before.cluster.refuses client.namespaceName name := underway.refuses steady reachable name
  rw [client.delete_fst (underway.steady steady) underway.reachable name, client.delete_snd,
    refusal]
  constructor
  case calls => simpa using underway.calls
  case faults => exact underway.faults
  case reachable => exact underway.reachable
  case results =>
    intro other gone member
    rcases mem_calls member with same | member
    · obtain ⟨rfl, sameGone⟩ := Prod.mk.inj same
      exact Option.some.inj sameGone
    · exact underway.results other gone member
  case requests =>
    obtain ⟨sent, log, order⟩ := underway.requests
    change world.cluster.log = _ at log
    refine ⟨_, ?_, (order.append_right _).trans
      (requests_answered client.namespaceName name world first last _).symm⟩
    simp only [Cluster.afterDeletion, log, List.append_assoc]
  case pods =>
    obtain ⟨gone, lacks, answered⟩ := underway.pods
    simp only [Cluster.afterDeletion, refusal]
    cases refuses : before.cluster.refuses client.namespaceName name with
    | true =>
        refine ⟨gone, by simpa using lacks, ?_⟩
        intro other member
        rcases mem_calls member with same | member
        · simp at same
        · exact answered other member
    | false =>
        have listed : name ∈ names := by simp [← underway.calls]
        refine ⟨name :: gone, by simpa using lacks.remove listed refuses, ?_⟩
        intro other member
        rcases mem_calls member with same | member
        · obtain ⟨rfl, _⟩ := Prod.mk.inj same
          exact List.mem_cons_self
        · exact List.mem_cons_of_mem _ (answered other member)

theorem IsUnderway.vanished
    {world : World} {calls : List (String × Option Bool)} {name : String}
    (underway : IsUnderway client before names ⟨world, calls⟩)
    (steady : before.cluster.IsSteady client.namespaceName) (reachable : before.cluster.reachable)
    (listed : name ∈ calls.map (·.1))
    (allowed : world.cluster.refuses client.namespaceName name = false) :
    IsUnderway client before names
      ⟨{ world with cluster := world.cluster.remove name }, calls⟩ := by
  obtain ⟨gone, lacks, answered⟩ := underway.pods
  have inNames : name ∈ names := underway.calls ▸ listed
  have refuses : before.cluster.refuses client.namespaceName name = false :=
    (underway.refuses steady reachable name).symm.trans allowed
  exact { underway with
    pods := ⟨name :: gone, lacks.remove inNames refuses,
      fun other member => List.mem_cons_of_mem _ (answered other member)⟩ }

theorem IsUnderway.step
    (underway : now.IsUnderway client before names)
    (steady : before.cluster.IsSteady client.namespaceName) (reachable : before.cluster.reachable)
    (step : Step client now later) : later.IsUnderway client before names := by
  cases step with
  | answered world first name last => exact underway.answered steady reachable
  | vanished world calls name listed allowed =>
      exact underway.vanished steady reachable listed allowed

theorem isUnderway_of_run
    (steady : before.cluster.IsSteady client.namespaceName) (reachable : before.cluster.reachable)
    (run : Relation.ReflTransGen (Step client) (issue before names) now) :
    now.IsUnderway client before names := by
  induction run with
  | refl => exact isUnderway_issue reachable
  | tail earlier step inductionHypothesis => exact inductionHypothesis.step steady reachable step

/-! ## Sweeps that are done -/

theorem countP_add_countP_not (names : List String) (chosen : String → Bool) :
    names.countP chosen + names.countP (fun name => !chosen name) = names.length := by
  simpa using (List.length_eq_countP_add_countP chosen (l := names)).symm

theorem summarize_map (names : List String) (gone : String → Bool) :
    Client.summarize (names.map gone) =
      { deleted := names.countP gone, failed := names.countP fun name => !gone name } := by
  have total := countP_add_countP_not names gone
  have counted : ((names.map gone).filter id).length = names.countP gone := by
    rw [← List.countP_eq_length_filter, List.countP_map]
    rfl
  simp only [Client.summarize, counted, List.length_map, SweepResult.mk.injEq, true_and]
  omega

/-- Once all deletions are answered, each has the answer that the cluster gives for its name. -/
theorem IsUnderway.calls_of_isDone
    (underway : now.IsUnderway client before names) (done : now.IsDone) :
    now.calls = names.map fun name =>
      (name, some (!before.cluster.refuses client.namespaceName name)) := by
  rw [← underway.calls, List.map_map]
  refine (List.map_id _).symm.trans (List.map_congr_left ?_)
  rintro ⟨name, gone⟩ member
  obtain ⟨result, rfl⟩ := Option.isSome_iff_exists.mp (done _ member)
  simp [← underway.results name result member]

theorem IsUnderway.isSwept
    (underway : now.IsUnderway client before names) (done : now.IsDone) :
    IsSwept client before names now.world now.summary := by
  have calls := underway.calls_of_isDone done
  have summary : now.summary =
      { deleted := names.countP fun name => !before.cluster.refuses client.namespaceName name
        failed := names.countP (before.cluster.refuses client.namespaceName) } := by
    rw [Sweeping.summary, calls, List.filterMap_map]
    simpa using summarize_map names fun name => !before.cluster.refuses client.namespaceName name
  constructor
  case requests =>
    obtain ⟨sent, log, order⟩ := underway.requests
    refine ⟨sent, log, ?_⟩
    rw [Sweeping.requests, calls, List.filterMap_map] at order
    rw [← List.filterMap_eq_map', List.filterMap_filter]
    simpa [Function.comp_def] using order
  case pods =>
    obtain ⟨gone, lacks, answered⟩ := underway.pods
    rw [lacks.left]
    refine Pod.without_congr (fun name => ?_) _
    rw [List.mem_filter]
    constructor
    · intro member
      simpa using lacks.allowed name member
    · rintro ⟨listed, allowed⟩
      refine answered name ?_
      rw [calls]
      exact List.mem_map.mpr ⟨name, listed, by rw [allowed]⟩
  case deleted => rw [summary]
  case failed => rw [summary]
  case total =>
    rw [summary, Nat.add_comm]
    exact countP_add_countP_not names (before.cluster.refuses client.namespaceName)

/-! ## Deleting one pod after another -/

theorem length_deleteAll (client : Client) (world : World) (names : List String) :
    (client.deleteAll world names).2.length = names.length := by
  induction names generalizing world with
  | nil => rfl
  | cons name rest inductionHypothesis =>
      exact congrArg Nat.succ (inductionHypothesis (client.delete world name).1)

def inTurn (client : Client) (world : World) (names : List String) : Sweeping :=
  { world := (client.deleteAll world names).1
    calls := names.zip ((client.deleteAll world names).2.map some) }

theorem run_deleteAll
    (client : Client) (world : World) (answered : List (String × Option Bool))
    (names : List String) :
    Relation.ReflTransGen (Step client)
      ⟨world, answered ++ names.map fun name => (name, none)⟩
      ⟨(client.deleteAll world names).1,
        answered ++ names.zip ((client.deleteAll world names).2.map some)⟩ := by
  induction names generalizing world answered with
  | nil => exact .refl
  | cons name rest inductionHypothesis =>
      have first : Step client
          ⟨world, answered ++ (name, none) :: rest.map fun name => (name, none)⟩
          ⟨(client.delete world name).1, answered ++
            (name, some (client.delete world name).2) :: rest.map fun name => (name, none)⟩ :=
        .answered world answered name _
      have others := inductionHypothesis (client.delete world name).1
        (answered ++ [(name, some (client.delete world name).2)])
      rw [List.append_assoc, List.append_assoc] at others
      exact .head first others

theorem run_inTurn (client : Client) (world : World) (names : List String) :
    Relation.ReflTransGen (Step client) (issue world names) (inTurn client world names) :=
  run_deleteAll client world [] names

theorem isDone_inTurn (client : Client) (world : World) (names : List String) :
    (inTurn client world names).IsDone := by
  rintro ⟨name, gone⟩ member
  obtain ⟨result, _, rfl⟩ := List.mem_map.mp (List.of_mem_zip member).2
  rfl

theorem summary_inTurn (client : Client) (world : World) (names : List String) :
    (inTurn client world names).summary =
      Client.summarize (client.deleteAll world names).2 := by
  have answers : (inTurn client world names).calls.map (·.2) =
      (client.deleteAll world names).2.map some :=
    List.map_snd_zip (by simp [length_deleteAll])
  have results := congrArg (List.filterMap id) answers
  rw [List.filterMap_map, List.filterMap_map] at results
  simpa [summary, Function.comp_def] using congrArg Client.summarize results

end Sweeping

/-! ## Choices of refusals

For every choice of names there is a steady cluster that refuses the deletion of exactly these. -/

/-- A fault that refuses the deletion of a name for good. -/
def Fault.refusal (name : String) : Fault :=
  { verb := .delete, name := some name, code := 500, body := "" }

theorem Fault.deletionOutcome_refusal (name : String) :
    (Fault.refusal name).deletionOutcome = .refused := by
  have unread : ApiError.ofBody? "" = none := by cbv
  change DeletionOutcome.ofAnswer (.error ((ApiError.ofBody? "").getD _)) = .refused
  rw [unread]
  rfl

theorem Fault.covers_refusal (namespaceName name other : String) :
    (Fault.refusal other).covers (.delete namespaceName name) = (other == name) := by
  simp [Fault.refusal, Fault.covers, Request.verb, Request.name]

namespace Cluster

/-- The cluster with no faults but refusals of some names. -/
def refusing (cluster : Cluster) (refused : List String) : Cluster :=
  { cluster with faults := refused.map Fault.refusal }

theorem deletionFaults_refusing (cluster : Cluster) (refused : List String) :
    (cluster.refusing refused).deletionFaults = refused.map Fault.refusal := by
  refine List.filter_eq_self.mpr fun fault member => ?_
  obtain ⟨name, _, rfl⟩ := List.mem_map.mp member
  rfl

theorem isSteady_refusing (cluster : Cluster) (refused : List String) (namespaceName : String) :
    (cluster.refusing refused).IsSteady namespaceName := by
  constructor
  case lasting =>
    rw [deletionFaults_refusing]
    intro fault member
    obtain ⟨name, _, rfl⟩ := List.mem_map.mp member
    rfl
  case honest =>
    intro name fault answered reported
    have member := List.mem_of_find?_eq_some answered
    rw [deletionFaults_refusing] at member
    obtain ⟨other, _, rfl⟩ := List.mem_map.mp member
    exact absurd (Fault.deletionOutcome_refusal other) reported

theorem refuses_refusing
    {cluster : Cluster} (reachable : cluster.reachable) (refused : List String)
    (namespaceName name : String) :
    (cluster.refusing refused).refuses namespaceName name =
      (!isName name || refused.contains name) := by
  rw [(cluster.isSteady_refusing refused namespaceName).refuses_eq reachable, deletionFault?,
    deletionFaults_refusing]
  congr 1
  induction refused with
  | nil => rfl
  | cons other rest inductionHypothesis =>
      rw [List.map_cons, List.find?_cons, Fault.covers_refusal, List.contains_cons]
      by_cases same : name = other
      · subst same
        simp [Fault.deletionOutcome_refusal]
      · simpa [beq_eq_false_iff_ne.mpr same, beq_eq_false_iff_ne.mpr (Ne.symm same)] using
          inductionHypothesis

end Cluster

/-! ## Any order -/

theorem Client.sweep_of_listed
    {client : Client} {world next : World} {pods : List Pod}
    (listed : client.listOwn world = (next, .ok pods)) :
    client.sweep world =
      ((Sweeping.inTurn client next (pods.filterMap (·.metadata.name))).world,
        .ok (Sweeping.inTurn client next (pods.filterMap (·.metadata.name))).summary) := by
  rw [Sweeping.summary_inTurn, sweep, listed]
  rfl

theorem Client.listOwn_fst (client : Client) (world : World) :
    (client.listOwn world).1 =
      { world with
        cluster := (world.cluster.list client.namespaceName client.config.markSelector).1 } := by
  rw [listOwn, ask]
  cases world.cluster.list client.namespaceName client.config.markSelector with
  | mk cluster answer =>
      cases answer with
      | ok pods => rfl
      | error error => rfl

/-- Only a cluster within reach answers with a list of pods. -/
theorem Client.reachable_of_listed
    {client : Client} {world next : World} {pods : List Pod}
    (listed : client.listOwn world = (next, .ok pods)) : world.cluster.reachable := by
  rw [listOwn, ask] at listed
  cases answered : world.cluster.list client.namespaceName client.config.markSelector with
  | mk cluster answer =>
      rw [answered] at listed
      cases answer with
      | ok pods => exact Cluster.reachable_of_list (congrArg Prod.snd answered)
      | error error => cases listed

/-- The only failure to list pods is that of the request. -/
theorem Client.failure_of_unlisted
    {client : Client} {world next : World} {failure : Failure}
    (unlisted : client.listOwn world = (next, .error failure)) :
    failure = { cause := .podsUnlisted client.config.markSelector } := by
  rw [listOwn, ask] at unlisted
  cases answered : world.cluster.list client.namespaceName client.config.markSelector with
  | mk cluster answer =>
      rw [answered] at unlisted
      cases answer with
      | ok pods => cases unlisted
      | error error => exact (Except.error.inj (congrArg Prod.snd unlisted)).symm

/-- A sweep of a steady cluster.  If the pods cannot be listed, it fails with that and asks for
nothing else.  If they can, then however its deletions are ordered it comes to the same requests,
pods and summary, and until all are answered one of them can be. -/
theorem Client.sweep_in_any_order
    (client : Client) (world : World) (steady : world.cluster.IsSteady client.namespaceName) :
    (∀ next failure, client.listOwn world = (next, .error failure) →
      client.sweep world = (next, .error failure) ∧
        failure = { cause := .podsUnlisted client.config.markSelector } ∧
        next.cluster.pods = world.cluster.pods ∧
        next.cluster.log = world.cluster.log ++
          if world.cluster.reachable then
            [.list client.namespaceName client.config.markSelector]
          else []) ∧
    ∀ next pods, client.listOwn world = (next, .ok pods) →
      next.cluster.pods = world.cluster.pods ∧
        next.cluster.log =
          world.cluster.log ++ [.list client.namespaceName client.config.markSelector] ∧
        (∃ summary, (client.sweep world).2 = .ok summary ∧
          IsSwept client next (pods.filterMap (·.metadata.name)) (client.sweep world).1 summary) ∧
        ∀ now, Relation.ReflTransGen (Sweeping.Step client)
            (Sweeping.issue next (pods.filterMap (·.metadata.name))) now →
          (now.IsDone ∨ ∃ later, Sweeping.Step client now later) ∧
            (now.IsDone →
              IsSwept client next (pods.filterMap (·.metadata.name)) now.world now.summary) := by
  have listedPods := Cluster.list_pods world.cluster client.namespaceName client.config.markSelector
  have log := Cluster.list_log world.cluster client.namespaceName client.config.markSelector
  have cluster := client.listOwn_fst world
  constructor
  · intro next failure unlisted
    rw [unlisted] at cluster
    obtain rfl := cluster
    exact ⟨by rw [sweep, unlisted], failure_of_unlisted unlisted, listedPods, log⟩
  · intro next pods listed
    have reachable := reachable_of_listed listed
    rw [if_pos reachable] at log
    rw [listed] at cluster
    obtain rfl := cluster
    have nextSteady := steady.mono
      (Cluster.list_deletionFaults world.cluster client.namespaceName client.config.markSelector)
      (by rw [listedPods]; exact List.Subset.refl _)
    have nextReachable := (Cluster.list_reachable world.cluster client.namespaceName
      client.config.markSelector).trans reachable
    refine ⟨listedPods, log, ?_, ?_⟩
    · rw [sweep_of_listed listed]
      exact ⟨_, rfl, (Sweeping.isUnderway_of_run nextSteady nextReachable
        (Sweeping.run_inTurn client _ _)).isSwept (Sweeping.isDone_inTurn client _ _)⟩
    · intro now run
      exact ⟨now.isDone_or_step client,
        (Sweeping.isUnderway_of_run nextSteady nextReachable run).isSwept⟩

/-! ### A sweep with each outcome -/

def Pod.marked (name : Option String) (appName : String) : Pod :=
  { metadata := { name, labels := some (.ofList [(BrowserConfig.markKey, appName)]) } }

def gridClient : Client :=
  { config := .withoutPod { appName := "grid" }, namespaceName := "pods" }

/-- Four pods of the application, of which one may not be deleted and one has no name, and a pod of
another application. -/
def crowdedWorld : World :=
  { cluster := Cluster.refusing
      { pods := [.marked (some "a") "grid", .marked (some "b") "grid", .marked (some "c") "grid",
          .marked none "grid", .marked (some "d") "other"] } ["b"]
    freshName := fun count => toString count }

def listedWorld : World :=
  { crowdedWorld with
    cluster := { crowdedWorld.cluster with log := [.list "pods" "createdBy=grid"] } }

/-- The sweep once the third pod has gone by itself and the deletions have arrived. -/
def mixedSweeping : Sweeping :=
  let vanished := { listedWorld with cluster := listedWorld.cluster.remove "c" }
  let first := gridClient.delete vanished "b"
  let second := gridClient.delete first.1 "c"
  let third := gridClient.delete second.1 "a"
  { world := third.1, calls := [("a", some third.2), ("b", some first.2), ("c", some second.2)] }

/-- One pod is deleted, one is gone before its deletion arrives and one is kept. -/
theorem sweep_in_mixed_order :
    crowdedWorld.cluster.IsSteady gridClient.namespaceName ∧
      ∃ pods, gridClient.listOwn crowdedWorld = (listedWorld, .ok pods) ∧
        Relation.ReflTransGen (Sweeping.Step gridClient)
          (Sweeping.issue listedWorld (pods.filterMap (·.metadata.name))) mixedSweeping ∧
        mixedSweeping.IsDone ∧
        IsSwept gridClient listedWorld (pods.filterMap (·.metadata.name)) mixedSweeping.world
          mixedSweeping.summary ∧
        mixedSweeping.summary = { deleted := 2, failed := 1 } := by
  have listed : gridClient.listOwn crowdedWorld = (listedWorld,
      .ok [.marked (some "a") "grid", .marked (some "b") "grid", .marked (some "c") "grid",
          .marked none "grid"]) := by
    cbv
  have allowed : listedWorld.cluster.refuses gridClient.namespaceName "c" = false := by cbv
  have run : Relation.ReflTransGen (Sweeping.Step gridClient)
      (Sweeping.issue listedWorld ["a", "b", "c"]) mixedSweeping :=
    (((Relation.ReflTransGen.refl.tail
      (.vanished _ _ "c" (by simp) allowed)).tail
      (.answered _ [("a", none)] "b" [("c", none)])).tail
      (.answered _ [("a", none), ("b", _)] "c" [])).tail
      (.answered _ [] "a" [("b", _), ("c", _)])
  have done : mixedSweeping.IsDone := by
    simp [Sweeping.IsDone, mixedSweeping]
  have steady : crowdedWorld.cluster.IsSteady gridClient.namespaceName :=
    Cluster.isSteady_refusing _ ["b"] _
  exact ⟨steady, _, listed, run, done,
    (((Client.sweep_in_any_order gridClient crowdedWorld steady).2 _ _ listed).2.2.2 _ run).2 done,
    by cbv⟩

end BrowserPods
