import BrowserPods.Proofs.Cluster.Deletion
import Mathlib.Data.List.Nodup

/-!
# Clusters that answer every request

An orderly cluster is within reach, has no faults and keeps every pod under a name of its own
(`Cluster.IsOrderly`).  It answers a selector with exactly the pods that carry the label
(`Cluster.IsOrderly.list_eq`) and refuses the deletion of no pod.
-/

namespace BrowserPods.Cluster

/-- Whether a cluster answers without faults and keeps every pod under a name of its own. -/
structure IsOrderly (cluster : Cluster) : Prop where
  reachable : cluster.reachable
  faultless : cluster.faults = []
  named : ∀ pod ∈ cluster.pods, ∃ name, pod.metadata.name = some name ∧ isName name
  unique : (cluster.pods.map (·.metadata.name)).Nodup

def podNames (cluster : Cluster) : List String := cluster.pods.filterMap (·.metadata.name)

theorem mem_podNames {cluster : Cluster} {name : String} :
    name ∈ cluster.podNames ↔ ∃ pod ∈ cluster.pods, pod.metadata.name = some name := by
  rw [podNames, List.mem_filterMap]

/-- A selector for a label is read as the label and its value, whatever the value contains. -/
theorem splitSelector_eq {key : String} (plain : '=' ∉ key.toList) (value : String) :
    splitSelector (key ++ "=" ++ value) = (key, value) := by
  have before : ∀ letter ∈ key.toList, decide (letter ≠ '=') = true := by
    intro letter member
    refine decide_eq_true ?_
    rintro rfl
    exact plain member
  have text : (key ++ "=" ++ value).toList = key.toList ++ '=' :: value.toList := by
    simp
  rw [splitSelector, text, List.takeWhile_append_of_pos before, List.dropWhile_append_of_pos before]
  simp

variable {cluster : Cluster} {namespaceName : String}

namespace IsOrderly

theorem isSteady (orderly : cluster.IsOrderly) : cluster.IsSteady namespaceName := by
  have none : cluster.deletionFaults = [] := by
    rw [deletionFaults, orderly.faultless, List.filter_nil]
  constructor
  · simp [none]
  · simp [deletionFault?, none]

theorem refuses_eq (orderly : cluster.IsOrderly) (name : String) :
    cluster.refuses namespaceName name = !isName name := by
  rw [orderly.isSteady.refuses_eq orderly.reachable, deletionFault?, deletionFaults,
    orderly.faultless]
  simp

theorem receive_eq (orderly : cluster.IsOrderly) (request : Request) :
    cluster.receive request = ({ cluster with log := cluster.log ++ [request] }, none) := by
  rw [receive, orderly.faultless]
  rfl

theorem answer_eq
    {α : Type} (orderly : cluster.IsOrderly) (request : Request) (value : Json → Option α)
    (usual : Cluster → Cluster × Except ApiError α) :
    cluster.answer request value usual =
      usual { cluster with log := cluster.log ++ [request] } := by
  rw [answer, if_pos orderly.reachable, orderly.receive_eq]

theorem get_eq (orderly : cluster.IsOrderly) {name : String} (askable : isName name) :
    cluster.get namespaceName name =
      ({ cluster with log := cluster.log ++ [.get namespaceName name] },
        match cluster.find? name with
        | some pod => .ok pod
        | none => notFound) := by
  rw [get, if_pos askable, orderly.answer_eq]
  change (match cluster.find? name with
    | some pod => _
    | none => _) = _
  cases cluster.find? name with
  | some pod => rfl
  | none => rfl

theorem list_eq (orderly : cluster.IsOrderly) (selector : String) :
    cluster.list namespaceName selector =
      ({ cluster with log := cluster.log ++ [.list namespaceName selector] },
        .ok (cluster.selected selector)) := by
  rw [list, orderly.answer_eq]
  rfl

theorem create_fst (orderly : cluster.IsOrderly) (body : Pod) :
    (cluster.create namespaceName body).1 =
      { cluster with
        pods := cluster.pods ++ [cluster.named body (cluster.created + 1)]
        created := cluster.created + 1
        log := cluster.log ++ [.create namespaceName body] } := by
  rw [create, orderly.answer_eq]
  rfl

theorem exec_fst (orderly : cluster.IsOrderly) (name : String) (command : List String) :
    (cluster.exec namespaceName name command).1 =
      { cluster with
        scripts := cluster.scripts.drop 1
        log := cluster.log ++ [.exec namespaceName name command wantedStreams] } := by
  rw [exec, if_pos orderly.reachable, orderly.receive_eq]
  dsimp only
  split
  · rfl
  · rfl

theorem eq_of_name_eq
    (orderly : cluster.IsOrderly) {first second : Pod} (firstStored : first ∈ cluster.pods)
    (secondStored : second ∈ cluster.pods) (same : first.metadata.name = second.metadata.name) :
    first = second :=
  List.inj_on_of_nodup_map orderly.unique firstStored secondStored same

theorem find?_eq_some
    (orderly : cluster.IsOrderly) {pod : Pod} (stored : pod ∈ cluster.pods) {name : String}
    (named : pod.metadata.name = some name) : cluster.find? name = some pod := by
  cases found : cluster.find? name with
  | none => exact absurd named ((find?_eq_none_iff name).mp found pod stored)
  | some other =>
      have otherNamed := List.find?_some found
      rw [orderly.eq_of_name_eq (List.mem_of_find?_eq_some found) stored]
      rw [named]
      simpa using otherNamed

theorem of_sublist
    {other : Cluster} (orderly : cluster.IsOrderly) (fewer : other.pods.Sublist cluster.pods)
    (faults : other.faults = cluster.faults) (reachable : other.reachable) : other.IsOrderly where
  reachable := reachable
  faultless := faults.trans orderly.faultless
  named := fun pod member => orderly.named pod (fewer.subset member)
  unique := orderly.unique.sublist (fewer.map _)

theorem afterDeletion (orderly : cluster.IsOrderly) (name : String) :
    (cluster.afterDeletion namespaceName name).IsOrderly :=
  orderly.of_sublist (afterDeletion_pods_sublist name) rfl orderly.reachable

/-- An orderly cluster stays orderly if it gives a new pod a name of its own. -/
theorem create
    (orderly : cluster.IsOrderly) {body : Pod} {name : String}
    (chosen : cluster.chooseName (body.metadata.generateName.getD "") (cluster.created + 1) = name)
    (askable : isName name) (fresh : name ∉ cluster.podNames) :
    (cluster.create namespaceName body).1.IsOrderly := by
  have named : (cluster.named body (cluster.created + 1)).metadata.name = some name :=
    congrArg some chosen
  rw [orderly.create_fst]
  constructor
  case reachable => exact orderly.reachable
  case faultless => exact orderly.faultless
  case named =>
    intro pod stored
    rcases List.mem_append.mp stored with old | new
    · exact orderly.named pod old
    · obtain rfl := List.mem_singleton.mp new
      exact ⟨name, named, askable⟩
  case unique =>
    rw [List.map_append, List.nodup_append]
    refine ⟨orderly.unique, List.nodup_singleton _, ?_⟩
    rintro _ old _ new rfl
    obtain ⟨pod, stored, podNamed⟩ := List.mem_map.mp old
    rw [List.map_singleton, List.mem_singleton, named] at new
    exact fresh (mem_podNames.mpr ⟨pod, stored, podNamed.trans new⟩)

end IsOrderly

end BrowserPods.Cluster
