import BrowserPods.Client.Lifecycle

/-!
# Deletions and their outcomes

A deletion removes a pod, finds none or is refused.  A cluster is steady if the name alone decides
whether a deletion is refused, and if no pod is said to be gone that is there (`Cluster.IsSteady`).
What a deletion does to such a cluster is told by one equation (`Cluster.delete_fst`).
-/

namespace BrowserPods

inductive DeletionOutcome where
  | deleted
  /-- There is no such pod. -/
  | missing
  | refused
deriving DecidableEq, Repr

/-- The outcome that an answer tells: of all errors only code 404 says that there is no pod. -/
def DeletionOutcome.ofAnswer : Except ApiError Unit → DeletionOutcome
  | .ok () => .deleted
  | .error (.refused code _) => if code = 404 then .missing else .refused
  | .error .unusable => .refused

theorem Client.isGone_eq (answer : Except ApiError Unit) :
    Client.isGone answer = !decide (DeletionOutcome.ofAnswer answer = .refused) := by
  cases answer with
  | ok value => rfl
  | error error =>
      cases error with
      | unusable => rfl
      | refused code reason =>
          by_cases missing : code = 404
          · simp [Client.isGone, ApiError.hasMissingCode, ApiError.notFoundCode,
              DeletionOutcome.ofAnswer, missing]
          · simp [Client.isGone, ApiError.hasMissingCode, ApiError.notFoundCode,
              DeletionOutcome.ofAnswer, missing]

/-! ## Faults -/

namespace Fault

/-- The outcome that a fault gives a deletion. -/
def deletionOutcome (fault : Fault) : DeletionOutcome :=
  .ofAnswer (ApiError.readAnswer Deletion.ofJson? fault.code fault.body)

/-- Whether a fault stays as it is when it is used. -/
def IsLasting (fault : Fault) : Prop := fault.uses.map (· - 1) = fault.uses

theorem verb_of_covers {fault : Fault} {request : Request} (covered : fault.covers request) :
    fault.verb = request.verb := by
  simp only [covers, Bool.and_eq_true, beq_iff_eq] at covered
  exact covered.1.1

/-- Lasting faults are still the same after one of them has answered. -/
theorem take?_of_lasting
    {request : Request} {faults : List Fault}
    (lasting : ∀ fault ∈ faults, fault.covers request → fault.IsLasting) :
    take? request faults =
      (faults.find? (·.covers request)).map fun fault => (fault, faults) := by
  induction faults with
  | nil => rfl
  | cons head rest inductionHypothesis =>
      rw [take?, List.find?_cons]
      cases covered : head.covers request with
      | true =>
          have same : head.uses.map (· - 1) = head.uses := lasting head (by simp) covered
          simp [same]
      | false =>
          rw [inductionHypothesis fun fault member => lasting fault (by simp [member])]
          cases rest.find? (·.covers request) with
          | none => rfl
          | some found => rfl

/-- A request uses up faults of its own verb only. -/
theorem filter_verb_of_take?
    {request : Request} {verb : Verb} (other : request.verb ≠ verb)
    {faults : List Fault} {taken : Fault} {left : List Fault}
    (found : take? request faults = some (taken, left)) :
    left.filter (·.verb = verb) = faults.filter (·.verb = verb) := by
  induction faults generalizing left with
  | nil => cases found
  | cons head rest inductionHypothesis =>
      rw [take?] at found
      cases covered : head.covers request with
      | true =>
          rw [if_pos covered] at found
          obtain ⟨rfl, rfl⟩ := Prod.mk.inj (Option.some.inj found)
          simp [verb_of_covers covered, other]
      | false =>
          rw [if_neg (by simp [covered]), Option.map_eq_some_iff] at found
          obtain ⟨⟨first, others⟩, foundRest, same⟩ := found
          obtain ⟨rfl, rfl⟩ := Prod.mk.inj same
          rw [List.filter_cons, List.filter_cons, inductionHypothesis foundRest]

end Fault

namespace Cluster

def deletionFaults (cluster : Cluster) : List Fault := cluster.faults.filter (·.verb = .delete)

def deletionFault? (cluster : Cluster) (namespaceName name : String) : Option Fault :=
  cluster.deletionFaults.find? (·.covers (.delete namespaceName name))

def refuses (cluster : Cluster) (namespaceName name : String) : Bool :=
  DeletionOutcome.ofAnswer (cluster.delete namespaceName name).2 = .refused

/-- Whether a cluster gives each name one answer for good: faults that answer deletions do not wear
out, and they say of no pod that is there that it is gone. -/
structure IsSteady (cluster : Cluster) (namespaceName : String) : Prop where
  lasting : ∀ fault ∈ cluster.deletionFaults, fault.IsLasting
  honest : ∀ name fault, cluster.deletionFault? namespaceName name = some fault →
    fault.deletionOutcome ≠ .refused → cluster.find? name = none

/-- The cluster after a deletion: the pod of the name is gone unless that is refused. -/
def afterDeletion (cluster : Cluster) (namespaceName name : String) : Cluster :=
  { cluster with
    pods :=
      if cluster.refuses namespaceName name then cluster.pods
      else cluster.pods.filter (·.metadata.name ≠ some name)
    log := cluster.log ++ if isName name then [.delete namespaceName name] else [] }

variable {cluster : Cluster} {namespaceName : String}

theorem find?_covers_delete (name : String) :
    cluster.faults.find? (·.covers (.delete namespaceName name)) =
      cluster.deletionFault? namespaceName name := by
  rw [deletionFault?, deletionFaults, List.find?_filter]
  congr 1
  funext fault
  by_cases deletes : fault.verb = .delete
  · simp [deletes]
  · simp [Fault.covers, Request.verb, deletes]

theorem IsSteady.receive_delete (steady : cluster.IsSteady namespaceName) (name : String) :
    cluster.receive (.delete namespaceName name) =
      ({ cluster with log := cluster.log ++ [.delete namespaceName name] },
        cluster.deletionFault? namespaceName name) := by
  have lasting : ∀ fault ∈ cluster.faults,
      fault.covers (.delete namespaceName name) → fault.IsLasting := by
    intro fault member covered
    have deletes : fault.verb = .delete := Fault.verb_of_covers covered
    exact steady.lasting fault (List.mem_filter.mpr ⟨member, by simpa using deletes⟩)
  rw [receive, Fault.take?_of_lasting lasting, find?_covers_delete]
  cases cluster.deletionFault? namespaceName name with
  | none => rfl
  | some fault => rfl

theorem find?_eq_none_iff (name : String) :
    cluster.find? name = none ↔ ∀ pod ∈ cluster.pods, pod.metadata.name ≠ some name := by
  simp [find?, List.find?_eq_none]

def logDeletion (cluster : Cluster) (namespaceName name : String) : Cluster :=
  { cluster with log := cluster.log ++ [.delete namespaceName name] }

/-- A deletion is answered by a fault, if there is one for it, or else by what is stored. -/
theorem IsSteady.delete_eq
    (steady : cluster.IsSteady namespaceName) (reachable : cluster.reachable) {name : String}
    (askable : isName name) :
    cluster.delete namespaceName name =
      match cluster.deletionFault? namespaceName name, cluster.find? name with
      | some fault, _ =>
        (cluster.logDeletion namespaceName name,
          ApiError.readAnswer Deletion.ofJson? fault.code fault.body)
      | none, some _ => ((cluster.logDeletion namespaceName name).remove name, .ok ())
      | none, none => (cluster.logDeletion namespaceName name, notFound) := by
  rw [delete, if_pos askable, answer, if_pos reachable, steady.receive_delete]
  cases cluster.deletionFault? namespaceName name with
  | some fault => rfl
  | none =>
      cases stored : cluster.find? name with
      | some pod =>
          have found : (cluster.logDeletion namespaceName name).find? name = some pod := stored
          rw [logDeletion] at found
          simp only [found]
          rfl
      | none =>
          have missing : (cluster.logDeletion namespaceName name).find? name = none := stored
          rw [logDeletion] at missing
          simp only [missing]
          rfl

/-- Whether a deletion is refused depends on the faults and on the name only. -/
theorem IsSteady.refuses_eq
    (steady : cluster.IsSteady namespaceName) (reachable : cluster.reachable) (name : String) :
    cluster.refuses namespaceName name =
      (!isName name ||
        (cluster.deletionFault? namespaceName name).any (·.deletionOutcome = .refused)) := by
  cases askable : isName name with
  | false => simp [refuses, delete, askable, DeletionOutcome.ofAnswer]
  | true =>
      rw [refuses, steady.delete_eq reachable askable]
      cases cluster.deletionFault? namespaceName name with
      | some fault => rfl
      | none =>
          cases cluster.find? name with
          | some pod => rfl
          | none => rfl

theorem IsSteady.delete_fst
    (steady : cluster.IsSteady namespaceName) (reachable : cluster.reachable) (name : String) :
    (cluster.delete namespaceName name).1 = cluster.afterDeletion namespaceName name := by
  have refused := steady.refuses_eq reachable name
  cases askable : isName name with
  | false =>
      rw [askable] at refused
      simp [afterDeletion, delete, askable, refused]
  | true =>
      rw [steady.delete_eq reachable askable, afterDeletion, refused]
      -- A pod that is not there is not missed.
      have absent : cluster.find? name = none →
          cluster.pods.filter (·.metadata.name ≠ some name) = cluster.pods := by
        intro notStored
        refine List.filter_eq_self.mpr fun pod member => ?_
        simpa using (find?_eq_none_iff name).mp notStored pod member
      cases answered : cluster.deletionFault? namespaceName name with
      | some fault =>
          by_cases refusing : fault.deletionOutcome = .refused
          · simp [askable, refusing, logDeletion]
          · have notStored := steady.honest name fault answered refusing
            simp only [askable, refusing, logDeletion, absent notStored, Option.any_some,
              Bool.not_true, decide_false, Bool.or_self, Bool.false_eq_true, if_false, if_true]
      | none =>
          cases stored : cluster.find? name with
          | some pod => simp [askable, logDeletion, remove]
          | none =>
              simp only [askable, logDeletion, absent stored, Option.any_none,
                Bool.not_true, Bool.or_self, Bool.false_eq_true, if_false, if_true]

theorem IsSteady.mono
    {other : Cluster} (steady : cluster.IsSteady namespaceName)
    (faults : other.deletionFaults = cluster.deletionFaults) (fewer : other.pods ⊆ cluster.pods) :
    other.IsSteady namespaceName := by
  constructor
  · rw [faults]
    exact steady.lasting
  · intro name fault answered reported
    rw [deletionFault?, faults] at answered
    have absent := steady.honest name fault answered reported
    rw [find?_eq_none_iff] at absent ⊢
    exact fun pod member => absent pod (fewer member)

/-- The deletions that a steady cluster refuses stay the same while its faults do. -/
theorem IsSteady.refuses_congr
    {other : Cluster} (steady : cluster.IsSteady namespaceName)
    (otherSteady : other.IsSteady namespaceName) (reachable : cluster.reachable)
    (otherReachable : other.reachable) (faults : other.deletionFaults = cluster.deletionFaults)
    (name : String) : other.refuses namespaceName name = cluster.refuses namespaceName name := by
  rw [steady.refuses_eq reachable, otherSteady.refuses_eq otherReachable, deletionFault?, faults]
  rfl

theorem afterDeletion_pods_sublist (name : String) :
    (cluster.afterDeletion namespaceName name).pods.Sublist cluster.pods := by
  rw [afterDeletion]
  split
  · exact List.Sublist.refl _
  · exact List.filter_sublist

/-! ## Lists -/

section Lists

variable (cluster : Cluster) (namespaceName : String) (request : Request) (selector : String)

/-- A request that is received is logged, and may use up a fault. -/
theorem receive_fst :
    (cluster.receive request).1 =
      { cluster with
        log := cluster.log ++ [request]
        faults := ((Fault.take? request cluster.faults).map (·.2)).getD cluster.faults } := by
  rw [receive]
  cases Fault.take? request cluster.faults with
  | none => rfl
  | some found => rfl

@[simp]
theorem receive_pods : (cluster.receive request).1.pods = cluster.pods := by
  rw [receive_fst]

@[simp]
theorem receive_reachable : (cluster.receive request).1.reachable = cluster.reachable := by
  rw [receive_fst]

@[simp]
theorem receive_log : (cluster.receive request).1.log = cluster.log ++ [request] := by
  rw [receive_fst]

theorem deletionFaults_receive (other : request.verb ≠ .delete) :
    (cluster.receive request).1.deletionFaults = cluster.deletionFaults := by
  rw [receive]
  cases taken : Fault.take? request cluster.faults with
  | none => rfl
  | some found => exact Fault.filter_verb_of_take? other taken

/-- A request that changes nothing is received, and that is all. -/
theorem answer_fst
    {α : Type} {usual : Cluster → Cluster × Except ApiError α} (value : Json → Option α)
    (keeps : ∀ received, (usual received).1 = received) :
    (cluster.answer request value usual).1 =
      if cluster.reachable then (cluster.receive request).1 else cluster := by
  rw [answer]
  split
  · cases cluster.receive request with
    | mk received fault =>
        cases fault with
        | none => exact keeps received
        | some fault => rfl
  · rfl

theorem list_fst :
    (cluster.list namespaceName selector).1 =
      if cluster.reachable then (cluster.receive (.list namespaceName selector)).1
      else cluster :=
  cluster.answer_fst _ _ fun _ => rfl

@[simp]
theorem list_pods : (cluster.list namespaceName selector).1.pods = cluster.pods := by
  rw [list_fst]
  split
  · exact receive_pods cluster _
  · rfl

@[simp]
theorem list_reachable :
    (cluster.list namespaceName selector).1.reachable = cluster.reachable := by
  rw [list_fst]
  split
  · exact receive_reachable cluster _
  · rfl

@[simp]
theorem list_deletionFaults :
    (cluster.list namespaceName selector).1.deletionFaults = cluster.deletionFaults := by
  rw [list_fst]
  split
  · exact deletionFaults_receive cluster _ (by simp [Request.verb])
  · rfl

theorem list_log :
    (cluster.list namespaceName selector).1.log =
      cluster.log ++ if cluster.reachable then [.list namespaceName selector] else [] := by
  rw [list_fst]
  split
  · exact receive_log cluster _
  · exact (List.append_nil _).symm

/-- Only a cluster within reach answers with a list. -/
theorem reachable_of_list
    {cluster : Cluster} {namespaceName selector : String} {pods : List Pod}
    (listed : (cluster.list namespaceName selector).2 = .ok pods) :
    cluster.reachable := by
  cases reachable : cluster.reachable with
  | true => rfl
  | false =>
      rw [list, answer, if_neg (by simp [reachable])] at listed
      cases listed

end Lists

end Cluster

/-! ## Clients -/

namespace Client

variable (client : Client) {world : World}

/-- A pod counts as gone unless its deletion is refused. -/
theorem delete_snd (world : World) (name : String) :
    (client.delete world name).2 = !world.cluster.refuses client.namespaceName name :=
  isGone_eq _

theorem delete_fst
    (steady : world.cluster.IsSteady client.namespaceName) (reachable : world.cluster.reachable)
    (name : String) :
    (client.delete world name).1 =
      { world with cluster := world.cluster.afterDeletion client.namespaceName name } := by
  rw [← steady.delete_fst reachable]
  rfl

end Client

end BrowserPods
