import BrowserPods.Cluster.Deletion
import BrowserPods.Cluster.Error
import BrowserPods.Exec.Frames
import BrowserPods.Pod.Basic

/-!
The cluster as its clients see it: pods with names, requests about them and answers.  A request can
be answered by a fault instead, and a cluster may be out of reach.  The log holds every request that
reached the cluster, in order.
-/

namespace BrowserPods

inductive Verb where
  | get
  | delete
  | list
  | create
  | exec
deriving DecidableEq, Repr

inductive Request where
  | get (namespaceName name : String)
  | delete (namespaceName name : String)
  | list (namespaceName selector : String)
  | create (namespaceName : String) (body : Pod)
  | exec (namespaceName name : String) (command streams : List String)
deriving Repr

namespace Request

def verb : Request → Verb
  | .get _ _ => .get
  | .delete _ _ => .delete
  | .list _ _ => .list
  | .create _ _ => .create
  | .exec _ _ _ _ => .exec

def name : Request → String
  | .get _ name => name
  | .delete _ name => name
  | .exec _ name _ _ => name
  | _ => ""

end Request

/-- An answer that the cluster gives in place of the usual one. -/
structure Fault where
  verb : Verb
  /-- The name that requests must have; without one, any. -/
  name : Option String := none
  code : Nat
  body : String
  /-- How often the fault still occurs; without a number, always. -/
  uses : Option Nat := none
deriving DecidableEq, Repr

namespace Fault

def covers (fault : Fault) (request : Request) : Bool :=
  fault.verb == request.verb && fault.name.all (· == request.name) && fault.uses != some 0

/-- The body of a fault that states a reason and nothing else. -/
def bodyOf (code : Nat) (reason : String) : String :=
  (Json.object [("kind", .string "Status"), ("apiVersion", .string "v1"),
    ("status", .string "Failure"), ("message", .string ""), ("reason", .string reason),
    ("code", .nat code)]).write

/-- The first fault that answers a request, with the faults after it. -/
def take? (request : Request) : List Fault → Option (Fault × List Fault)
  | [] => none
  | fault :: rest =>
    if fault.covers request then
      some (fault, { fault with uses := fault.uses.map (· - 1) } :: rest)
    else (take? request rest).map fun (found, others) => (found, fault :: others)

end Fault

/-- The name that is chosen for a pod unless a cluster has its own way: the beginning that the pod
asks for and the number of the creation. -/
def numberedName (start : String) (count : Nat) : String := start ++ "p" ++ toString count

structure Cluster where
  pods : List Pod := []
  faults : List Fault := []
  /-- What the next channels to commands play. -/
  scripts : List (List Frame) := []
  /-- How many pods have been created. -/
  created : Nat := 0
  /-- How names are chosen, from the beginning that a pod asks for and the count of creations. -/
  chooseName : String → Nat → String := numberedName
  /-- Whether answers to creations leave out the name. -/
  omitsName : Bool := false
  reachable : Bool := true
  log : List Request := []

namespace Cluster

def find? (cluster : Cluster) (name : String) : Option Pod :=
  cluster.pods.find? (·.metadata.name = some name)

def store (cluster : Cluster) (pod : Pod) : Cluster :=
  if cluster.pods.any (·.name = pod.name) then
    { cluster with
      pods := cluster.pods.map fun other => if other.name = pod.name then pod else other }
  else { cluster with pods := cluster.pods ++ [pod] }

def remove (cluster : Cluster) (name : String) : Cluster :=
  { cluster with pods := cluster.pods.filter (·.metadata.name ≠ some name) }

/-- The label and the value of a selector: what is before and what is behind its first equals
sign. -/
def splitSelector (selector : String) : String × String :=
  (String.ofList (selector.toList.takeWhile (· ≠ '=')),
    String.ofList ((selector.toList.dropWhile (· ≠ '=')).drop 1))

def selected (cluster : Cluster) (selector : String) : List Pod :=
  let (key, value) := splitSelector selector
  cluster.pods.filter (·.label? key = some value)

def isName (name : String) : Bool := name ≠ ""

def receive (cluster : Cluster) (request : Request) : Cluster × Option Fault :=
  let logged := { cluster with log := cluster.log ++ [request] }
  match Fault.take? request cluster.faults with
  | some (fault, faults) => ({ logged with faults }, some fault)
  | none => (logged, none)

def notFound {α : Type} : Except ApiError α :=
  .error (.refused ApiError.notFoundCode ApiError.notFoundReason)

/-- Answers a request, by a fault if one covers it. -/
def answer {α : Type} (cluster : Cluster) (request : Request) (value : Json → Option α)
    (usual : Cluster → Cluster × Except ApiError α) : Cluster × Except ApiError α :=
  if cluster.reachable then
    match cluster.receive request with
    | (received, some fault) => (received, ApiError.readAnswer value fault.code fault.body)
    | (received, none) => usual received
  else (cluster, .error .unusable)

/-! ## Requests -/

def get (cluster : Cluster) (namespaceName name : String) : Cluster × Except ApiError Pod :=
  if isName name then
    cluster.answer (.get namespaceName name) Pod.ofJson? fun received =>
      match received.find? name with
      | some pod => (received, .ok pod)
      | none => (received, notFound)
  else (cluster, .error .unusable)

def delete (cluster : Cluster) (namespaceName name : String) : Cluster × Except ApiError Unit :=
  if isName name then
    cluster.answer (.delete namespaceName name) Deletion.ofJson? fun received =>
      match received.find? name with
      | some _ => (received.remove name, .ok ())
      | none => (received, notFound)
  else (cluster, .error .unusable)

def listOfJson? (json : Json) : Option (List Pod) := do
  let fields ← Json.Record.fields? ["metadata", "items"] 2 json
  let _ ← Json.Record.field? fields "metadata" Schema.listMetadata.conform? (some .null)
  Json.Record.field? fields "items" (Json.list? Pod.ofJson?) none

def list (cluster : Cluster) (namespaceName selector : String) :
    Cluster × Except ApiError (List Pod) :=
  cluster.answer (.list namespaceName selector) listOfJson? fun received =>
    (received, .ok (received.selected selector))

/-- The pod that a creation stores: the submitted one with the name that the cluster chooses. -/
def named (cluster : Cluster) (pod : Pod) (count : Nat) : Pod :=
  let chosen := cluster.chooseName (pod.metadata.generateName.getD "") count
  { pod with metadata := { pod.metadata with name := some chosen } }

def create (cluster : Cluster) (namespaceName : String) (body : Pod) :
    Cluster × Except ApiError Pod :=
  cluster.answer (.create namespaceName body) Pod.ofJson? fun received =>
    let count := received.created + 1
    let stored := received.named body count
    let shown := if received.omitsName then body else stored
    ({ received with pods := received.pods ++ [stored], created := count }, .ok shown)

def wantedStreams : List String := ["stdout", "stderr"]

/-- What a channel plays unless it is told otherwise. -/
def defaultScript : List Frame := [.status (some { status := some "Success" })]

/-- Asks to run a command in the container of a pod, with the frames that its channel plays.  The
next script is used up even if there is no channel.  An empty name is asked for like any other. -/
def exec (cluster : Cluster) (namespaceName name : String) (command : List String) :
    Cluster × Except ApiError (List Frame) :=
  if cluster.reachable then
    let (received, fault) := cluster.receive (.exec namespaceName name command wantedStreams)
    let script := received.scripts.head?.getD defaultScript
    let next := { received with scripts := received.scripts.drop 1 }
    match fault with
    | some fault => (next, .error (ApiError.ofAnswer fault.code fault.body))
    | none => if (next.find? name).isSome then (next, .ok script) else (next, notFound)
  else (cluster, .error .unusable)

end Cluster

end BrowserPods
