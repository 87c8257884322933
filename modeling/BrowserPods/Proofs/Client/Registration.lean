import BrowserPods.Client.Registration
import BrowserPods.Proofs.Client.Copying
import BrowserPods.Proofs.Client.Ownership
import BrowserPods.Proofs.Url.Host
import BrowserPods.Url.Reader

/-!
# Registration

A node registers by its address.  The client looks for it among the pods that carry its label, and
takes the first one with the address in the order of the list, whatever other pods have it
(`Client.register_identifies_node`).  Of several things that are wrong the first one is told:
address, list, pod and port.
-/

namespace BrowserPods

/-! ## Results -/

section Results

variable {α ε ε' : Type} {result : Except ε α} {f : ε → ε'}

theorem mapError_eq_ok_iff {value : α} : result.mapError f = .ok value ↔ result = .ok value := by
  cases result with
  | ok other => simp [Except.mapError]
  | error error => simp [Except.mapError]

theorem mapError_eq_error_iff {error : ε'} :
    result.mapError f = .error error ↔ ∃ cause, error = f cause ∧ result = .error cause := by
  cases result with
  | ok value => simp [Except.mapError]
  | error cause => simp [Except.mapError, eq_comm]

end Results

/-! ## Lists -/

/-- A fault that answers a request is one of the faults, and meant for it. -/
theorem Fault.mem_of_take?
    {request : Request} {faults others : List Fault} {fault : Fault}
    (taken : take? request faults = some (fault, others)) :
    fault ∈ faults ∧ fault.covers request := by
  induction faults generalizing others with
  | nil => cases taken
  | cons head rest inductionHypothesis =>
      rw [take?] at taken
      split at taken
      · rename_i covered
        cases taken
        exact ⟨List.mem_cons_self, covered⟩
      · obtain ⟨⟨found, later⟩, inRest, same⟩ := Option.map_eq_some_iff.mp taken
        cases same
        obtain ⟨member, covered⟩ := inductionHypothesis inRest
        exact ⟨List.mem_cons_of_mem _ member, covered⟩

namespace Cluster

/-- Whether a cluster that answers with a list answers with the pods that were asked for. -/
def ListsBySelector (cluster : Cluster) (namespaceName : String) : Prop :=
  ∀ selector pods, (cluster.list namespaceName selector).2 = .ok pods →
    pods = cluster.selected selector

/-- A cluster whose faults are errors lists what it is asked for. -/
theorem listsBySelector_of_faults
    {cluster : Cluster} (namespaceName : String)
    (errors : ∀ fault ∈ cluster.faults, fault.verb = .list → 400 ≤ fault.code) :
    cluster.ListsBySelector namespaceName := by
  intro selector pods listed
  rw [list, answer] at listed
  split at listed
  · cases taken : Fault.take? (.list namespaceName selector) cluster.faults with
    | none =>
        rw [receive, taken] at listed
        cases listed
        rfl
    | some found =>
        obtain ⟨fault, others⟩ := found
        obtain ⟨member, covered⟩ := Fault.mem_of_take? taken
        have code := errors fault member (Fault.verb_of_covers covered)
        rw [receive, taken] at listed
        simp [ApiError.readAnswer, code] at listed
  · cases listed

end Cluster

/-! ## The pod of a node -/

namespace Pod

variable {pod : Pod} {pods : List Pod} {ip : String} {cause : FailureCause}
  {registration : Registration}

/-- The port for the live preview that a pod offers by its first container, if any. -/
inductive Offers (pod : Pod) : Option UInt16 → Prop
  | nothing (unset : pod.literalEnv? "NOVNC_PORT" = none) : Offers pod none
  | port {value : String} {port : UInt16} (set : pod.literalEnv? "NOVNC_PORT" = some value)
      (isPort : readPort? value = some port) : Offers pod (some port)

theorem offers_iff_of_unset
    (unset : pod.literalEnv? previewPortVariable = none) {port : Option UInt16} :
    pod.Offers port ↔ port = none := by
  constructor
  · intro offers
    cases offers with
    | nothing => rfl
    | port set => cases unset.symm.trans set
  · rintro rfl
    exact .nothing unset

theorem offers_iff_of_set
    {value : String} (set : pod.literalEnv? previewPortVariable = some value)
    {port : Option UInt16} :
    pod.Offers port ↔ ∃ number, readPort? value = some number ∧ port = some number := by
  constructor
  · intro offers
    cases offers with
    | nothing unset => cases set.symm.trans unset
    | port otherSet isPort =>
        cases set.symm.trans otherSet
        exact ⟨_, isPort, rfl⟩
  · rintro ⟨number, isPort, rfl⟩
    exact .port set isPort

theorem registration_eq_ok_iff :
    pod.registration = .ok registration ↔
      ∃ port, pod.Offers port ∧
        registration =
          { containerId := pod.name, ipAddress := pod.ip?.getD "", noVncPort := port } := by
  rw [Pod.registration]
  cases set : pod.literalEnv? previewPortVariable with
  | none => simp [offers_iff_of_unset set, eq_comm]
  | some value =>
      cases isPort : readPort? value with
      | none => simp [offers_iff_of_set set, isPort]
      | some number => simp [offers_iff_of_set set, isPort, eq_comm]

theorem registration_eq_error_iff :
    pod.registration = .error cause ↔
      ∃ value, pod.literalEnv? "NOVNC_PORT" = some value ∧ readPort? value = none ∧
        cause = .previewPortUnusable value pod.name := by
  rw [Pod.registration]
  change _ ↔ ∃ value, pod.literalEnv? previewPortVariable = some value ∧ _
  cases set : pod.literalEnv? previewPortVariable with
  | none => simp
  | some value =>
      cases isPort : readPort? value with
      | none => simp [isPort, eq_comm]
      | some port => simp [isPort]

theorem registrationOf_eq_ok_iff :
    Client.registrationOf pods ip = .ok registration ↔
      ∃ pod port, findByIp? pods ip = some pod ∧ pod.Offers port ∧
        registration = { containerId := pod.name, ipAddress := ip, noVncPort := port } := by
  rw [Client.registrationOf]
  cases found : findByIp? pods ip with
  | none => simp
  | some pod =>
      have address : pod.ip? = some ip := by simpa using List.find?_some found
      simp only [registration_eq_ok_iff, address, Option.getD_some, Option.some.injEq]
      constructor
      · rintro ⟨port, offers, shape⟩
        exact ⟨pod, port, rfl, offers, shape⟩
      · rintro ⟨_, port, rfl, offers, shape⟩
        exact ⟨port, offers, shape⟩

theorem registrationOf_eq_error_iff :
    Client.registrationOf pods ip = .error cause ↔
      (findByIp? pods ip = none ∧ cause = .nodeUnknown ip) ∨
      ∃ pod value, findByIp? pods ip = some pod ∧ pod.literalEnv? "NOVNC_PORT" = some value ∧
        readPort? value = none ∧ cause = .previewPortUnusable value pod.name := by
  rw [Client.registrationOf]
  cases found : findByIp? pods ip with
  | none => simp [eq_comm]
  | some pod => simp [registration_eq_error_iff]

end Pod

namespace Client

/-- Whether a pod is the first one with an address among those with the label of the client's
application. -/
structure IsNode (client : Client) (pods : List Pod) (ip : String) (pod : Pod) : Prop where
  first : ∃ earlier later, pods = earlier ++ pod :: later ∧
    ∀ other ∈ earlier, other.label? "createdBy" = some client.config.appName →
      other.ip? ≠ some ip
  labelled : pod.label? "createdBy" = some client.config.appName
  address : pod.ip? = some ip

/-- Why a client cannot register a node.  Each reason excludes those before it. -/
inductive CannotRegister (client : Client) (world : World) (url : Url) : FailureCause → Prop
  | hostless (hostless : url.host? = none) :
      CannotRegister client world url (.hostMissing url.write)
  | unlisted {host : Host} {error : ApiError} (hosted : url.host? = some host)
      (unlisted : (world.cluster.list client.namespaceName
        ("createdBy=" ++ client.config.appName)).2 = .error error) :
      CannotRegister client world url (.podsUnlisted ("createdBy=" ++ client.config.appName))
  | unknown {host : Host} {pods : List Pod} (hosted : url.host? = some host)
      (listed : (world.cluster.list client.namespaceName
        ("createdBy=" ++ client.config.appName)).2 = .ok pods)
      (unknown : ∀ pod ∈ world.cluster.pods,
        pod.label? "createdBy" = some client.config.appName → pod.ip? ≠ some host.name) :
      CannotRegister client world url (.nodeUnknown host.name)
  | portless {host : Host} {pods : List Pod} {pod : Pod} {value : String}
      (hosted : url.host? = some host)
      (listed : (world.cluster.list client.namespaceName
        ("createdBy=" ++ client.config.appName)).2 = .ok pods)
      (node : client.IsNode world.cluster.pods host.name pod)
      (set : pod.literalEnv? "NOVNC_PORT" = some value) (unusable : readPort? value = none) :
      CannotRegister client world url (.previewPortUnusable value pod.name)

variable {client : Client} {world : World} {pods : List Pod} {ip : String}

theorem marks_iff {pod : Pod} :
    client.marks pod ↔ pod.label? "createdBy" = some client.config.appName :=
  decide_eq_true_iff

theorem findByIp?_filter_eq_some_iff {pod : Pod} :
    Pod.findByIp? (pods.filter client.marks) ip = some pod ↔ client.IsNode pods ip pod := by
  rw [Pod.findByIp?, List.find?_filter, List.find?_eq_some_iff_append]
  simp only [marks_iff, decide_eq_true_eq, Bool.not_eq_true', decide_eq_false_iff_not, not_and]
  constructor
  · rintro ⟨⟨labelled, address⟩, earlier, later, shape, others⟩
    exact ⟨⟨earlier, later, shape, others⟩, labelled, address⟩
  · rintro ⟨⟨earlier, later, shape, others⟩, labelled, address⟩
    exact ⟨⟨labelled, address⟩, earlier, later, shape, others⟩

theorem findByIp?_filter_eq_none_iff :
    Pod.findByIp? (pods.filter client.marks) ip = none ↔
      ∀ pod ∈ pods, pod.label? "createdBy" = some client.config.appName → pod.ip? ≠ some ip := by
  simp [Pod.findByIp?, List.find?_eq_none, marks_iff]

theorem register_fst (client : Client) (world : World) (url : Url) :
    (client.register world url).1 =
      if url.host?.isSome then
        { world with
          cluster := (world.cluster.list client.namespaceName client.config.markSelector).1 }
      else world := by
  rw [register, remoteHost]
  cases url.host? with
  | none => rfl
  | some host =>
      rw [← client.listOwn_fst world]
      cases client.listOwn world with
      | mk next listed =>
          cases listed with
          | ok pods => rfl
          | error failure => rfl

section Hosted

variable {url : Url} {host : Host} (hosted : url.host? = some host)
include hosted

theorem register_of_listed
    (listed : (world.cluster.list client.namespaceName client.config.markSelector).2 = .ok pods) :
    (client.register world url).2 =
      (registrationOf pods host.name).mapError fun cause => { cause } := by
  simp only [register, remoteHost, hosted, listOwn, ask_eq, listed]

theorem register_of_unlisted
    {error : ApiError}
    (unlisted :
      (world.cluster.list client.namespaceName client.config.markSelector).2 = .error error) :
    (client.register world url).2 =
      .error { cause := .podsUnlisted client.config.markSelector } := by
  simp only [register, remoteHost, hosted, listOwn, ask_eq, unlisted]

end Hosted

theorem register_of_hostless {url : Url} (hostless : url.host? = none) :
    (client.register world url).2 = .error { cause := .hostMissing url.write } := by
  simp only [register, remoteHost, hostless]

section Listing

variable {url : Url} (bySelector : world.cluster.ListsBySelector client.namespaceName)
include bySelector

/-- What a client finds out from a list is what the pods with its label say. -/
theorem register_of_marked
    {host : Host} (hosted : url.host? = some host)
    (listed : (world.cluster.list client.namespaceName client.config.markSelector).2 = .ok pods) :
    (client.register world url).2 =
      (registrationOf (world.cluster.pods.filter client.marks) host.name).mapError
        fun cause => { cause } := by
  rw [register_of_listed hosted listed, bySelector _ _ listed, selected_markSelector]

theorem register_eq_ok_iff {registration : Registration} :
    (client.register world url).2 = .ok registration ↔
      ∃ host pods pod port, url.host? = some host ∧
        (world.cluster.list client.namespaceName client.config.markSelector).2 = .ok pods ∧
        client.IsNode world.cluster.pods host.name pod ∧ pod.Offers port ∧
        registration =
          { containerId := pod.name, ipAddress := host.name, noVncPort := port } := by
  cases hosted : url.host? with
  | none => simp [register_of_hostless hosted]
  | some host =>
      cases listed : (world.cluster.list client.namespaceName client.config.markSelector).2 with
      | error error => simp [register_of_unlisted hosted listed]
      | ok pods =>
          rw [register_of_marked bySelector hosted listed, mapError_eq_ok_iff,
            Pod.registrationOf_eq_ok_iff]
          simp only [findByIp?_filter_eq_some_iff]
          constructor
          · rintro ⟨pod, port, node, offers, shape⟩
            exact ⟨host, pods, pod, port, rfl, rfl, node, offers, shape⟩
          · rintro ⟨_, _, pod, port, ⟨⟩, _, node, offers, shape⟩
            exact ⟨pod, port, node, offers, shape⟩

theorem register_eq_error_iff {failure : Failure} :
    (client.register world url).2 = .error failure ↔
      ∃ cause, failure = { cause } ∧ client.CannotRegister world url cause := by
  cases hosted : url.host? with
  | none =>
      rw [register_of_hostless hosted]
      constructor
      · rintro ⟨⟩
        exact ⟨_, rfl, .hostless hosted⟩
      · rintro ⟨_, rfl, cannot⟩
        cases cannot with
        | hostless => rfl
        | unlisted otherHost | unknown otherHost | portless otherHost =>
            cases hosted.symm.trans otherHost
  | some host =>
      cases listed : (world.cluster.list client.namespaceName client.config.markSelector).2 with
      | error error =>
          rw [register_of_unlisted hosted listed]
          constructor
          · rintro ⟨⟩
            exact ⟨_, rfl, .unlisted hosted listed⟩
          · rintro ⟨_, rfl, cannot⟩
            cases cannot with
            | hostless hostless => cases hosted.symm.trans hostless
            | unlisted => rfl
            | unknown _ otherList | portless _ otherList => cases listed.symm.trans otherList
      | ok pods =>
          rw [register_of_marked bySelector hosted listed, mapError_eq_error_iff]
          simp only [Pod.registrationOf_eq_error_iff, findByIp?_filter_eq_some_iff,
            findByIp?_filter_eq_none_iff]
          constructor
          · rintro ⟨_, rfl, ⟨unknown, rfl⟩ | ⟨pod, value, node, set, unusable, rfl⟩⟩
            · exact ⟨_, rfl, .unknown hosted listed unknown⟩
            · exact ⟨_, rfl, .portless hosted listed node set unusable⟩
          · rintro ⟨cause, rfl, cannot⟩
            refine ⟨cause, rfl, ?_⟩
            cases cannot with
            | hostless hostless => cases hosted.symm.trans hostless
            | unlisted _ unlisted => cases listed.symm.trans unlisted
            | unknown otherHost _ unknown =>
                cases hosted.symm.trans otherHost
                exact .inl ⟨unknown, rfl⟩
            | portless otherHost _ node set unusable =>
                cases hosted.symm.trans otherHost
                exact .inr ⟨_, _, node, set, unusable, rfl⟩

end Listing

/-- A client tells of a node exactly what the first pod says that has its label and the node's
address, or else the first thing that is wrong.  Only for a node with a host it sends a request, and
that is one list.  The address is the host without the brackets that it may have in the URL, but one
that stands for an address of version 4 ends in that. -/
theorem register_identifies_node
    (client : Client) {world : World}
    (bySelector : world.cluster.ListsBySelector client.namespaceName) (url : Url) :
    let selector := "createdBy=" ++ client.config.appName
    let answered := world.cluster.list client.namespaceName selector
    (client.register world url).1 =
        (if url.host?.isSome then { world with cluster := answered.1 } else world) ∧
      answered.1.log =
        world.cluster.log ++
          (if world.cluster.reachable then [.list client.namespaceName selector] else []) ∧
      (∀ registration, (client.register world url).2 = .ok registration ↔
        ∃ host pods pod port, url.host? = some host ∧ answered.2 = .ok pods ∧
          client.IsNode world.cluster.pods host.name pod ∧ pod.Offers port ∧
          registration =
            { containerId := pod.name, ipAddress := host.name, noVncPort := port }) ∧
      (∀ failure, (client.register world url).2 = .error failure ↔
        ∃ cause, failure = { cause } ∧ client.CannotRegister world url cause) ∧
      (∀ host : Host,
        host.write = (if host matches .ipv6 _ then "[" ++ host.name ++ "]" else host.name) ↔
          ∀ mapped, host ≠ .ipv6 (.ofIpv4 mapped)) ∧
      ∀ mapped, (Host.ipv6 (.ofIpv4 mapped)).name = "::ffff:" ++ mapped.write := by
  intro selector answered
  refine ⟨client.register_fst world url, Cluster.list_log _ _ _, ?_, ?_, Host.write_eq_iff,
    Host.name_of_mapped⟩
  · intro registration
    exact register_eq_ok_iff bySelector
  · intro failure
    exact register_eq_error_iff bySelector

/-! ### A node behind two other pods -/

def nodePod (name appName ip : String) : Pod :=
  { Pod.marked (some name) appName with
    spec := some
      { containers := [{ name := "browser", env := some [⟨"NOVNC_PORT", some "6080", none⟩] }] }
    status := some { podIP := some ip } }

/-- The first pod has the node's address but another label, the second one the label but another
address. -/
def nodesWorld : World :=
  { emptyWorld with
    cluster :=
      { pods :=
          [nodePod "a" "other" "10.0.0.2", nodePod "b" "grid" "10.0.0.3",
            nodePod "c" "grid" "10.0.0.2"] } }

def nodeUrl : Url :=
  { scheme := "http", authority := some { host := some (.ipv4 ⟨0x0a000002⟩), port := some 5555 }
    path := "/" }

theorem registers_third_pod :
    nodesWorld.cluster.ListsBySelector gridClient.namespaceName ∧
      nodeUrl.write = "http://10.0.0.2:5555/" ∧
      (gridClient.register nodesWorld nodeUrl).2 =
        .ok { containerId := "c", ipAddress := "10.0.0.2", noVncPort := some 6080 } := by
  have bySelector : nodesWorld.cluster.ListsBySelector gridClient.namespaceName :=
    Cluster.listsBySelector_of_faults _ (by simp [nodesWorld])
  have node : gridClient.IsNode nodesWorld.cluster.pods "10.0.0.2"
      (nodePod "c" "grid" "10.0.0.2") := by
    constructor
    case first =>
      refine ⟨[nodePod "a" "other" "10.0.0.2", nodePod "b" "grid" "10.0.0.3"], [], rfl, ?_⟩
      decide
    case labelled => decide
    case address => rfl
  obtain ⟨_, _, registered, _⟩ := register_identifies_node gridClient bySelector nodeUrl
  refine ⟨bySelector, by decide, (registered _).mpr ?_⟩
  exact ⟨.ipv4 ⟨0x0a000002⟩, _, _, some 6080, rfl, rfl, node, .port rfl (by decide), by decide⟩

/-- A node is not found under the text that its address has in the URL if that is hexadecimal
throughout and stands for an address of version 4. -/
theorem mapped_address_is_unknown :
    let pod := nodePod "c" "grid" "::ffff:a00:2"
    let world : World := { emptyWorld with cluster := { pods := [pod] } }
    let url : Url :=
      { scheme := "http", authority := some { host := some (.ipv6 (.ofIpv4 ⟨0x0a000002⟩)) }
        path := "/" }
    Url.read "http://[::ffff:a00:2]/" = .ok url ∧ url.write = "http://[::ffff:a00:2]/" ∧
      gridClient.IsNode world.cluster.pods "::ffff:a00:2" pod ∧ pod.Offers (some 6080) ∧
      (gridClient.register world url).2 =
        .error { cause := .nodeUnknown "::ffff:10.0.0.2" } := by
  intro pod world url
  refine ⟨by decide +kernel, by decide +kernel, ?_, .port rfl (by decide), by decide +kernel⟩
  constructor
  case first => exact ⟨[], [], rfl, by simp⟩
  case labelled => decide
  case address => rfl

end Client

end BrowserPods
