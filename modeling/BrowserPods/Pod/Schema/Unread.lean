import BrowserPods.Pod.Schema

/-!
Parts of a pod that nothing reads.  They are checked all the same: a pod with a part of another
shape cannot be read.
-/

namespace BrowserPods.Schema

/-! ## Containers -/

def execAction : Schema := .record [optional "command" texts]

def httpGetAction : Schema :=
  .record [optional "host" .text,
    optional "httpHeaders" (.list (.record [required "name" .text, required "value" .text])),
    optional "path" .text, required "port" .int32OrText, optional "scheme" .text]

def tcpSocketAction : Schema := .record [optional "host" .text, required "port" .int32OrText]

/-- A check that is made from time to time. -/
def probe : Schema :=
  .record [optional "exec" execAction, optional "failureThreshold" .int32,
    optional "grpc" (.record [required "port" .int32, optional "service" .text]),
    optional "httpGet" httpGetAction, optional "initialDelaySeconds" .int32,
    optional "periodSeconds" .int32, optional "successThreshold" .int32,
    optional "tcpSocket" tcpSocketAction, optional "terminationGracePeriodSeconds" .int64,
    optional "timeoutSeconds" .int32]

/-- What is done when a container starts or ends. -/
def lifecycleHandler : Schema :=
  .record [optional "exec" execAction, optional "httpGet" httpGetAction,
    optional "tcpSocket" tcpSocketAction]

/-- An object whose entries become environment variables. -/
def envSource : Schema := .record [optional "name" .text, optional "optional" .flag]

def containerFields : List (String × Schema) :=
  [("args", texts), ("command", texts),
    ("envFrom", .list (.record [optional "configMapRef" envSource, optional "prefix" .text,
      optional "secretRef" envSource])),
    ("lifecycle", .record [optional "postStart" lifecycleHandler,
      optional "preStop" lifecycleHandler]),
    ("livenessProbe", probe),
    ("ports", .list (.record [required "containerPort" .int32, optional "hostIP" .text,
      optional "hostPort" .int32, optional "name" .text, optional "protocol" .text])),
    ("readinessProbe", probe),
    ("resizePolicy", .list (.record [required "resourceName" .text,
      required "restartPolicy" .text])),
    ("restartPolicy", .text), ("startupProbe", probe), ("stdin", .flag), ("stdinOnce", .flag),
    ("terminationMessagePath", .text), ("terminationMessagePolicy", .text), ("tty", .flag),
    ("volumeDevices", .list (.record [required "devicePath" .text, required "name" .text])),
    ("workingDir", .text)]

/-! ## Placement -/

def nodeSelectorTerm : Schema :=
  let requirements := Schema.list (.record [required "key" .text, required "operator" .text,
    optional "values" texts])
  .record [optional "matchExpressions" requirements, optional "matchFields" requirements]

def podAffinityTerm : Schema :=
  .record [optional "labelSelector" labelSelector, optional "namespaceSelector" labelSelector,
    optional "namespaces" texts, required "topologyKey" .text]

/-- Pods that a pod wants to be near to, or far from. -/
def podAffinity : Schema :=
  .record [
    optional "preferredDuringSchedulingIgnoredDuringExecution" (.list (.record [
      required "podAffinityTerm" podAffinityTerm, required "weight" .int32])),
    optional "requiredDuringSchedulingIgnoredDuringExecution" (.list podAffinityTerm)]

def affinity : Schema :=
  .record [
    optional "nodeAffinity" (.record [
      optional "preferredDuringSchedulingIgnoredDuringExecution" (.list (.record [
        required "preference" nodeSelectorTerm, required "weight" .int32])),
      optional "requiredDuringSchedulingIgnoredDuringExecution" (.record [
        required "nodeSelectorTerms" (.list nodeSelectorTerm)])]),
    optional "podAffinity" podAffinity, optional "podAntiAffinity" podAffinity]

def topologySpread : Schema :=
  .record [optional "labelSelector" labelSelector, optional "matchLabelKeys" texts,
    required "maxSkew" .int32, optional "minDomains" .int32, optional "nodeAffinityPolicy" .text,
    optional "nodeTaintsPolicy" .text, required "topologyKey" .text,
    required "whenUnsatisfiable" .text]

/-! ## Specification -/

def dnsConfig : Schema :=
  .record [optional "nameservers" texts,
    optional "options" (.list (.record [optional "name" .text, optional "value" .text])),
    optional "searches" texts]

def podSpecFields : List (String × Schema) :=
  [("activeDeadlineSeconds", .int64), ("affinity", affinity),
    ("automountServiceAccountToken", .flag), ("dnsConfig", dnsConfig), ("dnsPolicy", .text),
    ("enableServiceLinks", .flag), ("hostIPC", .flag), ("hostNetwork", .flag),
    ("hostPID", .flag), ("hostUsers", .flag), ("hostname", .text), ("nodeName", .text),
    ("os", .record [required "name" .text]), ("overhead", .dict .text),
    ("preemptionPolicy", .text), ("priority", .int32), ("priorityClassName", .text),
    ("readinessGates", .list (.record [required "conditionType" .text])),
    ("resourceClaims", .list (.record [required "name" .text,
      optional "source" (.record [optional "resourceClaimName" .text,
        optional "resourceClaimTemplateName" .text])])),
    ("runtimeClassName", .text), ("schedulingGates", .list (.record [required "name" .text])),
    ("serviceAccount", .text), ("serviceAccountName", .text), ("setHostnameAsFQDN", .flag),
    ("shareProcessNamespace", .flag), ("subdomain", .text),
    ("terminationGracePeriodSeconds", .int64),
    ("topologySpreadConstraints", .list topologySpread)]

/-! ## Status -/

/-- The states of a container that has not ended. -/
def otherStates : List (String × Schema) :=
  [("running", .record [optional "startedAt" .time]),
    ("waiting", .record [optional "message" .text, optional "reason" .text])]

def containerState : Schema :=
  .record (optional "terminated" terminated
    :: otherStates.map fun (name, schema) => optional name schema)

/-- The fields of a container's status besides its state. -/
def containerStatusFields : List (String × Schema) :=
  [("allocatedResources", .dict .text), ("containerID", .text), ("image", .text),
    ("imageID", .text), ("lastState", containerState), ("name", .text), ("ready", .flag),
    ("resources", resources), ("restartCount", .int32), ("started", .flag)]

def podStatusFields : List (String × Schema) :=
  let statuses := Schema.list (.record (optional "state" containerState
    :: containerStatusFields.map fun (name, schema) => optional name schema))
  let addresses := Schema.list (.record [optional "ip" .text])
  [("ephemeralContainerStatuses", statuses), ("hostIP", .text), ("hostIPs", addresses),
    ("initContainerStatuses", statuses), ("message", .text), ("nominatedNodeName", .text),
    ("phase", .text), ("podIPs", addresses), ("qosClass", .text), ("reason", .text),
    ("resize", .text),
    ("resourceClaimStatuses", .list (.record [required "name" .text,
      optional "resourceClaimName" .text])),
    ("startTime", .time)]

/-- The fields of a condition besides its type and status. -/
def conditionFields : List (String × Schema) :=
  [("lastProbeTime", .time), ("lastTransitionTime", .time), ("message", .text), ("reason", .text)]

end BrowserPods.Schema
