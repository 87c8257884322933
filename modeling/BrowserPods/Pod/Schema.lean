import BrowserPods.Json.Fields
import BrowserPods.Pod.Timestamp

/-!
Schemas of values of the cluster's API that are handed on, or checked, without being looked into.  A
value that conforms to a schema is brought into a normal form (`Schema.conform?`): fields that the
schema does not name and fields that are `null` are dropped, and a required field that is left out
takes the zero of its schema.
-/

namespace BrowserPods

/-- The shape of a JSON value of the cluster's API. -/
inductive Schema where
  | text
  /-- A point in time, as a text. -/
  | time
  | flag
  | int32
  | int64
  /-- A number of 32 bits or a text. -/
  | int32OrText
  /-- A value of any shape. -/
  | any
  | list (item : Schema)
  | dict (value : Schema)
  /-- An object; the truth value says whether the field is required. -/
  | record (fields : List (String × Bool × Schema))

namespace Schema

mutual

/-- The value of a required field that is left out. -/
def zero : Schema → Json
  | .text => .string ""
  | .time => .string ""
  | .flag => .bool false
  | .int32 => .int 0
  | .int64 => .int 0
  | .int32OrText => .int 0
  | .any => .null
  | .list _ => .array []
  | .dict _ => .object []
  | .record fields => .object (zeroFields fields)

def zeroFields : List (String × Bool × Schema) → List (String × Json)
  | [] => []
  | (name, required, schema) :: rest =>
    if required then (name, zero schema) :: zeroFields rest else zeroFields rest

end

mutual

/-- The normal form of a value that conforms to a schema. -/
def conform? : Schema → Json → Option Json
  | .text, value => value.text?.map .string
  | .time, value => (value.text?.bind Timestamp.read?).map fun time => .string time.write
  | .flag, value => value.bool?.map .bool
  | .int32, value => value.int32?.map .int
  | .int64, value => value.int64?.map .int
  | .int32OrText, value => (value.int32?.map .int).or (value.text?.map .string)
  | .any, value => value.plain?
  | .list item, value => (value.list? (conform? item)).map .array
  | .dict item, value => (value.dict? (conform? item)).map fun d => .object d.entries
  | .record fields, value =>
    value.fields?.bind fun given => (conformFields? fields given).map .object

def conformFields? : List (String × Bool × Schema) → List (String × Json) →
    Option (List (String × Json))
  | [], _ => some []
  | (name, required, schema) :: rest, given =>
    (Json.apiField? given name (conform? schema)).bind fun own =>
      (conformFields? rest given).map fun read =>
        match own with
        | some value => (name, value) :: read
        | none => if required then (name, zero schema) :: read else read

end

/-- Whether the fields that a list of schemas names conform to it. -/
def admits (fields : List (String × Schema)) (given : List (String × Json)) : Bool :=
  fields.all fun (name, schema) => (Json.apiField? given name (conform? schema)).isSome

/-! ## Building blocks -/

/-- A field that may be left out. -/
def optional (name : String) (schema : Schema) : String × Bool × Schema := (name, false, schema)

/-- A field that takes its zero when it is left out. -/
def required (name : String) (schema : Schema) : String × Bool × Schema := (name, true, schema)

def texts : Schema := .list .text

/-- The name of an object in the same namespace. -/
def localReference : Schema := .record [optional "name" .text]

/-- A field of the pod that a value is taken from. -/
def fieldSelector : Schema :=
  .record [optional "apiVersion" .text, required "fieldPath" .text]

/-- An amount of a container that a value is taken from. -/
def resourceSelector : Schema :=
  .record [optional "containerName" .text, optional "divisor" .text, required "resource" .text]

/-- Labels that objects are selected by. -/
def labelSelector : Schema :=
  .record [
    optional "matchExpressions" (.list (.record [required "key" .text, required "operator" .text,
      optional "values" texts])),
    optional "matchLabels" (.dict .text)]

/-- Claims for devices of a node, by name. -/
def resourceClaims : Schema := .list (.record [required "name" .text])

def resources : Schema :=
  .record [optional "claims" resourceClaims, optional "limits" (.dict .text),
    optional "requests" (.dict .text)]

/-! ## Metadata -/

/-- Who has changed which fields of an object. -/
def managedFields : Schema :=
  .list (.record [optional "apiVersion" .text, optional "fieldsType" .text,
    optional "fieldsV1" .any, optional "manager" .text, optional "operation" .text,
    optional "subresource" .text, optional "time" .time])

/-- The fields of an object's metadata that nothing reads. -/
def metadataFields : List (String × Schema) :=
  [("annotations", .dict .text), ("creationTimestamp", .time),
    ("deletionGracePeriodSeconds", .int64), ("deletionTimestamp", .time), ("finalizers", texts),
    ("generation", .int64), ("managedFields", managedFields), ("namespace", .text),
    ("resourceVersion", .text), ("selfLink", .text)]

def ownerReference : Schema :=
  .record [required "apiVersion" .text, optional "blockOwnerDeletion" .flag,
    optional "controller" .flag, required "kind" .text, required "name" .text,
    required "uid" .text]

def metadata : Schema :=
  .record ([optional "generateName" .text, optional "labels" (.dict .text), optional "name" .text,
      optional "ownerReferences" (.list ownerReference), optional "uid" .text]
    ++ metadataFields.map fun (name, schema) => optional name schema)

def listMetadata : Schema :=
  .record [optional "continue" .text, optional "remainingItemCount" .int64,
    optional "resourceVersion" .text, optional "selfLink" .text]

/-! ## Security -/

/-- Labels of a mandatory access control. -/
def seLinuxOptions : Schema :=
  .record [optional "level" .text, optional "role" .text, optional "type" .text,
    optional "user" .text]

/-- The profile of permitted system calls. -/
def seccompProfile : Schema :=
  .record [optional "localhostProfile" .text, required "type" .text]

/-- Settings of containers on another operating system. -/
def windowsOptions : Schema :=
  .record [optional "gmsaCredentialSpec" .text, optional "gmsaCredentialSpecName" .text,
    optional "hostProcess" .flag, optional "runAsUserName" .text]

def securityContext : Schema :=
  .record [optional "allowPrivilegeEscalation" .flag,
    optional "capabilities" (.record [optional "add" texts, optional "drop" texts]),
    optional "privileged" .flag, optional "procMount" .text,
    optional "readOnlyRootFilesystem" .flag, optional "runAsGroup" .int64,
    optional "runAsNonRoot" .flag, optional "runAsUser" .int64,
    optional "seLinuxOptions" seLinuxOptions, optional "seccompProfile" seccompProfile,
    optional "windowsOptions" windowsOptions]

def podSecurityContext : Schema :=
  .record [optional "fsGroup" .int64, optional "fsGroupChangePolicy" .text,
    optional "runAsGroup" .int64, optional "runAsNonRoot" .flag, optional "runAsUser" .int64,
    optional "seLinuxOptions" seLinuxOptions, optional "seccompProfile" seccompProfile,
    optional "supplementalGroups" (.list .int64),
    optional "sysctls" (.list (.record [required "name" .text, required "value" .text])),
    optional "windowsOptions" windowsOptions]

/-! ## Environment -/

/-- Where the value of an environment variable comes from when it is not literal. -/
def envVarSource : Schema :=
  .record [
    optional "configMapKeyRef" (.record [required "key" .text, optional "name" .text,
      optional "optional" .flag]),
    optional "fieldRef" fieldSelector,
    optional "resourceFieldRef" resourceSelector,
    optional "secretKeyRef" (.record [required "key" .text, optional "name" .text,
      optional "optional" .flag])]

/-! ## Status -/

def terminated : Schema :=
  .record [optional "containerID" .text, required "exitCode" .int32, optional "finishedAt" .time,
    optional "message" .text, optional "reason" .text, optional "signal" .int32,
    optional "startedAt" .time]

end Schema

end BrowserPods
