import BrowserPods.Json.Fields

/-!
The parts of a pod that say where it may run and what it finds there: tolerations, host aliases and
the secrets for pulling images.
-/

namespace BrowserPods

/-- A taint of nodes that a pod tolerates. -/
structure Toleration where
  effect : Option String := none
  key : Option String := none
  operator : Option String := none
  /-- How long the taint is tolerated, in seconds; 64 bits. -/
  tolerationSeconds : Option Int := none
  value : Option String := none
deriving DecidableEq, Repr

namespace Toleration

def toJson (toleration : Toleration) : Json :=
  .object (Json.optionalField "effect" .string toleration.effect
    ++ Json.optionalField "key" .string toleration.key
    ++ Json.optionalField "operator" .string toleration.operator
    ++ Json.optionalField "tolerationSeconds" .int toleration.tolerationSeconds
    ++ Json.optionalField "value" .string toleration.value)

def ofJson? (json : Json) : Option Toleration := do
  let fields ← json.fields?
  let effect ← Json.apiField? fields "effect" Json.text?
  let key ← Json.apiField? fields "key" Json.text?
  let operator ← Json.apiField? fields "operator" Json.text?
  let tolerationSeconds ← Json.apiField? fields "tolerationSeconds" Json.int64?
  let value ← Json.apiField? fields "value" Json.text?
  pure { effect, key, operator, tolerationSeconds, value }

end Toleration

/-- Names of an address in the hosts file of a pod. -/
structure HostAlias where
  hostnames : Option (List String) := none
  ip : Option String := none
deriving DecidableEq, Repr

namespace HostAlias

def toJson (hostAlias : HostAlias) : Json :=
  .object (Json.optionalField "hostnames" Json.strings hostAlias.hostnames
    ++ Json.optionalField "ip" .string hostAlias.ip)

def ofJson? (json : Json) : Option HostAlias := do
  let fields ← json.fields?
  let hostnames ← Json.apiField? fields "hostnames" (Json.list? Json.text?)
  let ip ← Json.apiField? fields "ip" Json.text?
  pure { hostnames, ip }

end HostAlias

/-- A reference to a secret for pulling images. -/
structure PullSecret where
  name : Option String := none
deriving DecidableEq, Repr

namespace PullSecret

def toJson (secret : PullSecret) : Json :=
  .object (Json.optionalField "name" .string secret.name)

def ofJson? (json : Json) : Option PullSecret := do
  let fields ← json.fields?
  let name ← Json.apiField? fields "name" Json.text?
  pure { name }

end PullSecret

end BrowserPods
