import BrowserPods.Json.Fields
import BrowserPods.Json.Reader

/-!
Errors of requests to the cluster, as they are read off its answers.  The body of an answer wins
over the code that it comes with.
-/

namespace BrowserPods

/-- Why a request to the cluster fails. -/
inductive ApiError where
  /-- The cluster says no, with a code and a reason. -/
  | refused (code : Nat) (reason : String)
  /-- There is no answer, or none that can be understood. -/
  | unusable
deriving DecidableEq, Repr

namespace ApiError

def notFoundCode : Nat := 404

def notFoundReason : String := "NotFound"

def unreadableReason : String := "Failed to parse error data"

/-- Whether an error says by its code that the object does not exist. -/
def hasMissingCode : ApiError → Bool
  | .refused code _ => code == notFoundCode
  | .unusable => false

/-- Whether an error says by its reason that the object is absent. -/
def hasMissingReason : ApiError → Bool
  | .refused _ reason => reason == notFoundReason
  | .unusable => false

/-- The code and the reason in the body of an answer. -/
def ofBody? (body : String) : Option ApiError := do
  let json ← Json.read? body
  let fields ← Json.Record.fields? ["status", "message", "reason", "code"] 4 json
  let _ ← Json.Record.field? fields "status" Json.text? none
  let _ ← Json.Record.field? fields "message" Json.text? (some "")
  let reason ← Json.Record.field? fields "reason" Json.text? (some "")
  let code ← Json.Record.field? fields "code" (Json.natUpTo? 65535) none
  pure (.refused code reason)

def ofAnswer (code : Nat) (body : String) : ApiError :=
  (ofBody? body).getD (.refused code unreadableReason)

/-- Reads an answer: an error if its code says so, and else what its body stands for. -/
def readAnswer {α : Type} (value : Json → Option α) (code : Nat) (body : String) :
    Except ApiError α :=
  if 400 ≤ code then .error (ofAnswer code body)
  else
    match (Json.read? body).bind value with
    | some read => .ok read
    | none => .error .unusable

end ApiError

end BrowserPods
