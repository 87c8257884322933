import BrowserPods.Json.Fields
import BrowserPods.Pod.Basic

/-!
Answers to deletions: the pod, which may still be ending, or the status of the deletion.  Nothing is
read off either of them, but an answer of another shape is no answer.
-/

namespace BrowserPods.Deletion

def texts? (fields : List (String × Json)) (names : List String) : Option Unit :=
  names.forM fun name => (Json.Record.field? fields name Json.text? (some "")).map fun _ => ()

/-- Reads the word for how an action ended, which stands alone or as the one field of an object. -/
def outcome? (json : Json) : Option Unit :=
  match json with
  | .string word => if word = "Success" ∨ word = "Failure" then some () else none
  | .object [(word, .null)] => if word = "Success" ∨ word = "Failure" then some () else none
  | _ => none

def cause? (json : Json) : Option Unit := do
  let names := ["reason", "message", "field"]
  let fields ← Json.Record.fields? names 0 json
  texts? fields names

def details? (json : Json) : Option Unit := do
  let names := ["name", "group", "kind", "uid"]
  let fields ← Json.Record.fields? (names ++ ["causes", "retryAfterSeconds"]) 0 json
  texts? fields names
  let _ ← Json.Record.field? fields "causes" (Json.list? cause?) (some [])
  let _ ← Json.Record.field? fields "retryAfterSeconds" (Json.natUpTo? 4294967295) (some 0)
  pure ()

def status? (fields : List (String × Json)) : Option Unit := do
  let _ ← Json.Record.field? fields "status" (Json.nullable? outcome?) (some none)
  let _ ← Json.Record.field? fields "code" (Json.natUpTo? 65535) (some 0)
  texts? fields ["message", "reason"]
  let _ ← Json.Record.field? fields "details" (Json.nullable? details?) (some none)
  pure ()

/-- Reads an answer; its kind says which of the two it is. -/
def ofJson? (json : Json) : Option Unit := do
  let _ ← json.plain?
  let fields ← json.fields?
  if (fields.reverse.lookup "kind").bind Json.text? = some "Status" then status? fields
  else (Pod.ofJson? json).map fun _ => ()

end BrowserPods.Deletion
