import BrowserPods.Json.Fields
import BrowserPods.Json.Reader

/-!
The answer to the controller about a created container, and its JSON form.
-/

namespace BrowserPods

structure CreationStatus where
  isCreated : Bool
  containerName : String
  containerId : String
  nodePort : String
deriving DecidableEq, Repr

namespace CreationStatus

/-- The status of a container that the platform accepted.  Pods are addressed by name, so the name
is the identifier, too. -/
def ofName (name nodePort : String) : CreationStatus :=
  { isCreated := true, containerName := name, containerId := name, nodePort }

/-- The status as a line for people. -/
def display (status : CreationStatus) : String :=
  status.containerName ++ " (port " ++ status.nodePort ++ ")"

def toJson (status : CreationStatus) : Json :=
  .object [("isCreated", .bool status.isCreated), ("containerName", .string status.containerName),
    ("containerId", .string status.containerId), ("nodePort", .string status.nodePort)]

def fieldNames : List String := ["isCreated", "containerName", "containerId", "nodePort"]

/-- Reads a status, of which no field may be left out. -/
def ofJson? (value : Json) : Option CreationStatus := do
  let fields ← Json.Record.fields? fieldNames 4 value
  let isCreated ← Json.Record.field? fields "isCreated" Json.bool? none
  let containerName ← Json.Record.field? fields "containerName" Json.text? none
  let containerId ← Json.Record.field? fields "containerId" Json.text? none
  let nodePort ← Json.Record.field? fields "nodePort" Json.text? none
  pure { isCreated, containerName, containerId, nodePort }

def write (status : CreationStatus) : String := status.toJson.write

def read? (text : String) : Option CreationStatus := (Json.read? text).bind ofJson?

end CreationStatus

end BrowserPods
