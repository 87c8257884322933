import BrowserPods.Json.Fields
import BrowserPods.Json.Reader

/-!
The request of the grid controller for a new browser container, and its JSON form.
-/

namespace BrowserPods

/-- Everything the controller decides about a container that it wants created. -/
structure BrowserRequest where
  /-- Name of the requesting grid component; used for tracing only. -/
  namePrefix : String
  /-- The browser image to run. -/
  image : String
  /-- Environment variables of the browser. -/
  env : Dict String := .empty
  /-- The port that the node listens on; it is part of the name of the pod. -/
  nodePort : String
  /-- Labels set by the caller; they win over those of the owner. -/
  labels : Dict String := .empty
deriving DecidableEq, Repr

namespace BrowserRequest

def bare (namePrefix image nodePort : String) : BrowserRequest := { namePrefix, image, nodePort }

def addEnv (request : BrowserRequest) (key value : String) : BrowserRequest :=
  { request with env := request.env.insert key value }

def addLabel (request : BrowserRequest) (key value : String) : BrowserRequest :=
  { request with labels := request.labels.insert key value }

def dictJson (d : Dict String) : Json := .object (d.entries.map fun (k, v) => (k, .string v))

def toJson (request : BrowserRequest) : Json :=
  .object [("namePrefix", .string request.namePrefix), ("image", .string request.image),
    ("env", dictJson request.env), ("nodePort", .string request.nodePort),
    ("labels", dictJson request.labels)]

/-- The fields in the order of declaration. -/
def fieldNames : List String := ["namePrefix", "image", "env", "nodePort", "labels"]

/-- Reads a request.  Environment and labels may be left out, and unknown fields are ignored. -/
def ofJson? (value : Json) : Option BrowserRequest := do
  let fields ← Json.Record.fields? fieldNames 4 value
  let namePrefix ← Json.Record.field? fields "namePrefix" Json.text? none
  let image ← Json.Record.field? fields "image" Json.text? none
  let env ← Json.Record.field? fields "env" (Json.dict? Json.text?) (some .empty)
  let nodePort ← Json.Record.field? fields "nodePort" Json.text? none
  let labels ← Json.Record.field? fields "labels" (Json.dict? Json.text?) (some .empty)
  pure { namePrefix, image, env, nodePort, labels }

def write (request : BrowserRequest) : String := request.toJson.write

def read? (text : String) : Option BrowserRequest := (Json.read? text).bind ofJson?

end BrowserRequest

end BrowserPods
