import BrowserPods.Json.Fields
import BrowserPods.Json.Reader

/-!
The identity of a registering node, and its JSON form.
-/

namespace BrowserPods

/-- The identity of a registering node, found by its address. -/
structure Registration where
  containerId : String
  ipAddress : String
  /-- The port of the live preview, if the node has one. -/
  noVncPort : Option UInt16
deriving DecidableEq, Repr

namespace Registration

def toJson (registration : Registration) : Json :=
  .object [("containerId", .string registration.containerId),
    ("ipAddress", .string registration.ipAddress),
    ("noVncPort", .ofOption (fun port => .nat port.toNat) registration.noVncPort)]

def fieldNames : List String := ["containerId", "ipAddress", "noVncPort"]

/-- Reads a registration.  An object may leave out the port; an array may not. -/
def ofJson? (value : Json) : Option Registration := do
  let fields ← Json.Record.fields? fieldNames 3 value
  let containerId ← Json.Record.field? fields "containerId" Json.text? none
  let ipAddress ← Json.Record.field? fields "ipAddress" Json.text? none
  let noVncPort ← Json.Record.field? fields "noVncPort"
    (Json.nullable? Json.uint16?) (some none)
  pure { containerId, ipAddress, noVncPort }

def write (registration : Registration) : String := registration.toJson.write

def read? (text : String) : Option Registration := (Json.read? text).bind ofJson?

end Registration

end BrowserPods
