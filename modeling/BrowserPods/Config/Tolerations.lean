import BrowserPods.Failure
import BrowserPods.Pod.Placement
import BrowserPods.Yaml.Typed

/-!
Tolerations as they are written in settings: a YAML list.
-/

namespace BrowserPods.Tolerations

open BrowserPods.Yaml

/-- Sets a field of a toleration from a node; unknown fields are ignored.  A field set again takes
the later value. -/
def setField (document : Document) (toleration : Toleration) (field : String × Node) :
    Option Toleration :=
  let text := document.optional? document.text? field.2
  match field.1 with
  | "effect" => text.map fun effect => { toleration with effect }
  | "key" => text.map fun key => { toleration with key }
  | "operator" => text.map fun operator => { toleration with operator }
  | "tolerationSeconds" =>
    (document.optional? document.int64? field.2).map fun tolerationSeconds =>
      { toleration with tolerationSeconds }
  | "value" => text.map fun value => { toleration with value }
  | _ => some toleration

def ofNode? (document : Document) (node : Node) : Option Toleration :=
  (document.fields? node).bind fun fields => fields.foldlM (setField document) {}

/-- Reads the tolerations of a YAML text with at most one document. -/
def read? (text : String) : Option (List Toleration) :=
  (Document.ofText? text).bind fun documents =>
    match documents with
    | [] => some []
    | [document] => document.list? (ofNode? document) document.root
    | _ => none

def parse (text : String) : Except OverrideError (List Toleration) :=
  match read? text with
  | some tolerations => .ok tolerations
  | none => .error .tolerations

end BrowserPods.Tolerations
