import BrowserPods.Json.Reader
import BrowserPods.Pod.Schema
import BrowserPods.Text.Utf8

/-!
The frames of a channel to a command that runs in a container, and what the channel delivers: what
the command wrote, and its status.  The first status frame ends the channel; later frames count for
nothing, so the transcript depends on each stream's bytes and not on how they were cut or mixed.
-/

namespace BrowserPods

open BrowserPods.Text

structure CommandStatus where
  status : Option String
  message : Option String := none
  reason : Option String := none
deriving DecidableEq, Repr

namespace CommandStatus

/-- The fields of a status that nothing reads. -/
def otherFields : List (String × Schema) :=
  let texts (names : List String) := names.map fun name => Schema.optional name .text
  let cause := Schema.record (texts ["field", "message", "reason"])
  [("code", .int32),
    ("details", .record (texts ["group", "kind", "name", "uid"]
      ++ [Schema.optional "causes" (.list cause),
        Schema.optional "retryAfterSeconds" .int32])),
    ("metadata", Schema.listMetadata)]

/-- Reads a status.  Version and kind may be left out, but not differ. -/
def ofJson? (json : Json) : Option CommandStatus := do
  let fields ← json.fields?
  let status ← Json.apiField? fields "status" Json.text?
  let message ← Json.apiField? fields "message" Json.text?
  let reason ← Json.apiField? fields "reason" Json.text?
  if Json.agrees fields "apiVersion" "v1" && Json.agrees fields "kind" "Status"
      && Schema.admits otherFields fields then
    pure { status, message, reason }
  else none

def ofBytes? (bytes : Bytes) : Option CommandStatus :=
  ((Utf8.decode? bytes).bind Json.read?).bind ofJson?

def isFailure (status : CommandStatus) : Bool := status.status == some "Failure"

end CommandStatus

inductive Frame where
  | out (bytes : Bytes)
  | err (bytes : Bytes)
  /-- A status; nothing stands for one that cannot be read. -/
  | status (status : Option CommandStatus)
deriving DecidableEq, Repr

structure Transcript where
  stdout : Bytes := []
  /-- The pieces in which messages of errors arrive. -/
  stderr : List Bytes := []
  status : Option CommandStatus := none
deriving DecidableEq, Repr

namespace Transcript

/-- The bytes of a frame of the output. -/
def outBytes : Frame → Bytes
  | .out bytes => bytes
  | _ => []

/-- The bytes of a frame of error messages, unless it is empty. -/
def errPiece? : Frame → Option Bytes
  | .err bytes => if bytes.isEmpty then none else some bytes
  | _ => none

def isStatus : Frame → Bool
  | .status _ => true
  | _ => false

/-- The status that a channel ends with, if it ends with one that can be read. -/
def finalStatus (frames : List Frame) : Option CommandStatus :=
  match frames.find? isStatus with
  | some (.status status) => status
  | _ => none

/-- What a channel delivers that plays the given frames. -/
def ofFrames (frames : List Frame) : Transcript :=
  let live := frames.takeWhile fun frame => !isStatus frame
  { stdout := live.flatMap outBytes
    stderr := live.filterMap errPiece?
    status := finalStatus frames }

@[simp]
theorem stdout_nil : (ofFrames []).stdout = [] := rfl

@[simp]
theorem stdout_cons_out (bytes : Bytes) (frames : List Frame) :
    (ofFrames (.out bytes :: frames)).stdout = bytes ++ (ofFrames frames).stdout := rfl

@[simp]
theorem stdout_cons_err (bytes : Bytes) (frames : List Frame) :
    (ofFrames (.err bytes :: frames)).stdout = (ofFrames frames).stdout := rfl

@[simp]
theorem stdout_cons_status (status : Option CommandStatus) (frames : List Frame) :
    (ofFrames (.status status :: frames)).stdout = [] := rfl

@[simp]
theorem stderr_nil : (ofFrames []).stderr = [] := rfl

@[simp]
theorem stderr_cons_out (bytes : Bytes) (frames : List Frame) :
    (ofFrames (.out bytes :: frames)).stderr = (ofFrames frames).stderr := rfl

/-- An empty frame of error messages is no piece of them, and adds no bytes. -/
@[simp]
theorem flatten_stderr_cons_err (bytes : Bytes) (frames : List Frame) :
    (ofFrames (.err bytes :: frames)).stderr.flatten =
      bytes ++ (ofFrames frames).stderr.flatten := by
  cases bytes with
  | nil => rfl
  | cons byte others => rfl

@[simp]
theorem stderr_cons_status (status : Option CommandStatus) (frames : List Frame) :
    (ofFrames (.status status :: frames)).stderr = [] := rfl

end Transcript

end BrowserPods
