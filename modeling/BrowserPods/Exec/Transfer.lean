import BrowserPods.Cluster.Error
import BrowserPods.Exec.Frames
import BrowserPods.Exec.Session

/-!
Transfers: what a channel plays on its way to a caller.  Three parties act in any order.  The
channel plays its frames into two pipes of bounded room, one for the output and one for error
messages.  The driver tells a session what happens and reads the error messages; once they end it
waits for the status and tells the session of the close, which may cut the channel off.  The caller
waits at the gate of the session and reads the output, and may leave at any time.
-/

namespace BrowserPods

open BrowserPods.Text

inductive ChannelOutcome where
  | refused
  /-- The channel is open, but a stream is missing. -/
  | incomplete
  /-- The channel is open and plays some frames. -/
  | opened (frames : List Frame)
deriving DecidableEq, Repr

namespace ChannelOutcome

/-- The outcome of the answer to a request. -/
def ofAnswer : Except ApiError (List Frame) → ChannelOutcome
  | .ok frames => .opened frames
  | .error _ => .refused

/-- What comes through the gate of the session: the output of a channel that opened. -/
def passage : ChannelOutcome → Option Bytes
  | .opened frames => some (Transcript.ofFrames frames).stdout
  | _ => none

/-- What a session hears of its channel. -/
def events : ChannelOutcome → List SessionEvent
  | .refused => [.failed]
  | .incomplete => [.failed]
  | .opened frames =>
    let transcript := Transcript.ofFrames frames
    .opened transcript.stdout :: transcript.stderr.map .wroteError ++ [.closed]

end ChannelOutcome

/-! ## The parties -/

inductive DriverStage where
  /-- It tells the session that there is no channel. -/
  | failing
  /-- It tells the session that the channel is open. -/
  | opening
  /-- It reads error messages. -/
  | collecting
  /-- It waits for the status. -/
  | awaiting
  /-- It tells the session of the close. -/
  | closing
  /-- It waits for the end of the channel. -/
  | joining
  | done
deriving DecidableEq, Repr

inductive CallerStage where
  | waiting
  | reading
  /-- The caller has read everything, or there was nothing to read. -/
  | finished
  /-- The caller has left. -/
  | left
deriving DecidableEq, Repr

structure Transfer where
  run : SessionRun
  /-- What the channel has still to play; the first frame may be played in part. -/
  frames : List Frame := []
  /-- Whether the channel still plays. -/
  playing : Bool
  /-- The output in its pipe. -/
  output : Bytes := []
  /-- The error messages in their pipe. -/
  errors : Bytes := []
  /-- What the caller has read. -/
  received : Bytes := []
  driver : DriverStage
  caller : CallerStage := .waiting
deriving DecidableEq, Repr

namespace Transfer

def start (session : Session) : ChannelOutcome → Transfer
  | .refused => { run := { session }, playing := false, driver := .failing }
  | .incomplete => { run := { session }, playing := true, driver := .failing }
  | .opened frames => { run := { session }, frames, playing := true, driver := .opening }

/-- Whether a frame has no bytes, or none that are left. -/
def isSpent : Frame → Bool
  | .out bytes => bytes.isEmpty
  | .err bytes => bytes.isEmpty
  | .status _ => false

/-- The channel plays, into pipes that have room for so many bytes. -/
inductive Plays (room : Nat) : Transfer → Transfer → Prop where
  | wroteOutput (now : Transfer) (piece rest : Bytes) (frames : List Frame)
      (playing : now.playing) (next : now.frames = .out (piece ++ rest) :: frames)
      (nonempty : piece ≠ []) (fits : now.output.length + piece.length ≤ room)
      (heeded : now.caller ≠ .left) :
      Plays room now { now with frames := .out rest :: frames, output := now.output ++ piece }
  | wroteErrors (now : Transfer) (piece rest : Bytes) (frames : List Frame)
      (playing : now.playing) (next : now.frames = .err (piece ++ rest) :: frames)
      (nonempty : piece ≠ []) (fits : now.errors.length + piece.length ≤ room) :
      Plays room now { now with frames := .err rest :: frames, errors := now.errors ++ piece }
  | turned (now : Transfer) (frame : Frame) (frames : List Frame)
      (playing : now.playing) (next : now.frames = frame :: frames) (spent : isSpent frame) :
      Plays room now { now with frames }
  /-- A status ends the channel, and so does the end of its frames. -/
  | ended (now : Transfer) (playing : now.playing)
      (atEnd : ∀ frame ∈ now.frames.head?, Transcript.isStatus frame) :
      Plays room now { now with playing := false }
  /-- Output that nobody will read breaks the channel. -/
  | broke (now : Transfer) (bytes : Bytes) (frames : List Frame)
      (playing : now.playing) (next : now.frames = .out bytes :: frames)
      (nonempty : bytes ≠ []) (gone : now.caller = .left) :
      Plays room now { now with playing := false }

/-- How many bytes of error messages are read at once. -/
def readLimit : Nat := 4096

/-- The driver acts; `stdout` is what the pipe of the output will have delivered at its end. -/
inductive Drives (stdout : Bytes) : Transfer → Transfer → Prop where
  | failed (now : Transfer) (stage : now.driver = .failing) :
      Drives stdout now
        { now with run := now.run.tell .failed, playing := false, driver := .done }
  | opened (now : Transfer) (stage : now.driver = .opening) :
      Drives stdout now { now with run := now.run.tell (.opened stdout), driver := .collecting }
  | collected (now : Transfer) (piece rest : Bytes) (stage : now.driver = .collecting)
      (next : now.errors = piece ++ rest) (nonempty : piece ≠ [])
      (short : piece.length ≤ readLimit) :
      Drives stdout now { now with run := now.run.tell (.wroteError piece), errors := rest }
  | collectedAll (now : Transfer) (stage : now.driver = .collecting) (nothing : now.errors = [])
      (stopped : now.playing = false) :
      Drives stdout now { now with driver := .awaiting }
  | gotStatus (now : Transfer) (stage : now.driver = .awaiting) (stopped : now.playing = false) :
      Drives stdout now { now with driver := .closing }
  /-- A session that closes the channel cuts it off wherever it is. -/
  | closed (now : Transfer) (stage : now.driver = .closing) :
      Drives stdout now
        { now with
          run := now.run.tell .closed
          playing := now.playing &&
            (now.run.tell .closed).channel.closes == now.run.channel.closes
          driver := .joining }
  | joined (now : Transfer) (stage : now.driver = .joining) (stopped : now.playing = false) :
      Drives stdout now { now with driver := .done }

inductive Attends : Transfer → Transfer → Prop where
  | passed (now : Transfer) (stdout : Bytes) (stage : now.caller = .waiting)
      (unlocked : now.run.session.gate = .unlocked (some stdout)) :
      Attends now { now with caller := .reading }
  | turnedAway (now : Transfer) (stage : now.caller = .waiting)
      (unlocked : now.run.session.gate = .unlocked none) :
      Attends now { now with caller := .finished }
  | took (now : Transfer) (piece rest : Bytes) (stage : now.caller = .reading)
      (next : now.output = piece ++ rest) (nonempty : piece ≠ []) :
      Attends now { now with received := now.received ++ piece, output := rest }
  | tookAll (now : Transfer) (stage : now.caller = .reading) (nothing : now.output = [])
      (stopped : now.playing = false) :
      Attends now { now with caller := .finished }
  | left (now : Transfer) (stage : now.caller = .waiting ∨ now.caller = .reading) :
      Attends now { now with caller := .left }

inductive Step (stdout : Bytes) (room : Nat) : Transfer → Transfer → Prop where
  | channel {now later : Transfer} (plays : Plays room now later) : Step stdout room now later
  | driver {now later : Transfer} (drives : Drives stdout now later) : Step stdout room now later
  | caller {now later : Transfer} (attends : Attends now later) : Step stdout room now later

def IsDone (now : Transfer) : Prop :=
  now.driver = .done ∧ (now.caller = .finished ∨ now.caller = .left)

end Transfer

end BrowserPods
