import BrowserPods.Exec.Running
import BrowserPods.Exec.Transfer

/-!
Collections: how the results of a command come to a caller.  Three parties act in any order.  The
channel plays its frames into two pipes of bounded room, one for each stream of the command.  The
collector asks for the output and reads both pipes side by side; once both have ended it asks for
the status, and then it releases the channel, which may fail.  The caller waits for the result or
goes on without it.
-/

namespace BrowserPods

open BrowserPods.Text

inductive Side where
  | output
  | errors
deriving DecidableEq, Repr

def Side.frame : Side → Bytes → Frame
  | .output, bytes => .out bytes
  | .errors, bytes => .err bytes

structure Pipe where
  held : Bytes := []
  /-- What was read off it. -/
  taken : Bytes := []
  /-- Whether its end was read. -/
  ended : Bool := false
deriving DecidableEq, Repr

inductive CollectorStage where
  /-- It asks for the output. -/
  | asking
  /-- It reads both pipes. -/
  | reading
  /-- It waits for the status. -/
  | awaiting (output : Bytes)
  /-- It waits until the channel is released. -/
  | releasing (result : CommandResult)
  | done (result : CommandResult)
deriving DecidableEq, Repr

structure Collection where
  /-- What the channel has still to play; the first frame may be played in part. -/
  frames : List Frame
  /-- Whether the channel still plays. -/
  playing : Bool := true
  /-- The status that the channel ended with. -/
  status : Option CommandStatus := none
  output : Pipe := {}
  errors : Pipe := {}
  stage : CollectorStage := .asking
  /-- The calls to the channel so far. -/
  calls : List ChannelCall := []
  /-- Whether releasing the channel has failed. -/
  releaseFailed : Bool := false
  /-- What the caller got, once it has gone on. -/
  answer : Option (Option CommandResult) := none
deriving DecidableEq, Repr

namespace Collection

def pipe (now : Collection) : Side → Pipe
  | .output => now.output
  | .errors => now.errors

def withPipe (now : Collection) (side : Side) (pipe : Pipe) : Collection :=
  match side with
  | .output => { now with output := pipe }
  | .errors => { now with errors := pipe }

/-- The channel plays, into pipes that have room for so many bytes. -/
inductive Plays (room : Nat) : Collection → Collection → Prop where
  | wrote (now : Collection) (side : Side) (piece rest : Bytes) (frames : List Frame)
      (playing : now.playing) (next : now.frames = side.frame (piece ++ rest) :: frames)
      (nonempty : piece ≠ []) (fits : (now.pipe side).held.length + piece.length ≤ room) :
      Plays room now
        { now.withPipe side { now.pipe side with held := (now.pipe side).held ++ piece } with
          frames := side.frame rest :: frames }
  | turned (now : Collection) (frame : Frame) (frames : List Frame)
      (playing : now.playing) (next : now.frames = frame :: frames)
      (spent : Transfer.isSpent frame) :
      Plays room now { now with frames }
  /-- A status ends the channel, and so does the end of its frames. -/
  | ended (now : Collection) (playing : now.playing)
      (atEnd : ∀ frame ∈ now.frames.head?, Transcript.isStatus frame) :
      Plays room now
        { now with playing := false, status := Transcript.finalStatus now.frames }

inductive Collects : Collection → Collection → Prop where
  | asked (now : Collection) (stage : now.stage = .asking) :
      Collects now { now with stage := .reading, calls := now.calls ++ [.output] }
  | took (now : Collection) (side : Side) (piece rest : Bytes) (stage : now.stage = .reading)
      (next : (now.pipe side).held = piece ++ rest) (nonempty : piece ≠ []) :
      Collects now
        (now.withPipe side
          { now.pipe side with held := rest, taken := (now.pipe side).taken ++ piece })
  | tookAll (now : Collection) (side : Side) (stage : now.stage = .reading)
      (more : (now.pipe side).ended = false) (nothing : (now.pipe side).held = [])
      (stopped : now.playing = false) :
      Collects now (now.withPipe side { now.pipe side with ended := true })
  | gathered (now : Collection) (stage : now.stage = .reading)
      (output : now.output.ended) (errors : now.errors.ended) :
      Collects now
        { now with
          stage := .awaiting (now.output.taken ++ now.errors.taken)
          calls := now.calls ++ [.status] }
  | gotStatus (now : Collection) (output : Bytes) (stage : now.stage = .awaiting output)
      (stopped : now.playing = false) :
      Collects now
        { now with
          stage := .releasing { output, failed := now.status.any CommandStatus.isFailure }
          calls := now.calls ++ [.release] }
  /-- Releasing fails or not, and the result is the same. -/
  | released (now : Collection) (result : CommandResult) (fails : Bool)
      (stage : now.stage = .releasing result) (stopped : now.playing = false) :
      Collects now { now with stage := .done result, releaseFailed := fails }

/-- The caller goes on, with the result if it waits. -/
inductive GoesOn (wait : Bool) : Collection → Collection → Prop where
  | waited (now : Collection) (result : CommandResult) (waits : wait)
      (stage : now.stage = .done result) (pending : now.answer = none) :
      GoesOn wait now { now with answer := some (some result) }
  | atOnce (now : Collection) (waits : wait = false) (pending : now.answer = none) :
      GoesOn wait now { now with answer := some none }

inductive Step (wait : Bool) (room : Nat) : Collection → Collection → Prop where
  | channel {now later : Collection} (plays : Plays room now later) : Step wait room now later
  | collector {now later : Collection} (collects : Collects now later) : Step wait room now later
  | caller {now later : Collection} (goesOn : GoesOn wait now later) : Step wait room now later

def IsDone (now : Collection) : Prop :=
  (∃ result, now.stage = .done result) ∧ now.answer.isSome

end Collection

end BrowserPods
