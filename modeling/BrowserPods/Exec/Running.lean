import BrowserPods.Exec.Frames

/-!
Commands run in a container.  The results are collected once, and the channel is always released
afterwards; a caller who does not wait gets no outcome, but the channel goes through the same calls.
-/

namespace BrowserPods

open BrowserPods.Text

/-- What a channel is asked for. -/
inductive ChannelCall where
  | output
  | status
  | release
deriving DecidableEq, Repr

/-- A running command, whose results are collected once. -/
structure RunningCommand where
  /-- What the command writes, its error messages after its output. -/
  output : Bytes
  status : Option CommandStatus
  /-- Whether releasing the channel fails. -/
  releaseFails : Bool := false
deriving DecidableEq, Repr

structure CommandResult where
  output : Bytes
  failed : Bool
deriving DecidableEq, Repr

def RunningCommand.ofTranscript (transcript : Transcript) : RunningCommand :=
  { output := transcript.stdout ++ transcript.stderr.flatten, status := transcript.status }

/-- Collects the results of a command and releases the channel, with the calls in their order.  A
command fails only if its status says so; neither a missing status nor a channel that cannot be
released is a failure. -/
def RunningCommand.collect (channel : RunningCommand) : CommandResult × List ChannelCall :=
  let failed := channel.status.any CommandStatus.isFailure
  ({ output := channel.output, failed }, [.output, .status, .release])

/-- What becomes of a command that is handed over. -/
structure HandOver where
  /-- What the caller gets. -/
  outcome : Option CommandResult
  /-- Whether the channel is released when the caller goes on. -/
  releasedOnReturn : Bool
  /-- The calls to the channel until it is released. -/
  calls : List ChannelCall
deriving DecidableEq, Repr

/-- Hands a command over, and waits for it if asked to. -/
def RunningCommand.handOver (channel : RunningCommand) (wait : Bool) : HandOver :=
  let (outcome, calls) := channel.collect
  { outcome := if wait then some outcome else none, releasedOnReturn := wait, calls }

end BrowserPods
