import BrowserPods.Text.Utf8

/-!
Sessions that copy artifacts through a command.  A session hears what happens to its channel
(`SessionEvent`) and does two things: it lets a waiting caller through a gate, once, and it closes a
channel whose command reported errors, once.
-/

namespace BrowserPods

open BrowserPods.Text

inductive SessionState where
  | opening
  | streaming
  | closed
  | failed
deriving DecidableEq, Repr

/-- The gate between a session and the caller who waits for the output of the command. -/
inductive Gate where
  | pending
  /-- The gate is open; without an output the channel never was. -/
  | unlocked (stdout : Option Bytes)
deriving DecidableEq, Repr

def Gate.unlock (stdout : Option Bytes) : Gate → Gate
  | .pending => .unlocked stdout
  | .unlocked earlier => .unlocked earlier

structure Session where
  containerId : String
  command : List String
  state : SessionState := .opening
  /-- The error messages so far. -/
  stderr : Bytes := []
  /-- Whether the channel was heard to close. -/
  heardClose : Bool := false
  gate : Gate := .pending
deriving DecidableEq, Repr

/-- A channel as far as its session can act on it: how often it was closed. -/
structure Channel where
  closes : Nat := 0
deriving DecidableEq, Repr

/-- Closes a channel for good. -/
def Channel.close (channel : Channel) : Channel := { closes := channel.closes + 1 }

inductive SessionEvent where
  | opened (stdout : Bytes)
  | failed
  | wroteError (bytes : Bytes)
  | closed
deriving DecidableEq, Repr

namespace Session

/-- The channel is open, and its output goes to the caller. -/
def opened (session : Session) (stdout : Bytes) : Session :=
  { session with state := .streaming, gate := session.gate.unlock (some stdout) }

def failed (session : Session) : Session :=
  { session with state := .failed, gate := session.gate.unlock none }

/-- The command wrote error messages. -/
def wroteError (session : Session) (bytes : Bytes) : Session :=
  { session with stderr := session.stderr ++ bytes }

def stderrText (session : Session) : String := Utf8.decodeLossy session.stderr

/-- The channel is closed.  The first time, if there are error messages, the session closes the
channel for good, since such a channel does not clean up after itself.  The answer is whether it
did. -/
def closed (session : Session) (channel : Channel) : Session × Channel × Bool :=
  let state := if session.state = .failed then .failed else .closed
  let next := { session with state, heardClose := true }
  if session.heardClose || session.stderrText = "" then (next, channel, false)
  else (next, channel.close, true)

/-- Dropping a session opens its gate to nothing. -/
def gateAfterDrop (session : Session) : Gate := session.gate.unlock none

/-- The session and its channel after an event, with the answer to a close. -/
def step (session : Session) (channel : Channel) :
    SessionEvent → Session × Channel × Option Bool
  | .opened stdout => (session.opened stdout, channel, none)
  | .failed => (session.failed, channel, none)
  | .wroteError bytes => (session.wroteError bytes, channel, none)
  | .closed =>
    let (next, after, answer) := session.closed channel
    (next, after, some answer)

end Session

/-- A session and its channel, with what the session has heard and what it has answered to the
closes among it. -/
structure SessionRun where
  session : Session
  channel : Channel := {}
  heard : List SessionEvent := []
  answers : List Bool := []
deriving DecidableEq, Repr

def SessionRun.tell (run : SessionRun) (event : SessionEvent) : SessionRun :=
  let (session, channel, answer) := run.session.step run.channel event
  { session, channel, heard := run.heard ++ [event], answers := run.answers ++ answer.toList }

def Session.run (session : Session) (events : List SessionEvent) : SessionRun :=
  events.foldl SessionRun.tell { session }

/-! ## Both parties -/

/-- A session and the caller at its gate, either of whom may go away. -/
structure SessionExchange where
  /-- The session, until it is dropped. -/
  session : Option Session
  channel : Channel := {}
  /-- How many handles there are to the session. -/
  handles : Nat := 1
  /-- The gate that a dropped session leaves behind. -/
  abandonedGate : Gate := .pending
  /-- Whether the caller still waits. -/
  waiting : Bool := true
deriving DecidableEq, Repr

inductive GateView where
  | pending
  | empty
  | stdout (bytes : Bytes)
  /-- The caller has passed the gate or left. -/
  | gone
deriving DecidableEq, Repr

namespace SessionExchange

def gate (exchange : SessionExchange) : Gate :=
  match exchange.session with
  | some session => session.gate
  | none => exchange.abandonedGate

def closes (exchange : SessionExchange) : Nat := exchange.channel.closes

/-- Tells the session of an event, with whether it closes the channel; nothing if the session was
dropped. -/
def tell? (exchange : SessionExchange) (event : SessionEvent) : Option (SessionExchange × Bool) :=
  exchange.session.map fun session =>
    let (next, channel, answer) := session.step exchange.channel event
    ({ exchange with session := some next, channel }, answer.getD false)

def share (exchange : SessionExchange) : SessionExchange :=
  if exchange.session.isSome then { exchange with handles := exchange.handles + 1 } else exchange

/-- Drops a handle to the session, and with the last one the session. -/
def dropSession (exchange : SessionExchange) : SessionExchange :=
  match exchange.session with
  | some session =>
    if exchange.handles ≤ 1 then
      { exchange with session := none, handles := 0, abandonedGate := session.gateAfterDrop }
    else { exchange with handles := exchange.handles - 1 }
  | none => exchange

def dropGate (exchange : SessionExchange) : SessionExchange := { exchange with waiting := false }

/-- The caller looks at the gate, and passes it if it is open. -/
def poll (exchange : SessionExchange) : SessionExchange × GateView :=
  if exchange.waiting then
    match exchange.gate with
    | .pending => (exchange, .pending)
    | .unlocked none => (exchange.dropGate, .empty)
    | .unlocked (some bytes) => (exchange.dropGate, .stdout bytes)
  else (exchange, .gone)

end SessionExchange

inductive HolderAction where
  | tell (event : SessionEvent)
  | share
  | drop
deriving DecidableEq, Repr

inductive CallerAction where
  | poll
  | leave
deriving DecidableEq, Repr

inductive ExchangeAction where
  | holder (action : HolderAction)
  | caller (action : CallerAction)
deriving DecidableEq, Repr

namespace SessionExchange

/-- The exchange after an action of a holder.  A session that was dropped hears nothing. -/
def hold (exchange : SessionExchange) : HolderAction → SessionExchange
  | .tell event => ((exchange.tell? event).map (·.1)).getD exchange
  | .share => exchange.share
  | .drop => exchange.dropSession

/-- The exchange after an action of the caller, with what the caller sees at the gate. -/
def attend (exchange : SessionExchange) : CallerAction → SessionExchange × Option GateView
  | .poll =>
    let (next, view) := exchange.poll
    (next, some view)
  | .leave => (exchange.dropGate, none)

/-- The exchange after an action, with what the caller sees. -/
def act (exchange : SessionExchange) : ExchangeAction → SessionExchange × Option GateView
  | .holder action => (exchange.hold action, none)
  | .caller action => exchange.attend action

/-- The exchange after some actions, with all that the caller sees, in order. -/
def run (exchange : SessionExchange) : List ExchangeAction → SessionExchange × List GateView
  | [] => (exchange, [])
  | action :: rest =>
    let (next, view) := exchange.act action
    let (last, views) := run next rest
    (last, view.toList ++ views)

end SessionExchange

end BrowserPods
