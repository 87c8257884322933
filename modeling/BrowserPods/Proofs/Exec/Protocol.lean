import BrowserPods.Proofs.Exec.Session
import BrowserPods.Proofs.Exec.Transfer

/-!
# What a driver tells its session

In every run the driver of a transfer tells its session of one failure and of nothing else, or of
one opening, then of the error messages as they come, and then of one close
(`ChannelOutcome.account`).  So a session goes from opening to failed, or by streaming to closed;
its gate is open once the driver is done; and it closes the channel for good, once, exactly if error
messages came (`Transfer.driver_follows_protocol`).
-/

namespace BrowserPods

open BrowserPods.Text

/-! ## The account of a channel -/

namespace ChannelOutcome

def stderr : ChannelOutcome → Bytes
  | .opened frames => (Transcript.ofFrames frames).stderr.flatten
  | _ => []

/-- What a session is told of a channel whose error messages are received in some pieces. -/
def account (pieces : List Bytes) : ChannelOutcome → List SessionEvent
  | .opened frames =>
    .opened (Transcript.ofFrames frames).stdout :: pieces.map .wroteError ++ [.closed]
  | _ => [.failed]

def states : ChannelOutcome → List SessionState
  | .opened _ => [.opening, .streaming, .closed]
  | _ => [.opening, .failed]

variable {outcome : ChannelOutcome}

theorem account_of_failing (nothing : outcome.passage = none) (pieces : List Bytes) :
    outcome.account pieces = [.failed] := by
  cases outcome with
  | refused => rfl
  | incomplete => rfl
  | opened frames => cases nothing

theorem account_of_opened (something : outcome.passage.isSome) (pieces : List Bytes) :
    outcome.account pieces =
      .opened outcome.stdout :: pieces.map .wroteError ++ [.closed] := by
  cases outcome with
  | refused => cases something
  | incomplete => cases something
  | opened frames => rfl

theorem stderr_of_failing (nothing : outcome.passage = none) : outcome.stderr = [] := by
  cases outcome with
  | refused => rfl
  | incomplete => rfl
  | opened frames => cases nothing

end ChannelOutcome

/-- What a driver at some stage has told its session. -/
def DriverStage.told (outcome : ChannelOutcome) (pieces : List Bytes) :
    DriverStage → List SessionEvent
  | .failing => []
  | .opening => []
  | .joining => outcome.account pieces
  | .done => outcome.account pieces
  | _ => .opened outcome.stdout :: pieces.map .wroteError

/-! ## The states of a session -/

/-- The states that a session goes through while it hears some events. -/
def Session.states (session : Session) (events : List SessionEvent) : List SessionState :=
  (events.inits.map fun seen => (session.run seen).session.state).destutter (· ≠ ·)

/-- The states after each beginning of what an open channel has still to tell. -/
def streamedStates (pieces : List Bytes) : List SessionState :=
  (pieces.map SessionEvent.wroteError ++ [SessionEvent.closed]).inits.map
    fun seen => seen.foldl SessionState.after .streaming

theorem streamedStates_nil : streamedStates [] = [.streaming, .closed] := rfl

theorem streamedStates_cons (piece : Bytes) (pieces : List Bytes) :
    streamedStates (piece :: pieces) = .streaming :: streamedStates pieces := by
  simp [streamedStates, Function.comp_def, SessionState.after]

theorem destutter'_streamedStates (pieces : List Bytes) :
    (streamedStates pieces).destutter' (· ≠ ·) .streaming = [.streaming, .closed] := by
  induction pieces with
  | nil =>
      rw [streamedStates_nil]
      decide
  | cons piece others inductionHypothesis =>
      rw [streamedStates_cons, List.destutter'_cons_neg _ (by decide), inductionHypothesis]

theorem Session.states_account
    {session : Session} (opening : session.state = .opening) (outcome : ChannelOutcome)
    (pieces : List Bytes) : session.states (outcome.account pieces) = outcome.states := by
  simp only [Session.states, Session.state_run, opening]
  cases outcome with
  | refused => rfl
  | incomplete => rfl
  | opened frames =>
      have whole : (ChannelOutcome.opened frames).account pieces =
          .opened (Transcript.ofFrames frames).stdout ::
            (pieces.map SessionEvent.wroteError ++ [.closed]) := rfl
      have changes : (streamedStates pieces).destutter' (· ≠ ·) .opening =
          [.opening, .streaming, .closed] := by
        cases pieces with
        | nil =>
            rw [streamedStates_nil]
            decide
        | cons piece others =>
            rw [streamedStates_cons, List.destutter'_cons_pos _ (by decide),
              destutter'_streamedStates]
      rw [whole, List.inits_cons, List.map_cons, List.map_map, List.destutter_cons']
      exact changes

namespace Transfer

variable {outcome : ChannelOutcome} {room : ℕ} {now later : Transfer} {session : Session}
  {pieces : List Bytes}

/-! ## Where the error messages are -/

theorem flatten_stderr_of_isSpent {frame : Frame} (spent : isSpent frame) (frames : List Frame) :
    (Transcript.ofFrames (frame :: frames)).stderr.flatten =
      (Transcript.ofFrames frames).stderr.flatten := by
  rw [Transcript.flatten_stderr_ofFrames, Transcript.flatten_stderr_ofFrames,
    Transcript.written_cons_of_isSpent spent]

theorem stderr_of_atEnd
    {frames : List Frame} (atEnd : ∀ frame ∈ frames.head?, Transcript.isStatus frame) :
    (Transcript.ofFrames frames).stderr = [] := by
  cases frames with
  | nil => exact Transcript.stderr_nil
  | cons frame rest =>
      have isStatus := atEnd frame rfl
      cases frame with
      | out bytes => cases isStatus
      | err bytes => cases isStatus
      | status status => exact Transcript.stderr_cons_status status rest

def errorsDue (now : Transfer) : Bytes :=
  if now.playing then (Transcript.ofFrames now.frames).stderr.flatten else []

theorem errorsDue_of_playing (playing : now.playing) :
    now.errorsDue = (Transcript.ofFrames now.frames).stderr.flatten :=
  if_pos playing

theorem errorsDue_of_stopped (stopped : now.playing = false) : now.errorsDue = [] := by
  rw [errorsDue, stopped]
  rfl

/-- Playing moves error messages along.  Only a channel that breaks loses any. -/
theorem errors_of_plays (plays : Plays room now later) :
    later.errors ++ later.errorsDue = now.errors ++ now.errorsDue ∨
      (now.caller = .left ∧ later.errors ++ later.errorsDue <+: now.errors ++ now.errorsDue) := by
  cases plays with
  | wroteOutput piece rest frames playing next nonempty fits heeded =>
      left
      simp only [errorsDue, playing, next, if_true, Transcript.stderr_cons_out]
  | wroteErrors piece rest frames playing next nonempty fits =>
      left
      simp only [errorsDue, playing, next, if_true, Transcript.flatten_stderr_cons_err,
        List.append_assoc]
  | turned frame frames playing next spent =>
      left
      simp only [errorsDue, playing, next, if_true, flatten_stderr_of_isSpent spent]
  | ended playing atEnd =>
      left
      rw [errorsDue_of_playing playing, stderr_of_atEnd atEnd, errorsDue_of_stopped rfl]
      rfl
  | broke bytes frames playing next nonempty gone =>
      right
      refine ⟨gone, ?_⟩
      rw [errorsDue_of_stopped rfl, List.append_nil]
      exact List.prefix_append _ _

/-! ## What the driver has told -/

/-- What holds at any time of a transfer whose driver has received error messages in some
pieces. -/
structure IsTelling (session : Session) (outcome : ChannelOutcome) (pieces : List Bytes)
    (now : Transfer) : Prop where
  run : now.run = session.run now.run.heard
  heard : now.run.heard = now.driver.told outcome pieces
  /-- Nothing is received before the opening. -/
  fresh : now.driver.hasTold = false → pieces = []
  part : pieces.flatten ++ (now.errors ++ now.errorsDue) <+: outcome.stderr
  whole : now.caller ≠ .left → pieces.flatten ++ (now.errors ++ now.errorsDue) = outcome.stderr
  drained : now.driver.isPastErrors → now.errors = []

theorem isTelling_start (session : Session) (outcome : ChannelOutcome) :
    (start session outcome).IsTelling session outcome [] := by
  cases outcome with
  | refused => exact ⟨rfl, rfl, fun _ => rfl, List.prefix_rfl, fun _ => rfl, nofun⟩
  | incomplete => exact ⟨rfl, rfl, fun _ => rfl, List.prefix_rfl, fun _ => rfl, nofun⟩
  | opened frames => exact ⟨rfl, rfl, fun _ => rfl, List.prefix_rfl, fun _ => rfl, nofun⟩

theorem IsTelling.plays
    (telling : now.IsTelling session outcome pieces) (flowing : now.IsFlowing outcome)
    (plays : Plays room now later) : later.IsTelling session outcome pieces := by
  obtain ⟨run, driver, caller⟩ := others_of_plays plays
  have playing := playing_of_plays plays
  constructor
  case run =>
    rw [run]
    exact telling.run
  case heard =>
    rw [run, driver]
    exact telling.heard
  case fresh =>
    rw [driver]
    exact telling.fresh
  case part =>
    rcases errors_of_plays plays with same | ⟨_, fewer⟩
    · rw [same]
      exact telling.part
    · exact ((List.prefix_append_right_inj _).mpr fewer).trans telling.part
  case whole =>
    intro stays
    rw [caller] at stays
    rcases errors_of_plays plays with same | ⟨left, _⟩
    · rw [same]
      exact telling.whole stays
    · exact absurd left stays
  case drained =>
    -- A driver that is past the error messages has seen the channel stop.
    intro past
    rw [driver] at past
    rw [flowing.stopped past] at playing
    cases playing

theorem heard_tell (run : SessionRun) (event : SessionEvent) :
    (run.tell event).heard = run.heard ++ [event] := rfl

theorem IsTelling.run_tell
    (telling : now.IsTelling session outcome pieces) (event : SessionEvent) :
    now.run.tell event = session.run (now.run.tell event).heard := by
  rw [heard_tell, Session.run_concat, ← telling.run]

/-- A driver goes on without telling anything. -/
theorem IsTelling.advance
    (telling : now.IsTelling session outcome pieces) {stage : DriverStage}
    (same : stage.told outcome pieces = now.driver.told outcome pieces)
    (told : stage.hasTold) (nothing : now.errors = []) :
    IsTelling session outcome pieces { now with driver := stage } where
  run := telling.run
  heard := telling.heard.trans same.symm
  fresh := fun early => nomatch told.symm.trans early
  part := telling.part
  whole := telling.whole
  drained := fun _ => nothing

theorem IsTelling.drives
    (telling : now.IsTelling session outcome pieces) (flowing : now.IsFlowing outcome)
    (drives : Drives outcome.stdout now later) :
    ∃ more, later.IsTelling session outcome (pieces ++ more) := by
  cases drives with
  | failed stage =>
      have nothing := flowing.failing stage
      have silent := ChannelOutcome.stderr_of_failing nothing
      have first : pieces = [] := telling.fresh (by rw [stage]; rfl)
      have heard : now.run.heard = [] := by
        rw [telling.heard, stage]
        rfl
      have errors : now.errors = [] := by
        have part := telling.part
        rw [silent, List.prefix_nil] at part
        exact (List.append_eq_nil_iff.mp (List.append_eq_nil_iff.mp part).2).1
      refine ⟨[], ?_⟩
      rw [List.append_nil, first]
      constructor
      case run => exact telling.run_tell .failed
      case heard =>
        rw [heard_tell, heard]
        exact (ChannelOutcome.account_of_failing nothing []).symm
      case fresh => exact fun _ => rfl
      case part =>
        rw [errors, errorsDue_of_stopped rfl]
        exact List.nil_prefix
      case whole =>
        intro _
        rw [errors, errorsDue_of_stopped rfl, silent]
        rfl
      case drained => exact fun _ => errors
  | opened stage =>
      have first : pieces = [] := telling.fresh (by rw [stage]; rfl)
      have heard : now.run.heard = [] := by
        rw [telling.heard, stage]
        rfl
      refine ⟨[], ?_⟩
      rw [List.append_nil]
      exact { telling with
        run := telling.run_tell (.opened outcome.stdout)
        heard := by
          rw [heard_tell, heard, first]
          rfl
        fresh := fun _ => first
        drained := nofun }
  | collected piece rest stage next nonempty short =>
      -- A piece moves from what is waiting to what is told; together they stay the same.
      have moved : (pieces ++ [piece]).flatten ++ (rest ++ now.errorsDue) =
          pieces.flatten ++ (now.errors ++ now.errorsDue) := by
        simp [next]
      refine ⟨[piece], ?_⟩
      constructor
      case run => exact telling.run_tell (.wroteError piece)
      case heard =>
        rw [heard_tell, telling.heard, stage]
        simp [DriverStage.told]
      case fresh => exact fun early => nomatch (congrArg DriverStage.hasTold stage).symm.trans early
      case part =>
        change (pieces ++ [piece]).flatten ++ (rest ++ now.errorsDue) <+: outcome.stderr
        rw [moved]
        exact telling.part
      case whole =>
        intro stays
        exact moved.trans (telling.whole stays)
      case drained =>
        intro past
        exact nomatch (congrArg DriverStage.isPastErrors stage).symm.trans past
  | collectedAll stage nothing stopped =>
      refine ⟨[], ?_⟩
      rw [List.append_nil]
      exact telling.advance (by rw [stage]; rfl) rfl nothing
  | gotStatus stage stopped =>
      have nothing := telling.drained (by rw [stage]; rfl)
      refine ⟨[], ?_⟩
      rw [List.append_nil]
      exact telling.advance (by rw [stage]; rfl) rfl nothing
  | closed stage =>
      have stopped : now.playing = false := flowing.stopped (by rw [stage]; rfl)
      have nothing := telling.drained (by rw [stage]; rfl)
      have something : outcome.passage.isSome :=
        flowing.opened (by rw [stage]; nofun) (by rw [stage]; nofun)
      refine ⟨[], ?_⟩
      rw [List.append_nil, stopped, Bool.false_and, ← stopped]
      exact { telling with
        run := telling.run_tell .closed
        heard := by
          rw [heard_tell, telling.heard, stage]
          exact (ChannelOutcome.account_of_opened something pieces).symm
        fresh := nofun
        drained := fun _ => nothing }
  | joined stage stopped =>
      have nothing := telling.drained (by rw [stage]; rfl)
      refine ⟨[], ?_⟩
      rw [List.append_nil]
      exact telling.advance (by rw [stage]; rfl) rfl nothing

/-- The caller leaves the session, the driver and the error messages alone, and does not come
back. -/
theorem IsTelling.attends
    (telling : now.IsTelling session outcome pieces) (attends : Attends now later) :
    later.IsTelling session outcome pieces := by
  cases attends with
  | passed stdout stage unlocked =>
      exact { telling with whole := fun _ => telling.whole (by rw [stage]; nofun) }
  | turnedAway stage unlocked =>
      exact { telling with whole := fun _ => telling.whole (by rw [stage]; nofun) }
  | took piece rest stage next nonempty => exact { telling with }
  | tookAll stage nothing stopped =>
      exact { telling with whole := fun _ => telling.whole (by rw [stage]; nofun) }
  | left stage => exact { telling with whole := fun stays => absurd rfl stays }

theorem IsTelling.step
    (telling : now.IsTelling session outcome pieces) (flowing : now.IsFlowing outcome)
    (step : Step outcome.stdout room now later) :
    ∃ more, later.IsTelling session outcome (pieces ++ more) := by
  cases step with
  | channel plays => exact ⟨[], by rw [List.append_nil]; exact telling.plays flowing plays⟩
  | driver drives => exact telling.drives flowing drives
  | caller attends => exact ⟨[], by rw [List.append_nil]; exact telling.attends attends⟩

theorem isTelling_of_run
    (fresh : session.gate = .pending)
    (run : Relation.ReflTransGen (Step outcome.stdout room) (start session outcome) now) :
    ∃ pieces, now.IsTelling session outcome pieces := by
  induction run with
  | refl => exact ⟨[], isTelling_start session outcome⟩
  | tail earlier step inductionHypothesis =>
      obtain ⟨pieces, telling⟩ := inductionHypothesis
      obtain ⟨more, tellingMore⟩ := telling.step (isFlowing_of_run fresh earlier) step
      exact ⟨pieces ++ more, tellingMore⟩

/-! ## The protocol -/

/-- What holds of a transfer once its driver is done, if error messages were received in some
pieces. -/
structure EndsProtocol (session : Session) (outcome : ChannelOutcome) (pieces : List Bytes)
    (now : Transfer) : Prop where
  heard : now.run.heard = outcome.account pieces
  states : session.states now.run.heard = outcome.states
  gate : now.run.session.gate = .unlocked outcome.passage
  closes : now.run.channel.closes = if pieces.flatten = [] then 0 else 1
  /-- Only a caller who leaves makes the channel break before all error messages came. -/
  complete : now.caller ≠ .left → pieces.flatten = outcome.stderr

/-- What holds of a transfer at any time, if error messages were received in some pieces so far. -/
structure FollowsProtocol (session : Session) (outcome : ChannelOutcome) (pieces : List Bytes)
    (now : Transfer) : Prop where
  run : now.run = session.run now.run.heard
  heard : now.run.heard <+: outcome.account pieces
  received : pieces.flatten <+: outcome.stderr
  untouched : .closed ∉ now.run.heard → now.run.channel.closes = 0
  ends : now.driver = .done → now.EndsProtocol session outcome pieces

theorem IsTelling.received_prefix (telling : now.IsTelling session outcome pieces) :
    pieces.flatten <+: outcome.stderr :=
  (List.prefix_append _ _).trans telling.part

theorem IsTelling.heard_prefix
    (telling : now.IsTelling session outcome pieces) (flowing : now.IsFlowing outcome) :
    now.run.heard <+: outcome.account pieces := by
  have opened : now.driver ≠ .failing → now.driver ≠ .done →
      .opened outcome.stdout :: pieces.map .wroteError <+: outcome.account pieces := by
    intro notFailing notDone
    rw [ChannelOutcome.account_of_opened (flowing.opened notFailing notDone)]
    exact List.prefix_append _ _
  rw [telling.heard]
  cases stage : now.driver with
  | failing => exact List.nil_prefix
  | opening => exact List.nil_prefix
  | collecting => exact opened (by rw [stage]; nofun) (by rw [stage]; nofun)
  | awaiting => exact opened (by rw [stage]; nofun) (by rw [stage]; nofun)
  | closing => exact opened (by rw [stage]; nofun) (by rw [stage]; nofun)
  | joining => exact List.prefix_rfl
  | done => exact List.prefix_rfl

/-- A session that has heard an account closes its channel if error messages are in it. -/
theorem closes_run_account
    (containerId : String) (command : List String) (received : pieces.flatten <+: outcome.stderr) :
    (Session.run { containerId, command } (outcome.account pieces)).channel.closes =
      if pieces.flatten = [] then 0 else 1 := by
  rw [(Session.hasHeard_run containerId command _).closes]
  cases passage : outcome.passage with
  | none =>
      rw [ChannelOutcome.stderr_of_failing passage, List.prefix_nil] at received
      rw [ChannelOutcome.account_of_failing passage, if_pos received]
      rfl
  | some stdout =>
      have something : outcome.passage.isSome := by
        rw [passage]
        rfl
      -- The one close comes last, so all pieces count as errors before it.
      have open' : .closed ∉ SessionEvent.opened outcome.stdout :: pieces.map .wroteError := by
        simp
      have messages : SessionEvent.errorsBeforeClose (outcome.account pieces) = pieces.flatten := by
        rw [ChannelOutcome.account_of_opened something,
          SessionEvent.errorsBeforeClose_concat_of_not_mem open',
          SessionEvent.errorsBeforeClose_of_not_mem open']
        simp [SessionEvent.errorBytes, List.flatMap_map]
      have closed : .closed ∈ outcome.account pieces := by
        rw [ChannelOutcome.account_of_opened something]
        simp
      rw [messages]
      by_cases silent : pieces.flatten = []
      · rw [if_neg fun both => both.2 silent, if_pos silent]
      · rw [if_pos ⟨closed, silent⟩, if_neg silent]

theorem IsTelling.followsProtocol
    {containerId : String} {command : List String}
    (telling : now.IsTelling { containerId, command } outcome pieces)
    (flowing : now.IsFlowing outcome) :
    now.FollowsProtocol { containerId, command } outcome pieces where
  run := telling.run
  heard := telling.heard_prefix flowing
  received := telling.received_prefix
  untouched := by
    intro open'
    rw [telling.run, (Session.hasHeard_run containerId command _).closes]
    exact if_neg fun both => open' both.1
  ends := by
    intro done
    have heard : now.run.heard = outcome.account pieces := by
      rw [telling.heard, done]
      rfl
    have past : now.driver.isPastErrors := by
      rw [done]
      rfl
    constructor
    case heard => exact heard
    case states =>
      rw [heard]
      exact Session.states_account rfl outcome pieces
    case gate =>
      rw [flowing.gate, done]
      rfl
    case closes =>
      rw [telling.run, heard]
      exact closes_run_account containerId command telling.received_prefix
    case complete =>
      intro stays
      have whole := telling.whole stays
      rwa [telling.drained past, errorsDue_of_stopped (flowing.stopped past), List.append_nil,
        List.append_nil] at whole

/-- Whatever becomes of a request, and whoever acts when, the driver keeps to the protocol: its
session hears of one failure, or of one opening, then of the error messages received, in order, and
then of one close.  Once the driver is done the session has gone from opening to failed, or by
streaming to closed; its gate is open; and it has closed the channel for good, once, exactly if
error messages were received.  The driver comes to that: until it does somebody can act, and they
cannot act for ever. -/
theorem driver_follows_protocol
    (containerId : String) (command : List String) (outcome : ChannelOutcome) {room : ℕ}
    (roomy : 0 < room) :
    (∀ now, Relation.ReflTransGen (Step outcome.stdout room)
        (start { containerId, command } outcome) now →
      (∃ pieces, now.FollowsProtocol { containerId, command } outcome pieces) ∧
        (now.driver = .done ∨ ∃ later, Step outcome.stdout room now later)) ∧
      WellFounded fun later now => Step outcome.stdout room now later := by
  refine ⟨?_, wellFounded_step outcome.stdout room⟩
  intro now run
  have flowing := isFlowing_of_run rfl run
  obtain ⟨pieces, telling⟩ := isTelling_of_run rfl run
  refine ⟨⟨pieces, telling.followsProtocol flowing⟩, ?_⟩
  rcases flowing.isDone_or_step roomy with done | goesOn
  · exact .inl done.1
  · exact .inr goesOn

def complainedSession : Session :=
  { containerId := "grid-1", command := ["tar", "-C", "/videos", "-c", "."] }

/-- A driver tells its session of complaints, in whatever pieces they come. -/
theorem complaint_closes_channel :
    0 < 1 ∧ ∀ now, Relation.ReflTransGen (Step [1] 1)
        (start complainedSession (.opened [.out [1], .err [7, 8]])) now →
      now.driver = .done → now.caller ≠ .left →
      ∃ pieces : List Bytes, pieces.flatten = [7, 8] ∧
        now.run.heard = .opened [1] :: pieces.map .wroteError ++ [.closed] ∧
        complainedSession.states now.run.heard = [.opening, .streaming, .closed] ∧
        now.run.session.gate = .unlocked (some [1]) ∧ now.run.channel.closes = 1 := by
  refine ⟨Nat.one_pos, ?_⟩
  intro now run done stays
  obtain ⟨⟨pieces, follows⟩, _⟩ := (driver_follows_protocol "grid-1"
    ["tar", "-C", "/videos", "-c", "."] (.opened [.out [1], .err [7, 8]]) Nat.one_pos).1 now run
  have ends := follows.ends done
  have messages : pieces.flatten = [7, 8] := ends.complete stays
  refine ⟨pieces, messages, ends.heard, ends.states, ends.gate, ?_⟩
  rw [ends.closes, messages]
  rfl

end Transfer

end BrowserPods
