import BrowserPods.Exec.Transfer
import BrowserPods.Proofs.Exec.Gate
import BrowserPods.Proofs.Exec.Streams
import Mathlib

/-!
# Transfers whose parties act in any order

Whatever the order in which channel, driver and caller act, a caller who reads to the end has read
the whole output (`Transfer.received_of_finished`).  The driver tells its session of the close only
once the channel has stopped playing, so closing the channel for good cuts nothing off.  Until all
parties are done one of them can act (`Transfer.isDone_or_step`), and they cannot go on for ever
(`Transfer.wellFounded_step`).
-/

namespace BrowserPods

open BrowserPods.Text

/-- Whether the driver has told the session what became of the channel. -/
def DriverStage.hasTold : DriverStage → Bool
  | .failing => false
  | .opening => false
  | _ => true

def DriverStage.isPastErrors : DriverStage → Bool
  | .awaiting => true
  | .closing => true
  | .joining => true
  | .done => true
  | _ => false

theorem DriverStage.ne_failing_of_hasTold {stage : DriverStage} (told : stage.hasTold) :
    stage ≠ .failing := by
  rintro rfl
  cases told

namespace ChannelOutcome

def stdout (outcome : ChannelOutcome) : Bytes := outcome.passage.getD []

theorem stdout_of_passage_eq_none {outcome : ChannelOutcome} (nothing : outcome.passage = none) :
    outcome.stdout = [] := by
  rw [stdout, nothing]
  rfl

theorem passage_eq_some {outcome : ChannelOutcome} (something : outcome.passage.isSome) :
    outcome.passage = some outcome.stdout := by
  obtain ⟨bytes, passage⟩ := Option.isSome_iff_exists.mp something
  rw [stdout, passage]
  rfl

end ChannelOutcome

namespace Transfer

variable {outcome : ChannelOutcome} {room : Nat} {now later : Transfer}

/-! ## Where the output is -/

theorem stdout_of_isSpent {frame : Frame} (spent : isSpent frame) (frames : List Frame) :
    (Transcript.ofFrames (frame :: frames)).stdout = (Transcript.ofFrames frames).stdout := by
  rw [Transcript.stdout_ofFrames, Transcript.stdout_ofFrames,
    Transcript.written_cons_of_isSpent spent]

theorem stdout_of_atEnd
    {frames : List Frame} (atEnd : ∀ frame ∈ frames.head?, Transcript.isStatus frame) :
    (Transcript.ofFrames frames).stdout = [] := by
  rw [Transcript.stdout_ofFrames, Transcript.written_of_atEnd atEnd]

def due (now : Transfer) : Bytes :=
  if now.playing then (Transcript.ofFrames now.frames).stdout else []

theorem due_of_playing (playing : now.playing) :
    now.due = (Transcript.ofFrames now.frames).stdout :=
  if_pos playing

theorem due_of_stopped (stopped : now.playing = false) : now.due = [] := by
  rw [due, stopped]
  rfl

/-- The output that was received, is in the pipe or is due. -/
def carried (now : Transfer) : Bytes := now.received ++ now.output ++ now.due

theorem carried_of_stopped (stopped : now.playing = false) :
    now.carried = now.received ++ now.output := by
  rw [carried, due_of_stopped stopped, List.append_nil]

/-- Playing moves output along.  Only a channel that breaks loses any. -/
theorem carried_of_plays (plays : Plays room now later) :
    later.carried = now.carried ∨ (now.caller = .left ∧ later.carried <+: now.carried) := by
  cases plays with
  | wroteOutput piece rest frames playing next nonempty fits heeded =>
      left
      simp only [carried, due, playing, next, if_true, Transcript.stdout_cons_out,
        List.append_assoc]
  | wroteErrors piece rest frames playing next nonempty fits =>
      left
      simp only [carried, due, playing, next, if_true, Transcript.stdout_cons_err]
  | turned frame frames playing next spent =>
      left
      simp only [carried, due, playing, next, if_true, stdout_of_isSpent spent]
  | ended playing atEnd =>
      left
      rw [carried, carried, due_of_playing playing, stdout_of_atEnd atEnd, due_of_stopped rfl]
  | broke bytes frames playing next nonempty gone =>
      right
      refine ⟨gone, ?_⟩
      rw [carried_of_stopped rfl]
      exact List.prefix_append _ _

structure IsFlowing (outcome : ChannelOutcome) (now : Transfer) : Prop where
  gate : now.run.session.gate =
    if now.driver.hasTold then .unlocked outcome.passage else .pending
  failing : now.driver = .failing → outcome.passage = none
  opened : now.driver ≠ .failing → now.driver ≠ .done → outcome.passage.isSome
  /-- Only a channel that has stopped is told to close. -/
  stopped : now.driver.isPastErrors → now.playing = false
  part : now.carried <+: outcome.stdout
  whole : now.caller ≠ .left → now.carried = outcome.stdout
  reading : now.caller = .reading → now.driver.hasTold ∧ outcome.passage.isSome
  finished : now.caller = .finished →
    now.driver.hasTold ∧ now.output = [] ∧ now.playing = false

theorem isFlowing_start (session : Session) (fresh : session.gate = .pending)
    (outcome : ChannelOutcome) : (start session outcome).IsFlowing outcome := by
  cases outcome with
  | refused =>
      exact ⟨fresh, fun _ => rfl, fun told => absurd rfl told, nofun, List.prefix_rfl,
        fun _ => rfl, nofun, nofun⟩
  | incomplete =>
      exact ⟨fresh, fun _ => rfl, fun told => absurd rfl told, nofun, List.prefix_rfl,
        fun _ => rfl, nofun, nofun⟩
  | opened frames =>
      exact ⟨fresh, nofun, fun _ _ => rfl, nofun, List.prefix_rfl, fun _ => rfl, nofun, nofun⟩

/-! ## One action -/

theorem playing_of_plays (plays : Plays room now later) : now.playing := by
  cases plays with
  | wroteOutput piece rest frames playing next nonempty fits heeded => exact playing
  | wroteErrors piece rest frames playing next nonempty fits => exact playing
  | turned frame frames playing next spent => exact playing
  | ended playing atEnd => exact playing
  | broke bytes frames playing next nonempty gone => exact playing

/-- The channel leaves the session and the stages of the others alone. -/
theorem others_of_plays (plays : Plays room now later) :
    later.run = now.run ∧ later.driver = now.driver ∧ later.caller = now.caller := by
  cases plays with
  | wroteOutput piece rest frames playing next nonempty fits heeded => exact ⟨rfl, rfl, rfl⟩
  | wroteErrors piece rest frames playing next nonempty fits => exact ⟨rfl, rfl, rfl⟩
  | turned frame frames playing next spent => exact ⟨rfl, rfl, rfl⟩
  | ended playing atEnd => exact ⟨rfl, rfl, rfl⟩
  | broke bytes frames playing next nonempty gone => exact ⟨rfl, rfl, rfl⟩

theorem IsFlowing.plays (flowing : now.IsFlowing outcome) (plays : Plays room now later) :
    later.IsFlowing outcome := by
  obtain ⟨run, driver, caller⟩ := others_of_plays plays
  have playing := playing_of_plays plays
  constructor
  case gate => rw [run, driver, flowing.gate]
  case failing =>
    rw [driver]
    exact flowing.failing
  case opened =>
    rw [driver]
    exact flowing.opened
  case stopped =>
    intro past
    rw [driver] at past
    rw [flowing.stopped past] at playing
    cases playing
  case part =>
    rcases carried_of_plays plays with same | ⟨_, fewer⟩
    · rw [same]
      exact flowing.part
    · exact fewer.trans flowing.part
  case whole =>
    intro stays
    rw [caller] at stays
    rcases carried_of_plays plays with same | ⟨left, _⟩
    · rw [same, flowing.whole stays]
    · exact absurd left stays
  case reading =>
    rw [driver, caller]
    exact flowing.reading
  case finished =>
    intro finished
    rw [caller] at finished
    rw [(flowing.finished finished).2.2] at playing
    cases playing

theorem IsFlowing.stdout_of_failing
    (flowing : now.IsFlowing outcome) (nothing : outcome.passage = none) :
    now.received = [] ∧ now.output = [] ∧ now.due = [] := by
  have empty : now.carried = [] := by
    have part := flowing.part
    rw [ChannelOutcome.stdout_of_passage_eq_none nothing] at part
    exact List.prefix_nil.mp part
  simpa [carried, and_assoc] using empty

/-- A driver that has told its session of an opening goes on while the channel has stopped. -/
theorem IsFlowing.advance
    (flowing : now.IsFlowing outcome) {run : SessionRun} {stage : DriverStage}
    (told : now.driver.hasTold) (notDone : now.driver ≠ .done)
    (gate : run.session.gate = now.run.session.gate) (stopped : now.playing = false)
    (tells : stage.hasTold) :
    IsFlowing outcome { now with run, driver := stage } := by
  have something := flowing.opened (DriverStage.ne_failing_of_hasTold told) notDone
  have unlocked := flowing.gate
  rw [if_pos told] at unlocked
  constructor
  case gate => rw [gate, unlocked, if_pos tells]
  case failing =>
    rintro rfl
    cases tells
  case opened => exact fun _ _ => something
  case stopped => exact fun _ => stopped
  case part => exact flowing.part
  case whole => exact flowing.whole
  case reading => exact fun _ => ⟨tells, something⟩
  case finished => exact fun finished => ⟨tells, (flowing.finished finished).2⟩

theorem IsFlowing.drives
    (flowing : now.IsFlowing outcome) (drives : Drives outcome.stdout now later) :
    later.IsFlowing outcome := by
  cases drives with
  | failed stage =>
      have nothing := flowing.failing stage
      obtain ⟨received, output, due⟩ := flowing.stdout_of_failing nothing
      have carried : Transfer.carried { now with
          run := now.run.tell .failed, playing := false, driver := .done } = outcome.stdout := by
        rw [carried_of_stopped rfl, ChannelOutcome.stdout_of_passage_eq_none nothing]
        simp [received, output]
      have pending := flowing.gate
      rw [stage] at pending
      constructor
      case gate =>
        rw [SessionRun.gate_tell, nothing]
        simp only [SessionEvent.decision]
        rw [pending]
        rfl
      case failing => nofun
      case opened => exact fun _ notDone => absurd rfl notDone
      case stopped => exact fun _ => rfl
      case part => rw [carried]
      case whole => exact fun _ => carried
      case reading => exact fun reading => ⟨rfl, (flowing.reading reading).2⟩
      case finished => exact fun finished => ⟨rfl, output, rfl⟩
  | opened stage =>
      have something : outcome.passage.isSome :=
        flowing.opened (by rw [stage]; nofun) (by rw [stage]; nofun)
      have pending := flowing.gate
      rw [stage] at pending
      exact { flowing with
        gate := by
          rw [SessionRun.gate_tell, ChannelOutcome.passage_eq_some something]
          simp only [SessionEvent.decision]
          rw [pending]
          rfl
        failing := nofun
        opened := fun _ _ => something
        stopped := nofun
        reading := fun reading => ⟨rfl, something⟩
        finished := fun finished => ⟨rfl, (flowing.finished finished).2⟩ }
  | collected piece rest stage next nonempty short =>
      exact { flowing with
        gate := by
          rw [SessionRun.gate_tell]
          exact flowing.gate }
  | collectedAll stage nothing stopped =>
      exact flowing.advance (by rw [stage]; rfl) (by rw [stage]; nofun) rfl stopped rfl
  | gotStatus stage stopped =>
      exact flowing.advance (by rw [stage]; rfl) (by rw [stage]; nofun) rfl stopped rfl
  | closed stage =>
      -- A session that closes the channel for good comes too late to cut anything off.
      have stopped : now.playing = false := flowing.stopped (by rw [stage]; rfl)
      have gate : (now.run.tell .closed).session.gate = now.run.session.gate :=
        SessionRun.gate_tell _ _
      rw [stopped, Bool.false_and, ← stopped]
      exact flowing.advance (by rw [stage]; rfl) (by rw [stage]; nofun) gate stopped rfl
  | joined stage stopped =>
      exact flowing.advance (by rw [stage]; rfl) (by rw [stage]; nofun) rfl stopped rfl

theorem IsFlowing.hasTold_of_unlocked
    (flowing : now.IsFlowing outcome) {result : Option Bytes}
    (unlocked : now.run.session.gate = .unlocked result) :
    now.driver.hasTold ∧ outcome.passage = result := by
  have gate := flowing.gate
  rw [unlocked] at gate
  split at gate
  · rename_i told
    exact ⟨told, (Gate.unlocked.inj gate).symm⟩
  · cases gate

/-- A caller may stop when there is nothing more to come. -/
theorem IsFlowing.finish
    (flowing : now.IsFlowing outcome) (stays : now.caller ≠ .left) (told : now.driver.hasTold)
    (nothing : now.output = []) (stopped : now.playing = false) :
    IsFlowing outcome { now with caller := .finished } :=
  { flowing with
    whole := fun _ => flowing.whole stays
    reading := nofun
    finished := fun _ => ⟨told, nothing, stopped⟩ }

theorem IsFlowing.attends (flowing : now.IsFlowing outcome) (attends : Attends now later) :
    later.IsFlowing outcome := by
  cases attends with
  | passed stdout stage unlocked =>
      obtain ⟨told, passage⟩ := flowing.hasTold_of_unlocked unlocked
      have stays : now.caller ≠ .left := by
        rw [stage]
        nofun
      exact { flowing with
        whole := fun _ => flowing.whole stays
        reading := fun _ => ⟨told, by rw [passage]; rfl⟩
        finished := nofun }
  | turnedAway stage unlocked =>
      obtain ⟨told, nothing⟩ := flowing.hasTold_of_unlocked unlocked
      obtain ⟨_, output, _⟩ := flowing.stdout_of_failing nothing
      -- Only a driver that is done has opened the gate to nothing.
      have done : now.driver = .done := by
        by_contra notDone
        have something := flowing.opened (DriverStage.ne_failing_of_hasTold told) notDone
        rw [nothing] at something
        cases something
      have stopped : now.playing = false := flowing.stopped (by rw [done]; rfl)
      exact flowing.finish (by rw [stage]; nofun) told output stopped
  | took piece rest stage next nonempty =>
      have carried : Transfer.carried { now with
          received := now.received ++ piece, output := rest } = now.carried := by
        simp only [Transfer.carried, due, next, List.append_assoc]
      exact { flowing with
        part := by
          rw [carried]
          exact flowing.part
        whole := by
          intro stays
          rw [carried]
          exact flowing.whole stays
        finished := fun finished => nomatch stage.symm.trans finished }
  | tookAll stage nothing stopped =>
      exact flowing.finish (by rw [stage]; nofun) (flowing.reading stage).1 nothing stopped
  | left stage =>
      exact { flowing with
        whole := fun stays => absurd rfl stays
        reading := nofun
        finished := nofun }

/-! ## Runs -/

theorem IsFlowing.step
    (flowing : now.IsFlowing outcome) (step : Step outcome.stdout room now later) :
    later.IsFlowing outcome := by
  cases step with
  | channel plays => exact flowing.plays plays
  | driver drives => exact flowing.drives drives
  | caller attends => exact flowing.attends attends

theorem isFlowing_of_run
    {session : Session} (fresh : session.gate = .pending)
    (run : Relation.ReflTransGen (Step outcome.stdout room) (start session outcome) now) :
    now.IsFlowing outcome := by
  induction run with
  | refl => exact isFlowing_start session fresh outcome
  | tail earlier step inductionHypothesis => exact inductionHypothesis.step step

/-- A caller who has read to the end has read the whole output. -/
theorem IsFlowing.received_of_finished
    (flowing : now.IsFlowing outcome) (finished : now.caller = .finished) :
    now.received = outcome.stdout := by
  have stays : now.caller ≠ .left := by
    rw [finished]
    nofun
  obtain ⟨_, nothing, stopped⟩ := flowing.finished finished
  have whole := flowing.whole stays
  rwa [carried_of_stopped stopped, nothing, List.append_nil] at whole

/-- What a caller has read is at any time a beginning of the output. -/
theorem IsFlowing.received_prefix (flowing : now.IsFlowing outcome) :
    now.received <+: outcome.stdout := by
  have initial : now.received <+: now.carried := by
    rw [carried, List.append_assoc]
    exact List.prefix_append _ _
  exact initial.trans flowing.part

/-! ## Progress -/

/-- A caller at an open gate can go on as long as there is something to do, and so can one who reads
while there is output or no more comes. -/
theorem IsFlowing.exists_attends
    (flowing : now.IsFlowing outcome) (told : now.driver.hasTold)
    (present : now.caller = .waiting ∨ now.caller = .reading)
    (something : now.output ≠ [] ∨ now.playing = false) :
    ∃ later, Attends now later := by
  rcases present with waiting | reading
  · have gate := flowing.gate
    rw [if_pos told] at gate
    cases passage : outcome.passage with
    | none => exact ⟨_, .turnedAway now waiting (gate.trans (by rw [passage]))⟩
    | some bytes => exact ⟨_, .passed now bytes waiting (gate.trans (by rw [passage]))⟩
  · by_cases nothing : now.output = []
    · have stopped := something.resolve_left fun output => output nothing
      exact ⟨_, .tookAll now reading nothing stopped⟩
    · exact ⟨_, .took now now.output [] reading (List.append_nil _).symm nothing⟩

/-- A channel that plays can go on, or it waits for the caller to make room in the pipe of the
output, or for the driver to make room in the other. -/
theorem exists_plays_or_full (roomy : 0 < room) (playing : now.playing) (silent : now.errors = []) :
    (∃ later, Plays room now later) ∨ (now.output ≠ [] ∧ now.caller ≠ .left) := by
  cases frames : now.frames with
  | nil => exact .inl ⟨_, .ended now playing (by simp [frames])⟩
  | cons frame rest =>
      cases frame with
      | status status =>
          have atEnd : ∀ frame ∈ now.frames.head?, Transcript.isStatus frame := by
            simp [frames, Transcript.isStatus]
          exact .inl ⟨_, .ended now playing atEnd⟩
      | err bytes =>
          left
          cases bytes with
          | nil => exact ⟨_, .turned now _ rest playing frames rfl⟩
          | cons byte others =>
              have fits : now.errors.length + [byte].length ≤ room := by
                rw [silent]
                exact roomy
              exact ⟨_, .wroteErrors now [byte] others rest playing frames nofun fits⟩
      | out bytes =>
          cases bytes with
          | nil => exact .inl ⟨_, .turned now _ rest playing frames rfl⟩
          | cons byte others =>
              by_cases gone : now.caller = .left
              · exact .inl ⟨_, .broke now _ rest playing frames nofun gone⟩
              · by_cases fits : now.output.length + [byte].length ≤ room
                · left
                  exact ⟨_, .wroteOutput now [byte] others rest playing frames nofun fits gone⟩
                · refine .inr ⟨?_, gone⟩
                  intro nothing
                  rw [nothing] at fits
                  exact fits roomy

/-- A driver that reads error messages has some, or the channel can write more or has stopped, or
both wait for a caller who can read. -/
theorem IsFlowing.exists_step_of_collecting
    (flowing : now.IsFlowing outcome) (roomy : 0 < room) (stage : now.driver = .collecting) :
    ∃ later, Step outcome.stdout room now later := by
  cases errors : now.errors with
  | cons byte others =>
      have short : [byte].length ≤ readLimit := by simp [readLimit]
      exact ⟨_, .driver (.collected now [byte] others stage errors nofun short)⟩
  | nil =>
      cases playing : now.playing with
      | false => exact ⟨_, .driver (.collectedAll now stage errors playing)⟩
      | true =>
          rcases exists_plays_or_full roomy playing errors with
            ⟨later, plays⟩ | ⟨full, stays⟩
          · exact ⟨later, .channel plays⟩
          · have present : now.caller = .waiting ∨ now.caller = .reading := by
              cases caller : now.caller with
              | waiting => exact .inl rfl
              | reading => exact .inr rfl
              | finished => exact absurd (flowing.finished caller).2.1 full
              | left => exact absurd caller stays
            have told : now.driver.hasTold := by
              rw [stage]
              rfl
            obtain ⟨later, attends⟩ := flowing.exists_attends told present (.inl full)
            exact ⟨later, .caller attends⟩

/-- Until all parties are done one of them can act. -/
theorem IsFlowing.isDone_or_step (flowing : now.IsFlowing outcome) (roomy : 0 < room) :
    now.IsDone ∨ ∃ later, Step outcome.stdout room now later := by
  cases stage : now.driver with
  | failing => exact .inr ⟨_, .driver (.failed now stage)⟩
  | opening => exact .inr ⟨_, .driver (.opened now stage)⟩
  | collecting => exact .inr (flowing.exists_step_of_collecting roomy stage)
  | awaiting =>
      have stopped : now.playing = false := flowing.stopped (by rw [stage]; rfl)
      exact .inr ⟨_, .driver (.gotStatus now stage stopped)⟩
  | closing => exact .inr ⟨_, .driver (.closed now stage)⟩
  | joining =>
      have stopped : now.playing = false := flowing.stopped (by rw [stage]; rfl)
      exact .inr ⟨_, .driver (.joined now stage stopped)⟩
  | done =>
      have stopped : now.playing = false := flowing.stopped (by rw [stage]; rfl)
      have told : now.driver.hasTold := by
        rw [stage]
        rfl
      cases caller : now.caller with
      | waiting =>
          obtain ⟨later, attends⟩ := flowing.exists_attends told (.inl caller) (.inr stopped)
          exact .inr ⟨later, .caller attends⟩
      | reading =>
          obtain ⟨later, attends⟩ := flowing.exists_attends told (.inr caller) (.inr stopped)
          exact .inr ⟨later, .caller attends⟩
      | finished => exact .inl ⟨stage, .inl caller⟩
      | left => exact .inl ⟨stage, .inr caller⟩

/-! ## Termination -/

/-- What a frame takes to be played, with each byte counted until it is read. -/
def frameWork : Frame → Nat
  | .out bytes => 2 * bytes.length + 1
  | .err bytes => 2 * bytes.length + 1
  | .status _ => 1

theorem frameWork_pos (frame : Frame) : 0 < frameWork frame := by
  cases frame with
  | out bytes => exact Nat.succ_pos _
  | err bytes => exact Nat.succ_pos _
  | status status => exact Nat.succ_pos _

def driverWork : DriverStage → Nat
  | .failing => 1
  | .opening => 5
  | .collecting => 4
  | .awaiting => 3
  | .closing => 2
  | .joining => 1
  | .done => 0

def callerWork : CallerStage → Nat
  | .waiting => 2
  | .reading => 1
  | .finished => 0
  | .left => 0

def work (now : Transfer) : Nat :=
  (now.frames.map frameWork).sum + now.output.length + now.errors.length + now.playing.toNat +
    driverWork now.driver + callerWork now.caller

theorem work_lt_of_plays (plays : Plays room now later) : later.work < now.work := by
  cases plays with
  | wroteOutput piece rest frames playing next nonempty fits heeded =>
      have some := List.length_pos_iff.mpr nonempty
      simp only [work, next, List.map_cons, List.sum_cons, frameWork, List.length_append]
      omega
  | wroteErrors piece rest frames playing next nonempty fits =>
      have some := List.length_pos_iff.mpr nonempty
      simp only [work, next, List.map_cons, List.sum_cons, frameWork, List.length_append]
      omega
  | turned frame frames playing next spent =>
      have some := frameWork_pos frame
      simp only [work, next, List.map_cons, List.sum_cons]
      omega
  | ended playing atEnd =>
      simp only [work, playing, Bool.toNat_true, Bool.toNat_false]
      omega
  | broke bytes frames playing next nonempty gone =>
      simp only [work, playing, Bool.toNat_true, Bool.toNat_false]
      omega

theorem work_lt_of_drives {stdout : Bytes} (drives : Drives stdout now later) :
    later.work < now.work := by
  cases drives with
  | failed stage =>
      simp only [work, stage, driverWork, Bool.toNat_false]
      omega
  | opened stage =>
      simp only [work, stage, driverWork]
      omega
  | collected piece rest stage next nonempty short =>
      have some := List.length_pos_iff.mpr nonempty
      simp only [work, next, List.length_append]
      omega
  | collectedAll stage nothing stopped =>
      simp only [work, stage, driverWork]
      omega
  | gotStatus stage stopped =>
      simp only [work, stage, driverWork]
      omega
  | closed stage =>
      have fewer : ∀ cut : Bool, (now.playing && cut).toNat ≤ now.playing.toNat := by
        intro cut
        cases cut with
        | false => simp
        | true => simp
      have less := fewer ((now.run.tell .closed).channel.closes == now.run.channel.closes)
      simp only [work, stage, driverWork]
      omega
  | joined stage stopped =>
      simp only [work, stage, driverWork]
      omega

theorem work_lt_of_attends (attends : Attends now later) : later.work < now.work := by
  cases attends with
  | passed stdout stage unlocked =>
      simp only [work, stage, callerWork]
      omega
  | turnedAway stage unlocked =>
      simp only [work, stage, callerWork]
      omega
  | took piece rest stage next nonempty =>
      have some := List.length_pos_iff.mpr nonempty
      simp only [work, next, List.length_append]
      omega
  | tookAll stage nothing stopped =>
      simp only [work, stage, callerWork]
      omega
  | left stage =>
      rcases stage with waiting | reading
      · simp only [work, waiting, callerWork]
        omega
      · simp only [work, reading, callerWork]
        omega

/-- The parties cannot go on for ever. -/
theorem wellFounded_step (stdout : Bytes) (room : Nat) :
    WellFounded fun later now => Step stdout room now later := by
  refine Subrelation.wf ?_ (measure work).wf
  intro later now step
  cases step with
  | channel plays => exact work_lt_of_plays plays
  | driver drives => exact work_lt_of_drives drives
  | caller attends => exact work_lt_of_attends attends

end Transfer

end BrowserPods
