import BrowserPods.Proofs.Exec.Streams
import BrowserPods.Proofs.Exec.Transfer
import Mathlib

/-!
# Collections whose parties act in any order

Whatever the order in which channel, collector and caller act, the result of a command is what its
channel plays before the first status, the output first and the error messages behind it, and the
channel is asked for the output, asked for the status and released, once each and in this order
(`Collection.alwaysCollects`).  Until all parties are done one of them can act, since both pipes are
read side by side, and they cannot go on for ever.
-/

namespace BrowserPods

open BrowserPods.Text

namespace Collection

variable {wait : Bool} {room : ℕ} {script : List Frame} {now later : Collection} {side other : Side}

/-! ## Pipes -/

@[simp]
theorem pipe_withPipe_self (now : Collection) (side : Side) (pipe : Pipe) :
    (now.withPipe side pipe).pipe side = pipe := by
  cases side with
  | output => rfl
  | errors => rfl

theorem pipe_withPipe_of_ne (now : Collection) (pipe : Pipe) (different : other ≠ side) :
    (now.withPipe side pipe).pipe other = now.pipe other := by
  cases side with
  | output =>
      cases other with
      | output => exact absurd rfl different
      | errors => rfl
  | errors =>
      cases other with
      | output => rfl
      | errors => exact absurd rfl different

theorem pipe_eq_of_same (output : later.output = now.output) (errors : later.errors = now.errors)
    (side : Side) : later.pipe side = now.pipe side := by
  cases side with
  | output => exact output
  | errors => exact errors

@[simp]
theorem playing_withPipe (now : Collection) (side : Side) (pipe : Pipe) :
    (now.withPipe side pipe).playing = now.playing := by
  cases side <;> rfl

@[simp]
theorem frames_withPipe (now : Collection) (side : Side) (pipe : Pipe) :
    (now.withPipe side pipe).frames = now.frames := by
  cases side <;> rfl

@[simp]
theorem status_withPipe (now : Collection) (side : Side) (pipe : Pipe) :
    (now.withPipe side pipe).status = now.status := by
  cases side <;> rfl

@[simp]
theorem stage_withPipe (now : Collection) (side : Side) (pipe : Pipe) :
    (now.withPipe side pipe).stage = now.stage := by
  cases side <;> rfl

@[simp]
theorem calls_withPipe (now : Collection) (side : Side) (pipe : Pipe) :
    (now.withPipe side pipe).calls = now.calls := by
  cases side <;> rfl

@[simp]
theorem answer_withPipe (now : Collection) (side : Side) (pipe : Pipe) :
    (now.withPipe side pipe).answer = now.answer := by
  cases side <;> rfl

/-! ## Where the bytes and the status are -/

/-- What the channel has still to play of a stream. -/
def due (now : Collection) (side : Side) : Bytes :=
  if now.playing then Transcript.written side now.frames else []

/-- What was read of a stream, is in its pipe or is due. -/
def carried (now : Collection) (side : Side) : Bytes :=
  (now.pipe side).taken ++ (now.pipe side).held ++ now.due side

def finalStatus (now : Collection) : Option CommandStatus :=
  if now.playing then Transcript.finalStatus now.frames else now.status

theorem due_of_playing (playing : now.playing) (side : Side) :
    now.due side = Transcript.written side now.frames :=
  if_pos playing

theorem due_of_stopped (stopped : now.playing = false) (side : Side) : now.due side = [] := by
  rw [due, stopped]
  rfl

theorem finalStatus_of_stopped (stopped : now.playing = false) : now.finalStatus = now.status := by
  rw [finalStatus, stopped]
  rfl

theorem playing_of_plays (plays : Plays room now later) : now.playing := by
  cases plays with
  | wrote side piece rest frames playing next nonempty fits => exact playing
  | turned frame frames playing next spent => exact playing
  | ended playing atEnd => exact playing

/-- The channel leaves the collector and the caller alone. -/
theorem others_of_plays (plays : Plays room now later) :
    later.stage = now.stage ∧ later.calls = now.calls ∧ later.answer = now.answer := by
  cases plays with
  | wrote side piece rest frames playing next nonempty fits =>
      exact ⟨stage_withPipe now side _, calls_withPipe now side _, answer_withPipe now side _⟩
  | turned frame frames playing next spent => exact ⟨rfl, rfl, rfl⟩
  | ended playing atEnd => exact ⟨rfl, rfl, rfl⟩

/-- Playing moves the bytes of both streams along. -/
theorem carried_of_plays (plays : Plays room now later) (side : Side) :
    later.carried side = now.carried side ∧
      (later.pipe side).ended = (now.pipe side).ended := by
  cases plays with
  | wrote other piece rest frames playing next nonempty fits =>
      have pipes : ∀ side,
          Collection.pipe { now.withPipe other { now.pipe other with
            held := (now.pipe other).held ++ piece } with
              frames := other.frame rest :: frames } side =
          (now.withPipe other { now.pipe other with
            held := (now.pipe other).held ++ piece }).pipe side :=
        pipe_eq_of_same rfl rfl
      rw [carried, carried, due_of_playing playing, due_of_playing (by simpa using playing), pipes,
        next, Transcript.written_cons (Transcript.isStatus_frame other _),
        Transcript.written_cons (Transcript.isStatus_frame other _)]
      by_cases same : side = other
      · subst same
        simp [Transcript.bytes_frame_self]
      · simp [Transcript.bytes_frame_of_ne same, pipe_withPipe_of_ne now _ same]
  | turned frame frames playing next spent =>
      have pipes : ∀ side, Collection.pipe { now with frames } side = now.pipe side :=
        pipe_eq_of_same rfl rfl
      rw [carried, carried, due_of_playing playing, due_of_playing (by exact playing), pipes, next,
        Transcript.written_cons_of_isSpent spent]
      exact ⟨rfl, rfl⟩
  | ended playing atEnd =>
      have pipes : ∀ side, Collection.pipe { now with
          playing := false, status := Transcript.finalStatus now.frames } side = now.pipe side :=
        pipe_eq_of_same rfl rfl
      rw [carried, carried, due_of_playing playing, due_of_stopped rfl, pipes,
        Transcript.written_of_atEnd atEnd]
      exact ⟨rfl, rfl⟩

theorem finalStatus_of_plays (plays : Plays room now later) :
    later.finalStatus = now.finalStatus := by
  cases plays with
  | wrote side piece rest frames playing next nonempty fits =>
      simp [finalStatus, playing, next,
        Transcript.finalStatus_cons (Transcript.isStatus_frame side _)]
  | turned frame frames playing next spent =>
      simp [finalStatus, playing, next,
        Transcript.finalStatus_cons (Transcript.isStatus_of_isSpent spent)]
  | ended playing atEnd => simp [finalStatus, playing]

end Collection

/-! ## Stages -/

namespace CollectorStage

/-- The calls that a collector has made when it comes to a stage. -/
def calls : CollectorStage → List ChannelCall
  | .asking => []
  | .reading => [.output]
  | .awaiting _ => [.output, .status]
  | .releasing _ => [.output, .status, .release]
  | .done _ => [.output, .status, .release]

def isPastReading : CollectorStage → Bool
  | .asking => false
  | .reading => false
  | _ => true

def IsRight (script : List Frame) : CollectorStage → Prop
  | .awaiting output => output = (Transcript.result script).output
  | .releasing result => result = Transcript.result script
  | .done result => result = Transcript.result script
  | _ => True

theorem calls_prefix (stage : CollectorStage) : stage.calls <+: [.output, .status, .release] := by
  cases stage with
  | asking => exact List.nil_prefix
  | reading => exact ⟨[.status, .release], rfl⟩
  | awaiting output => exact ⟨[.release], rfl⟩
  | releasing result => exact List.prefix_rfl
  | done result => exact List.prefix_rfl

end CollectorStage

namespace Collection

variable {wait : Bool} {room : ℕ} {script : List Frame} {now later : Collection} {side other : Side}

def start (script : List Frame) : Collection := { frames := script }

structure IsCollecting (script : List Frame) (wait : Bool) (now : Collection) : Prop where
  carried : ∀ side, now.carried side = Transcript.written side script
  status : now.finalStatus = Transcript.finalStatus script
  /-- Only a pipe that nobody writes to any more has an end. -/
  ended : ∀ side, (now.pipe side).ended → (now.pipe side).held = [] ∧ now.playing = false
  read : now.stage.isPastReading → ∀ side, (now.pipe side).ended
  right : now.stage.IsRight script
  calls : now.calls = now.stage.calls
  answered : ∀ outcome, now.answer = some outcome →
    if wait then ∃ result, now.stage = .done result ∧ outcome = some result else outcome = none

theorem isCollecting_start (script : List Frame) (wait : Bool) :
    (start script).IsCollecting script wait where
  carried side := by
    cases side with
    | output => rfl
    | errors => rfl
  status := rfl
  ended side ended := by
    cases side with
    | output => cases ended
    | errors => cases ended
  read past := by cases past
  right := trivial
  calls := rfl
  answered outcome answer := by cases answer

namespace IsCollecting

/-- Nothing is left to read of a stream that has ended. -/
theorem taken_of_ended (collecting : now.IsCollecting script wait)
    (ended : (now.pipe side).ended) : (now.pipe side).taken = Transcript.written side script := by
  obtain ⟨nothing, stopped⟩ := collecting.ended side ended
  have carried := collecting.carried side
  rw [Collection.carried, nothing, due_of_stopped stopped, List.append_nil, List.append_nil]
    at carried
  exact carried

theorem plays (collecting : now.IsCollecting script wait) (plays : Plays room now later) :
    later.IsCollecting script wait := by
  obtain ⟨stage, calls, answer⟩ := others_of_plays plays
  have playing := playing_of_plays plays
  -- While the channel plays no pipe has an end, so the collector is not past reading.
  have unended : ∀ side, ¬ (now.pipe side).ended := by
    intro side ended
    rw [(collecting.ended side ended).2] at playing
    cases playing
  constructor
  case carried =>
    intro side
    rw [(carried_of_plays plays side).1]
    exact collecting.carried side
  case status =>
    rw [finalStatus_of_plays plays]
    exact collecting.status
  case ended =>
    intro side ended
    rw [(carried_of_plays plays side).2] at ended
    exact absurd ended (unended side)
  case read =>
    intro past
    rw [stage] at past
    exact absurd (collecting.read past .output) (unended .output)
  case right =>
    rw [stage]
    exact collecting.right
  case calls =>
    rw [calls, stage]
    exact collecting.calls
  case answered =>
    rw [answer, stage]
    exact collecting.answered

/-- A collector that is not done goes on to a next stage and leaves the pipes as they are. -/
theorem advance (collecting : now.IsCollecting script wait) {stage : CollectorStage}
    {calls : List ChannelCall} {fails : Bool} (notDone : ∀ result, now.stage ≠ .done result)
    (right : stage.IsRight script) (read : stage.isPastReading → ∀ side, (now.pipe side).ended)
    (made : calls = stage.calls) :
    IsCollecting script wait { now with stage, calls, releaseFailed := fails } := by
  refine { collecting with read := read, right := right, calls := made, answered := ?_ }
  intro outcome answer
  have answered := collecting.answered outcome answer
  cases wait with
  | false => exact answered
  | true =>
      obtain ⟨result, done, _⟩ := answered
      exact absurd done (notDone result)

/-- A collector that reads from a pipe leaves the other one as it is. -/
theorem withPipe (collecting : now.IsCollecting script wait) (stage : now.stage = .reading)
    {pipe : Pipe}
    (carried : pipe.taken ++ pipe.held = (now.pipe side).taken ++ (now.pipe side).held)
    (ended : pipe.ended → pipe.held = [] ∧ now.playing = false) :
    (now.withPipe side pipe).IsCollecting script wait := by
  have due : ∀ other, (now.withPipe side pipe).due other = now.due other := by
    intro other
    simp [Collection.due]
  constructor
  case carried =>
    intro other
    rw [← collecting.carried other, Collection.carried, Collection.carried, due]
    by_cases same : other = side
    · subst same
      rw [pipe_withPipe_self, carried]
    · rw [pipe_withPipe_of_ne now pipe same]
  case status =>
    rw [← collecting.status]
    simp [Collection.finalStatus]
  case ended =>
    intro other isEnded
    by_cases same : other = side
    · subst same
      rw [pipe_withPipe_self] at isEnded ⊢
      simpa using ended isEnded
    · rw [pipe_withPipe_of_ne now pipe same] at isEnded ⊢
      simpa using collecting.ended other isEnded
  case read =>
    intro past
    rw [stage_withPipe, stage] at past
    cases past
  case right =>
    rw [stage_withPipe]
    exact collecting.right
  case calls =>
    rw [calls_withPipe, stage_withPipe]
    exact collecting.calls
  case answered =>
    rw [answer_withPipe, stage_withPipe]
    exact collecting.answered

theorem collects (collecting : now.IsCollecting script wait) (collects : Collects now later) :
    later.IsCollecting script wait := by
  have calls := collecting.calls
  cases collects with
  | asked stage =>
      rw [stage] at calls
      exact collecting.advance (by simp [stage]) trivial (by simp [CollectorStage.isPastReading])
        (by rw [calls]; rfl)
  | took side piece rest stage next nonempty =>
      refine collecting.withPipe stage ?_ ?_
      · rw [next, List.append_assoc]
      · -- A pipe that has ended holds nothing that could be read.
        intro ended
        obtain ⟨nothing, _⟩ := collecting.ended side ended
        rw [next] at nothing
        exact absurd (List.append_eq_nil_iff.mp nothing).1 nonempty
  | tookAll side stage more nothing stopped =>
      exact collecting.withPipe stage rfl fun _ => ⟨nothing, stopped⟩
  | gathered stage output errors =>
      have ended : ∀ side, (now.pipe side).ended := by
        intro side
        cases side with
        | output => exact output
        | errors => exact errors
      have taken : ∀ side, (now.pipe side).taken = Transcript.written side script :=
        fun side => collecting.taken_of_ended (ended side)
      rw [stage] at calls
      refine collecting.advance (by simp [stage]) ?_ (fun _ => ended) (by rw [calls]; rfl)
      exact congrArg₂ (· ++ ·) (taken .output) (taken .errors)
  | gotStatus output stage stopped =>
      have right := collecting.right
      have status := collecting.status
      rw [stage] at calls right
      rw [finalStatus_of_stopped stopped] at status
      refine collecting.advance (by simp [stage]) ?_ ?_ (by rw [calls]; rfl)
      · rw [right, status]
        rfl
      · exact fun _ => collecting.read (by rw [stage]; rfl)
  | released result fails stage stopped =>
      have right := collecting.right
      rw [stage] at calls right
      exact collecting.advance (by simp [stage]) right
        (fun _ => collecting.read (by rw [stage]; rfl)) (by rw [calls]; rfl)

theorem goesOn (collecting : now.IsCollecting script wait) (goesOn : GoesOn wait now later) :
    later.IsCollecting script wait := by
  cases goesOn with
  | waited result waits stage pending =>
      refine { collecting with answered := ?_ }
      intro outcome answer
      rw [if_pos waits]
      exact ⟨result, stage, (Option.some.inj answer).symm⟩
  | atOnce waits pending =>
      refine { collecting with answered := ?_ }
      intro outcome answer
      rw [if_neg (by simp [waits])]
      exact (Option.some.inj answer).symm

theorem step (collecting : now.IsCollecting script wait) (step : Step wait room now later) :
    later.IsCollecting script wait := by
  cases step with
  | channel plays => exact collecting.plays plays
  | collector collects => exact collecting.collects collects
  | caller goesOn => exact collecting.goesOn goesOn

end IsCollecting

theorem isCollecting_of_run
    (run : Relation.ReflTransGen (Step wait room) (start script) now) :
    now.IsCollecting script wait := by
  induction run with
  | refl => exact isCollecting_start script wait
  | tail earlier step inductionHypothesis => exact inductionHypothesis.step step

/-! ## Progress -/

/-- Into pipes that hold nothing a channel can play on. -/
theorem exists_plays (roomy : 0 < room) (playing : now.playing)
    (nothing : ∀ side, (now.pipe side).held = []) : ∃ later, Plays room now later := by
  have writes : ∀ (side : Side) (byte : UInt8) (rest : Bytes) (frames : List Frame),
      now.frames = side.frame (byte :: rest) :: frames → ∃ later, Plays room now later := by
    intro side byte rest frames next
    have fits : (now.pipe side).held.length + [byte].length ≤ room := by
      rw [nothing side]
      exact roomy
    exact ⟨_, .wrote now side [byte] rest frames playing next (List.cons_ne_nil _ _) fits⟩
  cases next : now.frames with
  | nil => exact ⟨_, .ended now playing (by simp [next])⟩
  | cons frame frames =>
      cases frame with
      | out bytes =>
          cases bytes with
          | nil => exact ⟨_, .turned now _ frames playing next rfl⟩
          | cons byte rest => exact writes .output byte rest frames next
      | err bytes =>
          cases bytes with
          | nil => exact ⟨_, .turned now _ frames playing next rfl⟩
          | cons byte rest => exact writes .errors byte rest frames next
      | status status =>
          refine ⟨_, .ended now playing ?_⟩
          intro frame isFirst
          rw [next] at isFirst
          cases isFirst
          rfl

/-- A collector that reads finds bytes or an end, or the channel can play on. -/
theorem exists_step_of_reading (roomy : 0 < room) (stage : now.stage = .reading) :
    ∃ later, Step wait room now later := by
  by_cases something : ∃ side, (now.pipe side).held ≠ []
  · obtain ⟨side, nonempty⟩ := something
    exact ⟨_, .collector (.took now side _ [] stage (List.append_nil _).symm nonempty)⟩
  · have nothing : ∀ side, (now.pipe side).held = [] := by
      intro side
      by_contra nonempty
      exact something ⟨side, nonempty⟩
    cases playing : now.playing with
    | true =>
        obtain ⟨later, plays⟩ := exists_plays roomy playing nothing
        exact ⟨later, .channel plays⟩
    | false =>
        cases output : now.output.ended with
        | false => exact ⟨_, .collector (.tookAll now .output stage output (nothing _) playing)⟩
        | true =>
            cases errors : now.errors.ended with
            | false => exact ⟨_, .collector (.tookAll now .errors stage errors (nothing _) playing)⟩
            | true => exact ⟨_, .collector (.gathered now stage output errors)⟩

/-- Until all parties are done one of them can act. -/
theorem IsCollecting.isDone_or_step (collecting : now.IsCollecting script wait)
    (roomy : 0 < room) : now.IsDone ∨ ∃ later, Step wait room now later := by
  have stopped : now.stage.isPastReading → now.playing = false :=
    fun past => (collecting.ended .output (collecting.read past .output)).2
  cases stage : now.stage with
  | asking => exact .inr ⟨_, .collector (.asked now stage)⟩
  | reading => exact .inr (exists_step_of_reading roomy stage)
  | awaiting output =>
      exact .inr ⟨_, .collector (.gotStatus now output stage (stopped (by rw [stage]; rfl)))⟩
  | releasing result =>
      exact .inr ⟨_, .collector (.released now result false stage (stopped (by rw [stage]; rfl)))⟩
  | done result =>
      cases answer : now.answer with
      | some outcome => exact .inl ⟨⟨result, stage⟩, by rw [answer]; rfl⟩
      | none =>
          right
          cases wait with
          | true => exact ⟨_, .caller (.waited now result rfl stage answer)⟩
          | false => exact ⟨_, .caller (.atOnce now rfl answer)⟩

/-! ## Termination -/

def pipeWork (pipe : Pipe) : ℕ := pipe.held.length + (!pipe.ended).toNat

def stageWork : CollectorStage → ℕ
  | .asking => 4
  | .reading => 3
  | .awaiting _ => 2
  | .releasing _ => 1
  | .done _ => 0

def work (now : Collection) : ℕ :=
  (now.frames.map Transfer.frameWork).sum + pipeWork now.output + pipeWork now.errors +
    now.playing.toNat + stageWork now.stage + now.answer.isNone.toNat

/-- Whoever writes to a pipe or reads from one leaves less to do if it is less at that pipe and the
frames. -/
theorem work_lt_of_pipe {pipe : Pipe} {frames : List Frame}
    (less : pipeWork pipe + (frames.map Transfer.frameWork).sum <
      pipeWork (now.pipe side) + (now.frames.map Transfer.frameWork).sum) :
    Collection.work { now.withPipe side pipe with frames } < now.work := by
  cases side with
  | output =>
      simp only [work, withPipe, Collection.pipe] at less ⊢
      omega
  | errors =>
      simp only [work, withPipe, Collection.pipe] at less ⊢
      omega

theorem work_withPipe_lt {pipe : Pipe} (less : pipeWork pipe < pipeWork (now.pipe side)) :
    (now.withPipe side pipe).work < now.work := by
  have same : { now.withPipe side pipe with frames := now.frames } = now.withPipe side pipe := by
    cases side <;> rfl
  rw [← same]
  exact work_lt_of_pipe (Nat.add_lt_add_right less _)

theorem frameWork_frame (side : Side) (bytes : Bytes) :
    Transfer.frameWork (side.frame bytes) = 2 * bytes.length + 1 := by
  cases side with
  | output => rfl
  | errors => rfl

theorem work_lt_of_plays (plays : Plays room now later) : later.work < now.work := by
  cases plays with
  | wrote side piece rest frames playing next nonempty fits =>
      have some := List.length_pos_iff.mpr nonempty
      apply work_lt_of_pipe
      rw [next]
      simp only [pipeWork, List.map_cons, List.sum_cons, frameWork_frame, List.length_append]
      omega
  | turned frame frames playing next spent =>
      have some := Transfer.frameWork_pos frame
      simp only [work, next, List.map_cons, List.sum_cons]
      omega
  | ended playing atEnd =>
      simp only [work, playing, Bool.toNat_true, Bool.toNat_false]
      omega

theorem work_lt_of_collects (collects : Collects now later) : later.work < now.work := by
  cases collects with
  | asked stage =>
      simp only [work, stage, stageWork]
      omega
  | took side piece rest stage next nonempty =>
      have some := List.length_pos_iff.mpr nonempty
      apply work_withPipe_lt
      simp only [pipeWork, next, List.length_append]
      omega
  | tookAll side stage more nothing stopped =>
      apply work_withPipe_lt
      simp [pipeWork, more]
  | gathered stage output errors =>
      simp only [work, stage, stageWork]
      omega
  | gotStatus output stage stopped =>
      simp only [work, stage, stageWork]
      omega
  | released result fails stage stopped =>
      simp only [work, stage, stageWork]
      omega

theorem work_lt_of_goesOn (goesOn : GoesOn wait now later) : later.work < now.work := by
  cases goesOn with
  | waited result waits stage pending =>
      simp only [work, pending, Option.isNone_none, Option.isNone_some, Bool.toNat_true,
        Bool.toNat_false]
      omega
  | atOnce waits pending =>
      simp only [work, pending, Option.isNone_none, Option.isNone_some, Bool.toNat_true,
        Bool.toNat_false]
      omega

/-- The parties cannot go on for ever. -/
theorem wellFounded_step (wait : Bool) (room : ℕ) :
    WellFounded fun later now => Step wait room now later := by
  refine Subrelation.wf ?_ (measure work).wf
  intro later now step
  cases step with
  | channel plays => exact work_lt_of_plays plays
  | collector collects => exact work_lt_of_collects collects
  | caller goesOn => exact work_lt_of_goesOn goesOn

/-! ## All collections -/

/-- What becomes of a command in every collection, whoever acts when. -/
structure AlwaysCollects (script : List Frame) (wait : Bool) (room : ℕ) (result : CommandResult) :
    Prop where
  calls : ∀ now, Relation.ReflTransGen (Step wait room) (start script) now →
    now.calls <+: [.output, .status, .release]
  /-- The status is asked for once both streams were read to their ends. -/
  read : ∀ now, Relation.ReflTransGen (Step wait room) (start script) now →
    .status ∈ now.calls →
      ∀ side, (now.pipe side).ended ∧ (now.pipe side).taken = Transcript.written side script
  /-- The channel is released once the result is known. -/
  known : ∀ now, Relation.ReflTransGen (Step wait room) (start script) now →
    .release ∈ now.calls → now.stage = .releasing result ∨ now.stage = .done result
  done : ∀ now found, Relation.ReflTransGen (Step wait room) (start script) now →
    now.stage = .done found → found = result ∧ now.calls = [.output, .status, .release]
  answered : ∀ now outcome, Relation.ReflTransGen (Step wait room) (start script) now →
    now.answer = some outcome →
      if wait then outcome = some result ∧ now.stage = .done result else outcome = none
  goesOn : ∀ now, Relation.ReflTransGen (Step wait room) (start script) now →
    now.IsDone ∨ ∃ later, Step wait room now later
  ends : WellFounded fun later now => Step wait room now later

theorem alwaysCollects (script : List Frame) (wait : Bool) (roomy : 0 < room) :
    AlwaysCollects script wait room (Transcript.result script) where
  calls := by
    intro now run
    rw [(isCollecting_of_run run).calls]
    exact now.stage.calls_prefix
  read := by
    intro now run asked side
    have collecting := isCollecting_of_run run
    have past : now.stage.isPastReading := by
      rw [collecting.calls] at asked
      cases stage : now.stage with
      | asking => simp [stage, CollectorStage.calls] at asked
      | reading => simp [stage, CollectorStage.calls] at asked
      | awaiting output => rfl
      | releasing result => rfl
      | done result => rfl
    have ended := collecting.read past side
    exact ⟨ended, collecting.taken_of_ended ended⟩
  known := by
    intro now run asked
    have collecting := isCollecting_of_run run
    have right := collecting.right
    rw [collecting.calls] at asked
    cases stage : now.stage with
    | asking => simp [stage, CollectorStage.calls] at asked
    | reading => simp [stage, CollectorStage.calls] at asked
    | awaiting output => simp [stage, CollectorStage.calls] at asked
    | releasing found =>
        rw [stage] at right
        exact .inl (congrArg CollectorStage.releasing right)
    | done found =>
        rw [stage] at right
        exact .inr (congrArg CollectorStage.done right)
  done := by
    intro now found run done
    have collecting := isCollecting_of_run run
    have right := collecting.right
    have calls := collecting.calls
    rw [done] at right calls
    exact ⟨right, calls⟩
  answered := by
    intro now outcome run answer
    have collecting := isCollecting_of_run run
    have answered := collecting.answered outcome answer
    cases wait with
    | false => exact answered
    | true =>
        obtain ⟨found, done, rfl⟩ := answered
        have right := collecting.right
        rw [done] at right
        rw [done]
        exact ⟨congrArg some right, congrArg CollectorStage.done right⟩
  goesOn := fun now run => (isCollecting_of_run run).isDone_or_step roomy
  ends := wellFounded_step wait room

end Collection

end BrowserPods
