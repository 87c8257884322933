import BrowserPods.Exec.Session
import Mathlib

/-!
# What a session does with what it hears

A session may hear of its channel anything, in any order and any number of times.  It closes the
channel at most once: at the first close that it hears, and only if error messages came before
(`Session.closes_channel_at_most_once`).  It takes an opening at its word, even after a failure or a
close (`Session.stays_iff_not_opened`).
-/

namespace BrowserPods

open BrowserPods.Text

variable {events : List SessionEvent} {event : SessionEvent} {run : SessionRun}

/-! ## Runs -/

namespace Session

theorem run_concat (session : Session) (events : List SessionEvent) (event : SessionEvent) :
    session.run (events ++ [event]) = (session.run events).tell event := by
  rw [run, List.foldl_append]
  rfl

end Session

namespace SessionRun

variable (run)

theorem tell_opened (stdout : Bytes) :
    run.tell (.opened stdout) =
      { run with
        session := run.session.opened stdout, heard := run.heard ++ [.opened stdout] } := by
  simp [tell, Session.step]

theorem tell_failed :
    run.tell .failed =
      { run with session := run.session.failed, heard := run.heard ++ [.failed] } := by
  simp [tell, Session.step]

theorem tell_wroteError (bytes : Bytes) :
    run.tell (.wroteError bytes) =
      { run with
        session := run.session.wroteError bytes, heard := run.heard ++ [.wroteError bytes] } := by
  simp [tell, Session.step]

end SessionRun

/-! ## The close of the channel -/

namespace SessionEvent

def errorBytes : SessionEvent → Bytes
  | .wroteError bytes => bytes
  | _ => []

def errorsBeforeClose (events : List SessionEvent) : Bytes :=
  (events.takeWhile (· ≠ .closed)).flatMap errorBytes

/-- The answers to the closes: the first is whether error messages came before, and all others are
no. -/
def closeAnswers (events : List SessionEvent) : List Bool :=
  match events.count .closed with
  | 0 => []
  | later + 1 => decide (errorsBeforeClose events ≠ []) :: List.replicate later false

theorem errorsBeforeClose_append_of_mem
    (closed : .closed ∈ events) (late : List SessionEvent) :
    errorsBeforeClose (events ++ late) = errorsBeforeClose events := by
  have stops : ¬ ∀ event ∈ events, decide (event ≠ .closed) = true := by
    intro open'
    exact absurd rfl (of_decide_eq_true (open' _ closed))
  rw [errorsBeforeClose, errorsBeforeClose, List.takeWhile_append, if_neg]
  intro whole
  have same := (List.takeWhile_prefix (fun event => decide (event ≠ SessionEvent.closed))
    (l := events)).eq_of_length whole
  exact stops (List.takeWhile_eq_self_iff.mp same)

theorem takeWhile_of_not_mem (open' : .closed ∉ events) :
    events.takeWhile (· ≠ .closed) = events := by
  rw [List.takeWhile_eq_self_iff]
  intro earlier member
  refine decide_eq_true ?_
  rintro rfl
  exact open' member

theorem errorsBeforeClose_of_not_mem (open' : .closed ∉ events) :
    errorsBeforeClose events = events.flatMap errorBytes := by
  rw [errorsBeforeClose, takeWhile_of_not_mem open']

theorem errorsBeforeClose_concat_of_not_mem
    (open' : .closed ∉ events) (event : SessionEvent) :
    errorsBeforeClose (events ++ [event]) = errorsBeforeClose events ++ event.errorBytes := by
  have whole := List.takeWhile_eq_self_iff.mp (takeWhile_of_not_mem open')
  rw [errorsBeforeClose_of_not_mem open', errorsBeforeClose, List.takeWhile_append_of_pos whole,
    List.flatMap_append]
  congr 1
  by_cases isClosed : event = .closed
  · subst isClosed
    rfl
  · simp [isClosed]

end SessionEvent

open SessionEvent

/-- What holds of a new session once it has heard some events. -/
structure SessionRun.HasHeard (events : List SessionEvent) (run : SessionRun) : Prop where
  heardClose : run.session.heardClose = decide (.closed ∈ events)
  /-- What comes after the first close does not matter. -/
  stderr : .closed ∉ events → run.session.stderr = errorsBeforeClose events
  closes : run.channel.closes =
    if .closed ∈ events ∧ errorsBeforeClose events ≠ [] then 1 else 0
  answers : run.answers = closeAnswers events

namespace SessionEvent

theorem closeAnswers_of_not_mem (open' : .closed ∉ events) : closeAnswers events = [] := by
  rw [closeAnswers, List.count_eq_zero.mpr open']

theorem closeAnswers_of_count {later : ℕ} (counted : events.count .closed = later + 1) :
    closeAnswers events =
      decide (errorsBeforeClose events ≠ []) :: List.replicate later false := by
  rw [closeAnswers, counted]

theorem exists_count_closed (closed : .closed ∈ events) :
    ∃ later, events.count .closed = later + 1 :=
  Nat.exists_eq_add_one_of_ne_zero (List.count_pos_iff.mpr closed).ne'

theorem closeAnswers_concat_of_ne (other : event ≠ .closed) :
    closeAnswers (events ++ [event]) = closeAnswers events := by
  by_cases closed : .closed ∈ events
  · obtain ⟨later, counted⟩ := exists_count_closed closed
    have same : (events ++ [event]).count .closed = later + 1 := by
      rw [List.count_append, counted, List.count_singleton, if_neg (by simpa using other)]
    rw [closeAnswers_of_count counted, closeAnswers_of_count same,
      errorsBeforeClose_append_of_mem closed]
  · have still : .closed ∉ events ++ [event] := by
      simp [closed, Ne.symm other]
    rw [closeAnswers_of_not_mem closed, closeAnswers_of_not_mem still]

theorem closeAnswers_concat_closed (events : List SessionEvent) :
    closeAnswers (events ++ [.closed]) = closeAnswers events ++
      [decide (.closed ∉ events ∧ errorsBeforeClose events ≠ [])] := by
  have next : (events ++ [SessionEvent.closed]).count .closed = events.count .closed + 1 := by
    rw [List.count_append, List.count_singleton_self]
  rw [closeAnswers_of_count next]
  by_cases closed : .closed ∈ events
  · obtain ⟨later, counted⟩ := exists_count_closed closed
    rw [closeAnswers_of_count counted, counted, errorsBeforeClose_append_of_mem closed,
      List.replicate_succ']
    simp [closed]
  · rw [closeAnswers_of_not_mem closed, errorsBeforeClose_concat_of_not_mem closed,
      List.count_eq_zero.mpr closed]
    simp [closed, errorBytes]

end SessionEvent

namespace SessionRun

/-- Nothing but a close concerns the channel. -/
theorem tell_of_ne_closed (run : SessionRun) (other : event ≠ .closed) :
    (run.tell event).session.heardClose = run.session.heardClose ∧
      (run.tell event).session.stderr = run.session.stderr ++ event.errorBytes ∧
      (run.tell event).channel = run.channel ∧ (run.tell event).answers = run.answers := by
  cases event with
  | opened stdout =>
      rw [tell_opened]
      simp [Session.opened, errorBytes]
  | failed =>
      rw [tell_failed]
      simp [Session.failed, errorBytes]
  | wroteError bytes =>
      rw [tell_wroteError]
      simp [Session.wroteError, errorBytes]
  | closed => exact absurd rfl other

theorem tell_closed (run : SessionRun) :
    (run.tell .closed).session.heardClose = true ∧
      (run.tell .closed).channel =
        (if run.session.heardClose = false ∧ run.session.stderr ≠ [] then run.channel.close
          else run.channel) ∧
      (run.tell .closed).answers =
        run.answers ++ [decide (run.session.heardClose = false ∧ run.session.stderr ≠ [])] := by
  have silent : run.session.stderrText = "" ↔ run.session.stderr = [] :=
    Utf8.decodeLossy_eq_empty_iff run.session.stderr
  cases heard : run.session.heardClose with
  | true => simp [tell, Session.step, Session.closed, heard]
  | false =>
      by_cases nothing : run.session.stderr = []
      · simp [tell, Session.step, Session.closed, heard, silent.mpr nothing, nothing]
      · have text : run.session.stderrText ≠ "" := fun empty => nothing (silent.mp empty)
        simp [tell, Session.step, Session.closed, heard, text, nothing]

theorem HasHeard.channel_eq (hasHeard : run.HasHeard events) :
    run.channel =
      { closes := if .closed ∈ events ∧ errorsBeforeClose events ≠ [] then 1 else 0 } := by
  rw [← hasHeard.closes]

theorem HasHeard.tell_first_close (hasHeard : run.HasHeard events) (open' : .closed ∉ events) :
    (run.tell .closed).HasHeard (events ++ [.closed]) := by
  obtain ⟨heardClose, channel, answers⟩ := run.tell_closed
  have now : .closed ∈ events ++ [SessionEvent.closed] := by simp
  have before : run.session.heardClose = false := by
    rw [hasHeard.heardClose]
    exact decide_eq_false open'
  have stderr := hasHeard.stderr open'
  have untouched : run.channel.closes = 0 := by
    rw [hasHeard.closes]
    exact if_neg fun both => open' both.1
  have nothingNew : errorsBeforeClose (events ++ [.closed]) = errorsBeforeClose events :=
    (errorsBeforeClose_concat_of_not_mem open' _).trans (List.append_nil _)
  constructor
  case heardClose => rw [heardClose, decide_eq_true now]
  case stderr => exact fun never => absurd now never
  case closes =>
    rw [channel, stderr, nothingNew]
    by_cases nothing : errorsBeforeClose events = []
    · simp [before, nothing, untouched]
    · simp [before, nothing, Channel.close, untouched]
  case answers =>
    rw [answers, hasHeard.answers, closeAnswers_concat_closed, stderr]
    simp [before, open']

theorem HasHeard.tell_late_close (hasHeard : run.HasHeard events) (closed : .closed ∈ events) :
    (run.tell .closed).HasHeard (events ++ [.closed]) := by
  obtain ⟨heardClose, channel, answers⟩ := run.tell_closed
  have now : .closed ∈ events ++ [SessionEvent.closed] := by simp
  have before : run.session.heardClose = true := by
    rw [hasHeard.heardClose]
    exact decide_eq_true closed
  constructor
  case heardClose => rw [heardClose, decide_eq_true now]
  case stderr => exact fun never => absurd now never
  case closes =>
    rw [channel, if_neg (by simp [before]), hasHeard.closes,
      errorsBeforeClose_append_of_mem closed]
    simp [closed]
  case answers =>
    rw [answers, hasHeard.answers, closeAnswers_concat_closed]
    simp [before, closed]

theorem HasHeard.tell_of_ne_closed (hasHeard : run.HasHeard events) (other : event ≠ .closed) :
    (run.tell event).HasHeard (events ++ [event]) := by
  obtain ⟨heardClose, stderr, channel, answers⟩ := run.tell_of_ne_closed other
  have same : .closed ∈ events ++ [event] ↔ .closed ∈ events := by
    simp [Ne.symm other]
  constructor
  case heardClose => rw [heardClose, hasHeard.heardClose, decide_eq_decide.mpr same]
  case stderr =>
    intro never
    have before : .closed ∉ events := fun closed => never (same.mpr closed)
    rw [stderr, hasHeard.stderr before, errorsBeforeClose_concat_of_not_mem before]
  case closes =>
    rw [channel, hasHeard.closes]
    by_cases closed : .closed ∈ events
    · rw [errorsBeforeClose_append_of_mem closed]
      simp [closed]
    · rw [if_neg fun both => closed both.1, if_neg fun both => closed (same.mp both.1)]
  case answers => rw [answers, hasHeard.answers, closeAnswers_concat_of_ne other]

theorem HasHeard.tell (hasHeard : run.HasHeard events) (event : SessionEvent) :
    (run.tell event).HasHeard (events ++ [event]) := by
  by_cases isClose : event = .closed
  · subst isClose
    by_cases closed : .closed ∈ events
    · exact hasHeard.tell_late_close closed
    · exact hasHeard.tell_first_close closed
  · exact hasHeard.tell_of_ne_closed isClose

end SessionRun

namespace Session

theorem hasHeard_run (containerId : String) (command : List String) (events : List SessionEvent) :
    (Session.run { containerId, command } events).HasHeard events := by
  induction events using List.reverseRecOn with
  | nil => exact ⟨rfl, fun _ => rfl, rfl, rfl⟩
  | append_singleton earlier event inductionHypothesis =>
      rw [run_concat]
      exact inductionHypothesis.tell event

/-- A new session closes its channel at most once, whatever it hears: once if error messages come
before the first close that it hears, and otherwise never.  The answers to the closes tell which of
them it was, and after the first close nothing makes a difference. -/
theorem closes_channel_at_most_once
    (containerId : String) (command : List String) (events : List SessionEvent) :
    (Session.run { containerId, command } events).channel.closes ≤ 1 ∧
      ((Session.run { containerId, command } events).channel.closes = 1 ↔
        .closed ∈ events ∧ errorsBeforeClose events ≠ []) ∧
      (Session.run { containerId, command } events).answers = closeAnswers events ∧
      ∀ before late : List SessionEvent,
        (Session.run { containerId, command } (before ++ .closed :: late)).channel =
          (Session.run { containerId, command } (before ++ [.closed])).channel := by
  have hasHeard := hasHeard_run containerId command events
  refine ⟨?_, ?_, hasHeard.answers, ?_⟩
  · rw [hasHeard.closes]
    split <;> decide
  · rw [hasHeard.closes]
    split
    · rename_i both
      exact iff_of_true rfl both
    · rename_i notBoth
      exact iff_of_false Nat.zero_ne_one notBoth
  · intro before late
    have closed : .closed ∈ before ++ [SessionEvent.closed] := by simp
    have whole : before ++ SessionEvent.closed :: late = before ++ [.closed] ++ late := by simp
    rw [whole, (hasHeard_run containerId command _).channel_eq,
      (hasHeard_run containerId command _).channel_eq, errorsBeforeClose_append_of_mem closed]
    simp [closed]

end Session

/-! ## States that a session does not leave -/

def SessionState.after (state : SessionState) : SessionEvent → SessionState
  | .opened _ => .streaming
  | .failed => .failed
  | .wroteError _ => state
  | .closed => if state = .failed then .failed else .closed

theorem SessionRun.state_tell (run : SessionRun) (event : SessionEvent) :
    (run.tell event).session.state = run.session.state.after event := by
  cases event with
  | opened stdout => rw [tell_opened]; rfl
  | failed => rw [tell_failed]; rfl
  | wroteError bytes => rw [tell_wroteError]; rfl
  | closed =>
      simp only [tell, Session.step, Session.closed]
      split
      · rfl
      · rfl

namespace Session

theorem state_run (session : Session) (events : List SessionEvent) :
    (session.run events).session.state = events.foldl SessionState.after session.state := by
  induction events using List.reverseRecOn with
  | nil => rfl
  | append_singleton earlier event inductionHypothesis =>
      rw [run_concat, SessionRun.state_tell, inductionHypothesis, List.foldl_append]
      rfl

section Lasting

variable (lasting : SessionState → Prop)

/-- What an opening alone could end lasts while there is none. -/
theorem lasting_foldl_after
    (failed : lasting .failed) (closed : ∀ state, lasting state → lasting (state.after .closed))
    {state : SessionState} (now : lasting state) {events : List SessionEvent}
    (unopened : ∀ stdout, .opened stdout ∉ events) :
    lasting (events.foldl SessionState.after state) := by
  induction events generalizing state with
  | nil => exact now
  | cons event rest inductionHypothesis =>
      have restUnopened : ∀ stdout, .opened stdout ∉ rest := by
        intro stdout member
        exact unopened stdout (List.mem_cons_of_mem _ member)
      refine inductionHypothesis ?_ restUnopened
      cases event with
      | opened stdout => exact absurd List.mem_cons_self (unopened stdout)
      | failed => exact failed
      | wroteError bytes => exact now
      | closed => exact closed state now

/-- What lasts through failures and closes, but not through an opening, lasts as long as there is
none, and no longer. -/
theorem lasting_iff_unopened
    (failed : lasting .failed) (closed : ∀ state, lasting state → lasting (state.after .closed))
    (ends : ¬ lasting .streaming) {session : Session} (now : lasting session.state)
    (later : List SessionEvent) :
    (∀ seen, seen <+: later → lasting (session.run seen).session.state) ↔
      ∀ stdout, .opened stdout ∉ later := by
  constructor
  · intro lasts stdout member
    obtain ⟨before, after, rfl⟩ := List.append_of_mem member
    have seen : before ++ [.opened stdout] <+: before ++ .opened stdout :: after :=
      ⟨after, by simp⟩
    have state := lasts _ seen
    rw [state_run, List.foldl_append] at state
    exact ends state
  · intro unopened seen initial
    rw [state_run]
    exact lasting_foldl_after lasting failed closed now fun stdout member =>
      unopened stdout (initial.subset member)

end Lasting

/-- After a failure a session stays failed, and a closed session does not stream again, exactly as
long as it hears of no opening. -/
theorem stays_iff_not_opened (session : Session) (later : List SessionEvent) :
    ((∀ seen, seen <+: later → (session.failed.run seen).session.state = .failed) ↔
        ∀ stdout, .opened stdout ∉ later) ∧
      (session.state = .closed →
        ((∀ seen, seen <+: later → (session.run seen).session.state ≠ .streaming) ↔
          ∀ stdout, .opened stdout ∉ later)) := by
  constructor
  · refine lasting_iff_unopened (· = .failed) rfl ?_ (by decide) rfl later
    rintro state rfl
    rfl
  · intro closed
    have notStreaming : session.state ≠ .streaming := by
      rw [closed]
      decide
    refine lasting_iff_unopened (· ≠ .streaming) (by decide) ?_ (by decide) notStreaming later
    intro state _
    cases state with
    | opening => decide
    | streaming => decide
    | closed => decide
    | failed => decide

def copySession : Session :=
  { containerId := "grid-40000-a", command := ["tar", "-C", "/videos", "-c", "."] }

/-- A copy that has come to its end takes more failures and closes without beginning anew. -/
theorem ended_copy_stays :
    (copySession.run [.opened [1], .closed]).session.state = .closed ∧
      ((∀ seen, seen <+: [.failed, .closed] →
          ((copySession.run [.opened [1], .closed]).session.run seen).session.state ≠
            .streaming) ↔
        ∀ stdout, SessionEvent.opened stdout ∉ [.failed, .closed]) := by
  have closed : (copySession.run [.opened [1], .closed]).session.state = .closed := by
    rw [state_run]
    rfl
  exact ⟨closed, (stays_iff_not_opened _ [.failed, .closed]).2 closed⟩

/-- An opening that is reported after a failure, or after a close, makes the session stream. -/
theorem streams_after_failure_or_close :
    copySession.state = .opening ∧
      ((copySession.run [.failed]).session.state = .failed ∧
        (copySession.run [.failed, .opened [1]]).session.state ≠ .failed) ∧
      (copySession.run [.closed]).session.state = .closed ∧
        (copySession.run [.closed, .opened [1]]).session.state = .streaming := by
  simp only [state_run]
  decide

end Session

end BrowserPods
