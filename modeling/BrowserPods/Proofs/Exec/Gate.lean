import BrowserPods.Exec.Session
import Mathlib

/-!
# The gate between a session and its caller

Two parties act at a gate in any order: those who hold handles to the session tell it of events,
make more handles and drop them, and the caller looks at the gate or leaves.  The first opening,
failure or drop of the last handle decides what comes through the gate (`ExchangeAction.verdict`),
and nothing later changes it.  The caller gets that, once, and what the caller does makes no
difference to the session (`SessionExchange.OpensOnce`).
-/

namespace BrowserPods

open BrowserPods.Text

/-- What an event decides about the gate: an opening lets its output through, and a failure lets
nothing through. -/
def SessionEvent.decision : SessionEvent → Option (Option Bytes)
  | .opened stdout => some (some stdout)
  | .failed => some none
  | _ => none

namespace ExchangeAction

/-- What decides a gate while there are some handles to its session: the first event that decides,
or the drop of the last handle, which lets nothing through. -/
def verdict : Nat → List ExchangeAction → Option (Option Bytes)
  | _, [] => none
  | handles, .holder (.tell event) :: rest => event.decision.or (verdict handles rest)
  | handles, .holder .share :: rest => verdict (handles + 1) rest
  | handles, .holder .drop :: rest =>
    if handles ≤ 1 then some none else verdict (handles - 1) rest
  | handles, .caller _ :: rest => verdict handles rest

def isHolder : ExchangeAction → Bool
  | .holder _ => true
  | .caller _ => false

theorem verdict_append
    {handles : Nat} {actions : List ExchangeAction} {result : Option Bytes}
    (decided : verdict handles actions = some result) (later : List ExchangeAction) :
    verdict handles (actions ++ later) = some result := by
  induction actions generalizing handles with
  | nil => cases decided
  | cons action rest inductionHypothesis =>
      rcases action with (event | _ | _) | action
      · rw [verdict] at decided
        rw [List.cons_append, verdict]
        cases decides : event.decision with
        | none =>
            rw [decides, Option.none_or] at decided
            rw [Option.none_or, inductionHypothesis decided]
        | some first =>
            rw [decides, Option.some_or] at decided
            rw [Option.some_or, decided]
      · rw [verdict] at decided
        rw [List.cons_append, verdict]
        exact inductionHypothesis decided
      · rw [verdict] at decided
        rw [List.cons_append, verdict]
        by_cases last : handles ≤ 1
        · rwa [if_pos last] at decided ⊢
        · rw [if_neg last] at decided ⊢
          exact inductionHypothesis decided
      · rw [verdict] at decided
        rw [List.cons_append, verdict]
        exact inductionHypothesis decided

end ExchangeAction

namespace Gate

def ofVerdict : Option (Option Bytes) → Gate
  | none => .pending
  | some result => .unlocked result

def view : Gate → GateView
  | .pending => .pending
  | .unlocked none => .empty
  | .unlocked (some bytes) => .stdout bytes

theorem unlock_of_ne_pending {gate : Gate} (decided : gate ≠ .pending) (result : Option Bytes) :
    gate.unlock result = gate := by
  cases gate with
  | pending => exact absurd rfl decided
  | unlocked earlier => rfl

theorem unlock_ne_pending (gate : Gate) (result : Option Bytes) :
    gate.unlock result ≠ .pending := by
  cases gate with
  | pending => nofun
  | unlocked earlier => nofun

end Gate

theorem Session.gate_step (session : Session) (channel : Channel) (event : SessionEvent) :
    (session.step channel event).1.gate =
      match event.decision with
      | none => session.gate
      | some result => session.gate.unlock result := by
  cases event with
  | opened stdout => rfl
  | failed => rfl
  | wroteError bytes => rfl
  | closed =>
      simp only [Session.step, Session.closed]
      split
      · rfl
      · rfl

namespace SessionRun

theorem gate_tell (run : SessionRun) (event : SessionEvent) :
    (run.tell event).session.gate =
      match event.decision with
      | none => run.session.gate
      | some result => run.session.gate.unlock result :=
  Session.gate_step run.session run.channel event

/-- A gate that is decided stays as it is. -/
theorem gate_foldl_tell
    {run : SessionRun} (decided : run.session.gate ≠ .pending) (events : List SessionEvent) :
    (events.foldl SessionRun.tell run).session.gate = run.session.gate := by
  induction events generalizing run with
  | nil => rfl
  | cons event rest inductionHypothesis =>
      have same : (run.tell event).session.gate = run.session.gate := by
        rw [gate_tell]
        split
        · rfl
        · exact Gate.unlock_of_ne_pending decided _
      rw [List.foldl_cons, inductionHypothesis (by rwa [same]), same]

end SessionRun

/-- Whether a caller passes a gate with what is seen. -/
def GateView.isResult : GateView → Bool
  | .empty => true
  | .stdout _ => true
  | _ => false

namespace SessionExchange

open ExchangeAction

variable {exchange : SessionExchange} {session : Session} {actions : List ExchangeAction}

/-! ## One action of a holder -/

theorem gate_of_session (present : exchange.session = some session) :
    exchange.gate = session.gate := by
  rw [gate, present]

theorem hold_of_dropped (gone : exchange.session = none) (action : HolderAction) :
    exchange.hold action = exchange := by
  cases action with
  | tell event => simp [hold, tell?, gone]
  | share => simp [hold, share, gone]
  | drop => simp [hold, dropSession, gone]

theorem hold_tell (present : exchange.session = some session) (event : SessionEvent) :
    exchange.hold (.tell event) =
      { exchange with
        session := some (session.step exchange.channel event).1
        channel := (session.step exchange.channel event).2.1 } := by
  simp [hold, tell?, present]

theorem hold_share (present : exchange.session = some session) :
    exchange.hold .share = { exchange with handles := exchange.handles + 1 } := by
  simp [hold, share, present]

theorem hold_drop_of_le
    (present : exchange.session = some session) (last : exchange.handles ≤ 1) :
    exchange.hold .drop =
      { exchange with
        session := none, handles := 0, abandonedGate := session.gate.unlock none } := by
  simp [hold, dropSession, present, last, Session.gateAfterDrop]

theorem hold_drop_of_lt
    (present : exchange.session = some session) (more : ¬ exchange.handles ≤ 1) :
    exchange.hold .drop = { exchange with handles := exchange.handles - 1 } := by
  simp [hold, dropSession, present, more]

/-- What a holder does has the same effect whether or not the caller waits. -/
theorem hold_dropGate (exchange : SessionExchange) (action : HolderAction) :
    exchange.dropGate.hold action = (exchange.hold action).dropGate := by
  cases present : exchange.session with
  | none =>
      have gone : exchange.dropGate.session = none := present
      rw [hold_of_dropped present, hold_of_dropped gone]
  | some session =>
      have still : exchange.dropGate.session = some session := present
      cases action with
      | tell event =>
          rw [hold_tell present, hold_tell still]
          rfl
      | share =>
          rw [hold_share present, hold_share still]
          rfl
      | drop =>
          by_cases last : exchange.handles ≤ 1
          · rw [hold_drop_of_le present last, hold_drop_of_le still last]
            rfl
          · rw [hold_drop_of_lt present last, hold_drop_of_lt still last]
            rfl

theorem waiting_hold (exchange : SessionExchange) (action : HolderAction) :
    (exchange.hold action).waiting = exchange.waiting := by
  cases present : exchange.session with
  | none => rw [hold_of_dropped present]
  | some session =>
      cases action with
      | tell event => rw [hold_tell present]
      | share => rw [hold_share present]
      | drop =>
          by_cases last : exchange.handles ≤ 1
          · rw [hold_drop_of_le present last]
          · rw [hold_drop_of_lt present last]

/-! ## One action of the caller -/

theorem poll_eq (exchange : SessionExchange) :
    exchange.poll =
      if exchange.waiting then
        (if exchange.gate = .pending then exchange else exchange.dropGate, exchange.gate.view)
      else (exchange, .gone) := by
  rw [poll]
  cases waiting : exchange.waiting with
  | false => rfl
  | true =>
      cases gate : exchange.gate with
      | pending => rfl
      | unlocked result =>
          cases result with
          | none => rfl
          | some bytes => rfl

/-- The caller changes nothing but whether it waits. -/
theorem dropGate_attend (exchange : SessionExchange) (action : CallerAction) :
    (exchange.attend action).1.dropGate = exchange.dropGate := by
  cases action with
  | leave => rfl
  | poll =>
      simp only [attend, poll_eq]
      split
      · split
        · rfl
        · rfl
      · rfl

/-- A caller still waits who has not left and has seen nothing but a pending gate. -/
theorem waiting_attend_iff (exchange : SessionExchange) (action : CallerAction) :
    (exchange.attend action).1.waiting ↔
      exchange.waiting ∧ action ≠ .leave ∧
        ∀ view ∈ (exchange.attend action).2, view = .pending := by
  cases action with
  | leave => simp [attend, dropGate]
  | poll =>
      rw [attend, poll_eq]
      cases waiting : exchange.waiting with
      | false => simp [waiting]
      | true =>
          cases gate : exchange.gate with
          | pending => simp [waiting, Gate.view]
          | unlocked result =>
              cases result with
              | none => simp [dropGate, Gate.view]
              | some bytes => simp [dropGate, Gate.view]

/-- The caller sees a pending gate, the decided gate, or nothing more. -/
theorem view_of_mem_attend
    {action : CallerAction} {view : GateView} (shown : view ∈ (exchange.attend action).2) :
    (exchange.waiting = false ∧ view = .gone) ∨
      (exchange.waiting = true ∧ view = exchange.gate.view) := by
  cases action with
  | leave => cases shown
  | poll =>
      rw [attend, poll_eq] at shown
      cases waiting : exchange.waiting with
      | false =>
          rw [waiting] at shown
          cases shown
          exact .inl ⟨rfl, rfl⟩
      | true =>
          rw [waiting] at shown
          cases shown
          exact .inr ⟨rfl, rfl⟩

/-! ## The verdict -/

structure IsSound (exchange : SessionExchange) : Prop where
  held : exchange.session.isSome → 1 ≤ exchange.handles
  dropped : exchange.session = none → exchange.gate ≠ .pending

/-- The gate as some actions will leave it. -/
def destiny (exchange : SessionExchange) (actions : List ExchangeAction) : Gate :=
  if exchange.gate = .pending then .ofVerdict (verdict exchange.handles actions)
  else exchange.gate

theorem destiny_of_ne_pending (decided : exchange.gate ≠ .pending) :
    exchange.destiny actions = exchange.gate :=
  if_neg decided

theorem destiny_hold_tell
    (present : exchange.session = some session) (event : SessionEvent)
    (rest : List ExchangeAction) :
    (exchange.hold (.tell event)).destiny rest =
      exchange.destiny (.holder (.tell event) :: rest) := by
  have gate := gate_of_session present
  have next : (exchange.hold (.tell event)).gate =
      (session.step exchange.channel event).1.gate := by
    rw [hold_tell present]
    rfl
  rw [Session.gate_step] at next
  cases decides : event.decision with
  | none =>
      rw [decides] at next
      simp only [destiny, next, gate, verdict, decides, Option.none_or]
      rw [hold_tell present]
  | some result =>
      rw [decides] at next
      change _ = session.gate.unlock result at next
      have decided : (exchange.hold (.tell event)).gate ≠ .pending := by
        rw [next]
        exact Gate.unlock_ne_pending _ _
      rw [destiny_of_ne_pending decided, next, destiny, gate]
      by_cases pending : session.gate = .pending
      · rw [if_pos pending, pending, verdict, decides]
        rfl
      · rw [if_neg pending]
        exact Gate.unlock_of_ne_pending pending result

theorem destiny_hold_drop
    (present : exchange.session = some session) (rest : List ExchangeAction) :
    (exchange.hold .drop).destiny rest = exchange.destiny (.holder .drop :: rest) := by
  have gate := gate_of_session present
  by_cases last : exchange.handles ≤ 1
  · have next : (exchange.hold .drop).gate = session.gate.unlock none := by
      rw [hold_drop_of_le present last]
      rfl
    have decided : (exchange.hold .drop).gate ≠ .pending := by
      rw [next]
      exact Gate.unlock_ne_pending _ _
    rw [destiny_of_ne_pending decided, next, destiny, gate]
    by_cases pending : session.gate = .pending
    · rw [if_pos pending, pending, verdict, if_pos last]
      rfl
    · rw [if_neg pending]
      exact Gate.unlock_of_ne_pending pending none
  · rw [hold_drop_of_lt present last, destiny, destiny, verdict, if_neg last]
    rfl

/-- After an action the other actions lead to the same gate as they did with it. -/
theorem destiny_act (sound : exchange.IsSound) (action : ExchangeAction)
    (rest : List ExchangeAction) :
    (exchange.act action).1.destiny rest = exchange.destiny (action :: rest) := by
  cases action with
  | holder action =>
      change (exchange.hold action).destiny rest = _
      cases present : exchange.session with
      | none =>
          have decided := sound.dropped present
          rw [hold_of_dropped present, destiny_of_ne_pending decided,
            destiny_of_ne_pending decided]
      | some session =>
          cases action with
          | tell event => exact destiny_hold_tell present event rest
          | share =>
              rw [hold_share present]
              rfl
          | drop => exact destiny_hold_drop present rest
  | caller action =>
      change (exchange.attend action).1.dropGate.destiny rest = _
      rw [dropGate_attend]
      rfl

theorem IsSound.hold (sound : exchange.IsSound) (action : HolderAction) :
    (exchange.hold action).IsSound := by
  cases present : exchange.session with
  | none => rwa [hold_of_dropped present]
  | some session =>
      have held := sound.held (by rw [present]; rfl)
      cases action with
      | tell event =>
          rw [hold_tell present]
          exact ⟨fun _ => held, nofun⟩
      | share =>
          rw [hold_share present]
          have more : 1 ≤ exchange.handles + 1 := Nat.le_add_right_of_le held
          exact ⟨fun _ => more, fun gone => nomatch present.symm.trans gone⟩
      | drop =>
          by_cases last : exchange.handles ≤ 1
          · rw [hold_drop_of_le present last]
            exact ⟨nofun, fun _ => Gate.unlock_ne_pending _ _⟩
          · have others : 1 ≤ exchange.handles - 1 := by omega
            rw [hold_drop_of_lt present last]
            exact ⟨fun _ => others, fun gone => nomatch present.symm.trans gone⟩

theorem IsSound.act (sound : exchange.IsSound) (action : ExchangeAction) :
    (exchange.act action).1.IsSound := by
  cases action with
  | holder action => exact sound.hold action
  | caller action =>
      -- Only `waiting` has changed, and soundness does not speak of it.
      have still : (exchange.attend action).1.dropGate.IsSound := by
        rw [dropGate_attend]
        exact ⟨sound.held, sound.dropped⟩
      exact ⟨still.held, still.dropped⟩

theorem gate_run (sound : exchange.IsSound) (actions : List ExchangeAction) :
    (exchange.run actions).1.gate = exchange.destiny actions := by
  induction actions generalizing exchange with
  | nil =>
      rw [destiny]
      split
      · assumption
      · rfl
  | cons action rest inductionHypothesis =>
      rw [← destiny_act sound]
      exact inductionHypothesis (sound.act action)

/-! ## What the caller sees -/

theorem mem_views_cons
    {action : ExchangeAction} {rest : List ExchangeAction} {view : GateView} :
    view ∈ (exchange.run (action :: rest)).2 ↔
      view ∈ (exchange.act action).2 ∨ view ∈ ((exchange.act action).1.run rest).2 := by
  simp [run]

theorem waiting_act_iff (exchange : SessionExchange) (action : ExchangeAction) :
    (exchange.act action).1.waiting ↔
      exchange.waiting ∧ action ≠ .caller .leave ∧
        ∀ view ∈ (exchange.act action).2, view = .pending := by
  cases action with
  | holder action =>
      change (exchange.hold action).waiting ↔ _
      rw [waiting_hold]
      simp [act]
  | caller action =>
      change (exchange.attend action).1.waiting ↔ _
      rw [waiting_attend_iff]
      simp [act]

theorem waiting_run_iff (exchange : SessionExchange) (actions : List ExchangeAction) :
    (exchange.run actions).1.waiting ↔
      exchange.waiting ∧ .caller .leave ∉ actions ∧
        ∀ view ∈ (exchange.run actions).2, view = .pending := by
  induction actions generalizing exchange with
  | nil => simp [run]
  | cons action rest inductionHypothesis =>
      have first := waiting_act_iff exchange action
      have others := inductionHypothesis (exchange.act action).1
      simp only [mem_views_cons]
      change ((exchange.act action).1.run rest).1.waiting ↔ _
      rw [others, first]
      constructor
      · rintro ⟨⟨waiting, here, seen⟩, stays, seenLater⟩
        refine ⟨waiting, by simp [Ne.symm here, stays], ?_⟩
        intro view member
        rcases member with now | later
        · exact seen view now
        · exact seenLater view later
      · rintro ⟨waiting, stays, seen⟩
        have apart : action ≠ .caller .leave ∧ .caller .leave ∉ rest := by
          simpa [eq_comm] using stays
        exact ⟨⟨waiting, apart.1, fun view member => seen view (.inl member)⟩, apart.2,
          fun view member => seen view (.inr member)⟩

/-- A caller who has passed the gate or left sees nothing more. -/
theorem views_of_not_waiting
    (gone : exchange.waiting = false) (actions : List ExchangeAction) :
    ∀ view ∈ (exchange.run actions).2, view = .gone := by
  induction actions generalizing exchange with
  | nil => simp [run]
  | cons action rest inductionHypothesis =>
      have still : (exchange.act action).1.waiting = false := by
        refine Bool.eq_false_iff.mpr fun waiting => ?_
        have before := ((waiting_act_iff exchange action).mp waiting).1
        rw [gone] at before
        cases before
      intro view member
      rcases mem_views_cons.mp member with now | later
      · cases action with
        | holder action => cases now
        | caller action =>
            rcases view_of_mem_attend now with ⟨_, same⟩ | ⟨waiting, _⟩
            · exact same
            · rw [gone] at waiting
              cases waiting
      · exact inductionHypothesis still view later

/-- The caller sees what comes through the gate at most once. -/
theorem countP_isResult_le (exchange : SessionExchange) (actions : List ExchangeAction) :
    (exchange.run actions).2.countP GateView.isResult ≤ 1 := by
  induction actions generalizing exchange with
  | nil => simp [run]
  | cons action rest inductionHypothesis =>
      have others := inductionHypothesis (exchange.act action).1
      rw [run]
      cases shown : (exchange.act action).2 with
      | none => simpa [shown] using others
      | some view =>
          by_cases waits : (exchange.act action).1.waiting = true
          · have pending := ((waiting_act_iff exchange action).mp waits).2.2 view shown
            simpa [shown, pending, GateView.isResult] using others
          · have nothing : ((exchange.act action).1.run rest).2.countP GateView.isResult = 0 := by
              refine List.countP_eq_zero.mpr fun later member => ?_
              rw [views_of_not_waiting (Bool.not_eq_true _ ▸ waits) rest later member]
              decide
            simp only [shown, Option.toList_some, List.countP_append, nothing, Nat.add_zero]
            exact List.countP_le_length

/-- The caller sees a pending gate, the gate as it will be, or nothing more. -/
theorem view_of_mem_run (sound : exchange.IsSound) (actions : List ExchangeAction) :
    ∀ view ∈ (exchange.run actions).2,
      view = .pending ∨ view = .gone ∨ view = (exchange.destiny actions).view := by
  induction actions generalizing exchange with
  | nil => simp [run]
  | cons action rest inductionHypothesis =>
      intro view member
      rcases mem_views_cons.mp member with now | later
      · cases action with
        | holder action => cases now
        | caller action =>
            rcases view_of_mem_attend now with ⟨_, same⟩ | ⟨_, same⟩
            · exact .inr (.inl same)
            · by_cases pending : exchange.gate = .pending
              · rw [same, pending]
                exact .inl rfl
              · rw [same, destiny_of_ne_pending pending]
                exact .inr (.inr rfl)
      · rw [← destiny_act sound]
        exact inductionHypothesis (sound.act action) view later

/-! ## What the session notices of the caller -/

/-- Without the actions of the caller all is the same, except whether the caller waits. -/
theorem dropGate_run (exchange : SessionExchange) (actions : List ExchangeAction) :
    (exchange.run actions).1.dropGate = (exchange.dropGate.run (actions.filter isHolder)).1 := by
  induction actions generalizing exchange with
  | nil => rfl
  | cons action rest inductionHypothesis =>
      change ((exchange.act action).1.run rest).1.dropGate = _
      rw [inductionHypothesis]
      cases action with
      | holder action =>
          rw [List.filter_cons_of_pos rfl, run, act, act, hold_dropGate]
      | caller action =>
          rw [List.filter_cons_of_neg Bool.false_ne_true, act, dropGate_attend]

theorem dropGate_run_filter (exchange : SessionExchange) (actions : List ExchangeAction) :
    (exchange.run actions).1.dropGate =
      (exchange.run (actions.filter isHolder)).1.dropGate := by
  rw [dropGate_run, dropGate_run, List.filter_filter]
  simp only [Bool.and_self]

/-! ## The gate over a whole run -/

/-- A gate that opens once, for a session with one handle and a pending gate. -/
structure OpensOnce (start : SessionExchange) (actions : List ExchangeAction) : Prop where
  /-- The gate is pending exactly as long as nothing has decided it. -/
  pending : (start.run actions).1.gate = .pending ↔ verdict 1 actions = none
  /-- What decides it first is what it opens to, for good. -/
  decided : ∀ result, verdict 1 actions = some result → ∀ later : List ExchangeAction,
    (start.run (actions ++ later)).1.gate = .unlocked result
  /-- The caller gets that and nothing else. -/
  views : ∀ view ∈ (start.run actions).2,
    view = .pending ∨ view = .gone ∨ view = (Gate.ofVerdict (verdict 1 actions)).view
  once : (start.run actions).2.countP GateView.isResult ≤ 1
  /-- A caller who has not left waits for nothing but the verdict, and no longer. -/
  waits : (start.run actions).1.waiting ↔
    .caller .leave ∉ actions ∧ ∀ view ∈ (start.run actions).2, view = .pending
  next : (start.run actions).1.waiting →
    (start.run actions).1.poll.2 = (Gate.ofVerdict (verdict 1 actions)).view
  /-- Whatever the caller does, session and channel are as without it. -/
  session : (start.run actions).1.session = (start.run (actions.filter isHolder)).1.session
  channel : (start.run actions).1.channel = (start.run (actions.filter isHolder)).1.channel
  handles : (start.run actions).1.handles = (start.run (actions.filter isHolder)).1.handles

/-- Whatever the two parties do, the gate of a new session opens once. -/
theorem gate_opens_once
    (containerId : String) (command : List String) (actions : List ExchangeAction) :
    OpensOnce { session := some { containerId, command } } actions := by
  have sound : IsSound { session := some { containerId, command } } := ⟨fun _ => le_rfl, nofun⟩
  have gate : ∀ all : List ExchangeAction,
      (run { session := some { containerId, command } } all).1.gate =
        .ofVerdict (verdict 1 all) :=
    fun all => gate_run sound all
  have alone := dropGate_run_filter { session := some { containerId, command } } actions
  constructor
  case pending =>
    rw [gate actions]
    cases verdict 1 actions with
    | none => exact iff_of_true rfl rfl
    | some result => exact iff_of_false nofun nofun
  case decided =>
    intro result decided later
    rw [gate, verdict_append decided]
    rfl
  case views => exact view_of_mem_run sound actions
  case once => exact countP_isResult_le _ actions
  case waits =>
    rw [waiting_run_iff]
    simp
  case next =>
    intro waiting
    rw [poll_eq, if_pos waiting, gate actions]
  case session =>
    have same := congrArg SessionExchange.session alone
    exact same
  case channel =>
    have same := congrArg SessionExchange.channel alone
    exact same
  case handles =>
    have same := congrArg SessionExchange.handles alone
    exact same

end SessionExchange

end BrowserPods
