import BrowserPods.Exec.Collection
import Mathlib

/-!
# The streams of a script

What the two streams of a channel carry before the first status (`Transcript.written`), and the
result of the command by it (`Transcript.result`).
-/

namespace BrowserPods

open BrowserPods.Text

def Side.bytes : Side → Frame → Bytes
  | .output, .out bytes => bytes
  | .errors, .err bytes => bytes
  | _, _ => []

namespace Transcript

/-- What a stream carries before the first status. -/
def written (side : Side) (frames : List Frame) : Bytes :=
  (frames.takeWhile fun frame => !isStatus frame).flatMap side.bytes

/-- What a command produces whose channel plays some frames. -/
def result (frames : List Frame) : CommandResult :=
  { output := written .output frames ++ written .errors frames
    failed := (finalStatus frames).any CommandStatus.isFailure }

variable {side other : Side} {frame : Frame} {frames : List Frame}

theorem written_cons (live : isStatus frame = false) (side : Side) (frames : List Frame) :
    written side (frame :: frames) = side.bytes frame ++ written side frames := by
  rw [written, List.takeWhile_cons_of_pos (by simp [live]), List.flatMap_cons]
  rfl

theorem finalStatus_cons (live : isStatus frame = false) (frames : List Frame) :
    finalStatus (frame :: frames) = finalStatus frames := by
  rw [finalStatus, List.find?_cons_of_neg (by simp [live])]
  rfl

theorem isStatus_frame (side : Side) (bytes : Bytes) : isStatus (side.frame bytes) = false := by
  cases side with
  | output => rfl
  | errors => rfl

theorem bytes_frame_self (side : Side) (bytes : Bytes) : side.bytes (side.frame bytes) = bytes := by
  cases side with
  | output => rfl
  | errors => rfl

theorem bytes_frame_of_ne (different : other ≠ side) (bytes : Bytes) :
    other.bytes (side.frame bytes) = [] := by
  cases side with
  | output =>
      cases other with
      | output => exact absurd rfl different
      | errors => rfl
  | errors =>
      cases other with
      | output => rfl
      | errors => exact absurd rfl different

theorem isStatus_of_isSpent (spent : Transfer.isSpent frame) : isStatus frame = false := by
  cases frame with
  | out bytes => rfl
  | err bytes => rfl
  | status status => cases spent

theorem bytes_of_isSpent (spent : Transfer.isSpent frame) (side : Side) :
    side.bytes frame = [] := by
  cases frame with
  | out bytes =>
      cases side with
      | output => exact List.isEmpty_iff.mp spent
      | errors => rfl
  | err bytes =>
      cases side with
      | output => rfl
      | errors => exact List.isEmpty_iff.mp spent
  | status status => cases spent

theorem written_cons_of_isSpent (spent : Transfer.isSpent frame) (side : Side)
    (frames : List Frame) : written side (frame :: frames) = written side frames := by
  rw [written_cons (isStatus_of_isSpent spent), bytes_of_isSpent spent, List.nil_append]

theorem written_of_atEnd (atEnd : ∀ frame ∈ frames.head?, isStatus frame) (side : Side) :
    written side frames = [] := by
  cases frames with
  | nil => rfl
  | cons first rest =>
      rw [written, List.takeWhile_cons_of_neg (by simp [atEnd first rfl]), List.flatMap_nil]

theorem stdout_ofFrames (frames : List Frame) :
    (ofFrames frames).stdout = written .output frames := by
  have same : outBytes = Side.output.bytes := by
    funext frame
    cases frame with
    | out bytes => rfl
    | err bytes => rfl
    | status status => rfl
  rw [ofFrames, written, same]

theorem flatten_stderr_ofFrames (frames : List Frame) :
    (ofFrames frames).stderr.flatten = written .errors frames := by
  change ((frames.takeWhile fun frame => !isStatus frame).filterMap errPiece?).flatten =
    written .errors frames
  rw [written]
  induction frames.takeWhile fun frame => !isStatus frame with
  | nil => rfl
  | cons frame others inductionHypothesis =>
      rw [List.flatMap_cons, ← inductionHypothesis]
      cases frame with
      | out bytes => rfl
      | status status => rfl
      | err bytes =>
          cases bytes with
          | nil => rfl
          | cons byte more => rfl

theorem finalStatus_eq_some_iff {status : CommandStatus} :
    finalStatus frames = some status ↔ ∃ front rest,
      frames = front ++ .status (some status) :: rest ∧ ∀ frame ∈ front, ¬ isStatus frame := by
  constructor
  · intro found
    rw [finalStatus] at found
    split at found
    · rename_i last first
      cases found
      obtain ⟨_, front, rest, shape, live⟩ := List.find?_eq_some_iff_append.mp first
      exact ⟨front, rest, shape, by simpa using live⟩
    · cases found
  · intro parts
    obtain ⟨front, rest, shape, live⟩ := parts
    have first : frames.find? isStatus = some (.status (some status)) := by
      rw [List.find?_eq_some_iff_append]
      exact ⟨rfl, front, rest, shape, by simpa using live⟩
    rw [finalStatus, first]

/-- A command has failed exactly if the first status can be read and says so. -/
theorem failed_result :
    (result frames).failed ↔ ∃ front status rest,
      frames = front ++ .status (some status) :: rest ∧ (∀ frame ∈ front, ¬ isStatus frame) ∧
        status.status = some "Failure" := by
  have reads : ∀ status : CommandStatus, status.isFailure ↔ status.status = some "Failure" :=
    fun status => beq_iff_eq
  rw [result, Option.any_eq_true]
  constructor
  · intro failed
    obtain ⟨status, known, isFailure⟩ := failed
    obtain ⟨front, rest, shape, live⟩ := finalStatus_eq_some_iff.mp known
    exact ⟨front, status, rest, shape, live, (reads status).mp isFailure⟩
  · intro parts
    obtain ⟨front, status, rest, shape, live, failure⟩ := parts
    exact ⟨status, finalStatus_eq_some_iff.mpr ⟨front, rest, shape, live⟩,
      (reads status).mpr failure⟩

end Transcript

end BrowserPods
