import BrowserPods.Proofs.Client.Copying
import BrowserPods.Proofs.Exec.Collection
import Mathlib

/-!
# Results of commands

The result of a command depends on what its two streams carry and on its status, and on nothing
else: not on the frames in which the streams come, nor on their order
(`Client.result_depends_on_streams_alone`).  Whether the caller waits makes no difference to the
channel.
-/

namespace BrowserPods

open BrowserPods.Text

/-- A command that is handed over gives its result to a caller who waits, whether the channel can be
released or not. -/
theorem RunningCommand.handOver_ofFrames (script : List Frame) (fails wait : Bool) :
    RunningCommand.handOver
        { ofTranscript (Transcript.ofFrames script) with releaseFails := fails } wait =
      { outcome := if wait then some (Transcript.result script) else none
        releasedOnReturn := wait
        calls := [.output, .status, .release] } := by
  have output : (ofTranscript (Transcript.ofFrames script)).output =
      (Transcript.result script).output := by
    rw [ofTranscript, Transcript.stdout_ofFrames, Transcript.flatten_stderr_ofFrames]
    rfl
  rw [handOver, collect, output]
  rfl

namespace Client

/-- The result of a command is what its output carries before the first status and what its error
messages carry before it, and it is a failure exactly if that status can be read and reports one.  A
channel that carries the same on both streams and ends with the same status gives the same result,
whatever its frames are.  Whether the caller waits for it or not, and whether releasing the channel
fails or not, the channel goes through the same calls, and so it does in every collection, in
whatever order the parties act and whatever room the pipes have. -/
theorem result_depends_on_streams_alone (script : List Frame) :
    ∃ result : CommandResult,
      result.output = Transcript.written .output script ++ Transcript.written .errors script ∧
      (result.failed ↔ ∃ front status rest, script = front ++ .status (some status) :: rest ∧
        (∀ frame ∈ front, ¬ Transcript.isStatus frame) ∧ status.status = some "Failure") ∧
      ∀ other, (∀ side, Transcript.written side other = Transcript.written side script) →
        Transcript.finalStatus other = Transcript.finalStatus script →
        ∀ wait,
          let handOver : HandOver :=
            { outcome := if wait then some result else none
              releasedOnReturn := wait
              calls := [.output, .status, .release] }
          (∀ fails, RunningCommand.handOver
            { RunningCommand.ofTranscript (Transcript.ofFrames other) with releaseFails := fails }
            wait = handOver) ∧
          (∀ (client : Client) (world : World) (containerId : String) (command : List String),
            (world.cluster.exec client.namespaceName containerId command).2 = .ok other →
              (client.runCommand world containerId command wait).2 = some handOver) ∧
          ∀ room, 0 < room → Collection.AlwaysCollects other wait room result := by
  refine ⟨Transcript.result script, rfl, Transcript.failed_result, ?_⟩
  intro other streams status wait handOver
  have same : Transcript.result other = Transcript.result script := by
    rw [Transcript.result, Transcript.result, streams, streams, status]
  have handsOver : ∀ fails, RunningCommand.handOver
      { RunningCommand.ofTranscript (Transcript.ofFrames other) with releaseFails := fails }
      wait = handOver := by
    intro fails
    rw [RunningCommand.handOver_ofFrames, same]
  refine ⟨handsOver, ?_, ?_⟩
  · intro client world containerId command opened
    rw [runCommand, ask_eq, opened]
    exact congrArg some (handsOver false)
  · intro room roomy
    rw [← same]
    exact Collection.alwaysCollects other wait roomy

/-- What `noisyFrames` carry before their status, in other frames and in another order. -/
def mergedFrames : List Frame :=
  [.err [7, 7, 7], .out [1, 2], .status (some { status := some "Failure" })]

theorem framing_does_not_change_result :
    ∃ result : CommandResult, result.output = [1, 2, 7, 7, 7] ∧ result.failed ∧
      (mountlessClient.runCommand (playingWorld noisyFrames) "grid-1" ["ls"] true).2 =
        some { outcome := some result, releasedOnReturn := true
               calls := [.output, .status, .release] } ∧
      (mountlessClient.runCommand (playingWorld mergedFrames) "grid-1" ["ls"] true).2 =
        some { outcome := some result, releasedOnReturn := true
               calls := [.output, .status, .release] } ∧
      Collection.AlwaysCollects mergedFrames false 1 result := by
  have noisy : ((playingWorld noisyFrames).cluster.exec mountlessClient.namespaceName "grid-1"
      ["ls"]).2 = .ok noisyFrames := by cbv
  have merged : ((playingWorld mergedFrames).cluster.exec mountlessClient.namespaceName "grid-1"
      ["ls"]).2 = .ok mergedFrames := by cbv
  obtain ⟨result, output, failed, alike⟩ := result_depends_on_streams_alone noisyFrames
  have streams : ∀ side,
      Transcript.written side mergedFrames = Transcript.written side noisyFrames := by
    intro side
    cases side with
    | output => rfl
    | errors => rfl
  obtain ⟨_, first, _⟩ := alike noisyFrames (fun _ => rfl) rfl true
  obtain ⟨_, second, _⟩ := alike mergedFrames streams rfl true
  obtain ⟨_, _, always⟩ := alike mergedFrames streams rfl false
  refine ⟨result, output, ?_, first _ _ _ _ noisy, second _ _ _ _ merged, always 1 Nat.one_pos⟩
  apply failed.mpr
  refine ⟨[.out [1], .err [7, 7], .out [], .out [2], .err [7]], _, [.out [9]], rfl, ?_, rfl⟩
  decide

end Client

end BrowserPods
