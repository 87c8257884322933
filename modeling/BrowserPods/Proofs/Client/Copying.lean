import BrowserPods.Client.Copying
import BrowserPods.Proofs.Cluster.Deletion
import BrowserPods.Proofs.Exec.Transfer
import Mathlib

/-!
# Copies through a command

A copy through a command sends one request and never fails.  Its stream is that of the output which
the command writes before its status, and depends on nothing else: not on the error messages, the
status or the frames in which all this comes, nor on the order in which channel, driver and caller
act (`Client.copy_depends_on_output_alone`).
-/

namespace BrowserPods

open BrowserPods.Text

variable {outcome : ChannelOutcome}

/-! ## The stream of a transfer -/

/-- The stream of a caller, by what the caller has read behind the gate. -/
def Transfer.stream (containerId : String) (now : Transfer) : PendingArtifacts :=
  match now.run.session.gate with
  | .unlocked (some _) => Archived.stream containerId now.received
  | _ => []

/-- Whether the callers of all transfers of a session get one stream, whoever acts when. -/
structure Transfer.AlwaysYields (session : Session) (outcome : ChannelOutcome) (room : Nat)
    (stream : PendingArtifacts) : Prop where
  /-- A caller who has read to the end has the stream. -/
  finished : ∀ now,
    Relation.ReflTransGen (Step outcome.stdout room) (start session outcome) now →
    now.caller = .finished → now.stream session.containerId = stream
  /-- So has one who reads and can tell the stream from what has come already. -/
  known : ∀ now known,
    Relation.ReflTransGen (Step outcome.stdout room) (start session outcome) now →
    now.caller = .reading →
    (∀ rest, Archived.stream session.containerId (now.received ++ rest) = known) →
    known = stream
  goesOn : ∀ now, Relation.ReflTransGen (Step outcome.stdout room) (start session outcome) now →
    now.IsDone ∨ ∃ later, Step outcome.stdout room now later
  ends : WellFounded fun later now => Step outcome.stdout room now later

theorem Transfer.alwaysYields
    {session : Session} (fresh : session.gate = .pending) {room : Nat} (roomy : 0 < room) :
    AlwaysYields session outcome room
      ((Gate.unlocked outcome.passage).stream session.containerId) where
  finished := by
    intro now run finished
    have flowing := isFlowing_of_run fresh run
    have gate := flowing.gate
    rw [if_pos (flowing.finished finished).1] at gate
    rw [Transfer.stream, gate, flowing.received_of_finished finished]
    cases passage : outcome.passage with
    | none => rfl
    | some bytes =>
        rw [ChannelOutcome.stdout, passage]
        rfl
  known := by
    intro now known run reading same
    have flowing := isFlowing_of_run fresh run
    obtain ⟨rest, whole⟩ := flowing.received_prefix
    rw [← same rest, whole, ChannelOutcome.passage_eq_some (flowing.reading reading).2]
    rfl
  goesOn := fun now run => (isFlowing_of_run fresh run).isDone_or_step roomy
  ends := wellFounded_step outcome.stdout room

/-- A session that hears the events of a channel one after another lets the same through. -/
theorem Session.gate_run_events (session : Session) (fresh : session.gate = .pending) :
    (session.run outcome.events).session.gate = .unlocked outcome.passage := by
  have failure : (session.run [.failed]).session.gate = .unlocked none := by
    change session.gate.unlock none = _
    rw [fresh]
    rfl
  cases outcome with
  | refused => exact failure
  | incomplete => exact failure
  | opened frames =>
      have opening : ∀ stdout : Bytes,
          (SessionRun.tell { session } (.opened stdout)).session.gate =
            .unlocked (some stdout) := by
        intro stdout
        change session.gate.unlock _ = _
        rw [fresh]
        rfl
      have decided : ∀ stdout : Bytes,
          (SessionRun.tell { session } (.opened stdout)).session.gate ≠ .pending := by
        intro stdout
        rw [opening]
        nofun
      exact (SessionRun.gate_foldl_tell (decided _) _).trans (opening _)

/-! ## The request -/

/-- A request to run a command reaches a cluster within reach once, and no other comes with it. -/
theorem Cluster.exec_log
    (cluster : Cluster) (namespaceName name : String) (command : List String) :
    (cluster.exec namespaceName name command).1.log = cluster.log ++
      if cluster.reachable then [.exec namespaceName name command wantedStreams] else [] := by
  rw [exec]
  cases reachable : cluster.reachable with
  | false => simp
  | true =>
      have log := receive_log cluster (.exec namespaceName name command wantedStreams)
      cases taken : cluster.receive (.exec namespaceName name command wantedStreams) with
      | mk received fault =>
          rw [taken] at log
          simp only [if_true]
          cases fault with
          | some fault => exact log
          | none =>
              dsimp only
              split
              · exact log
              · exact log

/-! ## Copies -/

namespace Client

variable {client : Client}

theorem ask_eq {α : Type} (world : World) (request : Cluster → Cluster × Except ApiError α) :
    ask world request =
      ({ world with cluster := (request world.cluster).1 }, (request world.cluster).2) := rfl

/-- What a copy through a command does: it asks for the command, and its stream is that of the
output, if the channel opens. -/
theorem copy_eq (byCommand : client.config.copyRoute = .command) (world : World)
    (containerId folder : String) :
    client.copy world containerId folder =
      ({ world with
          cluster := (world.cluster.exec client.namespaceName containerId
            (BrowserPod.archiveCommand folder)).1 },
        .ok ((Gate.unlocked (ChannelOutcome.ofAnswer
          (world.cluster.exec client.namespaceName containerId
            (BrowserPod.archiveCommand folder)).2).passage).stream containerId)) := by
  rw [copy, byCommand]
  simp only [copyArchived, ask_eq]
  rw [Session.gate_run_events _ rfl]

/-- A copy through a command depends on the output alone.  It sends its one request and succeeds.
Its stream is empty if the command is refused, and otherwise that of the output before the first
status; so a channel elsewhere that writes the same output gives the same stream, whatever else it
plays.  Every transfer from the channel to the caller gives that stream, in whatever order its
parties act and whatever room the pipes have. -/
theorem copy_depends_on_output_alone
    (client : Client) (byCommand : client.config.copyRoute = .command) (world : World)
    (containerId folder : String) :
    let command := ["tar", "-C", folder, "-c", "."]
    let answered := world.cluster.exec client.namespaceName containerId command
    let output (frames : List Frame) : Bytes :=
      (frames.takeWhile fun frame => !Transcript.isStatus frame).flatMap Transcript.outBytes
    (client.copy world containerId folder).1 = { world with cluster := answered.1 } ∧
      answered.1.log = world.cluster.log ++
        (if world.cluster.reachable then
          [.exec client.namespaceName containerId command ["stdout", "stderr"]] else []) ∧
      ∃ stream, (client.copy world containerId folder).2 = .ok stream ∧
        (∀ error, answered.2 = .error error → stream = []) ∧
        (∀ frames, answered.2 = .ok frames →
          stream = Archived.stream containerId (output frames)) ∧
        (∀ (other : World) (frames otherFrames : List Frame), answered.2 = .ok frames →
          (other.cluster.exec client.namespaceName containerId command).2 = .ok otherFrames →
          output otherFrames = output frames →
          (client.copy other containerId folder).2 = .ok stream) ∧
        ∀ room, 0 < room →
          Transfer.AlwaysYields { containerId, command } (ChannelOutcome.ofAnswer answered.2) room
            stream := by
  intro command answered output
  have copied : ∀ world : World, client.copy world containerId folder = _ :=
    fun world => copy_eq byCommand world containerId folder
  refine ⟨congrArg Prod.fst (copied world), Cluster.exec_log _ _ _ _, _,
    congrArg Prod.snd (copied world), ?_, ?_, ?_, ?_⟩
  · intro error refused
    change (Gate.unlocked (ChannelOutcome.ofAnswer answered.2).passage).stream containerId = []
    rw [refused]
    rfl
  · intro frames opened
    change (Gate.unlocked (ChannelOutcome.ofAnswer answered.2).passage).stream containerId = _
    rw [opened]
    rfl
  · intro other frames otherFrames opened otherOpened same
    rw [copied other]
    change Except.ok ((Gate.unlocked (ChannelOutcome.ofAnswer (other.cluster.exec
        client.namespaceName containerId command).2).passage).stream containerId) =
      .ok ((Gate.unlocked (ChannelOutcome.ofAnswer answered.2).passage).stream containerId)
    rw [opened, otherOpened]
    change Except.ok (Archived.stream containerId (output otherFrames)) =
      .ok (Archived.stream containerId (output frames))
    rw [same]
  · intro room roomy
    exact Transfer.alwaysYields rfl roomy

/-! ### Two channels with one output -/

/-- A client without a shared mount. -/
def mountlessClient : Client :=
  { config := .withoutPod { appName := "grid" }, namespaceName := "pods" }

/-- A world with one container, whose channel plays some frames. -/
def playingWorld (frames : List Frame) : World :=
  { cluster := { pods := [{ metadata := { name := some "grid-1" } }], scripts := [frames] }
    freshName := fun count => toString count }

def noisyFrames : List Frame :=
  [.out [1], .err [7, 7], .out [], .out [2], .err [7], .status (some { status := some "Failure" }),
    .out [9]]

/-- The same output at once, and then the end of the channel. -/
def quietFrames : List Frame := [.out [1, 2]]

theorem noise_does_not_change_copy :
    mountlessClient.config.copyRoute = .command ∧ 0 < 1 ∧
      ∃ stream,
        (mountlessClient.copy (playingWorld noisyFrames) "grid-1" "/videos").2 = .ok stream ∧
        stream = Archived.stream "grid-1" [1, 2] ∧
        (mountlessClient.copy (playingWorld quietFrames) "grid-1" "/videos").2 = .ok stream ∧
        Transfer.AlwaysYields
          { containerId := "grid-1", command := ["tar", "-C", "/videos", "-c", "."] }
          (.opened noisyFrames) 1 stream := by
  have byCommand : mountlessClient.config.copyRoute = .command := by decide
  have noisy : ((playingWorld noisyFrames).cluster.exec mountlessClient.namespaceName "grid-1"
      ["tar", "-C", "/videos", "-c", "."]).2 = .ok noisyFrames := by cbv
  have quiet : ((playingWorld quietFrames).cluster.exec mountlessClient.namespaceName "grid-1"
      ["tar", "-C", "/videos", "-c", "."]).2 = .ok quietFrames := by cbv
  obtain ⟨_, _, stream, copied, _, opened, alike, yields⟩ :=
    copy_depends_on_output_alone mountlessClient byCommand (playingWorld noisyFrames) "grid-1"
      "/videos"
  have always := yields 1 Nat.one_pos
  rw [noisy] at always
  exact ⟨byCommand, Nat.one_pos, stream, copied, opened _ noisy,
    alike (playingWorld quietFrames) _ _ noisy quiet rfl, always⟩

end Client

end BrowserPods
