import BrowserPods.Client.Lifecycle
import BrowserPods.Proofs.Client.Copying
import Mathlib

/-!
# Whether a pod is gone

A client that asks for a pod takes it to be gone by the reason of the answer, and one that deletes a
pod by its code.  The two agree exactly on the answers whose code and reason belong together; the
404 of somebody in between, who states no reason, is not one of them (`Client.ended_eq_gone_iff`).
-/

namespace BrowserPods

/-! ## Answers -/

namespace ApiError

/-- Whether an error states both the code and the reason of absent objects, or neither. -/
def IsCoherent : ApiError → Prop
  | .refused code reason => code = 404 ↔ reason = "NotFound"
  | .unusable => True

theorem isCoherent_iff (error : ApiError) :
    error.IsCoherent ↔ error.hasMissingReason = error.hasMissingCode := by
  cases error with
  | refused code reason =>
      rw [Bool.eq_iff_iff, hasMissingReason, hasMissingCode, beq_iff_eq, beq_iff_eq]
      exact iff_comm
  | unusable => exact iff_of_true trivial rfl

/-- What the body of an answer states is a refusal. -/
theorem exists_refused_of_ofBody? {body : String} {error : ApiError}
    (stated : ofBody? body = some error) : ∃ code reason, error = .refused code reason := by
  simp only [ofBody?, Option.bind_eq_bind, Option.bind_eq_some_iff, Option.pure_def,
    Option.some_inj] at stated
  obtain ⟨_, _, _, _, _, _, _, _, reason, _, code, _, refused⟩ := stated
  exact ⟨code, reason, refused.symm⟩

/-- An answer whose body states nothing has the code it comes with and no reason for absence. -/
theorem isCoherent_ofAnswer_iff (code : ℕ) (body : String) :
    (ofAnswer code body).IsCoherent ↔
      (∀ stated reason, ofBody? body = some (.refused stated reason) →
        (stated = 404 ↔ reason = "NotFound")) ∧
      (ofBody? body = none → code ≠ 404) := by
  rw [ofAnswer]
  cases body? : ofBody? body with
  | none =>
      -- The reason is then one that the client makes up.
      have unstated : unreadableReason ≠ "NotFound" := by decide
      simp [IsCoherent, unstated]
  | some error =>
      obtain ⟨stated, reason, rfl⟩ := exists_refused_of_ofBody? body?
      simp [IsCoherent]

end ApiError

/-! ## Questions and deletions -/

namespace Client

variable {client : Client} {world : World} {containerId : String} {error : ApiError}

theorem containerEnded_of_error
    (asked : (world.cluster.get client.namespaceName containerId).2 = .error error) :
    (client.containerEnded world containerId).2 = error.hasMissingReason := by
  simp only [containerEnded, lookUp, ask_eq, asked]
  cases error.hasMissingReason with
  | true => rfl
  | false => rfl

theorem delete_of_error
    (refused : (world.cluster.delete client.namespaceName containerId).2 = .error error) :
    (client.delete world containerId).2 = error.hasMissingCode := by
  simp only [delete, ask_eq, refused, isGone]

/-- A question and a deletion that get one answer agree whether the pod is gone exactly if the
answer states both the code and the reason of absent objects, or neither.  An answer without a
status states its own code alone. -/
theorem ended_eq_gone_iff
    (client : Client) {asking deleting : World} {containerId body : String} {code : ℕ}
    (asked : (asking.cluster.get client.namespaceName containerId).2 =
      .error (.ofAnswer code body))
    (refused : (deleting.cluster.delete client.namespaceName containerId).2 =
      .error (.ofAnswer code body)) :
    (client.containerEnded asking containerId).2 = (client.delete deleting containerId).2 ↔
      (∀ stated reason, ApiError.ofBody? body = some (.refused stated reason) →
        (stated = 404 ↔ reason = "NotFound")) ∧
      (ApiError.ofBody? body = none → code ≠ 404) := by
  rw [containerEnded_of_error asked, delete_of_error refused, ← ApiError.isCoherent_iff]
  exact ApiError.isCoherent_ofAnswer_iff code body

/-! ### Answers of somebody in between -/

def interceptedWorld (code : ℕ) (body : String) : World :=
  { cluster :=
      { pods := [{ metadata := { name := some "grid-1" } }]
        faults := [{ verb := .get, code, body }, { verb := .delete, code, body }] }
    freshName := fun count => toString count }

/-- An answer that the cluster is not available leaves both in doubt. -/
theorem unavailable_leaves_doubt :
    let world := interceptedWorld 503 "service unavailable"
    (world.cluster.get mountlessClient.namespaceName "grid-1").2 =
        .error (.ofAnswer 503 "service unavailable") ∧
      (world.cluster.delete mountlessClient.namespaceName "grid-1").2 =
        .error (.ofAnswer 503 "service unavailable") ∧
      (mountlessClient.containerEnded world "grid-1").2 =
        (mountlessClient.delete world "grid-1").2 := by
  intro world
  have asked : (world.cluster.get mountlessClient.namespaceName "grid-1").2 =
      .error (.ofAnswer 503 "service unavailable") := rfl
  have refused : (world.cluster.delete mountlessClient.namespaceName "grid-1").2 =
      .error (.ofAnswer 503 "service unavailable") := rfl
  have unstated : ApiError.ofBody? "service unavailable" = none := by cbv
  refine ⟨asked, refused, (ended_eq_gone_iff mountlessClient asked refused).mpr ⟨?_, ?_⟩⟩
  · intro stated reason body
    exact nomatch unstated.symm.trans body
  · exact fun _ => by decide

/-- A 404 without a status: a client that deletes the pod takes it to be gone, and one that asks for
it does not. -/
theorem intercepted_404_divides :
    let world := interceptedWorld 404 "default backend - 404"
    (world.cluster.get mountlessClient.namespaceName "grid-1").2 =
        .error (.refused 404 "Failed to parse error data") ∧
      (mountlessClient.containerEnded world "grid-1").2 = false ∧
      (mountlessClient.delete world "grid-1").2 = true := by
  intro world
  have unstated : ApiError.ofAnswer 404 "default backend - 404" =
      .refused 404 "Failed to parse error data" := by cbv
  have asked : (world.cluster.get mountlessClient.namespaceName "grid-1").2 =
      .error (.ofAnswer 404 "default backend - 404") := rfl
  have refused : (world.cluster.delete mountlessClient.namespaceName "grid-1").2 =
      .error (.ofAnswer 404 "default backend - 404") := rfl
  rw [unstated] at asked refused
  refine ⟨asked, ?_, ?_⟩
  · rw [containerEnded_of_error asked]
    decide
  · rw [delete_of_error refused]
    decide

end Client

end BrowserPods
