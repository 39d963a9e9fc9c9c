import Rub.OrchestrationCondition
import Rub.RetryFingerprint

/-!
The attempts of one orchestration step. Building the request and sending what was built are two
loops that take their retries from one budget.
-/

namespace Rub

open Json

variable {α : Type}

theorem OrchestrationRetry.afterFailure_ok {retry next : OrchestrationRetry} {error : ErrorEnvelope}
    (again : retry.afterFailure error = .ok next) :
    (classifyRetryableOrchestrationError error).isSome ∧ retry.attempts + 1 ≤ retry.maxRetries ∧
      next.maxRetries = retry.maxRetries ∧ next.attempts = retry.attempts + 1 := by
  unfold afterFailure at again
  simp only at again
  split at again
  · rename_i reason retryable
    split at again
    · cases again
      exact ⟨by simp [retryable], ‹_›, rfl, rfl⟩
    · cases again
  · cases again

/-- `results n` is the result of attempt `n` within the outer deadline. What the loop reports
comes with the number of attempts it made. -/
def runWithOrchestrationRetry (results : Nat → Except ErrorEnvelope α)
    (retry : OrchestrationRetry) : Except ErrorEnvelope α × Nat :=
  match results (retry.attempts + 1) with
  | .ok value => (.ok value, retry.attempts + 1)
  | .error error =>
    match again : retry.afterFailure error with
    | .ok next => runWithOrchestrationRetry results next
    | .error reported => (.error reported, retry.attempts + 1)
termination_by retry.maxRetries - retry.attempts
decreasing_by
  have := OrchestrationRetry.afterFailure_ok again
  omega

def IsRetryable (result : Except ErrorEnvelope α) : Prop :=
  ∃ error, result = .error error ∧ (classifyRetryableOrchestrationError error).isSome

theorem runWithOrchestrationRetry_spec (results : Nat → Except ErrorEnvelope α)
    (retry : OrchestrationRetry) (budget : retry.attempts ≤ retry.maxRetries)
    (retried : ∀ n, 0 < n → n ≤ retry.attempts → IsRetryable (results n)) :
    let report := runWithOrchestrationRetry results retry
    0 < report.2 ∧ report.2 ≤ retry.maxRetries + 1 ∧
      (∀ n, 0 < n → n < report.2 → IsRetryable (results n)) ∧
      ∀ value, report.1 = .ok value → results report.2 = .ok value := by
  fun_induction runWithOrchestrationRetry results retry with
  | case1 retry value answered =>
    exact ⟨by simp, by simpa using budget, fun n positive before => retried n positive (by omega),
      fun _ same => by cases same; exact answered⟩
  | case2 retry error failed next again ih =>
    obtain ⟨retryable, left, kept, counted⟩ := OrchestrationRetry.afterFailure_ok again
    rw [kept, counted] at ih
    refine ih left fun n positive within => ?_
    rcases Nat.lt_or_eq_of_le within with before | rfl
    · exact retried n positive (by omega)
    · exact ⟨error, failed, retryable⟩
  | case3 retry error failed reported again =>
    exact ⟨by simp, by simpa using budget, fun n positive before => retried n positive (by omega),
      nofun⟩

/-- A request that was built for a step: it has the id of the step, and time left. -/
structure FrozenRequest (stepId : String) where
  request : IpcRequest
  named : request.commandId = some stepId
  live : 1 ≤ request.timeoutMs

def OrchestrationAddressInfo.toValue (address : OrchestrationAddressInfo) : Json :=
  present [("session_id", some (string address.sessionId)),
    ("session_name", some (string address.sessionName)),
    ("tab_index", address.tabIndex.map natural),
    ("tab_target_id", address.tabTargetId.map string), ("frame_id", address.frameId.map string)]

/-- `fresh` is the id that the wrapper of a request without one gets. -/
def orchestrationTargetDispatchRequest (address : OrchestrationAddressInfo) (fresh : String)
    (request : IpcRequest) : IpcRequest :=
  { ipcProtocolVersion := ipcProtocolVersion, command := "_orchestration_target_dispatch",
    commandId := some ((request.commandId.map
      (orchestrationTargetDispatchCommandId address)).getD fresh)
    daemonSessionId := none
    args := object [("target", address.toValue), ("request", request.toValue)],
    timeoutMs := request.timeoutMs }

def bindOrchestrationDaemonAuthority (request : IpcRequest) (session : OrchestrationSessionInfo)
    (role : String) : Except ErrorEnvelope IpcRequest :=
  if isBlank session.sessionId then
    .error ((ErrorEnvelope.new .ipcProtocolError
      ("Failed to bind orchestration " ++ role ++ " request to daemon authority '" ++
        session.sessionName ++ "': IPC daemon_session_id must be non-empty and non-whitespace")
      ).withContext (object
        [("reason", string ("orchestration_" ++ role ++ "_daemon_authority_bind_failed")),
          ("session_id", string session.sessionId), ("session_name", string session.sessionName),
          ("command", string request.command)]))
  else .ok { request with daemonSessionId := some session.sessionId }

/-- What the transport of an attempt does: whether the session is reached, and the time that is
left at the first send and at the resend of a lost answer, if there is one. -/
structure RemoteTransport where
  reached : Bool
  firstMs : Nat
  resendMs : Option Nat

/-- The requests that are put on the wire for another session. -/
def dispatchRemoteOrchestrationRequest (session : OrchestrationSessionInfo) (request : IpcRequest)
    (transport : RemoteTransport) : List IpcRequest :=
  match transport.reached, bindOrchestrationDaemonAuthority request session "target" with
  | true, .ok bound =>
    match projectOrchestrationRequestOntoDeadline bound transport.firstMs with
    | some first =>
      first :: ((transport.resendMs.filter fun _ => first.commandId.isSome).bind
        (projectOrchestrationRequestOntoDeadline first)).toList
    | none => []
  | _, _ => []

/-- What the world does with a step: the result of each attempt to build the request, and the
transport of each attempt to send it and what comes of that. -/
structure StepWorld (α : Type) where
  describe : Except ErrorEnvelope Unit
  stepId : String
  build : Nat → Except ErrorEnvelope (FrozenRequest stepId)
  ownSessionId : String
  session : OrchestrationSessionInfo
  fresh : Nat → String
  transport : Nat → RemoteTransport
  answer : Nat → List IpcRequest → Except ErrorEnvelope α

namespace StepWorld

variable (world : StepWorld α) (rule : OrchestrationRuleInfo)

/-- The requests that attempt `n` sends. The router of the own session takes the one request. -/
def sends (frozen : FrozenRequest world.stepId) (n : Nat) : List IpcRequest :=
  let request := orchestrationTargetDispatchRequest rule.target (world.fresh n) frozen.request
  if world.session.sessionId = world.ownSessionId then [request]
  else dispatchRemoteOrchestrationRequest world.session request (world.transport n)

structure StepReport (α : Type) where
  materializations : Nat
  sent : List (List IpcRequest)
  attempts : Nat
  outcome : Except ErrorEnvelope α

def dispatchOrchestrationAction : StepReport α :=
  match world.describe with
  | .error error => ⟨0, [], 1, .error error⟩
  | .ok () =>
    match runWithOrchestrationRetry world.build (.afterMaterialization rule 1) with
    | (.error error, attempts) => ⟨attempts, [], attempts, .error error⟩
    | (.ok frozen, materializations) =>
      let report := runWithOrchestrationRetry
        (fun n => world.answer n (world.sends rule frozen n))
        (.afterMaterialization rule materializations)
      ⟨materializations, (List.range' 1 report.2).map (world.sends rule frozen),
        materializations + report.2 - 1, report.1⟩

/-- The one request that all attempts of a step send, to the target session alone. -/
def outgoing (frozen : FrozenRequest world.stepId) : IpcRequest :=
  { orchestrationTargetDispatchRequest rule.target "" frozen.request with
    daemonSessionId := if world.session.sessionId = world.ownSessionId then none
      else some world.session.sessionId }

/-- An attempt gets as far as a send. -/
def Sends (n : Nat) : Prop :=
  world.session.sessionId = world.ownSessionId ∨ ((world.transport n).reached = true ∧
    isBlank world.session.sessionId = false ∧ (world.transport n).firstMs ≠ 0)

variable {world rule} {frozen : FrozenRequest world.stepId} {n : Nat}

theorem sends_eq : world.sends rule frozen n =
    if world.session.sessionId = world.ownSessionId then [world.outgoing rule frozen]
    else if (world.transport n).reached = true ∧ isBlank world.session.sessionId = false then
      match projectOrchestrationRequestOntoDeadline (world.outgoing rule frozen)
        (world.transport n).firstMs with
      | some first => first :: (((world.transport n).resendMs.filter fun _ =>
          first.commandId.isSome).bind (projectOrchestrationRequestOntoDeadline first)).toList
      | none => []
    else [] := by
  unfold sends outgoing dispatchRemoteOrchestrationRequest bindOrchestrationDaemonAuthority
  simp only [orchestrationTargetDispatchRequest, frozen.named, Option.map_some, Option.getD_some]
  split
  · rfl
  · cases (world.transport n).reached <;> cases isBlank world.session.sessionId <;> rfl

theorem sends_ne_nil_iff : world.sends rule frozen n ≠ [] ↔ world.Sends n := by
  rw [sends_eq, Sends, projectOrchestrationRequestOntoDeadline]
  split
  · simp_all
  · cases (world.transport n).reached <;> cases isBlank world.session.sessionId <;> simp_all
    split <;> simp_all

theorem sends_same : ∀ sent ∈ world.sends rule frozen n,
    SameButTimeouts (world.outgoing rule frozen) sent := by
  have same := SameButTimeouts.outer (world.outgoing rule frozen) frozen.request.timeoutMs
  rw [sends_eq]
  intro sent member
  split at member
  · obtain rfl := List.mem_singleton.mp member
    exact same
  · split at member
    · split at member
      · rename_i first projected
        obtain ⟨moved, live⟩ := same.project frozen.live projected
        rcases List.mem_cons.mp member with rfl | again
        · exact moved
        · obtain ⟨remainingMs, -, resent⟩ := Option.bind_eq_some_iff.mp (Option.mem_toList.mp again)
          exact (moved.project live resent).1
      · cases member
    · cases member

/-- A step stays within its budget, tries again only after a failure that is retryable, sends
one request with nothing but its deadlines moved, and stops at a success. -/
theorem orchestration_retry_budget (world : StepWorld α) (rule : OrchestrationRuleInfo) :
    let report := world.dispatchOrchestrationAction rule
    report.attempts ≤ min rule.executionPolicy.maxRetries 3 + 1 ∧
      (∀ n, 0 < n → n < report.materializations → IsRetryable (world.build n)) ∧
      (report.sent ≠ [] → ∃ frozen, world.build report.materializations = .ok frozen ∧
        report.sent = (List.range' 1 report.sent.length).map (world.sends rule frozen) ∧
        (∀ n, (world.sends rule frozen n ≠ [] ↔ world.Sends n) ∧
          ∀ sent ∈ world.sends rule frozen n,
            SameButTimeouts (world.outgoing rule frozen) sent) ∧
        (∀ n, 0 < n → n < report.sent.length →
          IsRetryable (world.answer n (world.sends rule frozen n))) ∧
        ∀ value, report.outcome = .ok value → world.answer report.sent.length
          (world.sends rule frozen report.sent.length) = .ok value) := by
  unfold dispatchOrchestrationAction
  cases world.describe with
  | error => simp
  | ok =>
    have built := runWithOrchestrationRetry_spec world.build (.afterMaterialization rule 1)
      (Nat.zero_le _) fun n positive none => absurd none (Nat.not_le.mpr positive)
    generalize runWithOrchestrationRetry world.build (.afterMaterialization rule 1) = report
      at built ⊢
    rcases report with ⟨error | frozen, materializations⟩
    · exact ⟨built.2.1, built.2.2.1, fun sent => absurd rfl sent⟩
    · obtain ⟨positive, within, retried, last⟩ := built
      obtain ⟨-, spent, again, success⟩ := runWithOrchestrationRetry_spec
        (fun n => world.answer n (world.sends rule frozen n))
        (.afterMaterialization rule materializations) (Nat.zero_le _)
        fun n positive none => absurd none (Nat.not_le.mpr positive)
      refine ⟨?_, retried, fun _ => ⟨frozen, last frozen rfl, ?_⟩⟩
      · simp only [OrchestrationRetry.afterMaterialization, OrchestrationRetry.policy,
          orchestrationTransientRetryLimit] at within spent ⊢
        omega
      · simp only [List.length_map, List.length_range', true_and]
        exact ⟨fun n => ⟨sends_ne_nil_iff, sends_same⟩, again, success⟩

end StepWorld

end Rub
