import Rub.OrchestrationRuntime
import Rub.TriggerCondition

/-!
What the orchestration worker remembers of each rule and how a cycle reconciles it with the
registry; the latch that keeps a repeating rule from firing twice on one piece of evidence;
and the results of a condition that could not be evaluated and of an execution.
-/

namespace Rub

open Json

structure OrchestrationWorkerEntry extends NetworkCursor where
  lastStatus : OrchestrationRuleStatus
  latchedEvidenceKey : Option String
deriving DecidableEq

abbrev OrchestrationNetworkProgress := TriggerNetworkProgress

structure TriggeredOrchestrationCondition where
  evidence : TriggerEvidenceInfo
  evidenceKey : String
  networkProgress : Option OrchestrationNetworkProgress
deriving DecidableEq

inductive OrchestrationConditionState where
  | notTriggered (networkProgress : Option OrchestrationNetworkProgress)
  | triggered (condition : TriggeredOrchestrationCondition)
deriving DecidableEq

def orchestrationEvidenceKey (evidence : TriggerEvidenceInfo) : String :=
  match evidence.fingerprint with
  | some fingerprint =>
    if fingerprint = "" then evidence.summary else evidence.summary ++ "::" ++ fingerprint
  | none => evidence.summary

variable (rule : OrchestrationRuleInfo)

def shouldPersistOrchestrationEvidenceLatch : Bool :=
  rule.mode == .repeating && rule.isArmed && !rule.isNetworkRequest

def shouldRetainOrchestrationEvidenceLatch (result : OrchestrationResultInfo) : Bool :=
  shouldPersistOrchestrationEvidenceLatch rule && result.nextStatus == .armed &&
    (result.status == .fired ||
      (result.status == .blocked && result.reason == some "orchestration_cooldown_active"))

/-- The latch as the registry remembers it: the evidence of the last result, if that result
is one to keep it for. -/
def persistedLatchedOrchestrationEvidenceKey : Option String :=
  if shouldPersistOrchestrationEvidenceLatch rule then
    match rule.lastResult with
    | some result =>
      if shouldRetainOrchestrationEvidenceLatch rule result then
        rule.lastConditionEvidence.map orchestrationEvidenceKey
      else none
    | none => none
  else none

def orchestrationBaselineRequired : Bool :=
  rule.isNetworkRequest && rule.isArmed

namespace OrchestrationWorkerEntry

def create (committed : Option NetworkRequestBaseline) : OrchestrationWorkerEntry :=
  { NetworkCursor.create (orchestrationBaselineRequired rule) committed with
    lastStatus := rule.status
    latchedEvidenceKey := persistedLatchedOrchestrationEvidenceKey rule }

/-- The latch of a rule that a cycle did not see armed before is read from the registry again. -/
def rearm (committed : Option NetworkRequestBaseline) (entry : OrchestrationWorkerEntry) :
    OrchestrationWorkerEntry :=
  { entry.toNetworkCursor.rearm (orchestrationBaselineRequired rule) committed with
    lastStatus := entry.lastStatus
    latchedEvidenceKey := persistedLatchedOrchestrationEvidenceKey rule }

/-- Whether a cycle that lists the rule finds it armed again. -/
def rearms (entry : OrchestrationWorkerEntry) : Bool :=
  entry.lastStatus != .armed && rule.isArmed

end OrchestrationWorkerEntry

def reconcileOrchestrationEntry (committed : Option NetworkRequestBaseline)
    (existing : Option OrchestrationWorkerEntry) : OrchestrationWorkerEntry :=
  let entry := existing.getD (.create rule committed)
  let armed := if entry.rearms rule then entry.rearm rule committed else entry
  let primed :=
    if orchestrationBaselineRequired rule && committed.isNone then
      { armed with networkCursorPrimed := false }
    else armed
  { primed with
    lastStatus := rule.status
    latchedEvidenceKey :=
      primed.latchedEvidenceKey.or (persistedLatchedOrchestrationEvidenceKey rule) }

/-- Entries of rules that the cycle does not list are dropped. The listed rules have distinct
numbers, so the loop over them touches each entry once. -/
def reconcileOrchestrationWorkerState (entries : Nat → Option OrchestrationWorkerEntry)
    (rules : List OrchestrationRuleInfo) (baselines : Nat → Option NetworkRequestBaseline) :
    Nat → Option OrchestrationWorkerEntry :=
  fun id => (rules.find? fun rule => rule.id = id).map fun rule =>
    reconcileOrchestrationEntry rule (baselines id) (entries id)

def commitOrchestrationNetworkProgress (entry : OrchestrationWorkerEntry)
    (progress : Option OrchestrationNetworkProgress) : OrchestrationWorkerEntry :=
  { entry with toNetworkCursor := entry.commit progress }

def orchestrationRuleInCooldown (now : Nat) (rule : OrchestrationRuleInfo) : Bool :=
  match rule.executionPolicy.cooldownUntilMs with
  | some deadline => now < deadline
  | none => false

/-- What a probe says about a condition: it fails, or finds evidence that was lost (and then
tells where the observation goes on), or answers. -/
inductive OrchestrationProbe where
  | failed (error : ErrorEnvelope)
  | degraded (reason : String) (progress : OrchestrationNetworkProgress)
  | answered (evidence : Option TriggerEvidenceInfo) (progress : OrchestrationNetworkProgress)

def orchestrationBaselineMissingError (entry : OrchestrationWorkerEntry) : ErrorEnvelope :=
  (ErrorEnvelope.new .sessionBusy
    ("orchestration network_request evaluation is not authoritative because its committed " ++
      "observatory baseline is missing")).withContext
    (object [("reason", string "orchestration_network_request_baseline_missing"),
      ("next_network_cursor", natural entry.networkCursor),
      ("dropped_event_count", natural entry.observatoryDropCount)])

def orchestrationNonAuthoritativeEvidenceError (message : String) (degradedReason : Option String)
    (context : Json) : ErrorEnvelope :=
  (ErrorEnvelope.new .sessionBusy message).withContext
    ((context.insert "reason" (string "runtime_observatory_not_authoritative")).insert
      "degraded_reason" (optionalText degradedReason))

/-- The state of a condition, and the entry, after the probe. -/
def loadOrchestrationConditionState (probe : OrchestrationProbe)
    (entry : OrchestrationWorkerEntry) :
    Except ErrorEnvelope OrchestrationConditionState × OrchestrationWorkerEntry :=
  if rule.isNetworkRequest && !entry.networkCursorPrimed then
    (.error (orchestrationBaselineMissingError entry), entry)
  else
    match probe with
    | .failed error => (.error error, entry)
    | .degraded reason progress =>
      let moved := commitOrchestrationNetworkProgress entry (some progress)
      (.error (orchestrationNonAuthoritativeEvidenceError
        ("orchestration network_request evaluation is not authoritative because " ++
          "observatory evidence was dropped") (some reason)
        (object [("next_network_cursor", natural moved.networkCursor),
          ("dropped_event_count", natural moved.observatoryDropCount)])), moved)
    | .answered (some evidence) progress =>
      (.ok (.triggered
        { evidence := evidence, evidenceKey := orchestrationEvidenceKey evidence,
          networkProgress := some progress }), entry)
    | .answered none progress => (.ok (.notTriggered (some progress)), entry)

def classifyOrchestrationErrorStatus : ErrorCode → OrchestrationRuleStatus
  | .invalidInput | .elementNotFound | .elementNotInteractable | .staleSnapshot | .staleIndex
  | .waitTimeout | .noMatchingOption | .fileNotFound | .automationPaused => .blocked
  | _ => .degraded

def contextReason (envelope : ErrorEnvelope) : Option String :=
  (envelope.context.bind fun context => context.get "reason").bind asStr

/-- What is recorded of a condition that could not be evaluated: the rule keeps the status of
the snapshot. -/
def orchestrationProbeFailureResult (envelope : ErrorEnvelope) : OrchestrationResultInfo :=
  { ruleId := rule.id
    status := classifyOrchestrationErrorStatus envelope.code
    nextStatus := rule.status
    committedSteps := 0
    totalSteps := rule.actions.length
    cooldownUntilMs := none
    errorCode := some envelope.code
    reason := contextReason envelope
    errorContext := envelope.context }

def recordOrchestrationFailure (runtime : OrchestrationRuntimeState)
    (rule : OrchestrationRuleInfo) (envelope : ErrorEnvelope)
    (evidence : Option TriggerEvidenceInfo) : OrchestrationRuntimeState :=
  runtime.recordOutcomeWithFallback rule rule.lifecycleGeneration evidence
    (orchestrationProbeFailureResult rule envelope)

/-- A failure at the first step leaves the rule in the status it had. -/
def orchestrationFailureResult (failedStepIndex : Nat) (error : ErrorEnvelope) :
    OrchestrationResultInfo :=
  let status := classifyOrchestrationErrorStatus error.code
  { ruleId := rule.id
    status := status
    nextStatus := if failedStepIndex = 0 then rule.status else status
    committedSteps := failedStepIndex
    totalSteps := rule.actions.length
    cooldownUntilMs := none
    errorCode := some error.code
    reason := contextReason error
    errorContext := error.context }

def successfulNextStatus : OrchestrationRuleStatus :=
  match rule.mode with
  | .once => .fired
  | .repeating => .armed

def successfulCooldownUntilMs (now : Nat) (rule : OrchestrationRuleInfo) : Option Nat :=
  match rule.mode with
  | .once => none
  | .repeating =>
    if rule.executionPolicy.cooldownMs = 0 then none
    else some (now + rule.executionPolicy.cooldownMs)

def orchestrationSuccessResult (now : Nat) (rule : OrchestrationRuleInfo) :
    OrchestrationResultInfo :=
  { ruleId := rule.id
    status := .fired
    nextStatus := successfulNextStatus rule
    committedSteps := rule.actions.length
    totalSteps := rule.actions.length
    cooldownUntilMs := successfulCooldownUntilMs now rule
    errorCode := none
    reason := none
    errorContext := none }

def orchestrationStepCommandId (identityKey : String) (stepIndex : Nat) : String :=
  "orchestration:" ++ rule.idempotencyKey ++ ":g" ++ Nat.repr rule.lifecycleGeneration ++ ":" ++
    identityKey ++ ":" ++ Nat.repr stepIndex

def orchestrationTargetDispatchCommandId (address : OrchestrationAddressInfo)
    (commandId : String) : String :=
  "orchestration_target_dispatch:" ++ address.sessionId ++ ":" ++ commandId

def orchestrationTransientRetryLimit : Nat := 3

/-- The failures after which the frozen request is sent again. -/
def classifyRetryableOrchestrationError (error : ErrorEnvelope) : Option String :=
  match error.code, contextReason error with
  | .daemonNotRunning, some "orchestration_target_session_unreachable" =>
    some "session_unreachable"
  | .daemonNotRunning, some "orchestration_source_session_unreachable" =>
    some "session_unreachable"
  | .ipcProtocolError, some "orchestration_target_dispatch_transport_failed" =>
    some "dispatch_transport_transient"
  | .ipcProtocolError, some "orchestration_source_var_dispatch_transport_failed" =>
    some "dispatch_transport_transient"
  | _, _ => none

def attachOrchestrationRetryDiagnostics (error : ErrorEnvelope) (retryCount : Nat)
    (retryReason : Option String) : ErrorEnvelope :=
  if retryCount = 0 ∧ retryReason = none then error
  else
    let context := (error.context.filter isObject).getD (object [])
    let counted := context.insert "retry_count" (natural retryCount)
    match retryReason with
    | some reason => error.withContext (counted.insert "retry_reason" (string reason))
    | none => error.withContext counted

/-- The loop that sends one frozen request, between two of its attempts. -/
structure OrchestrationRetry where
  maxRetries : Nat
  attempts : Nat
  lastRetryReason : Option String
deriving DecidableEq

namespace OrchestrationRetry

def policy : Nat :=
  min rule.executionPolicy.maxRetries orchestrationTransientRetryLimit

/-- Building the request and sending it share one budget of retries. -/
def afterMaterialization (materializationAttempts : Nat) : OrchestrationRetry :=
  { maxRetries := policy rule - (materializationAttempts - 1), attempts := 0,
    lastRetryReason := none }

/-- What follows an attempt that failed: another one, or the error that is reported. -/
def afterFailure (retry : OrchestrationRetry) (error : ErrorEnvelope) :
    Except ErrorEnvelope OrchestrationRetry :=
  let attempts := retry.attempts + 1
  match classifyRetryableOrchestrationError error with
  | some reason =>
    if attempts ≤ retry.maxRetries then
      .ok { retry with attempts := attempts, lastRetryReason := some reason }
    else
      .error (attachOrchestrationRetryDiagnostics error (attempts - 1)
        (if attempts ≤ retry.maxRetries + 1 then some reason else retry.lastRetryReason))
  | none =>
    .error (attachOrchestrationRetryDiagnostics error (attempts - 1) retry.lastRetryReason)

end OrchestrationRetry

end Rub
