import Rub.TriggerRuntime

/-!
The orchestration registry of a session: rules that watch a tab of one session and act on a
tab of another one. Each function below is one critical section of the registry's lock. The
event trace, the counts and the summaries of the projection are not part of the model.
-/

namespace Rub

open Json

inductive OrchestrationRuleStatus where
  | armed | paused | fired | blocked | degraded | expired
deriving DecidableEq

inductive OrchestrationMode where
  | once | repeating
deriving DecidableEq

structure OrchestrationExecutionPolicyInfo where
  cooldownMs : Nat
  maxRetries : Nat
  cooldownUntilMs : Option Nat
deriving DecidableEq

structure OrchestrationAddressInfo where
  sessionId : String
  sessionName : String
  tabIndex : Option Nat
  tabTargetId : Option String
  frameId : Option String
deriving DecidableEq

structure OrchestrationResultInfo where
  ruleId : Nat
  status : OrchestrationRuleStatus
  nextStatus : OrchestrationRuleStatus
  committedSteps : Nat
  totalSteps : Nat
  cooldownUntilMs : Option Nat
  errorCode : Option ErrorCode
  reason : Option String
  errorContext : Option Json

structure OrchestrationRuleInfo where
  id : Nat
  status : OrchestrationRuleStatus
  lifecycleGeneration : Nat
  source : OrchestrationAddressInfo
  target : OrchestrationAddressInfo
  mode : OrchestrationMode
  executionPolicy : OrchestrationExecutionPolicyInfo
  condition : TriggerConditionSpec
  actions : List TriggerActionSpec
  correlationKey : String
  idempotencyKey : String
  unavailableReason : Option String
  lastConditionEvidence : Option TriggerEvidenceInfo
  lastResult : Option OrchestrationResultInfo

def OrchestrationRuleInfo.isArmed (rule : OrchestrationRuleInfo) : Bool := rule.status == .armed

def OrchestrationRuleInfo.isNetworkRequest (rule : OrchestrationRuleInfo) : Bool :=
  rule.condition.kind == .networkRequest

def OrchestrationMode.name : OrchestrationMode → String
  | .once => "once"
  | .repeating => "repeat"

def addressJson (address : OrchestrationAddressInfo) : Json :=
  object [("session_id", string address.sessionId),
    ("tab_target_id", optionalText address.tabTargetId),
    ("frame_id", optionalText address.frameId)]

def OrchestrationExecutionPolicyInfo.json (policy : OrchestrationExecutionPolicyInfo) : Json :=
  present [("cooldown_ms", some (natural policy.cooldownMs)),
    ("max_retries", some (natural policy.maxRetries)),
    ("cooldown_until_ms", policy.cooldownUntilMs.map natural)]

/-- The text of what a rule is about; the end of a cooldown is part of it. -/
def orchestrationRuleSemanticsFingerprint (rule : OrchestrationRuleInfo) : String :=
  String.ofList (canonicalJson (object
    [("source", addressJson rule.source), ("target", addressJson rule.target),
      ("mode", string rule.mode.name), ("execution_policy", rule.executionPolicy.json),
      ("condition", rule.condition.json),
      ("actions", array (rule.actions.map TriggerActionSpec.json)),
      ("correlation_key", string rule.correlationKey),
      ("idempotency_key", string rule.idempotencyKey)]))

namespace OrchestrationRuleInfo

def withStatus (status : OrchestrationRuleStatus) (rule : OrchestrationRuleInfo) :
    OrchestrationRuleInfo :=
  { rule with status := status, lifecycleGeneration := rule.lifecycleGeneration + 1 }

def withEvidence (evidence : Option TriggerEvidenceInfo) (rule : OrchestrationRuleInfo) :
    OrchestrationRuleInfo :=
  { rule with lastConditionEvidence := evidence }

def withOutcome (evidence : Option TriggerEvidenceInfo) (result : OrchestrationResultInfo)
    (rule : OrchestrationRuleInfo) : OrchestrationRuleInfo :=
  { rule with
    status := result.nextStatus
    lifecycleGeneration := rule.lifecycleGeneration + 1
    executionPolicy := { rule.executionPolicy with cooldownUntilMs := result.cooldownUntilMs }
    lastConditionEvidence := evidence
    lastResult := some result }

/-- An outcome of an older generation is shown, but changes neither status nor cooldown. -/
def withStaleOutcome (evidence : Option TriggerEvidenceInfo) (result : OrchestrationResultInfo)
    (rule : OrchestrationRuleInfo) : OrchestrationRuleInfo :=
  { rule with lastConditionEvidence := evidence, lastResult := some result }

end OrchestrationRuleInfo

inductive OrchestrationSessionAvailability where
  | addressable | busyOrUnknown | protocolIncompatible | hardCutReleasePending | pendingStartup
  | currentFallback
deriving DecidableEq

structure OrchestrationSessionInfo where
  sessionId : String
  sessionName : String
  availability : OrchestrationSessionAvailability
deriving DecidableEq

def orchestrationSessionAddressabilityReason (session : OrchestrationSessionInfo) :
    Option String :=
  match session.availability with
  | .addressable | .currentFallback => none
  | .busyOrUnknown => some "busy_or_unknown"
  | .protocolIncompatible => some "protocol_incompatible"
  | .hardCutReleasePending => some "hard_cut_release_pending"
  | .pendingStartup => some "pending_startup"

inductive RuleSessionState where
  | addressable | missing | notAddressable
deriving DecidableEq

def ruleSessionState : Option OrchestrationSessionInfo → RuleSessionState
  | none => .missing
  | some session =>
    if (orchestrationSessionAddressabilityReason session).isSome then .notAddressable
    else .addressable

def unavailableReasonForRuleSessions : RuleSessionState → RuleSessionState → Option String
  | .addressable, .addressable => none
  | .missing, .missing => some "source_and_target_sessions_missing"
  | .missing, .addressable => some "source_session_missing"
  | .addressable, .missing => some "target_session_missing"
  | .notAddressable, .addressable => some "source_session_not_addressable"
  | .addressable, .notAddressable => some "target_session_not_addressable"
  | .notAddressable, .notAddressable => some "source_and_target_sessions_not_addressable"
  | .missing, .notAddressable => some "source_session_missing_target_not_addressable"
  | .notAddressable, .missing => some "source_session_not_addressable_target_missing"

def renamed (address : OrchestrationAddressInfo) :
    Option OrchestrationSessionInfo → OrchestrationAddressInfo
  | some session => { address with sessionName := session.sessionName }
  | none => address

def OrchestrationRuleInfo.reconcileSessions (sessions : List OrchestrationSessionInfo)
    (rule : OrchestrationRuleInfo) : OrchestrationRuleInfo :=
  let source := sessions.find? fun session => session.sessionId = rule.source.sessionId
  let target := sessions.find? fun session => session.sessionId = rule.target.sessionId
  { rule with
    source := renamed rule.source source
    target := renamed rule.target target
    unavailableReason :=
      unavailableReasonForRuleSessions (ruleSessionState source) (ruleSessionState target) }

structure OrchestrationRuntimeState where
  registry : RuleRegistry OrchestrationRuleInfo OrchestrationRuleInfo.id
  networkRequestBaselines : Nat → Option NetworkRequestBaseline
  executionSupported : Bool

namespace OrchestrationRuntimeState

/-- The first rule of a session has number 1. -/
def default : OrchestrationRuntimeState :=
  { registry := RuleRegistry.empty 1, networkRequestBaselines := fun _ => none,
    executionSupported := false }

variable (state : OrchestrationRuntimeState)

def rules : List OrchestrationRuleInfo := state.registry.rules

def rule (id : Nat) : Option OrchestrationRuleInfo :=
  state.registry.find id

/-- An armed network rule keeps its baseline when no new one is given; any other rule has
none. -/
def commitNetworkRequestBaseline (rule : OrchestrationRuleInfo)
    (baseline : Option NetworkRequestBaseline) : OrchestrationRuntimeState :=
  if rule.isArmed && rule.isNetworkRequest then
    match baseline with
    | some baseline =>
      { state with networkRequestBaselines :=
          Function.update state.networkRequestBaselines rule.id (some baseline) }
    | none => state
  else
    { state with networkRequestBaselines :=
        Function.update state.networkRequestBaselines rule.id none }

/-- The rule as it is registered: with the next number and a generation of at least one. -/
def numbered (rule : OrchestrationRuleInfo) : OrchestrationRuleInfo :=
  { rule with
    id := state.registry.nextId, lifecycleGeneration := max rule.lifecycleGeneration 1 }

/-- A registration under an idempotency key that is in use fails; its number is gone. -/
def registerWithNetworkBaseline (rule : OrchestrationRuleInfo)
    (baseline : Option NetworkRequestBaseline) : OrchestrationRuntimeState :=
  if state.rules.any fun existing => existing.idempotencyKey = rule.idempotencyKey then
    { state with registry := state.registry.skip }
  else
    let registered := { state with registry := state.registry.register (state.numbered rule) rfl }
    registered.commitNetworkRequestBaseline (state.numbered rule) baseline

def updateStatusWithBaseline (id : Nat) (status : OrchestrationRuleStatus)
    (baseline : Option NetworkRequestBaseline) : OrchestrationRuntimeState :=
  match state.rule id with
  | some rule =>
    let updated :=
      { state with
        registry := state.registry.edit id (OrchestrationRuleInfo.withStatus status)
          (fun _ => rfl) }
    updated.commitNetworkRequestBaseline (OrchestrationRuleInfo.withStatus status rule) baseline
  | none => state

def remove (id : Nat) : OrchestrationRuntimeState :=
  match state.rule id with
  | some removed =>
    { state with
      registry := state.registry.remove id
      networkRequestBaselines := Function.update state.networkRequestBaselines removed.id none }
  | none => state

def setConditionEvidence (id expectedGeneration : Nat) (evidence : Option TriggerEvidenceInfo) :
    OrchestrationRuntimeState :=
  match state.rule id with
  | some rule =>
    if rule.lifecycleGeneration = expectedGeneration then
      { state with
        registry := state.registry.edit id (OrchestrationRuleInfo.withEvidence evidence)
          (fun _ => rfl) }
    else state
  | none => state

/-- The outcome of a rule that is gone is only published. -/
def recordOutcomeWithFallback (snapshot : OrchestrationRuleInfo) (expectedGeneration : Nat)
    (evidence : Option TriggerEvidenceInfo) (result : OrchestrationResultInfo) :
    OrchestrationRuntimeState :=
  match state.rule snapshot.id with
  | none => state
  | some current =>
    if current.lifecycleGeneration = expectedGeneration then
      let recorded := OrchestrationRuleInfo.withOutcome evidence result current
      { state with
        registry := state.registry.edit snapshot.id
          (OrchestrationRuleInfo.withOutcome evidence result) (fun _ => rfl)
        networkRequestBaselines :=
          if recorded.isArmed && recorded.isNetworkRequest then state.networkRequestBaselines
          else Function.update state.networkRequestBaselines snapshot.id none }
    else
      { state with
        registry := state.registry.edit snapshot.id
          (OrchestrationRuleInfo.withStaleOutcome evidence result) (fun _ => rfl) }

/-- A refresh of the sessions that the rules can address. -/
def replace (sessions : List OrchestrationSessionInfo) (executionSupported : Bool) :
    OrchestrationRuntimeState :=
  { registry :=
      state.registry.editAll (OrchestrationRuleInfo.reconcileSessions sessions) (fun _ => rfl)
    networkRequestBaselines := fun id =>
      (state.networkRequestBaselines id).filter fun _ =>
        (state.rule id).any fun rule => rule.isArmed && rule.isNetworkRequest
    executionSupported := executionSupported }

end OrchestrationRuntimeState

end Rub
