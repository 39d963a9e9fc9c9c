import Rub.OrchestrationCondition
import Rub.ReservationBook
import Rub.TransitionSystem

/-!
The orchestration worker of a session as a transition system: one worker that runs cycles and
handles reservation completions, the tasks that reserve the session transaction for it, and
the registry commands, which run under that transaction. The transaction is held by whoever
has its guard: a grant that waits in the channel, or the handling of one. What other sessions
answer, and when a refresh of the known sessions lands, is chosen by the labels.
-/

namespace Rub

structure PendingOrchestrationConditionPolicy where
  preservedTriggered : Option TriggeredOrchestrationCondition
  requiresRevalidationAfterQueue : Bool
  ruleSemanticsFingerprint : String
  ruleLifecycleGeneration : Nat
  fallbackNetworkProgress : Option OrchestrationNetworkProgress
deriving DecidableEq

inductive OrchestrationCommand where
  | add (rule : OrchestrationRuleInfo) (baseline : Option NetworkRequestBaseline)
  | setStatus (id : Nat) (status : OrchestrationRuleStatus)
      (baseline : Option NetworkRequestBaseline)
  | remove (id : Nat)

/-- Where the worker stands in its cycle; the lists are what is left of the cycle's snapshot. -/
inductive OrchestrationPosition where
  | idle
  | listed (rules : List OrchestrationRuleInfo)
  | draining (rules : List OrchestrationRuleInfo)
  | judging (rule : OrchestrationRuleInfo) (later : List OrchestrationRuleInfo)

structure ReservedOrchestrationExecution where
  rule : OrchestrationRuleInfo
  evidence : TriggerEvidenceInfo
  evidenceKey : String
  networkProgress : Option OrchestrationNetworkProgress

/-- How far the handling of an accepted completion is. -/
inductive OrchestrationPhase where
  | granted
  | reporting (error : ErrorEnvelope)
  | recording (rule : OrchestrationRuleInfo) (error : ErrorEnvelope)
  | revalidating (rule : OrchestrationRuleInfo)
  | reserved (execution : ReservedOrchestrationExecution)
  | preparing (execution : ReservedOrchestrationExecution) (stepIndex : Nat)
  | dispatching (execution : ReservedOrchestrationExecution) (stepIndex : Nat)
      (retry : OrchestrationRetry)
  | finished (execution : ReservedOrchestrationExecution) (result : OrchestrationResultInfo)

/-- The guard is dropped before an error is reported. -/
def OrchestrationPhase.holdsTransaction : OrchestrationPhase → Bool
  | .reporting _ => false
  | .recording _ _ => false
  | _ => true

structure OrchestrationHandling where
  ruleId : Nat
  policy : PendingOrchestrationConditionPolicy
  phase : OrchestrationPhase

inductive ConditionAnswer where
  | failed | absent
  | present (evidenceKey : String)
deriving DecidableEq

def conditionAnswer : Except ErrorEnvelope OrchestrationConditionState → ConditionAnswer
  | .error _ => .failed
  | .ok (.notTriggered _) => .absent
  | .ok (.triggered condition) => .present condition.evidenceKey

/-- How one sending of a step's request ended. When the target may have committed the request
although no answer came back, the failure is one after a possible commit. -/
inductive DispatchAnswer where
  | committed
  | failed (error : ErrorEnvelope) (possibleCommit : Bool)

def DispatchAnswer.possibleCommit : DispatchAnswer → Bool
  | .committed => false
  | .failed _ possibleCommit => possibleCommit

structure OrchestrationDispatch where
  rule : OrchestrationRuleInfo
  evidenceKey : String
  stepIndex : Nat
  commandId : String
  possibleCommit : Bool

/-- What is remembered of a run. -/
inductive OrchestrationEvent where
  | evaluated (ruleId : Nat) (answer : ConditionAnswer)
  | dispatched (dispatch : OrchestrationDispatch)
  | executed (rule : OrchestrationRuleInfo) (evidenceKey : String)
      (result : OrchestrationResultInfo)

structure OrchestrationSession where
  runtime : OrchestrationRuntimeState
  now : Nat
  entries : Nat → Option OrchestrationWorkerEntry
  book : ReservationBook PendingOrchestrationConditionPolicy ErrorEnvelope
  position : OrchestrationPosition
  handling : Option OrchestrationHandling
  /-- History, oldest first. -/
  log : List OrchestrationEvent

inductive OrchestrationAction where
  | setClock (now : Nat)
  | refresh (sessions : List OrchestrationSessionInfo) (executionSupported : Bool)
  | command (command : OrchestrationCommand)
  -- reservation tasks
  | deliver (task : ReservationTask) (result : Except ErrorEnvelope Unit)
  | vanish (task : ReservationTask)
  -- the worker's cycle
  | list | reconcile | next
  | evaluate (probe : OrchestrationProbe)
  -- the worker's handling of completions
  | receive (shuttingDown : Bool)
  | readLive
  | revalidate (probe : OrchestrationProbe)
  | report | record | shutDown
  | handoffBlocked (error : ErrorEnvelope)
  | resolveTarget (failure : Option ErrorEnvelope)
  | materialize (attempts : Nat) (failure : Option ErrorEnvelope)
  | dispatch (answer : DispatchAnswer)
  | commit

namespace OrchestrationSession

def initial : OrchestrationSession :=
  { runtime := .default, now := 0, entries := fun _ => none, book := .empty, position := .idle,
    handling := none, log := [] }

variable (state : OrchestrationSession)

def transactionHeld : Bool :=
  state.book.channel.any (·.granted) || state.handling.any (·.phase.holdsTransaction)

def updateEntry (id : Nat) (change : OrchestrationWorkerEntry → OrchestrationWorkerEntry) :
    Nat → Option OrchestrationWorkerEntry :=
  Function.update state.entries id ((state.entries id).map change)

/-- A status is set on armed and paused rules only. -/
def applyCommand (runtime : OrchestrationRuntimeState) :
    OrchestrationCommand → OrchestrationRuntimeState
  | .add rule baseline => runtime.registerWithNetworkBaseline rule baseline
  | .setStatus id status baseline =>
    match runtime.rule id with
    | some current =>
      if (current.status = .armed ∧ status = .paused) ∨
          (current.status = .paused ∧ status = .armed) then
        runtime.updateStatusWithBaseline id status baseline
      else runtime
    | none => runtime
  | .remove id => runtime.remove id

def stepEnvironment : OrchestrationAction → Option OrchestrationSession
  | .setClock now => some { state with now := now }
  | .refresh sessions supported =>
    some { state with runtime := state.runtime.replace sessions supported }
  | .command command =>
    if state.transactionHeld then none
    else some { state with runtime := applyCommand state.runtime command }
  | .deliver task result =>
    if task ∈ state.book.tasks then
      match result with
      | .ok () =>
        if state.transactionHeld then none
        else some { state with book := state.book.deliver task (.ok ()) }
      | .error error => some { state with book := state.book.deliver task (.error error) }
    else none
  | .vanish task =>
    if task ∈ state.book.tasks ∧ task.aborted then
      some { state with book := state.book.vanish task }
    else none
  | _ => none

def orchestrationConditionRequiresRevalidationAfterQueue (rule : OrchestrationRuleInfo) : Bool :=
  !rule.isNetworkRequest

/-- Whether the worker may act for the rule now. -/
def actionable (now : Nat) (rule : OrchestrationRuleInfo) : Bool :=
  rule.isArmed && rule.unavailableReason.isNone && !orchestrationRuleInCooldown now rule

/-- The pending reservations that a cycle's snapshot still stands for. -/
def keepsReservation (now : Nat) (rules : List OrchestrationRuleInfo) (id : Nat)
    (pending : PendingReservation PendingOrchestrationConditionPolicy) : Bool :=
  (rules.find? fun rule => rule.id = id).any fun rule =>
    actionable now rule && pending.policy.ruleLifecycleGeneration == rule.lifecycleGeneration &&
      (pending.policy.requiresRevalidationAfterQueue ||
        pending.policy.ruleSemanticsFingerprint == orchestrationRuleSemanticsFingerprint rule)

/-- The worker after a rule that the cycle skips: the last rule ends the cycle. -/
def afterSkip : List OrchestrationRuleInfo → OrchestrationPosition
  | [] => .idle
  | later => .draining later

/-- The beginning of the processing of a rule that the worker may act for. -/
def startRule (rule : OrchestrationRuleInfo) (later : List OrchestrationRuleInfo) :
    OrchestrationSession :=
  match state.book.pending rule.id with
  | some pending =>
    if orchestrationConditionRequiresRevalidationAfterQueue rule then
      { state with position := .judging rule later }
    else if pending.policy.ruleSemanticsFingerprint =
        orchestrationRuleSemanticsFingerprint rule then
      { state with position := .draining later }
    else
      { state with book := state.book.cancel rule.id, position := .judging rule later }
  | none => { state with position := .judging rule later }

def reservationPolicy (rule : OrchestrationRuleInfo)
    (condition : TriggeredOrchestrationCondition) : PendingOrchestrationConditionPolicy :=
  let revalidates := orchestrationConditionRequiresRevalidationAfterQueue rule
  { preservedTriggered := if revalidates then none else some condition
    requiresRevalidationAfterQueue := revalidates
    ruleSemanticsFingerprint := orchestrationRuleSemanticsFingerprint rule
    ruleLifecycleGeneration := rule.lifecycleGeneration
    fallbackNetworkProgress := condition.networkProgress }

/-- A condition that does not hold clears the latch, in the registry too, and gives a pending
reservation up. -/
def clearRule (rule : OrchestrationRuleInfo) (progress : Option OrchestrationNetworkProgress) :
    OrchestrationSession :=
  { state with
    runtime :=
      if shouldPersistOrchestrationEvidenceLatch rule && rule.lastConditionEvidence.isSome then
        state.runtime.setConditionEvidence rule.id rule.lifecycleGeneration none
      else state.runtime
    entries := state.updateEntry rule.id fun entry =>
      commitOrchestrationNetworkProgress { entry with latchedEvidenceKey := none } progress
    book := state.book.cancel rule.id }

/-- What the evaluation of a rule leads to. Evidence that is latched only moves the cursor. -/
def decideRule (rule : OrchestrationRuleInfo) (entry : OrchestrationWorkerEntry) :
    Except ErrorEnvelope OrchestrationConditionState → OrchestrationSession
  | .error error =>
    { state with runtime := recordOrchestrationFailure state.runtime rule error none }
  | .ok (.notTriggered progress) => state.clearRule rule progress
  | .ok (.triggered condition) =>
    if entry.latchedEvidenceKey = some condition.evidenceKey then
      { state with
        entries := state.updateEntry rule.id fun entry =>
          commitOrchestrationNetworkProgress entry condition.networkProgress }
    else if (state.book.pending rule.id).isSome then state
    else { state with book := state.book.spawn rule.id (reservationPolicy rule condition) }

/-- The session after an evaluation: the evaluation is remembered, and the probe may have
moved the entry's cursor. -/
def evaluated (ruleId : Nat)
    (loaded : Except ErrorEnvelope OrchestrationConditionState × OrchestrationWorkerEntry) :
    OrchestrationSession :=
  { state with
    entries := Function.update state.entries ruleId (some loaded.2)
    log := state.log ++ [.evaluated ruleId (conditionAnswer loaded.1)] }

def stepCycle : OrchestrationAction → Option OrchestrationSession
  | .list =>
    match state.position with
    | .idle =>
      if state.runtime.executionSupported then
        match state.runtime.rules with
        | [] => some { state with book := state.book.abortAll, entries := fun _ => none }
        | rules => some { state with position := .listed rules }
      else some { state with book := state.book.abortAll }
    | _ => none
  | .reconcile =>
    match state.position with
    | .listed rules =>
      some { state with
        entries := reconcileOrchestrationWorkerState state.entries rules
          state.runtime.networkRequestBaselines
        book := state.book.retain (keepsReservation state.now rules)
        position := .draining rules }
    | _ => none
  | .next =>
    match state.position, state.book.channel with
    | .draining [], [] => some { state with position := .idle }
    | .draining (rule :: later), [] =>
      if actionable state.now rule then
        if (state.entries rule.id).isSome then some (state.startRule rule later)
        else some { state with position := afterSkip later }
      else
        some { state with book := state.book.cancel rule.id, position := afterSkip later }
    | _, _ => none
  | .evaluate probe =>
    match state.position with
    | .judging rule later =>
      (state.entries rule.id).map fun entry =>
        let loaded := loadOrchestrationConditionState rule probe entry
        ({ state with position := .draining later }.evaluated rule.id loaded).decideRule
          rule loaded.2 loaded.1
    | _ => none
  | _ => none

/-- The handler returns; a guard that it still has is dropped. -/
def finishHandling : OrchestrationSession :=
  { state with handling := none }

def inPhase (handling : OrchestrationHandling) (phase : OrchestrationPhase) :
    OrchestrationSession :=
  { state with handling := some { handling with phase := phase } }

/-- The worker takes a completion between two cycles, or while it drains inside one. A
refusal is not recorded by a session that shuts down. -/
def receiveCompletion (completion : ReservationCompletion ErrorEnvelope)
    (channel : List (ReservationCompletion ErrorEnvelope)) (shuttingDown : Bool) :
    OrchestrationSession :=
  let claimed := (state.book.withChannel channel).claim completion
  let received := { state with book := claimed.2 }
  match claimed.1, state.entries completion.ruleId with
  | some pending, some _ =>
    let handling := fun phase => some
      { ruleId := completion.ruleId, policy := pending.policy, phase := phase }
    match completion.result with
    | .ok () => { received with handling := handling .granted }
    | .error error =>
      if shuttingDown then received
      else { received with handling := handling (.reporting error) }
  | _, _ => received

/-- Whether the live rule still is what the reservation was asked for. -/
def admits (now : Nat) (policy : PendingOrchestrationConditionPolicy)
    (rule : OrchestrationRuleInfo) : Bool :=
  let revalidates := orchestrationConditionRequiresRevalidationAfterQueue rule
  actionable now rule && revalidates == policy.requiresRevalidationAfterQueue &&
    (revalidates ||
      orchestrationRuleSemanticsFingerprint rule == policy.ruleSemanticsFingerprint) &&
    rule.lifecycleGeneration == policy.ruleLifecycleGeneration

def lostEvidenceError : ErrorEnvelope :=
  ErrorEnvelope.new .internalError
    "orchestration reservation lost preserved network_request evidence before queue completion"

def reservedExecution (handling : OrchestrationHandling) (rule : OrchestrationRuleInfo)
    (condition : TriggeredOrchestrationCondition) : ReservedOrchestrationExecution :=
  { rule := rule
    evidence := condition.evidence
    evidenceKey := condition.evidenceKey
    networkProgress := condition.networkProgress.or handling.policy.fallbackNetworkProgress }

/-- The phase of a grant whose rule was read again. -/
def livePhase (handling : OrchestrationHandling) (rule : OrchestrationRuleInfo) :
    OrchestrationPhase :=
  if orchestrationConditionRequiresRevalidationAfterQueue rule then .revalidating rule
  else
    match handling.policy.preservedTriggered with
    | some condition => .reserved (reservedExecution handling rule condition)
    | none => .reporting lostEvidenceError

/-- The phase of an execution whose steps before `stepIndex` are committed. -/
def stepPhase (now : Nat) (execution : ReservedOrchestrationExecution) (stepIndex : Nat) :
    OrchestrationPhase :=
  if stepIndex < execution.rule.actions.length then .preparing execution stepIndex
  else .finished execution (orchestrationSuccessResult now execution.rule)

def failedPhase (execution : ReservedOrchestrationExecution) (stepIndex : Nat)
    (error : ErrorEnvelope) : OrchestrationPhase :=
  .finished execution (orchestrationFailureResult execution.rule stepIndex error)

/-- The command id under which the target session sees a step. -/
def stepCommandId (execution : ReservedOrchestrationExecution) (stepIndex : Nat) : String :=
  orchestrationTargetDispatchCommandId execution.rule.target
    (orchestrationStepCommandId execution.rule execution.evidenceKey stepIndex)

/-- The phase after one sending of a step's request. -/
def answeredPhase (now : Nat) (execution : ReservedOrchestrationExecution) (stepIndex : Nat)
    (retry : OrchestrationRetry) : DispatchAnswer → OrchestrationPhase
  | .committed => stepPhase now execution (stepIndex + 1)
  | .failed error _ =>
    match retry.afterFailure error with
    | .ok retried => .dispatching execution stepIndex retried
    | .error reported => failedPhase execution stepIndex reported

def dispatchEvent (execution : ReservedOrchestrationExecution) (stepIndex : Nat)
    (answer : DispatchAnswer) : OrchestrationEvent :=
  .dispatched
    { rule := execution.rule
      evidenceKey := execution.evidenceKey
      stepIndex := stepIndex
      commandId := stepCommandId execution stepIndex
      possibleCommit := answer.possibleCommit }

/-- The result is recorded; the evidence of an execution that fired is latched. -/
def commitExecution (handling : OrchestrationHandling) (execution : ReservedOrchestrationExecution)
    (result : OrchestrationResultInfo) : OrchestrationSession :=
  { state with
    runtime := state.runtime.recordOutcomeWithFallback execution.rule
      execution.rule.lifecycleGeneration (some execution.evidence) result
    entries := state.updateEntry handling.ruleId fun entry =>
      { commitOrchestrationNetworkProgress entry execution.networkProgress with
        latchedEvidenceKey :=
          if shouldRetainOrchestrationEvidenceLatch execution.rule result then
            some execution.evidenceKey
          else none }
    handling := none
    log := state.log ++ [.executed execution.rule execution.evidenceKey result] }

def commitProgress (handling : OrchestrationHandling) (execution : ReservedOrchestrationExecution) :
    OrchestrationSession :=
  { state with
    entries := state.updateEntry handling.ruleId fun entry =>
      commitOrchestrationNetworkProgress entry execution.networkProgress }

def stepHandling (handling : OrchestrationHandling) (action : OrchestrationAction) :
    Option OrchestrationSession :=
  match handling.phase, action with
  | .granted, .readLive =>
    match state.runtime.rule handling.ruleId with
    | some rule =>
      if admits state.now handling.policy rule then
        some (state.inPhase handling (livePhase handling rule))
      else some state.finishHandling
    | none => some state.finishHandling
  | .revalidating rule, .revalidate probe =>
    (state.entries handling.ruleId).map fun entry =>
      let loaded := loadOrchestrationConditionState rule probe entry
      let evaluated := state.evaluated handling.ruleId loaded
      match loaded.1 with
      | .error error => evaluated.inPhase handling (.reporting error)
      | .ok (.notTriggered _) =>
        { evaluated with
          entries := evaluated.updateEntry handling.ruleId fun entry =>
            { entry with latchedEvidenceKey := none } }.finishHandling
      | .ok (.triggered condition) =>
        evaluated.inPhase handling (.reserved (reservedExecution handling rule condition))
  | .reporting error, .report =>
    match state.runtime.rule handling.ruleId with
    | some rule => some (state.inPhase handling (.recording rule error))
    | none => some state.finishHandling
  | .recording rule error, .record =>
    some { state with
      runtime := recordOrchestrationFailure state.runtime rule error none }.finishHandling
  | .reserved execution, .shutDown => some (state.commitProgress handling execution).finishHandling
  | .reserved execution, .handoffBlocked error =>
    some ({ state with
      runtime := recordOrchestrationFailure state.runtime execution.rule error
        (some execution.evidence) }.commitProgress handling execution).finishHandling
  | .reserved execution, .resolveTarget failure =>
    match failure with
    | some error => some (state.inPhase handling (failedPhase execution 0 error))
    | none => some (state.inPhase handling (stepPhase state.now execution 0))
  | .preparing execution stepIndex, .materialize attempts failure =>
    if 1 ≤ attempts ∧ attempts ≤ OrchestrationRetry.policy execution.rule + 1 then
      match failure with
      | some error => some (state.inPhase handling (failedPhase execution stepIndex error))
      | none =>
        some (state.inPhase handling (.dispatching execution stepIndex
          (OrchestrationRetry.afterMaterialization execution.rule attempts)))
    else none
  | .dispatching execution stepIndex retry, .dispatch answer =>
    some ({ state with log := state.log ++ [dispatchEvent execution stepIndex answer] }.inPhase
      handling (answeredPhase state.now execution stepIndex retry answer))
  | .finished execution result, .commit => some (state.commitExecution handling execution result)
  | _, _ => none

def receivesCompletions : OrchestrationPosition → Bool
  | .idle => true
  | .draining _ => true
  | _ => false

def stepReceive : OrchestrationAction → Option OrchestrationSession
  | .receive shuttingDown =>
    match state.book.channel with
    | completion :: channel =>
      if receivesCompletions state.position then
        some (state.receiveCompletion completion channel shuttingDown)
      else none
    | [] => none
  | _ => none

/-- The worker is one task: while it handles a completion, its cycle waits. -/
def step (action : OrchestrationAction) : Option OrchestrationSession :=
  match action with
  | .setClock _ | .refresh _ _ | .command _ | .deliver _ _ | .vanish _ =>
    state.stepEnvironment action
  | _ =>
    match state.handling, action with
    | some handling, action => state.stepHandling handling action
    | none, .receive _ => state.stepReceive action
    | none, _ => state.stepCycle action

end OrchestrationSession

def orchestrationSystem : TransitionSystem OrchestrationSession OrchestrationAction :=
  { initial := .initial, step := OrchestrationSession.step }

end Rub
