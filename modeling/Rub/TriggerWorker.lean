import Rub.ReservationBook
import Rub.TransitionSystem
import Rub.TriggerCondition

/-!
The trigger worker of a session as a transition system: one worker that runs cycles and
handles reservation completions, the tasks that reserve the session transaction for it, the
registry commands that run under that transaction, and the request observations. A step is
what one party does between two suspension points.
-/

namespace Rub

structure PendingTriggerConditionPolicy where
  expectedLifecycleGeneration : Nat
  preservedTriggered : Option TriggeredTriggerCondition
  requiresRevalidationAfterQueue : Bool
  ruleSemanticsFingerprint : String
  fallbackNetworkProgress : Option TriggerNetworkProgress
deriving DecidableEq

inductive RegistryCommand where
  | add (trigger : TriggerInfo)
  | setStatus (id : Nat) (status : TriggerStatus)
  | remove (id : Nat)

inductive RegistryEdit where
  | register (trigger : TriggerInfo)
  | ensureBaseline (id : Nat)
  | setStatus (id : Nat) (status : TriggerStatus)
  | remove (id : Nat)

/-- A baseline is read in two steps, the cursor first. -/
inductive CommandPhase where
  | started (command : RegistryCommand)
  | measuring (edit : RegistryEdit)
  | counting (edit : RegistryEdit) (cursor : Nat)
  | ready (edit : RegistryEdit) (baseline : Option NetworkRequestBaseline)
  | finished

def CommandPhase.edit : CommandPhase → Option RegistryEdit
  | .measuring edit => some edit
  | .counting edit _ => some edit
  | .ready edit _ => some edit
  | _ => none

/-- Where the worker stands in its cycle; the lists are what is left of the cycle's snapshot. -/
inductive WorkerPosition where
  | idle
  | listed (triggers : List TriggerInfo)
  | refreshed (triggers : List TriggerInfo)
  | draining (triggers : List TriggerInfo)
  | judging (trigger : TriggerInfo) (later : List TriggerInfo)
  | counting (trigger : TriggerInfo) (later : List TriggerInfo) (window : NetworkRequestWindow)
  | deciding (trigger : TriggerInfo) (later : List TriggerInfo)
      (condition : Except ErrorEnvelope TriggerConditionState)

structure ReservedTriggerExecution where
  trigger : TriggerInfo
  evidence : TriggerEvidenceInfo
  evidenceFingerprint : String
  networkProgress : Option TriggerNetworkProgress

/-- How far the handling of an accepted completion is. From `refreshing` on the phase carries
the live rule that was read under the transaction. -/
inductive HandlingPhase where
  | granted
  | reporting (error : ErrorEnvelope) (evidence : Option TriggerEvidenceInfo)
  | recording (trigger : TriggerInfo) (error : ErrorEnvelope)
      (evidence : Option TriggerEvidenceInfo)
  | refreshing (trigger : TriggerInfo)
  | revalidating (trigger : TriggerInfo)
  | reserved (execution : ReservedTriggerExecution)
  | dispatched (execution : ReservedTriggerExecution)

/-- The rule as the handling has read it. -/
def HandlingPhase.snapshot : HandlingPhase → Option TriggerInfo
  | .granted => none
  | .reporting _ _ => none
  | .recording trigger _ _ => some trigger
  | .refreshing trigger => some trigger
  | .revalidating trigger => some trigger
  | .reserved execution => some execution.trigger
  | .dispatched execution => some execution.trigger

structure CompletionHandling where
  ruleId : Nat
  policy : PendingTriggerConditionPolicy
  /-- Whether the transaction that the completion was granted is not dropped yet. -/
  holdsTransaction : Bool
  phase : HandlingPhase

structure RuleGeneration where
  ruleId : Nat
  generation : Nat
deriving DecidableEq

def TriggerInfo.ruleGeneration (trigger : TriggerInfo) : RuleGeneration :=
  { ruleId := trigger.id, generation := trigger.lifecycleGeneration }

structure TriggerSession where
  runtime : TriggerRuntimeState
  observatory : RuntimeObservatoryState
  ingressDropCount : Nat
  /-- Whether some party holds the exclusive session transaction. -/
  transactionHeld : Bool
  command : Option CommandPhase
  entries : Nat → Option TriggerWorkerEntry
  book : ReservationBook PendingTriggerConditionPolicy ErrorEnvelope
  position : WorkerPosition
  handling : Option CompletionHandling
  /-- History: the baseline cursor that the last arming of a rule committed. -/
  armedCursor : Nat → Option Nat
  /-- History: the generations under which conditions were evaluated. -/
  evaluations : List RuleGeneration
  /-- History: the dispatched actions, with the generation of the evaluation behind each. -/
  dispatches : List RuleGeneration
  /-- History: the rules whose outcome was recorded as fired. -/
  fired : List Nat

/-- What the browser says about a condition. -/
inductive ConditionReading where
  | failed (error : ErrorEnvelope)
  | absent
  | present (evidence : TriggerEvidenceInfo)

def ConditionReading.conditionState :
    ConditionReading → Except ErrorEnvelope TriggerConditionState
  | .failed error => .error error
  | .absent => .ok (triggerConditionState none none)
  | .present evidence => .ok (triggerConditionState (some evidence) none)

inductive TriggerSessionAction where
  -- the browser's side
  | observe (action : ObservatoryAction)
  | dropIngress
  | reconcileTabs (tabs : List TabInfo)
  -- registry commands
  | begin (command : RegistryCommand)
  | choose | readCursor | readDropCount | commit | endCommand
  -- reservation tasks
  | deliver (task : ReservationTask) (result : Except ErrorEnvelope Unit)
  | vanish (task : ReservationTask)
  -- the worker's cycle
  | list
  | refresh (succeeds : Bool)
  | reconcile | next | readWindow | judgeWindow
  | evaluate (reading : ConditionReading)
  | decide
  -- the worker's handling of completions
  | receive (shuttingDown : Bool)
  | handoffBlocked (error : ErrorEnvelope)
  | readLive
  | refreshTabs (succeeds : Bool)
  | revalidate (reading : ConditionReading)
  | report | record | shutDown
  | failBeforeDispatch (error : ErrorEnvelope)
  | dispatch
  | actionFailed (error : ErrorEnvelope)
  | actionSucceeded (result : Option Json)

namespace TriggerSession

def initial : TriggerSession :=
  { runtime := .default, observatory := .default, ingressDropCount := 0,
    transactionHeld := false, command := none, entries := fun _ => none, book := .empty,
    position := .idle, handling := none, armedCursor := fun _ => none, evaluations := [],
    dispatches := [], fired := [] }

/-- The edit a command makes, and whether it needs a network baseline. Some commands change
nothing. -/
def chooseEdit (runtime : TriggerRuntimeState) : RegistryCommand → Option (RegistryEdit × Bool)
  | .add trigger =>
    match runtime.triggers.find? fun existing => triggerRegistrationReusable existing trigger with
    | some existing =>
      if existing.isNetworkRequest then some (.ensureBaseline existing.id, true) else none
    | none => some (.register trigger, trigger.isArmed && trigger.isNetworkRequest)
  | .setStatus id status =>
    match runtime.triggerRule id with
    | some current =>
      if (current.status = .armed ∧ status = .paused) ∨
          (current.status = .paused ∧ status = .armed) then
        some (.setStatus id status, status == .armed && current.isNetworkRequest)
      else none
    | none => none
  | .remove id => some (.remove id, false)

def chosenPhase (runtime : TriggerRuntimeState) (command : RegistryCommand) : CommandPhase :=
  match chooseEdit runtime command with
  | some (edit, true) => .measuring edit
  | some (edit, false) => .ready edit none
  | none => .finished

def applyEdit (runtime : TriggerRuntimeState) (edit : RegistryEdit)
    (baseline : Option NetworkRequestBaseline) : TriggerRuntimeState :=
  match edit with
  | .register trigger => runtime.registerWithNetworkBaseline trigger baseline
  | .ensureBaseline id =>
    match baseline with
    | some baseline => runtime.ensureNetworkRequestBaseline id baseline
    | none => runtime
  | .setStatus id status => runtime.updateStatusWithBaseline id status baseline
  | .remove id => runtime.remove id

/-- The rule that the edit arms, if it arms one. -/
def armedRule (runtime : TriggerRuntimeState) : RegistryEdit → Option Nat
  | .register trigger => if trigger.isArmed then some runtime.registry.nextId else none
  | .setStatus id status =>
    if status = .armed ∧ (runtime.triggerRule id).isSome = true then some id else none
  | _ => none

variable (state : TriggerSession)

def recordArming (edit : RegistryEdit) (baseline : Option NetworkRequestBaseline) :
    Nat → Option Nat :=
  match armedRule state.runtime edit, baseline with
  | some id, some baseline => Function.update state.armedCursor id (some baseline.cursor)
  | _, _ => state.armedCursor

def stepCommand : TriggerSessionAction → Option TriggerSession
  | .begin command =>
    if state.transactionHeld then none
    else some { state with transactionHeld := true, command := some (.started command) }
  | .choose =>
    match state.command with
    | some (.started command) =>
      some { state with command := some (chosenPhase state.runtime command) }
    | _ => none
  | .readCursor =>
    match state.command with
    | some (.measuring edit) =>
      some { state with
        command := some (.counting edit state.observatory.requestCursor) }
    | _ => none
  | .readDropCount =>
    match state.command with
    | some (.counting edit cursor) =>
      some { state with
        command := some (.ready edit (some
          { cursor := cursor, observedIngressDropCount := state.ingressDropCount,
            primed := true })) }
    | _ => none
  | .commit =>
    match state.command with
    | some (.ready edit baseline) =>
      some { state with
        runtime := applyEdit state.runtime edit baseline
        armedCursor := state.recordArming edit baseline
        command := some .finished }
    | _ => none
  -- a command may also be cut off by its deadline
  | .endCommand =>
    if state.command.isSome then some { state with command := none, transactionHeld := false }
    else none
  | _ => none

def stepTask : TriggerSessionAction → Option TriggerSession
  | .deliver task result =>
    if task ∈ state.book.tasks then
      match result with
      | .ok () =>
        if state.transactionHeld then none
        else
          some { state with
            book := state.book.deliver task (.ok ()), transactionHeld := true }
      | .error error => some { state with book := state.book.deliver task (.error error) }
    else none
  | .vanish task =>
    if task ∈ state.book.tasks ∧ task.aborted then
      some { state with book := state.book.vanish task }
    else none
  | _ => none

def updateEntry (id : Nat) (change : TriggerWorkerEntry → TriggerWorkerEntry) :
    Nat → Option TriggerWorkerEntry :=
  Function.update state.entries id ((state.entries id).map change)

def triggerConditionRequiresRevalidationAfterQueue (trigger : TriggerInfo) : Bool :=
  !trigger.isNetworkRequest

/-- The pending reservations that a cycle's snapshot still stands for. -/
def keepsReservation (triggers : List TriggerInfo) (id : Nat)
    (pending : PendingReservation PendingTriggerConditionPolicy) : Bool :=
  (triggers.find? fun trigger =>
    trigger.id == id && trigger.isArmed && trigger.unavailableReason.isNone).any fun trigger =>
      pending.policy.expectedLifecycleGeneration == trigger.lifecycleGeneration &&
        (pending.policy.requiresRevalidationAfterQueue ||
          pending.policy.ruleSemanticsFingerprint == triggerRuleSemanticsFingerprint trigger)

/-- The worker after a rule that the cycle skips: the last rule ends the cycle. -/
def afterSkip : List TriggerInfo → WorkerPosition
  | [] => .idle
  | later => .draining later

/-- The beginning of the processing of an armed and available rule. -/
def startRule (trigger : TriggerInfo) (later : List TriggerInfo) : TriggerSession :=
  match state.book.pending trigger.id with
  | some pending =>
    if triggerConditionRequiresRevalidationAfterQueue trigger then
      { state with position := .judging trigger later }
    else if pending.policy.ruleSemanticsFingerprint = triggerRuleSemanticsFingerprint trigger then
      { state with position := .draining later }
    else
      { state with book := state.book.cancel trigger.id, position := .judging trigger later }
  | none => { state with position := .judging trigger later }

def reservationPolicy (trigger : TriggerInfo) (condition : TriggeredTriggerCondition) :
    PendingTriggerConditionPolicy :=
  let revalidates := triggerConditionRequiresRevalidationAfterQueue trigger
  { expectedLifecycleGeneration := trigger.lifecycleGeneration
    preservedTriggered := if revalidates then none else some condition
    requiresRevalidationAfterQueue := revalidates
    ruleSemanticsFingerprint := triggerRuleSemanticsFingerprint trigger
    fallbackNetworkProgress := condition.networkProgress }

/-- A condition that holds no new evidence: the evidence is published, the progress committed
and a pending reservation given up. -/
def settleRule (trigger : TriggerInfo) (later : List TriggerInfo)
    (evidence : Option TriggerEvidenceInfo) (progress : Option TriggerNetworkProgress) :
    TriggerSession :=
  { state with
    runtime :=
      state.runtime.setConditionEvidence trigger.id trigger.lifecycleGeneration evidence
    entries := state.updateEntry trigger.id fun entry => commitTriggerNetworkProgress entry progress
    book := state.book.cancel trigger.id
    position := .draining later }

/-- The end of the processing of a rule, once its condition was evaluated. -/
def decideRule (trigger : TriggerInfo) (later : List TriggerInfo) :
    Except ErrorEnvelope TriggerConditionState → TriggerSession
  | .error error =>
    { state with
      runtime := recordTriggerFailure state.runtime trigger
        (contextualizeTriggerError error "trigger condition evaluation failed") none none .preserve
      position := .draining later }
  | .ok (.notTriggered progress) => state.settleRule trigger later none progress
  | .ok (.triggered condition) =>
    if trigger.consumedEvidenceFingerprint = some condition.evidenceFingerprint then
      state.settleRule trigger later (some condition.evidence) condition.networkProgress
    else if (state.book.pending trigger.id).isSome then
      { state with position := .draining later }
    else
      { state with
        book := state.book.spawn trigger.id (reservationPolicy trigger condition)
        position := .draining later }

def stepCycle : TriggerSessionAction → Option TriggerSession
  | .list =>
    match state.position, state.handling with
    | .idle, none =>
      match state.runtime.triggers with
      | [] => some { state with book := state.book.abortAll, entries := fun _ => none }
      | triggers => some { state with position := .listed triggers }
    | _, _ => none
  | .refresh succeeds =>
    match state.position with
    | .listed triggers =>
      some { state with position := if succeeds then .refreshed triggers else .idle }
    | _ => none
  | .reconcile =>
    match state.position with
    | .refreshed triggers =>
      some { state with
        entries := reconcileWorkerState state.entries triggers
          state.runtime.networkRequestBaselines
        book := state.book.retain (keepsReservation triggers)
        position := .draining triggers }
    | _ => none
  | .next =>
    match state.position, state.handling, state.book.channel with
    | .draining [], none, [] => some { state with position := .idle }
    | .draining (trigger :: later), none, [] =>
      if trigger.isArmed && trigger.unavailableReason.isNone then
        some (state.startRule trigger later)
      else
        some { state with
          book := state.book.cancel trigger.id, position := afterSkip later }
    | _, _, _ => none
  | .readWindow =>
    match state.position with
    | .judging trigger later =>
      if trigger.isNetworkRequest then
        (state.entries trigger.id).map fun entry =>
          if entry.networkCursorPrimed then
            { state with
              position := .counting trigger later
                (readNetworkWindow state.observatory state.ingressDropCount entry) }
          else
            { state with position := .deciding trigger later (.error (baselineMissingError entry)) }
      else none
    | _ => none
  | .judgeWindow =>
    match state.position with
    | .counting trigger later window =>
      (state.entries trigger.id).map fun entry =>
        let judged := judgeNetworkWindow trigger window state.ingressDropCount entry
        { state with
          entries := Function.update state.entries trigger.id (some judged.2)
          evaluations := state.evaluations ++ [trigger.ruleGeneration]
          position := .deciding trigger later judged.1 }
    | _ => none
  | .evaluate reading =>
    match state.position with
    | .judging trigger later =>
      if trigger.isNetworkRequest then none
      else
        some { state with
          evaluations := state.evaluations ++ [trigger.ruleGeneration]
          position := .deciding trigger later reading.conditionState }
    | _ => none
  | .decide =>
    match state.position with
    | .deciding trigger later condition => some (state.decideRule trigger later condition)
    | _ => none
  | _ => none

/-- The handler returns, and what it holds of the transaction is dropped. -/
def finishHandling (handling : CompletionHandling) : TriggerSession :=
  { state with
    transactionHeld := state.transactionHeld && !handling.holdsTransaction
    handling := none }

def inPhase (handling : CompletionHandling) (phase : HandlingPhase) : TriggerSession :=
  { state with handling := some { handling with phase := phase } }

/-- The transaction is dropped, and the error is recorded against the live rule. -/
def reportFailure (handling : CompletionHandling) (error : ErrorEnvelope) : TriggerSession :=
  { state with
    transactionHeld := state.transactionHeld && !handling.holdsTransaction
    handling := some
      { handling with holdsTransaction := false, phase := .reporting error none } }

def acceptedHandling (completion : ReservationCompletion ErrorEnvelope)
    (policy : PendingTriggerConditionPolicy) : CompletionHandling :=
  { ruleId := completion.ruleId
    policy := policy
    holdsTransaction := completion.granted
    phase :=
      match completion.result with
      | .ok () => .granted
      | .error error => .reporting error none }

def receiveCompletion (completion : ReservationCompletion ErrorEnvelope)
    (channel : List (ReservationCompletion ErrorEnvelope)) (shuttingDown : Bool) : TriggerSession :=
  let claimed := (state.book.withChannel channel).claim completion
  match claimed.1, state.entries completion.ruleId, shuttingDown with
  | some pending, some _, false =>
    { state with
      book := claimed.2
      handling := some (acceptedHandling completion pending.policy) }
  | _, _, _ =>
    { state with
      book := claimed.2
      transactionHeld := state.transactionHeld && !completion.granted }

/-- The handling ends with evidence and progress recorded for its rule. -/
def settleEvidence (handling : CompletionHandling) (trigger : TriggerInfo)
    (evidence : Option TriggerEvidenceInfo) (progress : Option TriggerNetworkProgress) :
    TriggerSession :=
  { state with
    runtime := state.runtime.setConditionEvidence trigger.id trigger.lifecycleGeneration evidence
    entries := state.updateEntry handling.ruleId fun entry =>
      commitTriggerNetworkProgress entry progress }.finishHandling handling

/-- The last check before an execution is reserved: evidence that was consumed fires nothing. -/
def reserve (handling : CompletionHandling) (trigger : TriggerInfo)
    (condition : TriggeredTriggerCondition) : TriggerSession :=
  let progress := condition.networkProgress.or handling.policy.fallbackNetworkProgress
  if trigger.consumedEvidenceFingerprint = some condition.evidenceFingerprint then
    state.settleEvidence handling trigger (some condition.evidence) progress
  else
    state.inPhase handling (.reserved
      { trigger := trigger, evidence := condition.evidence,
        evidenceFingerprint := condition.evidenceFingerprint, networkProgress := progress })

def lostEvidenceError : ErrorEnvelope :=
  ErrorEnvelope.new .internalError
    "trigger reservation lost preserved network_request evidence before queue completion"

/-- What follows the tab refresh of a granted reservation. -/
def resumeRule (handling : CompletionHandling) (trigger : TriggerInfo) : TriggerSession :=
  let revalidates := triggerConditionRequiresRevalidationAfterQueue trigger
  if revalidates ≠ handling.policy.requiresRevalidationAfterQueue then
    state.finishHandling handling
  else if !revalidates &&
      triggerRuleSemanticsFingerprint trigger != handling.policy.ruleSemanticsFingerprint then
    state.finishHandling handling
  else if revalidates then state.inPhase handling (.revalidating trigger)
  else
    match handling.policy.preservedTriggered with
    | some condition => state.reserve handling trigger condition
    | none => state.reportFailure handling lostEvidenceError

/-- The outcome of an action that was executed, or that failed before it was. -/
def failExecution (handling : CompletionHandling) (execution : ReservedTriggerExecution)
    (error : ErrorEnvelope) : TriggerSession :=
  let consumes := triggerFailureConsumesEvidence error (classifyTriggerErrorStatus error.code)
    .consumeOnPermanentActionFailure
  { state with
    runtime := recordTriggerFailure state.runtime execution.trigger error
      (some execution.evidence)
      (some (triggerActionCommandId execution.trigger execution.evidence))
      .consumeOnPermanentActionFailure
    entries :=
      if consumes then
        state.updateEntry execution.trigger.id fun entry =>
          commitTriggerNetworkProgress entry execution.networkProgress
      else state.entries }.finishHandling handling

def succeedExecution (handling : CompletionHandling) (execution : ReservedTriggerExecution)
    (result : Option Json) : TriggerSession :=
  let recorded := state.runtime.recordOutcomeWithFallback execution.trigger
    execution.trigger.lifecycleGeneration (some execution.evidence)
    (triggerSuccessResult execution.trigger
      (triggerActionCommandId execution.trigger execution.evidence) result
      execution.evidenceFingerprint)
  { state with
    runtime := recorded.2
    fired :=
      if recorded.1 = TriggerOutcomeCommit.applied ∧
          (state.runtime.triggerRule execution.trigger.id).isSome then
        execution.trigger.id :: state.fired
      else state.fired
    entries := state.updateEntry execution.trigger.id fun entry =>
      commitTriggerNetworkProgress entry execution.networkProgress }.finishHandling handling

def stepHandling (handling : CompletionHandling) : TriggerSessionAction → Option TriggerSession
  | .handoffBlocked error =>
    match handling.phase with
    | .granted =>
      some (state.inPhase handling (.reporting error
        (handling.policy.preservedTriggered.map (·.evidence))))
    | .reserved execution =>
      some ({ state with
        runtime := recordTriggerFailure state.runtime execution.trigger error
          (some execution.evidence) none .preserve }.finishHandling handling)
    | _ => none
  | .readLive =>
    match handling.phase with
    | .granted =>
      match state.runtime.triggerRule handling.ruleId with
      | some trigger =>
        if trigger.isArmed && trigger.unavailableReason.isNone &&
            trigger.lifecycleGeneration == handling.policy.expectedLifecycleGeneration then
          some (state.inPhase handling (.refreshing trigger))
        else some (state.finishHandling handling)
      | none => some (state.finishHandling handling)
    | _ => none
  | .refreshTabs succeeds =>
    match handling.phase with
    | .refreshing trigger =>
      some (if succeeds then state.resumeRule handling trigger
        else state.finishHandling handling)
    | _ => none
  | .revalidate reading =>
    match handling.phase with
    | .revalidating trigger =>
      match reading.conditionState with
      | .error error =>
        some (state.reportFailure handling (contextualizeTriggerError error
          "trigger condition evaluation failed after queue"))
      | .ok (.notTriggered _) =>
        some (state.settleEvidence handling trigger none handling.policy.fallbackNetworkProgress)
      | .ok (.triggered condition) => some (state.reserve handling trigger condition)
    | _ => none
  | .report =>
    match handling.phase with
    | .reporting error evidence =>
      match state.runtime.triggerRule handling.ruleId with
      | some trigger => some (state.inPhase handling (.recording trigger error evidence))
      | none => some (state.finishHandling handling)
    | _ => none
  | .record =>
    match handling.phase with
    | .recording trigger error evidence =>
      some ({ state with
        runtime := recordTriggerFailure state.runtime trigger error evidence none .preserve
        }.finishHandling handling)
    | _ => none
  | .shutDown =>
    match handling.phase with
    | .reserved _ => some (state.finishHandling handling)
    | _ => none
  | .failBeforeDispatch error =>
    match handling.phase with
    | .reserved execution => some (state.failExecution handling execution error)
    | _ => none
  | .dispatch =>
    match handling.phase with
    | .reserved execution =>
      some { state with
        dispatches := state.dispatches ++
          [⟨execution.trigger.id, handling.policy.expectedLifecycleGeneration⟩]
        handling := some { handling with phase := .dispatched execution } }
    | _ => none
  | .actionFailed error =>
    match handling.phase with
    | .dispatched execution => some (state.failExecution handling execution error)
    | _ => none
  | .actionSucceeded result =>
    match handling.phase with
    | .dispatched execution => some (state.succeedExecution handling execution result)
    | _ => none
  | _ => none

/-- The worker takes a completion between two cycles, or while it drains inside one. -/
def receivesCompletions : WorkerPosition → Bool
  | .idle => true
  | .draining _ => true
  | _ => false

def stepCompletion (action : TriggerSessionAction) : Option TriggerSession :=
  match state.handling, action with
  | none, .receive shuttingDown =>
    match state.book.channel with
    | completion :: channel =>
      if receivesCompletions state.position then
        some (state.receiveCompletion completion channel shuttingDown)
      else none
    | [] => none
  | some handling, action => state.stepHandling handling action
  | none, _ => none

def stepBrowser : TriggerSessionAction → Option TriggerSession
  | .observe action => some { state with observatory := state.observatory.act action }
  | .dropIngress => some { state with ingressDropCount := state.ingressDropCount + 1 }
  | .reconcileTabs tabs => some { state with runtime := state.runtime.reconcileTabs tabs }
  | _ => none

def step (action : TriggerSessionAction) : Option TriggerSession :=
  match action with
  | .observe _ | .dropIngress | .reconcileTabs _ => state.stepBrowser action
  | .begin _ | .choose | .readCursor | .readDropCount | .commit | .endCommand =>
    state.stepCommand action
  | .deliver _ _ | .vanish _ => state.stepTask action
  | .list | .refresh _ | .reconcile | .next | .readWindow | .judgeWindow | .evaluate _ | .decide =>
    state.stepCycle action
  | _ => state.stepCompletion action

end TriggerSession

def triggerSystem : TransitionSystem TriggerSession TriggerSessionAction :=
  { initial := .initial, step := TriggerSession.step }

namespace TriggerSession

def sessionAfter (actions : List TriggerSessionAction) : TriggerSession :=
  (triggerSystem.runFrom .initial actions).getD .initial

/-- A command that measures no baseline. -/
def commandRun (command : RegistryCommand) : List TriggerSessionAction :=
  [.begin command, .choose, .commit, .endCommand]

/-- The part of a cycle that leads up to the first rule. -/
def cycleStart : List TriggerSessionAction := [.list, .refresh true, .reconcile, .next]

end TriggerSession

end Rub
