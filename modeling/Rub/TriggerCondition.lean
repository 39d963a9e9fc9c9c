import Mathlib.Data.List.Infix
import Rub.NetworkRequests
import Rub.TriggerRuntime

/-!
What the trigger worker remembers of each rule, how a cycle reconciles it with the registry,
how a network condition is evaluated, and how a failure is recorded. The other conditions are
answered by the browser.
-/

namespace Rub

open Json

/-- Where a worker reads the network requests for a rule from. -/
structure NetworkCursor where
  networkCursor : Nat
  networkCursorPrimed : Bool
  observatoryDropCount : Nat
deriving DecidableEq

structure TriggerWorkerEntry extends NetworkCursor where
  lastStatus : TriggerStatus
deriving DecidableEq

structure TriggerNetworkProgress where
  nextCursor : Nat
  observedDropCount : Nat
deriving DecidableEq

structure TriggeredTriggerCondition where
  evidence : TriggerEvidenceInfo
  evidenceFingerprint : String
  networkProgress : Option TriggerNetworkProgress
deriving DecidableEq

inductive TriggerConditionState where
  | notTriggered (networkProgress : Option TriggerNetworkProgress)
  | triggered (condition : TriggeredTriggerCondition)
deriving DecidableEq

def TriggerConditionState.networkProgress : TriggerConditionState → Option TriggerNetworkProgress
  | .notTriggered progress => progress
  | .triggered condition => condition.networkProgress

def triggerEvidenceConsumptionKey (evidence : TriggerEvidenceInfo) : String :=
  evidence.fingerprint.getD evidence.summary

/-- The state that evidence, or its absence, stands for. -/
def triggerConditionState (evidence : Option TriggerEvidenceInfo)
    (progress : Option TriggerNetworkProgress) : TriggerConditionState :=
  match evidence with
  | some evidence =>
    .triggered
      { evidence := evidence, evidenceFingerprint := triggerEvidenceConsumptionKey evidence,
        networkProgress := progress }
  | none => .notTriggered progress

def baselineRequired (trigger : TriggerInfo) : Bool :=
  trigger.isNetworkRequest && trigger.isArmed

namespace NetworkCursor

def create (required : Bool) (committed : Option NetworkRequestBaseline) : NetworkCursor :=
  { networkCursor := (committed.map (·.cursor)).getD 0
    networkCursorPrimed := (committed.map (·.primed)).getD (!required)
    observatoryDropCount := (committed.map (·.observedIngressDropCount)).getD 0 }

/-- The cursor of a rule that a cycle did not see armed before. -/
def rearm (required : Bool) (committed : Option NetworkRequestBaseline) (cursor : NetworkCursor) :
    NetworkCursor :=
  match committed with
  | some baseline => ⟨baseline.cursor, baseline.primed, baseline.observedIngressDropCount⟩
  | none => if required then ⟨0, false, 0⟩ else { cursor with networkCursorPrimed := true }

def commit (cursor : NetworkCursor) : Option TriggerNetworkProgress → NetworkCursor
  | some progress => ⟨progress.nextCursor, true, progress.observedDropCount⟩
  | none => cursor

end NetworkCursor

def TriggerWorkerEntry.create (trigger : TriggerInfo)
    (committed : Option NetworkRequestBaseline) : TriggerWorkerEntry :=
  { NetworkCursor.create (baselineRequired trigger) committed with lastStatus := trigger.status }

def TriggerWorkerEntry.rearm (trigger : TriggerInfo) (committed : Option NetworkRequestBaseline)
    (entry : TriggerWorkerEntry) : TriggerWorkerEntry :=
  { entry.toNetworkCursor.rearm (baselineRequired trigger) committed with
    lastStatus := entry.lastStatus }

def reconcileWorkerEntry (trigger : TriggerInfo) (committed : Option NetworkRequestBaseline)
    (existing : Option TriggerWorkerEntry) : TriggerWorkerEntry :=
  let entry := existing.getD (.create trigger committed)
  let armed :=
    if entry.lastStatus ≠ .armed ∧ trigger.status = .armed then entry.rearm trigger committed
    else entry
  let primed :=
    if baselineRequired trigger && committed.isNone then
      { armed with networkCursorPrimed := false }
    else armed
  { primed with lastStatus := trigger.status }

/-- Entries of rules that the cycle does not list are dropped. The listed rules have distinct
numbers, so the loop over them touches each entry once. -/
def reconcileWorkerState (entries : Nat → Option TriggerWorkerEntry) (triggers : List TriggerInfo)
    (baselines : Nat → Option NetworkRequestBaseline) : Nat → Option TriggerWorkerEntry :=
  fun id => (triggers.find? fun trigger => trigger.id = id).map fun trigger =>
    reconcileWorkerEntry trigger (baselines id) (entries id)

def commitTriggerNetworkProgress (entry : TriggerWorkerEntry)
    (progress : Option TriggerNetworkProgress) : TriggerWorkerEntry :=
  { entry with toNetworkCursor := entry.commit progress }

/-- The context of the error, with the members it does not have yet. -/
def mergeTriggerErrorContext (error : ErrorEnvelope) (extra : List (String × Json)) :
    ErrorEnvelope :=
  let context := (error.context.filter isObject).getD (object [])
  error.withContext (extra.foldl (fun merged entry =>
    if (merged.get entry.1).isSome then merged else merged.insert entry.1 entry.2) context)

def triggerDegradedAuthorityError (message reason : String) (extra : List (String × Json)) :
    ErrorEnvelope :=
  mergeTriggerErrorContext
    ((ErrorEnvelope.new .sessionBusy message).withContext
      (object [("reason", string reason)])) extra

def contextualizeTriggerError (error : ErrorEnvelope) ( prefixText : String) : ErrorEnvelope :=
  { error with message := prefixText ++ ": " ++ error.message }

def entryPosition (entry : TriggerWorkerEntry) : List (String × Json) :=
  [("next_network_cursor", natural entry.networkCursor),
    ("dropped_event_count", natural entry.observatoryDropCount)]

def baselineMissingError (entry : TriggerWorkerEntry) : ErrorEnvelope :=
  triggerDegradedAuthorityError
    ("trigger network_request evaluation is not authoritative because its committed " ++
      "observatory baseline is missing")
    "trigger_network_request_baseline_missing" (entryPosition entry)

def evidenceDroppedError (window : NetworkRequestWindow) (entry : TriggerWorkerEntry) :
    ErrorEnvelope :=
  triggerDegradedAuthorityError
    "trigger network_request evaluation is not authoritative because observatory evidence was dropped"
    "runtime_observatory_not_authoritative"
    (("degraded_reason", optionalText window.degradedReason) :: entryPosition entry)

def containsText (text pattern : String) : Bool := decide (pattern.toList <:+: text.toList)

def eqIgnoreAsciiCase (left right : String) : Bool :=
  left.toList.map Char.toLower == right.toList.map Char.toLower

def networkRequestMatches (record : NetworkRequestRecord) (trigger : TriggerInfo) : Bool :=
  record.tabTargetId == some trigger.sourceTab.targetId &&
    trigger.sourceTab.frameId.all (fun frameId => record.frameId == some frameId) &&
    containsText record.url (trigger.condition.urlPattern.getD "") &&
    trigger.condition.method.all (fun method => eqIgnoreAsciiCase record.method method) &&
    trigger.condition.statusCode.all (fun status => record.status == some status)

/-- The first read of an evaluation: the window behind the entry's cursor. -/
def readNetworkWindow (observatory : RuntimeObservatoryState) (ingressDropCount : Nat)
    (entry : TriggerWorkerEntry) : NetworkRequestWindow :=
  observatory.requestWindowAfter entry.networkCursor ingressDropCount entry.observatoryDropCount

def networkRequestEvidence (record : NetworkRequestRecord) : TriggerEvidenceInfo :=
  { summary := "network_request_matched:" ++ record.requestId,
    fingerprint := some record.requestId }

/-- The rest of an evaluation, after its second read of the drop counter. -/
def judgeNetworkWindow (trigger : TriggerInfo) (window : NetworkRequestWindow)
    (observedDropCount : Nat) (entry : TriggerWorkerEntry) :
    Except ErrorEnvelope TriggerConditionState × TriggerWorkerEntry :=
  if window.authoritative then
    let progress :=
      { nextCursor := window.nextCursor, observedDropCount := observedDropCount }
    (.ok (triggerConditionState
      ((window.records.find? fun record => networkRequestMatches record trigger).map
        networkRequestEvidence) (some progress)), entry)
  else
    let moved :=
      { entry with
        networkCursor := window.nextCursor, observatoryDropCount := observedDropCount }
    (.error (evidenceDroppedError window moved), moved)

inductive TriggerEvidenceDisposition where
  | preserve | consumeOnPermanentActionFailure
deriving DecidableEq

def classifyTriggerErrorStatus : ErrorCode → TriggerStatus
  | .invalidInput | .elementNotFound | .elementNotInteractable | .staleSnapshot | .staleIndex
  | .waitTimeout | .tabNotFound | .noMatchingOption | .fileNotFound | .automationPaused => .blocked
  | _ => .degraded

def contextText (envelope : ErrorEnvelope) (key : String) : Option String :=
  (envelope.context.bind fun context => context.get key).bind asStr

def permanentlyIrretryableTriggerActionFailure (envelope : ErrorEnvelope) : Bool :=
  match envelope.code with
  | .invalidInput => true
  | .fileNotFound => contextText envelope "action_command" != some "upload"
  | _ => false

def triggerFailureConsumesEvidence (envelope : ErrorEnvelope) (status : TriggerStatus)
    (disposition : TriggerEvidenceDisposition) : Bool :=
  disposition == .consumeOnPermanentActionFailure && status == .blocked &&
    contextText envelope "phase" == some "action" &&
    permanentlyIrretryableTriggerActionFailure envelope

/-- What is recorded of a failure: the rule keeps the status of the snapshot. -/
def triggerFailureResult (trigger : TriggerInfo) (envelope : ErrorEnvelope)
    (evidence : Option TriggerEvidenceInfo) (commandId : Option String)
    (disposition : TriggerEvidenceDisposition) : TriggerResultInfo :=
  let status := classifyTriggerErrorStatus envelope.code
  { triggerId := trigger.id
    status := status
    nextStatus := trigger.status
    commandId := commandId
    result := none
    errorCode := some envelope.code
    reason := contextText envelope "reason"
    errorContext := envelope.context
    consumedEvidenceFingerprint := evidence.bind fun evidence =>
      if triggerFailureConsumesEvidence envelope status disposition then
        some (triggerEvidenceConsumptionKey evidence)
      else none }

def recordTriggerFailure (runtime : TriggerRuntimeState) (trigger : TriggerInfo)
    (envelope : ErrorEnvelope) (evidence : Option TriggerEvidenceInfo) (commandId : Option String)
    (disposition : TriggerEvidenceDisposition) : TriggerRuntimeState :=
  (runtime.recordOutcomeWithFallback trigger trigger.lifecycleGeneration evidence
    (triggerFailureResult trigger envelope evidence commandId disposition)).2

def nextTriggerStatusAfterSuccess (trigger : TriggerInfo) : TriggerStatus :=
  match trigger.mode with
  | .once => .fired

def triggerSuccessResult (trigger : TriggerInfo) (commandId : String) (result : Option Json)
    (evidenceFingerprint : String) : TriggerResultInfo :=
  { triggerId := trigger.id
    status := .fired
    nextStatus := nextTriggerStatusAfterSuccess trigger
    commandId := some commandId
    result := result
    errorCode := none
    reason := none
    errorContext := none
    consumedEvidenceFingerprint := some evidenceFingerprint }

/-- Two lower case digits for each byte. -/
def hexEncode (bytes : List UInt8) : String :=
  String.ofList (bytes.flatMap fun byte =>
    [Nat.digitChar (byte.toNat / 16), Nat.digitChar (byte.toNat % 16)])

def triggerActionCommandId (trigger : TriggerInfo) (evidence : TriggerEvidenceInfo) : String :=
  "trigger:" ++ Nat.repr trigger.id ++ ":" ++
    hexEncode (triggerEvidenceConsumptionKey evidence).toUTF8.data.toList

end Rub
