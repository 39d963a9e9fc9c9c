import Rub.CanonicalJson
import Rub.IpcProtocol
import Rub.RuleRegistry

/-!
The trigger registry of a session, with the network baselines of its armed network triggers.
Each function below is one critical section of the registry's lock. The event trace and the
counts of the projection are not part of the model.
-/

namespace Rub

open Json

inductive TriggerStatus where
  | armed | paused | fired | blocked | degraded | expired
deriving DecidableEq

inductive TriggerMode where
  | once
deriving DecidableEq

inductive TriggerConditionKind where
  | textPresent | locatorPresent | urlMatch | readiness | networkRequest | storageValue
deriving DecidableEq

inductive TriggerActionKind where
  | browserCommand | workflow | provider | script | webhook
deriving DecidableEq

structure TabInfo where
  index : Nat
  targetId : String
  url : String
  title : String
  active : Bool
  degradedReason : Option String
deriving DecidableEq

def TabInfo.pageIdentityAuthoritative (tab : TabInfo) : Bool := tab.degradedReason.isNone

structure TriggerTabBindingInfo where
  index : Nat
  targetId : String
  frameId : Option String
  url : String
  title : String
deriving DecidableEq

/-- `details` holds the members that only the browser conditions read. -/
structure TriggerConditionSpec where
  kind : TriggerConditionKind
  urlPattern : Option String
  method : Option String
  statusCode : Option Nat
  details : List (String × Option Json)

structure TriggerActionSpec where
  kind : TriggerActionKind
  command : Option String
  payload : Option Json

structure TriggerEvidenceInfo where
  summary : String
  fingerprint : Option String
deriving DecidableEq

structure TriggerResultInfo where
  triggerId : Nat
  status : TriggerStatus
  nextStatus : TriggerStatus
  commandId : Option String
  result : Option Json
  errorCode : Option ErrorCode
  reason : Option String
  errorContext : Option Json
  consumedEvidenceFingerprint : Option String

structure TriggerInfo where
  id : Nat
  status : TriggerStatus
  lifecycleGeneration : Nat
  mode : TriggerMode
  sourceTab : TriggerTabBindingInfo
  targetTab : TriggerTabBindingInfo
  condition : TriggerConditionSpec
  action : TriggerActionSpec
  lastConditionEvidence : Option TriggerEvidenceInfo
  consumedEvidenceFingerprint : Option String
  lastActionResult : Option TriggerResultInfo
  unavailableReason : Option String

/-- A rule that acts once on the first tab, as it is handed in. -/
def TriggerInfo.onFirstTab (id : Nat) (kind : TriggerConditionKind) (urlPattern : Option String)
    (command : String) : TriggerInfo :=
  let tab : TriggerTabBindingInfo :=
    { index := 0, targetId := "tab", frameId := none, url := "", title := "" }
  { id, status := .armed, lifecycleGeneration := 1, mode := .once, sourceTab := tab,
    targetTab := tab,
    condition := { kind, urlPattern, method := none, statusCode := none, details := [] }
    action := { kind := .browserCommand, command := some command, payload := none }
    lastConditionEvidence := none, consumedEvidenceFingerprint := none,
    lastActionResult := none, unavailableReason := none }

structure NetworkRequestBaseline where
  cursor : Nat
  observedIngressDropCount : Nat
  primed : Bool
deriving DecidableEq

def TriggerInfo.isArmed (trigger : TriggerInfo) : Bool := trigger.status == .armed

def TriggerInfo.isNetworkRequest (trigger : TriggerInfo) : Bool :=
  trigger.condition.kind == .networkRequest

def TriggerConditionKind.name : TriggerConditionKind → String
  | .textPresent => "text_present"
  | .locatorPresent => "locator_present"
  | .urlMatch => "url_match"
  | .readiness => "readiness"
  | .networkRequest => "network_request"
  | .storageValue => "storage_value"

def TriggerActionKind.name : TriggerActionKind → String
  | .browserCommand => "browser_command"
  | .workflow => "workflow"
  | .provider => "provider"
  | .script => "script"
  | .webhook => "webhook"

def TriggerMode.name : TriggerMode → String
  | .once => "once"

def TriggerConditionSpec.json (condition : TriggerConditionSpec) : Json :=
  present ([("kind", some (string condition.kind.name)),
    ("url_pattern", condition.urlPattern.map string),
    ("method", condition.method.map string),
    ("status_code", condition.statusCode.map natural)] ++ condition.details)

def TriggerActionSpec.json (action : TriggerActionSpec) : Json :=
  present [("kind", some (string action.kind.name)),
    ("command", action.command.map string), ("payload", action.payload)]

def bindingJson (binding : TriggerTabBindingInfo) : Json :=
  object [("target_id", string binding.targetId),
    ("frame_id", optionalText binding.frameId)]

/-- The text of what a rule is about: its mode, tabs, condition and action. -/
def triggerRuleSemanticsFingerprint (trigger : TriggerInfo) : String :=
  String.ofList (canonicalJson (object
    [("mode", string trigger.mode.name), ("source", bindingJson trigger.sourceTab),
      ("target", bindingJson trigger.targetTab), ("condition", trigger.condition.json),
      ("action", trigger.action.json)]))

/-- A registration finds the rule again that it would register. -/
def triggerRegistrationReusable (existing wanted : TriggerInfo) : Bool :=
  existing.isArmed &&
    triggerRuleSemanticsFingerprint existing == triggerRuleSemanticsFingerprint wanted

def TriggerInfo.withStatus (status : TriggerStatus) (trigger : TriggerInfo) : TriggerInfo :=
  { trigger with status := status, lifecycleGeneration := trigger.lifecycleGeneration + 1 }

def TriggerInfo.withEvidence (evidence : Option TriggerEvidenceInfo) (trigger : TriggerInfo) :
    TriggerInfo :=
  { trigger with
    lastConditionEvidence := evidence
    consumedEvidenceFingerprint :=
      if evidence.isNone then none else trigger.consumedEvidenceFingerprint }

def TriggerInfo.withOutcome (evidence : Option TriggerEvidenceInfo) (result : TriggerResultInfo)
    (trigger : TriggerInfo) : TriggerInfo :=
  { trigger with
    status := result.nextStatus
    lifecycleGeneration := trigger.lifecycleGeneration + 1
    lastConditionEvidence := evidence
    consumedEvidenceFingerprint := result.consumedEvidenceFingerprint
    lastActionResult := some result }

def TriggerInfo.withStaleOutcome (evidence : Option TriggerEvidenceInfo)
    (result : TriggerResultInfo) (trigger : TriggerInfo) : TriggerInfo :=
  { trigger with lastConditionEvidence := evidence, lastActionResult := some result }

structure TriggerRuntimeState where
  registry : RuleRegistry TriggerInfo TriggerInfo.id
  networkRequestBaselines : Nat → Option NetworkRequestBaseline

inductive TriggerOutcomeCommit where
  | applied | stale
deriving DecidableEq

namespace TriggerRuntimeState

/-- The first trigger of a session has number 1. -/
def default : TriggerRuntimeState :=
  { registry := RuleRegistry.empty 1, networkRequestBaselines := fun _ => none }

variable (state : TriggerRuntimeState)

def triggers : List TriggerInfo := state.registry.rules

def triggerRule (id : Nat) : Option TriggerInfo :=
  state.registry.find id

/-- An armed network trigger keeps its baseline when no new one is given; any other trigger
has none. -/
def commitNetworkRequestBaseline (trigger : TriggerInfo)
    (baseline : Option NetworkRequestBaseline) : TriggerRuntimeState :=
  if trigger.isArmed && trigger.isNetworkRequest then
    match baseline with
    | some baseline =>
      { state with networkRequestBaselines :=
          Function.update state.networkRequestBaselines trigger.id (some baseline) }
    | none => state
  else
    { state with networkRequestBaselines :=
        Function.update state.networkRequestBaselines trigger.id none }

/-- The rule as it is registered: with the next number and a generation of at least one. -/
def numbered (trigger : TriggerInfo) : TriggerInfo :=
  { trigger with
    id := state.registry.nextId, lifecycleGeneration := max trigger.lifecycleGeneration 1 }

def registerWithNetworkBaseline (trigger : TriggerInfo) (baseline : Option NetworkRequestBaseline) :
    TriggerRuntimeState :=
  let registered := { state with registry := state.registry.register (state.numbered trigger) rfl }
  registered.commitNetworkRequestBaseline (state.numbered trigger) baseline

def updateStatusWithBaseline (id : Nat) (status : TriggerStatus)
    (baseline : Option NetworkRequestBaseline) : TriggerRuntimeState :=
  match state.triggerRule id with
  | some trigger =>
    let updated :=
      { state with
        registry := state.registry.edit id (TriggerInfo.withStatus status) (fun _ => rfl) }
    updated.commitNetworkRequestBaseline (TriggerInfo.withStatus status trigger) baseline
  | none => state

def ensureNetworkRequestBaseline (id : Nat) (baseline : NetworkRequestBaseline) :
    TriggerRuntimeState :=
  match state.triggerRule id with
  | some trigger =>
    if trigger.isArmed && trigger.isNetworkRequest then
      { state with
        networkRequestBaselines := Function.update state.networkRequestBaselines id
          (some ((state.networkRequestBaselines id).getD baseline)) }
    else state
  | none => state

def setConditionEvidence (id expectedGeneration : Nat) (evidence : Option TriggerEvidenceInfo) :
    TriggerRuntimeState :=
  match state.triggerRule id with
  | some trigger =>
    if trigger.lifecycleGeneration = expectedGeneration then
      { state with
        registry := state.registry.edit id (TriggerInfo.withEvidence evidence) (fun _ => rfl) }
    else state
  | none => state

/-- The outcome of a rule whose generation was checked. -/
def recordOutcome (trigger : TriggerInfo) (evidence : Option TriggerEvidenceInfo)
    (result : TriggerResultInfo) : TriggerRuntimeState :=
  let recorded := TriggerInfo.withOutcome evidence result trigger
  { registry := state.registry.edit trigger.id (TriggerInfo.withOutcome evidence result)
      (fun _ => rfl)
    networkRequestBaselines :=
      if recorded.isArmed && recorded.isNetworkRequest then state.networkRequestBaselines
      else Function.update state.networkRequestBaselines trigger.id none }

/-- The outcome of a trigger that is gone is only published. -/
def recordOutcomeWithFallback (snapshot : TriggerInfo) (expectedGeneration : Nat)
    (evidence : Option TriggerEvidenceInfo) (result : TriggerResultInfo) :
    TriggerOutcomeCommit × TriggerRuntimeState :=
  match state.triggerRule snapshot.id with
  | none => (.applied, state)
  | some current =>
    if current.lifecycleGeneration = expectedGeneration then
      (.applied, state.recordOutcome current evidence result)
    else
      (.stale, { state with
        registry := state.registry.edit snapshot.id (TriggerInfo.withStaleOutcome evidence result)
          (fun _ => rfl) })

def remove (id : Nat) : TriggerRuntimeState :=
  match state.triggerRule id with
  | some removed =>
    { registry := state.registry.remove id
      networkRequestBaselines := Function.update state.networkRequestBaselines removed.id none }
  | none => state

end TriggerRuntimeState

inductive TriggerTabAuthority where
  | available | missing | pageIdentityDegraded
deriving DecidableEq

def triggerTabAuthority : Option TabInfo → TriggerTabAuthority
  | none => .missing
  | some tab => if tab.degradedReason.isSome then .pageIdentityDegraded else .available

def triggerUnavailableReason : TriggerTabAuthority → TriggerTabAuthority → Option String
  | .available, .available => none
  | .missing, .missing => some "source_and_target_tabs_missing"
  | .missing, .available => some "source_tab_missing"
  | .available, .missing => some "target_tab_missing"
  | .pageIdentityDegraded, .available => some "source_tab_projection_degraded"
  | .available, .pageIdentityDegraded => some "target_tab_projection_degraded"
  | .pageIdentityDegraded, .pageIdentityDegraded =>
    some "source_and_target_tabs_projection_degraded"
  | .missing, .pageIdentityDegraded => some "source_tab_missing_and_target_projection_degraded"
  | .pageIdentityDegraded, .missing => some "source_tab_projection_degraded_and_target_missing"

def syncBinding (binding : TriggerTabBindingInfo) : Option TabInfo → TriggerTabBindingInfo
  | none => binding
  | some tab =>
    if tab.pageIdentityAuthoritative then
      { binding with index := tab.index, url := tab.url, title := tab.title }
    else { binding with index := tab.index }

def TriggerInfo.reconcileTabs (tabs : List TabInfo) (trigger : TriggerInfo) : TriggerInfo :=
  let source := tabs.find? fun tab => tab.targetId = trigger.sourceTab.targetId
  let target := tabs.find? fun tab => tab.targetId = trigger.targetTab.targetId
  { trigger with
    sourceTab := syncBinding trigger.sourceTab source
    targetTab := syncBinding trigger.targetTab target
    unavailableReason :=
      triggerUnavailableReason (triggerTabAuthority source) (triggerTabAuthority target) }

def TriggerRuntimeState.reconcileTabs (state : TriggerRuntimeState) (tabs : List TabInfo) :
    TriggerRuntimeState :=
  { state with registry := state.registry.editAll (TriggerInfo.reconcileTabs tabs) (fun _ => rfl) }

end Rub
