import Mathlib.Data.List.Nodup

/-!
The network request registry of the runtime observatory: one record for each request id,
renumbered and moved to the back with every lifecycle update, in a ring of bounded length.
-/

namespace Rub

inductive RuntimeObservatoryStatus where
  | inactive | active | degraded
deriving DecidableEq

inductive NetworkRuleEffectKind where
  | rewrite | block | allow | headerOverride
deriving DecidableEq

structure NetworkRuleEffect where
  ruleId : Nat
  kind : NetworkRuleEffectKind
deriving DecidableEq

structure NetworkBodyPreview where
  available : Bool
  preview : Option String
  encoding : Option String
  truncated : Option Bool
  omittedReason : Option String
deriving DecidableEq

inductive NetworkRequestLifecycle where
  | pending | responded | completed | failed
deriving DecidableEq

def requestLifecycleRank : NetworkRequestLifecycle → Nat
  | .pending => 0
  | .responded => 1
  | .completed | .failed => 2

structure ObservedNetworkRequestRecord where
  requestId : String
  lifecycle : NetworkRequestLifecycle
  url : String
  method : String
  tabTargetId : Option String
  status : Option Nat
  requestHeaders : List (String × String)
  responseHeaders : List (String × String)
  requestBody : Option NetworkBodyPreview
  responseBody : Option NetworkBodyPreview
  originalUrl : Option String
  rewrittenUrl : Option String
  appliedRuleEffects : List NetworkRuleEffect
  errorText : Option String
  frameId : Option String
  resourceType : Option String
  mimeType : Option String
deriving DecidableEq

/-- An observed record with the sequence the observatory gave it. -/
structure NetworkRequestRecord extends ObservedNetworkRequestRecord where
  sequence : Nat
deriving DecidableEq

def authoritativeRequestRecord (record : ObservedNetworkRequestRecord) (sequence : Nat) :
    NetworkRequestRecord :=
  { toObservedNetworkRequestRecord := record, sequence := sequence }

/-- A field of the incoming record unless it is empty. -/
def unlessEmpty (existing incoming : String) : String :=
  if incoming = "" then existing else incoming

def unlessNil {Item : Type} (existing incoming : List Item) : List Item :=
  if incoming.isEmpty then existing else incoming

def mergeObservedRequestRecord (existing : NetworkRequestRecord)
    (incoming : ObservedNetworkRequestRecord) : NetworkRequestRecord :=
  { existing with
    lifecycle :=
      if requestLifecycleRank incoming.lifecycle ≥ requestLifecycleRank existing.lifecycle then
        incoming.lifecycle
      else existing.lifecycle
    url := unlessEmpty existing.url incoming.url
    method := unlessEmpty existing.method incoming.method
    tabTargetId := incoming.tabTargetId.or existing.tabTargetId
    status := incoming.status.or existing.status
    requestHeaders := unlessNil existing.requestHeaders incoming.requestHeaders
    responseHeaders := unlessNil existing.responseHeaders incoming.responseHeaders
    requestBody := incoming.requestBody.or existing.requestBody
    responseBody := incoming.responseBody.or existing.responseBody
    originalUrl := incoming.originalUrl.or existing.originalUrl
    rewrittenUrl := incoming.rewrittenUrl.or existing.rewrittenUrl
    appliedRuleEffects := unlessNil existing.appliedRuleEffects incoming.appliedRuleEffects
    errorText := incoming.errorText.or existing.errorText
    frameId := incoming.frameId.or existing.frameId
    resourceType := incoming.resourceType.or existing.resourceType
    mimeType := incoming.mimeType.or existing.mimeType }

def observatoryRequestRecordLimit : Nat := 1024

structure NetworkRequestWindow where
  records : List NetworkRequestRecord
  nextCursor : Nat
  authoritative : Bool
  degradedReason : Option String
deriving DecidableEq

/-- What the request registry consists of. -/
structure RuntimeObservatoryState where
  status : RuntimeObservatoryStatus
  degradedReason : Option String
  nextRequestSequence : Nat
  requestRecords : String → Option NetworkRequestRecord
  requestOrder : List String
  droppedRequestRecordCount : Nat
  lastEvictedRequestSequence : Nat

namespace RuntimeObservatoryState

def default : RuntimeObservatoryState where
  status := .inactive
  degradedReason := none
  nextRequestSequence := 0
  requestRecords := fun _ => none
  requestOrder := []
  droppedRequestRecordCount := 0
  lastEvictedRequestSequence := 0

variable (state : RuntimeObservatoryState)

def markActive : RuntimeObservatoryState :=
  if state.status = .degraded then state
  else { state with status := .active, degradedReason := none }

def markReady : RuntimeObservatoryState :=
  if state.status = .inactive then { state with status := .active, degradedReason := none }
  else state

def markDegraded (reason : String) : RuntimeObservatoryState :=
  { state with status := .degraded, degradedReason := some reason }

def requestCursor : Nat := state.nextRequestSequence - 1

/-- The sequence the next observation gets. -/
def requestSequence : Nat := max state.nextRequestSequence 1

/-- The loop that drops the oldest records beyond the limit. -/
def trimRequestRecordsFrom (state : RuntimeObservatoryState) :
    List String → RuntimeObservatoryState
  | [] => { state with requestOrder := [] }
  | oldest :: rest =>
    if (oldest :: rest).length > observatoryRequestRecordLimit then
      trimRequestRecordsFrom
        { state with
          requestRecords := Function.update state.requestRecords oldest none
          lastEvictedRequestSequence :=
            match state.requestRecords oldest with
            | some evicted => max state.lastEvictedRequestSequence evicted.sequence
            | none => state.lastEvictedRequestSequence
          droppedRequestRecordCount := state.droppedRequestRecordCount + 1 }
        rest
    else { state with requestOrder := oldest :: rest }

def upsertObservedRequestRecord (record : ObservedNetworkRequestRecord) : RuntimeObservatoryState :=
  let sequence := state.requestSequence
  let numbered := { state.markActive with nextRequestSequence := sequence + 1 }
  match state.requestRecords record.requestId with
  | some existing =>
    -- an update renumbers the record and moves it to the back, without trimming
    { numbered with
      requestRecords := Function.update state.requestRecords record.requestId
        (some { mergeObservedRequestRecord existing record with sequence := sequence })
      requestOrder := state.requestOrder.erase record.requestId ++ [record.requestId] }
  | none =>
    { numbered with
      requestRecords := Function.update state.requestRecords record.requestId
        (some (authoritativeRequestRecord record sequence)) }.trimRequestRecordsFrom
      (state.requestOrder ++ [record.requestId])

def requestRecordsAfter (cursor : Nat) : List NetworkRequestRecord :=
  (state.requestOrder.filterMap state.requestRecords).filter fun record =>
    record.sequence > cursor

def requestRecordsBetween (cursor endCursor : Nat) : List NetworkRequestRecord :=
  (state.requestOrder.filterMap state.requestRecords).filter fun record =>
    record.sequence > cursor ∧ record.sequence ≤ endCursor

def requestWindowDegradedReason (cursor ingressDropCount lastObservedIngressDropCount : Nat) :
    Option String :=
  if cursor < state.lastEvictedRequestSequence then some "network_request_ring_overflow"
  else if ingressDropCount > lastObservedIngressDropCount then
    some "network_request_ingress_overflow"
  else state.degradedReason.filter (· ≠ "network_request_ring_overflow")

/-- The largest sequence among the records, if there are any. -/
def lastSequence (records : List NetworkRequestRecord) : Option Nat :=
  (records.map (·.sequence)).max?

def requestWindowAfter (cursor ingressDropCount lastObservedIngressDropCount : Nat) :
    NetworkRequestWindow :=
  let records := state.requestRecordsAfter cursor
  let degradedReason :=
    state.requestWindowDegradedReason cursor ingressDropCount lastObservedIngressDropCount
  { records := records
    nextCursor := (lastSequence records).getD state.requestCursor
    authoritative := degradedReason.isNone
    degradedReason := degradedReason }

def requestWindowBetween (cursor endCursor ingressDropCount lastObservedIngressDropCount : Nat) :
    NetworkRequestWindow :=
  let records := state.requestRecordsBetween cursor endCursor
  let degradedReason :=
    state.requestWindowDegradedReason cursor ingressDropCount lastObservedIngressDropCount
  { records := records
    nextCursor := (lastSequence records).getD endCursor
    authoritative := degradedReason.isNone
    degradedReason := degradedReason }

end RuntimeObservatoryState

/-- What happens to the observatory; `active` stands for an event of another kind, which the
registry only notices as a sign of life. -/
inductive ObservatoryAction where
  | upsert (record : ObservedNetworkRequestRecord)
  | active | ready
  | degraded (reason : String)

namespace RuntimeObservatoryState

def act (state : RuntimeObservatoryState) : ObservatoryAction → RuntimeObservatoryState
  | .upsert record => state.upsertObservedRequestRecord record
  | .active => state.markActive
  | .ready => state.markReady
  | .degraded reason => state.markDegraded reason

/-- The observatory after a run of actions. -/
def after (actions : List ObservatoryAction) : RuntimeObservatoryState :=
  actions.foldl act default

end RuntimeObservatoryState

end Rub
