import Rub.BoundedWindow
import Rub.SecretResolution
import Rub.WorkflowPolicy

/-!
The capture of a session's successful commands, and its export as a workflow. A command is
captured with its arguments redacted, and exported when its class and its policy say so.
-/

namespace Rub

open Json

structure RedactedJournalPayload where
  value : Json
  lossy : Bool
  reason : Option String

def RubError.display : RubError → String
  | .domain envelope => envelope.code.name ++ ": " ++ envelope.message
  | .io message => "IO error: " ++ message
  | .json message => "JSON error: " ++ message
  | .internal message => "Internal error: " ++ message

def redactedJournalPayload (value : Json) (loaded : Except RubError SecretSources)
    (surface : String) : RedactedJournalPayload :=
  match redactJsonValueFromSecretSources value loaded with
  | .ok (redacted, metadata) => ⟨redactJsonValue redacted metadata, false, none⟩
  | .error error =>
    ⟨object [("surface", string surface),
      ("reason", string "secret_redaction_unavailable"), ("redacted", Json.bool true)],
      true, some error.display⟩

def redactedPostCommitRequest (request : IpcRequest) (loaded : Except RubError SecretSources) :
    IpcRequest :=
  { request with args := (redactedJournalPayload request.args loaded "request").value }

inductive WorkflowCaptureDeliveryState where
  | delivered | deliveryFailedAfterCommit
  deriving DecidableEq

structure WorkflowCaptureEntry where
  sequence : Nat
  command : String
  requestId : String
  commandId : Option String
  args : Json
  captureClass : WorkflowCaptureClass
  workflowAllowed : Bool
  deliveryState : WorkflowCaptureDeliveryState
  timing : Timing

structure WorkflowCaptureProjection where
  entries : List WorkflowCaptureEntry
  oldestRetainedSequence : Option Nat
  newestRetainedSequence : Option Nat
  droppedBeforeRetention : Nat
  droppedBeforeProjection : Nat

structure WorkflowCaptureStoredEntry where
  entry : WorkflowCaptureEntry
  approxBytes : Nat

structure WorkflowCaptureState where
  nextSequence : Nat
  totalBytes : Nat
  entries : List WorkflowCaptureStoredEntry

def workflowCaptureLimit : Nat := 128

def workflowCaptureLimitBytes : Nat := maxFrameBytes * 4

def workflowCaptureEntry (sequence : Nat) (request : IpcRequest) (response : IpcResponse)
    (deliveryState : WorkflowCaptureDeliveryState) : WorkflowCaptureEntry :=
  { sequence
    command := request.command
    requestId := response.requestId
    commandId := response.commandId
    args := request.args
    captureClass := (workflowRequestPolicy request.command request.args).captureClass
    workflowAllowed := workflowRequestAllowed request.command request.args
    deliveryState
    timing := response.timing }

namespace WorkflowCaptureState

def empty : WorkflowCaptureState := { nextSequence := 0, totalBytes := 0, entries := [] }

/-- Captures a successful command. `entryBytes` is the length of an entry's JSON text. -/
def record (entryBytes : WorkflowCaptureEntry → Nat) (state : WorkflowCaptureState)
    (request : IpcRequest) (response : IpcResponse)
    (deliveryState : WorkflowCaptureDeliveryState) : WorkflowCaptureState :=
  if response.status = .success then
    let sequence := max state.nextSequence 1
    let entry := workflowCaptureEntry sequence request response deliveryState
    let (totalBytes, entries) := trimOldest workflowCaptureLimit workflowCaptureLimitBytes
      WorkflowCaptureStoredEntry.approxBytes (saturatingAdd state.totalBytes (entryBytes entry))
      (state.entries ++ [⟨entry, entryBytes entry⟩])
    { nextSequence := sequence + 1, totalBytes, entries }
  else state

def projection (state : WorkflowCaptureState) (last droppedBeforeProjection : Nat) :
    WorkflowCaptureProjection :=
  let oldest := state.entries.head?.map fun stored => stored.entry.sequence
  { entries := (state.entries.rtake (min last state.entries.length)).map
      WorkflowCaptureStoredEntry.entry
    oldestRetainedSequence := oldest
    newestRetainedSequence := state.entries.getLast?.map fun stored => stored.entry.sequence
    droppedBeforeRetention := (oldest.map fun sequence => sequence - 1).getD 0
    droppedBeforeProjection }

end WorkflowCaptureState

structure CapturedCommand where
  request : IpcRequest
  response : IpcResponse
  deliveryState : WorkflowCaptureDeliveryState

def CapturedCommand.succeeded (command : CapturedCommand) : Bool :=
  command.response.status == .success

def allCaptureEntries (commands : List CapturedCommand) : List WorkflowCaptureEntry :=
  ((commands.filter CapturedCommand.succeeded).zipIdx 1).map fun numbered =>
    workflowCaptureEntry numbered.2 numbered.1.request numbered.1.response
      numbered.1.deliveryState

def recordCaptures (entryBytes : WorkflowCaptureEntry → Nat) (commands : List CapturedCommand) :
    WorkflowCaptureState :=
  commands.foldl (fun state command =>
    state.record entryBytes command.request command.response command.deliveryState) .empty

/-- The capture retains the newest entries of the successful commands, at least one. -/
theorem recordCaptures_retains (entryBytes : WorkflowCaptureEntry → Nat)
    (commands : List CapturedCommand) :
    (recordCaptures entryBytes commands).entries.map WorkflowCaptureStoredEntry.entry <:+
        allCaptureEntries commands ∧
      (allCaptureEntries commands ≠ [] → (recordCaptures entryBytes commands).entries ≠ []) ∧
      max (recordCaptures entryBytes commands).nextSequence 1 =
        (allCaptureEntries commands).length + 1 := by
  induction commands using List.reverseRecOn with
  | nil => exact ⟨List.suffix_rfl, fun filled => absurd rfl filled, rfl⟩
  | append_singleton commands command ih =>
    obtain ⟨suffix, nonempty, next⟩ := ih
    have recorded : recordCaptures entryBytes (commands ++ [command]) =
        (recordCaptures entryBytes commands).record entryBytes command.request command.response
          command.deliveryState := by
      simp [recordCaptures]
    rw [recorded, WorkflowCaptureState.record]
    by_cases success : command.response.status = .success
    · have all : allCaptureEntries (commands ++ [command]) = allCaptureEntries commands ++
          [workflowCaptureEntry ((allCaptureEntries commands).length + 1) command.request
            command.response command.deliveryState] := by
        simp [allCaptureEntries, CapturedCommand.succeeded, success, List.zipIdx_append,
          Nat.add_comm]
      rw [if_pos success, next, all]
      refine ⟨?_, fun _ => trimOldest_ne_nil (by decide) _ (by simp), by simp⟩
      refine ((trimOldest_suffix _ _).map _).trans ?_
      rw [List.map_append]
      exact List.suffix_append_self_iff.mpr suffix
    · have all : allCaptureEntries (commands ++ [command]) = allCaptureEntries commands := by
        simp [allCaptureEntries, CapturedCommand.succeeded, success]
      rw [if_neg success, all]
      exact ⟨suffix, nonempty, next⟩

/-- A selection of the history: the last commands, or a range of numbers. -/
structure HistorySelection where
  last : Nat
  start : Option Nat
  stop : Option Nat

namespace HistorySelection

def lastOnly (last : Nat) : HistorySelection := ⟨last, none, none⟩

def isRange (selection : HistorySelection) : Bool :=
  selection.start.isSome || selection.stop.isSome

def inRange (selection : HistorySelection) (sequence : Nat) : Bool :=
  selection.start.all (fun start => start ≤ sequence) &&
    selection.stop.all fun stop => sequence ≤ stop

end HistorySelection

structure WorkflowExportStep where
  command : String
  args : Json
  source : Json

structure WorkflowExportProjection where
  steps : List WorkflowExportStep
  sourceCount : Nat
  skippedAdministrative : Nat
  skippedObservation : Nat
  skippedIneligible : Nat
  complete : Bool
  selectionDroppedBeforeProjection : Bool
  selectionTruncatedByRetention : Bool

def exportSelectionIsTruncatedByRetention (selection : HistorySelection)
    (projection : WorkflowCaptureProjection) : Bool :=
  if projection.droppedBeforeRetention = 0 then false
  else
    match projection.oldestRetainedSequence with
    | none => false
    | some oldest =>
      if selection.isRange then selection.start.getD 1 < oldest
      else projection.entries.length < selection.last

def exportSelectionIsAffectedByProjectionLoss (selection : HistorySelection)
    (projection : WorkflowCaptureProjection) : Bool :=
  if projection.droppedBeforeProjection = 0 then false
  else if selection.isRange then false
  else projection.entries.length < selection.last

def WorkflowCaptureClass.name : WorkflowCaptureClass → String
  | .workflow => "workflow"
  | .observation => "observation"
  | .administrative => "administrative"

def WorkflowCaptureDeliveryState.name : WorkflowCaptureDeliveryState → String
  | .delivered => "delivered"
  | .deliveryFailedAfterCommit => "delivery_failed_after_commit"

def exportStep (entry : WorkflowCaptureEntry) : WorkflowExportStep :=
  { command := entry.command
    args := entry.args
    source := object [("sequence", natural entry.sequence),
      ("request_id", string entry.requestId),
      ("command_id", optionalText entry.commandId),
      ("capture_class", string entry.captureClass.name),
      ("delivery_state", string entry.deliveryState.name)] }

def replayableExportStepJson (step : WorkflowExportStep) : Json :=
  object [("command", string step.command), ("args", step.args)]

/-- Which list an entry of the selection is put on. -/
inductive ExportVerdict where
  | administrative | observation | ineligible | step
  deriving DecidableEq

def exportVerdict (includeObservation : Bool) (entry : WorkflowCaptureEntry) : ExportVerdict :=
  if entry.captureClass = .administrative then .administrative
  else if entry.captureClass = .observation ∧ includeObservation = false then .observation
  else if entry.workflowAllowed = false then .ineligible
  else .step

/-- What an export makes of the projection it was given. -/
def buildExportProjection (selection : HistorySelection) (includeObservation : Bool)
    (projection : WorkflowCaptureProjection) : WorkflowExportProjection :=
  let truncated := exportSelectionIsTruncatedByRetention selection projection
  let lost := exportSelectionIsAffectedByProjectionLoss selection projection
  let selected := projection.entries.filter fun entry => selection.inRange entry.sequence
  let judged := fun verdict => selected.filter fun entry =>
    exportVerdict includeObservation entry = verdict
  { steps := (judged .step).map exportStep
    sourceCount := projection.entries.length
    skippedAdministrative := (judged .administrative).length
    skippedObservation := (judged .observation).length
    skippedIneligible := (judged .ineligible).length
    complete := !truncated && !lost
    selectionDroppedBeforeProjection := lost
    selectionTruncatedByRetention := truncated }

/-- The workflow of an export, as it is sent to be run again. -/
def exportedPipe (steps : List WorkflowExportStep) : Json :=
  object [("spec", array (steps.map replayableExportStepJson))]

end Rub
