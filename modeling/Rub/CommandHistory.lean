import Rub.AutomationFence
import Rub.BoundedWindow

/-!
The command history of a session: every committed command is numbered and recorded, the
last of them are retained, and a projection selects among those.
-/

namespace Rub

structure CommandHistoryEntry where
  sequence : Nat
  command : String
  success : Bool
  requestId : String
  commandId : Option String
  timing : Timing
  summary : Option String
  errorCode : Option String
  confirmationStatus : Option String
  confirmationKind : Option String

structure CommandHistoryProjection where
  entries : List CommandHistoryEntry
  oldestRetainedSequence : Option Nat
  newestRetainedSequence : Option Nat
  droppedBeforeRetention : Nat
  droppedBeforeProjection : Nat
  selectionDroppedBeforeProjection : Bool
  selectionTruncatedByRetention : Bool

structure CommandHistoryState where
  nextSequence : Nat
  entries : List CommandHistoryEntry

def historyLimit : Nat := 64

def interactionConfirmation (response : IpcResponse) : Option String × Option String :=
  let interaction := projectedInteraction response.data
  let text := fun key => (interaction.bind fun value => value.get key).bind Json.asStr
  (text "confirmation_status", text "confirmation_kind")

def summarizeEntry (response : IpcResponse) (confirmationStatus confirmationKind : Option String) :
    Option String :=
  match response.error with
  | some error => some error.code.name
  | none =>
    match confirmationStatus with
    | some status =>
      match confirmationKind with
      | some kind => some (status ++ "/" ++ kind)
      | none => some status
    | none => if response.status = .success then some "success" else none

def historyEntry (sequence : Nat) (request : IpcRequest) (response : IpcResponse) :
    CommandHistoryEntry :=
  let (confirmationStatus, confirmationKind) := interactionConfirmation response
  { sequence
    command := request.command
    success := projectedInteractionEffectSuccess (response.status == .success) response.data
    requestId := response.requestId
    commandId := response.commandId
    timing := response.timing
    summary := summarizeEntry response confirmationStatus confirmationKind
    errorCode := response.error.map fun error => error.code.name
    confirmationStatus
    confirmationKind }

namespace CommandHistoryState

def empty : CommandHistoryState := { nextSequence := 0, entries := [] }

/-- Records a command; the oldest entries are removed while there are too many. -/
def record (state : CommandHistoryState) (request : IpcRequest) (response : IpcResponse) :
    CommandHistoryState :=
  let sequence := max state.nextSequence 1
  { nextSequence := sequence + 1
    entries := (state.entries ++ [historyEntry sequence request response]).rtake historyLimit }

def matchesHistoryRange (sequence : Nat) (start stop : Option Nat) : Bool :=
  start.all (fun start => start ≤ sequence) && stop.all fun stop => sequence ≤ stop

def projectionForSelection (state : CommandHistoryState) (last : Nat) (start stop : Option Nat)
    (droppedBeforeProjection : Nat) : CommandHistoryProjection :=
  let isRange := start.isSome || stop.isSome
  let entries := if isRange then
      state.entries.filter fun entry => matchesHistoryRange entry.sequence start stop
    else state.entries.rtake (min last state.entries.length)
  let oldest := state.entries.head?.map CommandHistoryEntry.sequence
  let droppedBeforeRetention := (oldest.map fun sequence => sequence - 1).getD 0
  { entries
    oldestRetainedSequence := oldest
    newestRetainedSequence := state.entries.getLast?.map CommandHistoryEntry.sequence
    droppedBeforeRetention
    droppedBeforeProjection
    selectionDroppedBeforeProjection :=
      0 < droppedBeforeProjection && !isRange && entries.length < last
    selectionTruncatedByRetention :=
      if droppedBeforeRetention = 0 then false
      else if isRange then (oldest.map fun oldest => decide (start.getD 1 < oldest)).getD false
      else entries.length < last }

def projection (state : CommandHistoryState) (last droppedBeforeProjection : Nat) :
    CommandHistoryProjection :=
  state.projectionForSelection last none none droppedBeforeProjection

end CommandHistoryState

/-- The entries of all the commands that were ever recorded. -/
def allHistoryEntries (commands : List (IpcRequest × IpcResponse)) : List CommandHistoryEntry :=
  (commands.zipIdx 1).map fun numbered => historyEntry numbered.2 numbered.1.1 numbered.1.2

def recordHistory (commands : List (IpcRequest × IpcResponse)) : CommandHistoryState :=
  commands.foldl (fun state command => state.record command.1 command.2) .empty

/-- The history retains the newest entries of all that were recorded. -/
theorem recordHistory_eq (commands : List (IpcRequest × IpcResponse)) :
    (recordHistory commands).entries = (allHistoryEntries commands).rtake historyLimit ∧
      max (recordHistory commands).nextSequence 1 = commands.length + 1 := by
  induction commands using List.reverseRecOn with
  | nil => exact ⟨rfl, rfl⟩
  | append_singleton commands command ih =>
    obtain ⟨entries, next⟩ := ih
    have recorded : recordHistory (commands ++ [command]) =
        (recordHistory commands).record command.1 command.2 := by
      simp [recordHistory]
    have all : allHistoryEntries (commands ++ [command]) = allHistoryEntries commands ++
        [historyEntry (commands.length + 1) command.1 command.2] := by
      simp [allHistoryEntries, List.zipIdx_append, Nat.add_comm]
    rw [recorded, CommandHistoryState.record, next, entries, all]
    constructor
    · dsimp only
      exact rtake_append_singleton (allHistoryEntries commands) _ historyLimit
    · dsimp only
      rw [List.length_append, List.length_singleton]
      omega

end Rub
