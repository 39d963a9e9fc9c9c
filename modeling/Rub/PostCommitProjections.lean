import Rub.CommandHistory
import Rub.TransitionSystem
import Rub.WorkflowCapture

/-!
The projections of committed commands. Each is submitted to a bounded queue, and drains move
the queue into the command history and the workflow capture. A drain is spawned once, behind
a flag, or awaited inside a request, which may be cancelled wherever it awaits.
-/

namespace Rub

structure PostCommitProjection where
  request : IpcRequest
  response : IpcResponse
  workflowCaptureResponse : IpcResponse
  workflowCaptureDeliveryState : WorkflowCaptureDeliveryState
  approxBytes : Nat

structure PostCommitProjectionQueue where
  entries : List PostCommitProjection
  totalBytes : Nat
  droppedBeforeProjection : Nat

/-- The lengths of JSON texts. -/
structure SerializedSizes where
  request : IpcRequest → Nat
  response : IpcResponse → Nat
  captureEntry : WorkflowCaptureEntry → Nat

def postCommitProjectionLimit : Nat := 256

def postCommitProjectionLimitBytes : Nat := maxFrameBytes * 4

def postCommitProjectionBytes (sizes : SerializedSizes) (request : IpcRequest)
    (response workflowCaptureResponse : IpcResponse) : Nat :=
  saturatingAdd (saturatingAdd (sizes.request request) (sizes.response response))
    (sizes.response workflowCaptureResponse)

namespace PostCommitProjectionQueue

def empty : PostCommitProjectionQueue :=
  { entries := [], totalBytes := 0, droppedBeforeProjection := 0 }

/-- Every removed entry is counted. -/
def trim (queue : PostCommitProjectionQueue) : PostCommitProjectionQueue :=
  let (totalBytes, entries) := trimOldest postCommitProjectionLimit postCommitProjectionLimitBytes
    PostCommitProjection.approxBytes queue.totalBytes queue.entries
  { entries, totalBytes
    droppedBeforeProjection :=
      queue.droppedBeforeProjection + (queue.entries.length - entries.length) }

def submit (queue : PostCommitProjectionQueue) (projection : PostCommitProjection) :
    PostCommitProjectionQueue :=
  trim { queue with
    entries := queue.entries ++ [projection]
    totalBytes := saturatingAdd queue.totalBytes projection.approxBytes }

theorem submit_dropped (queue : PostCommitProjectionQueue) (projection : PostCommitProjection) :
    (queue.submit projection).droppedBeforeProjection = queue.droppedBeforeProjection +
      (queue.entries.length + 1 - (queue.submit projection).entries.length) := by
  simp [submit, trim]

end PostCommitProjectionQueue

/-- Where a drain runs: in a task of its own, behind the commit of the command that was
submitted, or in a query of the history. Only a query can be cancelled. -/
inductive DrainOrigin where
  | spawned | committing | query
  deriving DecidableEq

/-- A drain; `rearmed` once it has set the flag again for another round of its own. -/
structure Drain where
  origin : DrainOrigin
  rearmed : Bool
  deriving DecidableEq

/-- The drain set the flag that is up while it waits and drains. -/
def Drain.claims (drain : Drain) : Bool := drain.origin == .spawned || drain.rearmed

/-- A submission with its number. The source has no such numbers; they say which submission
an entry came from. -/
abbrev Submission : Type := PostCommitProjection × Nat

/-- How far the drain that holds the lock has come. -/
inductive DrainStage where
  | draining
  | popped (submission : Submission)
  | historyRecorded (submission : Submission)
  | drained | cleared | foundPending

/-- The flag is still up for this round. -/
def DrainStage.beforeClear : DrainStage → Bool
  | .cleared | .foundPending => false
  | _ => true

/-- The session's queue, flag, lock and views. The last four fields are a record of what
happened, which the source does not keep. -/
structure ProjectionState where
  queue : PostCommitProjectionQueue
  scheduled : Bool
  history : CommandHistoryState
  capture : WorkflowCaptureState
  /-- The drains that wait for the lock, and the one that holds it. -/
  waiting : List Drain
  holder : Option (Drain × DrainStage)
  /-- The submissions whose spawn or awaited drain is still to come. -/
  owed : Nat
  submitted : List PostCommitProjection
  dropped : List Nat
  inHistory : List Submission
  /-- With the secrets as they were loaded for the capture. -/
  inCapture : List (Submission × Except RubError SecretSources)

namespace ProjectionState

def initial : ProjectionState :=
  { queue := .empty, scheduled := false, history := .empty, capture := .empty, waiting := [],
    holder := none, owed := 0, submitted := [], dropped := [], inHistory := [], inCapture := [] }

/-- How many submissions have left the queue; the next to leave has this number. -/
def removed (state : ProjectionState) : Nat :=
  state.submitted.length - state.queue.entries.length

end ProjectionState

inductive ProjectionAction where
  | submit (request : IpcRequest) (response workflowCaptureResponse : IpcResponse)
      (deliveryState : WorkflowCaptureDeliveryState)
  | spawn | awaitDrain | query
  | acquire (index : Nat)
  | pop | recordHistory
  | recordCapture (loaded : Except RubError SecretSources)
  | clearFlag | inspect | rearm
  | cancelWaiting (index : Nat)
  | cancelHolding

variable (sizes : SerializedSizes)

def postCommitProjection (request : IpcRequest) (response workflowCaptureResponse : IpcResponse)
    (deliveryState : WorkflowCaptureDeliveryState) : PostCommitProjection :=
  { request, response, workflowCaptureResponse, workflowCaptureDeliveryState := deliveryState
    approxBytes := postCommitProjectionBytes sizes request response workflowCaptureResponse }

namespace ProjectionState

variable (state : ProjectionState)

def afterSubmit (projection : PostCommitProjection) : ProjectionState :=
  let queue := state.queue.submit projection
  { state with
    queue
    owed := state.owed + 1
    submitted := state.submitted ++ [projection]
    dropped := state.dropped ++ List.range' state.removed
      (state.queue.entries.length + 1 - queue.entries.length) }

/-- The flag is set and a task spawned, unless the flag was up. -/
def afterSpawn : ProjectionState :=
  if state.scheduled then { state with owed := state.owed - 1 }
  else
    { state with
      scheduled := true
      waiting := state.waiting ++ [⟨.spawned, false⟩]
      owed := state.owed - 1 }

/-- The first entry of the queue goes to the drain. -/
def popped (drain : Drain) (projection : PostCommitProjection) (rest : List PostCommitProjection) :
    ProjectionState :=
  { state with
    queue := { state.queue with
      entries := rest
      totalBytes := state.queue.totalBytes - projection.approxBytes }
    holder := some (drain, .popped (projection, state.removed)) }

def afterPop (drain : Drain) : ProjectionState :=
  match state.queue.entries with
  | [] => { state with holder := some (drain, .drained) }
  | projection :: rest => state.popped drain projection rest

def afterRecordHistory (drain : Drain) (submission : Submission) : ProjectionState :=
  { state with
    history := state.history.record submission.1.request submission.1.response
    inHistory := state.inHistory ++ [submission]
    holder := some (drain, .historyRecorded submission) }

def afterRecordCapture (drain : Drain) (submission : Submission)
    (loaded : Except RubError SecretSources) : ProjectionState :=
  { state with
    capture := state.capture.record sizes.captureEntry
      (redactedPostCommitRequest submission.1.request loaded) submission.1.workflowCaptureResponse
      submission.1.workflowCaptureDeliveryState
    inCapture := state.inCapture ++ [(submission, loaded)]
    holder := some (drain, .draining) }

/-- The drain ends when the flag was set meanwhile, and else goes around once more. -/
def afterRearm (drain : Drain) : ProjectionState :=
  if state.scheduled then { state with holder := none }
  else
    { state with
      scheduled := true
      holder := none
      waiting := state.waiting ++ [{ drain with rearmed := true }] }

def step : ProjectionAction → Option ProjectionState
  | .submit request response captureResponse deliveryState =>
    some (state.afterSubmit
      (postCommitProjection sizes request response captureResponse deliveryState))
  | .spawn => if state.owed = 0 then none else some state.afterSpawn
  | .awaitDrain =>
    if state.owed = 0 then none
    else some { state with
      waiting := state.waiting ++ [⟨.committing, false⟩], owed := state.owed - 1 }
  | .query => some { state with waiting := state.waiting ++ [⟨.query, false⟩] }
  | .acquire index =>
    match state.holder, state.waiting[index]? with
    | none, some drain =>
      some { state with
        waiting := state.waiting.eraseIdx index, holder := some (drain, .draining) }
    | _, _ => none
  | .pop =>
    match state.holder with
    | some (drain, .draining) => some (state.afterPop drain)
    | _ => none
  | .recordHistory =>
    match state.holder with
    | some (drain, .popped submission) => some (state.afterRecordHistory drain submission)
    | _ => none
  | .recordCapture loaded =>
    match state.holder with
    | some (drain, .historyRecorded submission) =>
      some (state.afterRecordCapture sizes drain submission loaded)
    | _ => none
  | .clearFlag =>
    match state.holder with
    | some (drain, .drained) =>
      some { state with scheduled := false, holder := some (drain, .cleared) }
    | _ => none
  | .inspect =>
    match state.holder with
    | some (drain, .cleared) =>
      some { state with
        holder := if state.queue.entries.isEmpty then none else some (drain, .foundPending) }
    | _ => none
  | .rearm =>
    match state.holder with
    | some (drain, .foundPending) => some (state.afterRearm drain)
    | _ => none
  | .cancelWaiting index =>
    match state.waiting[index]? with
    | some drain =>
      if drain.origin = .query then
        some { state with waiting := state.waiting.eraseIdx index }
      else none
    | none => none
  | .cancelHolding =>
    match state.holder with
    | some (drain, .popped _) | some (drain, .historyRecorded _) =>
      if drain.origin = .query then some { state with holder := none } else none
    | _ => none

end ProjectionState

def projectionSystem : TransitionSystem ProjectionState ProjectionAction where
  initial := .initial
  step := ProjectionState.step sizes

/-- The submission a drain has taken from the queue and not yet recorded in the history. -/
def DrainStage.beforeHistory : DrainStage → List Submission
  | .popped submission => [submission]
  | _ => []

/-- The submission a drain has taken from the queue and not yet recorded in the capture. -/
def DrainStage.beforeCapture : DrainStage → List Submission
  | .popped submission | .historyRecorded submission => [submission]
  | _ => []

/-- What a step can do, with the guard of each case. -/
inductive ProjectionStep (state : ProjectionState) : ProjectionAction → ProjectionState → Prop where
  | submit (request : IpcRequest) (response captureResponse : IpcResponse)
      (deliveryState : WorkflowCaptureDeliveryState) :
      ProjectionStep state (.submit request response captureResponse deliveryState)
        (state.afterSubmit
          (postCommitProjection sizes request response captureResponse deliveryState))
  | spawn (owing : state.owed ≠ 0) : ProjectionStep state .spawn state.afterSpawn
  | awaitDrain (owing : state.owed ≠ 0) :
      ProjectionStep state .awaitDrain { state with
        waiting := state.waiting ++ [⟨.committing, false⟩], owed := state.owed - 1 }
  | query :
      ProjectionStep state .query { state with waiting := state.waiting ++ [⟨.query, false⟩] }
  | acquire {index : Nat} {drain : Drain} (free : state.holder = none)
      (found : state.waiting[index]? = some drain) :
      ProjectionStep state (.acquire index) { state with
        waiting := state.waiting.eraseIdx index, holder := some (drain, .draining) }
  | settle {drain : Drain} (held : state.holder = some (drain, .draining))
      (empty : state.queue.entries = []) :
      ProjectionStep state .pop { state with holder := some (drain, .drained) }
  | pop {drain : Drain} {projection : PostCommitProjection} {rest : List PostCommitProjection}
      (held : state.holder = some (drain, .draining))
      (filled : state.queue.entries = projection :: rest) :
      ProjectionStep state .pop (state.popped drain projection rest)
  | recordHistory {drain : Drain} {submission : Submission}
      (held : state.holder = some (drain, .popped submission)) :
      ProjectionStep state .recordHistory (state.afterRecordHistory drain submission)
  | recordCapture {drain : Drain} {submission : Submission}
      (held : state.holder = some (drain, .historyRecorded submission))
      (loaded : Except RubError SecretSources) :
      ProjectionStep state (.recordCapture loaded)
        (state.afterRecordCapture sizes drain submission loaded)
  | clearFlag {drain : Drain} (held : state.holder = some (drain, .drained)) :
      ProjectionStep state .clearFlag
        { state with scheduled := false, holder := some (drain, .cleared) }
  | finish {drain : Drain} (held : state.holder = some (drain, .cleared))
      (empty : state.queue.entries = []) :
      ProjectionStep state .inspect { state with holder := none }
  | findPending {drain : Drain} (held : state.holder = some (drain, .cleared))
      (filled : state.queue.entries ≠ []) :
      ProjectionStep state .inspect { state with holder := some (drain, .foundPending) }
  | yield {drain : Drain} (held : state.holder = some (drain, .foundPending))
      (flag : state.scheduled = true) : ProjectionStep state .rearm { state with holder := none }
  | rearm {drain : Drain} (held : state.holder = some (drain, .foundPending))
      (flag : state.scheduled = false) :
      ProjectionStep state .rearm { state with
        scheduled := true
        holder := none
        waiting := state.waiting ++ [{ drain with rearmed := true }] }
  | cancelWaiting {index : Nat} {drain : Drain} (found : state.waiting[index]? = some drain)
      (cancellable : drain.origin = .query) :
      ProjectionStep state (.cancelWaiting index)
        { state with waiting := state.waiting.eraseIdx index }
  | cancelHolding {drain : Drain} {stage : DrainStage} (held : state.holder = some (drain, stage))
      (carrying : stage.beforeCapture ≠ []) (cancellable : drain.origin = .query) :
      ProjectionStep state .cancelHolding { state with holder := none }

variable {sizes}

theorem projectionStep_of_step {state next : ProjectionState} {action : ProjectionAction}
    (taken : state.step sizes action = some next) : ProjectionStep sizes state action next := by
  cases action <;> simp only [ProjectionState.step] at taken <;> (repeat' split at taken) <;>
    cases taken
  · exact .submit ..
  · exact .spawn ‹_›
  · exact .awaitDrain ‹_›
  · exact .query
  · exact .acquire ‹_› ‹_›
  · rename_i drain held
    unfold ProjectionState.afterPop
    cases entries : state.queue.entries with
    | nil => exact .settle held entries
    | cons => exact .pop held entries
  · exact .recordHistory ‹_›
  · exact .recordCapture ‹_› _
  · exact .clearFlag ‹_›
  · exact .finish ‹_› (List.isEmpty_iff.mp ‹_›)
  · exact .findPending ‹_› (mt List.isEmpty_iff.mpr ‹_›)
  · rename_i drain held
    unfold ProjectionState.afterRearm
    by_cases flag : state.scheduled = true
    · rw [if_pos flag]
      exact .yield held flag
    · rw [if_neg flag]
      exact .rearm held (Bool.eq_false_of_not_eq_true flag)
  · exact .cancelWaiting ‹_› ‹_›
  all_goals
    rename_i held asked
    exact .cancelHolding held (List.cons_ne_nil _ _) asked

end Rub
