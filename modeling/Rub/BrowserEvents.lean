import Rub.Dialogs
import Rub.Downloads
import Rub.TransitionSystem
import Rub.Watermark

/-!
The browser events of one session. Listener callbacks allocate a browser sequence and
enqueue an event: in-progress download progress on a bounded channel that may refuse it,
everything else on an unbounded one. One worker receives from both channels in any order,
puts the events back in sequence and applies them. Each step below is what one party does
between two points where another may run.
-/

namespace Rub

inductive BrowserSessionEventBody where
  | dialogRuntime (runtime : DialogRuntimeInfo)
  | dialogOpened (kind : DialogKind) (message url : String)
      (tabTargetId frameId defaultPrompt : Option String) (hasBrowserHandler : Bool)
  | dialogClosed (accepted : Bool) (userInput : String)
  | downloadRuntime (runtime : DownloadRuntimeInfo)
  | downloadRuntimeDegradedMarker (reason : String)
  | downloadStarted (guid url suggestedFilename : String) (frameId : Option String)
  | downloadProgress (guid : String) (state : DownloadState) (receivedBytes : Nat)
      (totalBytes : Option Nat) (finalPath : Option String)
  deriving DecidableEq

/-- The fields every variant of the source's enumeration has, and the others. -/
structure BrowserSessionEvent where
  browserSequence : Nat
  generation : Nat
  body : BrowserSessionEventBody
  deriving DecidableEq

def browserEventProgressIngressLimit : Nat := 1024

def browserEventCriticalSoftLimit : Nat := 256

def downloadProgressOverflowReason : String := "browser_event_ingress_overflow:download_progress"

namespace BrowserSessionEventBody

def usesBoundedProgressIngress : BrowserSessionEventBody → Bool
  | .downloadProgress _ .inProgress _ _ _ => true
  | _ => false

/-- A download runtime without a degraded reason, which ends a degradation. -/
def clearsDegradation : BrowserSessionEventBody → Bool
  | .downloadRuntime runtime => runtime.degradedReason.isNone
  | _ => false

def requiresDownloadProgressCoordination (body : BrowserSessionEventBody) : Bool :=
  body.usesBoundedProgressIngress || body.clearsDegradation

/-- What `enqueue_download_runtime`, `_started` and `_progress` construct. -/
def isDownloadCall : BrowserSessionEventBody → Bool
  | .downloadRuntime _ | .downloadStarted .. | .downloadProgress .. => true
  | _ => false

end BrowserSessionEventBody

/-- The uptime of the last crossing is left out. -/
structure BrowserEventIngressTelemetry where
  criticalPendingCount : Nat
  criticalMaxPendingCount : Nat
  criticalPressureActive : Bool
  criticalSoftLimitCrossCount : Nat
  deriving DecidableEq

def BrowserEventIngressTelemetry.default : BrowserEventIngressTelemetry :=
  { criticalPendingCount := 0, criticalMaxPendingCount := 0, criticalPressureActive := false,
    criticalSoftLimitCrossCount := 0 }

def recordCriticalBrowserEventEnqueued (telemetry : BrowserEventIngressTelemetry) :
    BrowserEventIngressTelemetry :=
  let pending := telemetry.criticalPendingCount + 1
  let counted := { telemetry with
    criticalPendingCount := pending
    criticalMaxPendingCount := max telemetry.criticalMaxPendingCount pending }
  if pending > browserEventCriticalSoftLimit ∧ ¬ telemetry.criticalPressureActive then
    { counted with
      criticalPressureActive := true
      criticalSoftLimitCrossCount := telemetry.criticalSoftLimitCrossCount + 1 }
  else counted

def recordCriticalBrowserEventDequeued (telemetry : BrowserEventIngressTelemetry) :
    BrowserEventIngressTelemetry :=
  let remaining := telemetry.criticalPendingCount - 1
  { telemetry with
    criticalPendingCount := remaining
    criticalPressureActive :=
      telemetry.criticalPressureActive && decide (remaining > browserEventCriticalSoftLimit) }

structure BrowserEventRuntimes where
  dialogs : DialogRuntimeState
  nextDialogEventSequence : Nat
  downloads : DownloadRuntimeState
  nextDownloadEventSequence : Nat

def BrowserEventRuntimes.default : BrowserEventRuntimes :=
  { dialogs := .default, nextDialogEventSequence := 0, downloads := .default,
    nextDownloadEventSequence := 0 }

/-- The runtimes after the event, and the generation and sequence of the overflow latch clear
it asks for. `now` is the time the clock is read at. -/
def applyBrowserSessionEvent (runtimes : BrowserEventRuntimes) (now : String)
    (event : BrowserSessionEvent) : BrowserEventRuntimes × Option (Nat × Nat) :=
  match event.body with
  | .dialogRuntime runtime =>
    ({ runtimes with
      dialogs := runtimes.dialogs.replaceProjection event.generation runtime }, none)
  | .dialogOpened kind message url tabTargetId frameId defaultPrompt hasBrowserHandler =>
    let sequence := runtimes.nextDialogEventSequence + 1
    ({ runtimes with
      nextDialogEventSequence := sequence
      dialogs := runtimes.dialogs.recordOpened event.generation sequence
        { kind := kind, message := message, url := url, tabTargetId := tabTargetId,
          frameId := frameId, defaultPrompt := defaultPrompt,
          hasBrowserHandler := hasBrowserHandler, openedAt := now } }, none)
  | .dialogClosed accepted userInput =>
    let sequence := runtimes.nextDialogEventSequence + 1
    ({ runtimes with
      nextDialogEventSequence := sequence
      dialogs := runtimes.dialogs.recordClosed now event.generation sequence accepted
        userInput }, none)
  | .downloadRuntime runtime =>
    let (applied, downloads) := runtimes.downloads.applyRuntimeProjectionSequenced
      event.generation event.browserSequence runtime
    ({ runtimes with downloads := downloads },
      if runtime.degradedReason.isNone ∧ applied then
        some (event.generation, event.browserSequence)
      else none)
  | .downloadRuntimeDegradedMarker reason =>
    ({ runtimes with
      downloads := runtimes.downloads.markDegradedBrowserEvent event.generation
        event.browserSequence reason }, none)
  | .downloadStarted guid url suggestedFilename frameId =>
    let sequence := runtimes.nextDownloadEventSequence + 1
    ({ runtimes with
      nextDownloadEventSequence := sequence
      downloads := (runtimes.downloads.recordStarted now event.generation sequence guid url
        suggestedFilename frameId).2 }, none)
  | .downloadProgress guid state receivedBytes totalBytes finalPath =>
    let sequence := runtimes.nextDownloadEventSequence + 1
    ({ runtimes with
      nextDownloadEventSequence := sequence
      downloads := (runtimes.downloads.recordProgress now
        { generation := event.generation, sequence := sequence, guid := guid, state := state,
          receivedBytes := receivedBytes, totalBytes := totalBytes,
          finalPath := finalPath }).2 }, none)

structure ProgressOverflowLatch where
  latched : Bool
  generation : Nat
  sequence : Nat
  deriving DecidableEq

structure ProgressOverflowReopen where
  generation : Nat
  sequence : Nat
  deriving DecidableEq

def shouldEmitProgressOverflowMarker (latch : ProgressOverflowLatch) (generation : Nat)
    (reopen : ProgressOverflowReopen) : Bool :=
  !latch.latched || latch.generation ≠ generation ||
    (reopen.generation = generation && reopen.sequence > latch.sequence)

/-- The event that takes the place, and the sequence, of a refused progress event. -/
def overflowMarker (event : BrowserSessionEvent) : BrowserSessionEvent :=
  { event with body := .downloadRuntimeDegradedMarker downloadProgressOverflowReason }

def insertPending (pending : List BrowserSessionEvent) (event : BrowserSessionEvent) :
    List BrowserSessionEvent :=
  event :: pending.filter fun other => other.browserSequence ≠ event.browserSequence

def removePending (pending : List BrowserSessionEvent) (sequence : Nat) :
    List BrowserSessionEvent :=
  pending.filter fun other => other.browserSequence ≠ sequence

/-- Where a call that enqueues one event stands; `held` is whether it has the mutex. -/
inductive EnqueuePhase where
  | idle
  /-- The sequence is allocated, `enqueue` not yet called. -/
  | allocated (event : BrowserSessionEvent)
  | sending (event : BrowserSessionEvent) (held : Bool)
  /-- The bounded channel was full. -/
  | overflowing (event : BrowserSessionEvent) (held : Bool)
  /-- Counted as pending on the unbounded channel, not yet sent. -/
  | metered (event : BrowserSessionEvent) (held : Bool)
  /-- The channel was closed. -/
  | closed (event : BrowserSessionEvent) (metered held : Bool)
  | committing (sequence : Nat) (held : Bool)
  deriving DecidableEq

/-- Where the worker stands; `stopped` is after its task was dropped at an await. -/
inductive WorkerPhase where
  | draining
  | applying (event : BrowserSessionEvent)
  | clearing (sequence : Nat) (clear : Nat × Nat)
  | committing (sequence : Nat)
  | receiving
  | inserting (event : BrowserSessionEvent)
  | stopped
  deriving DecidableEq

/-- The event the worker has in its hands. -/
def WorkerPhase.holding : WorkerPhase → List BrowserSessionEvent
  | .applying event | .inserting event => [event]
  | _ => []

/-- What has happened so far. No step reads it. -/
structure BrowserEventHistory where
  /-- Events that went into a channel, overflow markers included. -/
  entered : List BrowserSessionEvent
  applied : List BrowserSessionEvent
  /-- Progress events the bounded channel refused because it was full. -/
  overflowed : List BrowserSessionEvent
  /-- Sequences given up with no event left to carry them. -/
  dropped : List Nat
  /-- Events that went into a channel and were thrown away. -/
  lost : List BrowserSessionEvent
  /-- The download runtimes without degraded reason that took effect: the generation they
  took effect in and their sequence. -/
  clears : List (Nat × Nat)

structure BrowserEventState (Id : Type) where
  nextBrowserEventSequence : Nat
  /-- `committed_browser_event_sequence` and its backlog. -/
  commits : Watermark
  ingressDropCount : Nat
  telemetry : BrowserEventIngressTelemetry
  runtimes : BrowserEventRuntimes
  latch : ProgressOverflowLatch
  reopen : ProgressOverflowReopen
  /-- The call that has `progress_overflow_coordination`. -/
  coordination : Option Id
  criticalOpen : Bool
  progressOpen : Bool
  critical : List BrowserSessionEvent
  progress : List BrowserSessionEvent
  calls : Id → EnqueuePhase
  worker : WorkerPhase
  pending : List BrowserSessionEvent
  nextSequence : Nat
  history : BrowserEventHistory

inductive BrowserEventAction (Id : Type) where
  | allocate (id : Id) (generation : Nat) (body : BrowserSessionEventBody)
  | enqueue (id : Id)
  | enqueueDownload (id : Id) (generation : Nat) (body : BrowserSessionEventBody)
  | trySend (id : Id)
  | overflow (id : Id)
  | meter (id : Id)
  | send (id : Id)
  | abandon (id : Id)
  | commit (id : Id)
  | drain
  | apply (now : String)
  | clearLatch | commitApplied | receiveCritical | receiveProgress | insert | shutdown
  | closeCritical | closeProgress

namespace BrowserEventState

variable {Id : Type} [DecidableEq Id] (state : BrowserEventState Id)

def initial : BrowserEventState Id :=
  { nextBrowserEventSequence := 0, commits := .empty, ingressDropCount := 0,
    telemetry := .default, runtimes := .default,
    latch := { latched := false, generation := 0, sequence := 0 },
    reopen := { generation := 0, sequence := 0 }, coordination := none, criticalOpen := true,
    progressOpen := true, critical := [], progress := [], calls := fun _ => .idle,
    worker := .draining, pending := [], nextSequence := 1,
    history :=
      { entered := [], applied := [], overflowed := [], dropped := [], lost := [],
        clears := [] } }

/-- The event with the sequence the next allocation returns. -/
def allocateBrowserEvent (generation : Nat) (body : BrowserSessionEventBody) :
    BrowserSessionEvent :=
  { browserSequence := state.nextBrowserEventSequence + 1, generation := generation, body := body }

def moveCall (id : Id) (phase : EnqueuePhase) : BrowserEventState Id :=
  { state with calls := Function.update state.calls id phase }

/-- The call returns and releases the mutex it holds. -/
def finishCall (id : Id) (held : Bool) : BrowserEventState Id :=
  { state.moveCall id .idle with
    coordination := if held then none else state.coordination }

/-- The sequence is given up; the call has still to record it as committed. -/
def dropSequence (id : Id) (phase : EnqueuePhase) (sequence : Nat) : BrowserEventState Id :=
  { state.moveCall id phase with
    history := { state.history with dropped := state.history.dropped ++ [sequence] } }

def enterCritical (event : BrowserSessionEvent) : BrowserEventState Id :=
  { state with
    critical := state.critical ++ [event]
    history := { state.history with entered := state.history.entered ++ [event] } }

def enterProgress (event : BrowserSessionEvent) : BrowserEventState Id :=
  { state with
    progress := state.progress ++ [event]
    history := { state.history with entered := state.history.entered ++ [event] } }

def trySend (progressCapacity : Nat) (id : Id) (event : BrowserSessionEvent) (held : Bool) :
    BrowserEventState Id :=
  if state.progressOpen then
    if state.progress.length < progressCapacity then
      (state.finishCall id held).enterProgress event
    else
      { state.moveCall id (.overflowing event held) with
        history := { state.history with overflowed := state.history.overflowed ++ [event] } }
  else state.dropSequence id (.closed event false held) event.browserSequence

def countDrop : BrowserEventState Id :=
  { state with ingressDropCount := state.ingressDropCount + 1 }

def sendMarker (id : Id) (event : BrowserSessionEvent) (held : Bool) : BrowserEventState Id :=
  { (state.countDrop.finishCall id held).enterCritical (overflowMarker event) with
    latch :=
      { latched := true, generation := event.generation, sequence := event.browserSequence } }

def dropRefused (id : Id) (event : BrowserSessionEvent) (held : Bool) : BrowserEventState Id :=
  state.countDrop.dropSequence id (.committing event.browserSequence held) event.browserSequence

/-- The refused event is counted, and a marker takes its place unless one is already out. The
latch is read and written under the mutex, which the call holds. -/
def overflow (id : Id) (event : BrowserSessionEvent) (held : Bool) : BrowserEventState Id :=
  if shouldEmitProgressOverflowMarker state.latch event.generation state.reopen ∧
      state.criticalOpen then
    state.sendMarker id event held
  else state.dropRefused id event held

/-- A clear is also noted as the point the latch may reopen at. -/
def meter (id : Id) (event : BrowserSessionEvent) (held : Bool) : BrowserEventState Id :=
  { state.moveCall id (.metered event held) with
    telemetry := recordCriticalBrowserEventEnqueued state.telemetry
    reopen := if event.body.clearsDegradation then
        { generation := event.generation, sequence := event.browserSequence }
      else state.reopen }

def send (id : Id) (event : BrowserSessionEvent) (held : Bool) : BrowserEventState Id :=
  if state.criticalOpen then (state.finishCall id held).enterCritical event
  else state.dropSequence id (.closed event true held) event.browserSequence

/-- After a closed channel the call takes back what it noted. -/
def abandon (id : Id) (event : BrowserSessionEvent) (metered held : Bool) :
    BrowserEventState Id :=
  { state.moveCall id (.committing event.browserSequence held) with
    telemetry := if metered then recordCriticalBrowserEventDequeued state.telemetry
      else state.telemetry
    reopen := if event.body.clearsDegradation ∧
        state.reopen = { generation := event.generation, sequence := event.browserSequence } then
        { generation := 0, sequence := 0 }
      else state.reopen }

def recordBrowserEventCommit (sequence : Nat) : BrowserEventState Id :=
  { state with commits := state.commits.record sequence }

def committedBrowserEventCursor : Nat := state.commits.low

/-- One turn of `drain_ready_browser_events` up to the event it takes out. -/
def drain : BrowserEventState Id :=
  let next := max state.nextSequence (state.committedBrowserEventCursor + 1)
  match state.pending.find? fun event => event.browserSequence = next with
  | none => { state with nextSequence := next, worker := .receiving }
  | some event =>
    { state with
      nextSequence := next
      pending := removePending state.pending next
      worker := .applying event }

def applyEvent (now : String) (event : BrowserSessionEvent) : BrowserEventState Id :=
  let outcome := applyBrowserSessionEvent state.runtimes now event
  { state with
    runtimes := outcome.1
    worker := match outcome.2 with
      | some clear => .clearing event.browserSequence clear
      | none => .committing event.browserSequence
    history := { state.history with
      applied := state.history.applied ++ [event]
      clears := match outcome.2 with
        | some _ => state.history.clears ++
            [(outcome.1.downloads.currentGeneration, event.browserSequence)]
        | none => state.history.clears } }

def clearLatch (sequence : Nat) (clear : Nat × Nat) : BrowserEventState Id :=
  { state with
    worker := .committing sequence
    latch := if state.latch.latched ∧ state.latch.generation = clear.1 ∧
        clear.2 > state.latch.sequence then
        { latched := false, generation := 0, sequence := 0 }
      else state.latch }

def commitApplied (sequence : Nat) : BrowserEventState Id :=
  { state.recordBrowserEventCommit sequence with
    nextSequence := state.nextSequence + 1
    worker := .draining }

/-- `insert_pending_browser_event`, after which the worker drains again. -/
def insertPendingBrowserEvent (event : BrowserSessionEvent) : BrowserEventState Id :=
  if event.browserSequence ≤ state.committedBrowserEventCursor then
    { state with
      worker := .draining
      history := { state.history with lost := state.history.lost ++ [event] } }
  else { state with worker := .draining, pending := insertPending state.pending event }

def receiveCritical (event : BrowserSessionEvent) (rest : List BrowserSessionEvent) :
    BrowserEventState Id :=
  { state with
    critical := rest
    telemetry := recordCriticalBrowserEventDequeued state.telemetry
    worker := .inserting event }

def receiveProgress (event : BrowserSessionEvent) (rest : List BrowserSessionEvent) :
    BrowserEventState Id :=
  { state with progress := rest, worker := .inserting event }

/-- The worker's task is dropped with the events it holds. -/
def stop : BrowserEventState Id :=
  { state with
    worker := .stopped
    pending := []
    history := { state.history with
      lost := state.history.lost ++ (state.worker.holding ++ state.pending) } }

/-- The receiver of the unbounded channel is dropped with what is queued. -/
def closeCritical : BrowserEventState Id :=
  { state with
    criticalOpen := false
    critical := []
    history := { state.history with lost := state.history.lost ++ state.critical } }

def closeProgress : BrowserEventState Id :=
  { state with
    progressOpen := false
    progress := []
    history := { state.history with lost := state.history.lost ++ state.progress } }

/-- A call that enqueues, the worker, or the end of the worker's task takes one step. -/
def step (progressCapacity : Nat) (state : BrowserEventState Id) :
    BrowserEventAction Id → Option (BrowserEventState Id)
  | .allocate id generation body =>
    match state.calls id with
    | .idle => some
        { state.moveCall id (.allocated (state.allocateBrowserEvent generation body)) with
          nextBrowserEventSequence := state.nextBrowserEventSequence + 1 }
    | _ => none
  | .enqueue id =>
    match state.calls id with
    | .allocated event =>
      if event.body.requiresDownloadProgressCoordination then
        match state.coordination with
        | none => some
            { state.moveCall id (.sending event true) with coordination := some id }
        | some _ => none
      else some (state.moveCall id (.sending event false))
    | _ => none
  | .enqueueDownload id generation body =>
    match state.calls id, state.coordination, body.isDownloadCall with
    | .idle, none, true => some
        { state.moveCall id (.sending (state.allocateBrowserEvent generation body) true) with
          nextBrowserEventSequence := state.nextBrowserEventSequence + 1
          coordination := some id }
    | _, _, _ => none
  | .trySend id =>
    match state.calls id with
    | .sending event held =>
      if event.body.usesBoundedProgressIngress then
        some (state.trySend progressCapacity id event held)
      else none
    | _ => none
  | .overflow id =>
    match state.calls id with
    | .overflowing event held => some (state.overflow id event held)
    | _ => none
  | .meter id =>
    match state.calls id with
    | .sending event held =>
      if event.body.usesBoundedProgressIngress then none
      else some (state.meter id event held)
    | _ => none
  | .send id =>
    match state.calls id with
    | .metered event held => some (state.send id event held)
    | _ => none
  | .abandon id =>
    match state.calls id with
    | .closed event metered held => some (state.abandon id event metered held)
    | _ => none
  | .commit id =>
    match state.calls id with
    | .committing sequence held =>
      some ((state.finishCall id held).recordBrowserEventCommit sequence)
    | _ => none
  | .drain =>
    match state.worker with
    | .draining => some state.drain
    | _ => none
  | .apply now =>
    match state.worker with
    | .applying event => some (state.applyEvent now event)
    | _ => none
  | .clearLatch =>
    match state.worker, state.coordination with
    | .clearing sequence clear, none => some (state.clearLatch sequence clear)
    | _, _ => none
  | .commitApplied =>
    match state.worker with
    | .committing sequence => some (state.commitApplied sequence)
    | _ => none
  | .receiveCritical =>
    match state.worker, state.critical with
    | .receiving, event :: rest => some (state.receiveCritical event rest)
    | _, _ => none
  | .receiveProgress =>
    match state.worker, state.progress with
    | .receiving, event :: rest => some (state.receiveProgress event rest)
    | _, _ => none
  | .insert =>
    match state.worker with
    | .inserting event => some (state.insertPendingBrowserEvent event)
    | _ => none
  | .shutdown =>
    match state.worker with
    | .receiving | .applying _ => some state.stop
    | _ => none
  | .closeCritical =>
    match state.worker with
    | .stopped => some state.closeCritical
    | _ => none
  | .closeProgress =>
    match state.worker with
    | .stopped => some state.closeProgress
    | _ => none

end BrowserEventState

/-- The ingress of a session whose bounded channel holds `progressCapacity` events. -/
def browserEventSystem (Id : Type) [DecidableEq Id] (progressCapacity : Nat) :
    TransitionSystem (BrowserEventState Id) (BrowserEventAction Id) :=
  { initial := BrowserEventState.initial, step := BrowserEventState.step progressCapacity }

/-- The ingress of the source, with one listener callback at a time. -/
abbrev oneCallback : TransitionSystem (BrowserEventState Unit) (BrowserEventAction Unit) :=
  browserEventSystem Unit browserEventProgressIngressLimit

end Rub
