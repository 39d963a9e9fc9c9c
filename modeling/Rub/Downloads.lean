import Mathlib.Data.List.AList
import Mathlib.Order.Basic

/-!
The download runtime of one session: the entries the browser reported, the sequenced
timeline of their events, and the projection with its degraded reason. A listener
generation scopes all of it; generation 0 stands for the current one.
-/

namespace Rub

inductive DownloadRuntimeStatus where
  | inactive | active | degraded | unsupported
  deriving DecidableEq

inductive DownloadMode where
  | observeOnly | managed | deny
  deriving DecidableEq

inductive DownloadState where
  | started | inProgress | completed | failed | canceled
  deriving DecidableEq

structure DownloadEntry where
  guid : String
  state : DownloadState
  url : Option String
  suggestedFilename : Option String
  finalPath : Option String
  mimeHint : Option String
  receivedBytes : Nat
  totalBytes : Option Nat
  startedAt : String
  completedAt : Option String
  frameId : Option String
  triggerCommandId : Option String
  deriving DecidableEq

inductive DownloadEventKind where
  | started | progress | completed | failed | canceled
  deriving DecidableEq

structure DownloadEvent where
  sequence : Nat
  kind : DownloadEventKind
  download : DownloadEntry
  deriving DecidableEq

structure DownloadRuntimeInfo where
  status : DownloadRuntimeStatus
  mode : DownloadMode
  downloadDir : Option String
  activeDownloads : List DownloadEntry
  completedDownloads : List DownloadEntry
  lastDownload : Option DownloadEntry
  degradedReason : Option String
  deriving DecidableEq

def DownloadRuntimeInfo.default : DownloadRuntimeInfo :=
  { status := .inactive, mode := .observeOnly, downloadDir := none, activeDownloads := [],
    completedDownloads := [], lastDownload := none, degradedReason := none }

def activeDownloadLimit : Nat := 32

def completedDownloadLimit : Nat := 64

def downloadEventLimit : Nat := 128

structure DownloadRuntimeState where
  nextSequence : Nat
  runtimeEventSequence : Nat
  projection : DownloadRuntimeInfo
  entries : AList fun _ : String => DownloadEntry
  entryEventSequence : AList fun _ : String => Nat
  activeOrder : List String
  completedOrder : List String
  timeline : List DownloadEvent
  droppedEventCount : Nat
  lastEvictedSequence : Nat
  currentGeneration : Nat

structure DownloadProgressEvent where
  generation : Nat
  sequence : Nat
  guid : String
  state : DownloadState
  receivedBytes : Nat
  totalBytes : Option Nat
  finalPath : Option String
  deriving DecidableEq

def eventKindForState : DownloadState → DownloadEventKind
  | .started => .started
  | .inProgress => .progress
  | .completed => .completed
  | .failed => .failed
  | .canceled => .canceled

def isTerminal : DownloadState → Bool
  | .completed | .failed | .canceled => true
  | _ => false

/-- The entry a start or a progress event creates for an unknown download. -/
def DownloadEntry.fresh (guid startedAt : String) : DownloadEntry :=
  { guid := guid, state := .started, url := none, suggestedFilename := none, finalPath := none,
    mimeHint := none, receivedBytes := 0, totalBytes := none, startedAt := startedAt,
    completedAt := none, frameId := none, triggerCommandId := none }

/-- The entry a start event that is not recorded answers with. -/
def DownloadEntry.announced (guid url suggestedFilename : String) (frameId : Option String)
    (startedAt : String) : DownloadEntry :=
  { DownloadEntry.fresh guid startedAt with
    url := some url, suggestedFilename := some suggestedFilename, frameId := frameId }

namespace DownloadRuntimeState

def default : DownloadRuntimeState :=
  { nextSequence := 0, runtimeEventSequence := 0, projection := .default, entries := ∅,
    entryEventSequence := ∅, activeOrder := [], completedOrder := [], timeline := [],
    droppedEventCount := 0, lastEvictedSequence := 0, currentGeneration := 0 }

variable (state : DownloadRuntimeState)

def cursor : Nat := state.nextSequence - 1

def eventsBetween (cursor endCursor : Nat) : List DownloadEvent :=
  state.timeline.filter fun event => event.sequence > cursor ∧ event.sequence ≤ endCursor

/-- The loop that drops the oldest events beyond the limit. -/
def trimTimelineFrom (state : DownloadRuntimeState) : List DownloadEvent → DownloadRuntimeState
  | [] => { state with timeline := [] }
  | oldest :: rest =>
    if (oldest :: rest).length > downloadEventLimit then
      trimTimelineFrom { state with
        lastEvictedSequence := max state.lastEvictedSequence oldest.sequence
        droppedEventCount := state.droppedEventCount + 1 } rest
    else { state with timeline := oldest :: rest }

/-- The sequence the next recorded event gets. -/
def eventSequence : Nat := max state.nextSequence 1

def recordEvent (kind : DownloadEventKind) (download : DownloadEntry) : DownloadRuntimeState :=
  trimTimelineFrom { state with nextSequence := state.eventSequence + 1 }
    (state.timeline ++ [{ sequence := state.eventSequence, kind := kind, download := download }])

/-- A recorded event with the metadata a late start supplies. -/
def backfillEvent (guid url suggestedFilename : String) (frameId : Option String)
    (event : DownloadEvent) : DownloadEvent :=
  if event.download.guid ≠ guid then event
  else
    { event with download := { event.download with
        url := event.download.url.or (some url)
        suggestedFilename := event.download.suggestedFilename.or (some suggestedFilename)
        frameId := event.download.frameId.or frameId } }

def backfillTimelineMetadata (guid url suggestedFilename : String) (frameId : Option String) :
    DownloadRuntimeState :=
  { state with timeline := state.timeline.map (backfillEvent guid url suggestedFilename frameId) }

def effectiveGeneration (generation : Nat) : Nat :=
  if generation = 0 then state.currentGeneration else generation

/-- None for an older generation; a newer one starts the runtime over. -/
def prepareGeneration (generation : Nat) : Option DownloadRuntimeState :=
  let generation := state.effectiveGeneration generation
  if generation < state.currentGeneration then none
  else if generation > state.currentGeneration then
    some { DownloadRuntimeState.default with currentGeneration := generation }
  else some state

/-- Whether the event is in order, and the state it leaves prepared either way. -/
def prepareRuntimeEventOrder (generation : Nat) (browserSequence : Option Nat) :
    Bool × DownloadRuntimeState :=
  match state.prepareGeneration generation with
  | none => (false, state)
  | some prepared =>
    match browserSequence.filter (0 < ·) with
    | none => (true, prepared)
    | some sequence =>
      if sequence ≤ prepared.runtimeEventSequence then (false, prepared)
      else (true, { prepared with runtimeEventSequence := sequence })

/-- Whether the event was applied. The projection the source returns as well is `project` of
the state. -/
def applyInOrder (generation : Nat) (browserSequence : Option Nat)
    (change : DownloadRuntimeInfo → DownloadRuntimeInfo) : Bool × DownloadRuntimeState :=
  match state.prepareRuntimeEventOrder generation browserSequence with
  | (false, prepared) => (false, prepared)
  | (true, prepared) => (true, { prepared with projection := change prepared.projection })

def applyRuntimeEvent (generation : Nat) (browserSequence : Option Nat)
    (status : DownloadRuntimeStatus) (mode : DownloadMode)
    (downloadDir degradedReason : Option String) : Bool × DownloadRuntimeState :=
  state.applyInOrder generation browserSequence fun projection => { projection with
    status := if degradedReason.isSome then .degraded else status
    mode := mode
    downloadDir := downloadDir
    degradedReason := degradedReason }

def setRuntime (generation : Nat) (status : DownloadRuntimeStatus) (mode : DownloadMode)
    (downloadDir : Option String) : DownloadRuntimeState :=
  (state.applyRuntimeEvent generation none status mode downloadDir none).2

def markDegradedSequenced (generation : Nat) (browserSequence : Option Nat) (reason : String) :
    Bool × DownloadRuntimeState :=
  state.applyInOrder generation browserSequence fun projection => { projection with
    status := .degraded
    degradedReason := some reason }

def markDegraded (generation : Nat) (reason : String) : DownloadRuntimeState :=
  (state.markDegradedSequenced generation none reason).2

def markDegradedBrowserEvent (generation browserSequence : Nat) (reason : String) :
    DownloadRuntimeState :=
  (state.markDegradedSequenced generation (some browserSequence) reason).2

/-- Adds the entry unless one with its guid is there. -/
def pushUnlessKnown (entries : List DownloadEntry) (download : DownloadEntry) :
    List DownloadEntry :=
  if entries.any fun entry => entry.guid == download.guid then entries else entries ++ [download]

/-- The downloads a runtime projection recovers, in the order they are recorded. -/
def recoveredEntries (runtime : DownloadRuntimeInfo) : List DownloadEntry :=
  runtime.lastDownload.toList.foldl pushUnlessKnown
    (runtime.completedDownloads.foldl pushUnlessKnown runtime.activeDownloads)

/-- The entries a runtime projection replaces the known ones with. -/
def replacedEntries (runtime : DownloadRuntimeInfo) : AList fun _ : String => DownloadEntry :=
  let listed := (runtime.activeDownloads ++ runtime.completedDownloads).foldl
    (fun entries download => entries.insert download.guid download) ∅
  match runtime.lastDownload with
  | none => listed
  | some download =>
    if (listed.lookup download.guid).isSome then listed else listed.insert download.guid download

def completedGuids (completed : List DownloadEntry) : List String :=
  completed.foldl (fun order download =>
    if download.guid ∈ order then order else order ++ [download.guid]) []

def applyRuntimeProjectionSequenced (generation : Nat) (browserSequence : Nat)
    (runtime : DownloadRuntimeInfo) : Bool × DownloadRuntimeState :=
  match state.applyRuntimeEvent generation (some browserSequence) runtime.status runtime.mode
      runtime.downloadDir runtime.degradedReason with
  | (false, unapplied) => (false, unapplied)
  | (true, applied) =>
    let replaced : DownloadRuntimeState := { applied with
      entries := replacedEntries runtime
      entryEventSequence := ∅
      activeOrder := runtime.activeDownloads.map DownloadEntry.guid
      completedOrder := completedGuids runtime.completedDownloads
      projection := { applied.projection with
        activeDownloads := runtime.activeDownloads
        completedDownloads := runtime.completedDownloads
        lastDownload := (runtime.lastDownload.or runtime.activeDownloads.getLast?).or
          runtime.completedDownloads.getLast? } }
    (true, (recoveredEntries runtime).foldl (fun current download =>
      if applied.entries.lookup download.guid = some download then current
      else current.recordEvent (eventKindForState download.state) download) replaced)

/-- The loop that drops the oldest downloads beyond a limit, with their entries unless the
other order retains them. -/
def trimDownloadOrder (limit : Nat) (retainedElsewhere : List String)
    (entries : AList fun _ : String => DownloadEntry)
    (entryEventSequence : AList fun _ : String => Nat) :
    List String → List String × (AList fun _ : String => DownloadEntry) ×
      (AList fun _ : String => Nat)
  | [] => ([], entries, entryEventSequence)
  | oldest :: rest =>
    if (oldest :: rest).length > limit then
      if oldest ∈ retainedElsewhere then
        trimDownloadOrder limit retainedElsewhere entries entryEventSequence rest
      else trimDownloadOrder limit retainedElsewhere (entries.erase oldest)
        (entryEventSequence.erase oldest) rest
    else (oldest :: rest, entries, entryEventSequence)

def moveToActive (guid : String) : DownloadRuntimeState :=
  let completed := state.completedOrder.filter (· ≠ guid)
  let (active, entries, sequences) := trimDownloadOrder activeDownloadLimit completed
    state.entries state.entryEventSequence (state.activeOrder.filter (· ≠ guid) ++ [guid])
  { state with
    activeOrder := active
    completedOrder := completed
    entries := entries
    entryEventSequence := sequences }

def moveToCompleted (guid : String) : DownloadRuntimeState :=
  let active := state.activeOrder.filter (· ≠ guid)
  let (completed, entries, sequences) := trimDownloadOrder completedDownloadLimit active
    state.entries state.entryEventSequence (state.completedOrder.filter (· ≠ guid) ++ [guid])
  { state with
    activeOrder := active
    completedOrder := completed
    entries := entries
    entryEventSequence := sequences }

def storeEntry (sequence : Nat) (guid : String) (snapshot : DownloadEntry) : DownloadRuntimeState :=
  { state with
    entries := state.entries.insert guid snapshot
    entryEventSequence := state.entryEventSequence.insert guid sequence }

def showLast (lastDownload : Option DownloadEntry) : DownloadRuntimeState :=
  { state with projection := { state.projection with lastDownload := lastDownload } }

/-- `entry.started_at` is filled in where it is empty. -/
def withStartedAt (entry : DownloadEntry) (startedAt : String) : DownloadEntry :=
  if entry.startedAt = "" then { entry with startedAt := startedAt } else entry

/-- A start that comes after other events of the download supplies metadata only. -/
def recordLateStart (sequence : Nat) (existing : DownloadEntry)
    (guid url suggestedFilename : String) (frameId : Option String) (startedAt : String) :
    DownloadEntry × DownloadRuntimeState :=
  let snapshot := withStartedAt { existing with
    url := some url, suggestedFilename := some suggestedFilename, frameId := frameId } startedAt
  let backfilled := (state.storeEntry sequence guid snapshot).backfillTimelineMetadata guid url
    suggestedFilename frameId
  (snapshot, backfilled.showLast
    (if backfilled.projection.lastDownload.any fun last => last.guid == guid then some snapshot
      else backfilled.projection.lastDownload))

/-- A start of a new download, or again of one that has only been started. -/
def recordFreshStart (sequence : Nat) (guid url suggestedFilename : String)
    (frameId : Option String) (startedAt : String) : DownloadEntry × DownloadRuntimeState :=
  let existing := (state.entries.lookup guid).getD (.fresh guid startedAt)
  let snapshot := withStartedAt { existing with
    state := .started, url := some url, suggestedFilename := some suggestedFilename,
    frameId := frameId } startedAt
  let moved := (state.storeEntry sequence guid snapshot).moveToActive guid
  (snapshot, (moved.showLast (some snapshot)).recordEvent .started snapshot)

/-- `now` is the time the clock is read at. -/
def recordStarted (now : String) (generation sequence : Nat) (guid url suggestedFilename : String)
    (frameId : Option String) : DownloadEntry × DownloadRuntimeState :=
  match state.prepareGeneration generation with
  | none =>
    ((state.entries.lookup guid).getD (.announced guid url suggestedFilename frameId now), state)
  | some prepared =>
    if sequence ≤ (prepared.entryEventSequence.lookup guid).getD 0 then
      ((prepared.entries.lookup guid).getD (.announced guid url suggestedFilename frameId now),
        prepared)
    else
      match (prepared.entries.lookup guid).filter fun entry => entry.state ≠ .started with
      | some existing =>
        prepared.recordLateStart sequence existing guid url suggestedFilename frameId now
      | none => prepared.recordFreshStart sequence guid url suggestedFilename frameId now

def progressedEntry (entry : DownloadEntry) (event : DownloadProgressEvent) (now : String) :
    DownloadEntry :=
  { entry with
    state := event.state
    receivedBytes := max entry.receivedBytes event.receivedBytes
    totalBytes := event.totalBytes.or entry.totalBytes
    finalPath := event.finalPath.or entry.finalPath
    completedAt := if isTerminal event.state then some now else entry.completedAt }

def recordProgress (now : String) (event : DownloadProgressEvent) :
    Option DownloadEntry × DownloadRuntimeState :=
  match state.prepareGeneration event.generation with
  | none => (state.entries.lookup event.guid, state)
  | some prepared =>
    if event.sequence ≤ (prepared.entryEventSequence.lookup event.guid).getD 0 then
      (prepared.entries.lookup event.guid, prepared)
    else
      let entry := (prepared.entries.lookup event.guid).getD (.fresh event.guid now)
      if isTerminal entry.state ∧ ¬ isTerminal event.state then
        -- The entry was inserted before the check.
        (some entry, { prepared with entries := prepared.entries.insert event.guid entry })
      else
        let snapshot := progressedEntry entry event now
        let updated := prepared.storeEntry event.sequence event.guid snapshot
        let moved := if isTerminal event.state then updated.moveToCompleted event.guid
          else updated.moveToActive event.guid
        (some snapshot,
          (moved.showLast (some snapshot)).recordEvent (eventKindForState event.state) snapshot)

end DownloadRuntimeState

end Rub
