import Rub.BrowserEvents
import Rub.DownloadAuthority
import Rub.NumberedLog

/-!
The window of download events an interaction reads between two cursors. The timeline is a
retained, numbered log as long as the listener generation does not advance; a new
generation starts the numbers over.
-/

namespace Rub

open List

structure DownloadEventWindow where
  events : List DownloadEvent
  authoritative : Bool
  degradedReason : Option String
deriving DecidableEq

namespace DownloadRuntimeState

def downloadEventWindowBetween (state : DownloadRuntimeState) (cursor endCursor : Nat)
    (lastObservedIngressDropCount observedIngressDropCount : Nat)
    (baselineDegradedReason observedDegradedReason : Option String) : DownloadEventWindow :=
  let degradedReason :=
    match observedDegradedReason.or baselineDegradedReason with
    | some reason => some reason
    | none =>
      if observedIngressDropCount > lastObservedIngressDropCount then
        some downloadProgressOverflowReason
      else if state.droppedEventCount > 0 ∧ cursor < state.lastEvictedSequence then
        some "download_event_timeline_overflow"
      else none
  { events := state.eventsBetween cursor endCursor
    authoritative := degradedReason.isNone
    degradedReason := degradedReason }

end DownloadRuntimeState

inductive DownloadOperation where
  | setRuntime (generation : Nat) (status : DownloadRuntimeStatus) (mode : DownloadMode)
      (downloadDir : Option String)
  | applyRuntimeEvent (generation : Nat) (browserSequence : Option Nat)
      (status : DownloadRuntimeStatus) (mode : DownloadMode)
      (downloadDir degradedReason : Option String)
  | markDegraded (generation : Nat) (reason : String)
  | markDegradedBrowserEvent (generation browserSequence : Nat) (reason : String)
  | applyRuntimeProjection (generation browserSequence : Nat) (runtime : DownloadRuntimeInfo)
  | recordStarted (now : String) (generation sequence : Nat)
      (guid url suggestedFilename : String) (frameId : Option String)
  | recordProgress (now : String) (event : DownloadProgressEvent)

namespace DownloadOperation

def generation : DownloadOperation → Nat
  | .setRuntime generation _ _ _ => generation
  | .applyRuntimeEvent generation _ _ _ _ _ => generation
  | .markDegraded generation _ => generation
  | .markDegradedBrowserEvent generation _ _ => generation
  | .applyRuntimeProjection generation _ _ => generation
  | .recordStarted _ generation _ _ _ _ _ => generation
  | .recordProgress _ event => event.generation

def apply (state : DownloadRuntimeState) : DownloadOperation → DownloadRuntimeState
  | .setRuntime generation status mode downloadDir =>
    state.setRuntime generation status mode downloadDir
  | .applyRuntimeEvent generation browserSequence status mode downloadDir degradedReason =>
    (state.applyRuntimeEvent generation browserSequence status mode downloadDir
      degradedReason).2
  | .markDegraded generation reason => state.markDegraded generation reason
  | .markDegradedBrowserEvent generation browserSequence reason =>
    state.markDegradedBrowserEvent generation browserSequence reason
  | .applyRuntimeProjection generation browserSequence runtime =>
    (state.applyRuntimeProjectionSequenced generation browserSequence runtime).2
  | .recordStarted now generation sequence guid url suggestedFilename frameId =>
    (state.recordStarted now generation sequence guid url suggestedFilename frameId).2
  | .recordProgress now event => (state.recordProgress now event).2

end DownloadOperation

/-- The runs of the mutations, one after another. -/
def downloadSystem : TransitionSystem DownloadRuntimeState DownloadOperation where
  initial := .default
  step := fun state operation => some (operation.apply state)

namespace DownloadRuntimeState

def nextEvent (state : DownloadRuntimeState) (kind : DownloadEventKind)
    (download : DownloadEntry) : DownloadEvent :=
  { sequence := state.eventSequence, kind := kind, download := download }

/-- What recovering `downloads` into a runtime that knew `known` records. -/
def recordedRecoveries (known : AList fun _ : String => DownloadEntry) :
    DownloadRuntimeState → List DownloadEntry → List DownloadEvent
  | _, [] => []
  | state, download :: rest =>
    if known.lookup download.guid = some download then recordedRecoveries known state rest
    else
      state.nextEvent (eventKindForState download.state) download ::
        recordedRecoveries known
          (state.recordEvent (eventKindForState download.state) download) rest

def recordedProjection (state : DownloadRuntimeState) (generation browserSequence : Nat)
    (runtime : DownloadRuntimeInfo) : List DownloadEvent :=
  match state.applyRuntimeEvent generation (some browserSequence) runtime.status runtime.mode
      runtime.downloadDir runtime.degradedReason with
  | (false, _) => []
  | (true, applied) => recordedRecoveries applied.entries applied (recoveredEntries runtime)

def recordedStart (state : DownloadRuntimeState) (now : String) (generation sequence : Nat)
    (guid url suggestedFilename : String) (frameId : Option String) : List DownloadEvent :=
  match state.prepareGeneration generation with
  | none => []
  | some prepared =>
    if sequence ≤ (prepared.entryEventSequence.lookup guid).getD 0 then []
    else
      match (prepared.entries.lookup guid).filter fun entry => entry.state ≠ .started with
      | some _ => []
      | none =>
        let (snapshot, _) :=
          prepared.recordFreshStart sequence guid url suggestedFilename frameId now
        [prepared.nextEvent .started snapshot]

def recordedProgress (state : DownloadRuntimeState) (now : String)
    (event : DownloadProgressEvent) : List DownloadEvent :=
  match state.prepareGeneration event.generation with
  | none => []
  | some prepared =>
    if event.sequence ≤ (prepared.entryEventSequence.lookup event.guid).getD 0 then []
    else
      let entry := (prepared.entries.lookup event.guid).getD (.fresh event.guid now)
      if isTerminal entry.state ∧ ¬ isTerminal event.state then []
      else [prepared.nextEvent (eventKindForState event.state) (progressedEntry entry event now)]

end DownloadRuntimeState

/-- The events a mutation records, as they are when it records them. -/
def DownloadOperation.recorded (state : DownloadRuntimeState) :
    DownloadOperation → List DownloadEvent
  | .applyRuntimeProjection generation browserSequence runtime =>
    state.recordedProjection generation browserSequence runtime
  | .recordStarted now generation sequence guid url suggestedFilename frameId =>
    state.recordedStart now generation sequence guid url suggestedFilename frameId
  | .recordProgress now event => state.recordedProgress now event
  | _ => []

def recordedEvents (state : DownloadRuntimeState) : List DownloadOperation → List DownloadEvent
  | [] => []
  | operation :: operations =>
    operation.recorded state ++ recordedEvents (operation.apply state) operations

/-- A recorded event as the timeline shows it later: metadata that was missing may have been
filled in. -/
structure ShownAs (recorded shown : DownloadEvent) : Prop where
  sequence : shown.sequence = recorded.sequence
  kind : shown.kind = recorded.kind
  download : shown.download =
    { recorded.download with
      url := shown.download.url
      suggestedFilename := shown.download.suggestedFilename
      frameId := shown.download.frameId }
  url : ∀ url, recorded.download.url = some url → shown.download.url = some url
  suggestedFilename : ∀ name, recorded.download.suggestedFilename = some name →
    shown.download.suggestedFilename = some name
  frameId : ∀ id, recorded.download.frameId = some id → shown.download.frameId = some id

theorem ShownAs.refl (event : DownloadEvent) : ShownAs event event :=
  ⟨rfl, rfl, rfl, fun _ => id, fun _ => id, fun _ => id⟩

theorem ShownAs.backfill {recorded shown : DownloadEvent} (same : ShownAs recorded shown)
    (guid url suggestedFilename : String) (frameId : Option String) :
    ShownAs recorded
      (DownloadRuntimeState.backfillEvent guid url suggestedFilename frameId shown) := by
  unfold DownloadRuntimeState.backfillEvent
  split
  · exact same
  · refine ⟨same.sequence, same.kind, ?_, ?_, ?_, ?_⟩
    · rw [same.download]
    · intro known was
      simp [same.url known was]
    · intro known was
      simp [same.suggestedFilename known was]
    · intro known was
      simp [same.frameId known was]

namespace DownloadRuntimeState

/-- The timeline is what remains of the events the generation has recorded. -/
structure Logged (log : List DownloadEvent) (state : DownloadRuntimeState) : Prop where
  numbered : Numbered DownloadEvent.sequence log
  cursor : state.cursor = log.length
  dropped : state.droppedEventCount = state.lastEvictedSequence
  retains : Retains ShownAs log state.lastEvictedSequence state.timeline

theorem logged_default (generation : Nat) :
    Logged [] { default with currentGeneration := generation } :=
  ⟨rfl, rfl, rfl, .nil _⟩

variable {state next : DownloadRuntimeState} {log : List DownloadEvent}

theorem Logged.eventSequence (logged : Logged log state) :
    state.eventSequence = log.length + 1 := by
  have cursor := logged.cursor
  unfold DownloadRuntimeState.cursor at cursor
  unfold DownloadRuntimeState.eventSequence
  omega

theorem Logged.congr (logged : Logged log state) (sequence : next.nextSequence = state.nextSequence)
    (timeline : next.timeline = state.timeline)
    (dropped : next.droppedEventCount = state.droppedEventCount)
    (evicted : next.lastEvictedSequence = state.lastEvictedSequence) : Logged log next := by
  refine ⟨logged.numbered, ?_, ?_, ?_⟩
  · rw [← logged.cursor, DownloadRuntimeState.cursor, sequence, DownloadRuntimeState.cursor]
  · rw [dropped, evicted, logged.dropped]
  · rw [evicted, timeline]
    exact logged.retains

theorem Logged.trimTimelineFrom (items : List DownloadEvent) :
    ∀ state : DownloadRuntimeState, Logged log { state with timeline := items } →
      Logged log (state.trimTimelineFrom items) := by
  induction items with
  | nil =>
    intro state logged
    exact logged
  | cons oldest _ ih =>
    intro state logged
    unfold DownloadRuntimeState.trimTimelineFrom
    split
    · have evicted : max state.lastEvictedSequence oldest.sequence =
          state.lastEvictedSequence + 1 := by
        have first := logged.retains.number_head logged.numbered fun _ _ same => same.sequence
        rw [first]
        exact Nat.max_eq_right (Nat.le_succ _)
      apply ih
      refine ⟨logged.numbered, logged.cursor, ?_, ?_⟩
      · rw [evicted]
        exact congrArg (· + 1) logged.dropped
      · rw [evicted]
        exact logged.retains.evict
    · exact logged

theorem Logged.recordEvent (logged : Logged log state) (kind : DownloadEventKind)
    (download : DownloadEntry) :
    Logged (log ++ [state.nextEvent kind download]) (state.recordEvent kind download) := by
  have sequence := logged.eventSequence
  apply Logged.trimTimelineFrom
  refine ⟨logged.numbered.append_singleton sequence, ?_, logged.dropped,
    logged.retains.push (ShownAs.refl _)⟩
  show state.eventSequence + 1 - 1 = (log ++ [state.nextEvent kind download]).length
  rw [sequence, length_append]
  rfl

theorem Logged.recordEventAfter (logged : Logged log state) (kind : DownloadEventKind)
    (download : DownloadEntry) (sequence : next.nextSequence = state.nextSequence)
    (timeline : next.timeline = state.timeline)
    (dropped : next.droppedEventCount = state.droppedEventCount)
    (evicted : next.lastEvictedSequence = state.lastEvictedSequence) :
    Logged (log ++ [state.nextEvent kind download]) (next.recordEvent kind download) := by
  have recorded := (logged.congr sequence timeline dropped evicted).recordEvent kind download
  have event : next.nextEvent kind download = state.nextEvent kind download := by
    simp [nextEvent, DownloadRuntimeState.eventSequence, sequence]
  rwa [event] at recorded

theorem nextSequence_trimTimelineFrom (items : List DownloadEvent) : ∀ state : DownloadRuntimeState,
      (state.trimTimelineFrom items).nextSequence = state.nextSequence := by
  induction items with
  | nil => exact fun _ => rfl
  | cons _ _ ih =>
    intro state
    unfold DownloadRuntimeState.trimTimelineFrom
    split
    · exact ih _
    · rfl

theorem nextSequence_recordEvent (state : DownloadRuntimeState) (kind : DownloadEventKind)
    (download : DownloadEntry) :
    (state.recordEvent kind download).nextSequence = state.eventSequence + 1 :=
  nextSequence_trimTimelineFrom _ _

theorem Logged.backfill (logged : Logged log state) (guid url suggestedFilename : String)
    (frameId : Option String) :
    Logged log (state.backfillTimelineMetadata guid url suggestedFilename frameId) where
  numbered := logged.numbered
  cursor := logged.cursor
  dropped := logged.dropped
  retains := logged.retains.amend fun _ _ same => same.backfill guid url suggestedFilename frameId

/-- What a mutation of some generation does to the log. -/
inductive Appends (state : DownloadRuntimeState) (generation : Nat)
    (recorded : List DownloadEvent) (next : DownloadRuntimeState) : Prop where
  | refused (older : state.prepareGeneration generation = none) (nothing : recorded = [])
      (unchanged : next = state)
  | accepted (prepared : DownloadRuntimeState)
      (ready : state.prepareGeneration generation = some prepared)
      (appends : ∀ log, Logged log prepared → Logged (log ++ recorded) next)

theorem prepareRuntimeEventOrder_of_some {prepared : DownloadRuntimeState} {generation : Nat}
    (ready : state.prepareGeneration generation = some prepared) (browserSequence : Option Nat) :
    ∃ inOrder sequence, state.prepareRuntimeEventOrder generation browserSequence =
      (inOrder, { prepared with runtimeEventSequence := sequence }) := by
  unfold prepareRuntimeEventOrder
  rw [ready]
  cases browserSequence.filter (0 < ·) with
  | none => exact ⟨true, prepared.runtimeEventSequence, rfl⟩
  | some sequence =>
    by_cases old : sequence ≤ prepared.runtimeEventSequence
    · exact ⟨false, prepared.runtimeEventSequence, if_pos old⟩
    · exact ⟨true, sequence, if_neg old⟩

theorem appends_applyInOrder (state : DownloadRuntimeState) (generation : Nat)
    (browserSequence : Option Nat) (change : DownloadRuntimeInfo → DownloadRuntimeInfo) :
    Appends state generation [] (state.applyInOrder generation browserSequence change).2 := by
  cases ready : state.prepareGeneration generation with
  | none => exact .refused ready rfl (by simp [applyInOrder, prepareRuntimeEventOrder, ready])
  | some prepared =>
    refine .accepted prepared ready fun log logged => ?_
    obtain ⟨inOrder, sequence, order⟩ := prepareRuntimeEventOrder_of_some ready browserSequence
    rw [append_nil]
    unfold applyInOrder
    rw [order]
    cases inOrder with
    | false | true => exact logged.congr rfl rfl rfl rfl

/-- The loop of a projection records what `recordedRecoveries` lists, whatever it starts from
with the same counters. -/
theorem Logged.recoveries (known : AList fun _ : String => DownloadEntry)
    (downloads : List DownloadEntry) :
    ∀ (listed state : DownloadRuntimeState) (log : List DownloadEvent),
      listed.nextSequence = state.nextSequence → Logged log state →
      Logged (log ++ recordedRecoveries known listed downloads)
        (downloads.foldl (fun current download =>
          if known.lookup download.guid = some download then current
          else current.recordEvent (eventKindForState download.state) download) state) := by
  induction downloads with
  | nil =>
    intro listed state log _ logged
    simpa [recordedRecoveries] using logged
  | cons download _ ih =>
    intro listed state log same logged
    unfold recordedRecoveries
    rw [foldl_cons]
    split
    · exact ih listed state log same logged
    · have event : listed.nextEvent (eventKindForState download.state) download =
          state.nextEvent (eventKindForState download.state) download := by
        simp [nextEvent, DownloadRuntimeState.eventSequence, same]
      have after := ih (listed.recordEvent (eventKindForState download.state) download) _ _ ?_
        (logged.recordEvent (eventKindForState download.state) download)
      · rw [event]
        simpa using after
      · rw [nextSequence_recordEvent, nextSequence_recordEvent]
        simp [DownloadRuntimeState.eventSequence, same]

theorem appends_projection (state : DownloadRuntimeState) (generation browserSequence : Nat)
    (runtime : DownloadRuntimeInfo) :
    Appends state generation (state.recordedProjection generation browserSequence runtime)
      (state.applyRuntimeProjectionSequenced generation browserSequence runtime).2 := by
  have event : Appends state generation [] (state.applyRuntimeEvent generation
      (some browserSequence) runtime.status runtime.mode runtime.downloadDir
      runtime.degradedReason).2 := appends_applyInOrder ..
  unfold recordedProjection applyRuntimeProjectionSequenced
  cases applied : state.applyRuntimeEvent generation (some browserSequence) runtime.status
      runtime.mode runtime.downloadDir runtime.degradedReason with
  | mk inOrder runtimeState =>
    rw [applied] at event
    cases inOrder with
    | false => exact event
    | true =>
      cases event with
      | refused older =>
        simp [applyRuntimeEvent, applyInOrder, prepareRuntimeEventOrder, older] at applied
      | accepted prepared ready appends =>
        refine .accepted prepared ready fun log logged => ?_
        have before := appends log logged
        rw [append_nil] at before
        exact Logged.recoveries _ _ runtimeState _ log rfl (before.congr rfl rfl rfl rfl)

theorem appends_start (state : DownloadRuntimeState) (now : String) (generation sequence : Nat)
    (guid url suggestedFilename : String) (frameId : Option String) :
    Appends state generation
      (state.recordedStart now generation sequence guid url suggestedFilename frameId)
      (state.recordStarted now generation sequence guid url suggestedFilename frameId).2 := by
  unfold recordedStart recordStarted
  cases ready : state.prepareGeneration generation with
  | none => exact .refused ready rfl rfl
  | some prepared =>
    refine .accepted prepared ready fun log logged => ?_
    dsimp only
    split
    · simpa using logged
    · cases (prepared.entries.lookup guid).filter fun entry => entry.state ≠ .started with
      | some =>
        rw [append_nil]
        exact (logged.backfill guid url suggestedFilename frameId).congr rfl rfl rfl rfl
      | none => exact logged.recordEventAfter _ _ rfl rfl rfl rfl

theorem appends_progress (state : DownloadRuntimeState) (now : String)
    (event : DownloadProgressEvent) :
    Appends state event.generation (state.recordedProgress now event)
      (state.recordProgress now event).2 := by
  unfold recordedProgress recordProgress
  cases ready : state.prepareGeneration event.generation with
  | none => exact .refused ready rfl rfl
  | some prepared =>
    refine .accepted prepared ready fun log logged => ?_
    dsimp only
    split
    · simpa using logged
    · split
      · rw [append_nil]
        exact logged.congr rfl rfl rfl rfl
      · split
        · exact logged.recordEventAfter _ _ rfl rfl rfl rfl
        · exact logged.recordEventAfter _ _ rfl rfl rfl rfl

theorem appends_apply (state : DownloadRuntimeState) (operation : DownloadOperation) :
    Appends state operation.generation (operation.recorded state) (operation.apply state) := by
  cases operation with
  | setRuntime | applyRuntimeEvent | markDegraded | markDegradedBrowserEvent =>
    exact appends_applyInOrder ..
  | applyRuntimeProjection generation browserSequence runtime =>
    exact appends_projection state generation browserSequence runtime
  | recordStarted now generation sequence guid url suggestedFilename frameId =>
    exact appends_start state now generation sequence guid url suggestedFilename frameId
  | recordProgress now event => exact appends_progress state now event

/-- The mutation does not start the numbers over, or there are none to start over. -/
def KeepsCursor (state : DownloadRuntimeState) (operation : DownloadOperation) : Prop :=
  state.effectiveGeneration operation.generation ≤ state.currentGeneration ∨ state.cursor = 0

instance (state : DownloadRuntimeState) (operation : DownloadOperation) :
    Decidable (KeepsCursor state operation) :=
  inferInstanceAs (Decidable (_ ∨ _))

theorem Logged.apply (logged : Logged log state) {operation : DownloadOperation}
    (keeps : KeepsCursor state operation) :
    Logged (log ++ operation.recorded state) (operation.apply state) := by
  cases appends_apply state operation with
  | refused _ nothing unchanged =>
    rw [nothing, unchanged, append_nil]
    exact logged
  | accepted _ ready appends =>
    apply appends
    rcases Nat.lt_or_ge state.currentGeneration
      (state.effectiveGeneration operation.generation) with newer | current
    · have unused := keeps.resolve_left (Nat.not_le.mpr newer)
      rw [logged.cursor] at unused
      rw [prepareGeneration_newer newer] at ready
      rw [eq_nil_of_length_eq_zero unused, ← Option.some.inj ready]
      exact logged_default _
    · rcases Nat.lt_or_eq_of_le current with older | same
      · rw [prepareGeneration_older older] at ready
        cases ready
      · rw [prepareGeneration_same same] at ready
        cases ready
        exact logged

/-- Some log stands behind the timeline. -/
def HasLog (state : DownloadRuntimeState) : Prop := ∃ log, Logged log state

/-- Whatever happens to the generation, the timeline stays a retained log. -/
theorem Logged.hasLog_apply (logged : Logged log state) (operation : DownloadOperation) :
    HasLog (operation.apply state) := by
  rcases Nat.lt_or_ge state.currentGeneration
    (state.effectiveGeneration operation.generation) with newer | current
  · cases appends_apply state operation with
    | refused older =>
      rw [prepareGeneration_newer newer] at older
      cases older
    | accepted _ ready appends =>
      rw [prepareGeneration_newer newer] at ready
      cases ready
      exact ⟨_, appends [] (logged_default _)⟩
  · exact ⟨_, logged.apply (.inl current)⟩

theorem hasLog_reachable (reached : downloadSystem.Reachable state) : HasLog state := by
  refine reached.invariant downloadSystem ⟨[], logged_default 0⟩ ?_
  intro current operation next hasLog taken
  obtain ⟨log, logged⟩ := hasLog
  cases taken
  exact logged.hasLog_apply operation

/-- A run that keeps the cursor appends what it records. -/
theorem Logged.run {operations : List DownloadOperation} :
    ∀ {state : DownloadRuntimeState} {log : List DownloadEvent}, Logged log state →
      downloadSystem.Along KeepsCursor state operations →
      downloadSystem.runFrom state operations = some next →
      Logged (log ++ recordedEvents state operations) next := by
  induction operations with
  | nil =>
    intro state log logged _ run
    cases run
    simpa [recordedEvents] using logged
  | cons _ _ ih =>
    intro state log logged along run
    have rest := ih (logged.apply along.1) (along.2 _ rfl) run
    rw [append_assoc] at rest
    exact rest

theorem lastEvicted_le_of_authoritative (logged : Logged log state)
    {cursor endCursor lastDrops drops : Nat} {baselineReason observedReason : Option String}
    (authoritative : (state.downloadEventWindowBetween cursor endCursor lastDrops drops
      baselineReason observedReason).authoritative = true) :
    state.lastEvictedSequence ≤ cursor := by
  have dropped := logged.dropped
  by_contra lost
  have evicted : state.droppedEventCount > 0 ∧ cursor < state.lastEvictedSequence := by omega
  simp only [downloadEventWindowBetween, evicted] at authoritative
  (repeat' split at authoritative) <;> simp_all

end DownloadRuntimeState

open DownloadRuntimeState in
/-- An authoritative window shows every event recorded between its two cursors and nothing
else, in recording order, as long as no mutation starts the numbers over. -/
theorem authoritative_window_complete {baseline atEnd atWindow : DownloadRuntimeState}
    (reached : downloadSystem.Reachable baseline) {before after : List DownloadOperation}
    (toEnd : downloadSystem.runFrom baseline before = some atEnd)
    (toWindow : downloadSystem.runFrom atEnd after = some atWindow)
    (kept : downloadSystem.Along KeepsCursor baseline before)
    (keptAfter : downloadSystem.Along KeepsCursor atEnd after)
    (drops : Nat) (baselineReason observedReason : Option String)
    (authoritative : (atWindow.downloadEventWindowBetween baseline.cursor atEnd.cursor drops drops
      baselineReason observedReason).authoritative = true) :
    List.Forall₂ ShownAs (recordedEvents baseline before)
      (atWindow.downloadEventWindowBetween baseline.cursor atEnd.cursor drops drops
        baselineReason observedReason).events := by
  obtain ⟨log, logged⟩ := hasLog_reachable reached
  have loggedEnd := logged.run kept toEnd
  have loggedWindow := loggedEnd.run keptAfter toWindow
  have enough := lastEvicted_le_of_authoritative loggedWindow authoritative
  have shown := loggedWindow.retains.window loggedWindow.numbered
    (fun _ _ same => same.sequence) enough atEnd.cursor
  rw [loggedEnd.cursor, take_left, logged.cursor, drop_left] at shown
  show List.Forall₂ ShownAs _ (atWindow.eventsBetween baseline.cursor atEnd.cursor)
  rw [loggedEnd.cursor, logged.cursor]
  exact shown

/-- A progress event of a download of some generation. -/
def progressOf (generation sequence : Nat) (guid : String) : DownloadOperation :=
  .recordProgress "now"
    { generation, sequence, guid, state := .inProgress, receivedBytes := sequence,
      totalBytes := none, finalPath := none }

/-- The window shows a progress event with the url that a start supplies after its end. -/
theorem late_start_window_complete :
    ∃ baseline atEnd atWindow,
      downloadSystem.runFrom .default [progressOf 1 1 "a"] = some baseline ∧
      downloadSystem.runFrom baseline [progressOf 1 2 "a"] = some atEnd ∧
      downloadSystem.runFrom atEnd
        [.recordStarted "now" 1 4 "a" "https://example.test/a" "a.bin" none] = some atWindow ∧
      (atWindow.downloadEventWindowBetween baseline.cursor atEnd.cursor 0 0 none
        none).authoritative = true ∧
      List.Forall₂ ShownAs (recordedEvents baseline [progressOf 1 2 "a"])
        (atWindow.downloadEventWindowBetween baseline.cursor atEnd.cursor 0 0 none none).events :=
  ⟨_, _, _, rfl, rfl, rfl, rfl,
    authoritative_window_complete ⟨[progressOf 1 1 "a"], rfl⟩
      (show downloadSystem.runFrom _ [progressOf 1 2 "a"] = _ from rfl)
      (show downloadSystem.runFrom _
        [.recordStarted "now" 1 4 "a" "https://example.test/a" "a.bin" none] = _ from rfl)
      ⟨.inl (by decide), fun _ _ => trivial⟩ ⟨.inl (by decide), fun _ _ => trivial⟩ 0 none none rfl⟩

/-- Two events, then a new listener generation with three: the numbers start over, and a
window that starts at the old cursor misses the first two of them. -/
theorem rollover_window_incomplete :
    ∃ baseline atEnd,
      downloadSystem.runFrom .default [progressOf 1 1 "a", progressOf 1 2 "a"] = some baseline ∧
      downloadSystem.runFrom baseline
        [progressOf 2 3 "b", progressOf 2 4 "b", progressOf 2 5 "b"] = some atEnd ∧
      (atEnd.downloadEventWindowBetween baseline.cursor atEnd.cursor 0 0 none
        none).authoritative = true ∧
      (atEnd.downloadEventWindowBetween baseline.cursor atEnd.cursor 0 0 none
        none).events.length = 1 ∧
      ¬ List.Forall₂ ShownAs
        (recordedEvents baseline [progressOf 2 3 "b", progressOf 2 4 "b", progressOf 2 5 "b"])
        (atEnd.downloadEventWindowBetween baseline.cursor atEnd.cursor 0 0 none none).events :=
  ⟨_, _, rfl, rfl, rfl, rfl, fun shown => absurd shown.length_eq (by decide)⟩

end Rub
