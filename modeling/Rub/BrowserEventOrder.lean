import Mathlib.Algebra.Order.Ring.Nat
import Rub.BrowserEventLedger

/-!
Browser events are applied once and in sequence, and the committed cursor follows them.
-/

namespace Rub.BrowserEventState

open List TransitionSystem BrowserSessionEventBody

variable {Id : Type} [DecidableEq Id] {progressCapacity : Nat} {action : BrowserEventAction Id}
  {state next : BrowserEventState Id}

/-- The worker is never ahead of the committed cursor by more than the event it works on. -/
structure WorkerOrdered (state : BrowserEventState Id) : Prop where
  next_le : state.nextSequence ≤ state.committedBrowserEventCursor + 1
  expected : ∀ event, state.worker = .applying event → event.browserSequence = state.nextSequence
  owed_next : ∀ n, state.worker.owed = some n → n = state.nextSequence
  increasing : (state.history.applied.map BrowserSessionEvent.browserSequence).Pairwise (· < ·)
  applied_before : ∀ event ∈ state.history.applied,
    event.browserSequence < state.nextSequence ∨ state.worker.owed = some event.browserSequence
  nothing_lost : state.worker ≠ .stopped → state.history.lost = []

section

omit [DecidableEq Id]

/-- Steps of the calls move the cursor at most. -/
theorem WorkerOrdered.frame (ordered : WorkerOrdered state)
    (cursor : state.committedBrowserEventCursor ≤ next.committedBrowserEventCursor)
    (worker : next.worker = state.worker) (sequence : next.nextSequence = state.nextSequence)
    (applied : next.history.applied = state.history.applied)
    (lost : next.history.lost = state.history.lost) : WorkerOrdered next where
  next_le := by
    have := ordered.next_le
    omega
  expected := by
    rw [worker, sequence]
    exact ordered.expected
  owed_next := by
    rw [worker, sequence]
    exact ordered.owed_next
  increasing := by
    rw [applied]
    exact ordered.increasing
  applied_before := by
    rw [applied, worker, sequence]
    exact ordered.applied_before
  nothing_lost := by
    rw [worker, lost]
    exact ordered.nothing_lost

theorem WorkerOrdered.applied_lt (ordered : WorkerOrdered state) (free : state.worker.owed = none) :
    ∀ event ∈ state.history.applied, event.browserSequence < state.nextSequence := by
  intro event member
  rcases ordered.applied_before event member with before | owed
  · exact before
  · rw [free] at owed
    cases owed

/-- The worker goes from one phase to another with no event applied or lost. -/
theorem WorkerOrdered.advance (ordered : WorkerOrdered state)
    (free : state.worker.owed = none) (freeAfter : next.worker.owed = none)
    (running : state.worker ≠ .stopped)
    (within : next.nextSequence ≤ next.committedBrowserEventCursor + 1)
    (later : state.nextSequence ≤ next.nextSequence)
    (expected : ∀ event, next.worker = .applying event → event.browserSequence = next.nextSequence)
    (applied : next.history.applied = state.history.applied)
    (lost : next.history.lost = state.history.lost) : WorkerOrdered next where
  next_le := within
  expected := expected
  owed_next := by simp [freeAfter]
  increasing := by
    rw [applied]
    exact ordered.increasing
  applied_before := by
    rw [applied]
    intro event member
    exact .inl (lt_of_lt_of_le (ordered.applied_lt free event member) later)
  nothing_lost := by
    rw [lost]
    exact fun _ => ordered.nothing_lost running

theorem workerOrdered_apply (ordered : WorkerOrdered state) (now : String)
    {event : BrowserSessionEvent} (stands : state.worker = .applying event) :
    WorkerOrdered (state.applyEvent now event) := by
  have expected := ordered.expected event stands
  have earlier := ordered.applied_lt (by rw [stands]; rfl)
  have owed : (state.applyEvent now event).worker.owed = some event.browserSequence ∧
      ∀ other, (state.applyEvent now event).worker ≠ .applying other := by
    unfold applyEvent
    dsimp only
    cases (applyBrowserSessionEvent state.runtimes now event).2 <;> exact ⟨rfl, by simp⟩
  have applied : (state.applyEvent now event).history.applied =
      state.history.applied ++ [event] := rfl
  exact {
    next_le := ordered.next_le
    expected := fun other stands => absurd stands (owed.2 other)
    owed_next := by
      intro n owes
      rw [owed.1] at owes
      cases owes
      exact expected
    increasing := by
      rw [applied, map_append, pairwise_append]
      refine ⟨ordered.increasing, pairwise_singleton _ _, ?_⟩
      simp only [mem_map, map_cons, map_nil, mem_singleton]
      rintro m ⟨other, member, rfl⟩ n rfl
      rw [expected]
      exact earlier other member
    applied_before := by
      intro other member
      rw [applied, mem_append, mem_singleton] at member
      rcases member with member | rfl
      · exact .inl (earlier other member)
      · exact .inr owed.1
    nothing_lost := fun _ => ordered.nothing_lost (by rw [stands]; simp) }

theorem workerOrdered_commitApplied (ordered : WorkerOrdered state) {sequence : Nat}
    (stands : state.worker = .committing sequence) (positive : 0 < sequence) :
    WorkerOrdered (state.commitApplied sequence) := by
  have current : sequence = state.nextSequence := ordered.owed_next sequence (by rw [stands]; rfl)
  -- Everything below `sequence` is in the prefix already, so recording it closes the prefix.
  have reached : sequence ≤ (state.commits.record sequence).low := by
    apply Watermark.le_low_of_complete
    intro n nonzero within
    rw [Watermark.covers_record _ positive]
    by_cases last : n = sequence
    · exact .inr last
    · have := ordered.next_le
      unfold committedBrowserEventCursor at this
      exact .inl (state.commits.covers_of_le nonzero (by omega))
  have cursor : (state.commitApplied sequence).committedBrowserEventCursor =
      (state.commits.record sequence).low := rfl
  have advanced : (state.commitApplied sequence).nextSequence = state.nextSequence + 1 := rfl
  exact {
    next_le := by omega
    expected := by simp [commitApplied]
    owed_next := by simp [commitApplied, WorkerPhase.owed]
    increasing := ordered.increasing
    applied_before := by
      intro event member
      rcases ordered.applied_before event member with before | owed
      · exact .inl (by omega)
      · have := ordered.owed_next _ owed
        exact .inl (by omega)
    nothing_lost := fun _ => ordered.nothing_lost (by rw [stands]; simp) }

/-- An event in the worker's hands is not committed, so none is thrown away as stale. -/
theorem cursor_lt_of_holding (sound : LedgerSound state.ledger) {event : BrowserSessionEvent}
    (holding : event ∈ state.worker.holding) :
    state.committedBrowserEventCursor < event.browserSequence := by
  have flying : event ∈ state.ledger.inFlight := by
    show event ∈ state.inFlight
    simp [inFlight, holding]
  have positive := (sound.placed.drawn _ (SequenceLedger.mem_disposed_of_inFlight flying)).1
  have uncovered := sound.not_covers_of_inFlight flying
  by_contra within
  exact uncovered (state.commits.covers_of_le positive (by
    unfold committedBrowserEventCursor at within
    omega))

end

theorem workerOrdered_step (sound : LedgerSound state.ledger) (ordered : WorkerOrdered state)
    (taken : EventStep progressCapacity state action next) :
    WorkerOrdered next := by
  have within := ordered.next_le
  cases taken with
  | allocate | enqueueCoordinated | enqueueUncoordinated | enqueueDownload | sentProgress
  | refused | progressClosed | marked | unmarked | meter | sentCritical | criticalClosed
  | abandon => exact ordered.frame le_rfl rfl rfl rfl rfl
  | commit =>
    exact ordered.frame (Watermark.low_le_record _ _) rfl rfl rfl rfl
  | drained nextSequence stands =>
    refine ordered.advance (by rw [stands]; rfl) rfl (by rw [stands]; simp) ?_ ?_ (by simp) rfl rfl
    · show nextSequence ≤ state.committedBrowserEventCursor + 1
      omega
    · show state.nextSequence ≤ nextSequence
      omega
  | ready nextSequence _ stands _ _ expected =>
    refine ordered.advance (by rw [stands]; rfl) rfl (by rw [stands]; simp) ?_ ?_ ?_ rfl rfl
    · show nextSequence ≤ state.committedBrowserEventCursor + 1
      omega
    · show state.nextSequence ≤ nextSequence
      omega
    · rintro other same
      cases same
      exact expected
  | apply now _ stands => exact workerOrdered_apply ordered now stands
  | clearLatch sequence _ stands =>
    have owed : state.worker.owed = some sequence := by rw [stands]; rfl
    exact { ordered with
      expected := by simp [clearLatch]
      owed_next := fun n owes => ordered.owed_next n (owed.trans owes)
      applied_before := by
        intro event member
        rcases ordered.applied_before event member with before | owes
        · exact .inl before
        · exact .inr (owed.symm.trans owes)
      nothing_lost := fun _ => ordered.nothing_lost (by rw [stands]; simp) }
  | commitApplied sequence stands =>
    have applied := sound.consumerOwed_settled sequence (by
      show state.worker.owed = some sequence
      rw [stands]
      rfl)
    have positive := (sound.placed.drawn _ (SequenceLedger.Closed.mem_disposed (.inl applied))).1
    exact workerOrdered_commitApplied ordered stands positive
  | receiveCritical _ _ stands =>
    exact ordered.advance (by rw [stands]; rfl) rfl (by rw [stands]; simp) within le_rfl
      (by simp [receiveCritical]) rfl rfl
  | receiveProgress _ _ stands =>
    exact ordered.advance (by rw [stands]; rfl) rfl (by rw [stands]; simp) within le_rfl
      (by simp [receiveProgress]) rfl rfl
  | insertStale event stands =>
    have fresh : state.committedBrowserEventCursor < event.browserSequence :=
      cursor_lt_of_holding sound (by simp [stands, WorkerPhase.holding])
    omega
  | insert _ stands =>
    exact ordered.advance (by rw [stands]; rfl) rfl (by rw [stands]; simp) within le_rfl
      (by simp) rfl rfl
  | shutdown stands =>
    have free : state.worker.owed = none := by
      rcases stands with stands | ⟨event, stands⟩ <;> rw [stands] <;> rfl
    exact { ordered with
      expected := by simp [stop]
      owed_next := by simp [stop, WorkerPhase.owed]
      applied_before := fun event member => .inl (ordered.applied_lt free event member)
      nothing_lost := fun running => absurd rfl running }
  | closeCritical stands | closeProgress stands =>
    exact { ordered with nothing_lost := fun running => absurd stands running }

/-- The ledger is sound and the worker in order in every state a run reaches. -/
structure OrderInv (state : BrowserEventState Id) : Prop where
  sound : LedgerSound state.ledger
  ordered : WorkerOrdered state

omit [DecidableEq Id] in
theorem orderInv_initial : OrderInv (initial : BrowserEventState Id) where
  sound := SequenceLedger.sound_empty _
  ordered :=
    { next_le := le_rfl
      expected := by simp [initial]
      owed_next := by simp [initial, WorkerPhase.owed]
      increasing := List.Pairwise.nil
      applied_before := by simp [initial]
      nothing_lost := fun _ => rfl }

theorem orderInv_step (inv : OrderInv state) (taken : EventStep progressCapacity state action next)
    : OrderInv next :=
  ⟨SequenceLedger.sound_step inv.sound (ledgerStep_of_step inv.sound taken),
    workerOrdered_step inv.sound inv.ordered taken⟩

theorem orderInv_reachable (reached : (browserEventSystem Id progressCapacity).Reachable state) :
    OrderInv state := by
  refine TransitionSystem.Reachable.invariant _ orderInv_initial ?_ reached
  intro current action next inv taken
  exact orderInv_step inv (step_cases taken)

/-- The sequence was applied, by its own event or by the overflow marker that took its place,
or dropped with nothing in its place. -/
def Disposed (state : BrowserEventState Id) (n : Nat) : Prop :=
  n ∈ state.history.applied.map BrowserSessionEvent.browserSequence ∨ n ∈ state.history.dropped

/-- A call or the worker is about to record the sequence as committed. -/
def CommitDue (state : BrowserEventState Id) (n : Nat) : Prop :=
  (∃ id, (state.calls id).owed = some n) ∨ state.worker.owed = some n

theorem cursor_le_of_run {actions : List (BrowserEventAction Id)} {later : BrowserEventState Id}
    (run : (browserEventSystem Id progressCapacity).runFrom state actions = some later) :
    state.committedBrowserEventCursor ≤ later.committedBrowserEventCursor := by
  have grows : ∀ current action next,
      state.committedBrowserEventCursor ≤ current.committedBrowserEventCursor →
      (browserEventSystem Id progressCapacity).step current action = some next →
      state.committedBrowserEventCursor ≤ next.committedBrowserEventCursor := by
    intro current action next before taken
    refine le_trans before ?_
    cases step_cases taken with
    | commit | commitApplied => exact Watermark.low_le_record _ _
    | _ => exact le_rfl
  exact runFrom_preserves _ grows le_rfl run

theorem browser_events_applied_once_in_order
    (reached : (browserEventSystem Id progressCapacity).Reachable state) :
    (state.history.applied.map BrowserSessionEvent.browserSequence).Pairwise (· < ·) ∧
      (∀ actions later, (browserEventSystem Id progressCapacity).runFrom state actions =
        some later → state.committedBrowserEventCursor ≤ later.committedBrowserEventCursor) ∧
      IsGreatest {c | ∀ n, 0 < n → n ≤ c → state.Disposed n ∧ ¬ state.CommitDue n}
        state.committedBrowserEventCursor ∧
      state.history.entered.Perm
        (state.inFlight ++ state.history.applied ++ state.history.lost) ∧
      (state.history.entered.map BrowserSessionEvent.browserSequence).Nodup ∧
      (state.worker ≠ .stopped → state.history.lost = []) := by
  have inv := orderInv_reachable reached
  exact ⟨inv.ordered.increasing, fun actions later run => cursor_le_of_run run,
    inv.sound.isGreatest_low, inv.sound.conserved, inv.sound.nodup_entered,
    inv.ordered.nothing_lost⟩

/-- Progress of a listener generation that is over. -/
def staleProgress (sequence : Nat) : BrowserSessionEvent :=
  { browserSequence := sequence, generation := 1,
    body := .downloadProgress "late" .inProgress 0 none none }

/-- The calls that enqueue `count` stale progress events one after another. -/
def fillCalls (count : Nat) : List (BrowserEventAction Unit) :=
  (List.replicate count [.enqueueDownload () 1 (staleProgress 0).body, .trySend ()]).flatten

/-- No call is under way. -/
structure CallsIdle (state : BrowserEventState Unit) : Prop where
  idle : state.calls = fun _ => .idle
  free : state.coordination = none

/-- What is left of a state after stale progress went into the channel. -/
def filled (state : BrowserEventState Unit) (count : Nat) : BrowserEventState Unit :=
  let events := (List.range' (state.nextBrowserEventSequence + 1) count).map staleProgress
  { state with
    nextBrowserEventSequence := state.nextBrowserEventSequence + count
    progress := state.progress ++ events
    history := { state.history with entered := state.history.entered ++ events } }

theorem runFrom_fillCalls (count : Nat) (state : BrowserEventState Unit) (quiet : CallsIdle state)
    (isOpen : state.progressOpen = true) (room : state.progress.length + count ≤ progressCapacity) :
    (browserEventSystem Unit progressCapacity).runFrom state (fillCalls count) =
      some (state.filled count) := by
  induction count generalizing state with
  | zero => simp [fillCalls, filled]
  | succ count ih =>
    have first : (browserEventSystem Unit progressCapacity).runFrom state
        [.enqueueDownload () 1 (staleProgress 0).body, .trySend ()] =
        some (state.filled 1) := by
      have fits : state.progress.length < progressCapacity := by omega
      simp [runFrom, browserEventSystem, step, quiet.idle, quiet.free,
        staleProgress, isDownloadCall, moveCall, allocateBrowserEvent,
        usesBoundedProgressIngress, trySend, isOpen, fits, finishCall,
        enterProgress, filled]
    have shape : fillCalls (count + 1) =
        [.enqueueDownload () 1 (staleProgress 0).body, .trySend ()] ++ fillCalls count := by
      simp [fillCalls, replicate_succ]
    rw [shape, runFrom_append, first, Option.bind_some, ih]
    · simp [filled, range'_succ, Nat.add_assoc, Nat.add_comm 1]
    · exact ⟨quiet.idle, quiet.free⟩
    · exact isOpen
    · simp [filled]
      omega

/-- The worker receives one progress event, puts it in order and applies it. -/
def progressCycle : List (BrowserEventAction Unit) :=
  [.receiveProgress, .insert, .drain, .apply "", .commitApplied, .drain]

/-- What is left of a state after the worker applied stale progress. -/
def caughtUp (state : BrowserEventState Unit) (count : Nat) (rest : List BrowserSessionEvent) :
    BrowserEventState Unit :=
  let sequences := List.range' state.nextSequence count
  { state with
    progress := rest
    commits := sequences.foldl Watermark.record state.commits
    nextSequence := state.nextSequence + count
    runtimes := { state.runtimes with
      nextDownloadEventSequence := state.runtimes.nextDownloadEventSequence + count }
    history := { state.history with
      applied := state.history.applied ++ sequences.map staleProgress } }

/-- The worker waits for the next sequence, in a generation later than the stale one. -/
structure Waiting (state : BrowserEventState Unit) : Prop where
  stands : state.worker = .receiving
  empty : state.pending = []
  level : state.nextSequence = state.committedBrowserEventCursor + 1
  ended : 1 < state.runtimes.downloads.currentGeneration

variable {state : BrowserEventState Unit}

theorem progressCycle_eq (waiting : Waiting state) {rest : List BrowserSessionEvent}
    (queued : state.progress = staleProgress state.nextSequence :: rest)
    (missing : state.committedBrowserEventCursor + 2 ∉ state.commits.above) :
    (browserEventSystem Unit progressCapacity).runFrom state progressCycle =
      some (state.caughtUp 1 rest) := by
  have advanced := state.commits.record_succ_low missing
  have older : state.runtimes.downloads.effectiveGeneration 1 <
      state.runtimes.downloads.currentGeneration := waiting.ended
  have unchanged : ∀ event : DownloadProgressEvent, event.generation = 1 →
      (state.runtimes.downloads.recordProgress "" event).2 = state.runtimes.downloads := by
    intro event generation
    unfold DownloadRuntimeState.recordProgress
    rw [generation]
    simp [DownloadRuntimeState.prepareGeneration, older]
  have level := waiting.level
  simp [progressCycle, runFrom, browserEventSystem, step, waiting.stands, queued,
    receiveProgress, insertPendingBrowserEvent, committedBrowserEventCursor, staleProgress,
    waiting.empty, insertPending, drain, level, removePending, applyEvent,
    applyBrowserSessionEvent, unchanged, commitApplied, recordBrowserEventCommit, advanced,
    caughtUp]

theorem runFrom_progressCycles (count : Nat) (state : BrowserEventState Unit)
    (waiting : Waiting state) (rest : List BrowserSessionEvent)
    (queued : state.progress = (range' state.nextSequence count).map staleProgress ++ rest)
    (missing : ∀ n ∈ state.commits.above, state.commits.low + count + 1 < n) :
    (browserEventSystem Unit progressCapacity).runFrom state
        (replicate count progressCycle).flatten = some (state.caughtUp count rest) := by
  induction count generalizing state with
  | zero =>
    have same : state.caughtUp 0 rest = { state with progress := rest } := by simp [caughtUp]
    rw [same, ← (show state.progress = rest by simpa using queued)]
    rfl
  | succ count ih =>
    have absent : state.committedBrowserEventCursor + 2 ∉ state.commits.above := fun member => by
      have := missing _ member
      unfold committedBrowserEventCursor at this
      omega
    have level := waiting.level
    unfold committedBrowserEventCursor at level
    have advanced := state.commits.record_succ_low absent
    rw [replicate_succ, flatten_cons, runFrom_append,
      progressCycle_eq waiting queued absent, Option.bind_some, ih]
    · simp [caughtUp, range'_succ, Nat.add_assoc, Nat.add_comm 1]
    · refine ⟨waiting.stands, waiting.empty, ?_, waiting.ended⟩
      show state.nextSequence + 1 = (state.commits.record state.nextSequence).low + 1
      rw [level, advanced.1]
    · rfl
    · show ∀ n ∈ (state.commits.record state.nextSequence).above,
        (state.commits.record state.nextSequence).low + count + 1 < n
      rw [level, advanced.1, advanced.2]
      intro n member
      have := missing n member
      omega

/-- A listener of generation 2 is announced and the worker waits. -/
def listeningRun : List (BrowserEventAction Unit) :=
  [.enqueueDownload () 2 (.downloadRuntime .default), .meter (), .send (), .drain,
    .receiveCritical, .insert, .drain, .apply "", .clearLatch, .commitApplied, .drain]

def listening : BrowserEventState Unit :=
  (oneCallback.runFrom initial listeningRun).getD initial

theorem runFrom_listeningRun : oneCallback.runFrom initial listeningRun = some listening := rfl

/-- In-progress download progress of a listener that is current. -/
def liveProgress (generation sequence : Nat) : BrowserSessionEvent :=
  { browserSequence := sequence, generation := generation,
    body := .downloadProgress "live" .inProgress 0 none none }

/-- A progress event is allocated and refused. -/
def refusing (state : BrowserEventState Unit) (event : BrowserSessionEvent) :
    BrowserEventState Unit :=
  { state.countDrop with
    nextBrowserEventSequence := event.browserSequence
    history := { state.history with overflowed := state.history.overflowed ++ [event] } }

/-- What is left of a state after a refused progress event sent its marker. -/
def marked (state : BrowserEventState Unit) (generation : Nat) : BrowserEventState Unit :=
  let event := liveProgress generation (state.nextBrowserEventSequence + 1)
  { (state.refusing event).enterCritical (overflowMarker event) with
    latch := ⟨true, generation, event.browserSequence⟩ }

def markedCalls (generation : Nat) : List (BrowserEventAction Unit) :=
  [.enqueueDownload () generation (liveProgress generation 0).body, .trySend (), .overflow ()]

theorem runFrom_marked (generation : Nat) (quiet : CallsIdle state)
    (progressOpen : state.progressOpen = true) (criticalOpen : state.criticalOpen = true)
    (full : progressCapacity ≤ state.progress.length)
    (emits : shouldEmitProgressOverflowMarker state.latch generation state.reopen = true) :
    (browserEventSystem Unit progressCapacity).runFrom state (markedCalls generation) =
      some (state.marked generation) := by
  have refused : ¬ state.progress.length < progressCapacity := by omega
  simp [markedCalls, runFrom, browserEventSystem, step, quiet.idle, quiet.free,
    liveProgress, isDownloadCall, moveCall, allocateBrowserEvent,
    usesBoundedProgressIngress, trySend, progressOpen, refused, overflow, sendMarker, countDrop,
    emits, criticalOpen, finishCall, enterCritical, marked, refusing]

/-- The bounded channel is full, a progress event of generation 2 was refused, and the worker
has applied what was queued before it. -/
def flooded : BrowserEventState Unit :=
  ((listening.filled browserEventProgressIngressLimit).marked 2).caughtUp
    browserEventProgressIngressLimit []

theorem flood_waiting : Waiting ((listening.filled browserEventProgressIngressLimit).marked 2) :=
  ⟨rfl, rfl, rfl, by decide⟩

theorem flooded_reachable : oneCallback.Reachable flooded := by
  have idle : CallsIdle listening := ⟨rfl, rfl⟩
  have start : oneCallback.Reachable listening :=
    ⟨listeningRun, runFrom_listeningRun⟩
  have full := start.runFrom _ (runFrom_fillCalls browserEventProgressIngressLimit listening idle
    rfl le_rfl)
  have refused := full.runFrom _ (runFrom_marked 2 ⟨rfl, rfl⟩ rfl rfl (by simp [filled]) rfl)
  refine refused.runFrom _ (runFrom_progressCycles browserEventProgressIngressLimit _
    flood_waiting [] ?_ ?_)
  · show [] ++ (range' 2 browserEventProgressIngressLimit).map staleProgress =
      (range' 2 browserEventProgressIngressLimit).map staleProgress ++ []
    rw [nil_append, append_nil]
  · have none : listening.commits.above = ∅ := rfl
    show ∀ n ∈ listening.commits.above, _
    simp [none]

theorem caughtUp_cursor (waiting : Waiting state) (count : Nat) (rest : List BrowserSessionEvent)
    (none : state.commits.above = ∅) :
    (state.caughtUp count rest).committedBrowserEventCursor =
      state.committedBrowserEventCursor + count := by
  have level := waiting.level
  unfold committedBrowserEventCursor at level
  have applied := (state.commits.foldl_record_range' count (by simp [none])).1
  rw [← level] at applied
  exact applied

theorem caughtUp_applied (state : BrowserEventState Unit) (count : Nat)
    (rest : List BrowserSessionEvent) :
    (state.caughtUp count rest).history.applied.map BrowserSessionEvent.browserSequence =
      state.history.applied.map BrowserSessionEvent.browserSequence ++
        range' state.nextSequence count := by
  simp [caughtUp, Function.comp_def, staleProgress]

theorem flooded_applied_in_order :
    oneCallback.Reachable flooded ∧
      (flooded.history.applied.map BrowserSessionEvent.browserSequence).Pairwise (· < ·) ∧
      flooded.history.lost = [] := by
  have results := browser_events_applied_once_in_order flooded_reachable
  exact ⟨flooded_reachable, results.1, results.2.2.2.2.2 (by decide)⟩

/-- Neither a refused progress event whose marker is queued nor a shutdown is as the plain
reading has it: the cursor waits for the marker, and what is queued at a shutdown is lost. -/
theorem cursor_waits_for_marker :
    (∃ state, oneCallback.Reachable state ∧
      state.calls = (fun _ => .idle) ∧ state.worker = .receiving ∧
      ¬ IsGreatest {c | ∀ n, 0 < n → n ≤ c →
          n ∈ state.history.applied.map BrowserSessionEvent.browserSequence ∨
          n ∈ state.history.overflowed.map BrowserSessionEvent.browserSequence ∨
          n ∈ state.history.dropped} state.committedBrowserEventCursor) ∧
      ∃ state, oneCallback.Reachable state ∧
        ∃ event ∈ state.history.entered,
          event ∉ state.inFlight ∧ event ∉ state.history.applied := by
  refine ⟨⟨flooded, flooded_reachable, rfl, rfl, fun greatest => ?_⟩,
    ⟨_, ⟨listeningRun.take 4 ++ [.shutdown, .closeCritical], rfl⟩, ?_⟩⟩
  · have longer : browserEventProgressIngressLimit + 2 ≤ flooded.committedBrowserEventCursor := by
      refine greatest.2 fun n positive within => ?_
      have applied := caughtUp_applied
        ((listening.filled browserEventProgressIngressLimit).marked 2)
        browserEventProgressIngressLimit []
      by_cases last : n = browserEventProgressIngressLimit + 2
      · exact .inr (.inl (by rw [last]; decide))
      · refine .inl ?_
        unfold flooded
        rw [applied]
        show n ∈ [1] ++ List.range' 2 browserEventProgressIngressLimit
        rw [List.mem_append, List.mem_singleton, List.mem_range'_1]
        omega
    have cursor : flooded.committedBrowserEventCursor = 1 + browserEventProgressIngressLimit :=
      caughtUp_cursor flood_waiting browserEventProgressIngressLimit [] rfl
    omega
  · refine ⟨_, List.mem_singleton_self _, ?_, ?_⟩
    · decide
    · decide

end Rub.BrowserEventState
