import Rub.BrowserEvents

namespace Rub.BrowserEventState

variable {Id : Type} [DecidableEq Id] {progressCapacity : Nat}

/-- Everything one step of a call or of the worker can do. -/
inductive EventStep (progressCapacity : Nat) (state : BrowserEventState Id) :
    BrowserEventAction Id → BrowserEventState Id → Prop where
  | allocate (id) (generation : Nat) (body : BrowserSessionEventBody)
      (stands : state.calls id = .idle) :
      EventStep progressCapacity state (.allocate id generation body)
        { state.moveCall id (.allocated (state.allocateBrowserEvent generation body)) with
          nextBrowserEventSequence := state.nextBrowserEventSequence + 1 }
  | enqueueCoordinated (id event) (stands : state.calls id = .allocated event)
      (needs : event.body.requiresDownloadProgressCoordination = true)
      (free : state.coordination = none) :
      EventStep progressCapacity state (.enqueue id)
        { state.moveCall id (.sending event true) with coordination := some id }
  | enqueueUncoordinated (id event) (stands : state.calls id = .allocated event)
      (needs : event.body.requiresDownloadProgressCoordination = false) :
      EventStep progressCapacity state (.enqueue id) (state.moveCall id (.sending event false))
  | enqueueDownload (id) (generation : Nat) (body) (stands : state.calls id = .idle)
      (free : state.coordination = none) (download : body.isDownloadCall = true) :
      EventStep progressCapacity state (.enqueueDownload id generation body)
        { state.moveCall id (.sending (state.allocateBrowserEvent generation body) true) with
          nextBrowserEventSequence := state.nextBrowserEventSequence + 1
          coordination := some id }
  | sentProgress (id event held) (stands : state.calls id = .sending event held)
      (bounded : event.body.usesBoundedProgressIngress = true)
      (isOpen : state.progressOpen = true) (room : state.progress.length < progressCapacity) :
      EventStep progressCapacity state (.trySend id)
        ((state.finishCall id held).enterProgress event)
  | refused (id event held) (stands : state.calls id = .sending event held)
      (bounded : event.body.usesBoundedProgressIngress = true)
      (isOpen : state.progressOpen = true) (full : progressCapacity ≤ state.progress.length) :
      EventStep progressCapacity state (.trySend id)
        { state.moveCall id (.overflowing event held) with
          history := { state.history with overflowed := state.history.overflowed ++ [event] } }
  | progressClosed (id event held) (stands : state.calls id = .sending event held)
      (bounded : event.body.usesBoundedProgressIngress = true)
      (isClosed : state.progressOpen = false) :
      EventStep progressCapacity state (.trySend id)
        (state.dropSequence id (.closed event false held) event.browserSequence)
  | marked (id event held) (stands : state.calls id = .overflowing event held)
      (emits : shouldEmitProgressOverflowMarker state.latch event.generation state.reopen = true)
      (isOpen : state.criticalOpen = true) :
      EventStep progressCapacity state (.overflow id) (state.sendMarker id event held)
  | unmarked (id event held) (stands : state.calls id = .overflowing event held)
      (quiet : shouldEmitProgressOverflowMarker state.latch event.generation state.reopen = false ∨
        state.criticalOpen = false) :
      EventStep progressCapacity state (.overflow id) (state.dropRefused id event held)
  | meter (id event held) (stands : state.calls id = .sending event held)
      (unbounded : event.body.usesBoundedProgressIngress = false) :
      EventStep progressCapacity state (.meter id) (state.meter id event held)
  | sentCritical (id event held) (stands : state.calls id = .metered event held)
      (isOpen : state.criticalOpen = true) :
      EventStep progressCapacity state (.send id)
        ((state.finishCall id held).enterCritical event)
  | criticalClosed (id event held) (stands : state.calls id = .metered event held)
      (isClosed : state.criticalOpen = false) :
      EventStep progressCapacity state (.send id)
        (state.dropSequence id (.closed event true held) event.browserSequence)
  | abandon (id event metered held) (stands : state.calls id = .closed event metered held) :
      EventStep progressCapacity state (.abandon id) (state.abandon id event metered held)
  | commit (id sequence held) (stands : state.calls id = .committing sequence held) :
      EventStep progressCapacity state (.commit id)
        ((state.finishCall id held).recordBrowserEventCommit sequence)
  | drained (next) (stands : state.worker = .draining)
      (chosen : next = max state.nextSequence (state.committedBrowserEventCursor + 1)) :
      EventStep progressCapacity state .drain
        { state with nextSequence := next, worker := .receiving }
  | ready (next event) (stands : state.worker = .draining)
      (chosen : next = max state.nextSequence (state.committedBrowserEventCursor + 1))
      (member : event ∈ state.pending) (expected : event.browserSequence = next) :
      EventStep progressCapacity state .drain
        { state with
          nextSequence := next
          pending := removePending state.pending next
          worker := .applying event }
  | apply (now : String) (event) (stands : state.worker = .applying event) :
      EventStep progressCapacity state (.apply now) (state.applyEvent now event)
  | clearLatch (sequence clear) (stands : state.worker = .clearing sequence clear)
      (free : state.coordination = none) :
      EventStep progressCapacity state .clearLatch (state.clearLatch sequence clear)
  | commitApplied (sequence) (stands : state.worker = .committing sequence) :
      EventStep progressCapacity state .commitApplied (state.commitApplied sequence)
  | receiveCritical (event rest) (stands : state.worker = .receiving)
      (queued : state.critical = event :: rest) :
      EventStep progressCapacity state .receiveCritical (state.receiveCritical event rest)
  | receiveProgress (event rest) (stands : state.worker = .receiving)
      (queued : state.progress = event :: rest) :
      EventStep progressCapacity state .receiveProgress (state.receiveProgress event rest)
  | insertStale (event) (stands : state.worker = .inserting event)
      (stale : event.browserSequence ≤ state.committedBrowserEventCursor) :
      EventStep progressCapacity state .insert
        { state with
          worker := .draining
          history := { state.history with lost := state.history.lost ++ [event] } }
  | insert (event) (stands : state.worker = .inserting event)
      (fresh : state.committedBrowserEventCursor < event.browserSequence) :
      EventStep progressCapacity state .insert
        { state with worker := .draining, pending := insertPending state.pending event }
  | shutdown (stands : state.worker = .receiving ∨ ∃ event, state.worker = .applying event) :
      EventStep progressCapacity state .shutdown state.stop
  | closeCritical (stands : state.worker = .stopped) :
      EventStep progressCapacity state .closeCritical state.closeCritical
  | closeProgress (stands : state.worker = .stopped) :
      EventStep progressCapacity state .closeProgress state.closeProgress

variable {state next : BrowserEventState Id} {event : BrowserSessionEvent} {held : Bool} {id : Id}

theorem trySend_cases (stands : state.calls id = .sending event held)
    (bounded : event.body.usesBoundedProgressIngress = true) :
    EventStep progressCapacity state (.trySend id)
      (state.trySend progressCapacity id event held) := by
  unfold trySend
  split
  · split
    · exact .sentProgress id event held stands bounded ‹_› ‹_›
    · exact .refused id event held stands bounded ‹_› (by omega)
  · exact .progressClosed id event held stands bounded (Bool.eq_false_of_not_eq_true ‹_›)

theorem overflow_cases (stands : state.calls id = .overflowing event held) :
    EventStep progressCapacity state (.overflow id) (state.overflow id event held) := by
  unfold overflow
  split
  · rename_i emits
    exact .marked id event held stands emits.1 emits.2
  · rename_i quiet
    refine .unmarked id event held stands ?_
    rw [not_and_or, Bool.not_eq_true, Bool.not_eq_true] at quiet
    exact quiet

theorem send_cases (stands : state.calls id = .metered event held) :
    EventStep progressCapacity state (.send id) (state.send id event held) := by
  unfold send
  split
  · exact .sentCritical id event held stands ‹_›
  · exact .criticalClosed id event held stands (Bool.eq_false_of_not_eq_true ‹_›)

theorem drain_cases (stands : state.worker = .draining) :
    EventStep progressCapacity state .drain state.drain := by
  unfold drain
  dsimp only
  split
  · exact .drained _ stands rfl
  · rename_i event found
    exact .ready _ event stands rfl (List.mem_of_find?_eq_some found)
      (by simpa using List.find?_some found)

theorem insert_cases (stands : state.worker = .inserting event) :
    EventStep progressCapacity state .insert (state.insertPendingBrowserEvent event) := by
  unfold insertPendingBrowserEvent
  split
  · exact .insertStale event stands ‹_›
  · exact .insert event stands (by omega)

theorem step_cases {action : BrowserEventAction Id}
    (taken : step progressCapacity state action = some next) :
    EventStep progressCapacity state action next := by
  cases action <;> simp only [step] at taken <;> (repeat' split at taken) <;> cases taken
  · exact .allocate _ _ _ ‹_›
  · exact .enqueueCoordinated _ _ ‹_› ‹_› ‹_›
  · exact .enqueueUncoordinated _ _ ‹_› (Bool.eq_false_of_not_eq_true ‹_›)
  · exact .enqueueDownload _ _ _ ‹_› ‹_› ‹_›
  · exact trySend_cases ‹_› ‹_›
  · exact overflow_cases ‹_›
  · exact .meter _ _ _ ‹_› (Bool.eq_false_of_not_eq_true ‹_›)
  · exact send_cases ‹_›
  · exact .abandon _ _ _ _ ‹_›
  · exact .commit _ _ _ ‹_›
  · exact drain_cases ‹_›
  · exact .apply _ _ ‹_›
  · exact .clearLatch _ _ ‹_› ‹_›
  · exact .commitApplied _ ‹_›
  · exact .receiveCritical _ _ ‹_› ‹_›
  · exact .receiveProgress _ _ ‹_› ‹_›
  · exact insert_cases ‹_›
  · exact .shutdown (.inl ‹_›)
  · exact .shutdown (.inr ⟨_, ‹_›⟩)
  · exact .closeCritical ‹_›
  · exact .closeProgress ‹_›

end Rub.BrowserEventState
