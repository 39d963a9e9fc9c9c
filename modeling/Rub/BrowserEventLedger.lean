import Rub.BrowserEventStep
import Rub.SequenceLedger

/-!
The ingress keeps a ledger of its browser sequences: which call has drawn one, which events
are under way, applied or lost, and which sequences were dropped. Every step of the ingress
is a step of that ledger.
-/

namespace Rub

open Function List WorkerPhase BrowserSessionEvent

/-- The sequence of a call whose event has not yet gone anywhere. -/
def EnqueuePhase.owned : EnqueuePhase → Option Nat
  | .allocated event | .sending event _ | .overflowing event _ | .metered event _ =>
    some event.browserSequence
  | _ => none

/-- The sequence a call has dropped and not yet recorded as committed. -/
def EnqueuePhase.owed : EnqueuePhase → Option Nat
  | .closed event _ _ => some event.browserSequence
  | .committing sequence _ => some sequence
  | _ => none

/-- The sequence the worker has applied and not yet recorded as committed. -/
def WorkerPhase.owed : WorkerPhase → Option Nat
  | .clearing sequence _ | .committing sequence => some sequence
  | _ => none

namespace BrowserEventState

variable {Id : Type} [DecidableEq Id] {progressCapacity : Nat}

/-- The events that went into a channel and have not been applied. -/
def inFlight (state : BrowserEventState Id) : List BrowserSessionEvent :=
  state.critical ++ state.progress ++ (state.worker.holding ++ state.pending)

def ledger (state : BrowserEventState Id) : SequenceLedger Id BrowserSessionEvent :=
  { allocated := state.nextBrowserEventSequence
    owned := fun id => (state.calls id).owned
    owed := fun id => (state.calls id).owed
    entered := state.history.entered
    inFlight := state.inFlight
    settled := state.history.applied
    lost := state.history.lost
    givenUp := state.history.dropped
    consumerOwed := state.worker.owed
    recorded := state.commits }

abbrev LedgerStep : SequenceLedger Id BrowserSessionEvent →
    SequenceLedger Id BrowserSessionEvent → Prop :=
  SequenceLedger.Step BrowserSessionEvent.browserSequence

abbrev LedgerSound : SequenceLedger Id BrowserSessionEvent → Prop :=
  SequenceLedger.Sound BrowserSessionEvent.browserSequence

variable {event : BrowserSessionEvent} {pending : List BrowserSessionEvent}

theorem removePending_eq_self {sequence : Nat} (absent : sequence ∉ pending.map browserSequence) :
    removePending pending sequence = pending := by
  refine filter_eq_self.mpr fun other present => ?_
  have different : other.browserSequence ≠ sequence := fun same =>
    absent (same ▸ mem_map_of_mem present)
  simpa using different

theorem insertPending_eq (absent : event.browserSequence ∉ pending.map browserSequence) :
    insertPending pending event = event :: pending :=
  congrArg (event :: ·) (removePending_eq_self absent)

theorem removePending_perm (distinct : (pending.map browserSequence).Nodup)
    (member : event ∈ pending) :
    pending.Perm (event :: removePending pending event.browserSequence) := by
  induction pending with
  | nil => cases member
  | cons head tail ih =>
    rw [map_cons, nodup_cons] at distinct
    rcases mem_cons.mp member with rfl | member
    · have skipped : removePending (event :: tail) event.browserSequence =
          removePending tail event.browserSequence := by simp [removePending]
      rw [skipped, removePending_eq_self distinct.1]
    · have different : head.browserSequence ≠ event.browserSequence := fun same =>
        distinct.1 (same ▸ mem_map_of_mem member)
      have rest := ih distinct.2 member
      simp only [removePending, filter_cons, different, ne_eq, not_false_eq_true,
        decide_true, ite_true]
      exact (rest.cons head).trans (List.Perm.swap ..)

variable {state : BrowserEventState Id} {id : Id} {phase : EnqueuePhase}

theorem ledger_moveCall (state : BrowserEventState Id) (id : Id) (phase : EnqueuePhase) :
    (state.moveCall id phase).ledger = { state.ledger with
        owned := update state.ledger.owned id phase.owned
        owed := update state.ledger.owed id phase.owed } := by
  have owned : (fun other => (update state.calls id phase other).owned) =
      update state.ledger.owned id phase.owned :=
    funext (Function.apply_update (fun _ => EnqueuePhase.owned) state.calls id phase)
  have owed : (fun other => (update state.calls id phase other).owed) =
      update state.ledger.owed id phase.owed :=
    funext (Function.apply_update (fun _ => EnqueuePhase.owed) state.calls id phase)
  rw [← owned, ← owed]
  rfl

theorem ledger_moveCall_same (owned : phase.owned = (state.calls id).owned)
    (owed : phase.owed = (state.calls id).owed) :
    (state.moveCall id phase).ledger = state.ledger := by
  rw [ledger_moveCall, owned, owed]
  show { state.ledger with
    owned := update state.ledger.owned id (state.ledger.owned id)
    owed := update state.ledger.owed id (state.ledger.owed id) } = state.ledger
  rw [update_eq_self, update_eq_self]

variable {next : BrowserEventState Id}

/-- The event of a call goes into a channel, possibly as its overflow marker. -/
theorem ledgerStep_enter (owned : (state.calls id).owned = some event.browserSequence)
    (owed : (state.calls id).owed = none) (added : next.inFlight.Perm (event :: state.inFlight))
    (same : next.ledger = { (state.moveCall id .idle).ledger with
      entered := state.history.entered ++ [event], inFlight := next.inFlight }) :
    LedgerStep state.ledger next.ledger := by
  have unowed : update state.ledger.owed id none = state.ledger.owed := by
    rw [← owed]
    exact update_eq_self id state.ledger.owed
  rw [same, ledger_moveCall]
  show LedgerStep state.ledger { state.ledger with
    owned := update state.ledger.owned id none
    owed := update state.ledger.owed id none
    entered := state.ledger.entered ++ [event]
    inFlight := next.inFlight }
  rw [unowed]
  exact .enter id event next.inFlight owned added

theorem ledgerStep_drop {sequence : Nat} (owned : (state.calls id).owned = some sequence)
    (owed : (state.calls id).owed = none) (drops : phase.owned = none)
    (owes : phase.owed = some sequence) :
    LedgerStep state.ledger (state.dropSequence id phase sequence).ledger := by
  have shape : (state.dropSequence id phase sequence).ledger =
      { (state.moveCall id phase).ledger with
        givenUp := state.ledger.givenUp ++ [sequence] } := rfl
  rw [shape, ledger_moveCall, drops, owes]
  exact .giveUp id sequence owned owed

theorem ledgerStep_commit {sequence : Nat} {held : Bool}
    (stands : state.calls id = .committing sequence held) :
    LedgerStep state.ledger
      ((state.finishCall id held).recordBrowserEventCommit sequence).ledger := by
  have owned : update state.ledger.owned id none = state.ledger.owned := by
    have free : state.ledger.owned id = none := by simp [ledger, stands, EnqueuePhase.owned]
    rw [← free]
    exact update_eq_self id state.ledger.owned
  have shape : ((state.finishCall id held).recordBrowserEventCommit sequence).ledger =
      { (state.moveCall id .idle).ledger with
        recorded := state.ledger.recorded.record sequence } := rfl
  rw [shape, ledger_moveCall]
  show LedgerStep state.ledger { state.ledger with
    owned := update state.ledger.owned id none
    owed := update state.ledger.owed id none
    recorded := state.ledger.recorded.record sequence }
  rw [owned]
  exact .record id sequence (by simp [ledger, stands, EnqueuePhase.owed])

theorem ledgerStep_of_eq (same : next.ledger = state.ledger) :
    LedgerStep state.ledger next.ledger := by
  rw [same]
  exact .move state.ledger.inFlight (List.Perm.refl _)

/-- A call moves on with its sequence. -/
theorem ledgerStep_stay (id : Id) (phase : EnqueuePhase)
    (owned : phase.owned = (state.calls id).owned) (owed : phase.owed = (state.calls id).owed)
    (same : next.ledger = (state.moveCall id phase).ledger) :
    LedgerStep state.ledger next.ledger :=
  ledgerStep_of_eq (same.trans (ledger_moveCall_same owned owed))

theorem ledgerStep_allocate (id : Id)
    (owned : phase.owned = some (state.nextBrowserEventSequence + 1)) (owed : phase.owed = none)
    (stands : state.calls id = .idle) (same : next.ledger = { (state.moveCall id phase).ledger with
      allocated := state.nextBrowserEventSequence + 1 }) :
    LedgerStep state.ledger next.ledger := by
  have unowed : update state.ledger.owed id none = state.ledger.owed := by
    have free : state.ledger.owed id = none := by simp [ledger, stands, EnqueuePhase.owed]
    rw [← free]
    exact update_eq_self id state.ledger.owed
  rw [same, ledger_moveCall, owned, owed]
  show LedgerStep state.ledger { state.ledger with
    allocated := state.ledger.allocated + 1
    owned := update state.ledger.owned id (some (state.ledger.allocated + 1))
    owed := update state.ledger.owed id none }
  rw [unowed]
  exact .draw id

theorem ledgerStep_move (moved : next.inFlight.Perm state.inFlight)
    (same : next.ledger = { state.ledger with inFlight := next.inFlight }) :
    LedgerStep state.ledger next.ledger := by
  rw [same]
  exact .move next.inFlight moved

section

variable (sound : LedgerSound state.ledger)

include sound

omit [DecidableEq Id] in
/-- What the worker has in its hands and in `pending` has distinct sequences. -/
theorem nodup_worker : ((state.worker.holding ++ state.pending).map browserSequence).Nodup := by
  have distinct := (nodup_append.mp sound.placed.distinct).1
  have flying : (state.inFlight.map browserSequence).Nodup := by
    simp only [map_append, append_assoc] at distinct
    exact (nodup_append.mp distinct).1
  unfold inFlight at flying
  rw [map_append] at flying
  exact (nodup_append.mp flying).2.1

theorem ledgerStep_ready (stands : state.worker = .draining)
    (member : event ∈ state.pending) (next : Nat) (expected : event.browserSequence = next) :
    LedgerStep state.ledger ({ state with
        nextSequence := next
        pending := removePending state.pending next
        worker := .applying event } : BrowserEventState Id).ledger := by
  have distinct := nodup_worker sound
  simp only [stands, holding, nil_append] at distinct
  have taken := removePending_perm distinct member
  rw [expected] at taken
  apply ledgerStep_move
  · simp only [inFlight, stands, holding, nil_append, singleton_append]
    exact taken.symm.append_left _
  · simp [ledger, stands, owed]

theorem ledgerStep_insert (stands : state.worker = .inserting event) : LedgerStep state.ledger
      ({ state with
        worker := .draining
        pending := insertPending state.pending event } : BrowserEventState Id).ledger := by
  have distinct := nodup_worker sound
  simp only [stands, holding, singleton_append, map_cons, nodup_cons] at distinct
  apply ledgerStep_of_eq
  simp [ledger, inFlight, stands, holding, owed, insertPending_eq distinct.1]

end

theorem ledgerStep_apply (now : String) (stands : state.worker = .applying event) :
    LedgerStep state.ledger (state.applyEvent now event).ledger := by
  have worker : (state.applyEvent now event).worker.holding = [] ∧
      (state.applyEvent now event).worker.owed = some event.browserSequence := by
    unfold applyEvent
    dsimp only
    cases (applyBrowserSessionEvent state.runtimes now event).2 <;> exact ⟨rfl, rfl⟩
  have shape : (state.applyEvent now event).ledger = { state.ledger with
        inFlight := (state.applyEvent now event).inFlight
        settled := state.ledger.settled ++ [event]
        consumerOwed := (state.applyEvent now event).worker.owed } := rfl
  rw [shape, worker.2]
  refine .settle event _ ?_ (by simp [ledger, stands, owed])
  have before : state.inFlight = state.critical ++ state.progress ++ event :: state.pending := by
    simp [inFlight, stands, holding]
  have after : (state.applyEvent now event).inFlight =
      state.critical ++ state.progress ++ state.pending := by
    simp only [inFlight, worker.1, nil_append]
    rfl
  show state.inFlight.Perm _
  rw [before, after]
  exact perm_middle

theorem ledgerStep_lose (items : List BrowserSessionEvent)
    (taken : state.inFlight.Perm (items ++ next.inFlight)) (same : next.ledger =
      { state.ledger with inFlight := next.inFlight, lost := state.ledger.lost ++ items }) :
    LedgerStep state.ledger next.ledger := by
  rw [same]
  exact .lose items next.inFlight taken

omit [DecidableEq Id] in
theorem enterCritical_perm (state : BrowserEventState Id) (event : BrowserSessionEvent) :
    (state.critical ++ [event] ++ state.progress ++ (state.worker.holding ++ state.pending)).Perm
      (event :: state.inFlight) := by
  simp only [inFlight, append_assoc, singleton_append]
  exact perm_middle

omit [DecidableEq Id] in
theorem enterProgress_perm (state : BrowserEventState Id) (event : BrowserSessionEvent) :
    (state.critical ++ (state.progress ++ [event]) ++
      (state.worker.holding ++ state.pending)).Perm (event :: state.inFlight) := by
  have shape : state.critical ++ (state.progress ++ [event]) ++
      (state.worker.holding ++ state.pending) =
      (state.critical ++ state.progress) ++ event :: (state.worker.holding ++ state.pending) := by
    simp
  rw [shape]
  exact perm_middle

theorem ledgerStep_of_step {action : BrowserEventAction Id} (sound : LedgerSound state.ledger)
    (taken : EventStep progressCapacity state action next) :
    LedgerStep state.ledger next.ledger := by
  cases taken with
  | allocate id _ _ stands | enqueueDownload id _ _ stands =>
    exact ledgerStep_allocate id rfl rfl stands rfl
  | enqueueCoordinated id event stands =>
    exact ledgerStep_stay id (.sending event true) (by rw [stands]; rfl) (by rw [stands]; rfl) rfl
  | enqueueUncoordinated id event stands =>
    exact ledgerStep_stay id (.sending event false) (by rw [stands]; rfl) (by rw [stands]; rfl) rfl
  | sentProgress _ event _ stands =>
    exact ledgerStep_enter (by rw [stands]; rfl) (by rw [stands]; rfl)
      (enterProgress_perm state event) rfl
  | refused id event held stands =>
    exact ledgerStep_stay id (.overflowing event held) (by rw [stands]; rfl)
      (by rw [stands]; rfl) rfl
  | progressClosed _ _ _ stands | unmarked _ _ _ stands | criticalClosed _ _ _ stands =>
    exact ledgerStep_drop (by rw [stands]; rfl) (by rw [stands]; rfl) rfl rfl
  | marked _ event _ stands =>
    exact ledgerStep_enter (by rw [stands]; rfl) (by rw [stands]; rfl)
      (enterCritical_perm state (overflowMarker event)) rfl
  | meter id event held stands =>
    exact ledgerStep_stay id (.metered event held) (by rw [stands]; rfl) (by rw [stands]; rfl) rfl
  | sentCritical _ event _ stands =>
    exact ledgerStep_enter (by rw [stands]; rfl) (by rw [stands]; rfl)
      (enterCritical_perm state event) rfl
  | abandon id event _ held stands =>
    exact ledgerStep_stay id (.committing event.browserSequence held) (by rw [stands]; rfl)
      (by rw [stands]; rfl) rfl
  | commit _ _ _ stands => exact ledgerStep_commit stands
  | drained _ stands =>
    apply ledgerStep_of_eq
    simp [ledger, inFlight, stands, holding, owed]
  | ready nextSequence _ stands _ member expected =>
    exact ledgerStep_ready sound stands member nextSequence expected
  | apply now _ stands => exact ledgerStep_apply now stands
  | clearLatch _ _ stands =>
    apply ledgerStep_of_eq
    simp [ledger, clearLatch, inFlight, stands, holding, owed]
  | commitApplied sequence stands =>
    have shape : (state.commitApplied sequence).ledger = { state.ledger with
          consumerOwed := none, recorded := state.ledger.recorded.record sequence } := by
      simp [ledger, commitApplied, recordBrowserEventCommit, inFlight, stands, holding, owed]
    rw [shape]
    exact .recordSettled sequence (by simp [ledger, stands, owed])
  | receiveCritical _ _ stands queued =>
    apply ledgerStep_move
    · simp only [inFlight, receiveCritical, stands, queued, holding, nil_append, cons_append]
      exact perm_middle
    · simp [ledger, receiveCritical, stands, owed]
  | receiveProgress _ _ stands queued =>
    apply ledgerStep_move
    · simp only [inFlight, receiveProgress, stands, queued, holding,
        nil_append, append_assoc, cons_append]
      exact List.Perm.append_left _ perm_middle
    · simp [ledger, receiveProgress, stands, owed]
  | insertStale event stands =>
    apply ledgerStep_lose [event]
    · simp only [inFlight, stands, holding, nil_append, singleton_append]
      exact perm_middle
    · simp [ledger, stands, owed]
  | insert _ stands => exact ledgerStep_insert sound stands
  | shutdown stands =>
    apply ledgerStep_lose (state.worker.holding ++ state.pending)
    · simp only [inFlight, stop, holding, append_nil]
      exact perm_append_comm
    · rcases stands with stands | ⟨event, stands⟩ <;> simp [ledger, stop, stands, owed]
  | closeCritical =>
    apply ledgerStep_lose state.critical
    · simp [inFlight, closeCritical]
    · simp [ledger, closeCritical]
  | closeProgress =>
    apply ledgerStep_lose state.progress
    · simp only [inFlight, closeProgress, append_nil]
      rw [← append_assoc state.progress]
      exact perm_append_comm.append_right _
    · simp [ledger, closeProgress]

end BrowserEventState

end Rub
