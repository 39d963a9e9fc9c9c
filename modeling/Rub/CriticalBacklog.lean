import Rub.BrowserEventOrder

/-!
The pending count of the unbounded channel. A call counts its event before it sends it and the
worker takes it off when it receives it; the marker of a refused progress event is sent without
being counted, and what is queued when the receiver is dropped stays counted.
-/

namespace Rub

open Function

/-- The call has counted an event that is not in the channel. -/
def EnqueuePhase.counted : EnqueuePhase → Bool
  | .metered _ _ => true
  | .closed _ wasCounted _ => wasCounted
  | _ => false

namespace BrowserEventState

variable {Id : Type} [DecidableEq Id] {progressCapacity : Nat}
  {state next : BrowserEventState Id} {action : BrowserEventAction Id}

/-- The step sends a marker, or drops the receiver with events queued. -/
def unbalances (state : BrowserEventState Id) : BrowserEventAction Id → Bool
  | .overflow id =>
    match state.calls id with
    | .overflowing event _ =>
      shouldEmitProgressOverflowMarker state.latch event.generation state.reopen &&
        state.criticalOpen
    | _ => false
  | .closeCritical => !state.critical.isEmpty
  | _ => false

def Balanced (state : BrowserEventState Id) (action : BrowserEventAction Id) : Prop :=
  state.unbalances action = false

instance (state : BrowserEventState Id) (action : BrowserEventAction Id) :
    Decidable (Balanced state action) := inferInstanceAs (Decidable (_ = false))

/-- The count is that of the queued events and of the calls that have counted theirs. -/
def CountedBy (state : BrowserEventState Id) (busy : Finset Id) : Prop :=
  (∀ id, id ∈ busy ↔ (state.calls id).counted = true) ∧
    state.telemetry.criticalPendingCount = state.critical.length + busy.card

@[simp] theorem criticalPendingCount_enqueued (telemetry : BrowserEventIngressTelemetry) :
    (recordCriticalBrowserEventEnqueued telemetry).criticalPendingCount =
      telemetry.criticalPendingCount + 1 := by
  unfold recordCriticalBrowserEventEnqueued
  dsimp only
  split <;> rfl

variable {busy : Finset Id} {id : Id} {phase : EnqueuePhase}

/-- A call that stays counted, or stays uncounted, leaves the busy calls as they are. -/
theorem CountedBy.move (counted : CountedBy state busy)
    (calls : next.calls = update state.calls id phase)
    (same : phase.counted = (state.calls id).counted)
    (telemetry : next.telemetry.criticalPendingCount = state.telemetry.criticalPendingCount)
    (critical : next.critical = state.critical) : CountedBy next busy := by
  refine ⟨fun other => ?_, by rw [telemetry, critical, counted.2]⟩
  rw [counted.1, calls]
  by_cases own : other = id
  · rw [own, update_self, same]
  · rw [update_of_ne own]

/-- A call that has counted its event passes it on or takes it back. -/
theorem CountedBy.leave (counted : CountedBy state busy)
    (calls : next.calls = update state.calls id phase)
    (before : (state.calls id).counted = true) (after : phase.counted = false)
    (total : next.telemetry.criticalPendingCount + state.critical.length + 1 =
      state.telemetry.criticalPendingCount + next.critical.length) :
    CountedBy next (busy.erase id) := by
  have member : id ∈ busy := (counted.1 id).mpr before
  have positive := Finset.card_pos.mpr ⟨id, member⟩
  refine ⟨fun other => ?_, ?_⟩
  · rw [Finset.mem_erase, counted.1, calls]
    by_cases own : other = id
    · simp [own, after]
    · simp [own]
  · rw [Finset.card_erase_of_mem member]
    have := counted.2
    omega

theorem countedBy_step (counted : CountedBy state busy) (balanced : Balanced state action)
    (taken : EventStep progressCapacity state action next) : ∃ busy, CountedBy next busy := by
  cases taken with
  | allocate id _ _ stands | enqueueCoordinated id _ stands | enqueueUncoordinated id _ stands
  | enqueueDownload id _ _ stands | sentProgress id _ _ stands | refused id _ _ stands
  | progressClosed id _ _ stands | unmarked id _ _ stands | criticalClosed id _ _ stands
  | commit id _ _ stands => exact ⟨busy, counted.move rfl (by rw [stands]; rfl) rfl rfl⟩
  | marked id event held stands emits isOpen =>
    simp [Balanced, unbalances, stands, emits, isOpen] at balanced
  | meter id event held stands =>
    refine ⟨insert id busy, fun other => ?_, ?_⟩
    · rw [Finset.mem_insert, counted.1]
      show _ ↔ (update state.calls id _ other).counted = true
      by_cases own : other = id
      · simp [own, EnqueuePhase.counted]
      · simp [own]
    · have fresh : id ∉ busy := by simp [counted.1, stands, EnqueuePhase.counted]
      rw [Finset.card_insert_of_notMem fresh]
      show (recordCriticalBrowserEventEnqueued state.telemetry).criticalPendingCount = _
      rw [criticalPendingCount_enqueued, counted.2, Nat.add_assoc]
      rfl
  | sentCritical id event held stands =>
    refine ⟨_, counted.leave rfl (by rw [stands]; rfl) rfl ?_⟩
    simp [finishCall, enterCritical, moveCall, Nat.add_assoc]
  | abandon id event metered held stands =>
    cases metered with
    | false => exact ⟨busy, counted.move rfl (by rw [stands]; rfl) rfl rfl⟩
    | true =>
      have before : (state.calls id).counted = true := by rw [stands]; rfl
      refine ⟨_, counted.leave rfl before rfl ?_⟩
      have positive := Finset.card_pos.mpr ⟨id, (counted.1 id).mpr before⟩
      have total := counted.2
      show state.telemetry.criticalPendingCount - 1 + state.critical.length + 1 =
        state.telemetry.criticalPendingCount + state.critical.length
      omega
  | receiveCritical event rest stands queued =>
    have total := counted.2
    rw [queued, List.length_cons] at total
    refine ⟨busy, counted.1, ?_⟩
    show state.telemetry.criticalPendingCount - 1 = rest.length + busy.card
    omega
  | closeCritical stands =>
    have empty : state.critical = [] := by simpa [Balanced, unbalances] using balanced
    refine ⟨busy, counted.1, ?_⟩
    rw [← List.length_eq_zero_iff] at empty
    show state.telemetry.criticalPendingCount = 0 + busy.card
    rw [counted.2, empty]
  | _ => exact ⟨busy, counted⟩

/-- In every run that sends no overflow marker and drops the receiver of the unbounded channel
only when it is empty, the pending count is the number of queued events whenever no call is
between counting its event and sending it or taking it back. -/
theorem critical_backlog_exact {actions : List (BrowserEventAction Id)}
    (balanced : (browserEventSystem Id progressCapacity).Along Balanced initial actions)
    (run : (browserEventSystem Id progressCapacity).runFrom initial actions = some state)
    (settled : ∀ id, (state.calls id).counted = false) :
    state.telemetry.criticalPendingCount = state.critical.length := by
  have start : ∃ busy, CountedBy (initial : BrowserEventState Id) busy :=
    ⟨∅, fun _ => by simp [initial, EnqueuePhase.counted], rfl⟩
  have preserved : ∀ (current : BrowserEventState Id) action next,
      (∃ busy, CountedBy current busy) → Balanced current action →
      step progressCapacity current action = some next → ∃ busy, CountedBy next busy := by
    rintro _ _ _ ⟨_, counted⟩ allowed taken
    exact countedBy_step counted allowed (step_cases taken)
  obtain ⟨busy, idle, total⟩ := (browserEventSystem Id progressCapacity).runFrom_preserves_along
    preserved start balanced run
  have none_busy : busy = ∅ := Finset.eq_empty_of_forall_notMem fun id member => by
    have counted := (idle id).mp member
    rw [settled id] at counted
    cases counted
  rw [total, none_busy, Finset.card_empty, Nat.add_zero]

def dialogCalls : List (BrowserEventAction Unit) :=
  [.allocate () 1 (.dialogClosed true ""), .enqueue (), .meter (), .send ()]

/-- A dialog event that waits for the worker. -/
theorem queued_dialog_counted :
    ∃ state, oneCallback.runFrom initial
        dialogCalls = some state ∧
      state.critical.length = 1 ∧
      state.telemetry.criticalPendingCount = state.critical.length := by
  have balanced : oneCallback.Along Balanced initial
    dialogCalls := by decide
  exact ⟨_, rfl, rfl, critical_backlog_exact balanced rfl fun _ => rfl⟩

/-- The marker of a refused progress event waits in the channel uncounted. -/
theorem queued_marker_uncounted :
    ∃ state, oneCallback.Reachable state ∧
      state.calls = (fun _ => .idle) ∧ state.worker = .receiving ∧ state.critical.length = 1 ∧
      state.telemetry.criticalPendingCount = 0 :=
  ⟨flooded, flooded_reachable, rfl, rfl, rfl, rfl⟩

end BrowserEventState

end Rub
