import Rub.BrowserEventOrder
import Rub.DownloadAuthority

/-!
A download progress event the bounded ingress refused is not silent: the download runtime is
degraded until a later runtime event of the generation clears it. The overflow latch and the
reopen point together decide whether a refused event gets a marker of its own.
-/

namespace Rub

open Function List TransitionSystem BrowserSessionEventBody DownloadRuntimeState

namespace BrowserSessionEventBody

def isOverflowMarker : BrowserSessionEventBody → Bool
  | .downloadRuntimeDegradedMarker _ => true
  | _ => false

def isDialog : BrowserSessionEventBody → Bool
  | .dialogRuntime _ | .dialogOpened .. | .dialogClosed .. => true
  | _ => false

theorem not_coordinated_of_isDialog {body : BrowserSessionEventBody}
    (dialog : body.isDialog = true) : body.requiresDownloadProgressCoordination = false := by
  cases body <;> first | rfl | cases dialog

end BrowserSessionEventBody

namespace EnqueuePhase

/-- The event of a call that has not yet gone anywhere. -/
def event : EnqueuePhase → Option BrowserSessionEvent
  | .allocated event | .sending event _ | .overflowing event _ | .metered event _ => some event
  | _ => none

def held : EnqueuePhase → Bool
  | .sending _ held | .overflowing _ held | .metered _ held | .closed _ _ held
  | .committing _ held => held
  | _ => false

end EnqueuePhase

/-- What applying an event does to the authority of the download runtime. -/
structure AuthorityEffect (before : DownloadRuntimeState) (event : BrowserSessionEvent)
    (after : DownloadRuntimeState) (clear : Option (Nat × Nat)) : Prop where
  later : before.currentGeneration ≤ after.currentGeneration
  sequence : after.runtimeEventSequence ≤ before.runtimeEventSequence ∨
    after.runtimeEventSequence = event.browserSequence
  /-- Within a generation only an applied clear ends a degradation. -/
  degraded : after.currentGeneration = before.currentGeneration →
    before.projection.degradedReason.isSome = true →
      after.projection.degradedReason.isSome = true ∨ clear.isSome = true
  clears : clear.isSome = true → event.body.clearsDegradation = true ∧
    (event.generation = after.currentGeneration ∨ event.generation = 0)
  marks : event.body.isOverflowMarker = true → event.generation < after.currentGeneration ∨
    (after.currentGeneration = event.generation ∧
      after.projection.degradedReason.isSome = true)

variable {before after : DownloadRuntimeState} {event : BrowserSessionEvent}

theorem authorityEffect_same (kept : after.authority = before.authority)
    (unmarked : event.body.isOverflowMarker = false) :
    AuthorityEffect before event after none := by
  simp only [authority, DownloadAuthority.mk.injEq] at kept
  obtain ⟨generation, sequence, degraded⟩ := kept
  exact {
    later := generation.ge
    sequence := .inl sequence.le
    degraded := fun _ reason => .inl (by rwa [degraded])
    clears := by simp
    marks := by simp [unmarked] }

theorem authorityEffect_carried
    (carried : DownloadRuntimeState.Carried before event.generation after)
    (unmarked : event.body.isOverflowMarker = false) :
    AuthorityEffect before event after none := by
  cases carried with
  | same kept => exact authorityEffect_same kept unmarked
  | newer later reset =>
    simp only [authority, DownloadAuthority.mk.injEq] at reset
    obtain ⟨generation, sequence, degraded⟩ := reset
    exact {
      later := by omega
      sequence := .inl (by omega)
      degraded := fun same => by omega
      clears := by simp
      marks := by simp [unmarked] }

theorem effectiveGeneration_cases (state : DownloadRuntimeState) (generation : Nat) :
    generation = 0 ∧ state.effectiveGeneration generation = state.currentGeneration ∨
      state.effectiveGeneration generation = generation := by
  unfold effectiveGeneration
  split
  · exact .inl ⟨‹_›, rfl⟩
  · exact .inr rfl

/-- A runtime event in order; `clear` is what it asks the latch to do. -/
theorem authorityEffect_governed {degradedReason : Option String} {applied : Bool}
    {clear : Option (Nat × Nat)}
    (governed : DownloadRuntimeState.Governed before event.generation event.browserSequence
      degradedReason applied after)
    (marks : event.body.isOverflowMarker = true → degradedReason.isSome = true)
    (asked : clear.isSome = true ↔ event.body.clearsDegradation = true ∧ applied = true)
    (clears : degradedReason.isSome = true ∨ event.body.clearsDegradation = true) :
    AuthorityEffect before event after clear := by
  have effective := effectiveGeneration_cases before event.generation
  cases governed with
  | ended _ refused unchanged =>
    subst unchanged
    have silent : ¬ clear.isSome = true := by
      rw [asked]
      simp [refused]
    exact {
      later := le_rfl
      sequence := .inl le_rfl
      degraded := fun _ reason => .inl reason
      clears := fun present => absurd present silent
      marks := fun _ => .inl (by omega) }
  | current _ accepted authority =>
    simp only [DownloadRuntimeState.authority, DownloadAuthority.mk.injEq] at authority
    obtain ⟨generation, sequence, degraded⟩ := authority
    exact {
      later := by omega
      sequence := .inr sequence
      degraded := by
        intro _ _
        rcases clears with reason | clears
        · exact .inl (by rwa [degraded])
        · exact .inr (asked.mpr ⟨clears, accepted⟩)
      clears := fun present => ⟨(asked.mp present).1, by omega⟩
      marks := by
        intro marker
        have reason := marks marker
        rw [← degraded] at reason
        by_cases zero : event.generation = after.currentGeneration
        · exact .inr ⟨zero.symm, reason⟩
        · exact .inl (by omega) }

theorem applyBrowserSessionEvent_effect (runtimes : BrowserEventRuntimes) (now : String)
    (newer : runtimes.downloads.runtimeEventSequence < event.browserSequence) :
    AuthorityEffect runtimes.downloads event
      (applyBrowserSessionEvent runtimes now event).1.downloads
      (applyBrowserSessionEvent runtimes now event).2 := by
  obtain ⟨browserSequence, generation, body⟩ := event
  cases body with
  | dialogRuntime | dialogOpened | dialogClosed => exact authorityEffect_same rfl rfl
  | downloadRuntime runtime =>
    refine authorityEffect_governed (applyRuntimeProjectionSequenced_governed newer runtime)
      (by simp [isOverflowMarker]) ?_ ?_
    · simp only [applyBrowserSessionEvent, clearsDegradation]
      split <;> simp_all
    · cases reason : runtime.degradedReason <;> simp [clearsDegradation, reason]
  | downloadRuntimeDegradedMarker reason =>
    refine authorityEffect_governed
      (markDegradedSequenced_governed newer reason) (by simp) ?_ (by simp)
    simp [applyBrowserSessionEvent, clearsDegradation]
  | downloadStarted =>
    exact authorityEffect_carried (recordStarted_carried ..) rfl
  | downloadProgress guid state receivedBytes totalBytes finalPath =>
    exact authorityEffect_carried (recordProgress_carried runtimes.downloads now
        { generation := generation, sequence := runtimes.nextDownloadEventSequence + 1,
          guid := guid, state := state, receivedBytes := receivedBytes,
          totalBytes := totalBytes, finalPath := finalPath }) rfl

namespace BrowserEventState

variable {Id : Type} [DecidableEq Id] {progressCapacity : Nat}
  {state next : BrowserEventState Id}

def downloads (state : BrowserEventState Id) : DownloadRuntimeState := state.runtimes.downloads

/-- The generation was replaced, is degraded, or was cleared after the sequence. -/
def Answered (state : BrowserEventState Id) (generation sequence : Nat) : Prop :=
  generation < state.downloads.currentGeneration ∨
    (state.downloads.currentGeneration = generation ∧
      (state.downloads.projection.degradedReason.isSome = true ∨
        ∃ clear, (generation, clear) ∈ state.history.clears ∧ sequence < clear))

/-- What the applied events say about the degradation of the download runtime. -/
structure DegradationInv (state : BrowserEventState Id) : Prop where
  sequence : 0 < state.downloads.runtimeEventSequence → ∃ event ∈ state.history.applied,
    state.downloads.runtimeEventSequence ≤ event.browserSequence
  clears : ∀ clear ∈ state.history.clears, ∃ event ∈ state.history.applied,
    event.browserSequence = clear.2 ∧ event.body.clearsDegradation = true ∧
      (event.generation = clear.1 ∨ event.generation = 0)
  markers : ∀ event ∈ state.history.applied, event.body.isOverflowMarker = true →
    state.Answered event.generation event.browserSequence

section

omit [DecidableEq Id]

theorem DegradationInv.frame (inv : DegradationInv state)
    (runtimes : next.runtimes = state.runtimes)
    (applied : next.history.applied = state.history.applied)
    (clears : next.history.clears = state.history.clears) : DegradationInv next := by
  have downloads : next.downloads = state.downloads :=
    congrArg BrowserEventRuntimes.downloads runtimes
  exact {
    sequence := by
      rw [downloads, applied]
      exact inv.sequence
    clears := by
      rw [clears, applied]
      exact inv.clears
    markers := by
      unfold Answered
      rw [downloads, applied, clears]
      exact inv.markers }

theorem applyEvent_clears (now : String) (event : BrowserSessionEvent) :
    (state.applyEvent now event).history.clears = state.history.clears ++
      if (applyBrowserSessionEvent state.runtimes now event).2.isSome then
        [((state.applyEvent now event).downloads.currentGeneration, event.browserSequence)]
      else [] := by
  unfold applyEvent
  dsimp only
  cases (applyBrowserSessionEvent state.runtimes now event).2 with
  | none => simp
  | some => simp [downloads]

/-- A marker that was answered stays answered when a later event is applied. -/
theorem Answered.apply {generation sequence : Nat} (answered : state.Answered generation sequence)
    {now : String} (later : sequence < event.browserSequence)
    (effect : AuthorityEffect state.downloads event (state.applyEvent now event).downloads
      (applyBrowserSessionEvent state.runtimes now event).2) :
    (state.applyEvent now event).Answered generation sequence := by
  have grows := effect.later
  rcases answered with replaced | ⟨current, answered⟩
  · exact .inl (by omega)
  by_cases replaced : generation < (state.applyEvent now event).downloads.currentGeneration
  · exact .inl replaced
  have same : (state.applyEvent now event).downloads.currentGeneration =
      state.downloads.currentGeneration := by omega
  refine .inr ⟨same.trans current, ?_⟩
  rw [applyEvent_clears]
  rcases answered with degraded | ⟨clear, member, after⟩
  · rcases effect.degraded same degraded with still | cleared
    · exact .inl still
    · refine .inr ⟨event.browserSequence, ?_, later⟩
      simp [cleared, same, current]
  · exact .inr ⟨clear, mem_append_left _ member, after⟩

theorem degradationInv_apply (inv : DegradationInv state) (ordered : WorkerOrdered state)
    (now : String) (stands : state.worker = .applying event)
    (positive : 0 < event.browserSequence) : DegradationInv (state.applyEvent now event) := by
  have earlier : ∀ other ∈ state.history.applied,
      other.browserSequence < event.browserSequence := by
    intro other member
    rw [ordered.expected event stands]
    exact ordered.applied_lt (by rw [stands]; rfl) other member
  have newer : state.downloads.runtimeEventSequence < event.browserSequence := by
    by_cases none : state.downloads.runtimeEventSequence = 0
    · omega
    · obtain ⟨other, member, within⟩ := inv.sequence (by omega)
      have := earlier other member
      omega
  have effect : AuthorityEffect state.downloads event (state.applyEvent now event).downloads
      (applyBrowserSessionEvent state.runtimes now event).2 :=
    applyBrowserSessionEvent_effect state.runtimes now newer
  have applied : (state.applyEvent now event).history.applied =
      state.history.applied ++ [event] := rfl
  have last : event ∈ (state.applyEvent now event).history.applied := by simp [applied]
  have kept : ∀ other ∈ state.history.applied,
      other ∈ (state.applyEvent now event).history.applied := fun other member => by
    exact mem_append_left _ member
  exact {
    sequence := by
      intro nonzero
      rcases effect.sequence with older | same
      · obtain ⟨other, member, within⟩ := inv.sequence (by omega)
        exact ⟨other, kept other member, by omega⟩
      · exact ⟨event, last, same.le⟩
    clears := by
      intro clear member
      rw [applyEvent_clears, mem_append] at member
      rcases member with member | member
      · obtain ⟨other, present, rest⟩ := inv.clears clear member
        exact ⟨other, kept other present, rest⟩
      · split at member
        · rename_i asked
          rw [mem_singleton] at member
          obtain ⟨clears, generation⟩ := effect.clears asked
          rw [member]
          exact ⟨event, last, rfl, clears, generation⟩
        · cases member
    markers := by
      intro other member marker
      rw [applied, mem_append, mem_singleton] at member
      rcases member with member | rfl
      · exact (inv.markers other member marker).apply (earlier other member) effect
      · rcases effect.marks marker with replaced | ⟨current, degraded⟩
        · exact .inl replaced
        · exact .inr ⟨current, .inl degraded⟩ }

end

theorem degradationInv_step {action : BrowserEventAction Id} (order : OrderInv state)
    (inv : DegradationInv state) (taken : EventStep progressCapacity state action next) :
    DegradationInv next := by
  cases taken with
  | apply now event stands =>
    have flying : event ∈ state.ledger.inFlight := by
      show event ∈ state.inFlight
      simp [inFlight, stands, WorkerPhase.holding]
    have drawn := order.sound.placed.drawn _ (SequenceLedger.mem_disposed_of_inFlight flying)
    exact degradationInv_apply inv order.ordered now stands drawn.1
  | _ => exact inv.frame rfl rfl rfl

/-- The calls and worker steps a session takes while its channels are open: download events come
from the calls that allocate under the mutex, dialog events from any callback. -/
def isOrdinary : BrowserEventAction Id → Bool
  | .allocate _ _ body => body.isDialog
  | .shutdown | .closeCritical | .closeProgress => false
  | _ => true

/-- When a refused event gets no marker, no clear that counts for its generation has been
enqueued after the marker that is out. -/
def Unmasked (state : BrowserEventState Id) : BrowserEventAction Id → Prop
  | .overflow id => ∀ event held, state.calls id = .overflowing event held →
      shouldEmitProgressOverflowMarker state.latch event.generation state.reopen = false →
      ∀ clear ∈ state.history.entered, clear.body.clearsDegradation = true →
        (clear.generation = event.generation ∨ clear.generation = 0) →
        clear.browserSequence ≤ state.latch.sequence
  | _ => True

/-- What the mutex and the order of allocation give for one call. -/
structure CallCoordinated (coordination : Option Id) (overflowed : List BrowserSessionEvent)
    (id : Id) (phase : EnqueuePhase) : Prop where
  mutex : phase.held = true → coordination = some id
  guarded : ∀ event, phase.event = some event → phase.held = true ∨ event.body.isDialog = true
  refused_held : ∀ event held, phase = .overflowing event held →
    held = true ∧ event ∈ overflowed
  /-- Events refused before are older than the event of the call that has the mutex. -/
  fresh : ∀ event, phase.event = some event → phase.held = true → ∀ older ∈ overflowed,
    older.browserSequence < event.browserSequence ∨ ∃ held, phase = .overflowing older held

/-- A marker of the generation is out that no clear enqueued so far can have answered for the
refused event. -/
def Covered (state : BrowserEventState Id) (refused : BrowserSessionEvent) : Prop :=
  ∃ marker ∈ state.history.entered, marker.body.isOverflowMarker = true ∧
    marker.generation = refused.generation ∧
    marker.browserSequence ≤ refused.browserSequence ∧
    ∀ clear ∈ state.history.entered, clear.body.clearsDegradation = true →
      (clear.generation = refused.generation ∨ clear.generation = 0) →
      clear.browserSequence ≤ marker.browserSequence ∨
        refused.browserSequence < clear.browserSequence

structure OverflowInv (state : BrowserEventState Id) : Prop where
  criticalOpen : state.criticalOpen = true
  progressOpen : state.progressOpen = true
  running : state.worker ≠ .stopped
  coordinated : ∀ id, CallCoordinated state.coordination state.history.overflowed id
    (state.calls id)
  drawn : ∀ refused ∈ state.history.overflowed, 0 < refused.browserSequence ∧
    refused.browserSequence ≤ state.nextBrowserEventSequence
  latched : state.latch.latched = true → ∃ refused ∈ state.history.overflowed,
    refused.generation = state.latch.generation ∧
    refused.browserSequence = state.latch.sequence ∧
    overflowMarker refused ∈ state.history.entered
  covered : ∀ refused ∈ state.history.overflowed, state.Covered refused ∨
    ∃ id held, state.calls id = .overflowing refused held

variable {coordination coordination' : Option Id}
  {overflowed overflowed' : List BrowserSessionEvent} {id : Id} {phase : EnqueuePhase}

section

omit [DecidableEq Id]

/-- A call without the mutex does not depend on who has it. -/
theorem CallCoordinated.of_unheld (ok : CallCoordinated coordination overflowed id phase)
    (unheld : phase.held = false) : CallCoordinated coordination' overflowed' id phase where
  mutex held := by simp [unheld] at held
  guarded := ok.guarded
  refused_held := by
    rintro event held rfl
    have := (ok.refused_held event held rfl).1
    simp [EnqueuePhase.held, this] at unheld
  fresh _ _ held := by simp [unheld] at held

theorem callCoordinated_of_none (event : phase.event = none)
    (mutex : phase.held = true → coordination = some id) :
    CallCoordinated coordination overflowed id phase where
  mutex := mutex
  guarded := by simp [event]
  refused_held := by
    rintro other held rfl
    cases event
  fresh := by simp [event]

/-- An event that needs the mutex is not a dialog event, so its call has the mutex. -/
theorem CallCoordinated.held_of_coordinated (ok : CallCoordinated coordination overflowed id phase)
    (own : phase.event = some event)
    (needs : event.body.requiresDownloadProgressCoordination = true) : phase.held = true := by
  rcases ok.guarded event own with held | dialog
  · exact held
  · rw [not_coordinated_of_isDialog dialog] at needs
    cases needs

/-- A call moves on with its event, and with the mutex if it has it. -/
theorem CallCoordinated.advance (ok : CallCoordinated coordination overflowed id phase)
    {later : EnqueuePhase} (event : later.event = phase.event) (held : later.held = phase.held)
    (accepted : ∀ event held, phase ≠ .overflowing event held)
    (stillAccepted : ∀ event held, later ≠ .overflowing event held) :
    CallCoordinated coordination overflowed id later where
  mutex := by
    rw [held]
    exact ok.mutex
  guarded := by
    rw [event, held]
    exact ok.guarded
  refused_held := fun other kept same => absurd same (stillAccepted other kept)
  fresh := by
    rw [event, held]
    intro own same isHeld older member
    rcases ok.fresh own same isHeld older member with before | ⟨kept, refusing⟩
    · exact .inl before
    · exact absurd refusing (accepted older kept)

theorem CallCoordinated.unheld (ok : CallCoordinated coordination overflowed id phase)
    (elsewhere : coordination ≠ some id) : phase.held = false := by
  by_contra held
  exact elsewhere (ok.mutex (by simpa using held))

end

/-- One call moves; the others are as they were or have no say. -/
theorem coordinated_update {calls : Id → EnqueuePhase}
    (before : ∀ other, CallCoordinated coordination overflowed other (calls other))
    (own : CallCoordinated coordination' overflowed' id phase)
    (others : (coordination' = coordination ∧ overflowed' = overflowed) ∨
      ∀ other, other ≠ id → coordination ≠ some other) :
    ∀ other, CallCoordinated coordination' overflowed' other (update calls id phase other) := by
  intro other
  by_cases same : other = id
  · subst same
    rw [update_self]
    exact own
  · rw [update_of_ne same]
    rcases others with ⟨rfl, rfl⟩ | elsewhere
    · exact before other
    · exact (before other).of_unheld ((before other).unheld (elsewhere other same))

variable {refused : BrowserSessionEvent}

omit [DecidableEq Id] in
/-- More events in the channels leave a refused event covered, unless a clear among them is
older than it. -/
theorem Covered.enter (covered : state.Covered refused) {extra : List BrowserSessionEvent}
    (entered : next.history.entered = state.history.entered ++ extra)
    (later : ∀ clear ∈ extra, clear.body.clearsDegradation = true →
      refused.browserSequence < clear.browserSequence) : next.Covered refused := by
  obtain ⟨marker, sent, isMarker, generation, before, apart⟩ := covered
  refine ⟨marker, ?_, isMarker, generation, before, ?_⟩
  · rw [entered]
    exact mem_append_left _ sent
  · intro clear member clears counts
    rw [entered, mem_append] at member
    rcases member with member | member
    · exact apart clear member clears counts
    · exact .inr (later clear member clears)

/-- The parts of the state no call and no worker step changes while the channels are open. -/
structure StaysOpen (state next : BrowserEventState Id) : Prop where
  critical : next.criticalOpen = state.criticalOpen
  progress : next.progressOpen = state.progressOpen
  worker : next.worker ≠ .stopped

omit [DecidableEq Id] in
/-- Steps of the worker leave the calls alone and at most reset the latch. -/
theorem OverflowInv.worker (inv : OverflowInv state) (isOpen : StaysOpen state next)
    (calls : next.calls = state.calls) (coordination : next.coordination = state.coordination)
    (sequence : next.nextBrowserEventSequence = state.nextBrowserEventSequence)
    (entered : next.history.entered = state.history.entered)
    (overflowed : next.history.overflowed = state.history.overflowed)
    (latch : next.latch = state.latch ∨ next.latch.latched = false) : OverflowInv next where
  criticalOpen := isOpen.critical.trans inv.criticalOpen
  progressOpen := isOpen.progress.trans inv.progressOpen
  running := isOpen.worker
  coordinated := by
    rw [calls, coordination, overflowed]
    exact inv.coordinated
  drawn := by
    rw [overflowed, sequence]
    exact inv.drawn
  latched := by
    intro set
    rcases latch with same | reset
    · rw [same, overflowed, entered]
      rw [same] at set
      exact inv.latched set
    · rw [reset] at set
      cases set
  covered := by
    intro refused member
    rw [overflowed] at member
    rcases inv.covered refused member with covered | ⟨id, held, stands⟩
    · exact .inl (covered.enter (by rw [entered, append_nil]) (by simp))
    · exact .inr ⟨id, held, by rw [calls, stands]⟩

/-- A call moves on without a refusal, possibly putting its event in a channel. -/
theorem OverflowInv.move (inv : OverflowInv state) (id : Id)
    (extra : List BrowserSessionEvent) (isOpen : StaysOpen state next)
    (calls : next.calls = update state.calls id phase)
    (own : CallCoordinated next.coordination next.history.overflowed id phase)
    (others : next.coordination = state.coordination ∨
      ∀ other, other ≠ id → state.coordination ≠ some other)
    (accepted : ∀ event held, state.calls id ≠ .overflowing event held)
    (sequence : state.nextBrowserEventSequence ≤ next.nextBrowserEventSequence)
    (entered : next.history.entered = state.history.entered ++ extra)
    (later : ∀ clear ∈ extra, clear.body.clearsDegradation = true →
      ∀ refused ∈ state.history.overflowed, refused.browserSequence < clear.browserSequence)
    (overflowed : next.history.overflowed = state.history.overflowed)
    (latch : next.latch = state.latch) : OverflowInv next where
  criticalOpen := isOpen.critical.trans inv.criticalOpen
  progressOpen := isOpen.progress.trans inv.progressOpen
  running := isOpen.worker
  coordinated := by
    rw [calls]
    refine coordinated_update inv.coordinated own ?_
    rcases others with same | elsewhere
    · exact .inl ⟨same, overflowed⟩
    · exact .inr elsewhere
  drawn := by
    rw [overflowed]
    intro refused member
    obtain ⟨positive, within⟩ := inv.drawn refused member
    exact ⟨positive, le_trans within sequence⟩
  latched := by
    intro set
    rw [latch] at set ⊢
    obtain ⟨refused, member, generation, same, sent⟩ := inv.latched set
    refine ⟨refused, by rwa [overflowed], generation, same, ?_⟩
    rw [entered]
    exact mem_append_left _ sent
  covered := by
    intro refused member
    rw [overflowed] at member
    rcases inv.covered refused member with covered | ⟨other, held, stands⟩
    · exact .inl (covered.enter entered fun clear added clears =>
        later clear added clears refused member)
    · have different : other ≠ id := by
        rintro rfl
        exact accepted refused held stands
      exact .inr ⟨other, held, by rw [calls, update_of_ne different, stands]⟩

section

variable (inv : OverflowInv state)

include inv

omit [DecidableEq Id] in
theorem others_elsewhere (held : (state.calls id).held = true) (other : Id) (different : other ≠ id)
    : state.coordination ≠ some other := by
  rw [(inv.coordinated id).mutex held]
  exact fun same => different (Option.some.inj same).symm

/-- The bounded channel refuses an event. -/
theorem overflowInv_refused (stands : state.calls id = .sending event true)
    (drawn : 0 < event.browserSequence ∧ event.browserSequence ≤ state.nextBrowserEventSequence) :
    OverflowInv { state.moveCall id (.overflowing event true) with
      history := { state.history with overflowed := state.history.overflowed ++ [event] } } := by
  have own := inv.coordinated id
  rw [stands] at own
  exact {
    criticalOpen := inv.criticalOpen
    progressOpen := inv.progressOpen
    running := inv.running
    coordinated := by
      refine coordinated_update inv.coordinated ⟨own.mutex, ?_, ?_, ?_⟩
        (.inr (others_elsewhere inv (by rw [stands]; rfl)))
      · exact fun _ _ => .inl rfl
      · rintro other held same
        cases same
        exact ⟨rfl, by simp⟩
      · rintro other same _ older member
        cases same
        rw [mem_append, mem_singleton] at member
        rcases member with member | rfl
        · rcases own.fresh event rfl rfl older member with before | ⟨held, refusing⟩
          · exact .inl before
          · cases refusing
        · exact .inr ⟨true, rfl⟩
    drawn := by
      intro refused member
      rw [mem_append, mem_singleton] at member
      rcases member with member | rfl
      · exact inv.drawn refused member
      · exact drawn
    latched := by
      intro set
      obtain ⟨refused, member, rest⟩ := inv.latched set
      exact ⟨refused, mem_append_left _ member, rest⟩
    covered := by
      intro refused member
      rw [mem_append, mem_singleton] at member
      rcases member with member | rfl
      · rcases inv.covered refused member with covered | ⟨other, held, refusing⟩
        · exact .inl covered
        · have different : other ≠ id := by
            rintro rfl
            rw [stands] at refusing
            cases refusing
          exact .inr ⟨other, held, by
            show update state.calls id _ other = _
            rw [update_of_ne different, refusing]⟩
      · exact .inr ⟨id, true, update_self ..⟩ }

/-- Once the refusal is dealt with, the event itself is covered and the others stay so. -/
theorem covered_dealt {held : Bool} (stands : state.calls id = .overflowing event held)
    (extra : List BrowserSessionEvent) (calls : next.calls = update state.calls id phase)
    (overflowed : next.history.overflowed = state.history.overflowed)
    (entered : next.history.entered = state.history.entered ++ extra)
    (harmless : ∀ sent ∈ extra, sent.body.clearsDegradation = false) (dealt : next.Covered event) :
    ∀ refused ∈ next.history.overflowed, next.Covered refused ∨
      ∃ other held, next.calls other = .overflowing refused held := by
  intro refused member
  rw [overflowed] at member
  rcases inv.covered refused member with covered | ⟨other, kept, refusing⟩
  · refine .inl (covered.enter entered fun clear added clears => ?_)
    rw [harmless clear added] at clears
    cases clears
  · by_cases same : other = id
    · subst same
      rw [stands] at refusing
      cases refusing
      exact .inl dealt
    · exact .inr ⟨other, kept, by rw [calls, update_of_ne same, refusing]⟩

/-- The refused event sends its own marker. -/
theorem overflowInv_marked {held : Bool} (stands : state.calls id = .overflowing event held) :
    OverflowInv (state.sendMarker id event held) := by
  obtain ⟨isHeld, refused⟩ := (inv.coordinated id).refused_held event held stands
  subst isHeld
  exact {
    criticalOpen := inv.criticalOpen
    progressOpen := inv.progressOpen
    running := inv.running
    coordinated := coordinated_update inv.coordinated
      (callCoordinated_of_none rfl (fun held => by cases held))
      (.inr (others_elsewhere inv (by rw [stands]; rfl)))
    drawn := inv.drawn
    latched := fun _ => ⟨event, refused, rfl, rfl, mem_append_right _ (mem_singleton_self _)⟩
    covered := by
      refine covered_dealt inv stands [overflowMarker event] rfl rfl rfl ?_ ?_
      · intro sent member
        rw [mem_singleton] at member
        rw [member]
        rfl
      · refine ⟨overflowMarker event, mem_append_right _ (mem_singleton_self _), rfl, rfl,
          le_rfl, fun clear _ _ _ => ?_⟩
        exact le_or_gt clear.browserSequence event.browserSequence }

/-- The refused event relies on the marker that is out. -/
theorem overflowInv_suppressed {held : Bool} (stands : state.calls id = .overflowing event held)
    (quiet : shouldEmitProgressOverflowMarker state.latch event.generation state.reopen = false)
    (unmasked : state.Unmasked (.overflow id)) :
    OverflowInv (state.dropRefused id event held) := by
  have own := inv.coordinated id
  obtain ⟨isHeld, refused⟩ := own.refused_held event held stands
  have masked : state.latch.latched = true ∧ state.latch.generation = event.generation := by
    simp only [shouldEmitProgressOverflowMarker, Bool.or_eq_false_iff, Bool.not_eq_false',
      decide_eq_false_iff_not, not_not] at quiet
    exact quiet.1
  obtain ⟨older, member, generation, sequence, sent⟩ := inv.latched masked.1
  have before : older.browserSequence ≤ event.browserSequence := by
    rcases own.fresh event (by rw [stands]; rfl) (by rw [stands]; exact isHeld) older member with
      before | ⟨_, same⟩
    · exact before.le
    · rw [stands] at same
      cases same
      exact le_rfl
  exact {
    criticalOpen := inv.criticalOpen
    progressOpen := inv.progressOpen
    running := inv.running
    coordinated := coordinated_update inv.coordinated
      (callCoordinated_of_none rfl (fun held => own.mutex (by rw [stands]; exact held)))
      (.inl ⟨rfl, rfl⟩)
    drawn := inv.drawn
    latched := inv.latched
    covered := by
      refine covered_dealt inv stands [] rfl rfl (append_nil _).symm (by simp) ?_
      refine ⟨overflowMarker older, sent, rfl, generation.trans masked.2, before, ?_⟩
      intro clear entered clears counts
      have bound := unmasked event held stands quiet clear entered clears counts
      exact .inl (by
        show clear.browserSequence ≤ older.browserSequence
        omega) }

/-- A call returns after its event went into a channel. -/
theorem overflowInv_entered (stands : state.calls id = phase) (own : phase.event = some event)
    (accepted : ∀ event held, phase ≠ .overflowing event held) (isOpen : StaysOpen state next)
    (calls : next.calls = update state.calls id .idle)
    (coordination : next.coordination = if phase.held then none else state.coordination)
    (sequence : next.nextBrowserEventSequence = state.nextBrowserEventSequence)
    (entered : next.history.entered = state.history.entered ++ [event])
    (overflowed : next.history.overflowed = state.history.overflowed)
    (latch : next.latch = state.latch) : OverflowInv next := by
  have ok := inv.coordinated id
  rw [stands] at ok
  refine inv.move id [event] isOpen calls (callCoordinated_of_none rfl (fun held => by cases held))
    ?_ (fun other held => by rw [stands]; exact accepted other held) sequence.ge entered ?_
    overflowed latch
  · by_cases held : phase.held = true
    · exact .inr (others_elsewhere inv (by rw [stands]; exact held))
    · exact .inl (by rw [coordination, if_neg held])
  · intro clear member clears refused refusedMember
    rw [mem_singleton] at member
    subst member
    -- The call of a clear has the mutex, so the clear is younger than every refusal.
    have held := ok.held_of_coordinated own (by simp [requiresDownloadProgressCoordination, clears])
    rcases ok.fresh clear own held refused refusedMember with before | ⟨kept, refusing⟩
    · exact before
    · exact absurd refusing (accepted refused kept)

end

theorem overflowInv_step {action : BrowserEventAction Id} (order : OrderInv state)
    (inv : OverflowInv state) (ordinary : isOrdinary action = true)
    (unmasked : state.Unmasked action)
    (taken : EventStep progressCapacity state action next) : OverflowInv next := by
  cases taken with
  | allocate id _ _ stands =>
    refine inv.move id [] ⟨rfl, rfl, inv.running⟩ rfl ⟨?_, ?_, ?_, ?_⟩ (.inl rfl) ?_
      (Nat.le_succ _) (append_nil _).symm (by simp) rfl rfl
    · exact fun held => by cases held
    · rintro event same
      cases same
      exact .inr ordinary
    · rintro event held same
      cases same
    · exact fun _ _ held => by cases held
    · simp [stands]
  | enqueueCoordinated id _ stands needs =>
    have own := inv.coordinated id
    rw [stands] at own
    have held := own.held_of_coordinated rfl needs
    cases held
  | enqueueUncoordinated id _ stands | meter id _ _ stands =>
    have own := inv.coordinated id
    rw [stands] at own
    refine inv.move id [] ⟨rfl, rfl, inv.running⟩ rfl ?_ (.inl rfl) (by simp [stands]) le_rfl
      (append_nil _).symm (by simp) rfl rfl
    exact own.advance rfl rfl (by simp) (by simp)
  | enqueueDownload id _ _ stands free =>
    refine inv.move id [] ⟨rfl, rfl, inv.running⟩ rfl ⟨fun _ => rfl, fun _ _ => .inl rfl, ?_, ?_⟩
      (.inr (by simp [free])) (by simp [stands]) (Nat.le_succ _) (append_nil _).symm
      (by simp) rfl rfl
    · rintro event held same
      cases same
    · rintro event same _ older member
      cases same
      exact .inl (Nat.lt_succ_of_le (inv.drawn older member).2)
  | sentProgress _ _ _ stands | sentCritical _ _ _ stands =>
    exact overflowInv_entered inv stands rfl (by simp) ⟨rfl, rfl, inv.running⟩ rfl rfl rfl rfl
      rfl rfl
  | refused id event held stands bounded =>
    have own := inv.coordinated id
    rw [stands] at own
    have isHeld : held = true := own.held_of_coordinated rfl
      (by simp [requiresDownloadProgressCoordination, bounded])
    subst isHeld
    have drawn := (order.sound.placed.held id event.browserSequence (by
      show (state.calls id).owned = _
      rw [stands]
      rfl)).1
    exact overflowInv_refused inv stands drawn
  | progressClosed _ _ _ _ _ isClosed =>
    rw [inv.progressOpen] at isClosed
    cases isClosed
  | marked _ _ _ stands => exact overflowInv_marked inv stands
  | unmarked _ _ _ stands quiet =>
    rcases quiet with quiet | isClosed
    · exact overflowInv_suppressed inv stands quiet unmasked
    · rw [inv.criticalOpen] at isClosed
      cases isClosed
  | criticalClosed _ _ _ _ isClosed =>
    rw [inv.criticalOpen] at isClosed
    cases isClosed
  | abandon id _ _ _ stands =>
    have own := inv.coordinated id
    rw [stands] at own
    exact inv.move id [] ⟨rfl, rfl, inv.running⟩ rfl (callCoordinated_of_none rfl own.mutex)
      (.inl rfl) (by simp [stands]) le_rfl (append_nil _).symm (by simp) rfl rfl
  | commit id _ held stands =>
    refine inv.move id [] ⟨rfl, rfl, inv.running⟩ rfl
      (callCoordinated_of_none rfl (fun held => by cases held)) ?_ (by simp [stands]) le_rfl
      (append_nil _).symm (by simp) rfl rfl
    cases held with
    | false => exact .inl rfl
    | true => exact .inr (others_elsewhere inv (by rw [stands]; rfl))
  | drained | ready | commitApplied | receiveCritical | receiveProgress | insertStale | insert =>
    exact inv.worker ⟨rfl, rfl, by simp [commitApplied, receiveCritical, receiveProgress]⟩ rfl rfl
      rfl rfl rfl (.inl rfl)
  | apply now event =>
    refine inv.worker ⟨rfl, rfl, ?_⟩ rfl rfl rfl rfl rfl (.inl rfl)
    unfold applyEvent
    dsimp only
    cases (applyBrowserSessionEvent state.runtimes now event).2 <;> simp
  | clearLatch =>
    refine inv.worker ⟨rfl, rfl, by simp [clearLatch]⟩ rfl rfl rfl rfl rfl ?_
    unfold clearLatch
    split
    · exact .inr rfl
    · exact .inl rfl
  | shutdown | closeCritical | closeProgress => cases ordinary

/-- What every state of an ordinary run keeps. -/
structure RefusalInv (state : BrowserEventState Id) : Prop where
  order : OrderInv state
  degradation : DegradationInv state
  overflow : OverflowInv state

section

omit [DecidableEq Id]

theorem refusalInv_initial : RefusalInv (initial : BrowserEventState Id) where
  order := orderInv_initial
  degradation :=
    { sequence := fun nonzero => absurd nonzero (lt_irrefl 0)
      clears := by simp [initial]
      markers := by simp [initial] }
  overflow :=
    { criticalOpen := rfl
      progressOpen := rfl
      running := by simp [initial]
      coordinated := fun _ => callCoordinated_of_none rfl (fun held => by cases held)
      drawn := by simp [initial]
      latched := by simp [initial]
      covered := by simp [initial] }

/-- An event that went into a channel and whose sequence the cursor has passed was applied. -/
theorem RefusalInv.applied_of_passed (inv : RefusalInv state)
    (entered : event ∈ state.history.entered)
    (passed : event.browserSequence ≤ state.committedBrowserEventCursor) :
    event ∈ state.history.applied := by
  have somewhere := inv.order.sound.conserved.mem_iff.mp entered
  have lost : state.ledger.lost = [] := inv.order.ordered.nothing_lost inv.overflow.running
  rw [lost, append_nil, mem_append] at somewhere
  rcases somewhere with flying | applied
  · have drawn := inv.order.sound.placed.drawn _ (SequenceLedger.mem_disposed_of_inFlight flying)
    have covers := state.commits.covers_of_le drawn.1 passed
    exact absurd covers (inv.order.sound.not_covers_of_inFlight flying)
  · exact applied

theorem RefusalInv.covered_of_passed (inv : RefusalInv state)
    (member : refused ∈ state.history.overflowed)
    (passed : refused.browserSequence ≤ state.committedBrowserEventCursor) :
    state.Covered refused := by
  rcases inv.overflow.covered refused member with covered | ⟨id, held, stands⟩
  · exact covered
  · -- A call that is still dealing with the refusal has not recorded the sequence.
    have owned : state.ledger.owned id = some refused.browserSequence := by
      show (state.calls id).owned = _
      rw [stands]
      rfl
    have covers := state.commits.covers_of_le (inv.overflow.drawn refused member).1 passed
    have closed := ((inv.order.sound.covered _).mp covers).1
    exact absurd closed.mem_disposed (inv.order.sound.placed.held id _ owned).2

theorem RefusalInv.not_silent (inv : RefusalInv state) (member : refused ∈ state.history.overflowed)
    (passed : refused.browserSequence ≤ state.committedBrowserEventCursor)
    (current : state.downloads.currentGeneration = refused.generation) :
    state.downloads.projection.degradedReason.isSome = true ∨
      ∃ clear, (refused.generation, clear) ∈ state.history.clears ∧
        refused.browserSequence < clear := by
  obtain ⟨marker, entered, isMarker, generation, before, apart⟩ :=
    inv.covered_of_passed member passed
  have applied := inv.applied_of_passed entered (le_trans before passed)
  rcases inv.degradation.markers marker applied isMarker with replaced | ⟨_, answered⟩
  · omega
  · rcases answered with degraded | ⟨clear, cleared, after⟩
    · exact .inl degraded
    · obtain ⟨event, eventApplied, sequence, clears, counts⟩ := inv.degradation.clears _ cleared
      have eventEntered : event ∈ state.history.entered := inv.order.sound.conserved.mem_iff.mpr
          (mem_append_left _ (mem_append_right _ eventApplied))
      rw [generation] at cleared counts
      refine .inr ⟨clear, cleared, ?_⟩
      rcases apart event eventEntered clears counts with older | younger <;> omega

end

theorem dropped_progress_never_silent {actions : List (BrowserEventAction Id)}
    (along : (browserEventSystem Id progressCapacity).Along
      (fun current action => isOrdinary action = true ∧ current.Unmasked action) initial actions)
    (run : (browserEventSystem Id progressCapacity).runFrom initial actions = some state) :
    ∀ refused ∈ state.history.overflowed,
      refused.browserSequence ≤ state.committedBrowserEventCursor →
      state.downloads.currentGeneration = refused.generation →
      state.downloads.projection.degradedReason.isSome = true ∨
        ∃ clear, (refused.generation, clear) ∈ state.history.clears ∧
          refused.browserSequence < clear := by
  have preserved : ∀ current action next, RefusalInv current →
      (isOrdinary action = true ∧ current.Unmasked action) →
      (browserEventSystem Id progressCapacity).step current action = some next →
      RefusalInv next := by
    intro current action next inv allowed taken
    have step := step_cases taken
    exact ⟨orderInv_step inv.order step,
      degradationInv_step inv.order inv.degradation step,
      overflowInv_step inv.order inv.overflow allowed.1 allowed.2 step⟩
  have inv := runFrom_preserves_along _ preserved refusalInv_initial along run
  intro refused member passed current
  exact inv.not_silent member passed current

/-- A channel for one event takes a first progress event and refuses a second one. -/
def refusalRun : List (BrowserEventAction Unit) :=
  [.enqueueDownload () 1 (liveProgress 1 0).body, .trySend (),
    .enqueueDownload () 1 (liveProgress 1 0).body, .trySend ()]

/-- The worker applies the event that was taken and the marker of the other one. -/
def recoveryRun : List (BrowserEventAction Unit) :=
  [.drain] ++ progressCycle ++
    [.receiveCritical, .insert, .drain, .apply "", .commitApplied, .drain]

def degradedState : BrowserEventState Unit :=
  ((browserEventSystem Unit 1).runFrom initial
    (refusalRun ++ ([.overflow ()] ++ recoveryRun))).getD initial

theorem refused_progress_degrades :
    (browserEventSystem Unit 1).runFrom initial (refusalRun ++ ([.overflow ()] ++ recoveryRun)) =
        some degradedState ∧
      liveProgress 1 2 ∈ degradedState.history.overflowed ∧
      degradedState.downloads.projection.degradedReason.isSome = true := by
  have run : (browserEventSystem Unit 1).runFrom initial
      (refusalRun ++ ([.overflow ()] ++ recoveryRun)) = some degradedState := rfl
  have refused : liveProgress 1 2 ∈ degradedState.history.overflowed := by decide
  have quiet : ∀ action ∈ refusalRun ++ recoveryRun, ∀ current : BrowserEventState Unit,
      isOrdinary action = true ∧ current.Unmasked action := by
    simp [refusalRun, recoveryRun, progressCycle, isOrdinary, Unmasked]
  have along : (browserEventSystem Unit 1).Along
      (fun current action => isOrdinary action = true ∧ current.Unmasked action) initial
      (refusalRun ++ ([.overflow ()] ++ recoveryRun)) := by
    refine along_append _ (along_of_mem _
      (fun action member => quiet action (mem_append_left _ member)) _) ?_
    intro middle reached
    refine ⟨⟨rfl, ?_⟩, fun next _ => along_of_mem _
      (fun action member => quiet action (mem_append_right _ member)) _⟩
    -- Nothing is latched yet, so the refused event gets its own marker.
    cases reached
    intro event held stands silent
    cases silent
  refine ⟨run, refused, ?_⟩
  rcases dropped_progress_never_silent along run _ refused (by decide) rfl with
    degraded | ⟨clear, member, _⟩
  · exact degraded
  · have none : degradedState.history.clears = [] := rfl
    cases member

/-- The listener of a generation is announced again. -/
def clearCalls (generation : Nat) : List (BrowserEventAction Unit) :=
  [.enqueueDownload () generation (.downloadRuntime .default), .meter (), .send ()]

def cleared (state : BrowserEventState Unit) (generation : Nat) : BrowserEventState Unit :=
  let event : BrowserSessionEvent :=
    { browserSequence := state.nextBrowserEventSequence + 1, generation := generation,
      body := .downloadRuntime .default }
  { state with
    nextBrowserEventSequence := state.nextBrowserEventSequence + 1
    telemetry := recordCriticalBrowserEventEnqueued state.telemetry
    reopen := { generation := generation, sequence := event.browserSequence }
    critical := state.critical ++ [event]
    history := { state.history with entered := state.history.entered ++ [event] } }

theorem runFrom_clearCalls {state : BrowserEventState Unit} (generation : Nat)
    (quiet : CallsIdle state) (isOpen : state.criticalOpen = true) :
    (browserEventSystem Unit progressCapacity).runFrom state (clearCalls generation) =
      some (state.cleared generation) := by
  simp [clearCalls, runFrom, browserEventSystem, step, quiet.idle, quiet.free,
    isDownloadCall, moveCall, allocateBrowserEvent,
    usesBoundedProgressIngress, meter,
    clearsDegradation, DownloadRuntimeInfo.default, send, isOpen,
    finishCall, enterCritical, cleared]

def suppressedCalls (generation : Nat) : List (BrowserEventAction Unit) :=
  [.enqueueDownload () generation (liveProgress generation 0).body, .trySend (), .overflow (),
    .commit ()]

def suppressed (state : BrowserEventState Unit) (generation : Nat) : BrowserEventState Unit :=
  let refused := state.refusing (liveProgress generation (state.nextBrowserEventSequence + 1))
  { refused with
    commits := state.commits.record refused.nextBrowserEventSequence
    history := { refused.history with
      dropped := state.history.dropped ++ [refused.nextBrowserEventSequence] } }

theorem runFrom_suppressedCalls {state : BrowserEventState Unit} (generation : Nat)
    (quiet : CallsIdle state) (isOpen : state.progressOpen = true)
    (full : progressCapacity ≤ state.progress.length)
    (silent : shouldEmitProgressOverflowMarker state.latch generation state.reopen = false) :
    (browserEventSystem Unit progressCapacity).runFrom state (suppressedCalls generation) =
      some (state.suppressed generation) := by
  have refused : ¬ state.progress.length < progressCapacity := by omega
  simp [suppressedCalls, runFrom, browserEventSystem, step, quiet.idle,
    quiet.free, liveProgress, isDownloadCall, moveCall,
    allocateBrowserEvent, usesBoundedProgressIngress, trySend, isOpen,
    refused, overflow, silent, dropRefused, countDrop, dropSequence, finishCall,
    recordBrowserEventCommit, suppressed, refusing]

/-- The listener of generation 2 is announced again, then a late event of generation 1 takes the
reopen point, then another progress event of generation 2 is refused. -/
def masked : BrowserEventState Unit :=
  ((((listening.filled browserEventProgressIngressLimit).marked 2).cleared 2).cleared 1).suppressed
    2

def maskedRun : List (BrowserEventAction Unit) :=
  listeningRun ++ fillCalls browserEventProgressIngressLimit ++ markedCalls 2 ++ clearCalls 2 ++
    clearCalls 1 ++ suppressedCalls 2

theorem runFrom_maskedRun : oneCallback.runFrom initial maskedRun = some masked := by
  have room : listening.progress.length + browserEventProgressIngressLimit ≤
      browserEventProgressIngressLimit := le_rfl
  have full : browserEventProgressIngressLimit ≤
      (listening.filled browserEventProgressIngressLimit).progress.length := by simp [filled]
  have filledUp := runFrom_trans _ runFrom_listeningRun
    (runFrom_fillCalls browserEventProgressIngressLimit listening ⟨rfl, rfl⟩ rfl room)
  have refused := runFrom_trans _ filledUp (runFrom_marked 2 ⟨rfl, rfl⟩ rfl rfl full rfl)
  have again := runFrom_trans _ refused (runFrom_clearCalls 2 ⟨rfl, rfl⟩ rfl)
  have late := runFrom_trans _ again (runFrom_clearCalls 1 ⟨rfl, rfl⟩ rfl)
  exact runFrom_trans _ late (runFrom_suppressedCalls 2 ⟨rfl, rfl⟩ rfl full rfl)

/-- The worker catches up with everything that was enqueued. -/
def catchUpRun : List (BrowserEventAction Unit) :=
  (List.replicate browserEventProgressIngressLimit progressCycle).flatten

def settleRun : List (BrowserEventAction Unit) :=
  [.receiveCritical, .insert, .drain, .apply "", .commitApplied, .drain,
    .receiveCritical, .insert, .drain, .apply "", .clearLatch, .commitApplied, .drain,
    .receiveCritical, .insert, .drain, .apply "", .commitApplied, .drain]

/-- The commits once the worker has applied the progress that was queued. -/
def maskedCommits : Watermark :=
  { low := browserEventProgressIngressLimit + 1
    above := {browserEventProgressIngressLimit + 5}
    gap := by simp }

theorem masked_waiting : Waiting masked := ⟨rfl, rfl, rfl, by decide⟩

theorem masked_commits : masked.commits.low = 1 ∧
    masked.commits.above = {browserEventProgressIngressLimit + 5} := ⟨rfl, rfl⟩

theorem caughtUp_masked :
    (masked.caughtUp browserEventProgressIngressLimit []).commits = maskedCommits := by
  obtain ⟨low, above⟩ := masked_commits
  have recorded := masked.commits.foldl_record_range' browserEventProgressIngressLimit (by
    simp [low, above]
    omega)
  exact Watermark.ext (recorded.1.trans (Nat.add_comm ..)) recorded.2

def settled : BrowserEventState Unit :=
  { masked.caughtUp browserEventProgressIngressLimit [] with commits := maskedCommits }

def silent : BrowserEventState Unit :=
  (oneCallback.runFrom settled settleRun).getD initial

theorem runFrom_settleRun : oneCallback.runFrom settled settleRun = some silent := rfl

theorem runFrom_silentRun :
    oneCallback.runFrom initial
      (maskedRun ++ catchUpRun ++ settleRun) = some silent := by
  obtain ⟨low, above⟩ := masked_commits
  have caught := runFrom_trans _ runFrom_maskedRun
    (runFrom_progressCycles browserEventProgressIngressLimit masked masked_waiting []
      (append_nil _).symm (by
        simp [low, above]
        omega))
  refine runFrom_trans _ (caught.trans ?_) runFrom_settleRun
  unfold settled
  rw [← caughtUp_masked]

theorem ordinary_flatten {count : Nat} {actions : List (BrowserEventAction Unit)}
    (ordinary : ∀ action ∈ actions, isOrdinary action = true) :
    ∀ action ∈ (List.replicate count actions).flatten, isOrdinary action = true := by
  intro action member
  obtain ⟨block, repeated, inside⟩ := mem_flatten.mp member
  rw [eq_of_mem_replicate repeated] at inside
  exact ordinary action inside

theorem silentRun_ordinary :
    ∀ action ∈ maskedRun ++ catchUpRun ++ settleRun, isOrdinary action = true := by
  have listens : ∀ action ∈ listeningRun, isOrdinary action = true := by decide
  have fills : ∀ action ∈ fillCalls browserEventProgressIngressLimit, isOrdinary action = true :=
    ordinary_flatten (by decide)
  have masks : ∀ action ∈ markedCalls 2 ++ clearCalls 2 ++ clearCalls 1 ++ suppressedCalls 2,
      isOrdinary action = true := by decide
  have catches : ∀ action ∈ catchUpRun, isOrdinary action = true := ordinary_flatten (by decide)
  have settles : ∀ action ∈ settleRun, isOrdinary action = true := by decide
  unfold maskedRun
  simp only [mem_append, or_imp, forall_and] at masks ⊢
  obtain ⟨⟨⟨marks, clears⟩, late⟩, suppresses⟩ := masks
  exact ⟨⟨⟨⟨⟨⟨⟨listens, fills⟩, marks⟩, clears⟩, late⟩, suppresses⟩, catches⟩, settles⟩

/-- The reopen point holds one clear only. A late one of an older generation takes it over, the
next refused event of the current generation then gets no marker, and the clear that was
enqueued before it ends the degradation. -/
theorem refused_progress_silent :
    ∃ actions state, (∀ action ∈ actions, isOrdinary action = true) ∧
      oneCallback.runFrom initial actions =
        some state ∧
      ∃ refused ∈ state.history.overflowed,
        refused.browserSequence ≤ state.committedBrowserEventCursor ∧
        state.downloads.currentGeneration = refused.generation ∧
        state.downloads.projection.degradedReason = none ∧
        ∀ event ∈ state.history.applied, event.browserSequence ≤ refused.browserSequence := by
  refine ⟨_, silent, silentRun_ordinary, runFrom_silentRun,
    liveProgress 2 (browserEventProgressIngressLimit + 5), ?_, ?_, rfl, rfl, ?_⟩
  · decide
  · decide
  · intro event member
    have sound := (orderInv_reachable ⟨_, runFrom_silentRun⟩).sound
    have settled : event.browserSequence ∈
        silent.ledger.settled.map BrowserSessionEvent.browserSequence :=
      mem_map_of_mem member
    exact (sound.placed.drawn _ (SequenceLedger.Closed.mem_disposed (.inl settled))).2

end BrowserEventState

end Rub
