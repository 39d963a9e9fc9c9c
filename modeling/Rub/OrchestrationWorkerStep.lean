import Rub.OrchestrationWorker

/-!
What one step of the orchestration session can do, said once.
-/

namespace Rub.OrchestrationSession

/-- The session after a cycle evaluated a rule, before the answer is acted on. -/
def judged (state : OrchestrationSession) (rule : OrchestrationRuleInfo)
    (later : List OrchestrationRuleInfo) (probe : OrchestrationProbe)
    (entry : OrchestrationWorkerEntry) : OrchestrationSession :=
  { state with position := .draining later }.evaluated rule.id
    (loadOrchestrationConditionState rule probe entry)

/-- The handling that an accepted completion begins with. -/
def acceptedPhase (completion : ReservationCompletion ErrorEnvelope) : OrchestrationPhase :=
  match completion.result with
  | .ok () => .granted
  | .error error => .reporting error

section

variable (state : OrchestrationSession) (rule : OrchestrationRuleInfo) (probe : OrchestrationProbe)
  (entry : OrchestrationWorkerEntry) (answer : Except ErrorEnvelope OrchestrationConditionState)

/-- A cycle has a rule evaluated, with this answer. -/
structure Judges (later : List OrchestrationRuleInfo) : Prop where
  free : state.handling = none
  stands : state.position = .judging rule later
  found : state.entries rule.id = some entry
  answered : (loadOrchestrationConditionState rule probe entry).1 = answer

/-- The rule of a reservation is evaluated again. -/
structure Revalidates (handling : OrchestrationHandling) : Prop where
  handles : state.handling = some handling
  phase : handling.phase = .revalidating rule
  found : state.entries handling.ruleId = some entry
  answered : (loadOrchestrationConditionState rule probe entry).1 = answer

end

inductive OrchestrationStep (state : OrchestrationSession) :
    OrchestrationAction → OrchestrationSession → Prop where
  | clockSet (now : Nat) : OrchestrationStep state (.setClock now) { state with now := now }
  | refreshed (sessions : List OrchestrationSessionInfo) (supported : Bool) :
      OrchestrationStep state (.refresh sessions supported)
        { state with runtime := state.runtime.replace sessions supported }
  | commanded (command : OrchestrationCommand) (free : state.transactionHeld = false) :
      OrchestrationStep state (.command command)
        { state with runtime := applyCommand state.runtime command }
  | delivered (task) (result : Except ErrorEnvelope Unit) (running : task ∈ state.book.tasks) :
      OrchestrationStep state (.deliver task result)
        { state with book := state.book.deliver task result }
  | vanished (task : ReservationTask) :
      OrchestrationStep state (.vanish task) { state with book := state.book.vanish task }
  | unsupported (free : state.handling = none) :
      OrchestrationStep state .list { state with book := state.book.abortAll }
  | cleared (free : state.handling = none) (empty : state.runtime.rules = []) :
      OrchestrationStep state .list
        { state with book := state.book.abortAll, entries := fun _ => none }
  | listed (free : state.handling = none) :
      OrchestrationStep state .list { state with position := .listed state.runtime.rules }
  | reconciled (rules) (free : state.handling = none) (stands : state.position = .listed rules) :
      OrchestrationStep state .reconcile
        { state with
          entries := reconcileOrchestrationWorkerState state.entries rules
            state.runtime.networkRequestBaselines
          book := state.book.retain (keepsReservation state.now rules)
          position := .draining rules }
  | cycleEnded (free : state.handling = none) :
      OrchestrationStep state .next { state with position := .idle }
  | passed (rule later book position) (free : state.handling = none)
      (stands : state.position = .draining (rule :: later))
      (kept : book = state.book ∨ book = state.book.cancel rule.id)
      (moved : position = .draining later ∨ position = .idle) :
      OrchestrationStep state .next { state with book := book, position := position }
  | started (rule later book) (free : state.handling = none)
      (stands : state.position = .draining (rule :: later))
      (kept : book = state.book ∨ book = state.book.cancel rule.id) :
      OrchestrationStep state .next
        { state with book := book, position := .judging rule later }
  | probeFailed {rule later probe entry error}
      (judges : state.Judges rule probe entry (.error error) later) :
      OrchestrationStep state (.evaluate probe)
        { state.judged rule later probe entry with
          runtime := recordOrchestrationFailure state.runtime rule error none }
  | conditionAbsent {rule later probe entry progress}
      (judges : state.Judges rule probe entry (.ok (.notTriggered progress)) later) :
      OrchestrationStep state (.evaluate probe)
        ((state.judged rule later probe entry).clearRule rule progress)
  | latchHeld {rule later probe entry condition}
      (judges : state.Judges rule probe entry (.ok (.triggered condition)) later)
      (latched : (loadOrchestrationConditionState rule probe entry).2.latchedEvidenceKey =
        some condition.evidenceKey) :
      OrchestrationStep state (.evaluate probe)
        { state.judged rule later probe entry with
          entries := (state.judged rule later probe entry).updateEntry rule.id fun entry =>
            commitOrchestrationNetworkProgress entry condition.networkProgress }
  | stillPending {rule later probe entry condition}
      (judges : state.Judges rule probe entry (.ok (.triggered condition)) later)
      (waits : (state.book.pending rule.id).isSome = true) :
      OrchestrationStep state (.evaluate probe)
        (state.judged rule later probe entry)
  | spawned {rule later probe entry condition}
      (judges : state.Judges rule probe entry (.ok (.triggered condition)) later)
      (unlatched : (loadOrchestrationConditionState rule probe entry).2.latchedEvidenceKey ≠
        some condition.evidenceKey) (vacant : state.book.pending rule.id = none) :
      OrchestrationStep state (.evaluate probe)
        { state.judged rule later probe entry with
          book := state.book.spawn rule.id (reservationPolicy rule condition) }
  | accepted (completion) (channel : List (ReservationCompletion ErrorEnvelope))
      (shuttingDown : Bool) (pending) (free : state.handling = none)
      (first : state.book.channel = completion :: channel)
      (claimed : ((state.book.withChannel channel).claim completion).1 = some pending)
      (known : (state.entries completion.ruleId).isSome = true) :
      OrchestrationStep state (.receive shuttingDown)
        { state with
          book := ((state.book.withChannel channel).claim completion).2
          handling := some
            { ruleId := completion.ruleId, policy := pending.policy,
              phase := acceptedPhase completion } }
  | dropped (completion) (channel : List (ReservationCompletion ErrorEnvelope))
      (shuttingDown : Bool) (free : state.handling = none)
      (first : state.book.channel = completion :: channel) :
      OrchestrationStep state (.receive shuttingDown)
        { state with book := ((state.book.withChannel channel).claim completion).2 }
  | handlingEnded (action : OrchestrationAction) (handling)
      (handles : state.handling = some handling)
      (phase : handling.phase = .granted ∨ ∃ error, handling.phase = .reporting error) :
      OrchestrationStep state action state.finishHandling
  | liveRead (handling rule) (handles : state.handling = some handling)
      (phase : handling.phase = .granted) (found : state.runtime.rule handling.ruleId = some rule)
      (admitted : admits state.now handling.policy rule = true) :
      OrchestrationStep state .readLive (state.inPhase handling (livePhase handling rule))
  | revalidationFailed {handling rule probe entry error}
      (again : state.Revalidates rule probe entry (.error error) handling) :
      OrchestrationStep state (.revalidate probe)
        ((state.evaluated handling.ruleId
          (loadOrchestrationConditionState rule probe entry)).inPhase handling (.reporting error))
  | withdrawn {handling rule probe entry progress}
      (again : state.Revalidates rule probe entry (.ok (.notTriggered progress)) handling) :
      OrchestrationStep state (.revalidate probe)
        { state.evaluated handling.ruleId (loadOrchestrationConditionState rule probe entry) with
          entries :=
            (state.evaluated handling.ruleId
              (loadOrchestrationConditionState rule probe entry)).updateEntry handling.ruleId
                fun entry => { entry with latchedEvidenceKey := none }
          handling := none }
  | revalidated {handling rule probe entry condition}
      (again : state.Revalidates rule probe entry (.ok (.triggered condition)) handling) :
      OrchestrationStep state (.revalidate probe)
        ((state.evaluated handling.ruleId
          (loadOrchestrationConditionState rule probe entry)).inPhase handling
            (.reserved (reservedExecution handling rule condition)))
  | liveReported (handling rule error) (handles : state.handling = some handling)
      (phase : handling.phase = .reporting error)
      (found : state.runtime.rule handling.ruleId = some rule) :
      OrchestrationStep state .report (state.inPhase handling (.recording rule error))
  | recorded (handling rule error) (handles : state.handling = some handling)
      (phase : handling.phase = .recording rule error) :
      OrchestrationStep state .record
        { state with
          runtime := recordOrchestrationFailure state.runtime rule error none
          handling := none }
  | stopped (handling execution) (handles : state.handling = some handling)
      (phase : handling.phase = .reserved execution) :
      OrchestrationStep state .shutDown (state.commitProgress handling execution).finishHandling
  | blocked (handling execution) (error : ErrorEnvelope)
      (handles : state.handling = some handling) (phase : handling.phase = .reserved execution) :
      OrchestrationStep state (.handoffBlocked error)
        { (state.commitProgress handling execution).finishHandling with
          runtime := recordOrchestrationFailure state.runtime execution.rule error
            (some execution.evidence) }
  | targetFailed (handling execution) (error : ErrorEnvelope)
      (handles : state.handling = some handling) (phase : handling.phase = .reserved execution) :
      OrchestrationStep state (.resolveTarget (some error))
        (state.inPhase handling (failedPhase execution 0 error))
  | targetResolved (handling execution) (handles : state.handling = some handling)
      (phase : handling.phase = .reserved execution) :
      OrchestrationStep state (.resolveTarget none)
        (state.inPhase handling (stepPhase state.now execution 0))
  | preparationFailed (handling execution) (stepIndex attempts : Nat) (error : ErrorEnvelope)
      (handles : state.handling = some handling)
      (phase : handling.phase = .preparing execution stepIndex) :
      OrchestrationStep state (.materialize attempts (some error))
        (state.inPhase handling (failedPhase execution stepIndex error))
  | prepared (handling execution) (stepIndex attempts : Nat)
      (handles : state.handling = some handling)
      (phase : handling.phase = .preparing execution stepIndex) :
      OrchestrationStep state (.materialize attempts none)
        (state.inPhase handling (.dispatching execution stepIndex
          (OrchestrationRetry.afterMaterialization execution.rule attempts)))
  | dispatched (handling execution stepIndex retry) (answer : DispatchAnswer)
      (handles : state.handling = some handling)
      (phase : handling.phase = .dispatching execution stepIndex retry) :
      OrchestrationStep state (.dispatch answer)
        ({ state with log := state.log ++ [dispatchEvent execution stepIndex answer] }.inPhase
          handling (answeredPhase state.now execution stepIndex retry answer))
  | committed (handling execution result) (handles : state.handling = some handling)
      (phase : handling.phase = .finished execution result) :
      OrchestrationStep state .commit (state.commitExecution handling execution result)

variable {state next : OrchestrationSession} {action : OrchestrationAction}

theorem environment_step (taken : state.stepEnvironment action = some next) :
    OrchestrationStep state action next := by
  cases action <;> simp only [stepEnvironment] at taken <;> (repeat' split at taken) <;> cases taken
  · exact .clockSet _
  · exact .refreshed _ _
  · exact .commanded _ (Bool.eq_false_of_not_eq_true ‹_›)
  · exact .delivered _ _ ‹_›
  · exact .delivered _ _ ‹_›
  · exact .vanished _

theorem afterSkip_eq (later : List OrchestrationRuleInfo) :
    afterSkip later = .draining later ∨ afterSkip later = .idle := by
  cases later with
  | nil => exact .inr rfl
  | cons => exact .inl rfl

section

variable (free : state.handling = none)

include free

private theorem start_step {rule : OrchestrationRuleInfo} {later : List OrchestrationRuleInfo}
    (stands : state.position = .draining (rule :: later)) :
    OrchestrationStep state .next (state.startRule rule later) := by
  unfold startRule
  cases state.book.pending rule.id with
  | none => exact .started rule later state.book free stands (.inl rfl)
  | some =>
    dsimp only
    split
    · exact .started rule later state.book free stands (.inl rfl)
    · split
      · exact .passed rule later state.book (.draining later) free stands (.inl rfl) (.inl rfl)
      · exact .started rule later _ free stands (.inr rfl)

private theorem next_step
    (taken : state.stepCycle .next = some next) : OrchestrationStep state .next next := by
  simp only [stepCycle] at taken
  (repeat' split at taken) <;> cases taken
  · exact .cycleEnded free
  · exact start_step free ‹_›
  · exact .passed _ _ state.book _ free ‹_› (.inl rfl) (afterSkip_eq _)
  · exact .passed _ _ _ _ free ‹_› (.inr rfl) (afterSkip_eq _)

theorem evaluate_step {probe : OrchestrationProbe}
    (taken : state.stepCycle (.evaluate probe) = some next) :
    OrchestrationStep state (.evaluate probe) next := by
  simp only [stepCycle] at taken
  split at taken
  · rename_i rule later stands
    obtain ⟨entry, found, rfl⟩ := Option.map_eq_some_iff.mp taken
    cases answer : (loadOrchestrationConditionState rule probe entry).1 with
    | error error => exact .probeFailed ⟨free, stands, found, answer⟩
    | ok condition =>
      cases condition with
      | notTriggered progress =>
        exact .conditionAbsent ⟨free, stands, found, answer⟩
      | triggered condition =>
        simp only [decideRule]
        split
        · exact .latchHeld ⟨free, stands, found, answer⟩ ‹_›
        · split
          · exact .stillPending ⟨free, stands, found, answer⟩ ‹_›
          · exact .spawned ⟨free, stands, found, answer⟩ ‹_›
              (Option.not_isSome_iff_eq_none.mp ‹_›)
  · cases taken

private theorem cycle_step
    (taken : state.stepCycle action = some next) : OrchestrationStep state action next := by
  cases action with
  | list =>
    simp only [stepCycle] at taken
    (repeat' split at taken) <;> cases taken
    · exact .cleared free ‹_›
    · exact .listed free
    · exact .unsupported free
  | reconcile =>
    simp only [stepCycle] at taken
    split at taken <;> cases taken
    exact .reconciled _ free ‹_›
  | next => exact next_step free taken
  | evaluate => exact evaluate_step free taken
  | _ => cases taken

private theorem receive_step
    (taken : state.stepReceive action = some next) : OrchestrationStep state action next := by
  cases action with
  | receive shuttingDown =>
    cases first : state.book.channel with
    | nil => simp [stepReceive, first] at taken
    | cons completion channel =>
      simp only [stepReceive, first] at taken
      split at taken
      · cases taken
        have drops := OrchestrationStep.dropped completion channel shuttingDown free first
        cases claimed : ((state.book.withChannel channel).claim completion).1 with
        | none => simpa only [receiveCompletion, claimed] using drops
        | some pending =>
          cases known : state.entries completion.ruleId with
          | none => simpa only [receiveCompletion, claimed, known] using drops
          | some =>
            have accepts := OrchestrationStep.accepted completion channel shuttingDown
              pending free first claimed (by rw [known]; rfl)
            cases result : completion.result with
            | ok =>
              simpa only [receiveCompletion, acceptedPhase, claimed, known, result] using accepts
            | error =>
              simp only [receiveCompletion, claimed, known, result]
              simp only [acceptedPhase, result] at accepts
              split
              · exact drops
              · exact accepts
      · cases taken
  | _ => cases taken

end

variable {handling : OrchestrationHandling}

private theorem handling_step (handles : state.handling = some handling)
    (taken : state.stepHandling handling action = some next) :
    OrchestrationStep state action next := by
  unfold stepHandling at taken
  split at taken
  · (repeat' split at taken) <;> cases taken
    · exact .liveRead handling _ handles ‹_› ‹_› ‹_›
    all_goals exact .handlingEnded _ handling handles (.inl ‹_›)
  · rename_i rule probe phase
    obtain ⟨entry, found, rfl⟩ := Option.map_eq_some_iff.mp taken
    dsimp only
    cases answer : (loadOrchestrationConditionState rule probe entry).1 with
    | error error =>
      exact .revalidationFailed ⟨handles, phase, found, answer⟩
    | ok condition =>
      cases condition with
      | notTriggered progress =>
        exact .withdrawn ⟨handles, phase, found, answer⟩
      | triggered condition =>
        exact .revalidated ⟨handles, phase, found, answer⟩
  · split at taken <;> cases taken
    · exact .liveReported handling _ _ handles ‹_› ‹_›
    · exact .handlingEnded _ handling handles (.inr ⟨_, ‹_›⟩)
  · cases taken
    exact .recorded handling _ _ handles ‹_›
  · cases taken
    exact .stopped handling _ handles ‹_›
  · cases taken
    exact .blocked handling _ _ handles ‹_›
  · split at taken <;> cases taken
    · exact .targetFailed handling _ _ handles ‹_›
    · exact .targetResolved handling _ handles ‹_›
  · (repeat' split at taken) <;> cases taken
    · exact .preparationFailed handling _ _ _ _ handles ‹_›
    · exact .prepared handling _ _ _ handles ‹_›
  · cases taken
    exact .dispatched handling _ _ _ _ handles ‹_›
  · cases taken
    exact .committed handling _ _ handles ‹_›
  · cases taken

theorem step_inversion (taken : state.step action = some next) :
    OrchestrationStep state action next := by
  cases handles : state.handling with
  | some =>
    cases action <;> simp only [step, handles] at taken <;> first
      | exact environment_step taken
      | exact handling_step handles taken
  | none =>
    cases action <;> simp only [step, handles] at taken <;> first
      | exact environment_step taken
      | exact receive_step handles taken
      | exact cycle_step handles taken

end Rub.OrchestrationSession
