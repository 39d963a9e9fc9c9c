import Rub.TriggerWorker

/-!
What one step of the trigger session can do, said once. The steps of a completion's handling
are grouped by what they do: several of them only end it.
-/

namespace Rub.TriggerSession

/-- Where the condition of a granted reservation comes from: it was evaluated again, or it was
kept from the evaluation of the cycle. -/
def Revalidated (handling : CompletionHandling) (trigger : TriggerInfo)
    (condition : TriggeredTriggerCondition) : Prop :=
  (handling.phase = .revalidating trigger ∧ condition.networkProgress = none) ∨
    (handling.phase = .refreshing trigger ∧ handling.policy.preservedTriggered = some condition)

def reservedExecution (handling : CompletionHandling) (trigger : TriggerInfo)
    (condition : TriggeredTriggerCondition) : ReservedTriggerExecution :=
  { trigger := trigger
    evidence := condition.evidence
    evidenceFingerprint := condition.evidenceFingerprint
    networkProgress := condition.networkProgress.or handling.policy.fallbackNetworkProgress }

inductive TriggerStep (state : TriggerSession) : TriggerSessionAction → TriggerSession → Prop where
  | observed (action : ObservatoryAction) :
      TriggerStep state (.observe action)
        { state with observatory := state.observatory.act action }
  | ingressDropped :
      TriggerStep state .dropIngress
        { state with ingressDropCount := state.ingressDropCount + 1 }
  | tabsReconciled (tabs : List TabInfo) :
      TriggerStep state (.reconcileTabs tabs)
        { state with runtime := state.runtime.reconcileTabs tabs }
  | begun (command : RegistryCommand) (free : state.transactionHeld = false) :
      TriggerStep state (.begin command)
        { state with transactionHeld := true, command := some (.started command) }
  | chosen (command) (stands : state.command = some (.started command)) :
      TriggerStep state .choose
        { state with command := some (chosenPhase state.runtime command) }
  | cursorRead (edit) (stands : state.command = some (.measuring edit)) :
      TriggerStep state .readCursor
        { state with command := some (.counting edit state.observatory.requestCursor) }
  | dropCountRead (edit cursor) (stands : state.command = some (.counting edit cursor)) :
      TriggerStep state .readDropCount
        { state with
          command := some (.ready edit (some
            { cursor := cursor, observedIngressDropCount := state.ingressDropCount,
              primed := true })) }
  | committed (edit baseline) (stands : state.command = some (.ready edit baseline)) :
      TriggerStep state .commit
        { state with
          runtime := applyEdit state.runtime edit baseline
          armedCursor := state.recordArming edit baseline
          command := some .finished }
  | ended (phase) (stands : state.command = some phase) :
      TriggerStep state .endCommand { state with command := none, transactionHeld := false }
  | granted (task) (running : task ∈ state.book.tasks) (free : state.transactionHeld = false) :
      TriggerStep state (.deliver task (.ok ()))
        { state with book := state.book.deliver task (.ok ()), transactionHeld := true }
  | refused (task) (error : ErrorEnvelope) (running : task ∈ state.book.tasks) :
      TriggerStep state (.deliver task (.error error))
        { state with book := state.book.deliver task (.error error) }
  | vanished (task) (running : task ∈ state.book.tasks) :
      TriggerStep state (.vanish task) { state with book := state.book.vanish task }
  | cleared (idle : state.position = .idle) (free : state.handling = none) :
      TriggerStep state .list
        { state with book := state.book.abortAll, entries := fun _ => none }
  | listed (idle : state.position = .idle) (free : state.handling = none) :
      TriggerStep state .list { state with position := .listed state.runtime.triggers }
  | refreshed (triggers) (succeeds : Bool) (stands : state.position = .listed triggers) :
      TriggerStep state (.refresh succeeds)
        { state with position := if succeeds then .refreshed triggers else .idle }
  | reconciled (triggers) (stands : state.position = .refreshed triggers) :
      TriggerStep state .reconcile
        { state with
          entries := reconcileWorkerState state.entries triggers
            state.runtime.networkRequestBaselines
          book := state.book.retain (keepsReservation triggers)
          position := .draining triggers }
  | cycleEnded (stands : state.position = .draining []) (free : state.handling = none) :
      TriggerStep state .next { state with position := .idle }
  | skipped (trigger later) (stands : state.position = .draining (trigger :: later))
      (free : state.handling = none) :
      TriggerStep state .next
        { state with book := state.book.cancel trigger.id, position := afterSkip later }
  | passed (trigger later) (stands : state.position = .draining (trigger :: later))
      (free : state.handling = none) :
      TriggerStep state .next { state with position := .draining later }
  | started (trigger later book) (stands : state.position = .draining (trigger :: later))
      (free : state.handling = none) (armed : trigger.status = .armed)
      (kept : book = state.book ∨ book = state.book.cancel trigger.id) :
      TriggerStep state .next { state with book := book, position := .judging trigger later }
  | windowRead (trigger later entry) (stands : state.position = .judging trigger later)
      (network : trigger.isNetworkRequest = true) (found : state.entries trigger.id = some entry)
      (primed : entry.networkCursorPrimed = true) :
      TriggerStep state .readWindow
        { state with
          position := .counting trigger later
            (readNetworkWindow state.observatory state.ingressDropCount entry) }
  | unprimed (trigger later) (error : ErrorEnvelope)
      (stands : state.position = .judging trigger later) :
      TriggerStep state .readWindow
        { state with position := .deciding trigger later (.error error) }
  | judged (trigger later window entry) (stands : state.position = .counting trigger later window)
      (found : state.entries trigger.id = some entry) :
      TriggerStep state .judgeWindow
        { state with
          entries := Function.update state.entries trigger.id
            (some (judgeNetworkWindow trigger window state.ingressDropCount entry).2)
          evaluations := state.evaluations ++ [trigger.ruleGeneration]
          position := .deciding trigger later
            (judgeNetworkWindow trigger window state.ingressDropCount entry).1 }
  | evaluated (trigger later) (reading : ConditionReading)
      (stands : state.position = .judging trigger later) :
      TriggerStep state (.evaluate reading)
        { state with
          evaluations := state.evaluations ++ [trigger.ruleGeneration]
          position := .deciding trigger later reading.conditionState }
  | failed (trigger later) (error reported : ErrorEnvelope)
      (stands : state.position = .deciding trigger later (.error error)) :
      TriggerStep state .decide
        { state with
          runtime := recordTriggerFailure state.runtime trigger reported none none .preserve
          position := .draining later }
  | settled (trigger later condition) (evidence : Option TriggerEvidenceInfo)
      (stands : state.position = .deciding trigger later (.ok condition)) :
      TriggerStep state .decide
        (state.settleRule trigger later evidence condition.networkProgress)
  | stillPending (trigger later condition)
      (stands : state.position = .deciding trigger later (.ok condition)) :
      TriggerStep state .decide { state with position := .draining later }
  | spawned (trigger later condition)
      (stands : state.position = .deciding trigger later (.ok (.triggered condition)))
      (vacant : state.book.pending trigger.id = none)
      (fresh : trigger.consumedEvidenceFingerprint ≠ some condition.evidenceFingerprint) :
      TriggerStep state .decide
        { state with
          book := state.book.spawn trigger.id (reservationPolicy trigger condition)
          position := .draining later }
  | accepted (completion) (channel : List (ReservationCompletion ErrorEnvelope)) (pending)
      (free : state.handling = none) (first : state.book.channel = completion :: channel)
      (receives : receivesCompletions state.position = true)
      (claimed : ((state.book.withChannel channel).claim completion).1 = some pending) :
      TriggerStep state (.receive false)
        { state with
          book := ((state.book.withChannel channel).claim completion).2
          handling := some (acceptedHandling completion pending.policy) }
  | dropped (completion) (channel : List (ReservationCompletion ErrorEnvelope))
      (shuttingDown : Bool) (free : state.handling = none)
      (first : state.book.channel = completion :: channel) :
      TriggerStep state (.receive shuttingDown)
        { state with
          book := ((state.book.withChannel channel).claim completion).2
          transactionHeld := state.transactionHeld && !completion.granted }
  | finished (action : TriggerSessionAction) (handling) (handles : state.handling = some handling) :
      TriggerStep state action (state.finishHandling handling)
  | blocked (handling) (error : ErrorEnvelope) (handles : state.handling = some handling)
      (phase : handling.phase = .granted) :
      TriggerStep state (.handoffBlocked error)
        (state.inPhase handling (.reporting error
          (handling.policy.preservedTriggered.map (·.evidence))))
  | reported (action : TriggerSessionAction) (handling) (error : ErrorEnvelope)
      (handles : state.handling = some handling) :
      TriggerStep state action (state.reportFailure handling error)
  | liveRead (handling trigger) (handles : state.handling = some handling)
      (phase : handling.phase = .granted)
      (live : state.runtime.triggerRule handling.ruleId = some trigger)
      (armed : trigger.status = .armed)
      (current : trigger.lifecycleGeneration = handling.policy.expectedLifecycleGeneration) :
      TriggerStep state .readLive (state.inPhase handling (.refreshing trigger))
  | resumed (handling trigger) (handles : state.handling = some handling)
      (phase : handling.phase = .refreshing trigger) :
      TriggerStep state (.refreshTabs true) (state.inPhase handling (.revalidating trigger))
  | withdrawn (handling trigger) (reading : ConditionReading)
      (handles : state.handling = some handling) (phase : handling.phase = .revalidating trigger) :
      TriggerStep state (.revalidate reading)
        (state.settleEvidence handling trigger none handling.policy.fallbackNetworkProgress)
  | consumed (action : TriggerSessionAction) (handling) (trigger : TriggerInfo)
      (condition : TriggeredTriggerCondition) (handles : state.handling = some handling)
      (revalidated : Revalidated handling trigger condition) :
      TriggerStep state action
        (state.settleEvidence handling trigger (some condition.evidence)
          (condition.networkProgress.or handling.policy.fallbackNetworkProgress))
  | reserved (action : TriggerSessionAction) (handling) (trigger : TriggerInfo)
      (condition : TriggeredTriggerCondition) (handles : state.handling = some handling)
      (revalidated : Revalidated handling trigger condition) :
      TriggerStep state action
        (state.inPhase handling (.reserved (reservedExecution handling trigger condition)))
  | liveReported (handling trigger) (error : ErrorEnvelope)
      (evidence : Option TriggerEvidenceInfo) (handles : state.handling = some handling)
      (live : state.runtime.triggerRule handling.ruleId = some trigger) :
      TriggerStep state .report (state.inPhase handling (.recording trigger error evidence))
  | recorded (action : TriggerSessionAction) (handling trigger) (error : ErrorEnvelope)
      (evidence : Option TriggerEvidenceInfo) (handles : state.handling = some handling)
      (snapshot : handling.phase.snapshot = some trigger) :
      TriggerStep state action
        ({ state with
          runtime := recordTriggerFailure state.runtime trigger error evidence none .preserve
          }.finishHandling handling)
  | executionFailed (action : TriggerSessionAction) (handling execution) (error : ErrorEnvelope)
      (handles : state.handling = some handling)
      (phase : handling.phase = .reserved execution ∨ handling.phase = .dispatched execution) :
      TriggerStep state action (state.failExecution handling execution error)
  | dispatched (handling execution) (handles : state.handling = some handling)
      (phase : handling.phase = .reserved execution) :
      TriggerStep state .dispatch
        { state with
          dispatches := state.dispatches ++
            [⟨execution.trigger.id, handling.policy.expectedLifecycleGeneration⟩]
          handling := some { handling with phase := .dispatched execution } }
  | succeeded (handling execution) (result : Option Json)
      (handles : state.handling = some handling) (phase : handling.phase = .dispatched execution) :
      TriggerStep state (.actionSucceeded result)
        (state.succeedExecution handling execution result)

variable {state next : TriggerSession} {action : TriggerSessionAction}

theorem command_step (taken : state.stepCommand action = some next) :
    TriggerStep state action next := by
  cases action <;> simp only [stepCommand] at taken <;> (repeat' split at taken) <;> cases taken
  · exact .begun _ (Bool.eq_false_of_not_eq_true ‹_›)
  · exact .chosen _ ‹_›
  · exact .cursorRead _ ‹_›
  · exact .dropCountRead _ _ ‹_›
  · exact .committed _ _ ‹_›
  · obtain ⟨phase, stands⟩ := Option.isSome_iff_exists.mp ‹_›
    exact .ended phase stands

theorem task_step (taken : state.stepTask action = some next) : TriggerStep state action next := by
  cases action <;> simp only [stepTask] at taken <;> (repeat' split at taken) <;> cases taken
  · exact .granted _ ‹_› (Bool.eq_false_of_not_eq_true ‹_›)
  · exact .refused _ _ ‹_›
  · rename_i running
    exact .vanished _ running.1

variable {trigger : TriggerInfo}

private theorem start_step {later : List TriggerInfo}
    (stands : state.position = .draining (trigger :: later)) (free : state.handling = none)
    (armed : trigger.status = .armed) :
    TriggerStep state .next (state.startRule trigger later) := by
  unfold startRule
  cases state.book.pending trigger.id with
  | none => exact .started trigger later state.book stands free armed (.inl rfl)
  | some =>
    dsimp only
    split
    · exact .started trigger later state.book stands free armed (.inl rfl)
    · split
      · exact .passed trigger later stands free
      · exact .started trigger later _ stands free armed (.inr rfl)

private theorem next_step (taken : state.stepCycle .next = some next) :
    TriggerStep state .next next := by
  simp only [stepCycle] at taken
  (repeat' split at taken) <;> cases taken
  · exact .cycleEnded ‹_› ‹_›
  · rename_i processed
    simp only [TriggerInfo.isArmed, Bool.and_eq_true, beq_iff_eq] at processed
    exact start_step ‹_› ‹_› processed.1
  · exact .skipped _ _ ‹_› ‹_›

theorem window_step (taken : state.stepCycle .readWindow = some next) :
    TriggerStep state .readWindow next := by
  simp only [stepCycle] at taken
  (repeat' split at taken) <;> try cases taken
  obtain ⟨entry, found, rfl⟩ := Option.map_eq_some_iff.mp taken
  split
  · exact .windowRead _ _ entry ‹_› ‹_› found ‹_›
  · exact .unprimed _ _ _ ‹_›

theorem decide_step {later : List TriggerInfo}
    {condition : Except ErrorEnvelope TriggerConditionState}
    (stands : state.position = .deciding trigger later condition) :
    TriggerStep state .decide (state.decideRule trigger later condition) := by
  cases condition with
  | error error => exact .failed trigger later error _ stands
  | ok condition =>
    cases condition with
    | notTriggered => exact .settled trigger later _ none stands
    | triggered condition =>
      unfold decideRule
      dsimp only
      split
      · exact .settled trigger later _ (some condition.evidence) stands
      · rename_i fresh
        split
        · exact .stillPending trigger later _ stands
        · rename_i vacant
          exact .spawned trigger later condition stands (by simpa using vacant) fresh

private theorem cycle_step (taken : state.stepCycle action = some next) :
    TriggerStep state action next := by
  cases action with
  | next => exact next_step taken
  | readWindow => exact window_step taken
  | judgeWindow =>
    simp only [stepCycle] at taken
    split at taken
    · obtain ⟨entry, found, rfl⟩ := Option.map_eq_some_iff.mp taken
      exact .judged _ _ _ entry ‹_› found
    · cases taken
  | refresh succeeds =>
    simp only [stepCycle] at taken
    split at taken <;> cases taken
    exact .refreshed _ succeeds ‹_›
  | list | reconcile | evaluate | decide =>
    simp only [stepCycle] at taken
    (repeat' split at taken) <;> cases taken <;> first
      | exact .cleared ‹_› ‹_›
      | exact .listed ‹_› ‹_›
      | exact .reconciled _ ‹_›
      | exact .evaluated _ _ _ ‹_›
      | exact decide_step ‹_›
  | _ => cases taken

variable {handling : CompletionHandling}

section

variable (handles : state.handling = some handling)

include handles

theorem reserve_step {condition : TriggeredTriggerCondition}
    (revalidated : Revalidated handling trigger condition) :
    TriggerStep state action (state.reserve handling trigger condition) := by
  unfold reserve
  split
  · exact .consumed action handling trigger condition handles revalidated
  · exact .reserved action handling trigger condition handles revalidated

theorem resume_step (phase : handling.phase = .refreshing trigger) :
    TriggerStep state (.refreshTabs true) (state.resumeRule handling trigger) := by
  unfold resumeRule
  dsimp only
  split
  · exact .finished _ handling handles
  · split
    · exact .finished _ handling handles
    · split
      · exact .resumed handling trigger handles phase
      · cases kept : handling.policy.preservedTriggered with
        | none => exact .reported _ handling _ handles
        | some => exact reserve_step handles (.inr ⟨phase, kept⟩)

private theorem handling_step (taken : state.stepHandling handling action = some next) :
    TriggerStep state action next := by
  cases action with
  | readLive =>
    simp only [stepHandling] at taken
    (repeat' split at taken) <;> cases taken
    · rename_i fresh
      simp only [TriggerInfo.isArmed, Bool.and_eq_true, beq_iff_eq] at fresh
      exact .liveRead handling _ handles ‹_› ‹_› fresh.1.1 fresh.2
    all_goals exact .finished _ handling handles
  | refreshTabs succeeds =>
    simp only [stepHandling] at taken
    split at taken <;> cases taken
    cases succeeds with
    | true => exact resume_step handles ‹_›
    | false => exact .finished _ handling handles
  | revalidate reading =>
    simp only [stepHandling] at taken
    split at taken
    · cases reading <;> cases taken
      · exact .reported _ handling _ handles
      · exact .withdrawn handling _ .absent handles ‹_›
      · exact reserve_step handles (.inl ⟨‹_›, rfl⟩)
    · cases taken
  | report =>
    simp only [stepHandling] at taken
    (repeat' split at taken) <;> cases taken
    · exact .liveReported handling _ _ _ handles ‹_›
    · exact .finished _ handling handles
  | handoffBlocked error =>
    simp only [stepHandling] at taken
    split at taken <;> cases taken
    · exact .blocked handling error handles ‹_›
    · exact .recorded _ handling _ error _ handles (by simp only [*]; rfl)
  | record =>
    simp only [stepHandling] at taken
    split at taken <;> cases taken
    exact .recorded _ handling _ _ _ handles (by simp only [*]; rfl)
  | shutDown =>
    simp only [stepHandling] at taken
    split at taken <;> cases taken
    exact .finished _ handling handles
  | failBeforeDispatch error =>
    simp only [stepHandling] at taken
    split at taken <;> cases taken
    exact .executionFailed _ handling _ error handles (.inl ‹_›)
  | dispatch =>
    simp only [stepHandling] at taken
    split at taken <;> cases taken
    exact .dispatched handling _ handles ‹_›
  | actionFailed error =>
    simp only [stepHandling] at taken
    split at taken <;> cases taken
    exact .executionFailed _ handling _ error handles (.inr ‹_›)
  | actionSucceeded result =>
    simp only [stepHandling] at taken
    split at taken <;> cases taken
    exact .succeeded handling _ result handles ‹_›
  | _ => cases taken

end

private theorem receive_step {completion : ReservationCompletion ErrorEnvelope}
    {channel : List (ReservationCompletion ErrorEnvelope)} {shuttingDown : Bool}
    (free : state.handling = none) (first : state.book.channel = completion :: channel)
    (receives : receivesCompletions state.position = true) :
    TriggerStep state (.receive shuttingDown)
      (state.receiveCompletion completion channel shuttingDown) := by
  unfold receiveCompletion
  dsimp only
  cases claimed : ((state.book.withChannel channel).claim completion).1 with
  | none => exact .dropped completion channel shuttingDown free first
  | some pending =>
    cases state.entries completion.ruleId with
    | none => exact .dropped completion channel shuttingDown free first
    | some =>
      cases shuttingDown with
      | true => exact .dropped completion channel true free first
      | false => exact .accepted completion channel pending free first receives claimed

theorem completion_step (taken : state.stepCompletion action = some next) :
    TriggerStep state action next := by
  cases free : state.handling with
  | some =>
    refine handling_step free ?_
    cases action <;> simpa only [stepCompletion, free] using taken
  | none =>
    cases action <;> simp only [stepCompletion, free, reduceCtorEq] at taken
    cases first : state.book.channel with
    | nil => simp [first] at taken
    | cons =>
      simp only [first] at taken
      split at taken
      · rename_i receives
        cases taken
        exact receive_step free first receives
      · cases taken

theorem step_cases (taken : state.step action = some next) : TriggerStep state action next := by
  cases action with
  | observe observed =>
    cases taken
    exact .observed observed
  | dropIngress =>
    cases taken
    exact .ingressDropped
  | reconcileTabs tabs =>
    cases taken
    exact .tabsReconciled tabs
  | begin _ | choose | readCursor | readDropCount | commit | endCommand => exact command_step taken
  | deliver | vanish => exact task_step taken
  | list | refresh | reconcile | next | readWindow | judgeWindow | evaluate | decide =>
    exact cycle_step taken
  | _ => exact completion_step taken

end Rub.TriggerSession
