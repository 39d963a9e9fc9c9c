import Rub.OrchestrationFiring
import Rub.TriggerFiring

/-!
Completions of reservation attempts that were given up. Both workers take the pending attempt
of a rule out before they compare its number with the one of the completion, so a stale
completion is harmless only while its rule waits for nothing. That is so in every run in which
no attempt is made for a rule while an earlier one is outstanding.
-/

namespace Rub

variable {completion : ReservationCompletion ErrorEnvelope}
  {channel : List (ReservationCompletion ErrorEnvelope)} {shuttingDown : Bool}

namespace TriggerSession

variable {state next : TriggerSession} {action : TriggerSessionAction}

/-- The worker asks for a reservation although an earlier attempt for the rule has not been
received yet. -/
def crowdsReservation (state : TriggerSession) : TriggerSessionAction → Bool
  | .decide =>
    match state.position with
    | .deciding trigger _ (.ok (.triggered condition)) =>
      trigger.consumedEvidenceFingerprint != some condition.evidenceFingerprint &&
        (state.book.pending trigger.id).isNone && state.book.outstanding trigger.id
    | _ => false
  | _ => false

theorem TriggerStep.orderly (step : TriggerStep state action next)
    (orderly : state.book.Orderly) (roomy : state.crowdsReservation action = false) :
    next.book.Orderly := by
  cases step with
  | granted _ running | refused _ _ running => exact orderly.deliver running _
  | vanished task => exact orderly.vanish task
  | cleared | reconciled | skipped | settled => exact orderly.retain _
  | started _ _ _ _ _ _ kept =>
    rcases kept with rfl | rfl
    · exact orderly
    · exact orderly.retain _
  | spawned _ _ _ stands vacant fresh =>
    refine orderly.spawn _ ?_
    simpa [crowdsReservation, stands, vacant, fresh] using roomy
  | accepted _ _ _ _ first | dropped _ _ _ _ first => exact orderly.claim first
  | _ => exact orderly

theorem orderly_of_run {actions : List TriggerSessionAction}
    (roomy : triggerSystem.Along (fun state action => state.crowdsReservation action = false)
      .initial actions)
    (run : triggerSystem.runFrom .initial actions = some state) : state.book.Orderly :=
  triggerSystem.runFrom_preserves_along
    (fun _ _ _ orderly allowed taken => (step_cases taken).orderly orderly allowed)
    ReservationBook.orderly_empty roomy run

theorem step_receive (first : state.book.channel = completion :: channel)
    (taken : state.step (.receive shuttingDown) = some next) :
    next = state.receiveCompletion completion channel shuttingDown := by
  cases handles : state.handling with
  | some => simp [step, stepCompletion, handles, stepHandling] at taken
  | none =>
    simp only [step, stepCompletion, handles, first] at taken
    split at taken
    · exact (Option.some.inj taken).symm
    · cases taken

theorem receiveCompletion_book : (state.receiveCompletion completion channel shuttingDown).book =
      ((state.book.withChannel channel).claim completion).2 := by
  unfold receiveCompletion
  dsimp only
  split <;> rfl

end TriggerSession

namespace OrchestrationSession

variable {state next : OrchestrationSession} {action : OrchestrationAction}

/-- The worker asks for a reservation although an earlier attempt for the rule has not been
received yet. -/
def crowdsReservation (state : OrchestrationSession) : OrchestrationAction → Bool
  | .evaluate probe =>
    match state.position with
    | .judging rule _ =>
      match state.entries rule.id with
      | some entry =>
        match loadOrchestrationConditionState rule probe entry with
        | (.ok (.triggered condition), loaded) =>
          loaded.latchedEvidenceKey != some condition.evidenceKey &&
            (state.book.pending rule.id).isNone && state.book.outstanding rule.id
        | _ => false
      | none => false
    | _ => false
  | _ => false

theorem OrchestrationStep.orderly (step : OrchestrationStep state action next)
    (orderly : state.book.Orderly) (roomy : state.crowdsReservation action = false) :
    next.book.Orderly := by
  cases step with
  | delivered _ _ running => exact orderly.deliver running _
  | vanished task => exact orderly.vanish task
  | unsupported | cleared | reconciled | conditionAbsent => exact orderly.retain _
  | passed _ _ _ _ _ _ kept | started _ _ _ _ _ kept =>
    rcases kept with rfl | rfl
    · exact orderly
    · exact orderly.retain _
  | @spawned rule _ probe entry _ judges unlatched vacant =>
    refine orderly.spawn _ ?_
    simp only [crowdsReservation, judges.stands, judges.found] at roomy
    rw [← Prod.mk.eta (p := loadOrchestrationConditionState rule probe entry)] at roomy
    simpa [judges.answered, unlatched, vacant] using roomy
  | accepted _ _ _ _ _ first | dropped _ _ _ _ first => exact orderly.claim first
  | _ => exact orderly

theorem orderly_of_run {actions : List OrchestrationAction}
    (roomy : orchestrationSystem.Along (fun state action => state.crowdsReservation action = false)
      .initial actions)
    (run : orchestrationSystem.runFrom .initial actions = some state) : state.book.Orderly :=
  orchestrationSystem.runFrom_preserves_along
    (fun _ _ _ orderly allowed taken => (step_inversion taken).orderly orderly allowed)
    ReservationBook.orderly_empty roomy run

theorem step_receive (first : state.book.channel = completion :: channel)
    (taken : state.step (.receive shuttingDown) = some next) :
    next = state.receiveCompletion completion channel shuttingDown := by
  cases handles : state.handling with
  | some handling =>
    cases phase : handling.phase <;> simp [step, handles, stepHandling, phase] at taken
  | none =>
    simp only [step, stepReceive, handles, first] at taken
    split at taken
    · exact (Option.some.inj taken).symm
    · cases taken

theorem receiveCompletion_book : (state.receiveCompletion completion channel shuttingDown).book =
      ((state.book.withChannel channel).claim completion).2 := by
  unfold receiveCompletion
  dsimp only
  split
  · split
    · rfl
    · split <;> rfl
  · rfl

end OrchestrationSession

/-- In the runs of both workers in which no attempt is made while an earlier one for the rule
is outstanding: a completion of another attempt than the pending one leaves the pending map
as it is, and the completion of the pending attempt is accepted when it comes. -/
theorem stale_completions_harmless {triggerActions : List TriggerSessionAction}
    {orchestrationActions : List OrchestrationAction} {triggers : TriggerSession}
    {orchestrations : OrchestrationSession} (triggersRoomy : triggerSystem.Along
      (fun state action => state.crowdsReservation action = false) .initial triggerActions)
    (triggersRun : triggerSystem.runFrom .initial triggerActions = some triggers)
    (orchestrationsRoomy : orchestrationSystem.Along
      (fun state action => state.crowdsReservation action = false) .initial orchestrationActions)
    (orchestrationsRun :
      orchestrationSystem.runFrom .initial orchestrationActions = some orchestrations) :
    (∀ completion channel shuttingDown next,
      triggers.book.channel = completion :: channel →
        triggers.step (.receive shuttingDown) = some next →
        ((∀ pending, triggers.book.pending completion.ruleId = some pending →
            pending.attemptId ≠ completion.attemptId) →
          next.book.pending = triggers.book.pending) ∧
        ∀ pending, triggers.book.pending completion.ruleId = some pending →
          (triggers.entries completion.ruleId).isSome = true → shuttingDown = false →
            next.handling = some (TriggerSession.acceptedHandling completion pending.policy)) ∧
    ∀ completion channel shuttingDown next,
      orchestrations.book.channel = completion :: channel →
        orchestrations.step (.receive shuttingDown) = some next →
        ((∀ pending, orchestrations.book.pending completion.ruleId = some pending →
            pending.attemptId ≠ completion.attemptId) →
          next.book.pending = orchestrations.book.pending) ∧
        ∀ pending, orchestrations.book.pending completion.ruleId = some pending →
          (orchestrations.entries completion.ruleId).isSome = true → shuttingDown = false →
            next.handling = some
              { ruleId := completion.ruleId, policy := pending.policy,
                phase := OrchestrationSession.acceptedPhase completion } := by
  refine ⟨?_, ?_⟩
  · intro completion channel shuttingDown next first taken
    have orderly := TriggerSession.orderly_of_run triggersRoomy triggersRun
    obtain rfl := TriggerSession.step_receive first taken
    refine ⟨fun stale => ?_, fun pending waits entered running => ?_⟩
    · rw [TriggerSession.receiveCompletion_book]
      exact orderly.claim_stale first stale
    · obtain ⟨entry, found⟩ := Option.isSome_iff_exists.mp entered
      have claimed := orderly.claim_received first waits
      simp only [TriggerSession.receiveCompletion, claimed, found, running]
  · intro completion channel shuttingDown next first taken
    have orderly := OrchestrationSession.orderly_of_run orchestrationsRoomy orchestrationsRun
    obtain rfl := OrchestrationSession.step_receive first taken
    refine ⟨fun stale => ?_, fun pending waits entered running => ?_⟩
    · rw [OrchestrationSession.receiveCompletion_book]
      exact orderly.claim_stale first stale
    · obtain ⟨entry, found⟩ := Option.isSome_iff_exists.mp entered
      have claimed := orderly.claim_received first waits
      cases result : completion.result <;>
        simp [OrchestrationSession.receiveCompletion, OrchestrationSession.acceptedPhase, claimed,
          found, running, result]

open TriggerSession (commandRun cycleStart)

/-- A cycle that asks for a reservation; `between` happens while the condition is evaluated. -/
def askingCycle (between : List TriggerSessionAction) : List TriggerSessionAction :=
  cycleStart ++ between ++ [.evaluate (.present TriggerSession.seenText), .decide]

/-- The task of an attempt that is given up goes on past its abortion. -/
def abortedTask : ReservationTask := { ruleId := 1, attemptId := 1, aborted := true }

def askingTriggers : List TriggerSessionAction :=
  commandRun (.add TriggerSession.textTrigger) ++ askingCycle []

/-- The rule is paused and resumed, so the next cycle gives the attempt up and makes another. -/
def crowdedTriggers : List TriggerSessionAction :=
  askingTriggers ++ [.next] ++ commandRun (.setStatus 1 .paused) ++
    commandRun (.setStatus 1 .armed) ++ askingCycle [.deliver abortedTask (.ok ())]

def askingOrchestrations : List OrchestrationAction :=
  OrchestrationSession.registeringRun 0 ++
    [.list, .reconcile, .next, .evaluate OrchestrationSession.seenText]

def crowdedOrchestrations : List OrchestrationAction :=
  askingOrchestrations ++
    [.next, .command (.setStatus 1 .paused none), .command (.setStatus 1 .armed none), .list,
      .reconcile, .next, .deliver abortedTask (.ok ()), .evaluate OrchestrationSession.seenText]

/-- In some run a stale completion takes the pending attempt out. -/
def TakesPending {State Action Policy Refusal : Type} (system : TransitionSystem State Action)
    (receive : Action) (book : State → ReservationBook Policy Refusal) : Prop :=
  ∃ actions state completion channel pending next,
    system.runFrom system.initial actions = some state ∧
      (book state).channel = completion :: channel ∧
      (book state).pending completion.ruleId = some pending ∧
      pending.attemptId ≠ completion.attemptId ∧ system.step state receive = some next ∧
      (book next).pending completion.ruleId = none

/-- The completion of the attempt that was pending will find nothing. -/
theorem stale_completion_takes_pending :
    TakesPending triggerSystem (.receive false) TriggerSession.book ∧
      TakesPending orchestrationSystem (.receive false) OrchestrationSession.book :=
  ⟨⟨crowdedTriggers, TriggerSession.sessionAfter crowdedTriggers, _, _, _, _, by rfl, by rfl,
      by rfl, by decide, by rfl, by rfl⟩,
    ⟨crowdedOrchestrations, OrchestrationSession.sessionAfter crowdedOrchestrations, _, _, _, _,
      by rfl, by rfl, by rfl, by decide, by rfl, by rfl⟩⟩

/-- A cycle sees the rule paused and gives the attempt up, which completes all the same. -/
def lateTriggers : List TriggerSessionAction :=
  askingTriggers ++ [.next] ++ commandRun (.setStatus 1 .paused) ++
    [.list, .refresh true, .reconcile, .deliver abortedTask (.ok ())]

def lateOrchestrations : List OrchestrationAction :=
  askingOrchestrations ++ [.next, .command (.setStatus 1 .paused none), .list, .reconcile,
    .deliver abortedTask (.ok ())]

/-- The late completion is received, and the resumed rule has its second attempt granted. -/
def grantedTriggers : List TriggerSessionAction :=
  lateTriggers ++ [.receive false, .next] ++ commandRun (.setStatus 1 .armed) ++
    askingCycle [] ++ [.deliver { abortedTask with attemptId := 2, aborted := false } (.ok ())]

def grantedOrchestrations : List OrchestrationAction :=
  lateOrchestrations ++ [.receive false, .next, .command (.setStatus 1 .armed none), .list,
    .reconcile, .next, .evaluate OrchestrationSession.seenText,
    .deliver { abortedTask with attemptId := 2, aborted := false } (.ok ())]

theorem received_attempts_accepted :
    (∃ received accepted,
      (TriggerSession.sessionAfter lateTriggers).step (.receive false) = some received ∧
        received.book.pending = (TriggerSession.sessionAfter lateTriggers).book.pending ∧
        (TriggerSession.sessionAfter grantedTriggers).step (.receive false) = some accepted ∧
        accepted.handling.map (·.ruleId) = some 1) ∧
    ∃ received accepted,
      (OrchestrationSession.sessionAfter lateOrchestrations).step (.receive false) =
          some received ∧
        received.book.pending =
          (OrchestrationSession.sessionAfter lateOrchestrations).book.pending ∧
        (OrchestrationSession.sessionAfter grantedOrchestrations).step (.receive false) =
          some accepted ∧
        accepted.handling.map (·.ruleId) = some 1 := by
  have late := stale_completions_harmless
    (show triggerSystem.Along _ .initial lateTriggers by decide)
    (show _ = some (TriggerSession.sessionAfter lateTriggers) by rfl)
    (show orchestrationSystem.Along _ .initial lateOrchestrations by decide)
    (show _ = some (OrchestrationSession.sessionAfter lateOrchestrations) by rfl)
  have granted := stale_completions_harmless
    (show triggerSystem.Along _ .initial grantedTriggers by decide)
    (show _ = some (TriggerSession.sessionAfter grantedTriggers) by rfl)
    (show orchestrationSystem.Along _ .initial grantedOrchestrations by decide)
    (show _ = some (OrchestrationSession.sessionAfter grantedOrchestrations) by rfl)
  refine ⟨⟨_, _, by rfl, ?_, by rfl, ?_⟩, ⟨_, _, by rfl, ?_, by rfl, ?_⟩⟩
  · exact (late.1 ⟨1, 1, .ok ()⟩ [] false _ (by rfl) (by rfl)).1 (by rintro _ ⟨⟩)
  · exact congrArg (Option.map (·.ruleId))
      ((granted.1 ⟨1, 2, .ok ()⟩ [] false _ (by rfl) (by rfl)).2 _ (by rfl) (by rfl) rfl)
  · exact (late.2 ⟨1, 1, .ok ()⟩ [] false _ (by rfl) (by rfl)).1 (by rintro _ ⟨⟩)
  · exact congrArg (Option.map (·.ruleId))
      ((granted.2 ⟨1, 2, .ok ()⟩ [] false _ (by rfl) (by rfl)).2 _ (by rfl) (by rfl) rfl)

end Rub
