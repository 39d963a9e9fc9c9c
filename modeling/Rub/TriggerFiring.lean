import Rub.RegistryMoves
import Rub.TriggerCoherence

/-!
A trigger fires at most once. An action is dispatched only under the live rule, armed and in
the generation its condition was evaluated in, and a rule whose outcome was recorded as fired
stays fired.
-/

namespace Rub.TriggerSession

open TriggerRuntimeState
open RuleRegistry (Moves Edits number_of_find lt_nextId_of_find find_edit_self edits_self)

variable {state next final : TriggerSession} {action : TriggerSessionAction}

/-- Every reservation goes back to an evaluation of its rule in the expected generation. -/
structure Evaluated (state : TriggerSession) : Prop where
  decided : ∀ trigger later condition,
    state.position = .deciding trigger later (.ok condition) →
      trigger.ruleGeneration ∈ state.evaluations
  pending : ∀ id pending, state.book.pending id = some pending →
    ⟨id, pending.policy.expectedLifecycleGeneration⟩ ∈ state.evaluations
  handled : ∀ handling, state.handling = some handling →
    ⟨handling.ruleId, handling.policy.expectedLifecycleGeneration⟩ ∈ state.evaluations

theorem evaluated_initial : Evaluated .initial where
  decided := by simp [initial]
  pending := by simp [initial, ReservationBook.empty]
  handled := by simp [initial]

theorem TriggerStep.evaluations (step : TriggerStep state action next) :
    state.evaluations ⊆ next.evaluations := by
  cases step with
  | judged | evaluated => exact List.subset_append_left _ _
  | _ => exact fun _ member => member

theorem TriggerStep.decided (step : TriggerStep state action next)
    (decided : ∀ trigger later condition, state.position = .deciding trigger later (.ok condition) →
        trigger.ruleGeneration ∈ state.evaluations)
    {trigger : TriggerInfo} {later : List TriggerInfo} {condition : TriggerConditionState}
    (stands : next.position = .deciding trigger later (.ok condition)) :
    trigger.ruleGeneration ∈ next.evaluations := by
  cases step with
  | listed | reconciled | cycleEnded | passed | started | windowRead | unprimed | failed
  | settled | stillPending | spawned => cases stands
  | refreshed _ succeeds => cases succeeds <;> cases stands
  | skipped _ later' => cases later' <;> cases stands
  | judged | evaluated =>
    injection stands with same
    rw [← same]
    exact List.mem_append_right _ List.mem_cons_self
  | _ => exact decided trigger later condition stands

theorem Evaluated.step (evaluated : Evaluated state) (step : TriggerStep state action next) :
    Evaluated next := by
  have grows := step.evaluations
  constructor
  · intro trigger later condition stands
    exact step.decided evaluated.decided stands
  · intro id pending found
    rcases step.pending found with kept | ⟨trigger, later, condition, stands, rfl, policy⟩
    · exact grows (evaluated.pending id pending kept)
    · rw [policy]
      exact grows (evaluated.decided trigger later _ stands)
  · intro handling handles
    rcases step.handling handles with ⟨old, was, ruleId, policy⟩ | ⟨pending, waits, policy⟩
    · rw [← ruleId, ← policy]
      exact grows (evaluated.handled old was)
    · rw [← policy]
      exact grows (evaluated.pending _ pending waits)

variable {id : Nat}

/-- The rule has fired: it is gone, or its status is final. -/
def Fired (runtime : TriggerRuntimeState) (id : Nat) : Prop :=
  id < runtime.registry.nextId ∧ ∀ live, runtime.triggerRule id = some live → live.status = .fired

variable {runtime after : TriggerRuntimeState} {status : TriggerStatus}

theorem Fired.moves {Related : TriggerInfo → TriggerInfo → Prop} (fired : Fired runtime id)
    (moves : Moves Related runtime.registry after.registry)
    (stays : ∀ old new, old.id = id → Related old new → old.status = .fired → new.status = .fired) :
    Fired after id := by
  refine ⟨Nat.lt_of_lt_of_le fired.1 moves.nextId, fun live found => ?_⟩
  obtain ⟨old, was, related⟩ := moves.rule id live fired.1 found
  exact stays old live (number_of_find was) related (fired.2 old was)

theorem Fired.retouched (fired : Fired runtime id)
    (edits : Edits Retouches runtime.registry after.registry) : Fired after id :=
  fired.moves edits.moves fun _ _ _ retouched was => retouched.status.trans was

theorem Fired.applyEdit {runtime : TriggerRuntimeState} {edit : RegistryEdit}
    (fired : Fired runtime id) (baseline : Option NetworkRequestBaseline)
    (untouched : ∀ status, edit ≠ .setStatus id status) :
    Fired (TriggerSession.applyEdit runtime edit baseline) id := by
  cases edit with
  | register trigger =>
    exact fired.moves (moves_registerWithNetworkBaseline runtime trigger baseline Retouches.refl)
      fun _ _ _ retouched was => retouched.status.trans was
  | ensureBaseline other =>
    cases baseline with
    | none => exact fired
    | some baseline =>
      exact fired.retouched (edits_ensureNetworkRequestBaseline runtime other baseline)
  | setStatus other status =>
    have different : id ≠ other := by
      rintro rfl
      exact untouched status rfl
    have edits : Edits (fun old new => old.id ≠ other → new.status = old.status) runtime.registry
        (runtime.updateStatusWithBaseline other status baseline).registry := by
      refine edits_updateStatusWithBaseline (fun _ _ => rfl) runtime other status baseline ?_
      intro old found elsewhere
      exact absurd (number_of_find found) elsewhere
    refine fired.moves edits.moves fun old new own same was => ?_
    exact (same (own ▸ different)).trans was
  | remove other => exact fired.retouched (edits_remove runtime other)

theorem Fired.step (consistent : Consistent state)
    (step : TriggerStep state action next) (fired : Fired state.runtime id)
    (untouched : ∀ phase status, state.command = some phase →
      phase.edit ≠ some (.setStatus id status)) : Fired next.runtime id := by
  rcases consistent.settles step with ⟨edit, baseline, -, stands, rfl⟩ | ⟨edits, -⟩
  · exact fired.applyEdit baseline fun status same =>
      untouched _ status stands (congrArg some same)
  · refine fired.moves edits.moves fun old new own settles was => ?_
    exact settles.status.elim (fun same => same.trans was) fun final => final

/-- What a step adds to the recorded firings: the rule of an execution that succeeded, if it is
still the rule that was read. -/
theorem TriggerStep.fired (step : TriggerStep state action next) : next.fired = state.fired ∨
      ∃ handling execution, state.handling = some handling ∧
        handling.phase = .dispatched execution ∧ state.command = next.command ∧
          next.fired = execution.trigger.id :: state.fired ∧
            ∃ evidence result, result.nextStatus = .fired ∧
              next.runtime = (state.runtime.recordOutcomeWithFallback execution.trigger
                execution.trigger.lifecycleGeneration evidence result).2 := by
  cases step with
  | succeeded handling execution _ handles phase =>
    unfold succeedExecution finishHandling
    dsimp only
    split
    · exact .inr ⟨handling, execution, handles, phase, rfl, rfl, _, _,
        nextTriggerStatusAfterSuccess_eq execution.trigger, rfl⟩
    · exact .inl rfl
  | _ => exact .inl rfl

theorem triggerRule_recordOutcome {runtime : TriggerRuntimeState} {trigger live : TriggerInfo}
    (found : runtime.triggerRule trigger.id = some live)
    (fresh : live.lifecycleGeneration = trigger.lifecycleGeneration)
    (evidence : Option TriggerEvidenceInfo) (result : TriggerResultInfo) :
    (runtime.recordOutcomeWithFallback trigger trigger.lifecycleGeneration evidence
      result).2.triggerRule trigger.id = some (TriggerInfo.withOutcome evidence result live) := by
  have own := number_of_find found
  unfold recordOutcomeWithFallback
  simp only [found, fresh, if_true]
  have edited : (runtime.registry.edit live.id (TriggerInfo.withOutcome evidence result)
      (fun _ => rfl)).find live.id =
        (runtime.registry.find live.id).map (TriggerInfo.withOutcome evidence result) :=
    find_edit_self live.id _ _
  rw [← own]
  exact edited.trans (congrArg (Option.map (TriggerInfo.withOutcome evidence result)) (own ▸ found))

/-- The history of firings: no rule twice, every one final, and no running command is about to
change the status of one. -/
structure FiredOnce (state : TriggerSession) : Prop where
  once : state.fired.Nodup
  final : ∀ id ∈ state.fired, Fired state.runtime id
  untouched : ∀ phase id status, state.command = some phase →
    phase.edit = some (.setStatus id status) → id ∉ state.fired

theorem firedOnce_initial : FiredOnce .initial where
  once := List.nodup_nil
  final := by simp [initial]
  untouched := by simp [initial]

/-- A command that changes a status was chosen for a rule that has not fired. -/
theorem FiredOnce.choose (firedOnce : FiredOnce state) {command : RegistryCommand}
    (chosen : (chosenPhase state.runtime command).edit = some (.setStatus id status)) :
    id ∉ state.fired := by
  intro member
  obtain ⟨needs, choice, -⟩ := chosenPhase_edit chosen
  obtain ⟨current, live, active, -⟩ := chooseEdit_setStatus choice
  have final := (firedOnce.final id member).2 current live
  rcases active with armed | paused
  · rw [final] at armed
    cases armed
  · rw [final] at paused
    cases paused

theorem TriggerStep.untouched (step : TriggerStep state action next)
    (firedOnce : FiredOnce state) {phase : CommandPhase}
    (running : next.command = some phase) (edits : phase.edit = some (.setStatus id status)) :
    id ∉ state.fired := by
  cases step with
  | begun | committed => cases running; cases edits
  | chosen => cases running; exact firedOnce.choose edits
  | cursorRead _ stands | dropCountRead _ _ stands =>
    cases running
    exact firedOnce.untouched _ id status stands edits
  | ended => cases running
  | _ => exact firedOnce.untouched phase id status running edits

theorem FiredOnce.step (firedOnce : FiredOnce state) (consistent : Consistent state)
    (step : TriggerStep state action next) : FiredOnce next := by
  have stays : ∀ id ∈ state.fired, Fired next.runtime id := fun id member =>
    Fired.step consistent step (firedOnce.final id member) fun phase status running edits =>
      firedOnce.untouched phase id status running edits member
  rcases step.fired with same | ⟨handling, execution, handles, phase, command, added, evidence,
    result, outcome, runtime⟩
  · exact ⟨same ▸ firedOnce.once, fun id member => stays id (same ▸ member),
      fun phase id status running edits =>
        same ▸ step.untouched firedOnce running edits⟩
  · -- the rule of the execution is armed, so it is not among those that fired
    obtain ⟨live, found, armed, fresh, -⟩ := consistent.live handles (by rw [phase]; rfl)
    have new : execution.trigger.id ∉ state.fired := by
      intro member
      have fired := (firedOnce.final _ member).2 live found
      rw [armed] at fired
      cases fired
    have recorded := triggerRule_recordOutcome found fresh evidence result
    rw [← runtime] at recorded
    refine ⟨added ▸ List.nodup_cons.mpr ⟨new, firedOnce.once⟩, fun id member => ?_,
      fun phase id status running edits => ?_⟩
    · rw [added] at member
      rcases List.mem_cons.mp member with rfl | old
      · refine ⟨lt_nextId_of_find recorded, fun again same => ?_⟩
        rw [recorded] at same
        cases same
        exact outcome
      · exact stays id old
    · -- no command runs while the execution holds the transaction
      have holds := (consistent.current.acting handling execution.trigger handles
        (by rw [‹handling.phase = .dispatched execution›]; rfl)).1
      have none_running := consistent.exclusive.command_none handles holds
      rw [← command, none_running] at running
      cases running

theorem firedOnce_of_reachable (reached : triggerSystem.Reachable state) :
    Consistent state ∧ FiredOnce state ∧ Evaluated state := by
  have preserved : ∀ state action next, (Consistent state ∧ FiredOnce state ∧ Evaluated state) →
        triggerSystem.step state action = some next →
          Consistent next ∧ FiredOnce next ∧ Evaluated next := by
    rintro state action next ⟨consistent, firedOnce, evaluated⟩ taken
    have step := step_cases taken
    exact ⟨consistent.step step, firedOnce.step consistent step, evaluated.step step⟩
  obtain ⟨actions, run⟩ := reached
  exact triggerSystem.runFrom_preserves preserved
    ⟨consistent_initial, firedOnce_initial, evaluated_initial⟩ run

section

variable (step : TriggerStep state action next)

include step

/-- A dispatch is made under the live rule, armed and in the generation of the evaluation. -/
theorem TriggerStep.dispatches (consistent : Consistent state) (evaluated : Evaluated state) :
    next.dispatches = state.dispatches ∨
      ∃ dispatch live, next.dispatches = state.dispatches ++ [dispatch] ∧
        state.runtime.triggerRule dispatch.ruleId = some live ∧ live.status = .armed ∧
          live.lifecycleGeneration = dispatch.generation ∧ dispatch ∈ state.evaluations := by
  cases step with
  | dispatched handling execution handles phase =>
    obtain ⟨live, found, armed, fresh, expected⟩ := consistent.live handles (by rw [phase]; rfl)
    have own := (consistent.coherent.snapshot handling execution.trigger handles
      (by rw [phase]; rfl)).2
    have known := evaluated.handled handling handles
    rw [← own] at known
    exact .inr ⟨_, live, rfl, found, armed, fresh.trans expected, known⟩
  | _ => exact .inl rfl

theorem TriggerStep.fired_subset : state.fired ⊆ next.fired := by
  rcases step.fired with same | ⟨_, _, _, _, _, added, _⟩
  · rw [same]
    exact fun _ member => member
  · rw [added]
    exact List.subset_cons_self _ _

theorem TriggerStep.dispatches_of_fired
    (consistent : Consistent state) (firedOnce : FiredOnce state) (evaluated : Evaluated state)
    (member : id ∈ state.fired) :
    next.dispatches.filter (·.ruleId = id) = state.dispatches.filter (·.ruleId = id) := by
  rcases step.dispatches consistent evaluated with same | ⟨dispatch, live, added, found, armed, -⟩
  · rw [same]
  · have other : dispatch.ruleId ≠ id := by
      rintro rfl
      have fired := (firedOnce.final _ member).2 live found
      rw [armed] at fired
      cases fired
    rw [added, List.filter_append]
    simp [other]

end

/-- Whatever the interleaving of cycles, late completions, commands and outcomes: every
dispatch is under the live rule, armed and in the generation its condition was evaluated in;
no rule has two recorded firings; and a rule that has fired stays fired until it is removed,
without another dispatch. -/
theorem trigger_fires_once (reached : triggerSystem.Reachable state) :
    (∀ action next, state.step action = some next →
      next.dispatches = state.dispatches ∨
        ∃ dispatch live, next.dispatches = state.dispatches ++ [dispatch] ∧
          state.runtime.triggerRule dispatch.ruleId = some live ∧ live.status = .armed ∧
            live.lifecycleGeneration = dispatch.generation ∧ dispatch ∈ state.evaluations) ∧
      state.fired.Nodup ∧
        ∀ later final, triggerSystem.runFrom state later = some final → ∀ id ∈ state.fired,
          (∀ live, final.runtime.triggerRule id = some live → live.status = .fired) ∧
            final.dispatches.filter (·.ruleId = id) = state.dispatches.filter (·.ruleId = id) := by
  obtain ⟨consistent, firedOnce, evaluated⟩ := firedOnce_of_reachable reached
  refine ⟨fun action next taken => (step_cases taken).dispatches consistent evaluated,
    firedOnce.once, fun later final run id member => ?_⟩
  have preserved : ∀ current action next,
      (Consistent current ∧ FiredOnce current ∧ Evaluated current ∧ id ∈ current.fired ∧
        current.dispatches.filter (·.ruleId = id) = state.dispatches.filter (·.ruleId = id)) →
      triggerSystem.step current action = some next →
      (Consistent next ∧ FiredOnce next ∧ Evaluated next ∧ id ∈ next.fired ∧
        next.dispatches.filter (·.ruleId = id) = state.dispatches.filter (·.ruleId = id)) := by
    rintro current action next ⟨consistent, firedOnce, evaluated, fired, same⟩ taken
    have step := step_cases taken
    exact ⟨consistent.step step, firedOnce.step consistent step, evaluated.step step,
      step.fired_subset fired,
      (step.dispatches_of_fired consistent firedOnce evaluated fired).trans same⟩
  obtain ⟨-, finallyOnce, -, fired, same⟩ := triggerSystem.runFrom_preserves preserved
    ⟨consistent, firedOnce, evaluated, member, rfl⟩ run
  exact ⟨(finallyOnce.final id fired).2, same⟩

def textTrigger : TriggerInfo := .onFirstTab 0 .textPresent none "reload"

def seenText : TriggerEvidenceInfo := { summary := "seen", fingerprint := none }

/-- A registration, a cycle that finds the text, and the reservation that fires the rule. -/
def firingRun : List TriggerSessionAction :=
  commandRun (.add textTrigger) ++ cycleStart ++
    [.evaluate (.present seenText), .decide,
      .deliver { ruleId := 1, attemptId := 1, aborted := false } (.ok ()), .receive false,
      .readLive, .refreshTabs true, .revalidate (.present seenText), .dispatch,
      .actionSucceeded none]

def firedSession : TriggerSession := sessionAfter firingRun

theorem text_trigger_fires_once :
    firedSession.dispatches = [⟨1, 1⟩] ∧ firedSession.fired = [1] ∧ firedSession.fired.Nodup := by
  have reached : triggerSystem.Reachable firedSession :=
    ⟨firingRun, by rfl⟩
  exact ⟨by rfl, by rfl, (trigger_fires_once reached).2.1⟩

/-- Along every run a trigger that is left was there before, with the same condition and no
later generation, and with the same status if the generation is the same. -/
theorem trigger_rules_succeed {actions : List TriggerSessionAction}
    (run : triggerSystem.runFrom state actions = some final) :
    Moves Succeeds state.runtime.registry final.runtime.registry := by
  have preserved : ∀ current action next,
      Moves Succeeds state.runtime.registry current.runtime.registry →
      triggerSystem.step current action = some next →
      Moves Succeeds state.runtime.registry next.runtime.registry := by
    intro current action next moved taken
    exact moved.trans Succeeds.trans (step_cases taken).moves
  exact triggerSystem.runFrom_preserves preserved (edits_self _ Succeeds.refl).moves run

/-- A second trigger is registered after the first has fired. -/
def twoTriggers : TriggerSession :=
  (triggerSystem.runFrom firedSession (commandRun (.add textTrigger))).getD .initial

/-- The second trigger is paused and the first removed. -/
def pausingRun : List TriggerSessionAction :=
  commandRun (.setStatus 2 .paused) ++ commandRun (.remove 1)

def pausedSession : TriggerSession := (triggerSystem.runFrom twoTriggers pausingRun).getD .initial

theorem paused_trigger_succeeds :
    twoTriggers.runtime.registry.rules.map (fun rule => (rule.id, rule.status)) =
      [(1, .fired), (2, .armed)] ∧
    pausedSession.runtime.registry.rules.map (fun rule => (rule.id, rule.status)) =
      [(2, .paused)] ∧
    Moves Succeeds twoTriggers.runtime.registry pausedSession.runtime.registry := by
  have run : triggerSystem.runFrom twoTriggers pausingRun = some pausedSession := by rfl
  exact ⟨by rfl, by rfl, trigger_rules_succeed run⟩

/-- From reading its live rule to recording its outcome, a reservation has the transaction for
itself: no command runs, no other grant waits, and the rule stays armed in the generation its
condition was evaluated in. -/
theorem acting_reservation_alone {handling : CompletionHandling} {trigger : TriggerInfo}
    (reached : triggerSystem.Reachable state) (handles : state.handling = some handling)
    (acting : handling.phase.acting = some trigger) :
    (state.transactionHeld = true ∧ state.command = none ∧ ∀ completion ∈ state.book.channel,
        completion.granted = false) ∧
      ∃ live, state.runtime.triggerRule trigger.id = some live ∧ live.status = .armed ∧
        ⟨trigger.id, live.lifecycleGeneration⟩ ∈ state.evaluations := by
  obtain ⟨consistent, -, evaluated⟩ := firedOnce_of_reachable reached
  have holds := (consistent.current.acting handling trigger handles acting).1
  constructor
  · have counted := consistent.exclusive
    simp only [Exclusive, holders, handles, Option.any_some, holds, Bool.toNat_true] at counted
    have one := Bool.toNat_le state.transactionHeld
    have waiting : state.book.channel.countP (·.granted) = 0 := by omega
    refine ⟨Bool.toNat_eq_one.mp (by omega), consistent.exclusive.command_none handles holds, ?_⟩
    intro completion member
    exact Bool.eq_false_of_not_eq_true (List.countP_eq_zero.mp waiting completion member)
  · obtain ⟨live, found, armed, fresh, expected⟩ := consistent.live handles acting
    have own := (consistent.coherent.snapshot handling trigger handles
      (HandlingPhase.snapshot_of_acting acting)).2
    refine ⟨live, found, armed, ?_⟩
    rw [own, fresh, expected]
    exact evaluated.handled handling handles

/-- The action is about to be dispatched. -/
def actingSession : TriggerSession := sessionAfter (firingRun.take 15)

theorem text_reservation_alone : ∃ handling trigger, actingSession.handling = some handling ∧
    handling.phase.acting = some trigger ∧ actingSession.command = none :=
  ⟨_, _, rfl, rfl, (acting_reservation_alone ⟨firingRun.take 15, rfl⟩ rfl rfl).1.2.1⟩

end Rub.TriggerSession
