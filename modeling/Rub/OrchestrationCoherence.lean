import Rub.OrchestrationWorkerStep
import Rub.PartialMap
import Rub.RegistryMoves

/-!
What holds in every reachable state of the orchestration session: what the worker has read of
a rule is comparable with the live rule, and while a completion is acted on its rule does not
move and no other reservation of the rule is pending.
-/

namespace Rub

open OrchestrationRuleInfo List OrchestrationSession

open RuleRegistry (Moves Edits Reading edits_self edits_edit)
open Function

/-- No command and no result arms such a rule again. -/
def OrchestrationRuleStatus.Settled (status : OrchestrationRuleStatus) : Prop :=
  status ≠ .armed ∧ status ≠ .paused

/-- How the live rule may differ from an earlier reading of it. -/
structure Continues (old new : OrchestrationRuleInfo) : Prop where
  condition : new.condition = old.condition
  generation : old.lifecycleGeneration ≤ new.lifecycleGeneration
  status : new.lifecycleGeneration = old.lifecycleGeneration → new.status = old.status
  settled : old.status.Settled → new.status.Settled

variable {old new : OrchestrationRuleInfo}

theorem Continues.of_status (condition : new.condition = old.condition)
    (generation : old.lifecycleGeneration ≤ new.lifecycleGeneration)
    (status : new.status = old.status) : Continues old new :=
  ⟨condition, generation, fun _ => status, fun settled => status ▸ settled⟩

theorem Continues.refl (rule : OrchestrationRuleInfo) : Continues rule rule :=
  .of_status rfl (Nat.le_refl _) rfl

theorem Continues.trans (oldest old new : OrchestrationRuleInfo) (first : Continues oldest old)
    (second : Continues old new) : Continues oldest new where
  condition := second.condition.trans first.condition
  generation := Nat.le_trans first.generation second.generation
  status := by
    intro same
    have between : old.lifecycleGeneration = oldest.lifecycleGeneration :=
      Nat.le_antisymm (same ▸ second.generation) first.generation
    rw [second.status (same.trans between.symm), first.status between]
  settled := fun settled => second.settled (first.settled settled)

theorem Continues.isNetworkRequest (continues : Continues old new) :
    new.isNetworkRequest = old.isNetworkRequest := by
  unfold OrchestrationRuleInfo.isNetworkRequest
  rw [continues.condition]

/-- A rule that moves to a new generation may take any status, unless it was settled. -/
theorem Continues.of_next (condition : new.condition = old.condition)
    (generation : new.lifecycleGeneration = old.lifecycleGeneration + 1)
    (settled : old.status.Settled → new.status.Settled) : Continues old new where
  condition := condition
  generation := by omega
  status := fun same => by omega
  settled := settled

namespace OrchestrationRuntimeState

variable (runtime : OrchestrationRuntimeState)

theorem commitNetworkRequestBaseline_registry (rule : OrchestrationRuleInfo)
    (baseline : Option NetworkRequestBaseline) :
    (runtime.commitNetworkRequestBaseline rule baseline).registry = runtime.registry := by
  unfold commitNetworkRequestBaseline
  split
  · cases baseline <;> rfl
  · rfl

theorem edits_replace (sessions : List OrchestrationSessionInfo) (supported : Bool) :
    Edits Continues runtime.registry (runtime.replace sessions supported).registry :=
  RuleRegistry.edits_editAll _ (reconcileSessions sessions) (fun _ => rfl)
    fun _ => .of_status rfl (Nat.le_refl _) rfl

open Continues

theorem moves_registerWithNetworkBaseline (rule : OrchestrationRuleInfo)
    (baseline : Option NetworkRequestBaseline) :
    Moves Continues runtime.registry
      (runtime.registerWithNetworkBaseline rule baseline).registry := by
  unfold registerWithNetworkBaseline
  split
  · exact RuleRegistry.moves_skip _ refl
  · rw [commitNetworkRequestBaseline_registry]
    exact RuleRegistry.moves_register _ refl _ rfl

theorem edits_updateStatusWithBaseline (id : Nat) (status : OrchestrationRuleStatus)
    (baseline : Option NetworkRequestBaseline)
    (unsettled : ∀ old, runtime.rule id = some old → ¬ old.status.Settled) :
    Edits Continues runtime.registry
      (runtime.updateStatusWithBaseline id status baseline).registry := by
  unfold updateStatusWithBaseline
  cases live : runtime.rule id with
  | none => exact edits_self _ refl
  | some =>
    rw [commitNetworkRequestBaseline_registry]
    refine edits_edit _ refl id (withStatus status)
      (fun _ => rfl) fun old found => ?_
    exact .of_next rfl rfl fun settled => absurd settled (unsettled old found)

theorem edits_remove (id : Nat) :
    Edits Continues runtime.registry (runtime.remove id).registry := by
  unfold remove
  cases runtime.rule id with
  | none => exact edits_self _ refl
  | some => exact RuleRegistry.edits_remove _ refl id

theorem edits_setConditionEvidence (id generation : Nat) (evidence : Option TriggerEvidenceInfo) :
    Edits Continues runtime.registry
      (runtime.setConditionEvidence id generation evidence).registry := by
  unfold setConditionEvidence
  cases runtime.rule id with
  | none => exact edits_self _ refl
  | some =>
    dsimp only
    split
    · exact edits_edit _ refl id (withEvidence evidence)
        (fun _ => rfl) fun old _ => .of_status rfl (Nat.le_refl _) rfl
    · exact edits_self _ refl

theorem edits_recordOutcomeWithFallback (snapshot : OrchestrationRuleInfo) (generation : Nat)
    (evidence : Option TriggerEvidenceInfo) (result : OrchestrationResultInfo)
    (applied : ∀ live, runtime.rule snapshot.id = some live →
      live.lifecycleGeneration = generation → live.status.Settled → result.nextStatus.Settled) :
    Edits Continues runtime.registry
      (runtime.recordOutcomeWithFallback snapshot generation evidence result).registry := by
  unfold recordOutcomeWithFallback
  cases live : runtime.rule snapshot.id with
  | none => exact edits_self _ refl
  | some current =>
    dsimp only
    split
    · rename_i fresh
      refine edits_edit _ refl snapshot.id
        (withOutcome evidence result) (fun _ => rfl) fun old found => ?_
      have same : some current = some old := live.symm.trans found
      cases same
      exact .of_next rfl rfl (applied current live fresh)
    · exact edits_edit _ refl snapshot.id
        (withStaleOutcome evidence result) (fun _ => rfl) fun old _ =>
          .of_status rfl (Nat.le_refl _) rfl

/-- A failure keeps the status of the snapshot it is recorded for, which is the live status
whenever the outcome is applied. -/
theorem edits_recordOrchestrationFailure {rule : OrchestrationRuleInfo}
    (reading : Reading Continues runtime.registry rule) (error : ErrorEnvelope)
    (evidence : Option TriggerEvidenceInfo) :
    Edits Continues runtime.registry
      (recordOrchestrationFailure runtime rule error evidence).registry := by
  refine runtime.edits_recordOutcomeWithFallback rule _ evidence _ fun live found fresh => ?_
  intro settled
  rw [(reading.current live found).status fresh] at settled
  exact settled

theorem moves_applyCommand (command : OrchestrationCommand) : Moves Continues runtime.registry
      (applyCommand runtime command).registry := by
  cases command with
  | add rule baseline => exact runtime.moves_registerWithNetworkBaseline rule baseline
  | setStatus id status baseline =>
    cases live : runtime.rule id with
    | none =>
      simp only [applyCommand, live]
      exact (edits_self _ refl).moves
    | some =>
      simp only [applyCommand, live]
      split
      · rename_i permitted
        refine (runtime.edits_updateStatusWithBaseline id status baseline fun old found => ?_).moves
        rw [live] at found
        cases found
        rintro ⟨unarmed, unpaused⟩
        exact permitted.elim (fun choice => unarmed choice.1) fun choice => unpaused choice.1
      · exact (edits_self _ refl).moves
  | remove id => exact (runtime.edits_remove id).moves

end OrchestrationRuntimeState

def OrchestrationPosition.rules : OrchestrationPosition → List OrchestrationRuleInfo
  | .idle => []
  | .listed rules => rules
  | .draining rules => rules
  | .judging rule later => rule :: later

/-- The execution that is under way. -/
def OrchestrationPhase.execution : OrchestrationPhase → Option ReservedOrchestrationExecution
  | .preparing execution _ => some execution
  | .dispatching execution _ _ => some execution
  | .finished execution _ => some execution
  | _ => none

/-- The live rule that a grant is used for. -/
def OrchestrationPhase.acting : OrchestrationPhase → Option OrchestrationRuleInfo
  | .revalidating rule => some rule
  | .reserved execution => some execution.rule
  | phase => phase.execution.map (·.rule)

def OrchestrationEvent.rule : OrchestrationEvent → Option OrchestrationRuleInfo
  | .evaluated _ _ => none
  | .dispatched dispatch => some dispatch.rule
  | .executed rule _ _ => some rule

namespace OrchestrationSession

variable {state next : OrchestrationSession} {action : OrchestrationAction}
  {handling : OrchestrationHandling} {rule : OrchestrationRuleInfo}
  (execution : ReservedOrchestrationExecution) (now stepIndex : Nat)

@[simp] theorem failedPhase_execution (error : ErrorEnvelope) :
    (failedPhase execution stepIndex error).execution = some execution := rfl

@[simp] theorem stepPhase_execution :
    (stepPhase now execution stepIndex).execution = some execution := by
  unfold stepPhase
  split <;> rfl

@[simp] theorem answeredPhase_execution (retry : OrchestrationRetry) (answer : DispatchAnswer) :
    (answeredPhase now execution stepIndex retry answer).execution = some execution := by
  cases answer with
  | committed => exact stepPhase_execution execution now (stepIndex + 1)
  | failed error possibleCommit =>
    cases outcome : retry.afterFailure error <;> simp [answeredPhase, outcome]
    rfl

variable {runtime : OrchestrationRuntimeState} {result : OrchestrationResultInfo}
  {live : OrchestrationRuleInfo} {phase : OrchestrationPhase}

theorem acting_of_execution
    {execution : ReservedOrchestrationExecution} (runs : phase.execution = some execution) :
    phase.acting = some execution.rule := by
  cases phase with
  | preparing | dispatching | finished =>
    cases runs; rfl
  | _ => cases runs

theorem holdsTransaction_of_acting
    (acting : phase.acting = some rule) : phase.holdsTransaction = true := by
  cases phase with
  | reporting | recording => cases acting
  | _ => rfl

theorem transactionHeld_of_acting
    (handles : state.handling = some handling) (acting : handling.phase.acting = some rule) :
    state.transactionHeld = true := by
  unfold transactionHeld
  rw [handles, Option.any_some, holdsTransaction_of_acting acting, Bool.or_true]

/-- A rule that was read under the transaction is the live one until its outcome is recorded. -/
structure Acting (runtime : OrchestrationRuntimeState) (rule : OrchestrationRuleInfo) : Prop where
  armed : rule.status = .armed
  reading : Reading Continues runtime.registry rule
  live : ∃ live, runtime.rule rule.id = some live ∧
    live.lifecycleGeneration = rule.lifecycleGeneration

theorem Acting.unsettled (acting : Acting runtime rule) (found : runtime.rule rule.id = some live) :
    ¬ live.status.Settled := by
  obtain ⟨current, was, fresh⟩ := acting.live
  rw [found] at was
  cases was
  intro settled
  exact settled.1 (((acting.reading.current live found).status fresh).trans acting.armed)

theorem Acting.replace
    (acting : Acting runtime rule) (sessions : List OrchestrationSessionInfo) (supported : Bool) :
    Acting (runtime.replace sessions supported) rule := by
  obtain ⟨live, found, fresh⟩ := acting.live
  refine ⟨acting.armed, acting.reading.moves Continues.trans (runtime.edits_replace _ _).moves,
    ⟨live.reconcileSessions sessions, ?_, fresh⟩⟩
  have edited : (runtime.replace sessions supported).rule rule.id =
      (runtime.rule rule.id).map (reconcileSessions sessions) :=
    RuleRegistry.find_editAll rule.id (reconcileSessions sessions) (fun _ => rfl)
  rw [edited, found]
  rfl

/-- Where the result of a finished execution comes from. -/
def Reported (execution : ReservedOrchestrationExecution) (result : OrchestrationResultInfo) :
    Prop :=
  (∃ now, result = orchestrationSuccessResult now execution.rule) ∨
    ∃ stepIndex error, result = orchestrationFailureResult execution.rule stepIndex error

structure Coherent (state : OrchestrationSession) : Prop where
  position : ∀ rule ∈ state.position.rules, Reading Continues state.runtime.registry rule
  recording : ∀ handling rule error, state.handling = some handling →
    handling.phase = .recording rule error → Reading Continues state.runtime.registry rule
  acting : ∀ handling rule, state.handling = some handling →
    handling.phase.acting = some rule → rule.id = handling.ruleId ∧ Acting state.runtime rule
  reported : ∀ handling execution result, state.handling = some handling →
    handling.phase = .finished execution result → Reported execution result
  handled : ∀ handling, state.handling = some handling →
    state.book.pending handling.ruleId = none ∧ (state.entries handling.ruleId).isSome = true
  known : ∀ id, (state.entries id).isSome = true → id < state.runtime.registry.nextId
  listed : ∀ rules, state.position = .listed rules → ∀ id live,
    state.runtime.rule id = some live → (state.entries id).isSome = true →
      ∃ rule ∈ rules, rule.id = id
  logged : ∀ event ∈ state.log, ∀ rule, event.rule = some rule →
    Reading Continues state.runtime.registry rule

theorem coherent_initial : Coherent .initial where
  position := by simp [initial, OrchestrationPosition.rules]
  recording := by simp [initial]
  acting := by simp [initial]
  reported := by simp [initial]
  handled := by simp [initial]
  known := by simp [initial]
  listed := by simp [initial]
  logged := by simp [initial]

theorem Coherent.moves (coherent : Coherent state) (step : OrchestrationStep state action next) :
    Moves Continues state.runtime.registry next.runtime.registry := by
  have judging : ∀ rule later, state.position = .judging rule later →
      Reading Continues state.runtime.registry rule := by
    intro rule later stands
    exact coherent.position rule (by rw [stands]; exact mem_cons_self)
  cases step with
  | refreshed sessions supported => exact (state.runtime.edits_replace sessions supported).moves
  | commanded command => exact state.runtime.moves_applyCommand command
  | probeFailed judges =>
    exact (state.runtime.edits_recordOrchestrationFailure (judging _ _ judges.stands) _ none).moves
  | @conditionAbsent rule =>
    show Moves Continues state.runtime.registry
      (if _ then state.runtime.setConditionEvidence rule.id rule.lifecycleGeneration none
        else state.runtime).registry
    split
    · exact (state.runtime.edits_setConditionEvidence ..).moves
    · exact (edits_self _ Continues.refl).moves
  | recorded handling rule error handles phase =>
    exact (state.runtime.edits_recordOrchestrationFailure
      (coherent.recording handling rule error handles phase) error none).moves
  | blocked handling execution error handles phase =>
    have acting := (coherent.acting handling execution.rule handles (by rw [phase]; rfl)).2
    exact (state.runtime.edits_recordOrchestrationFailure acting.reading error _).moves
  | committed handling execution _ handles phase =>
    have acting := (coherent.acting handling execution.rule handles (by rw [phase]; rfl)).2
    refine (state.runtime.edits_recordOutcomeWithFallback _ _ _ _
      fun live found _ settled => ?_).moves
    exact absurd settled (acting.unsettled found)
  | _ => exact (edits_self _ Continues.refl).moves

section

variable (step : OrchestrationStep state action next)

include step

/-- What is left of the cycle's snapshot was left before, or was just read. -/
theorem OrchestrationStep.rules (member : rule ∈ next.position.rules) :
    rule ∈ state.position.rules ∨ rule ∈ state.runtime.rules := by
  cases step with
  | listed => exact .inr member
  | reconciled _ _ stands | started _ _ _ _ stands =>
    rw [stands]; exact .inl member
  | cycleEnded => cases member
  | passed _ _ _ _ _ stands _ moved =>
    rw [stands]
    rcases moved with rfl | rfl
    · exact .inl (mem_cons_of_mem _ member)
    · cases member
  | probeFailed judges | conditionAbsent judges | latchHeld judges | stillPending judges
  | spawned judges =>
    rw [judges.stands]; exact .inl (mem_cons_of_mem _ member)
  | _ => exact .inl member

theorem OrchestrationStep.recording {error : ErrorEnvelope}
    (handles : next.handling = some handling) (phase : handling.phase = .recording rule error) :
    state.handling = some handling ∨ state.runtime.rule handling.ruleId = some rule := by
  have unlike : ∀ {execution : ReservedOrchestrationExecution},
      handling.phase.execution = some execution → False := by
    intro execution runs
    rw [phase] at runs
    cases runs
  cases step with
  | accepted completion =>
    cases handles
    unfold acceptedPhase at phase
    cases result : completion.result <;> simp [result] at phase
  | liveRead =>
    cases handles
    unfold livePhase at phase
    (repeat' split at phase) <;> cases phase
  | revalidationFailed | revalidated | targetFailed | preparationFailed | prepared =>
    cases handles; cases phase
  | liveReported _ _ _ _ _ found => cases handles; cases phase; exact .inr found
  | targetResolved _ execution =>
    cases handles
    exact (unlike (stepPhase_execution execution state.now 0)).elim
  | dispatched _ execution stepIndex retry answer =>
    cases handles
    exact (unlike (answeredPhase_execution execution state.now stepIndex retry answer)).elim
  | handlingEnded | withdrawn | recorded | stopped | blocked | committed => cases handles
  | _ => exact .inl handles

theorem OrchestrationStep.entries_isSome {id : Nat} (entered : (next.entries id).isSome = true) :
    (state.entries id).isSome = true ∨
      ∃ rules, state.position = .listed rules ∧ ∃ rule ∈ rules, rule.id = id := by
  have updated : ∀ {entries : Nat → Option OrchestrationWorkerEntry} {key : Nat}
      {written : Option OrchestrationWorkerEntry}, (state.entries key).isSome = true →
      (update entries key written id).isSome = true →
      (∀ other, other ≠ key → entries other = state.entries other) →
        (state.entries id).isSome = true := by
    intro entries key written present after others
    by_cases same : id = key
    · rw [same]
      exact present
    · rw [update_of_ne same, others id same] at after
      exact after
  have evaluates : ∀ {key : Nat} {written : OrchestrationWorkerEntry} (other : Nat), other ≠ key →
      update state.entries key (some written) other = state.entries other :=
    fun other different => update_of_ne different _ _
  have mapped : ∀ {key : Nat} {change : OrchestrationWorkerEntry → OrchestrationWorkerEntry},
      (update state.entries key ((state.entries key).map change) id).isSome = true →
        (state.entries id).isSome = true := by
    intro key change after
    by_cases same : id = key
    · subst same
      simpa using after
    · rwa [update_of_ne same] at after
  cases step with
  | cleared => cases entered
  | reconciled rules _ stands =>
    refine .inr ⟨rules, stands, ?_⟩
    simp only [reconcileOrchestrationWorkerState, Option.isSome_map] at entered
    obtain ⟨rule, found⟩ := Option.isSome_iff_exists.mp entered
    exact ⟨rule, mem_of_find?_eq_some found, by simpa using find?_some found⟩
  | probeFailed asks | stillPending asks | spawned asks | revalidationFailed asks
  | revalidated asks => exact .inl (updated (by rw [asks.found]; rfl) entered fun _ _ => rfl)
  | conditionAbsent asks | latchHeld asks | withdrawn asks =>
    exact .inl (updated (by rw [asks.found]; rfl) entered evaluates)
  | stopped | blocked | committed => exact .inl (mapped entered)
  | _ => exact .inl entered

theorem OrchestrationStep.logged {event : OrchestrationEvent}
    (member : event ∈ next.log) (names : event.rule = some rule) :
    event ∈ state.log ∨ ∃ handling, state.handling = some handling ∧
      handling.phase.acting = some rule := by
  have evaluation : ∀ {id : Nat} {answer : ConditionAnswer},
      event ∈ state.log ++ [.evaluated id answer] → event ∈ state.log := by
    intro id answer added
    rcases mem_append.mp added with old | new
    · exact old
    · rw [mem_singleton.mp new] at names
      cases names
  cases step with
  | probeFailed | conditionAbsent | latchHeld | stillPending | spawned | revalidationFailed
  | withdrawn | revalidated => exact .inl (evaluation member)
  | dispatched handling _ _ _ _ handles phase | committed handling _ _ handles phase =>
    rcases mem_append.mp member with old | new
    · exact .inl old
    · rw [mem_singleton.mp new] at names
      cases names
      exact .inr ⟨handling, handles, by rw [phase]; rfl⟩
  | _ => exact .inl member

end

theorem acting_of_admits {now : Nat}
    {policy : PendingOrchestrationConditionPolicy} (admitted : admits now policy rule = true)
    {id : Nat} (found : state.runtime.rule id = some rule) :
    rule.id = id ∧ Acting state.runtime rule := by
  have own : rule.id = id := RuleRegistry.number_of_find found
  have armed : rule.status = .armed := by
    simp only [admits, actionable, isArmed, Bool.and_eq_true, beq_iff_eq] at admitted
    exact admitted.1.1.1.1.1
  exact ⟨own, armed, RuleRegistry.reading_of_find Continues.refl found, rule, own ▸ found, rfl⟩

theorem livePhase_acting (acting : (livePhase handling live).acting = some rule) : rule = live := by
  unfold livePhase at acting
  split at acting
  · cases acting
    rfl
  · split at acting
    · cases acting
      rfl
    · cases acting

theorem Coherent.step_acting (coherent : Coherent state)
    (step : OrchestrationStep state action next)
    (handles : next.handling = some handling) (acting : handling.phase.acting = some rule) :
    rule.id = handling.ruleId ∧ Acting next.runtime rule := by
  have idle : state.handling = none → state.handling = some handling → False := by
    intro free again
    rw [free] at again
    cases again
  have continued : ∀ {old : OrchestrationHandling} {phase : OrchestrationPhase}
      {execution : ReservedOrchestrationExecution}, state.handling = some old →
      old.phase.acting = some execution.rule → phase.execution = some execution →
      some { old with phase := phase } = some handling →
        rule.id = handling.ruleId ∧ Acting state.runtime rule := by
    intro old phase execution was acted runs same
    cases same
    have current := acting_of_execution runs
    rw [current] at acting
    cases acting
    exact coherent.acting old execution.rule was acted
  cases step with
  | refreshed sessions supported =>
    have before := coherent.acting handling rule handles acting
    exact ⟨before.1, before.2.replace sessions supported⟩
  | commanded _ free =>
    have held : state.transactionHeld = true := transactionHeld_of_acting handles acting
    rw [free] at held
    cases held
  | probeFailed judges | conditionAbsent judges => exact (idle judges.free handles).elim
  | accepted completion =>
    cases handles
    unfold acceptedPhase at acting
    cases result : completion.result <;>
      simp [result, OrchestrationPhase.acting, OrchestrationPhase.execution] at acting
  | liveRead _ _ _ _ found admitted =>
    cases handles
    obtain rfl := livePhase_acting acting
    exact acting_of_admits admitted found
  | revalidationFailed | liveReported => cases handles; cases acting
  | @revalidated old live _ _ _ again =>
    cases handles
    cases acting
    exact coherent.acting old live again.handles (by rw [again.phase]; rfl)
  | targetFailed old execution error was phase =>
    exact continued was (by rw [phase]; rfl) (failedPhase_execution execution 0 error) handles
  | targetResolved old execution was phase =>
    exact continued was (by rw [phase]; rfl) (stepPhase_execution execution state.now 0) handles
  | preparationFailed _ execution stepIndex _ error was phase =>
    exact continued was (by rw [phase]; rfl)
      (failedPhase_execution execution stepIndex error) handles
  | prepared _ _ _ _ was phase =>
    exact continued was (by rw [phase]; rfl) rfl handles
  | dispatched old execution stepIndex retry answer was phase =>
    exact continued was (by rw [phase]; rfl)
      (answeredPhase_execution execution state.now stepIndex retry answer) handles
  | handlingEnded | withdrawn | recorded | stopped | blocked | committed => cases handles
  | _ => exact coherent.acting handling rule handles acting

theorem reported_stepPhase {now stepIndex : Nat} {execution other : ReservedOrchestrationExecution}
    (phase : stepPhase now execution stepIndex = .finished other result) :
    Reported other result := by
  unfold stepPhase at phase
  split at phase
  · cases phase
  · cases phase
    exact .inl ⟨now, rfl⟩

theorem Coherent.step_reported (coherent : Coherent state)
    (step : OrchestrationStep state action next) {execution : ReservedOrchestrationExecution}
    (handles : next.handling = some handling)
    (phase : handling.phase = .finished execution result) : Reported execution result := by
  cases step with
  | accepted completion =>
    cases handles
    unfold acceptedPhase at phase
    cases outcome : completion.result <;> simp [outcome] at phase
  | liveRead =>
    cases handles
    unfold livePhase at phase
    (repeat' split at phase) <;> cases phase
  | revalidationFailed | revalidated | liveReported | prepared => cases handles; cases phase
  | targetFailed _ _ error => cases handles; cases phase; exact .inr ⟨0, error, rfl⟩
  | targetResolved => cases handles; exact reported_stepPhase phase
  | preparationFailed _ _ stepIndex _ error =>
    cases handles
    cases phase
    exact .inr ⟨stepIndex, error, rfl⟩
  | dispatched _ _ stepIndex _ answer =>
    cases handles
    cases answer with
    | committed => exact reported_stepPhase phase
    | failed =>
      simp only [answeredPhase] at phase
      split at phase <;> cases phase
      exact .inr ⟨stepIndex, _, rfl⟩
  | handlingEnded | withdrawn | recorded | stopped | blocked | committed => cases handles
  | _ => exact coherent.reported handling execution result handles phase

theorem Coherent.step_handled (coherent : Coherent state)
    (step : OrchestrationStep state action next) (handles : next.handling = some handling) :
    next.book.pending handling.ruleId = none ∧ (next.entries handling.ruleId).isSome = true := by
  have idle : state.handling = none → state.handling = some handling → False := by
    intro free again
    rw [free] at again
    cases again
  cases step with
  | unsupported free | cleared free | reconciled _ free | passed _ _ _ _ free | started _ _ _ free
  | dropped _ _ _ free => exact (idle free handles).elim
  | probeFailed judges | conditionAbsent judges | latchHeld judges | stillPending judges
  | spawned judges => exact (idle judges.free handles).elim
  | accepted completion _ _ _ _ _ _ known =>
    cases handles
    exact ⟨ReservationBook.pending_claim_self completion, known⟩
  | liveRead old _ was | liveReported old _ _ was | targetFailed old _ _ was
  | targetResolved old _ was | preparationFailed old _ _ _ _ was | prepared old _ _ _ was
  | dispatched old _ _ _ _ was =>
    cases handles; exact coherent.handled old was
  | @revalidationFailed old _ _ _ _ again | @revalidated old _ _ _ _ again =>
    cases handles
    refine ⟨(coherent.handled old again.handles).1, ?_⟩
    show (update state.entries old.ruleId (some _) old.ruleId).isSome = true
    rw [update_self]
    rfl
  | handlingEnded | withdrawn | recorded | stopped | blocked | committed => cases handles
  | _ => exact coherent.handled handling handles

theorem OrchestrationStep.position_listed (step : OrchestrationStep state action next)
    {rules : List OrchestrationRuleInfo} (stands : next.position = .listed rules) :
    rules = state.runtime.rules ∧ next.runtime = state.runtime ∧ next.entries = state.entries ∨
      state.position = .listed rules := by
  cases step with
  | listed => cases stands; exact .inl ⟨rfl, rfl, rfl⟩
  | reconciled | cycleEnded | started | probeFailed | conditionAbsent | latchHeld | stillPending
  | spawned => cases stands
  | passed _ _ _ _ _ _ _ moved =>
    rcases moved with rfl | rfl <;> cases stands
  | _ => exact .inr stands

theorem Coherent.step (coherent : Coherent state) (step : OrchestrationStep state action next) :
    Coherent next := by
  have moves := coherent.moves step
  refine ⟨?_, ?_, fun handling rule => coherent.step_acting step,
    fun handling execution result => coherent.step_reported step,
    fun handling => coherent.step_handled step, ?_, ?_, ?_⟩
  · intro rule member
    refine Reading.moves Continues.trans ?_ moves
    rcases step.rules member with before | read
    · exact coherent.position rule before
    · exact RuleRegistry.reading_of_find Continues.refl (RuleRegistry.find_of_mem read)
  · intro handling rule error handles phase
    refine Reading.moves Continues.trans ?_ moves
    rcases step.recording handles phase with before | found
    · exact coherent.recording handling rule error before phase
    · exact RuleRegistry.reading_of_find Continues.refl found
  · intro id entered
    refine Nat.lt_of_lt_of_le ?_ moves.nextId
    rcases step.entries_isSome entered with before | ⟨rules, stands, rule, member, rfl⟩
    · exact coherent.known id before
    · exact (coherent.position rule (by rw [stands]; exact member)).known
  · intro rules stands id live found entered
    rcases step.position_listed stands with ⟨rfl, sameRuntime, -⟩ | stood
    · rw [sameRuntime] at found
      exact ⟨live, RuleRegistry.mem_of_find found, RuleRegistry.number_of_find found⟩
    · rcases step.entries_isSome entered with before | ⟨others, again, rule, member, own⟩
      · obtain ⟨old, was, -⟩ := moves.rule id live (coherent.known id before) found
        exact coherent.listed rules stood id old was before
      · rw [stood] at again
        cases again
        exact ⟨rule, member, own⟩
  · intro event member rule names
    refine Reading.moves Continues.trans ?_ moves
    rcases step.logged member names with before | ⟨handling, handles, acting⟩
    · exact coherent.logged event before rule names
    · exact (coherent.acting handling rule handles acting).2.reading

end OrchestrationSession

end Rub
