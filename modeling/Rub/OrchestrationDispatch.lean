import Rub.OrchestrationFiring

/-!
A step whose dispatch may have been committed by the target session is not sent again under
another command id, as long as its evidence is present. The exceptions are named below: the
first step of an execution fails after a possible commit, a latch is lost in the registry, or
a network request triggers its rule a second time.
-/

namespace Rub

/-- A dispatch after a possible commit, and one of the same step under another command id. -/
def Redispatches (first second : OrchestrationEvent) : Prop :=
  ∃ lost again, first = .dispatched lost ∧ second = .dispatched again ∧
    lost.possibleCommit = true ∧ again.rule.id = lost.rule.id ∧
      again.stepIndex = lost.stepIndex ∧ again.commandId ≠ lost.commandId

def OrchestrationEvent.possibleCommit (test : OrchestrationDispatch → Bool) :
    OrchestrationEvent → Bool
  | .dispatched dispatch => dispatch.possibleCommit && test dispatch
  | _ => false

/-- An evaluation after which the evidence of the rule is not present any more. -/
def OrchestrationEvent.endsEvidence (id : Nat) (evidenceKey : String) :
    OrchestrationEvent → Bool
  | .evaluated other answer => other == id && answer.ends evidenceKey
  | _ => false

namespace OrchestrationSession

variable {state next : OrchestrationSession} {action : OrchestrationAction}

/-- The first step of an execution fails although one of its dispatches may have been
committed. -/
def failsAfterPossibleCommit (state : OrchestrationSession) : OrchestrationAction → Bool
  | .dispatch (.failed error possibleCommit) =>
    match state.handling.map OrchestrationHandling.phase with
    | some (.dispatching execution 0 retry) =>
      match retry.afterFailure error with
      | .error _ =>
        possibleCommit || state.log.any (OrchestrationEvent.possibleCommit fun dispatch =>
          dispatch.commandId == stepCommandId execution 0)
      | .ok _ => false
    | _ => false
  | _ => false

/-- A network request triggers its rule although a dispatch that it triggered before may have
been committed. -/
def retriggersPossibleCommit (state : OrchestrationSession) : OrchestrationAction → Bool
  | .evaluate probe =>
    match state.position with
    | .judging rule _ =>
      match state.entries rule.id with
      | some entry =>
        match (loadOrchestrationConditionState rule probe entry).1 with
        | .ok (.triggered condition) =>
          rule.isNetworkRequest &&
            anyStanding
              (OrchestrationEvent.possibleCommit fun dispatch =>
                dispatch.rule.id == rule.id &&
                  dispatch.evidenceKey == condition.evidenceKey)
              (OrchestrationEvent.endsEvidence rule.id condition.evidenceKey) state.log
        | _ => false
      | none => false
    | _ => false
  | _ => false

/-- The steps that leave the command id of a possible commit behind. -/
def abandonsPossibleCommit (state : OrchestrationSession) (action : OrchestrationAction) : Bool :=
  state.reloadsOtherLatch action || state.failsAfterPossibleCommit action ||
    state.retriggersPossibleCommit action

variable {lost : OrchestrationDispatch} {execution : ReservedOrchestrationExecution}
  {handling : OrchestrationHandling}

/-- How the phase of an execution stands to one of its dispatches that may have been
committed: the step is not behind it, and it does not end in a retry by a later cycle. -/
def Covers (lost : OrchestrationDispatch) : OrchestrationPhase → Prop
  | .preparing _ stepIndex => lost.stepIndex < stepIndex
  | .dispatching _ stepIndex _ => lost.stepIndex ≤ stepIndex
  | .finished _ result => result.status = .fired ∨ result.nextStatus.Settled
  | _ => False

/-- The execution that made the dispatch is still under way. -/
structure Executing (state : OrchestrationSession) (lost : OrchestrationDispatch)
    (handling : OrchestrationHandling) (execution : ReservedOrchestrationExecution) : Prop where
  handles : state.handling = some handling
  runs : handling.phase.execution = some execution
  rule : execution.rule = lost.rule
  evidenceKey : execution.evidenceKey = lost.evidenceKey
  commandId : lost.commandId = stepCommandId execution lost.stepIndex
  covers : Covers lost handling.phase

theorem Executing.rephase {phase : OrchestrationPhase}
    (executing : Executing state lost handling execution)
    (handles : next.handling = some { handling with phase := phase })
    (runs : phase.execution = some execution) (covers : Covers lost phase) :
    ∃ handling execution, Executing next lost handling execution :=
  ⟨_, execution, handles, runs, executing.rule, executing.evidenceKey, executing.commandId, covers⟩

variable {result : OrchestrationResultInfo} {stepIndex : Nat}

theorem covers_failedPhase (execution : ReservedOrchestrationExecution)
    (later : 0 < stepIndex) (error : ErrorEnvelope) :
    Covers lost (failedPhase execution stepIndex error) := by
  refine .inr ?_
  have status : (orchestrationFailureResult execution.rule stepIndex error).nextStatus =
      classifyOrchestrationErrorStatus error.code := if_neg (Nat.ne_of_gt later)
  rw [status]
  cases error.code <;> exact ⟨by decide, by decide⟩

/-- A dispatch is answered without leaving a possible commit at its step, or at a step before
it, behind. -/
theorem covers_answeredPhase {retry : OrchestrationRetry}
    {answer : DispatchAnswer} (handles : state.handling = some handling)
    (phase : handling.phase = .dispatching execution stepIndex retry)
    (reached : lost.stepIndex ≤ stepIndex)
    (ambiguous : stepIndex = 0 → answer.possibleCommit = true ∨
      (.dispatched lost ∈ state.log ∧ lost.possibleCommit = true ∧
      lost.commandId = stepCommandId execution 0))
    (safe : state.failsAfterPossibleCommit (.dispatch answer) = false) :
    Covers lost (answeredPhase state.now execution stepIndex retry answer) := by
  cases answer with
  | committed =>
    show Covers lost (stepPhase state.now execution (stepIndex + 1))
    unfold stepPhase
    split
    · exact Nat.lt_succ_of_le reached
    · exact .inl rfl
  | failed error possibleCommit =>
    cases outcome : retry.afterFailure error with
    | ok =>
      simp only [answeredPhase, outcome]
      exact reached
    | error reported =>
      simp only [answeredPhase, outcome]
      rcases Nat.eq_zero_or_pos stepIndex with rfl | later
      · simp only [failsAfterPossibleCommit, handles, Option.map_some, phase, outcome,
          Bool.or_eq_false_iff, List.any_eq_false] at safe
        rcases ambiguous rfl with lostNow | ⟨member, possible, same⟩
        · have possible : possibleCommit = true := lostNow
          rw [safe.1] at possible
          cases possible
        · have untouched := safe.2 _ member
          simp [OrchestrationEvent.possibleCommit, possible, same] at untouched
      · exact covers_failedPhase execution later reported

theorem Acting.recorded_status {runtime : OrchestrationRuntimeState}
    {rule live : OrchestrationRuleInfo}
    (acting : Acting runtime rule) {evidence : Option TriggerEvidenceInfo}
    (found : (runtime.recordOutcomeWithFallback rule rule.lifecycleGeneration evidence
      result).rule rule.id = some live) : live.status = result.nextStatus := by
  obtain ⟨current, was, fresh⟩ := acting.live
  unfold OrchestrationRuntimeState.recordOutcomeWithFallback at found
  simp only [was, fresh, if_true] at found
  have edited := (RuleRegistry.find_edit_self rule.id
    (OrchestrationRuleInfo.withOutcome evidence result) (fun _ => rfl)).symm.trans found
  rw [show runtime.registry.find rule.id = some current from was] at edited
  cases edited
  rfl

/-- After its execution a rule is retired, or its evidence is latched, or it watches network
requests and nothing is reserved for it. -/
theorem Coherent.settles_of_commit (coherent : Coherent state)
    (handles : state.handling = some handling) (phase : handling.phase = .finished execution result)
    (final : result.status = .fired ∨ result.nextStatus.Settled) :
    Retired (state.commitExecution handling execution result) execution.rule.id ∨
      Latched (state.commitExecution handling execution result) execution.rule.id
        execution.evidenceKey ∨
      execution.rule.isNetworkRequest = true ∧
        Unreserved (state.commitExecution handling execution result) execution.rule.id := by
  obtain ⟨own, acting⟩ := coherent.acting handling execution.rule handles (by rw [phase]; rfl)
  have retires : result.nextStatus.Settled →
      Retired (state.commitExecution handling execution result) execution.rule.id := by
    intro settled live found
    rw [acting.recorded_status found]
    exact settled
  rcases final with fired | settled
  · cases mode : execution.rule.mode with
    | once =>
      refine .inl (retires ?_)
      rw [(coherent.reported handling execution result handles phase).nextStatus_of_fired fired,
        successfulNextStatus, mode]
      exact ⟨by decide, by decide⟩
    | repeating =>
      cases network : execution.rule.isNetworkRequest with
      | false =>
        exact .inr (.inl (coherent.latched_of_commit handles phase mode network fired))
      | true =>
        have vacant := (coherent.handled handling handles).1
        exact .inr (.inr ⟨rfl, own ▸ vacant, fun other none_left => by cases none_left⟩)
  · exact .inl (retires settled)

/-- What became of a possible commit whose evidence is still present. -/
def Accounted (state : OrchestrationSession) (lost : OrchestrationDispatch) : Prop :=
  Retired state lost.rule.id ∨ Latched state lost.rule.id lost.evidenceKey ∨
    (lost.rule.isNetworkRequest = true ∧ Unreserved state lost.rule.id) ∨
      ∃ handling execution, Executing state lost handling execution

structure DispatchInv (state : OrchestrationSession) : Prop where
  coherent : Coherent state
  separated : Separated EndsEpisode Redispatches state.log
  accounted : ∀ lost, Standing EndsEpisode state.log (.dispatched lost) →
    lost.possibleCommit = true → Accounted state lost

theorem dispatchInv_initial : DispatchInv .initial where
  coherent := coherent_initial
  separated := separated_nil
  accounted := fun _ stands => absurd stands (not_standing_nil _)

theorem accounted_of_dispatched (step : OrchestrationStep state action next)
    (safe : state.failsAfterPossibleCommit action = false)
    (added : next.log = state.log ++ [.dispatched lost]) (possible : lost.possibleCommit = true) :
    Accounted next lost := by
  obtain ⟨handling, execution, stepIndex, retry, answer, rfl, handles, phase, same, after⟩ :=
    step.dispatches added
  cases same
  refine .inr (.inr (.inr ⟨_, execution, after, answeredPhase_execution .., rfl, rfl, rfl, ?_⟩))
  exact covers_answeredPhase handles phase (Nat.le_refl _) (fun _ => .inl possible) safe

theorem Executing.step (coherent : Coherent state)
    (executing : Executing state lost handling execution) (member : .dispatched lost ∈ state.log)
    (possible : lost.possibleCommit = true) (step : OrchestrationStep state action next)
    (safe : state.failsAfterPossibleCommit action = false) : Accounted next lost := by
  have handles := executing.handles
  have busy : state.handling = none → False := by
    intro free
    rw [free] at handles
    cases handles
  -- the phase of the running execution excludes every other handler step
  have runs := executing.runs
  have covers := executing.covers
  have idle : ∀ {other : OrchestrationHandling}, state.handling = some other →
      other.phase.execution = none → False := by
    intro other again passive
    rw [handles] at again
    cases again
    rw [runs] at passive
    cases passive
  have stays : next.handling = state.handling → Accounted next lost := fun same =>
    .inr (.inr (.inr ⟨handling, execution, same.trans handles, runs, executing.rule,
      executing.evidenceKey, executing.commandId, covers⟩))
  cases step with
  | clockSet | refreshed | commanded | delivered | vanished => exact stays rfl
  | unsupported free | cleared free | listed free | reconciled _ free | cycleEnded free
  | passed _ _ _ _ free | started _ _ _ free | accepted _ _ _ _ free | dropped _ _ _ free =>
    exact (busy free).elim
  | probeFailed judges | conditionAbsent judges | latchHeld judges | stillPending judges
  | spawned judges => exact (busy judges.free).elim
  | handlingEnded _ _ again phase =>
    rcases phase with phase | ⟨error, phase⟩ <;> exact (idle again (by rw [phase]; rfl)).elim
  | revalidationFailed again | withdrawn again | revalidated again =>
    exact (idle again.handles (by rw [again.phase]; rfl)).elim
  | liveRead _ _ again phase | liveReported _ _ _ again phase | recorded _ _ _ again phase
  | stopped _ _ again phase
  | blocked _ _ _ again phase | targetFailed _ _ _ again phase | targetResolved _ _ again phase =>
    exact (idle again (by rw [phase]; rfl)).elim
  | preparationFailed _ _ _ _ error again phase =>
    rw [handles] at again
    cases again
    rw [phase] at runs covers
    cases runs
    exact .inr (.inr (.inr (executing.rephase rfl rfl
      (covers_failedPhase execution (Nat.lt_of_le_of_lt (Nat.zero_le _) covers) error))))
  | prepared _ _ stepIndex _ again phase =>
    rw [handles] at again
    cases again
    rw [phase] at runs covers
    cases runs
    have reached : lost.stepIndex < stepIndex := covers
    exact .inr (.inr (.inr (executing.rephase rfl rfl (Nat.le_of_lt reached))))
  | dispatched _ _ stepIndex _ _ again phase =>
    rw [handles] at again
    cases again
    have reached : lost.stepIndex ≤ stepIndex := by
      rw [phase] at covers
      exact covers
    rw [phase] at runs
    cases runs
    refine .inr (.inr (.inr (executing.rephase rfl (answeredPhase_execution ..) ?_)))
    refine covers_answeredPhase handles phase reached (fun first => .inr ?_) safe
    refine ⟨member, possible, ?_⟩
    have zero : lost.stepIndex = 0 := by omega
    rw [executing.commandId, zero]
  | committed _ _ _ again phase =>
    rw [handles] at again
    cases again
    rw [phase] at runs covers
    cases runs
    have settles := coherent.settles_of_commit handles phase covers
    rw [executing.rule, executing.evidenceKey] at settles
    exact settles.imp_right fun rest => rest.imp_right .inl

theorem retriggers_of_asks {rule : OrchestrationRuleInfo} {probe : OrchestrationProbe}
    {entry : OrchestrationWorkerEntry} {condition : TriggeredOrchestrationCondition}
    (asks : Asks state action next rule probe entry condition) (own : rule.id = lost.rule.id)
    (network : rule.isNetworkRequest = true) (same : condition.evidenceKey = lost.evidenceKey)
    (possible : lost.possibleCommit = true)
    (stood : Standing EndsEpisode state.log (.dispatched lost)) :
    state.retriggersPossibleCommit action = true := by
  obtain ⟨later, stands⟩ := asks.stands
  rw [asks.taken]
  simp only [retriggersPossibleCommit, stands, asks.found, asks.answer, network, Bool.true_and]
  refine stood.anyStanding ?_ ?_
  · simp [OrchestrationEvent.possibleCommit, possible, own, same]
  · intro event ends
    cases event with
    | evaluated id answer =>
      simp only [OrchestrationEvent.endsEvidence, Bool.and_eq_true, beq_iff_eq] at ends
      exact ⟨lost.rule.id, lost.evidenceKey, answer, rfl, by rw [ends.1, own], same ▸ ends.2⟩
    | _ => cases ends

/-- A network rule for which nothing is reserved stays so until other evidence comes. -/
theorem accounted_of_unreserved (coherent : Coherent state)
    (network : lost.rule.isNetworkRequest = true) (unreserved : Unreserved state lost.rule.id)
    (possible : lost.possibleCommit = true)
    (stood : Standing EndsEpisode state.log (.dispatched lost))
    (unended : ∀ event, next.log = state.log ++ [event] → ¬ EndsEpisode (.dispatched lost) event)
    (step : OrchestrationStep state action next)
    (safe : state.retriggersPossibleCommit action = false) : Accounted next lost := by
  have logged := coherent.logged _ stood.mem lost.rule rfl
  rcases unreserved.step step with still | ⟨rule, probe, entry, condition, own, asks⟩
  · exact .inr (.inr (.inl ⟨network, still⟩))
  · cases alive : state.runtime.rule lost.rule.id with
    | none => exact .inl (retired_of_gone coherent logged.known alive step)
    | some live =>
      obtain ⟨later, stands⟩ := asks.stands
      have judged := coherent.position rule (by rw [stands]; exact List.mem_cons_self)
      have sameKind : rule.isNetworkRequest = true := by
        rw [← (judged.current live (own ▸ alive)).isNetworkRequest,
          (logged.current live alive).isNetworkRequest]
        exact network
      by_cases same : condition.evidenceKey = lost.evidenceKey
      · rw [retriggers_of_asks asks own sameKind same possible stood] at safe
        cases safe
      · refine absurd ⟨lost.rule.id, lost.evidenceKey, .present condition.evidenceKey, rfl,
          by rw [own], ?_⟩ (unended _ asks.logged)
        simpa [ConditionAnswer.ends] using same

theorem DispatchInv.step_accounted (inv : DispatchInv state)
    (step : OrchestrationStep state action next)
    (safe : state.abandonsPossibleCommit action = false)
    (stands : Standing EndsEpisode next.log (.dispatched lost))
    (possible : lost.possibleCommit = true) : Accounted next lost := by
  simp only [abandonsPossibleCommit, Bool.or_eq_false_iff] at safe
  obtain ⟨⟨keeps, ends⟩, triggers⟩ := safe
  rcases step.standing stands with added | ⟨stood, unended⟩
  · exact accounted_of_dispatched step ends added possible
  · have known := (inv.coherent.logged _ stood.mem lost.rule rfl).known
    rcases inv.accounted lost stood possible with retired | latched | ⟨network, unreserved⟩ |
      ⟨handling, execution, executing⟩
    · exact .inl (retired.step inv.coherent known step)
    · rcases latched.step inv.coherent known step keeps with retired | kept | ⟨answer, added, ended⟩
      · exact .inl retired
      · exact .inr (.inl kept)
      · exact absurd ⟨lost.rule.id, lost.evidenceKey, answer, rfl, rfl, ended⟩ (unended _ added)
    · exact accounted_of_unreserved inv.coherent network unreserved possible stood unended step
        triggers
    · exact executing.step inv.coherent stood.mem possible step ends

/-- While a possible commit is accounted for, its step is dispatched by its own execution
only, and that uses one command id for a step. -/
theorem DispatchInv.step_separated (inv : DispatchInv state)
    (step : OrchestrationStep state action next) :
    Separated EndsEpisode Redispatches next.log := by
  rcases step.log with same | ⟨event, added⟩
  · rw [same]
    exact inv.separated
  · rw [added]
    refine inv.separated.append fun marked stood clash => ?_
    obtain ⟨lost, again, rfl, rfl, possible, own, sameStep, different⟩ := clash
    obtain ⟨handling, execution, stepIndex, retry, answer, -, handles, phase, same, -⟩ :=
      step.dispatches added
    cases same
    have acts : handling.phase.acting = some execution.rule := by rw [phase]; rfl
    have handled := (inv.coherent.acting handling execution.rule handles acts).1
    have reserved : ¬ Unreserved state lost.rule.id := fun unreserved =>
      unreserved.handling handling handles (handled.symm.trans own)
    rcases inv.accounted lost stood possible with retired | latched | ⟨-, unreserved⟩ |
      ⟨running, other, executing⟩
    · exact inv.coherent.not_retired handles acts (own ▸ retired)
    · exact reserved latched.unreserved
    · exact reserved unreserved
    · have again := executing.handles
      rw [handles] at again
      cases again
      have runs := executing.runs
      rw [phase] at runs
      cases runs
      have equal := executing.commandId
      rw [← sameStep] at equal
      exact different equal.symm

theorem DispatchInv.step (inv : DispatchInv state) (step : OrchestrationStep state action next)
    (safe : state.abandonsPossibleCommit action = false) : DispatchInv next where
  coherent := inv.coherent.step step
  separated := inv.step_separated step
  accounted := fun _ => inv.step_accounted step safe

/-- A step that may have been committed is sent again under its own command id only, until its
evidence is gone. -/
theorem possible_commit_not_redispatched {actions : List OrchestrationAction}
    {final : OrchestrationSession} (safe : orchestrationSystem.Along
      (fun state action => state.abandonsPossibleCommit action = false) .initial actions)
    (run : orchestrationSystem.runFrom .initial actions = some final) :
    Separated EndsEpisode Redispatches final.log :=
  (orchestrationSystem.runFrom_preserves_along
    (fun _ _ _ inv allowed taken => DispatchInv.step inv (step_inversion taken) allowed)
    dispatchInv_initial safe run).separated

/-- The response of a dispatch is lost. -/
def lostResponse : DispatchAnswer :=
  .failed ((ErrorEnvelope.new .ipcProtocolError "Failed to dispatch").withContext
    (Json.object [("reason", Json.string "orchestration_target_dispatch_transport_failed")])) true

/-- The click may have been committed, its execution fails, and the next cycle executes the
rule again. -/
def abandonedRun : List OrchestrationAction :=
  registeringRun 0 ++ executingRun 1 [lostResponse] ++ executingRun 2 [.committed]

/-- The click is sent again within its execution. -/
def replayedRun : List OrchestrationAction :=
  registeringRun 1 ++ executingRun 1 [lostResponse, .committed] ++ cycleRun seenText

/-- A first step that fails leaves its rule armed, also after a possible commit; the new
generation of the rule is part of the command id, so the target cannot know the click. -/
theorem possible_commit_sent_under_new_id :
    ∃ actions final, orchestrationSystem.runFrom .initial actions = some final ∧
      ¬ Separated EndsEpisode Redispatches final.log := by
  refine ⟨abandonedRun, sessionAfter abandonedRun, by rfl, fun separated => ?_⟩
  obtain ⟨before, lost, rule, result, again, after, split, evidenceKey, redispatches⟩ :
      ∃ before lost rule result again after,
        (sessionAfter abandonedRun).log = before ++ .dispatched lost ::
          ([.executed rule "seen" result, .evaluated 1 (.present "seen"),
            .evaluated 1 (.present "seen")] ++ .dispatched again :: after) ∧
        lost.evidenceKey = "seen" ∧ lost.possibleCommit = true ∧
          again.rule.id = lost.rule.id ∧ again.stepIndex = lost.stepIndex ∧
          again.commandId ≠ lost.commandId :=
    ⟨[_, _], _, _, _, _, [_], by rfl, by rfl, by rfl, by rfl, by rfl, by decide⟩
  obtain ⟨event, member, id, other, answer, marked, rfl, ends⟩ :=
    separated _ _ _ _ _ split ⟨lost, again, rfl, rfl, redispatches⟩
  obtain ⟨rfl, rfl⟩ : lost.rule.id = id ∧ lost.evidenceKey = other := by
    simpa [OrchestrationEvent.episode] using marked
  rw [evidenceKey] at ends
  simp only [List.mem_cons, OrchestrationEvent.evaluated.injEq, reduceCtorEq, List.not_mem_nil,
    or_false, false_or] at member
  rcases member with ⟨-, rfl⟩ | ⟨-, rfl⟩ <;> revert ends <;> decide

theorem replayed_dispatch_keeps_id :
    (sessionAfter replayedRun).log.length = 6 ∧
      Separated EndsEpisode Redispatches (sessionAfter replayedRun).log := by
  have safe : orchestrationSystem.Along
      (fun state action => state.abandonsPossibleCommit action = false) .initial replayedRun := by
    decide
  exact ⟨by rfl, possible_commit_not_redispatched safe (by rfl)⟩

end OrchestrationSession

end Rub
