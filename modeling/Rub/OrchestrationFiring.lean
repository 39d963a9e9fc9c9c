import Rub.OrchestrationEpisode

/-!
A repeating rule fires once per evidence episode, as long as no cycle that finds the rule
armed again reads a latch from the registry that was lost there.
-/

namespace Rub

/-- Two executions of a repeating rule without a network condition that both fired on the same
evidence. -/
def Refires (first second : OrchestrationEvent) : Prop :=
  ∃ rule again evidenceKey result other,
    first = .executed rule evidenceKey result ∧ second = .executed again evidenceKey other ∧
      again.id = rule.id ∧ rule.mode = .repeating ∧ rule.isNetworkRequest = false ∧
        result.status = .fired ∧ other.status = .fired

namespace OrchestrationSession

variable {state next : OrchestrationSession} {action : OrchestrationAction}
  {result : OrchestrationResultInfo} {execution : ReservedOrchestrationExecution}

theorem Reported.nextStatus_of_fired
    (reported : Reported execution result) (fired : result.status = .fired) :
    result.nextStatus = successfulNextStatus execution.rule := by
  rcases reported with ⟨now, rfl⟩ | ⟨stepIndex, error, rfl⟩
  · rfl
  · revert fired
    show classifyOrchestrationErrorStatus error.code = _ → _
    cases error.code <;> rintro ⟨⟩

/-- The evidence of a repeating rule that fired is latched when its result is recorded. -/
theorem Coherent.latched_of_commit (coherent : Coherent state) {handling : OrchestrationHandling}
    (handles : state.handling = some handling) (phase : handling.phase = .finished execution result)
    (repeating : execution.rule.mode = .repeating)
    (notNetwork : execution.rule.isNetworkRequest = false) (fired : result.status = .fired) :
    Latched (state.commitExecution handling execution result) execution.rule.id
      execution.evidenceKey := by
  obtain ⟨own, acting⟩ := coherent.acting handling execution.rule handles (by rw [phase]; rfl)
  obtain ⟨vacant, entered⟩ := coherent.handled handling handles
  obtain ⟨entry, found⟩ := Option.isSome_iff_exists.mp entered
  have nextStatus := (coherent.reported handling execution result handles phase).nextStatus_of_fired
    fired
  have retained : shouldRetainOrchestrationEvidenceLatch execution.rule result = true := by
    simp [shouldRetainOrchestrationEvidenceLatch, shouldPersistOrchestrationEvidenceLatch,
      OrchestrationRuleInfo.isArmed, nextStatus, successfulNextStatus, repeating, acting.armed,
      notNetwork, fired]
  refine ⟨⟨own ▸ vacant, fun other none_left => by cases none_left⟩, ?_⟩
  rw [own]
  refine ⟨_, updateEntry_self _ found, ?_⟩
  simp only [retained, if_true]

/-- What carries the property through a run. -/
structure FiringInv (state : OrchestrationSession) : Prop where
  coherent : Coherent state
  separated : Separated EndsEpisode Refires state.log
  fired : ∀ rule evidenceKey result,
    Standing EndsEpisode state.log (.executed rule evidenceKey result) →
      rule.mode = .repeating → rule.isNetworkRequest = false → result.status = .fired →
        Retired state rule.id ∨ Latched state rule.id evidenceKey

theorem firingInv_initial : FiringInv .initial where
  coherent := coherent_initial
  separated := separated_nil
  fired := fun _ _ _ stands => absurd stands (not_standing_nil _)

theorem FiringInv.step_fired (inv : FiringInv state)
    (step : OrchestrationStep state action next) (keeps : state.reloadsOtherLatch action = false)
    {rule : OrchestrationRuleInfo} {evidenceKey : String}
    (stands : Standing EndsEpisode next.log (.executed rule evidenceKey result))
    (repeating : rule.mode = .repeating) (notNetwork : rule.isNetworkRequest = false)
    (fired : result.status = .fired) :
    Retired next rule.id ∨ Latched next rule.id evidenceKey := by
  rcases step.standing stands with added | ⟨stood, unended⟩
  · obtain ⟨handling, execution, handles, phase, rfl, rfl, rfl⟩ := step.executed added
    exact .inr (inv.coherent.latched_of_commit handles phase repeating notNetwork fired)
  · have known := (inv.coherent.logged _ stood.mem rule rfl).known
    rcases inv.fired rule evidenceKey result stood repeating notNetwork fired with retired | latched
    · exact .inl (retired.step inv.coherent known step)
    · rcases latched.step inv.coherent known step keeps with retired | kept | ⟨answer, added, ends⟩
      · exact .inl retired
      · exact .inr kept
      · exact absurd ⟨rule.id, evidenceKey, answer, rfl, rfl, ends⟩ (unended _ added)

/-- An execution never fires on evidence for which a firing stands: its rule would be retired,
or not be reserved. -/
theorem FiringInv.step_separated (inv : FiringInv state)
    (step : OrchestrationStep state action next) : Separated EndsEpisode Refires next.log := by
  rcases step.log with same | ⟨event, added⟩
  · rw [same]
    exact inv.separated
  · rw [added]
    refine inv.separated.append fun marked stood clash => ?_
    obtain ⟨rule, again, evidenceKey, result, other, rfl, rfl, own, repeating, notNetwork,
      fired, -⟩ := clash
    obtain ⟨handling, execution, handles, phase, rfl, rfl, rfl⟩ := step.executed added
    have acts : handling.phase.acting = some execution.rule := by rw [phase]; rfl
    rcases inv.fired rule _ result stood repeating notNetwork fired with retired | latched
    · exact inv.coherent.not_retired handles acts (own ▸ retired)
    · have handled := (inv.coherent.acting handling execution.rule handles acts).1
      exact latched.unreserved.handling handling handles (handled.symm.trans own)

theorem FiringInv.step (inv : FiringInv state) (step : OrchestrationStep state action next)
    (keeps : state.reloadsOtherLatch action = false) : FiringInv next where
  coherent := inv.coherent.step step
  separated := inv.step_separated step
  fired := fun _ _ _ => inv.step_fired step keeps

/-- Between two firings of a repeating rule on the same evidence, some evaluation of its
condition found no evidence or other evidence. -/
theorem fires_once_per_episode {actions : List OrchestrationAction} {final : OrchestrationSession}
    (keeps : orchestrationSystem.Along (fun state action => state.reloadsOtherLatch action = false)
      .initial actions) (run : orchestrationSystem.runFrom .initial actions = some final) :
    Separated EndsEpisode Refires final.log :=
  (orchestrationSystem.runFrom_preserves_along
    (fun _ _ _ inv kept taken => FiringInv.step inv (step_inversion taken) kept)
    firingInv_initial keeps run).separated

def tabOf (session : String) : OrchestrationAddressInfo :=
  { sessionId := session, sessionName := session, tabIndex := some 0, tabTargetId := some "tab",
    frameId := none }

/-- A rule that clicks in one session whenever a text appears in another one. -/
def watchRule (maxRetries : Nat) : OrchestrationRuleInfo :=
  { id := 0, status := .armed, lifecycleGeneration := 1, source := tabOf "source",
    target := tabOf "target", mode := .repeating,
    executionPolicy := { cooldownMs := 0, maxRetries := maxRetries, cooldownUntilMs := none }
    condition :=
      { kind := .textPresent, urlPattern := none, method := none, statusCode := none,
        details := [] }
    actions := [{ kind := .browserCommand, command := some "click", payload := none }]
    correlationKey := "corr", idempotencyKey := "idem", unavailableReason := none,
    lastConditionEvidence := none, lastResult := none }

def registeringRun (maxRetries : Nat) : List OrchestrationAction :=
  [.command (.add (watchRule maxRetries) none),
    .refresh
      [{ sessionId := "source", sessionName := "source", availability := .addressable },
        { sessionId := "target", sessionName := "target", availability := .addressable }] true]

def seenText : OrchestrationProbe :=
  .answered (some { summary := "seen", fingerprint := none })
    { nextCursor := 0, observedDropCount := 0 }

def cycleRun (probe : OrchestrationProbe) : List OrchestrationAction :=
  [.list, .reconcile, .next, .evaluate probe, .next]

/-- A cycle that finds the text, and the execution of the rule's action. -/
def executingRun (attemptId : Nat) (answers : List DispatchAnswer) : List OrchestrationAction :=
  cycleRun seenText ++
    [.deliver { ruleId := 1, attemptId := attemptId, aborted := false } (.ok ()), .receive false,
      .readLive, .revalidate seenText, .resolveTarget none, .materialize 1 none] ++
    answers.map .dispatch ++ [.commit]

/-- The rule is paused and armed again; a cycle sees it paused. -/
def pausingRun : List OrchestrationAction :=
  [.command (.setStatus 1 .paused none), .list, .reconcile, .next,
    .command (.setStatus 1 .armed none)]

def sessionAfter (actions : List OrchestrationAction) : OrchestrationSession :=
  (orchestrationSystem.runFrom .initial actions).getD .initial

def unreachable : OrchestrationProbe :=
  .failed (ErrorEnvelope.new .daemonNotRunning "Source session 'source' is not available")

/-- The rule fires, a probe fails, the rule is paused and resumed, and fires again. -/
def refiringRun : List OrchestrationAction :=
  registeringRun 0 ++ executingRun 1 [.committed] ++ cycleRun unreachable ++ pausingRun ++
    executingRun 2 [.committed]

/-- The rule fires, and is paused and resumed while the text stays. -/
def resumedRun : List OrchestrationAction :=
  registeringRun 0 ++ executingRun 1 [.committed] ++ cycleRun seenText ++ pausingRun ++
    cycleRun seenText

/-- A failed probe replaces the result and the evidence that the registry remembers the latch
by; the text was there all the time, and the rule fires on it twice. -/
theorem probe_failure_loses_latch :
    ∃ actions final, orchestrationSystem.runFrom .initial actions = some final ∧
      ¬ Separated EndsEpisode Refires final.log := by
  refine ⟨refiringRun, sessionAfter refiringRun, by rfl, fun separated => ?_⟩
  obtain ⟨before, rule, result, dispatch, again, other, split, refires⟩ :
      ∃ before rule result dispatch again other,
        (sessionAfter refiringRun).log = before ++ .executed rule "seen" result ::
          ([.evaluated 1 .failed, .evaluated 1 (.present "seen"), .evaluated 1 (.present "seen"),
            .dispatched dispatch] ++ .executed again "seen" other :: []) ∧
        again.id = rule.id ∧ rule.mode = .repeating ∧ rule.isNetworkRequest = false ∧
          result.status = .fired ∧ other.status = .fired :=
    ⟨[_, _, _], _, _, _, _, _, by rfl, by rfl, by rfl, by rfl, by rfl, by rfl⟩
  obtain ⟨event, member, id, evidenceKey, answer, marked, rfl, ends⟩ :=
    separated _ _ _ _ _ split ⟨rule, again, "seen", result, other, rfl, rfl, refires⟩
  -- the evaluations in between failed, or found the same text
  obtain ⟨rfl, rfl⟩ : rule.id = id ∧ "seen" = evidenceKey := by
    simpa [OrchestrationEvent.episode] using marked
  simp only [List.mem_cons, OrchestrationEvent.evaluated.injEq, reduceCtorEq, List.not_mem_nil,
    or_false] at member
  rcases member with ⟨-, rfl⟩ | ⟨-, rfl⟩ | ⟨-, rfl⟩ <;> revert ends <;> decide

theorem resumed_rule_stays_latched :
    (sessionAfter resumedRun).log.length = 6 ∧
      Separated EndsEpisode Refires (sessionAfter resumedRun).log := by
  have kept : orchestrationSystem.Along
      (fun state action => state.reloadsOtherLatch action = false) .initial resumedRun := by
    decide
  exact ⟨by rfl, fires_once_per_episode kept (by rfl)⟩

open RuleRegistry (Moves edits_self)

/-- Along every run from a reachable state a rule that is left was there before, with the same
condition and no later generation, and with the same status if the generation is the same; a
rule that is neither armed nor paused is never armed again. -/
theorem orchestration_rules_continue {actions : List OrchestrationAction}
    (reached : orchestrationSystem.Reachable state)
    (run : orchestrationSystem.runFrom state actions = some next) :
    Moves Continues state.runtime.registry next.runtime.registry := by
  have coherent := reached.invariant orchestrationSystem coherent_initial
    fun _ _ _ coherent taken => coherent.step (step_inversion taken)
  have preserved : ∀ current action after,
      (Coherent current ∧ Moves Continues state.runtime.registry current.runtime.registry) →
      orchestrationSystem.step current action = some after →
      (Coherent after ∧ Moves Continues state.runtime.registry after.runtime.registry) := by
    rintro current action after ⟨coherent, moved⟩ taken
    have step := step_inversion taken
    exact ⟨coherent.step step, moved.trans Continues.trans (coherent.moves step)⟩
  exact (orchestrationSystem.runFrom_preserves preserved
    ⟨coherent, (edits_self _ Continues.refl).moves⟩ run).2

theorem resumed_rule_continues :
    Moves Continues (sessionAfter (registeringRun 0)).runtime.registry
      (sessionAfter resumedRun).runtime.registry := by
  have run : orchestrationSystem.runFrom (sessionAfter (registeringRun 0)) (resumedRun.drop 2) =
      some (sessionAfter resumedRun) := by rfl
  exact orchestration_rules_continue ⟨registeringRun 0, by rfl⟩ run

end OrchestrationSession

end Rub
