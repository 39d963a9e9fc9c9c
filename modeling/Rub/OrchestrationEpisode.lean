import Rub.OrchestrationCoherence
import Rub.StandingEvents

/-!
Evidence episodes of an orchestration rule. What was done for a piece of evidence stands until
an evaluation of the rule's condition finds no evidence, or other evidence. While it stands,
the rule is retired, or its latch keeps the worker from acting on the evidence again.
-/

namespace Rub

open RuleRegistry (Moves Reading)
open Function ReservationBook

/-- The rule and the evidence that something was done for. -/
def OrchestrationEvent.episode : OrchestrationEvent → Option (Nat × String)
  | .evaluated _ _ => none
  | .dispatched dispatch => some (dispatch.rule.id, dispatch.evidenceKey)
  | .executed rule evidenceKey _ => some (rule.id, evidenceKey)

/-- The answer of an evaluation after which the evidence is not present any more. -/
def ConditionAnswer.ends (evidenceKey : String) : ConditionAnswer → Bool
  | .failed => false
  | .absent => true
  | .present other => other != evidenceKey

/-- An evaluation that ends the episode of an event before it. -/
def EndsEpisode (marked later : OrchestrationEvent) : Prop :=
  ∃ id evidenceKey answer, marked.episode = some (id, evidenceKey) ∧
    later = .evaluated id answer ∧ answer.ends evidenceKey = true

variable {evidenceKey : String} {entry : OrchestrationWorkerEntry} {rule : OrchestrationRuleInfo}

theorem load_latchedEvidenceKey (rule : OrchestrationRuleInfo) (probe : OrchestrationProbe)
    (entry : OrchestrationWorkerEntry) :
    (loadOrchestrationConditionState rule probe entry).2.latchedEvidenceKey =
      entry.latchedEvidenceKey := by
  unfold loadOrchestrationConditionState
  split
  · rfl
  · split <;> rfl

/-- A cycle keeps a latch, unless it finds the rule armed again and the registry says
otherwise. -/
theorem reconcile_latchedEvidenceKey {committed : Option NetworkRequestBaseline}
    (latched : entry.latchedEvidenceKey = some evidenceKey) (reloads : entry.rearms rule = true →
      persistedLatchedOrchestrationEvidenceKey rule = some evidenceKey) :
    (reconcileOrchestrationEntry rule committed (some entry)).latchedEvidenceKey =
      some evidenceKey := by
  have armed : (if entry.rearms rule = true then entry.rearm rule committed
      else entry).latchedEvidenceKey = some evidenceKey := by
    split
    · exact reloads ‹_›
    · exact latched
  have primed : (if (orchestrationBaselineRequired rule && committed.isNone) = true then
      { (if entry.rearms rule = true then entry.rearm rule committed else entry) with
        networkCursorPrimed := false }
      else if entry.rearms rule = true then entry.rearm rule committed
      else entry).latchedEvidenceKey = some evidenceKey := by
    split <;> exact armed
  simp only [reconcileOrchestrationEntry, Option.getD_some]
  rw [primed]
  rfl

namespace OrchestrationSession

variable {state next : OrchestrationSession} {action : OrchestrationAction} {id : Nat}

theorem updateEntry_self (change : OrchestrationWorkerEntry → OrchestrationWorkerEntry)
    (found : state.entries id = some entry) :
    state.updateEntry id change id = some (change entry) := by
  rw [updateEntry, update_self, found]
  rfl

/-- The step asks for a reservation on the evidence of a condition. -/
structure Asks (state : OrchestrationSession) (action : OrchestrationAction)
    (next : OrchestrationSession) (rule : OrchestrationRuleInfo) (probe : OrchestrationProbe)
    (entry : OrchestrationWorkerEntry) (condition : TriggeredOrchestrationCondition) : Prop where
  taken : action = .evaluate probe
  stands : ∃ later, state.position = .judging rule later
  found : state.entries rule.id = some entry
  answer : (loadOrchestrationConditionState rule probe entry).1 = .ok (.triggered condition)
  unlatched : entry.latchedEvidenceKey ≠ some condition.evidenceKey
  logged : next.log = state.log ++ [.evaluated rule.id (.present condition.evidenceKey)]

theorem OrchestrationStep.pending (step : OrchestrationStep state action next)
    (vacant : state.book.pending id = none) :
    next.book.pending id = none ∨ ∃ rule probe entry condition, rule.id = id ∧
        Asks state action next rule probe entry condition := by
  have claimed : ∀ {completion : ReservationCompletion ErrorEnvelope}
      {channel : List (ReservationCompletion ErrorEnvelope)},
      ((state.book.withChannel channel).claim completion).2.pending id = none := by
    intro completion channel
    cases found : ((state.book.withChannel channel).claim completion).2.pending id with
    | none => rfl
    | some pending =>
      have before := pending_of_claim found
      rw [show (state.book.withChannel channel).pending id = none from vacant] at before
      cases before
  cases step with
  | unsupported | cleared | reconciled | conditionAbsent =>
    exact .inl (retain_pending_none _ vacant)
  | passed _ _ _ _ _ _ kept | started _ _ _ _ _ kept =>
    rcases kept with rfl | rfl
    · exact .inl vacant
    · exact .inl (retain_pending_none _ vacant)
  | @spawned rule later probe entry condition judges unlatched =>
    by_cases same : rule.id = id
    · rw [load_latchedEvidenceKey] at unlatched
      refine .inr ⟨rule, probe, entry, condition, same, rfl, ⟨later, judges.stands⟩,
        judges.found, judges.answered, unlatched, ?_⟩
      show state.log ++ [.evaluated rule.id (conditionAnswer _)] = _
      rw [judges.answered]
      rfl
    · refine .inl ?_
      show update state.book.pending rule.id _ id = none
      rw [update_of_ne (Ne.symm same)]
      exact vacant
  | accepted | dropped => exact .inl claimed
  | _ => exact .inl vacant

theorem OrchestrationStep.handling (step : OrchestrationStep state action next)
    {handling : OrchestrationHandling} (handles : next.handling = some handling) :
    (∃ old, state.handling = some old ∧ old.ruleId = handling.ruleId) ∨
      ∃ pending, state.book.pending handling.ruleId = some pending := by
  cases step with
  | accepted _ _ _ pending _ _ claimed =>
    cases handles
    exact .inr ⟨pending, (pending_of_claimed claimed).1⟩
  | revalidationFailed again | revalidated again =>
    cases handles; exact .inl ⟨_, again.handles, rfl⟩
  | liveRead old _ was | liveReported old _ _ was | targetFailed old _ _ was
  | targetResolved old _ was | preparationFailed old _ _ _ _ was | prepared old _ _ _ was
  | dispatched old _ _ _ _ was =>
    cases handles; exact .inl ⟨old, was, rfl⟩
  | handlingEnded | withdrawn | recorded | stopped | blocked | committed => cases handles
  | _ => exact .inl ⟨handling, handles, rfl⟩

/-- No reservation of the rule is pending or being acted on. -/
structure Unreserved (state : OrchestrationSession) (id : Nat) : Prop where
  pending : state.book.pending id = none
  handling : ∀ handling, state.handling = some handling → handling.ruleId ≠ id

theorem Unreserved.step (unreserved : Unreserved state id)
    (step : OrchestrationStep state action next) :
    Unreserved next id ∨ ∃ rule probe entry condition, rule.id = id ∧
        Asks state action next rule probe entry condition := by
  refine (step.pending unreserved.pending).imp (fun vacant => ⟨vacant, ?_⟩) (fun asks => asks)
  intro handling handles same
  rcases step.handling handles with ⟨old, was, own⟩ | ⟨pending, waits⟩
  · exact unreserved.handling old was (own.trans same)
  · rw [same, unreserved.pending] at waits
    cases waits

/-- The rule is gone, or no command and no result arms it again. -/
def Retired (state : OrchestrationSession) (id : Nat) : Prop :=
  ∀ live, state.runtime.rule id = some live → live.status.Settled

theorem Retired.step (retired : Retired state id) (coherent : Coherent state)
    (known : id < state.runtime.registry.nextId) (step : OrchestrationStep state action next) :
    Retired next id := by
  intro live found
  obtain ⟨old, was, continues⟩ := (coherent.moves step).rule id live known found
  exact continues.settled (retired old was)

theorem retired_of_gone (coherent : Coherent state) (known : id < state.runtime.registry.nextId)
    (gone : state.runtime.rule id = none) (step : OrchestrationStep state action next) :
    Retired next id := by
  intro live found
  have still : next.runtime.rule id = none := (coherent.moves step).gone known gone
  rw [still] at found
  cases found

theorem Coherent.not_retired (coherent : Coherent state) {handling : OrchestrationHandling}
    (handles : state.handling = some handling) (acts : handling.phase.acting = some rule) :
    ¬ Retired state rule.id := by
  intro retired
  have acting := (coherent.acting handling rule handles acts).2
  obtain ⟨live, found, _⟩ := acting.live
  exact acting.unsettled found (retired live found)

/-- The evidence is latched, and nothing is on its way that does not ask the latch. -/
structure Latched (state : OrchestrationSession) (id : Nat) (evidenceKey : String) : Prop where
  unreserved : Unreserved state id
  entry : ∃ entry, state.entries id = some entry ∧ entry.latchedEvidenceKey = some evidenceKey

/-- A cycle finds a rule armed again, and reads from the registry a latch that is not the one
it holds. -/
def reloadsOtherLatch (state : OrchestrationSession) : OrchestrationAction → Bool
  | .reconcile =>
    match state.position with
    | .listed rules => rules.any fun rule =>
      match state.entries rule.id with
      | some entry =>
        entry.rearms rule && entry.latchedEvidenceKey.isSome &&
          persistedLatchedOrchestrationEvidenceKey rule != entry.latchedEvidenceKey
      | none => false
    | _ => false
  | _ => false

theorem latch_of_reconcile {rules : List OrchestrationRuleInfo}
    {live : OrchestrationRuleInfo} (coherent : Coherent state)
    (stands : state.position = .listed rules) (alive : state.runtime.rule id = some live)
    (found : state.entries id = some entry) (latched : entry.latchedEvidenceKey = some evidenceKey)
    (keeps : state.reloadsOtherLatch .reconcile = false) :
    ∃ kept, reconcileOrchestrationWorkerState state.entries rules
        state.runtime.networkRequestBaselines id = some kept ∧
      kept.latchedEvidenceKey = some evidenceKey := by
  obtain ⟨rule, member, own⟩ := coherent.listed rules stands id live alive (by rw [found]; rfl)
  have listed : (rules.find? fun rule => rule.id = id).isSome = true := by
    rw [List.find?_isSome]
    exact ⟨rule, member, by simpa using own⟩
  obtain ⟨first, located⟩ := Option.isSome_iff_exists.mp listed
  have named : first.id = id := by simpa using List.find?_some located
  refine ⟨reconcileOrchestrationEntry first (state.runtime.networkRequestBaselines id)
    (some entry), ?_, ?_⟩
  · simp only [reconcileOrchestrationWorkerState, located, found, Option.map_some]
  · refine reconcile_latchedEvidenceKey latched fun rearms => ?_
    simp only [reloadsOtherLatch, stands, List.any_eq_false] at keeps
    have kept := keeps first (List.mem_of_find?_eq_some located)
    simpa [named, found, rearms, latched] using kept

/-- A step keeps the latch of a live rule that is not acted on, unless it evaluates its
condition as absent. -/
theorem Latched.step_entry {live : OrchestrationRuleInfo}
    (latched : Latched state id evidenceKey) (coherent : Coherent state)
    (alive : state.runtime.rule id = some live) (step : OrchestrationStep state action next)
    (keeps : state.reloadsOtherLatch action = false) :
    (∃ entry, next.entries id = some entry ∧ entry.latchedEvidenceKey = some evidenceKey) ∨
      next.log = state.log ++ [.evaluated id .absent] := by
  obtain ⟨entry, found, holds⟩ := latched.entry
  -- evaluations of the rule itself write back an entry with the same latch
  have evaluation : ∀ {rule : OrchestrationRuleInfo} {probe : OrchestrationProbe}
      {old : OrchestrationWorkerEntry}, state.entries rule.id = some old →
      ∃ kept, update state.entries rule.id
          (some (loadOrchestrationConditionState rule probe old).2) id = some kept ∧
        kept.latchedEvidenceKey = some evidenceKey := by
    intro rule probe old was
    by_cases same : id = rule.id
    · rw [← same, found] at was
      cases was
      rw [same, update_self]
      exact ⟨_, rfl, (load_latchedEvidenceKey rule probe entry).trans holds⟩
    · rw [update_of_ne same]
      exact ⟨entry, found, holds⟩
  have elsewhere : ∀ {handling : OrchestrationHandling} {written : Option OrchestrationWorkerEntry},
      state.handling = some handling →
      update state.entries handling.ruleId written id = some entry := by
    intro handling written handles
    rw [update_of_ne (Ne.symm (latched.unreserved.handling handling handles))]
    exact found
  cases step with
  | cleared _ empty =>
    have listed : live ∈ state.runtime.rules := RuleRegistry.mem_of_find alive
    rw [empty] at listed
    cases listed
  | reconciled _ _ stands =>
    exact .inl (latch_of_reconcile coherent stands alive found holds keeps)
  | probeFailed judges | stillPending judges | spawned judges =>
    exact .inl (evaluation judges.found)
  | @conditionAbsent rule _ _ _ _ judges =>
    by_cases same : id = rule.id
    · refine .inr ?_
      show state.log ++ [.evaluated rule.id (conditionAnswer _)] = _
      rw [judges.answered, same]
      rfl
    · refine .inl ⟨entry, ?_, holds⟩
      show update (update state.entries rule.id _) rule.id _ id = some entry
      rw [update_of_ne same, update_of_ne same]
      exact found
  | @latchHeld rule _ probe old condition judges =>
    obtain ⟨kept, now, still⟩ := @evaluation rule probe old judges.found
    refine .inl ?_
    by_cases same : id = rule.id
    · subst same
      refine ⟨commitOrchestrationNetworkProgress kept condition.networkProgress,
        updateEntry_self _ now, ?_⟩
      cases condition.networkProgress <;> exact still
    · exact ⟨kept, (update_of_ne same _ _).trans now, still⟩
  | revalidationFailed again | revalidated again =>
    exact .inl ⟨entry, elsewhere again.handles, holds⟩
  | stopped _ _ handles | blocked _ _ _ handles | committed _ _ _ handles =>
    exact .inl ⟨entry, elsewhere handles, holds⟩
  | @withdrawn handling _ _ _ _ again =>
    refine .inl ⟨entry, ?_, holds⟩
    show update (update state.entries handling.ruleId _) handling.ruleId _ id = _
    rw [update_of_ne (Ne.symm (latched.unreserved.handling handling again.handles))]
    exact elsewhere again.handles
  | _ => exact .inl ⟨entry, found, holds⟩

/-- What is latched stays latched until its rule is retired or its episode ends. -/
theorem Latched.step (latched : Latched state id evidenceKey) (coherent : Coherent state)
    (known : id < state.runtime.registry.nextId) (step : OrchestrationStep state action next)
    (keeps : state.reloadsOtherLatch action = false) :
    Retired next id ∨ Latched next id evidenceKey ∨
      ∃ answer, next.log = state.log ++ [.evaluated id answer] ∧
        answer.ends evidenceKey = true := by
  cases alive : state.runtime.rule id with
  | none => exact .inl (retired_of_gone coherent known alive step)
  | some =>
    refine .inr ?_
    rcases latched.unreserved.step step with unreserved | ⟨rule, probe, entry, condition, own, asks⟩
    · rcases latched.step_entry coherent alive step keeps with kept | absent
      · exact .inl ⟨unreserved, kept⟩
      · exact .inr ⟨.absent, absent, rfl⟩
    · obtain ⟨held, found, holds⟩ := latched.entry
      have same : entry = held := by
        have again := asks.found
        rw [own, found] at again
        exact (Option.some.inj again).symm
      refine .inr ⟨.present condition.evidenceKey, own ▸ asks.logged, ?_⟩
      have other := asks.unlatched
      rw [same, holds] at other
      simp only [ConditionAnswer.ends, bne_iff_ne]
      intro equal
      exact other (congrArg some equal.symm)

variable (step : OrchestrationStep state action next)

include step

theorem OrchestrationStep.log :
    next.log = state.log ∨ ∃ event, next.log = state.log ++ [event] := by
  cases step with
  | probeFailed | conditionAbsent | latchHeld | stillPending | spawned | revalidationFailed
  | withdrawn | revalidated | dispatched | committed => exact .inr ⟨_, rfl⟩
  | _ => exact .inl rfl

/-- What stands after a step: the event that it added, or one that stood before and that it
did not end. -/
theorem OrchestrationStep.standing {marked : OrchestrationEvent}
    (stands : Standing EndsEpisode next.log marked) :
    next.log = state.log ++ [marked] ∨ Standing EndsEpisode state.log marked ∧
        ∀ event, next.log = state.log ++ [event] → ¬ EndsEpisode marked event := by
  rcases step.log with same | ⟨event, added⟩
  · refine .inr ⟨same ▸ stands, fun event added => ?_⟩
    rw [same] at added
    simp at added
  · rw [added] at stands ⊢
    rcases standing_append stands with rfl | ⟨before, unended⟩
    · exact .inl rfl
    · refine .inr ⟨before, fun other same => ?_⟩
      obtain rfl : event = other := by simpa using same
      exact unended

theorem OrchestrationStep.executed {result : OrchestrationResultInfo}
    (added : next.log = state.log ++ [.executed rule evidenceKey result]) :
    ∃ handling execution, state.handling = some handling ∧
      handling.phase = .finished execution result ∧ execution.rule = rule ∧
        execution.evidenceKey = evidenceKey ∧
          next = state.commitExecution handling execution result := by
  cases step with
  | committed handling execution outcome handles phase =>
    have same : OrchestrationEvent.executed execution.rule execution.evidenceKey outcome =
        .executed rule evidenceKey result := by
      simpa [commitExecution] using added
    cases same
    exact ⟨handling, execution, handles, phase, rfl, rfl, rfl⟩
  | _ =>
    simp [judged, evaluated, clearRule, inPhase, finishHandling, commitProgress,
      dispatchEvent] at added

theorem OrchestrationStep.dispatches {dispatch : OrchestrationDispatch}
    (added : next.log = state.log ++ [.dispatched dispatch]) :
    ∃ handling execution stepIndex retry answer, action = .dispatch answer ∧
      state.handling = some handling ∧
      handling.phase = .dispatching execution stepIndex retry ∧
        .dispatched dispatch = dispatchEvent execution stepIndex answer ∧ next.handling =
          some { handling with
            phase := answeredPhase state.now execution stepIndex retry answer } := by
  cases step with
  | dispatched handling execution stepIndex retry answer handles phase =>
    have same : dispatchEvent execution stepIndex answer = .dispatched dispatch := by
      simpa [inPhase] using added
    exact ⟨handling, execution, stepIndex, retry, answer, rfl, handles, phase, same.symm, rfl⟩
  | _ =>
    simp [judged, evaluated, clearRule, inPhase, finishHandling, commitProgress,
      commitExecution] at added

end OrchestrationSession

end Rub
