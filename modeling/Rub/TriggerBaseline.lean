import Rub.PartialMap
import Rub.TriggerCursor

/-!
A network trigger reads requests from its last arming on, as long as the worker notices every
resume: it saw the rule disarmed before, or its cursor has already reached the new baseline.
-/

namespace Rub.TriggerSession

open TriggerRuntimeState RuntimeObservatoryState PendingTriggerConditionPolicy
open RuleRegistry (number_of_find)

variable {state next : TriggerSession} {action : TriggerSessionAction}

/-- A cursor that the last observation has reached and that is not behind the arming of the
rule, unless the generation has changed since. -/
def AheadOf (state : TriggerSession) (id generation cursor : Nat) : Prop :=
  cursor ≤ state.observatory.requestCursor ∧
    ∀ armed live, state.armedCursor id = some armed → state.runtime.triggerRule id = some live →
      live.lifecycleGeneration = generation → armed ≤ cursor

/-- The entry that the evaluation of the rule started from, with a cursor not behind it. -/
def EvaluatedFrom (state : TriggerSession) (id cursor : Nat) : Prop :=
  cursor ≤ state.observatory.requestCursor ∧
    ∃ entry, state.entries id = some entry ∧ entry.networkCursorPrimed = true ∧
      entry.networkCursor ≤ cursor

structure Paced (state : TriggerSession) : Prop where
  registered : ∃ log, Registered log state.observatory
  armed : ∀ id cursor, state.armedCursor id = some cursor →
    cursor ≤ state.observatory.requestCursor
  command : ∀ phase cursor, state.command = some phase → phase.cursor = some cursor →
    cursor ≤ state.observatory.requestCursor ∧
      ∀ id armed, state.armedCursor id = some armed → armed ≤ cursor
  baseline : ∀ id baseline, state.runtime.networkRequestBaselines id = some baseline →
    baseline.cursor ≤ state.observatory.requestCursor ∧
      ∀ armed, state.armedCursor id = some armed → armed ≤ baseline.cursor
  known : ∀ id, (state.entries id).isSome = true → id < state.runtime.registry.nextId
  reached : ∀ id entry, state.entries id = some entry →
    entry.networkCursor ≤ state.observatory.requestCursor
  entry : ∀ id entry armed, state.entries id = some entry → entry.lastStatus = .armed →
    entry.networkCursorPrimed = true → state.armedCursor id = some armed →
      armed ≤ entry.networkCursor
  counted : ∀ trigger later window, state.position = .counting trigger later window →
    EvaluatedFrom state trigger.id window.nextCursor
  decided : ∀ trigger later condition progress,
    state.position = .deciding trigger later (.ok condition) →
      condition.networkProgress = some progress →
        EvaluatedFrom state trigger.id progress.nextCursor
  pending : ∀ id pending progress, state.book.pending id = some pending →
    progress ∈ pending.policy.progresses →
      AheadOf state id pending.policy.expectedLifecycleGeneration progress.nextCursor
  handled : ∀ handling progress, state.handling = some handling →
    progress ∈ handling.policy.progresses →
      AheadOf state handling.ruleId handling.policy.expectedLifecycleGeneration
        progress.nextCursor
  carried : ∀ handling execution progress, state.handling = some handling →
    handling.phase = .reserved execution ∨ handling.phase = .dispatched execution →
      execution.networkProgress = some progress → progress ∈ handling.policy.progresses

theorem paced_initial : Paced .initial where
  registered := ⟨[], registered_default⟩
  armed := by simp [initial]
  command := by simp [initial]
  baseline := by simp [initial, TriggerRuntimeState.default]
  known := by simp [initial]
  reached := by simp [initial]
  entry := by simp [initial]
  counted := by simp [initial]
  decided := by simp [initial]
  pending := by simp [initial, ReservationBook.empty]
  handled := by simp [initial]
  carried := by simp [initial]

theorem TriggerStep.registered (step : TriggerStep state action next)
    (registered : ∃ log, Registered log state.observatory) :
    ∃ log, Registered log next.observatory := by
  cases step with
  | observed action =>
    obtain ⟨log, holds⟩ := registered
    exact ⟨_, holds.act action⟩
  | _ => exact registered

theorem TriggerStep.requestCursor_le (step : TriggerStep state action next)
    (registered : ∃ log, Registered log state.observatory) :
    state.observatory.requestCursor ≤ next.observatory.requestCursor := by
  cases step with
  | observed action =>
    obtain ⟨log, holds⟩ := registered
    rw [holds.cursor, (holds.act action).cursor, List.length_append]
    exact Nat.le_add_right _ _
  | _ => exact Nat.le_refl _

variable {entry : TriggerWorkerEntry} {measured : NetworkRequestBaseline} {trigger : TriggerInfo}
  {id armed : Nat} {edit : RegistryEdit} {baseline : Option NetworkRequestBaseline}
  {runtime : TriggerRuntimeState}

theorem commitNetworkRequestBaseline_cases
    (found : (runtime.commitNetworkRequestBaseline trigger baseline).networkRequestBaselines id =
      some measured) :
    baseline = some measured ∨ runtime.networkRequestBaselines id = some measured ∧
      (baseline.isSome = true → id ≠ trigger.id) := by
  unfold commitNetworkRequestBaseline at found
  split at found
  · cases baseline with
    | none => exact .inr ⟨found, nofun⟩
    | some =>
      rcases update_eq_some found with ⟨_, written⟩ | ⟨other, kept⟩
      · exact .inl written
      · exact .inr ⟨kept, fun _ => other⟩
  · obtain ⟨other, kept⟩ := update_none_eq_some found
    exact .inr ⟨kept, fun _ => other⟩

/-- A baseline on record is the one that was committed, or it was there before and belongs to
a rule that is not armed by the commit. -/
theorem applyEdit_baselines
    (found : (applyEdit runtime edit baseline).networkRequestBaselines id = some measured) :
    baseline = some measured ∨ runtime.networkRequestBaselines id = some measured ∧
      (baseline.isSome = true → armedRule runtime edit ≠ some id) := by
  cases edit with
  | register =>
    rcases commitNetworkRequestBaseline_cases found with given | ⟨kept, other⟩
    · exact .inl given
    · refine .inr ⟨kept, fun some_baseline armed => ?_⟩
      rcases armedRule_cases armed with ⟨_, _, _, same⟩ | ⟨_, different, _⟩
      · exact other some_baseline same
      · cases different
  | ensureBaseline =>
    cases baseline with
    | none => exact .inr ⟨found, fun given => by cases given⟩
    | some =>
      simp only [applyEdit, ensureNetworkRequestBaseline] at found
      split at found
      · split at found
        · rcases update_eq_some found with ⟨rfl, written⟩ | ⟨_, kept⟩
          · cases held : runtime.networkRequestBaselines id with
            | none =>
              rw [held] at written
              exact .inl written
            | some =>
              rw [held] at written
              exact .inr ⟨written, fun _ armed => by cases armed⟩
          · exact .inr ⟨kept, fun _ armed => by cases armed⟩
        · exact .inr ⟨found, fun _ armed => by cases armed⟩
      · exact .inr ⟨found, fun _ armed => by cases armed⟩
  | setStatus other =>
    simp only [applyEdit, updateStatusWithBaseline] at found
    cases live : runtime.triggerRule other with
    | none =>
      rw [live] at found
      refine .inr ⟨found, fun _ armed => ?_⟩
      rcases armedRule_cases armed with ⟨_, different, _, _⟩ | ⟨again, same, still⟩
      · cases different
      · cases same
        rw [live] at still
        cases still
    | some =>
      simp only [live] at found
      rcases commitNetworkRequestBaseline_cases found with given | ⟨kept, elsewhere⟩
      · exact .inl given
      · refine .inr ⟨kept, fun some_baseline armed => ?_⟩
        rcases armedRule_cases armed with ⟨_, different, _, _⟩ | ⟨_, same, _⟩
        · cases different
        · cases same
          exact elsewhere some_baseline (number_of_find live).symm
  | remove =>
    refine .inr ⟨?_, fun _ armed => by cases armed⟩
    simp only [applyEdit, TriggerRuntimeState.remove] at found
    split at found
    · exact (update_none_eq_some found).2
    · exact found

variable {handling : CompletionHandling} {evidence : Option TriggerEvidenceInfo}
  {condition : TriggeredTriggerCondition}

theorem recordOutcomeWithFallback_baselines {generation : Nat} {result : TriggerResultInfo}
    (found : (runtime.recordOutcomeWithFallback trigger generation evidence
      result).2.networkRequestBaselines id = some measured) :
    runtime.networkRequestBaselines id = some measured := by
  unfold recordOutcomeWithFallback at found
  split at found
  · exact found
  · split at found
    · simp only [recordOutcome] at found
      split at found
      · exact found
      · exact (update_none_eq_some found).2
    · exact found

theorem setConditionEvidence_baselines {rule generation : Nat}
    (found : (runtime.setConditionEvidence rule generation evidence).networkRequestBaselines id =
      some measured) : runtime.networkRequestBaselines id = some measured := by
  unfold setConditionEvidence at found
  (repeat' split at found) <;> exact found

/-- Apart from commits, steps only take baselines away. -/
theorem TriggerStep.baselines (step : TriggerStep state action next)
    (found : next.runtime.networkRequestBaselines id = some measured) :
    (∃ edit baseline, state.command = some (.ready edit baseline) ∧
        (applyEdit state.runtime edit baseline).networkRequestBaselines id = some measured ∧
          next.armedCursor = state.recordArming edit baseline) ∨
      state.runtime.networkRequestBaselines id = some measured ∧
        next.armedCursor = state.armedCursor := by
  cases step with
  | committed edit baseline stands => exact .inl ⟨edit, baseline, stands, found, rfl⟩
  | failed | recorded | executionFailed | succeeded =>
    exact .inr ⟨recordOutcomeWithFallback_baselines found, rfl⟩
  | settled | withdrawn | consumed => exact .inr ⟨setConditionEvidence_baselines found, rfl⟩
  | _ => exact .inr ⟨found, rfl⟩

/-- A resume that the worker misses: it holds an entry from when it last saw the rule armed,
whose cursor is behind the new baseline. -/
def missesResume (state : TriggerSession) (action : TriggerSessionAction) : Bool :=
  match action, state.command with
  | .commit, some (.ready (.setStatus id .armed) (some baseline)) =>
    (state.entries id).any fun entry =>
      entry.lastStatus == .armed && entry.networkCursorPrimed &&
        decide (entry.networkCursor < baseline.cursor)
  | _, _ => false

def ResumeNoticed (state : TriggerSession) (action : TriggerSessionAction) : Prop :=
  state.missesResume action = false

instance (state : TriggerSession) (action : TriggerSessionAction) :
    Decidable (ResumeNoticed state action) := inferInstanceAs (Decidable (_ = false))

/-- What a commit puts on record for a rule is the cursor it read, and it was read after all
that is on record. -/
theorem Paced.recordArming (paced : Paced state)
    (stands : state.command = some (.ready edit baseline))
    (recorded : state.recordArming edit baseline id = some armed) :
    armed ≤ state.observatory.requestCursor ∧
      ∀ measured, baseline = some measured → armed ≤ measured.cursor := by
  have measured_le : ∀ measured, baseline = some measured →
      measured.cursor ≤ state.observatory.requestCursor ∧
        ∀ id armed, state.armedCursor id = some armed → armed ≤ measured.cursor := by
    rintro measured rfl
    exact paced.command _ measured.cursor stands rfl
  rcases recordArming_cases state edit baseline with same | ⟨armedId, measured, _, rfl, updated⟩
  · rw [same] at recorded
    exact ⟨paced.armed id armed recorded, fun measured given =>
      (measured_le measured given).2 id armed recorded⟩
  · rw [updated] at recorded
    rcases update_eq_some recorded with ⟨_, written⟩ | ⟨_, kept⟩
    · cases written
      refine ⟨(measured_le measured rfl).1, fun again given => ?_⟩
      cases given
      exact Nat.le_refl _
    · exact ⟨paced.armed id armed kept,
        fun again given => (measured_le again given).2 id armed kept⟩

theorem Paced.commit_entry (paced : Paced state)
    (stands : state.command = some (.ready edit baseline)) (noticed : ResumeNoticed state .commit)
    (found : state.entries id = some entry) (status : entry.lastStatus = .armed)
    (primed : entry.networkCursorPrimed = true)
    (recorded : state.recordArming edit baseline id = some armed) :
    armed ≤ entry.networkCursor := by
  rcases recordArming_cases state edit baseline with same | ⟨armedId, measured, rule, rfl, updated⟩
  · rw [same] at recorded
    exact paced.entry id entry armed found status primed recorded
  · rw [updated] at recorded
    rcases update_eq_some recorded with ⟨rfl, written⟩ | ⟨_, kept⟩
    · cases written
      rcases armedRule_cases rule with ⟨trigger, rfl, -, new⟩ | ⟨live, rfl, -⟩
      · have known := paced.known id (by rw [found]; rfl)
        rw [new] at known
        exact absurd known (Nat.lt_irrefl _)
      · simpa [ResumeNoticed, missesResume, stands, found, status, primed] using noticed
    · exact paced.entry id entry armed found status primed kept

theorem AheadOf.step {generation cursor : Nat} (ahead : AheadOf state id generation cursor)
    (consistent : Consistent state) (registered : ∃ log, Registered log state.observatory)
    (seen : Seen state.runtime id generation) (step : TriggerStep state action next) :
    AheadOf next id generation cursor := by
  refine ⟨Nat.le_trans ahead.1 (step.requestCursor_le registered),
    fun armed live recorded found fresh => ?_⟩
  obtain ⟨old, was, same⟩ := seen.unmoved step.moves found fresh
  rcases consistent.settles step with ⟨edit, baseline, -, stands, rfl⟩ | ⟨-, unchanged⟩
  · rcases recordArming_cases state edit baseline with
      kept | ⟨armedId, measured, rule, rfl, updated⟩
    · exact ahead.2 armed old ((congrFun kept id).symm.trans recorded) was same
    · have written : Function.update state.armedCursor armedId (some measured.cursor) id =
          some armed := (congrFun updated id).symm.trans recorded
      rcases update_eq_some written with ⟨rfl, -⟩ | ⟨_, kept⟩
      · -- arming the rule would have moved it on to another generation
        rcases armedRule_cases rule with ⟨trigger, rfl, -, new⟩ | ⟨resumed, rfl, before⟩
        · exact absurd (new ▸ seen.known) (Nat.lt_irrefl _)
        · have moved : live = TriggerInfo.withStatus .armed resumed :=
            Option.some.inj (found.symm.trans (triggerRule_updateStatus before _ _))
          have later : live.lifecycleGeneration = resumed.lifecycleGeneration + 1 := by
            rw [moved]
            rfl
          have earlier := seen.le_generation before
          omega
      · exact ahead.2 armed old kept was same
  · exact ahead.2 armed old ((congrFun unchanged id).symm.trans recorded) was same

variable {progress : TriggerNetworkProgress}

theorem mem_progresses_of_revalidated (revalidated : Revalidated handling trigger condition)
    (taken : condition.networkProgress.or handling.policy.fallbackNetworkProgress = some progress) :
    progress ∈ handling.policy.progresses := by
  unfold progresses
  rcases revalidated with ⟨-, none_measured⟩ | ⟨-, kept⟩
  · rw [none_measured] at taken
    simp only [Option.none_or] at taken
    simp [taken]
  · cases measured : condition.networkProgress <;> simp_all

theorem progresses_reservationPolicy
    (member : progress ∈ (reservationPolicy trigger condition).progresses) :
    condition.networkProgress = some progress := by
  unfold reservationPolicy progresses at member
  dsimp only at member
  rcases List.mem_append.mp member with preserved | fallback
  · split at preserved
    · cases preserved
    · simpa using preserved
  · simpa using fallback

theorem TriggerStep.carried (step : TriggerStep state action next) (paced : Paced state)
    {execution : ReservedTriggerExecution} (handles : next.handling = some handling)
    (phase : handling.phase = .reserved execution ∨ handling.phase = .dispatched execution)
    (taken : execution.networkProgress = some progress) :
    progress ∈ handling.policy.progresses := by
  cases step with
  | accepted completion =>
    cases handles
    unfold acceptedHandling at phase
    cases result : completion.result <;> simp [result] at phase
  | blocked | reported | liveRead | resumed | liveReported => cases handles; simp at phase
  | reserved _ _ _ _ _ revalidated =>
    cases handles
    simp only [HandlingPhase.reserved.injEq, reduceCtorEq, or_false] at phase
    subst phase
    have carried := mem_progresses_of_revalidated revalidated taken
    exact carried
  | dispatched old executed was stood =>
    cases handles
    simp only [reduceCtorEq, HandlingPhase.dispatched.injEq, false_or] at phase
    subst phase
    exact paced.carried old executed progress was (.inl stood) taken
  | finished | withdrawn | consumed | recorded | executionFailed | succeeded => cases handles
  | _ => exact paced.carried handling execution progress handles phase taken

/-- The progress that an entry takes over: that of the evaluation the cycle is deciding, or
one that a reservation under execution was made with. -/
inductive ProgressSource (state : TriggerSession) (id : Nat) (progress : TriggerNetworkProgress) :
    Prop where
  | decided (trigger : TriggerInfo) (later : List TriggerInfo) (condition : TriggerConditionState)
      (stands : state.position = .deciding trigger later (.ok condition)) (own : trigger.id = id)
      (measured : condition.networkProgress = some progress)
  | handled (handling : CompletionHandling) (trigger : TriggerInfo)
      (handles : state.handling = some handling) (acting : handling.phase.acting = some trigger)
      (own : trigger.id = id) (carried : progress ∈ handling.policy.progresses)

/-- Where an entry of the worker comes from. -/
inductive EntrySource (state : TriggerSession) (id : Nat) (entry : TriggerWorkerEntry) : Prop where
  | kept (found : state.entries id = some entry)
  | reconciled (triggers : List TriggerInfo) (trigger : TriggerInfo)
      (stands : state.position = .refreshed triggers) (member : trigger ∈ triggers)
      (own : trigger.id = id)
      (same : entry = reconcileWorkerEntry trigger (state.runtime.networkRequestBaselines id)
        (state.entries id))
  | judged (trigger : TriggerInfo) (later : List TriggerInfo) (window : NetworkRequestWindow)
      (old : TriggerWorkerEntry) (stands : state.position = .counting trigger later window)
      (own : trigger.id = id) (found : state.entries id = some old)
      (same : entry = (judgeNetworkWindow trigger window state.ingressDropCount old).2)
  | advanced (old : TriggerWorkerEntry) (progress : TriggerNetworkProgress)
      (found : state.entries id = some old)
      (same : entry = commitTriggerNetworkProgress old (some progress))
      (source : ProgressSource state id progress)

theorem entrySource_of_commit {rule : Nat} {progress : Option TriggerNetworkProgress}
    (found : state.updateEntry rule (fun entry => commitTriggerNetworkProgress entry progress) id =
      some entry) (source : ∀ taken, progress = some taken → ProgressSource state rule taken) :
    EntrySource state id entry := by
  rcases updateEntry_cases found with kept | ⟨rfl, old, was, rfl⟩
  · exact .kept kept
  · cases progress with
    | none => exact .kept was
    | some taken => exact .advanced old taken was rfl (source taken rfl)

theorem TriggerStep.entrySource (step : TriggerStep state action next)
    (consistent : Consistent state) (paced : Paced state) (found : next.entries id = some entry) :
    EntrySource state id entry := by
  have executing : ∀ {handling : CompletionHandling} {execution : ReservedTriggerExecution},
      state.handling = some handling →
      (handling.phase = .reserved execution ∨ handling.phase = .dispatched execution) →
      ∀ taken, execution.networkProgress = some taken →
        ProgressSource state execution.trigger.id taken := by
    intro handling execution handles phase taken given
    have acting : handling.phase.acting = some execution.trigger := by
      rcases phase with stands | stands <;> rw [stands] <;> rfl
    exact .handled handling execution.trigger handles acting rfl
      (paced.carried handling execution taken handles phase given)
  cases step with
  | cleared => cases found
  | reconciled triggers stands =>
    obtain ⟨trigger, listed, rfl⟩ := Option.map_eq_some_iff.mp found
    exact .reconciled triggers trigger stands (List.mem_of_find?_eq_some listed)
      (by simpa using List.find?_some listed) rfl
  | judged trigger later window old stands was =>
    rcases update_eq_some found with ⟨rfl, written⟩ | ⟨_, kept⟩
    · exact .judged trigger later window old stands rfl was (Option.some.inj written).symm
    · exact .kept kept
  | settled trigger later condition _ stands =>
    exact entrySource_of_commit found fun taken given =>
      .decided trigger later condition stands rfl given
  | withdrawn handling trigger _ handles phase =>
    have acting : handling.phase.acting = some trigger := by rw [phase]; rfl
    have own := (consistent.coherent.snapshot handling trigger handles
      (HandlingPhase.snapshot_of_acting acting)).2
    refine entrySource_of_commit found fun taken given => ?_
    refine .handled handling trigger handles acting own ?_
    simp [progresses, given]
  | consumed _ handling trigger _ handles revalidated =>
    have own := (consistent.coherent.snapshot handling trigger handles revalidated.snapshot).2
    exact entrySource_of_commit found fun taken given =>
      .handled handling trigger handles revalidated.acting own
        (mem_progresses_of_revalidated revalidated given)
  | executionFailed _ _ _ _ handles phase =>
    simp only [failExecution, finishHandling] at found
    split at found
    · exact entrySource_of_commit found (executing handles phase)
    · exact .kept found
  | succeeded _ _ _ handles phase =>
    exact entrySource_of_commit found (executing handles (.inr phase))
  | _ => exact .kept found

theorem judgeNetworkWindow_cursor (trigger : TriggerInfo) (window : NetworkRequestWindow)
    (drops : Nat) (entry : TriggerWorkerEntry) :
    (judgeNetworkWindow trigger window drops entry).2.networkCursorPrimed =
        entry.networkCursorPrimed ∧
      ((judgeNetworkWindow trigger window drops entry).2.networkCursor = window.nextCursor ∨
        (judgeNetworkWindow trigger window drops entry).2.networkCursor = entry.networkCursor) := by
  unfold judgeNetworkWindow
  split
  · exact ⟨rfl, .inr rfl⟩
  · exact ⟨rfl, .inl rfl⟩

theorem ProgressSource.reached (source : ProgressSource state id progress) (paced : Paced state) :
    progress.nextCursor ≤ state.observatory.requestCursor := by
  cases source with
  | decided trigger later condition stands own measured =>
    exact (paced.decided trigger later condition progress stands measured).1
  | handled handling _ handles _ _ carried =>
    exact (paced.handled handling progress handles carried).1

theorem ProgressSource.ahead (source : ProgressSource state id progress)
    (paced : Paced state) (listed : Listed state) (consistent : Consistent state)
    (recorded : state.armedCursor id = some armed) :
    armed ≤ progress.nextCursor := by
  cases source with
  | decided trigger later condition stands own measured =>
    obtain ⟨-, entry, found, primed, lower⟩ :=
      paced.decided trigger later condition progress stands measured
    obtain ⟨same, again, status⟩ := listed.processed trigger
      (by simp [stands, WorkerPosition.processed])
    rw [found] at again
    cases again
    rw [listed.armed trigger (by rw [stands]; rfl)] at status
    rw [own] at found
    exact Nat.le_trans (paced.entry id entry armed found status primed recorded) lower
  | handled handling trigger handles acting own carried =>
    obtain ⟨live, found, -, fresh, expected⟩ := consistent.live handles acting
    have ruleId := (consistent.coherent.snapshot handling trigger handles
      (HandlingPhase.snapshot_of_acting acting)).2
    rw [own] at found
    have ahead := (paced.handled handling progress handles carried).2 armed live
    rw [← ruleId, own] at ahead
    exact ahead recorded found (fresh.trans expected)

section

variable (source : EntrySource state id entry)

include source

theorem EntrySource.reached (paced : Paced state) :
    entry.networkCursor ≤ state.observatory.requestCursor := by
  cases source with
  | kept found => exact paced.reached id entry found
  | reconciled _ _ _ _ _ same =>
    rw [same]
    exact reconcileWorkerEntry_cursor_le (fun baseline held => (paced.baseline id baseline held).1)
      fun old held => paced.reached id old held
  | judged trigger later window old stands own found same =>
    rw [same]
    rcases (judgeNetworkWindow_cursor trigger window state.ingressDropCount old).2 with
      moved | stayed
    · rw [moved]
      exact (paced.counted trigger later window stands).1
    · rw [stayed]
      exact paced.reached id old found
  | advanced _ _ _ same source =>
    rw [same]
    exact source.reached paced

theorem EntrySource.known (paced : Paced state) (coherent : Coherent state) :
    id < state.runtime.registry.nextId := by
  cases source with
  | kept found | judged _ _ _ _ _ _ found | advanced _ _ found =>
    exact paced.known id (by rw [found]; rfl)
  | reconciled _ trigger stands member own =>
    rw [← own]
    exact (coherent.position trigger (by rw [stands]; exact member)).known

theorem EntrySource.ahead (paced : Paced state) (listed : Listed state) (arming : Arming state)
    (consistent : Consistent state) (status : entry.lastStatus = .armed)
    (primed : entry.networkCursorPrimed = true) (recorded : state.armedCursor id = some armed) :
    armed ≤ entry.networkCursor := by
  cases source with
  | kept found => exact paced.entry id entry armed found status primed recorded
  | reconciled _ trigger stands member own same =>
    subst same
    have network := (arming.listed trigger (by rw [stands]; exact member)).network
      (by rw [own, recorded]; rfl)
    rcases reconcileWorkerEntry_primed status network primed with
      ⟨baseline, held, moved⟩ | ⟨old, held, was, wasPrimed, stayed⟩
    · rw [moved]
      exact (paced.baseline id baseline held).2 armed recorded
    · rw [stayed]
      exact paced.entry id old armed held was wasPrimed recorded
  | judged trigger later window old stands own found same =>
    subst same
    obtain ⟨samePrimed, cursor⟩ :=
      judgeNetworkWindow_cursor trigger window state.ingressDropCount old
    rw [judgeNetworkWindow_lastStatus] at status
    rw [samePrimed] at primed
    have before := paced.entry id old armed found status primed recorded
    rcases cursor with moved | stayed
    · obtain ⟨-, from_entry, held, -, lower⟩ := paced.counted trigger later window stands
      rw [own, found] at held
      cases held
      rw [moved]
      exact Nat.le_trans before lower
    · rw [stayed]
      exact before
  | advanced _ _ _ same source =>
    subst same
    exact source.ahead paced listed consistent recorded

end

variable {window : NetworkRequestWindow} {later : List TriggerInfo}

/-- While a rule is evaluated nobody else writes its entry. -/
theorem EvaluatedFrom.frame {cursor : Nat} (evaluated : EvaluatedFrom state id cursor)
    (later : state.observatory.requestCursor ≤ next.observatory.requestCursor)
    (entries : next.entries = state.entries) : EvaluatedFrom next id cursor := by
  obtain ⟨reached, entry, found, primed, lower⟩ := evaluated
  exact ⟨Nat.le_trans reached later, entry, (congrFun entries id).trans found, primed, lower⟩

theorem Waits.not_busy (waits : Waits state) (handles : state.handling = some handling)
    (busy : receivesCompletions state.position = false) : False := by
  rw [waits.handling_none busy] at handles
  cases handles

/-- A step after which the rule is still evaluated left the entries alone, or is the worker's
own. -/
theorem TriggerStep.counted (step : TriggerStep state action next) (paced : Paced state)
    (waits : Waits state) (stands : next.position = .counting trigger later window) :
    EvaluatedFrom next trigger.id window.nextCursor := by
  have grows := step.requestCursor_le paced.registered
  cases step with
  | cleared idle => rw [idle] at stands; cases stands
  | listed | reconciled | cycleEnded | passed | started | unprimed | judged | evaluated | failed
  | settled | stillPending | spawned => cases stands
  | refreshed _ succeeds => cases succeeds <;> cases stands
  | skipped _ rest => cases rest <;> cases stands
  | windowRead _ _ entry _ _ found primed =>
    cases stands
    obtain ⟨log, registered⟩ := paced.registered
    have bounds := registered.nextCursor_bounds (paced.reached _ entry found)
      state.ingressDropCount entry.observatoryDropCount
    exact ⟨bounds.2, entry, found, primed, bounds.1⟩
  | withdrawn _ _ _ handles | consumed _ _ _ _ handles | executionFailed _ _ _ _ handles
  | succeeded _ _ _ handles =>
    exact (waits.not_busy handles (congrArg receivesCompletions stands)).elim
  | _ => exact (paced.counted trigger later window stands).frame grows rfl

variable {condition : TriggerConditionState}

theorem judgeNetworkWindow_ok {drops : Nat}
    (judged : (judgeNetworkWindow trigger window drops entry).1 = .ok condition)
    (measured : condition.networkProgress = some progress) :
    progress.nextCursor = window.nextCursor ∧
      (judgeNetworkWindow trigger window drops entry).2 = entry := by
  unfold judgeNetworkWindow at judged ⊢
  split at judged
  · rename_i authoritative
    rw [if_pos authoritative]
    refine ⟨?_, rfl⟩
    cases judged
    cases matching : window.records.find? fun record => networkRequestMatches record trigger with
    | none | some =>
      rw [matching] at measured
      cases measured
      rfl
  · cases judged

theorem TriggerStep.decidedFrom (step : TriggerStep state action next) (paced : Paced state)
    (waits : Waits state) (stands : next.position = .deciding trigger later (.ok condition))
    (measured : condition.networkProgress = some progress) :
    EvaluatedFrom next trigger.id progress.nextCursor := by
  have grows := step.requestCursor_le paced.registered
  cases step with
  | cleared idle => rw [idle] at stands; cases stands
  | listed | reconciled | cycleEnded | passed | started | windowRead | unprimed | failed
  | settled | stillPending | spawned => cases stands
  | refreshed _ succeeds => cases succeeds <;> cases stands
  | skipped _ rest => cases rest <;> cases stands
  | judged read rest window entry stood found =>
    injection stands with own _ judged
    obtain ⟨cursor, unmoved⟩ := judgeNetworkWindow_ok judged measured
    obtain ⟨reached, held, was, primed, lower⟩ := paced.counted read rest window stood
    rw [found] at was
    cases was
    rw [cursor]
    refine ⟨reached, entry, ?_, primed, lower⟩
    rw [← own]
    dsimp only
    rw [Function.update_self, unmoved]
  | evaluated _ _ reading =>
    injection stands with own _ judged
    cases reading <;> cases judged <;> cases measured
  | withdrawn _ _ _ handles | consumed _ _ _ _ handles | executionFailed _ _ _ _ handles
  | succeeded _ _ _ handles =>
    exact (waits.not_busy handles (congrArg receivesCompletions stands)).elim
  | _ => exact (paced.decided trigger later condition progress stands measured).frame grows rfl

theorem TriggerStep.commandCursor (step : TriggerStep state action next)
    (paced : Paced state) {phase : CommandPhase} {cursor : Nat}
    (running : next.command = some phase) (read : phase.cursor = some cursor) :
    cursor ≤ next.observatory.requestCursor ∧
      ∀ id armed, next.armedCursor id = some armed → armed ≤ cursor := by
  have grows := step.requestCursor_le paced.registered
  cases step with
  | begun | committed => cases running; cases read
  | chosen command =>
    cases running
    have unread : (chosenPhase state.runtime command).cursor = none := by
      unfold chosenPhase
      cases chooseEdit state.runtime command with
      | none => rfl
      | some choice =>
        obtain ⟨edit, needs⟩ := choice
        cases needs <;> rfl
    rw [unread] at read
    cases read
  | cursorRead =>
    cases running
    cases read
    exact ⟨Nat.le_refl _, paced.armed⟩
  | dropCountRead _ _ stands =>
    cases running
    cases read
    exact paced.command _ _ stands rfl
  | ended => cases running
  | _ =>
    obtain ⟨reached, ahead⟩ := paced.command phase cursor running read
    exact ⟨Nat.le_trans reached grows, ahead⟩

/-- What a step leaves in the entries, compared with what is on record before it. -/
theorem Paced.step_entry (paced : Paced state) (listed : Listed state)
    (arming : Arming state) (consistent : Consistent state) (step : TriggerStep state action next)
    (noticed : ResumeNoticed state action) (found : next.entries id = some entry)
    (status : entry.lastStatus = .armed) (primed : entry.networkCursorPrimed = true)
    (recorded : next.armedCursor id = some armed) :
    armed ≤ entry.networkCursor := by
  have source := step.entrySource consistent paced found
  rcases consistent.settles step with ⟨edit, baseline, rfl, stands, rfl⟩ | ⟨-, same⟩
  · exact paced.commit_entry stands noticed found status primed recorded
  · rw [same] at recorded
    exact source.ahead paced listed arming consistent status primed recorded

theorem Paced.step_baseline (paced : Paced state) (step : TriggerStep state action next)
    (found : next.runtime.networkRequestBaselines id = some measured) :
    measured.cursor ≤ next.observatory.requestCursor ∧
      ∀ armed, next.armedCursor id = some armed → armed ≤ measured.cursor := by
  have grows := step.requestCursor_le paced.registered
  rcases step.baselines found with ⟨edit, baseline, stands, committed, records⟩ | ⟨kept, same⟩
  · rw [records]
    rcases applyEdit_baselines committed with given | ⟨kept, other⟩
    · have reached : measured.cursor ≤ state.observatory.requestCursor := by
        rw [given] at stands
        exact (paced.command _ measured.cursor stands rfl).1
      exact ⟨Nat.le_trans reached grows,
        fun armed recorded => (paced.recordArming stands recorded).2 measured given⟩
    · obtain ⟨reached, ahead⟩ := paced.baseline id measured kept
      refine ⟨Nat.le_trans reached grows, fun armed recorded => ahead armed ?_⟩
      rcases recordArming_cases state edit baseline with
        unchanged | ⟨armedId, given, rule, rfl, updated⟩
      · exact (congrFun unchanged id).symm.trans recorded
      · rw [updated] at recorded
        rcases update_eq_some recorded with ⟨rfl, -⟩ | ⟨-, stayed⟩
        · exact absurd rule (other rfl)
        · exact stayed
  · obtain ⟨reached, ahead⟩ := paced.baseline id measured kept
    refine ⟨Nat.le_trans reached grows, ?_⟩
    rw [same]
    exact ahead

theorem Paced.step (paced : Paced state) (listed : Listed state) (arming : Arming state)
    (consistent : Consistent state) (noticed : ResumeNoticed state action)
    (step : TriggerStep state action next) : Paced next where
  registered := step.registered paced.registered
  armed := by
    intro id cursor recorded
    have grows := step.requestCursor_le paced.registered
    rcases consistent.settles step with ⟨edit, baseline, rfl, stands, rfl⟩ | ⟨-, same⟩
    · exact (paced.recordArming stands recorded).1
    · rw [same] at recorded
      exact Nat.le_trans (paced.armed id cursor recorded) grows
  command := fun phase cursor running read => step.commandCursor paced running read
  baseline := fun id measured found => paced.step_baseline step found
  known := by
    intro id held
    obtain ⟨entry, found⟩ := Option.isSome_iff_exists.mp held
    exact Nat.lt_of_lt_of_le
      ((step.entrySource consistent paced found).known paced consistent.coherent) step.moves.nextId
  reached := by
    intro id entry found
    exact Nat.le_trans ((step.entrySource consistent paced found).reached paced)
      (step.requestCursor_le paced.registered)
  entry := fun id entry armed found status primed recorded =>
    paced.step_entry listed arming consistent step noticed found status primed recorded
  counted := fun trigger later window stands => step.counted paced consistent.waits stands
  decided := fun trigger later condition progress stands measured =>
    step.decidedFrom paced consistent.waits stands measured
  pending := by
    intro id pending progress found member
    rcases step.pending found with kept | ⟨trigger, later, condition, stands, rfl, policy⟩
    · exact (paced.pending id pending progress kept member).step consistent paced.registered
        (consistent.coherent.pending id pending kept) step
    · rw [policy] at member ⊢
      have measured := progresses_reservationPolicy member
      have source : ProgressSource state trigger.id progress :=
        .decided trigger later (.triggered condition) stands rfl measured
      have ahead : AheadOf state trigger.id trigger.lifecycleGeneration progress.nextCursor :=
        ⟨source.reached paced, fun armed live recorded _ _ =>
          source.ahead paced listed consistent recorded⟩
      have snapshot := consistent.coherent.position trigger
        (by simp [stands, WorkerPosition.triggers])
      exact ahead.step consistent paced.registered ⟨trigger, snapshot, rfl, rfl⟩ step
  handled := by
    intro handling progress handles member
    rcases step.handling handles with ⟨old, was, ruleId, policy⟩ | ⟨pending, waits, policy⟩
    · rw [← policy] at member ⊢
      rw [← ruleId]
      exact (paced.handled old progress was member).step consistent paced.registered
        (consistent.coherent.handled old was) step
    · rw [← policy] at member ⊢
      exact (paced.pending _ pending progress waits member).step consistent paced.registered
        (consistent.coherent.pending _ pending waits) step
  carried := fun handling execution progress handles phase taken =>
    step.carried paced handles phase taken

theorem paced_of_run {actions : List TriggerSessionAction}
    (run : triggerSystem.runFrom .initial actions = some state)
    (noticed : triggerSystem.Along ResumeNoticed .initial actions) :
    Consistent state ∧ Listed state ∧ Arming state ∧ Paced state := by
  have preserved : ∀ current action next,
      (Consistent current ∧ Listed current ∧ Arming current ∧ Paced current) →
      ResumeNoticed current action → triggerSystem.step current action = some next →
      (Consistent next ∧ Listed next ∧ Arming next ∧ Paced next) := by
    rintro current action next ⟨consistent, listed, arming, paced⟩ noticed taken
    have step := step_cases taken
    exact ⟨consistent.step step, listed.step step, arming.step consistent step,
      paced.step listed arming consistent noticed step⟩
  exact triggerSystem.runFrom_preserves_along preserved
    ⟨consistent_initial, listed_initial, arming_initial, paced_initial⟩ noticed run

/-- The step that reads a window reads it behind the cursor of the rule's entry. -/
theorem reads_of_step (taken : state.step .readWindow = some next)
    (reads : next.position = .counting trigger later window) :
    state.position = .judging trigger later ∧ trigger.isNetworkRequest = true ∧
      ∃ entry, state.entries trigger.id = some entry ∧ entry.networkCursorPrimed = true ∧
        window = readNetworkWindow state.observatory state.ingressDropCount entry := by
  have judging : ∃ judged rest, state.position = .judging judged rest := by
    simp only [step, stepCycle] at taken
    split at taken
    · rename_i judged rest stands
      exact ⟨judged, rest, stands⟩
    · cases taken
  obtain ⟨judged, rest, stands⟩ := judging
  simp only [step, stepCycle, stands] at taken
  split at taken
  · rename_i network
    obtain ⟨entry, found, rfl⟩ := Option.map_eq_some_iff.mp taken
    cases primed : entry.networkCursorPrimed with
    | true =>
      simp only [primed, if_true] at reads
      cases reads
      exact ⟨stands, network, entry, found, primed, rfl⟩
    | false => simp [primed] at reads
  · cases taken

/-- Every window that is read for an armed network trigger starts at or after the baseline that
was committed when the trigger was last armed, in every run whose resumes the worker cannot
miss. -/
theorem network_window_starts_after_arming {actions : List TriggerSessionAction}
    (run : triggerSystem.runFrom .initial actions = some state)
    (noticed : triggerSystem.Along ResumeNoticed .initial actions)
    {trigger : TriggerInfo} {later : List TriggerInfo} {window : NetworkRequestWindow}
    (taken : state.step .readWindow = some next)
    (reads : next.position = .counting trigger later window) :
    trigger.status = .armed ∧
      ∃ entry armed, state.entries trigger.id = some entry ∧
        window = readNetworkWindow state.observatory state.ingressDropCount entry ∧
          state.armedCursor trigger.id = some armed ∧ armed ≤ entry.networkCursor := by
  obtain ⟨consistent, listed, arming, paced⟩ := paced_of_run run noticed
  obtain ⟨stands, network, entry, found, primed, window⟩ := reads_of_step taken reads
  have armed : trigger.status = .armed := listed.armed trigger (by rw [stands]; rfl)
  have marked := arming.listed trigger (by simp [stands, WorkerPosition.triggers])
  obtain ⟨cursor, recorded⟩ := Option.isSome_iff_exists.mp (marked.armed armed network)
  obtain ⟨held, again, status⟩ := listed.processed trigger
    (by simp [stands, WorkerPosition.processed])
  rw [found] at again
  cases again
  exact ⟨armed, entry, cursor, found, window, recorded,
    paced.entry _ entry cursor found (status.trans armed) primed recorded⟩

def requestTrigger : TriggerInfo :=
  .onFirstTab 0 .networkRequest (some "/api") "reload"

def apiRequest : ObservedNetworkRequestRecord :=
  { getRequest "r1" "/api" .completed with tabTargetId := some "tab" }

def registration : List TriggerSessionAction :=
  [.begin (.add requestTrigger), .choose, .readCursor, .readDropCount, .commit, .endCommand]

def resume : List TriggerSessionAction :=
  [.begin (.setStatus 1 .armed), .choose, .readCursor, .readDropCount, .commit, .endCommand]

def cycle : List TriggerSessionAction :=
  cycleStart ++ [.readWindow, .judgeWindow, .decide, .next]

def resumedTrigger : TriggerInfo := { requestTrigger with id := 1, lifecycleGeneration := 3 }

def unnoticedResume : List TriggerSessionAction :=
  registration ++ cycle ++ commandRun (.setStatus 1 .paused) ++
    [.observe (.upsert apiRequest)] ++ resume ++ cycleStart

/-- The pause and the resume fall between two cycles: the second one reads the request that was
observed while the trigger was paused. -/
theorem unnoticed_resume_reads_old_requests :
    ∃ state next trigger window entry,
      triggerSystem.runFrom .initial unnoticedResume = some state ∧
        state.step .readWindow = some next ∧ next.position = .counting trigger [] window ∧
          trigger.status = .armed ∧ state.entries trigger.id = some entry ∧
            window = readNetworkWindow state.observatory state.ingressDropCount entry ∧
              state.armedCursor trigger.id = some 1 ∧ entry.networkCursor = 0 ∧
                window.records.map (·.requestId) = ["r1"] := by
  let entry : TriggerWorkerEntry :=
    { lastStatus := .armed, networkCursor := 0, networkCursorPrimed := true,
      observatoryDropCount := 0 }
  let state := sessionAfter unnoticedResume
  exact ⟨state, (state.step .readWindow).getD state, resumedTrigger,
    readNetworkWindow state.observatory state.ingressDropCount entry, entry,
    by rfl, by rfl, by rfl, by rfl, by rfl, by rfl, by rfl, by rfl, by rfl⟩

def noticedResume : List TriggerSessionAction :=
  registration ++ cycle ++ commandRun (.setStatus 1 .paused) ++ cycleStart ++
    [.observe (.upsert apiRequest)] ++ resume ++ cycleStart

/-- When a cycle sees the pause, the resume moves the cursor on to the new baseline. -/
theorem noticed_resume_reads_new_requests :
    ∃ state next trigger window entry,
      triggerSystem.runFrom .initial noticedResume = some state ∧
        state.step .readWindow = some next ∧ next.position = .counting trigger [] window ∧
          trigger.status = .armed ∧ state.entries trigger.id = some entry ∧
            entry.networkCursor = 1 ∧
              ∃ again armed, state.entries trigger.id = some again ∧
                window = readNetworkWindow state.observatory state.ingressDropCount again ∧
                  state.armedCursor trigger.id = some armed ∧ armed ≤ again.networkCursor := by
  let entry : TriggerWorkerEntry :=
    { lastStatus := .armed, networkCursor := 1, networkCursorPrimed := true,
      observatoryDropCount := 0 }
  let state := sessionAfter noticedResume
  have run : triggerSystem.runFrom .initial noticedResume = some state := by rfl
  have noticed : triggerSystem.Along ResumeNoticed .initial noticedResume := by decide
  have taken : state.step .readWindow = some ((state.step .readWindow).getD state) := by rfl
  have reads : ((state.step .readWindow).getD state).position =
      .counting resumedTrigger [] (readNetworkWindow state.observatory 0 entry) := by rfl
  exact ⟨state, _, resumedTrigger, _, entry, run, taken, reads, by rfl, by rfl, by rfl,
    (network_window_starts_after_arming run noticed taken reads).2⟩

end Rub.TriggerSession
