import Rub.TriggerEvolution

/-!
What holds in every reachable state of the trigger session: the transaction has one holder,
what the worker has read of a rule is comparable with the live rule, and while an execution
is being prepared the live rule does not move.
-/

namespace Rub

open ReservationBook Bool Option

def WorkerPosition.triggers : WorkerPosition → List TriggerInfo
  | .idle => []
  | .listed triggers => triggers
  | .refreshed triggers => triggers
  | .draining triggers => triggers
  | .judging trigger later => trigger :: later
  | .counting trigger later _ => trigger :: later
  | .deciding trigger later _ => trigger :: later

/-- The live rule of a reservation that is being executed, or that is on its way there. -/
def HandlingPhase.acting : HandlingPhase → Option TriggerInfo
  | .refreshing trigger => some trigger
  | .revalidating trigger => some trigger
  | .reserved execution => some execution.trigger
  | .dispatched execution => some execution.trigger
  | _ => none

namespace TriggerSession

open TriggerRuntimeState
open RuleRegistry (Moves Edits Reading number_of_find find_of_mem reading_of_find edits_self)

variable {state next : TriggerSession} {action : TriggerSessionAction}

theorem TriggerStep.moves (step : TriggerStep state action next) :
    Moves Succeeds state.runtime.registry next.runtime.registry := by
  have recorded : ∀ trigger generation evidence result, Moves Succeeds state.runtime.registry
      (state.runtime.recordOutcomeWithFallback trigger generation evidence result).2.registry := by
    intro trigger generation evidence result
    exact (edits_recordOutcomeWithFallback Succeeds.refl _ _ _ _ _
      (fun _ _ _ => ⟨rfl, Nat.le_succ _, fun same => absurd same (Nat.succ_ne_self _)⟩)
      (fun live => (retouches_withStaleOutcome _ _ live).succeeds)).moves
  cases step with
  | tabsReconciled tabs => exact (edits_reconcileTabs _ tabs).succeeds
  | committed edit baseline => exact moves_applyEdit state.runtime edit baseline
  | failed | recorded | executionFailed | succeeded => exact recorded ..
  | settled | withdrawn | consumed => exact (edits_setConditionEvidence ..).succeeds
  | _ => exact (edits_self _ Succeeds.refl).moves

section

variable (step : TriggerStep state action next)

include step

theorem TriggerStep.triggers : next.position.triggers.Sublist state.position.triggers ∨
      next.position.triggers = state.runtime.triggers := by
  cases step with
  | listed => exact .inr rfl
  | refreshed triggers succeeds stands =>
    cases succeeds <;> simp [stands, WorkerPosition.triggers]
  | reconciled triggers stands | passed _ _ stands | started _ _ _ stands | windowRead _ _ _ stands
  | unprimed _ _ _ stands | judged _ _ _ _ stands | evaluated _ _ _ stands | failed _ _ _ _ stands
  | stillPending _ _ _ stands | spawned _ _ _ stands => simp [stands, WorkerPosition.triggers]
  | cycleEnded => simp [WorkerPosition.triggers]
  | skipped trigger later stands =>
    refine .inl ?_
    rw [stands]
    show (afterSkip later).triggers.Sublist (trigger :: later)
    cases later <;> exact List.sublist_cons_self trigger _
  | settled _ _ _ _ stands =>
    simp [stands, settleRule, WorkerPosition.triggers]
  | _ => exact .inl (List.Sublist.refl _)

theorem TriggerStep.pending {id : Nat} {pending : PendingReservation PendingTriggerConditionPolicy}
    (found : next.book.pending id = some pending) :
    state.book.pending id = some pending ∨ ∃ trigger later condition,
        state.position = .deciding trigger later (.ok (.triggered condition)) ∧
          trigger.id = id ∧ pending.policy = reservationPolicy trigger condition := by
  cases step with
  | cleared | reconciled => exact .inl (pending_of_retain found)
  | skipped | settled => exact .inl (pending_of_retain found)
  | started _ _ _ _ _ _ kept =>
    rcases kept with rfl | rfl
    · exact .inl found
    · exact .inl (pending_of_retain found)
  | spawned trigger later condition stands =>
    by_cases same : id = trigger.id
    · subst same
      simp only [ReservationBook.spawn, Function.update_self] at found
      cases found
      exact .inr ⟨trigger, later, condition, stands, rfl, rfl⟩
    · simp only [ReservationBook.spawn, Function.update_of_ne same] at found
      exact .inl found
  | accepted | dropped =>
    have kept := pending_of_claim found
    exact .inl kept
  | _ => exact .inl found

theorem TriggerStep.handling {handling : CompletionHandling}
    (handles : next.handling = some handling) :
    (∃ old, state.handling = some old ∧ old.ruleId = handling.ruleId ∧
        old.policy = handling.policy) ∨
      ∃ pending, state.book.pending handling.ruleId = some pending ∧
        pending.policy = handling.policy := by
  cases step with
  | accepted _ _ pending _ _ _ claimed =>
    cases handles
    exact .inr ⟨pending, (pending_of_claimed claimed).1, rfl⟩
  | blocked old _ was | reported _ old _ was | liveRead old _ was | resumed old _ was
  | reserved _ old _ _ was | liveReported old _ _ _ was | dispatched old _ was =>
    cases handles; exact .inl ⟨old, was, rfl, rfl⟩
  | finished | withdrawn | consumed | recorded | executionFailed | succeeded => cases handles
  | _ => exact .inl ⟨handling, handles, rfl, rfl⟩

end

variable {handling : CompletionHandling}

/-- The parties that hold the session transaction: a command, grants that wait in the channel,
and the handling of a grant. -/
def holders (state : TriggerSession) : Nat :=
  state.command.isSome.toNat + state.book.channel.countP (·.granted) +
    (state.handling.any (·.holdsTransaction)).toNat

def Exclusive (state : TriggerSession) : Prop := state.holders = state.transactionHeld.toNat

section

variable (exclusive : Exclusive state) (handles : state.handling = some handling)

include exclusive handles

theorem holders_finish : state.command.isSome.toNat + state.book.channel.countP (·.granted) =
      (state.transactionHeld && !handling.holdsTransaction).toNat := by
  simp only [Exclusive, holders, handles, any_some] at exclusive
  revert exclusive
  cases handling.holdsTransaction <;> cases state.transactionHeld <;>
    simp only [toNat_true, toNat_false, Bool.not_true, Bool.not_false, Bool.and_true,
      Bool.and_false] <;> omega

theorem Exclusive.finish : Exclusive (state.finishHandling handling) :=
  holders_finish exclusive handles

theorem Exclusive.report (error : ErrorEnvelope) : Exclusive (state.reportFailure handling error) :=
  holders_finish exclusive handles

theorem Exclusive.rephase (phase : HandlingPhase) : Exclusive (state.inPhase handling phase) := by
  simp only [Exclusive, holders, handles] at exclusive
  exact exclusive

end

variable {completion : ReservationCompletion ErrorEnvelope} {phase : HandlingPhase}
  {condition : TriggeredTriggerCondition}

theorem Exclusive.drop
    {channel : List (ReservationCompletion ErrorEnvelope)} (exclusive : Exclusive state)
    (free : state.handling = none) (first : state.book.channel = completion :: channel) :
    state.command.isSome.toNat + channel.countP (·.granted) =
      (state.transactionHeld && !completion.granted).toNat := by
  simp only [Exclusive, holders, free, first, List.countP_cons, any_none, toNat_false] at exclusive
  revert exclusive
  cases completion.granted <;> cases state.transactionHeld <;>
    simp only [toNat_true, toNat_false, Bool.not_true, Bool.not_false, Bool.and_true,
      Bool.and_false, false_eq_true, if_true, if_false] <;> omega

theorem Exclusive.step (exclusive : Exclusive state) (step : TriggerStep state action next) :
    Exclusive next := by
  cases step with
  | begun _ free =>
    simp only [Exclusive, holders, free, toNat_false] at exclusive ⊢
    simp only [isSome_some, toNat_true]
    omega
  | chosen _ stands | cursorRead _ stands | dropCountRead _ _ stands | committed _ _ stands =>
    simpa [Exclusive, holders, stands] using exclusive
  | ended _ stands =>
    have one := toNat_le state.transactionHeld
    simp only [Exclusive, holders, stands, isSome_some, isSome_none,
      toNat_true, toNat_false] at exclusive ⊢
    omega
  | granted task _ free =>
    simp only [Exclusive, holders, free, toNat_false] at exclusive
    have one : List.countP (·.granted)
        [(⟨task.ruleId, task.attemptId, .ok ()⟩ : ReservationCompletion ErrorEnvelope)] = 1 := rfl
    simp only [Exclusive, holders, deliver, List.countP_append, one, toNat_true]
    omega
  | refused =>
    simpa [Exclusive, holders, deliver, ReservationCompletion.granted] using exclusive
  | accepted completion _ _ free first =>
    have counted := exclusive
    simp only [Exclusive, holders, free, first, List.countP_cons, any_none, toNat_false] at counted
    simp only [Exclusive, holders, claim_channel, withChannel_channel, acceptedHandling, any_some]
    revert counted
    cases completion.granted <;>
      simp only [toNat_true, toNat_false, false_eq_true, if_true, if_false] <;>
      omega
  | dropped _ _ _ free first =>
    have counted := exclusive.drop free first
    simp only [Exclusive, holders, claim_channel, free, any_none, toNat_false]
    exact counted
  | started _ _ _ _ _ _ kept =>
    rcases kept with rfl | rfl <;> exact exclusive
  | finished _ _ handles => exact exclusive.finish handles
  | blocked _ _ handles | liveRead _ _ handles | resumed _ _ handles | reserved _ _ _ _ handles
  | liveReported _ _ _ _ handles | dispatched _ _ handles =>
    exact exclusive.rephase handles _
  | reported _ _ error handles => exact exclusive.report handles error
  | withdrawn _ _ _ handles | consumed _ _ _ _ handles | recorded _ _ _ _ _ handles
  | executionFailed _ _ _ _ handles | succeeded _ _ _ handles =>
    exact holders_finish exclusive handles
  | _ => exact exclusive

theorem Exclusive.command_none (exclusive : Exclusive state)
    (handles : state.handling = some handling) (holds : handling.holdsTransaction = true) :
    state.command = none := by
  have one := toNat_le state.transactionHeld
  simp only [Exclusive, holders, handles, any_some, holds, toNat_true] at exclusive
  cases running : state.command with
  | none => rfl
  | some =>
    simp only [running, isSome_some, toNat_true] at exclusive
    omega

variable {trigger : TriggerInfo}

/-- Everything that was read of a rule is a snapshot of it. -/
structure Coherent (state : TriggerSession) : Prop where
  position : ∀ trigger ∈ state.position.triggers, Reading Succeeds state.runtime.registry trigger
  pending : ∀ id pending, state.book.pending id = some pending →
    Seen state.runtime id pending.policy.expectedLifecycleGeneration
  handled : ∀ handling, state.handling = some handling →
    Seen state.runtime handling.ruleId handling.policy.expectedLifecycleGeneration
  snapshot : ∀ handling trigger, state.handling = some handling →
    handling.phase.snapshot = some trigger →
      Reading Succeeds state.runtime.registry trigger ∧ trigger.id = handling.ruleId

theorem coherent_initial : Coherent .initial where
  position := by simp [initial, WorkerPosition.triggers]
  pending := by simp [initial, ReservationBook.empty]
  handled := by simp [initial]
  snapshot := by simp [initial]

theorem Revalidated.snapshot (revalidated : Revalidated handling trigger condition) :
    handling.phase.snapshot = some trigger := by
  rcases revalidated with ⟨phase, _⟩ | ⟨phase, _⟩ <;> rw [phase] <;> rfl

/-- The rule that a step leaves in a handling was read from the registry in this step, or
stood in the handling before. -/
theorem TriggerStep.snapshot (step : TriggerStep state action next)
    (handles : next.handling = some handling) (read : handling.phase.snapshot = some trigger) :
    state.runtime.triggerRule handling.ruleId = some trigger ∨
      ∃ old, state.handling = some old ∧ old.ruleId = handling.ruleId ∧
        old.phase.snapshot = some trigger := by
  cases step with
  | accepted completion =>
    cases handles
    unfold acceptedHandling at read
    cases result : completion.result <;> simp [result, HandlingPhase.snapshot] at read
  | blocked | reported => cases handles; cases read
  | liveRead _ _ _ _ found | liveReported _ _ _ _ _ found =>
    cases handles; cases read; exact .inl found
  | resumed old _ was phase | dispatched old _ was phase =>
    cases handles
    cases read
    exact .inr ⟨old, was, rfl, by rw [phase]; rfl⟩
  | reserved _ old _ _ was revalidated =>
    cases handles
    cases read
    exact .inr ⟨old, was, rfl, revalidated.snapshot⟩
  | finished | withdrawn | consumed | recorded | executionFailed | succeeded => cases handles
  | _ => exact .inr ⟨handling, handles, rfl, read⟩

theorem Coherent.step (coherent : Coherent state) (step : TriggerStep state action next) :
    Coherent next := by
  have moves := step.moves
  constructor
  · intro trigger member
    rcases step.triggers with kept | listed
    · exact (coherent.position trigger (kept.subset member)).moves Succeeds.trans moves
    · rw [listed] at member
      exact (reading_of_find Succeeds.refl (find_of_mem member)).moves Succeeds.trans moves
  · intro id pending found
    rcases step.pending found with kept | ⟨trigger, later, condition, stands, rfl, policy⟩
    · exact (coherent.pending id pending kept).moves moves
    · have snapshot := coherent.position trigger (by simp [stands, WorkerPosition.triggers])
      rw [policy]
      exact ⟨trigger, snapshot.moves Succeeds.trans moves, rfl, rfl⟩
  · intro handling handles
    rcases step.handling handles with ⟨old, was, ruleId, policy⟩ | ⟨pending, waits, policy⟩
    · have seen := coherent.handled old was
      rw [ruleId, policy] at seen
      exact seen.moves moves
    · have seen := coherent.pending _ pending waits
      rw [policy] at seen
      exact seen.moves moves
  · intro handling trigger handles read
    rcases step.snapshot handles read with live | ⟨old, was, ruleId, stood⟩
    · exact ⟨(reading_of_find Succeeds.refl live).moves Succeeds.trans moves, number_of_find live⟩
    · obtain ⟨snapshot, own⟩ := coherent.snapshot old trigger was stood
      exact ⟨snapshot.moves Succeeds.trans moves, own.trans ruleId⟩

/-- While a reservation is executed, or on its way there, its handling holds the transaction
and the live rule is the one that was read: armed, in the expected generation. -/
structure Current (state : TriggerSession) : Prop where
  granted : ∀ handling, state.handling = some handling → handling.phase = .granted →
    handling.holdsTransaction = true
  acting : ∀ handling trigger, state.handling = some handling →
    handling.phase.acting = some trigger →
      handling.holdsTransaction = true ∧ trigger.status = .armed ∧
        trigger.lifecycleGeneration = handling.policy.expectedLifecycleGeneration ∧
          ∃ live, state.runtime.triggerRule trigger.id = some live ∧
            live.lifecycleGeneration = trigger.lifecycleGeneration

theorem current_initial : Current .initial where
  granted := by simp [initial]
  acting := by simp [initial]

theorem Revalidated.acting (revalidated : Revalidated handling trigger condition) :
    handling.phase.acting = some trigger := by
  rcases revalidated with ⟨phase, _⟩ | ⟨phase, _⟩ <;> rw [phase] <;> rfl

theorem HandlingPhase.snapshot_of_acting
    (acting : phase.acting = some trigger) : phase.snapshot = some trigger := by
  cases phase <;> first | exact acting | cases acting

/-- A step of another party while a handling goes on leaves what `Current` says alone. -/
theorem Current.frame (current : Current state) (handling : next.handling = state.handling)
    (kept : ∀ id live, state.runtime.triggerRule id = some live →
      ∃ again, next.runtime.triggerRule id = some again ∧
        again.lifecycleGeneration = live.lifecycleGeneration) : Current next := by
  constructor
  · intro handled handles phase
    rw [handling] at handles
    exact current.granted handled handles phase
  · intro handled trigger handles acting
    rw [handling] at handles
    obtain ⟨holds, armed, expected, live, found, same⟩ :=
      current.acting handled trigger handles acting
    obtain ⟨again, refound, unmoved⟩ := kept trigger.id live found
    exact ⟨holds, armed, expected, again, refound, unmoved.trans same⟩

theorem Current.idle (free : next.handling = none) : Current next where
  granted := by simp [free]
  acting := by simp [free]

theorem Current.rephase (current : Current state) (handles : state.handling = some handling)
    (before : handling.phase.acting = some trigger) (after : phase.acting = some trigger)
    (later : phase ≠ .granted) (same : next.runtime = state.runtime)
    (moved : next.handling = some { handling with phase := phase }) : Current next := by
  constructor
  · intro handled handles' granted
    rw [moved] at handles'
    cases handles'
    exact absurd granted later
  · intro handled trigger' handles' acting
    rw [moved] at handles'
    cases handles'
    rw [after] at acting
    cases acting
    rw [same]
    exact current.acting handling trigger handles before

theorem Current.quiet (silent : phase.acting = none) (later : phase ≠ .granted)
    (moved : next.handling = some handling) (stands : handling.phase = phase) : Current next := by
  constructor
  · intro handled handles granted
    rw [moved] at handles
    cases handles
    exact absurd (stands.symm.trans granted) later
  · intro handled trigger handles acting
    rw [moved] at handles
    cases handles
    rw [stands, silent] at acting
    cases acting

theorem Current.accept {policy : PendingTriggerConditionPolicy}
    (moved : next.handling = some (acceptedHandling completion policy)) : Current next := by
  constructor
  · intro handled handles granted
    rw [moved] at handles
    cases handles
    unfold acceptedHandling at granted ⊢
    unfold ReservationCompletion.granted
    cases result : completion.result with
    | ok => rfl
    | error => simp [result] at granted
  · intro handled trigger handles acting
    rw [moved] at handles
    cases handles
    unfold acceptedHandling at acting
    cases result : completion.result <;> simp [result, HandlingPhase.acting] at acting

/-- The cycle of the worker waits while a completion is handled. -/
def Waits (state : TriggerSession) : Prop :=
  state.handling.isSome = true → receivesCompletions state.position = true

theorem Waits.handling_none (waits : Waits state)
    (busy : receivesCompletions state.position = false) : state.handling = none := by
  cases handles : state.handling with
  | none => rfl
  | some =>
    have receives := waits (by rw [handles]; rfl)
    rw [receives] at busy
    cases busy

theorem Waits.step (waits : Waits state) (step : TriggerStep state action next) : Waits next := by
  have free : ∀ {position : WorkerPosition}, state.position = position →
      receivesCompletions position = false → state.handling = none := by
    rintro position rfl busy
    exact waits.handling_none busy
  have vacuous : state.handling = none → state.handling.isSome = true →
      receivesCompletions next.position = true := by
    intro none_handled some_handled
    rw [none_handled] at some_handled
    cases some_handled
  cases step with
  | listed _ none_handled | cycleEnded _ none_handled | skipped _ _ _ none_handled
  | passed _ _ _ none_handled | started _ _ _ _ none_handled => exact vacuous none_handled
  | refreshed _ _ stands | reconciled _ stands | windowRead _ _ _ stands | unprimed _ _ _ stands
  | judged _ _ _ _ stands | evaluated _ _ _ stands | failed _ _ _ _ stands | settled _ _ _ _ stands
  | stillPending _ _ _ stands | spawned _ _ _ stands =>
    exact vacuous (free stands rfl)
  | accepted _ _ _ _ _ receives => exact fun _ => receives
  | finished | withdrawn | consumed | recorded | executionFailed | succeeded =>
    intro some_handled
    cases some_handled
  | blocked _ _ handles | reported _ _ _ handles | liveRead _ _ handles | resumed _ _ handles
  | reserved _ _ _ _ handles | liveReported _ _ _ _ handles | dispatched _ _ handles =>
    exact fun _ => waits (by rw [handles]; rfl)
  | _ => exact waits

/-- A rule is not touched by the worker's cycle, nor by a command, while a handling of a grant
goes on: the cycle waits for the handling and the command for the transaction. -/
theorem Current.step (current : Current state) (exclusive : Exclusive state)
    (waits : Waits state) (step : TriggerStep state action next) : Current next := by
  have alone : ∀ trigger later condition, state.position = .deciding trigger later condition →
      state.handling = none := by
    intro trigger later condition stands
    exact waits.handling_none (by rw [stands]; rfl)
  cases step with
  | tabsReconciled tabs =>
    refine current.frame rfl fun id live found =>
      ⟨TriggerInfo.reconcileTabs tabs live, ?_, rfl⟩
    rw [triggerRule_reconcileTabs, found]
    rfl
  | committed _ _ stands =>
    constructor
    · exact current.granted
    · intro handling trigger handles acting
      have none_running := exclusive.command_none handles
        (current.acting handling trigger handles acting).1
      exact absurd (none_running.symm.trans stands) (by simp)
  | failed _ _ _ _ stands | settled _ _ _ _ stands =>
    exact Current.idle (alone _ _ _ stands)
  | accepted => exact Current.accept rfl
  | blocked | reported | liveReported =>
    exact Current.quiet rfl (by simp) rfl rfl
  | liveRead handling trigger handles phase live armed fresh =>
    constructor
    · intro handled moved granted
      cases moved
      cases granted
    · intro handled trigger' moved acting
      cases moved
      cases acting
      refine ⟨current.granted handling handles phase, armed, fresh, trigger, ?_, rfl⟩
      rw [number_of_find live]
      exact live
  | resumed _ _ handles phase | dispatched _ _ handles phase =>
    exact current.rephase handles (by rw [phase]; rfl) rfl (by simp) rfl rfl
  | reserved _ _ _ _ handles revalidated =>
    exact current.rephase handles revalidated.acting rfl (by simp) rfl rfl
  | finished | withdrawn | consumed | recorded | executionFailed | succeeded =>
    exact Current.idle rfl
  | _ => exact current.frame rfl fun id live found => ⟨live, found, rfl⟩

/-- What holds in every reachable state of the session. -/
structure Consistent (state : TriggerSession) : Prop where
  exclusive : Exclusive state
  coherent : Coherent state
  waits : Waits state
  current : Current state

theorem consistent_initial : Consistent .initial where
  exclusive := rfl
  coherent := coherent_initial
  waits := fun handled => absurd handled (by simp [initial])
  current := current_initial

variable (consistent : Consistent state)

include consistent

theorem Consistent.step (step : TriggerStep state action next) : Consistent next where
  exclusive := consistent.exclusive.step step
  coherent := consistent.coherent.step step
  waits := consistent.waits.step step
  current := consistent.current.step consistent.exclusive consistent.waits step

/-- Only the commit of a command registers, arms, pauses or removes a rule. -/
theorem Consistent.settles (step : TriggerStep state action next) :
    (∃ edit baseline, action = .commit ∧ state.command = some (.ready edit baseline) ∧
        next = { state with
          runtime := applyEdit state.runtime edit baseline
          armedCursor := state.recordArming edit baseline
          command := some .finished }) ∨
      Edits Settles state.runtime.registry next.runtime.registry ∧
        next.armedCursor = state.armedCursor := by
  have retouched : ∀ {after}, Edits Retouches state.runtime.registry after →
      Edits Settles state.runtime.registry after := fun edits =>
    edits.mono fun _ _ => Retouches.settles
  have snapshot : ∀ {handling : CompletionHandling} {trigger : TriggerInfo},
      state.handling = some handling → handling.phase.snapshot = some trigger →
        Reading Succeeds state.runtime.registry trigger := fun handles read =>
    (consistent.coherent.snapshot _ _ handles read).1
  cases step with
  | committed edit baseline stands => exact .inl ⟨edit, baseline, rfl, stands, rfl⟩
  | tabsReconciled tabs => exact .inr ⟨retouched (edits_reconcileTabs _ tabs), rfl⟩
  | failed trigger _ _ _ stands =>
    exact .inr ⟨retouched (edits_recordTriggerFailure
      (consistent.coherent.position trigger (by simp [stands, WorkerPosition.triggers]))
        _ ..), rfl⟩
  | settled | withdrawn | consumed =>
    exact .inr ⟨retouched (edits_setConditionEvidence ..), rfl⟩
  | recorded _ _ _ _ _ handles read =>
    exact .inr ⟨retouched (edits_recordTriggerFailure (snapshot handles read) ..), rfl⟩
  | executionFailed _ handling execution _ handles phase =>
    have read : handling.phase.snapshot = some execution.trigger := by
      rcases phase with stands | stands <;> rw [stands] <;> rfl
    exact .inr ⟨retouched (edits_recordTriggerFailure (snapshot handles read) ..), rfl⟩
  | succeeded _ execution =>
    refine .inr ⟨?_, rfl⟩
    refine edits_recordOutcomeWithFallback (fun trigger => (Retouches.refl trigger).settles)
      _ _ _ _ _ ?_ fun live => (retouches_withStaleOutcome _ _ live).settles
    intro live found fresh
    exact ⟨rfl, .inr (nextTriggerStatusAfterSuccess_eq execution.trigger)⟩
  | _ => exact .inr ⟨retouched (edits_self _ Retouches.refl), rfl⟩

theorem Consistent.live
    (handles : state.handling = some handling) (acting : handling.phase.acting = some trigger) :
    ∃ live, state.runtime.triggerRule trigger.id = some live ∧ live.status = .armed ∧
      live.lifecycleGeneration = trigger.lifecycleGeneration ∧
        trigger.lifecycleGeneration = handling.policy.expectedLifecycleGeneration := by
  obtain ⟨-, armed, expected, live, found, same⟩ :=
    consistent.current.acting handling trigger handles acting
  have snapshot := (consistent.coherent.snapshot handling trigger handles
    (HandlingPhase.snapshot_of_acting acting)).1
  exact ⟨live, found, ((snapshot.current live found).status same).trans armed, same, expected⟩

end TriggerSession

end Rub
