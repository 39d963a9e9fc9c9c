import Rub.NetworkRequestWindow
import Rub.TriggerArming

/-!
The working cursors of the trigger worker, compared with the baselines the rules were armed
with. Every cursor lies at or before the last observation; the lower bound holds as long as a
resume is not missed by the worker.
-/

namespace Rub

open Function

variable {trigger : TriggerInfo} {committed : Option NetworkRequestBaseline}
  {existing : Option TriggerWorkerEntry}

theorem rearm_cursor_le {limit : Nat} {entry : TriggerWorkerEntry}
    (baseline : ∀ baseline, committed = some baseline → baseline.cursor ≤ limit)
    (bounded : entry.networkCursor ≤ limit) :
    (entry.rearm trigger committed).networkCursor ≤ limit := by
  unfold TriggerWorkerEntry.rearm NetworkCursor.rearm
  cases committed with
  | some measured => exact baseline measured rfl
  | none =>
    dsimp only
    split
    · exact Nat.zero_le limit
    · exact bounded

theorem reconcileWorkerEntry_cursor_le {limit : Nat}
    (baseline : ∀ baseline, committed = some baseline → baseline.cursor ≤ limit)
    (held : ∀ entry, existing = some entry → entry.networkCursor ≤ limit) :
    (reconcileWorkerEntry trigger committed existing).networkCursor ≤ limit := by
  have start : (existing.getD (.create trigger committed)).networkCursor ≤ limit := by
    cases existing with
    | some entry => exact held entry rfl
    | none =>
      cases committed with
      | none => exact Nat.zero_le limit
      | some measured => exact baseline measured rfl
  have armed : (if (existing.getD (.create trigger committed)).lastStatus ≠ .armed ∧
      trigger.status = .armed
        then (existing.getD (.create trigger committed)).rearm trigger committed
        else existing.getD (.create trigger committed)).networkCursor ≤ limit := by
    split
    · exact rearm_cursor_le baseline start
    · exact start
  unfold reconcileWorkerEntry
  split
  · exact armed
  · exact armed

/-- Where the cursor of a primed entry comes from, for an armed network trigger: from the
committed baseline, or from an entry the worker already held for an armed rule. -/
theorem reconcileWorkerEntry_primed (armed : trigger.status = .armed)
    (network : trigger.isNetworkRequest = true)
    (primed : (reconcileWorkerEntry trigger committed existing).networkCursorPrimed = true) :
    (∃ baseline, committed = some baseline ∧
        (reconcileWorkerEntry trigger committed existing).networkCursor = baseline.cursor) ∨
      ∃ entry, existing = some entry ∧ entry.lastStatus = .armed ∧
        entry.networkCursorPrimed = true ∧
          (reconcileWorkerEntry trigger committed existing).networkCursor =
            entry.networkCursor := by
  have required : baselineRequired trigger = true := by
    simp [baselineRequired, network, TriggerInfo.isArmed, armed]
  cases committed with
  | none => simp [reconcileWorkerEntry, required] at primed
  | some baseline =>
    cases existing with
    | none =>
      refine .inl ⟨baseline, rfl, ?_⟩
      simp [reconcileWorkerEntry, TriggerWorkerEntry.create, NetworkCursor.create, armed]
    | some entry =>
      by_cases seen : entry.lastStatus = .armed
      · simp only [reconcileWorkerEntry, Option.getD_some, seen, ne_eq, not_true_eq_false,
          false_and, if_false, Option.isNone_some, Bool.and_false, Bool.false_eq_true]
          at primed ⊢
        exact .inr ⟨entry, rfl, seen, primed, rfl⟩
      · refine .inl ⟨baseline, rfl, ?_⟩
        simp [reconcileWorkerEntry, seen, armed, TriggerWorkerEntry.rearm, NetworkCursor.rearm]

/-- The rules of the running cycle that are reconciled and not finished. -/
def WorkerPosition.processed : WorkerPosition → List TriggerInfo
  | .draining triggers => triggers
  | .judging trigger later => trigger :: later
  | .counting trigger later _ => trigger :: later
  | .deciding trigger later _ => trigger :: later
  | _ => []

def WorkerPosition.evaluating : WorkerPosition → Option TriggerInfo
  | .judging trigger _ => some trigger
  | .counting trigger _ _ => some trigger
  | .deciding trigger _ _ => some trigger
  | _ => none

def CommandPhase.cursor : CommandPhase → Option Nat
  | .counting _ cursor => some cursor
  | .ready _ baseline => baseline.map (·.cursor)
  | _ => none

def PendingTriggerConditionPolicy.progresses (policy : PendingTriggerConditionPolicy) :
    List TriggerNetworkProgress :=
  (policy.preservedTriggered.bind (·.networkProgress)).toList ++
    policy.fallbackNetworkProgress.toList

namespace TriggerSession

open TriggerRuntimeState RuntimeObservatoryState

variable {state next : TriggerSession} {action : TriggerSessionAction}

/-- The worker holds an entry for every rule of the running cycle, with the status it was
listed with. -/
structure Listed (state : TriggerSession) : Prop where
  distinct : (state.position.triggers.map (·.id)).Nodup
  processed : ∀ trigger ∈ state.position.processed,
    ∃ entry, state.entries trigger.id = some entry ∧ entry.lastStatus = trigger.status
  armed : ∀ trigger, state.position.evaluating = some trigger → trigger.status = .armed

theorem listed_initial : Listed .initial where
  distinct := List.nodup_nil
  processed := by simp [initial, WorkerPosition.processed]
  armed := by simp [initial, WorkerPosition.evaluating]

theorem judgeNetworkWindow_lastStatus (trigger : TriggerInfo) (window : NetworkRequestWindow)
    (drops : Nat) (entry : TriggerWorkerEntry) :
    (judgeNetworkWindow trigger window drops entry).2.lastStatus = entry.lastStatus := by
  unfold judgeNetworkWindow
  split <;> rfl

variable {change : TriggerWorkerEntry → TriggerWorkerEntry}

theorem updateEntry_cases {id other : Nat}
    {entry : TriggerWorkerEntry} (found : state.updateEntry id change other = some entry) :
    state.entries other = some entry ∨
      other = id ∧ ∃ old, state.entries id = some old ∧ entry = change old := by
  unfold updateEntry at found
  by_cases same : other = id
  · subst same
    rw [update_self] at found
    obtain ⟨old, was, rfl⟩ := Option.map_eq_some_iff.mp found
    exact .inr ⟨rfl, old, was, rfl⟩
  · rw [update_of_ne same] at found
    exact .inl found

/-- Statuses in the entries change with a reconciliation only. -/
def StatusesKept (state next : TriggerSession) : Prop :=
  ∀ id entry, state.entries id = some entry →
    ∃ again, next.entries id = some again ∧ again.lastStatus = entry.lastStatus

theorem statusesKept_update {id : Nat}
    (keeps : ∀ entry, (change entry).lastStatus = entry.lastStatus)
    (entries : next.entries = state.updateEntry id change) : StatusesKept state next := by
  intro other entry found
  rw [entries]
  unfold updateEntry
  by_cases same : other = id
  · subst same
    exact ⟨change entry, by simp [found], keeps entry⟩
  · exact ⟨entry, by simp [same, found], rfl⟩

theorem statusesKept_commit {id : Nat} {progress : Option TriggerNetworkProgress}
    (entries : next.entries = state.updateEntry id fun entry =>
      commitTriggerNetworkProgress entry progress) : StatusesKept state next :=
  statusesKept_update (fun _ => by cases progress <;> rfl) entries

theorem statusesKept_refl : StatusesKept state state := fun _ entry found => ⟨entry, found, rfl⟩

/-- A step moves on in the list of the cycle, and apart from the two that set the entries anew
keeps the statuses of the entries. -/
theorem TriggerStep.listing (step : TriggerStep state action next) : (next.position.processed = [] ∨
      ∃ triggers, state.position = .refreshed triggers ∧ next.position = .draining triggers ∧
        next.entries = reconcileWorkerState state.entries triggers
          state.runtime.networkRequestBaselines) ∨
      next.position.processed ⊆ state.position.processed ∧ StatusesKept state next := by
  cases step with
  | cleared idle => exact .inl (.inl (by simp [idle, WorkerPosition.processed]))
  | listed | cycleEnded => exact .inl (.inl rfl)
  | refreshed _ succeeds => exact .inl (.inl (by cases succeeds <;> rfl))
  | reconciled triggers stands => exact .inl (.inr ⟨triggers, stands, rfl, rfl⟩)
  | skipped _ later stands =>
    cases later with
    | nil => exact .inl (.inl rfl)
    | cons =>
      refine .inr ⟨?_, statusesKept_refl⟩
      rw [stands]
      exact List.subset_cons_self _ _
  | passed _ _ stands | failed _ _ _ _ stands | stillPending _ _ _ stands | spawned _ _ _ stands =>
    refine .inr ⟨?_, statusesKept_refl⟩
    rw [stands]
    exact List.subset_cons_self _ _
  | started _ _ _ stands | windowRead _ _ _ stands | unprimed _ _ _ stands
  | evaluated _ _ _ stands =>
    refine .inr ⟨?_, statusesKept_refl⟩
    rw [stands]
    exact fun _ member => member
  | judged trigger _ _ _ stands found =>
    refine .inr ⟨?_, fun id other was => ?_⟩
    · rw [stands]
      exact fun _ member => member
    · by_cases same : id = trigger.id
      · subst same
        rw [found] at was
        cases was
        exact ⟨_, update_self .., judgeNetworkWindow_lastStatus ..⟩
      · exact ⟨other, (update_of_ne same _ _).trans was, rfl⟩
  | settled _ _ _ _ stands =>
    refine .inr ⟨?_, statusesKept_commit rfl⟩
    rw [stands]
    exact List.subset_cons_self _ _
  | withdrawn | consumed | succeeded => exact .inr ⟨fun _ member => member, statusesKept_commit rfl⟩
  | executionFailed =>
    refine .inr ⟨fun _ member => member, ?_⟩
    unfold failExecution
    dsimp only
    split
    · exact statusesKept_commit rfl
    · exact statusesKept_refl
  | _ => exact .inr ⟨fun _ member => member, statusesKept_refl⟩

theorem TriggerStep.evaluating (step : TriggerStep state action next)
    (evaluates : next.position.evaluating = some trigger) :
    state.position.evaluating = some trigger ∨ trigger.status = .armed := by
  cases step with
  | listed | reconciled | cycleEnded | passed | failed | settled | stillPending | spawned =>
    cases evaluates
  | refreshed _ succeeds => cases succeeds <;> cases evaluates
  | skipped _ later => cases later <;> cases evaluates
  | started _ _ _ _ _ armed =>
    cases evaluates
    exact .inr armed
  | windowRead _ _ _ stands | unprimed _ _ _ stands | judged _ _ _ _ stands
  | evaluated _ _ _ stands =>
    rw [stands]
    exact .inl evaluates
  | _ => exact .inl evaluates

theorem Listed.step (listed : Listed state) (step : TriggerStep state action next) :
    Listed next := by
  constructor
  · rcases step.triggers with kept | all
    · exact listed.distinct.sublist (kept.map _)
    · rw [all]
      exact state.runtime.registry.distinct
  · intro trigger member
    rcases step.listing with (none_left | ⟨triggers, stood, stands, entries⟩) | ⟨kept, statuses⟩
    · rw [none_left] at member
      cases member
    · have distinct := listed.distinct
      rw [stood] at distinct
      rw [stands] at member
      rw [entries]
      exact ⟨_, congrArg (Option.map _) (RuleRegistry.find?_number_of_mem distinct member), rfl⟩
    · obtain ⟨entry, found, same⟩ := listed.processed trigger (kept member)
      obtain ⟨again, refound, unmoved⟩ := statuses trigger.id entry found
      exact ⟨again, refound, unmoved.trans same⟩
  · intro trigger evaluates
    rcases step.evaluating evaluates with before | armed
    · exact listed.armed trigger before
    · exact armed

end TriggerSession

end Rub
