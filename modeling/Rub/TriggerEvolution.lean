import Rub.RegistryMoves
import Rub.TriggerWorkerStep

/-!
How the rules of the trigger registry move. A snapshot of a rule stays comparable with the
live rule: the generation never goes back, and while it is the same so is the status.
-/

namespace Rub

open RuleRegistry TriggerInfo TriggerSession

structure Succeeds (old new : TriggerInfo) : Prop where
  condition : new.condition = old.condition
  generation : old.lifecycleGeneration ≤ new.lifecycleGeneration
  status : new.lifecycleGeneration = old.lifecycleGeneration → new.status = old.status

/-- A rule that keeps its condition and its status. -/
structure Retouches (old new : TriggerInfo) : Prop where
  condition : new.condition = old.condition
  generation : old.lifecycleGeneration ≤ new.lifecycleGeneration
  status : new.status = old.status

variable {old new : TriggerInfo}

theorem Retouches.succeeds (retouched : Retouches old new) : Succeeds old new :=
  ⟨retouched.condition, retouched.generation, fun _ => retouched.status⟩

/-- A rule that keeps its condition, and its status unless it fires. -/
structure Settles (old new : TriggerInfo) : Prop where
  condition : new.condition = old.condition
  status : new.status = old.status ∨ new.status = .fired

theorem Retouches.settles (retouched : Retouches old new) :
    Settles old new := ⟨retouched.condition, .inl retouched.status⟩

theorem Retouches.refl (trigger : TriggerInfo) : Retouches trigger trigger :=
  ⟨rfl, Nat.le_refl _, rfl⟩

open Retouches

theorem Succeeds.refl (trigger : TriggerInfo) : Succeeds trigger trigger :=
  (Retouches.refl trigger).succeeds

theorem Succeeds.trans (oldest old new : TriggerInfo) (first : Succeeds oldest old)
    (second : Succeeds old new) : Succeeds oldest new where
  condition := second.condition.trans first.condition
  generation := Nat.le_trans first.generation second.generation
  status := by
    intro same
    have between : old.lifecycleGeneration = oldest.lifecycleGeneration :=
      Nat.le_antisymm (same ▸ second.generation) first.generation
    rw [second.status (same.trans between.symm), first.status between]

theorem Succeeds.isNetworkRequest (succeeds : Succeeds old new) :
    new.isNetworkRequest = old.isNetworkRequest := by
  unfold TriggerInfo.isNetworkRequest
  rw [succeeds.condition]

theorem RuleRegistry.Edits.succeeds {before after : RuleRegistry TriggerInfo TriggerInfo.id}
    (edits : Edits Retouches before after) : Moves Succeeds before after :=
  (edits.mono fun _ _ => Retouches.succeeds).moves

variable {live : TriggerInfo} {id : Nat}

namespace TriggerRuntimeState

variable {Related : TriggerInfo → TriggerInfo → Prop} {before : TriggerRuntimeState}

theorem triggerRule_reconcileTabs (state : TriggerRuntimeState) (tabs : List TabInfo) (id : Nat) :
    (state.reconcileTabs tabs).triggerRule id =
      (state.triggerRule id).map (TriggerInfo.reconcileTabs tabs) :=
  find_editAll id (TriggerInfo.reconcileTabs tabs) (fun _ => rfl)

theorem edits_reconcileTabs (state : TriggerRuntimeState) (tabs : List TabInfo) :
    Edits Retouches state.registry (state.reconcileTabs tabs).registry :=
  edits_editAll _ (TriggerInfo.reconcileTabs tabs) (fun _ => rfl) fun _ => ⟨rfl, Nat.le_refl _, rfl⟩

theorem edits_setConditionEvidence (state : TriggerRuntimeState) (id generation : Nat)
    (evidence : Option TriggerEvidenceInfo) :
    Edits Retouches state.registry
      (state.setConditionEvidence id generation evidence).registry := by
  unfold setConditionEvidence
  cases state.triggerRule id with
  | none => exact edits_self _ refl
  | some =>
    dsimp only
    split
    · exact edits_edit _ refl id (withEvidence evidence) (fun _ => rfl)
        fun old _ => ⟨rfl, Nat.le_refl _, rfl⟩
    · exact edits_self _ refl

theorem edits_recordOutcomeWithFallback (reflexive : ∀ trigger, Related trigger trigger)
    (state : TriggerRuntimeState) (snapshot : TriggerInfo) (generation : Nat)
    (evidence : Option TriggerEvidenceInfo) (result : TriggerResultInfo)
    (applied : ∀ live, state.triggerRule snapshot.id = some live →
      live.lifecycleGeneration = generation → Related live (withOutcome evidence result live))
    (stale : ∀ live, Related live (withStaleOutcome evidence result live)) :
    Edits Related state.registry
      (state.recordOutcomeWithFallback snapshot generation evidence result).2.registry := by
  unfold recordOutcomeWithFallback
  cases live : state.triggerRule snapshot.id with
  | none => exact edits_self _ reflexive
  | some current =>
    dsimp only
    split
    · rename_i fresh
      refine edits_edit _ reflexive _ (withOutcome evidence result) (fun _ => rfl)
        fun old found => ?_
      rw [number_of_find live] at found
      cases live.symm.trans found
      exact applied current live fresh
    · exact edits_edit _ reflexive _ (withStaleOutcome evidence result) (fun _ => rfl)
        fun old _ => stale old

theorem retouches_withStaleOutcome (evidence : Option TriggerEvidenceInfo)
    (result : TriggerResultInfo) (trigger : TriggerInfo) :
    Retouches trigger (withStaleOutcome evidence result trigger) :=
  ⟨rfl, Nat.le_refl _, rfl⟩

section

variable (state : TriggerRuntimeState) (trigger : TriggerInfo)
  (baseline : Option NetworkRequestBaseline)

include state trigger baseline

theorem commitNetworkRequestBaseline_registry :
    (state.commitNetworkRequestBaseline trigger baseline).registry = state.registry := by
  unfold commitNetworkRequestBaseline
  split
  · cases baseline <;> rfl
  · rfl

theorem registerWithNetworkBaseline_registry :
    (state.registerWithNetworkBaseline trigger baseline).registry =
      state.registry.register (state.numbered trigger) rfl :=
  commitNetworkRequestBaseline_registry ..

theorem triggerRule_registered :
    (state.registerWithNetworkBaseline trigger baseline).triggerRule state.registry.nextId =
      some (state.numbered trigger) := by
  unfold triggerRule
  rw [registerWithNetworkBaseline_registry]
  exact (find_register ..).trans (if_pos rfl)

theorem triggerRule_register_of_ne (old : id ≠ state.registry.nextId) :
    (state.registerWithNetworkBaseline trigger baseline).triggerRule id = state.triggerRule id := by
  unfold triggerRule
  rw [registerWithNetworkBaseline_registry]
  exact (find_register ..).trans (if_neg old)

theorem moves_registerWithNetworkBaseline (reflexive : ∀ trigger, Related trigger trigger) :
    Moves Related state.registry
      (state.registerWithNetworkBaseline trigger baseline).registry := by
  rw [registerWithNetworkBaseline_registry]
  exact moves_register _ reflexive _ rfl

end

theorem triggerRule_updateStatus (found : before.triggerRule id = some live)
    (status : TriggerStatus) (baseline : Option NetworkRequestBaseline) :
    (before.updateStatusWithBaseline id status baseline).triggerRule id =
      some (withStatus status live) := by
  unfold updateStatusWithBaseline triggerRule
  rw [show before.registry.find id = some live from found]
  rw [commitNetworkRequestBaseline_registry]
  exact (find_edit_self id (withStatus status) (fun _ => rfl)).trans
    (congrArg (Option.map (withStatus status)) found)

theorem triggerRule_updateStatus_of_ne (state : TriggerRuntimeState) {other : Nat}
    (different : other ≠ id) (status : TriggerStatus) (baseline : Option NetworkRequestBaseline) :
    (state.updateStatusWithBaseline id status baseline).triggerRule other =
      state.triggerRule other := by
  unfold updateStatusWithBaseline
  cases state.triggerRule id with
  | none => rfl
  | some =>
    unfold triggerRule
    rw [commitNetworkRequestBaseline_registry]
    exact find_edit_of_ne different (withStatus status) (fun _ => rfl)

theorem edits_updateStatusWithBaseline (reflexive : ∀ trigger, Related trigger trigger)
    (state : TriggerRuntimeState) (id : Nat) (status : TriggerStatus)
    (baseline : Option NetworkRequestBaseline) (related : ∀ old, state.triggerRule id = some old →
      Related old (withStatus status old)) :
    Edits Related state.registry (state.updateStatusWithBaseline id status baseline).registry := by
  unfold updateStatusWithBaseline
  cases live : state.triggerRule id with
  | none => exact edits_self _ reflexive
  | some =>
    rw [commitNetworkRequestBaseline_registry]
    exact edits_edit _ reflexive id (withStatus status) (fun _ => rfl) related

theorem succeeds_withStatus (status : TriggerStatus) (trigger : TriggerInfo) :
    Succeeds trigger (withStatus status trigger) :=
  ⟨rfl, Nat.le_succ _, fun same => absurd same (Nat.succ_ne_self _)⟩

theorem edits_ensureNetworkRequestBaseline (state : TriggerRuntimeState) (id : Nat)
    (baseline : NetworkRequestBaseline) :
    Edits Retouches state.registry (state.ensureNetworkRequestBaseline id baseline).registry := by
  unfold ensureNetworkRequestBaseline
  cases state.triggerRule id with
  | none => exact edits_self _ refl
  | some =>
    dsimp only
    split <;> exact edits_self _ refl

theorem edits_remove (state : TriggerRuntimeState) (id : Nat) :
    Edits Retouches state.registry (state.remove id).registry := by
  unfold remove
  cases state.triggerRule id with
  | none => exact edits_self _ refl
  | some => exact RuleRegistry.edits_remove _ refl id

theorem nextTriggerStatusAfterSuccess_eq (trigger : TriggerInfo) :
    nextTriggerStatusAfterSuccess trigger = .fired := by
  cases trigger.mode
  rfl

end TriggerRuntimeState

open TriggerRuntimeState

variable {runtime : TriggerRuntimeState} {command : RegistryCommand} {needs : Bool}

/-- A command changes the status of armed and paused rules only. -/
theorem chooseEdit_setStatus {status : TriggerStatus}
    (chosen : chooseEdit runtime command = some (.setStatus id status, needs)) :
    ∃ current, runtime.triggerRule id = some current ∧
      (current.status = .armed ∨ current.status = .paused) ∧
        needs = (status == .armed && current.isNetworkRequest) := by
  cases command with
  | add =>
    simp only [chooseEdit] at chosen
    (repeat' split at chosen) <;> cases chosen
  | setStatus =>
    simp only [chooseEdit] at chosen
    (repeat' split at chosen) <;> cases chosen
    rename_i permitted
    exact ⟨_, ‹_›, permitted.imp And.left And.left, rfl⟩
  | remove => cases chosen

theorem chooseEdit_register {trigger : TriggerInfo}
    (chosen : chooseEdit runtime command = some (.register trigger, needs)) :
    needs = (trigger.isArmed && trigger.isNetworkRequest) := by
  cases command <;> simp only [chooseEdit] at chosen <;> (repeat' split at chosen) <;> cases chosen
  rfl

/-- The phase after the choice: a baseline is measured exactly when the edit needs one. -/
theorem chosenPhase_edit {edit : RegistryEdit}
    (chosen : (chosenPhase runtime command).edit = some edit) :
    ∃ needs, chooseEdit runtime command = some (edit, needs) ∧ chosenPhase runtime command =
        if needs then .measuring edit else .ready edit none := by
  unfold chosenPhase at chosen ⊢
  cases choice : chooseEdit runtime command with
  | none => simp [choice, CommandPhase.edit] at chosen
  | some pair =>
    obtain ⟨other, needs⟩ := pair
    cases needs <;> simp only [choice, CommandPhase.edit, Option.some.injEq] at chosen
    · exact ⟨false, by rw [chosen], by rw [chosen]; rfl⟩
    · exact ⟨true, by rw [chosen], by rw [chosen]; rfl⟩

variable {after : TriggerRuntimeState} {trigger : TriggerInfo}

/-- A generation that some snapshot of the rule had. -/
def Seen (runtime : TriggerRuntimeState) (id generation : Nat) : Prop :=
  ∃ trigger, Reading Succeeds runtime.registry trigger ∧ trigger.id = id ∧
    trigger.lifecycleGeneration = generation

section

variable {generation : Nat} (seen : Seen runtime id generation)

include seen

theorem Seen.moves (moves : Moves Succeeds runtime.registry after.registry) :
    Seen after id generation := by
  obtain ⟨trigger, snapshot, own, same⟩ := seen
  exact ⟨trigger, snapshot.moves Succeeds.trans moves, own, same⟩

theorem Seen.le_generation (found : runtime.triggerRule id = some live)
    : generation ≤ live.lifecycleGeneration := by
  obtain ⟨trigger, snapshot, rfl, rfl⟩ := seen
  exact (snapshot.current live found).generation

theorem Seen.known : id < runtime.registry.nextId := by
  obtain ⟨trigger, snapshot, rfl, -⟩ := seen
  exact snapshot.known

/-- A rule that is still in a generation seen before was in it all the time. -/
theorem Seen.unmoved (moves : Moves Succeeds runtime.registry after.registry)
    (found : after.triggerRule id = some live) (fresh : live.lifecycleGeneration = generation) :
    ∃ old, runtime.triggerRule id = some old ∧ old.lifecycleGeneration = generation := by
  obtain ⟨old, was, succeeds⟩ := moves.rule id live seen.known found
  have upper := succeeds.generation
  rw [fresh] at upper
  exact ⟨old, was, Nat.le_antisymm upper (seen.le_generation was)⟩

end

/-- A failure keeps the status of the snapshot it is recorded for, which is the live status
whenever the outcome is applied. -/
theorem edits_recordTriggerFailure (snapshot : Reading Succeeds runtime.registry trigger)
    (error : ErrorEnvelope) (evidence : Option TriggerEvidenceInfo) (commandId : Option String)
    (disposition : TriggerEvidenceDisposition) :
    Edits Retouches runtime.registry
      (recordTriggerFailure runtime trigger error evidence commandId disposition).registry := by
  refine edits_recordOutcomeWithFallback refl runtime trigger _ evidence _ ?_
    (retouches_withStaleOutcome evidence _)
  intro live found fresh
  exact ⟨rfl, Nat.le_succ _, ((snapshot.current live found).status fresh).symm⟩

theorem moves_applyEdit (runtime : TriggerRuntimeState) (edit : RegistryEdit)
    (baseline : Option NetworkRequestBaseline) :
    Moves Succeeds runtime.registry (applyEdit runtime edit baseline).registry := by
  cases edit with
  | register trigger =>
    exact moves_registerWithNetworkBaseline runtime trigger baseline Succeeds.refl
  | ensureBaseline id =>
    cases baseline with
    | none => exact (edits_self _ Succeeds.refl).moves
    | some baseline => exact (edits_ensureNetworkRequestBaseline runtime id baseline).succeeds
  | setStatus id status =>
    exact (edits_updateStatusWithBaseline Succeeds.refl runtime id status baseline
      fun old _ => succeeds_withStatus status old).moves
  | remove id => exact (edits_remove runtime id).succeeds

end Rub
