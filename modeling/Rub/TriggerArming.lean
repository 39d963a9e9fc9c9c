import Rub.TriggerCoherence

/-!
Which rules have a baseline cursor on record: an armed network trigger always, and no rule
with another condition.
-/

namespace Rub

open Function

def CommandPhase.measures : CommandPhase → Bool
  | .measuring _ => true
  | .counting _ _ => true
  | .ready _ baseline => baseline.isSome
  | _ => false

namespace TriggerSession

open TriggerRuntimeState
open RuleRegistry (Moves Edits number_of_find lt_nextId_of_find)

structure Marked (armedCursor : Nat → Option Nat) (trigger : TriggerInfo) : Prop where
  network : (armedCursor trigger.id).isSome = true → trigger.isNetworkRequest = true
  armed : trigger.status = .armed → trigger.isNetworkRequest = true →
    (armedCursor trigger.id).isSome = true

/-- A baseline is measured for the edits that arm a network trigger, and only for them. -/
def EditFits (runtime : TriggerRuntimeState) (measures : Bool) : RegistryEdit → Prop
  | .register trigger => measures = (trigger.isArmed && trigger.isNetworkRequest)
  | .setStatus id status =>
    id < runtime.registry.nextId ∧ ∀ live, runtime.triggerRule id = some live →
      measures = (status == .armed && live.isNetworkRequest)
  | _ => True

structure Arming (state : TriggerSession) : Prop where
  live : ∀ id live, state.runtime.triggerRule id = some live → Marked state.armedCursor live
  listed : ∀ trigger ∈ state.position.triggers, Marked state.armedCursor trigger
  known : ∀ id, (state.armedCursor id).isSome = true → id < state.runtime.registry.nextId
  edit : ∀ phase edit, state.command = some phase → phase.edit = some edit →
    EditFits state.runtime phase.measures edit

theorem arming_initial : Arming .initial where
  live := fun id live found => by cases found
  listed := by simp [initial, WorkerPosition.triggers]
  known := by simp [initial]
  edit := by simp [initial]

variable {state next : TriggerSession} {action : TriggerSessionAction} {edit : RegistryEdit}

theorem EditFits.moves {runtime after : TriggerRuntimeState} {measures : Bool}
    (fits : EditFits runtime measures edit)
    (moves : Moves Succeeds runtime.registry after.registry) : EditFits after measures edit := by
  cases edit with
  | setStatus id =>
    refine ⟨Nat.lt_of_lt_of_le fits.1 moves.nextId, fun live found => ?_⟩
    obtain ⟨old, was, succeeds⟩ := moves.rule id live fits.1 found
    rw [succeeds.isNetworkRequest]
    exact fits.2 old was
  | register => exact fits
  | ensureBaseline => trivial
  | remove => trivial

theorem editFits_of_choice {runtime : TriggerRuntimeState} {command : RegistryCommand}
    (chosen : (chosenPhase runtime command).edit = some edit) :
    EditFits runtime (chosenPhase runtime command).measures edit := by
  obtain ⟨needs, choice, phase⟩ := chosenPhase_edit chosen
  have measures : (chosenPhase runtime command).measures = needs := by
    rw [phase]
    cases needs <;> rfl
  rw [measures]
  cases edit with
  | register => exact chooseEdit_register choice
  | setStatus =>
    obtain ⟨current, live, -, needed⟩ := chooseEdit_setStatus choice
    refine ⟨lt_nextId_of_find live, fun again found => ?_⟩
    rw [live] at found
    cases found
    exact needed
  | ensureBaseline => trivial
  | remove => trivial

theorem TriggerStep.editFits (step : TriggerStep state action next)
    (arming : Arming state) {phase : CommandPhase}
    (running : next.command = some phase) (edits : phase.edit = some edit) :
    EditFits next.runtime phase.measures edit := by
  have moves := step.moves
  cases step with
  | begun | committed => cases running; cases edits
  | chosen => cases running; exact editFits_of_choice edits
  | cursorRead measured stands =>
    cases running
    exact arming.edit (.measuring measured) edit stands edits
  | dropCountRead measured cursor stands =>
    cases running
    exact arming.edit (.counting measured cursor) edit stands edits
  | ended => cases running
  | _ => exact (arming.edit phase edit running edits).moves moves

section Commits

variable {edit : RegistryEdit} {baseline : Option NetworkRequestBaseline} {id : Nat}
  {trigger : TriggerInfo} {measured : NetworkRequestBaseline}

theorem recordArming_of_armedRule (armed : armedRule state.runtime edit = some id) :
    state.recordArming edit (some measured) =
      update state.armedCursor id (some measured.cursor) := by
  unfold recordArming
  rw [armed]

theorem recordArming_cases (state : TriggerSession) (edit : RegistryEdit)
    (baseline : Option NetworkRequestBaseline) :
    state.recordArming edit baseline = state.armedCursor ∨
      ∃ id measured, armedRule state.runtime edit = some id ∧ baseline = some measured ∧
        state.recordArming edit baseline = update state.armedCursor id (some measured.cursor) := by
  cases armed : armedRule state.runtime edit with
  | none => exact .inl (by unfold recordArming; rw [armed])
  | some id =>
    cases baseline with
    | none => exact .inl (by unfold recordArming; rw [armed])
    | some measured => exact .inr ⟨id, measured, rfl, rfl, recordArming_of_armedRule armed⟩

/-- What the edit leaves of a rule that it arms: the new number for a registration, and
otherwise a rule whose number was given before. -/
theorem armedRule_cases {runtime : TriggerRuntimeState} (armed : armedRule runtime edit = some id) :
    (∃ trigger, edit = .register trigger ∧ trigger.isArmed = true ∧ id = runtime.registry.nextId) ∨
      ∃ live, edit = .setStatus id .armed ∧ runtime.triggerRule id = some live := by
  cases edit with
  | register trigger =>
    simp only [armedRule] at armed
    split at armed <;> cases armed
    exact .inl ⟨trigger, rfl, ‹_›, rfl⟩
  | setStatus =>
    simp only [armedRule] at armed
    split at armed <;> cases armed
    rename_i resumes
    obtain ⟨live, found⟩ := Option.isSome_iff_exists.mp resumes.2
    exact .inr ⟨live, by rw [resumes.1], found⟩
  | ensureBaseline | remove => cases armed

theorem Marked.mono {before after : Nat → Option Nat} (marked : Marked before trigger)
    (same : after trigger.id = before trigger.id ∨
      (after trigger.id).isSome = true ∧ trigger.isNetworkRequest = true) :
    Marked after trigger := by
  rcases same with equal | ⟨recorded, network⟩
  · exact ⟨by rw [equal]; exact marked.network, by rw [equal]; exact marked.armed⟩
  · exact ⟨fun _ => network, fun _ _ => recorded⟩

variable {live : TriggerInfo}

/-- The number of an edit that is committed with a baseline belongs to a network trigger. -/
theorem network_of_arming (arming : Arming state)
    (stands : state.command = some (.ready edit (some measured)))
    (armed : armedRule state.runtime edit = some id)
    (found : state.runtime.triggerRule id = some live) : live.isNetworkRequest = true := by
  have fits := arming.edit _ edit stands rfl
  rcases armedRule_cases armed with ⟨trigger, rfl, -, rfl⟩ | ⟨old, rfl, -⟩
  · exact absurd (lt_nextId_of_find found) (Nat.lt_irrefl _)
  · have measures := fits.2 live found
    simpa [CommandPhase.measures] using measures.symm

theorem Arming.commit_listed (arming : Arming state) (coherent : Coherent state)
    (stands : state.command = some (.ready edit baseline))
    (member : trigger ∈ state.position.triggers) :
    Marked (state.recordArming edit baseline) trigger := by
  refine (arming.listed trigger member).mono ?_
  rcases recordArming_cases state edit baseline with same | ⟨id, measured, armed, rfl, updated⟩
  · exact .inl (by rw [same])
  · rw [updated]
    by_cases own : trigger.id = id
    · subst own
      refine .inr ⟨by simp, ?_⟩
      have snapshot := coherent.position trigger member
      rcases armedRule_cases armed with ⟨registered, rfl, -, new⟩ | ⟨live, rfl, found⟩
      · exact absurd (new ▸ snapshot.known) (Nat.lt_irrefl _)
      · rw [← (snapshot.current live found).isNetworkRequest]
        exact network_of_arming arming stands armed found
    · exact .inl (by simp [own])

theorem recordArming_of_ne (baseline : Option NetworkRequestBaseline)
    (other : armedRule state.runtime edit ≠ some id) :
    state.recordArming edit baseline id = state.armedCursor id := by
  rcases recordArming_cases state edit baseline with same | ⟨armedId, measured, armed, rfl, updated⟩
  · rw [same]
  · rw [updated]
    have different : id ≠ armedId := by
      rintro rfl
      exact other armed
    simp [different]

variable (arming : Arming state)

include arming

open TriggerInfo

theorem marked_numbered (stands : state.command = some (.ready (.register trigger) baseline)) :
    Marked (state.recordArming (.register trigger) baseline) (state.runtime.numbered trigger) := by
  have fits : baseline.isSome = (trigger.isArmed && trigger.isNetworkRequest) :=
    arming.edit _ _ stands rfl
  have fresh : state.armedCursor state.runtime.registry.nextId = none := by
    cases recorded : state.armedCursor state.runtime.registry.nextId with
    | none => rfl
    | some =>
      exact absurd (arming.known _ (by rw [recorded]; rfl)) (Nat.lt_irrefl _)
  constructor
  · intro recorded
    by_cases armed : trigger.isArmed = true
    · cases baseline with
      | none =>
        have same : state.recordArming (.register trigger) none = state.armedCursor := by
          unfold recordArming
          split <;> first | rfl | simp_all
        rw [same] at recorded
        exact absurd (recorded.symm.trans (congrArg Option.isSome fresh)) (by simp)
      | some =>
        rw [armed] at fits
        exact fits.symm
    · have other : armedRule state.runtime (.register trigger) ≠
          some state.runtime.registry.nextId := by simp [armedRule, armed]
      have same := recordArming_of_ne baseline other
      exact absurd (recorded.symm.trans (congrArg Option.isSome (same.trans fresh))) (by simp)
  · intro armed network
    have status : trigger.status = .armed := armed
    have isArmed : trigger.isArmed = true := by simp [isArmed, status]
    have isNetwork : trigger.isNetworkRequest = true := network
    rw [isArmed, isNetwork] at fits
    obtain ⟨measured, rfl⟩ := Option.isSome_iff_exists.mp fits
    have rule : armedRule state.runtime (.register trigger) =
        some state.runtime.registry.nextId := by simp [armedRule, isArmed]
    rw [recordArming_of_armedRule rule]
    simp [numbered]

theorem marked_retouched {after : TriggerRuntimeState}
    (edits : Edits Retouches state.runtime.registry after.registry)
    (same : state.recordArming edit baseline = state.armedCursor)
    (found : after.triggerRule id = some live) :
    Marked (state.recordArming edit baseline) live := by
  obtain ⟨old, was, retouched⟩ := edits.rule id live found
  have marked := arming.live id old was
  have number : live.id = old.id := by rw [number_of_find found, number_of_find was]
  have network := retouched.succeeds.isNetworkRequest
  rw [same]
  constructor
  · rw [number, network]
    exact marked.network
  · rw [number, network, retouched.status]
    exact marked.armed

theorem marked_withStatus {status : TriggerStatus}
    (stands : state.command = some (.ready (.setStatus id status) baseline))
    (found : state.runtime.triggerRule id = some live) :
    Marked (state.recordArming (.setStatus id status) baseline)
      (withStatus status live) := by
  have fits : baseline.isSome = (status == .armed && live.isNetworkRequest) :=
    (arming.edit _ _ stands rfl).2 live found
  have own := number_of_find found
  have marked := arming.live id live found
  cases baseline with
  | none =>
    have same : state.recordArming (.setStatus id status) none = state.armedCursor := by
      rcases recordArming_cases state (.setStatus id status) none with same | ⟨_, _, _, none, _⟩
      · exact same
      · cases none
    rw [same]
    refine ⟨marked.network, fun armed network => ?_⟩
    have isArmed : status = .armed := armed
    have isNetwork : live.isNetworkRequest = true := network
    rw [isArmed, isNetwork] at fits
    cases fits
  | some measured =>
    have needs : status = .armed ∧ live.isNetworkRequest = true := by
      simpa using fits.symm
    have rule : armedRule state.runtime (.setStatus id status) = some id := by
      simp [armedRule, needs.1, found]
    rw [recordArming_of_armedRule rule]
    have recorded : (update state.armedCursor id (some measured.cursor)
        (withStatus status live).id).isSome = true := by
      show (update state.armedCursor id (some measured.cursor) live.id).isSome = true
      simp [own]
    exact ⟨fun _ => needs.2, fun _ _ => recorded⟩

theorem Arming.commit_live (stands : state.command = some (.ready edit baseline))
    (found : (applyEdit state.runtime edit baseline).triggerRule id = some live) :
    Marked (state.recordArming edit baseline) live := by
  cases edit with
  | register trigger =>
    by_cases new : id = state.runtime.registry.nextId
    · have registered : live = state.runtime.numbered trigger := by
        rw [new] at found
        exact Option.some.inj (found.symm.trans (triggerRule_registered _ trigger baseline))
      rw [registered]
      exact marked_numbered arming stands
    · have kept : state.runtime.triggerRule id = some live :=
        (triggerRule_register_of_ne _ trigger baseline new).symm.trans found
      refine (arming.live id live kept).mono (.inl (recordArming_of_ne baseline ?_))
      rw [number_of_find kept]
      intro armed
      rcases armedRule_cases armed with ⟨_, _, _, same⟩ | ⟨_, other, _⟩
      · exact new same
      · cases other
  | ensureBaseline other =>
    cases baseline with
    | none => exact arming.live id live found
    | some measured =>
      exact marked_retouched arming (edits_ensureNetworkRequestBaseline _ other measured) rfl found
  | setStatus other status =>
    by_cases own : id = other
    · subst own
      cases was : state.runtime.triggerRule id with
      | none =>
        have same : (state.runtime.updateStatusWithBaseline id status baseline).triggerRule id
            = none := by
          rw [updateStatusWithBaseline, was]
          exact was
        exact absurd (same.symm.trans found) (by simp)
      | some old =>
        have updated := triggerRule_updateStatus was status baseline
        have same : live = withStatus status old :=
          Option.some.inj (found.symm.trans updated)
        rw [same]
        exact marked_withStatus arming stands was
    · have kept : state.runtime.triggerRule id = some live :=
        (triggerRule_updateStatus_of_ne _ own status baseline).symm.trans found
      refine (arming.live id live kept).mono (.inl (recordArming_of_ne baseline ?_))
      rw [number_of_find kept]
      intro armed
      rcases armedRule_cases armed with ⟨_, other', _, _⟩ | ⟨_, same, _⟩
      · cases other'
      · cases same
        exact own rfl
  | remove other => exact marked_retouched arming (edits_remove _ other) rfl found

theorem Arming.commit_known (recorded : (state.recordArming edit baseline id).isSome = true) :
    id < (applyEdit state.runtime edit baseline).registry.nextId := by
  have moves := moves_applyEdit state.runtime edit baseline
  rcases recordArming_cases state edit baseline with same | ⟨armedId, measured, armed, rfl, updated⟩
  · rw [same] at recorded
    exact Nat.lt_of_lt_of_le (arming.known id recorded) moves.nextId
  · rw [updated] at recorded
    by_cases own : id = armedId
    · subst own
      rcases armedRule_cases armed with ⟨trigger, rfl, -, rfl⟩ | ⟨live, rfl, found⟩
      · exact lt_nextId_of_find (triggerRule_registered _ trigger (some measured))
      · exact Nat.lt_of_lt_of_le (lt_nextId_of_find found) moves.nextId
    · rw [update_of_ne own] at recorded
      exact Nat.lt_of_lt_of_le (arming.known id recorded) moves.nextId

end Commits

theorem Arming.step (arming : Arming state) (consistent : Consistent state)
    (step : TriggerStep state action next) : Arming next := by
  have fits : ∀ phase edit, next.command = some phase → phase.edit = some edit →
      EditFits next.runtime phase.measures edit := fun _ _ running edits =>
    step.editFits arming running edits
  have listed := step.triggers
  rcases consistent.settles step with ⟨edit, baseline, -, stands, rfl⟩ | ⟨edits, same⟩
  · exact ⟨fun id live found => arming.commit_live stands found,
      fun trigger member => arming.commit_listed consistent.coherent stands member,
      fun id recorded => arming.commit_known recorded, fits⟩
  · refine ⟨fun id live found => ?_, fun trigger member => ?_, ?_, fits⟩
    · obtain ⟨old, was, settles⟩ := edits.rule id live found
      have marked := arming.live id old was
      have number : live.id = old.id := by rw [number_of_find found, number_of_find was]
      have network : live.isNetworkRequest = old.isNetworkRequest := by
        unfold TriggerInfo.isNetworkRequest
        rw [settles.condition]
      rw [same]
      constructor
      · rw [number, network]
        exact marked.network
      · rw [number, network]
        intro armed
        rcases settles.status with kept | fired
        · exact marked.armed (kept.symm.trans armed)
        · rw [fired] at armed
          cases armed
    · rw [same]
      rcases listed with kept | all
      · exact arming.listed trigger (kept.subset member)
      · rw [all] at member
        exact arming.live trigger.id trigger (RuleRegistry.find_of_mem member)
    · rw [same, edits.nextId]
      exact arming.known

end TriggerSession

end Rub
