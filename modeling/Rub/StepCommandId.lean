import Rub.OrchestrationFiring

/-!
The command id of an orchestration step joins texts with colons that the texts may hold as
well, so two different steps can have one command id.
-/

namespace Rub

open List

/-- What the command id of a step is made from. -/
structure StepExecution where
  rule : OrchestrationRuleInfo
  commandIdentityKey : Option String
  executionId : String
  stepIndex : Nat

namespace StepExecution

def stepCommandId (step : StepExecution) : String :=
  match step.commandIdentityKey with
  | some identityKey => orchestrationStepCommandId step.rule identityKey step.stepIndex
  | none =>
    "orchestration:" ++ step.rule.idempotencyKey ++ ":" ++ step.executionId ++ ":" ++
      Nat.repr step.stepIndex

/-- What stands between the idempotency key and the step index. -/
def identity (step : StepExecution) : String :=
  match step.commandIdentityKey with
  | some identityKey => "g" ++ Nat.repr step.rule.lifecycleGeneration ++ ":" ++ identityKey
  | none => step.executionId

/-- The two steps agree in all that should make up a command id. -/
def Same (first second : StepExecution) : Prop :=
  first.rule.idempotencyKey = second.rule.idempotencyKey ∧
    first.rule.lifecycleGeneration = second.rule.lifecycleGeneration ∧
    first.commandIdentityKey = second.commandIdentityKey ∧ first.stepIndex = second.stepIndex

/-- The second key goes on past a colon of the first id, and the rest of that id agrees. -/
def Straddles (first second : StepExecution) : Prop :=
  ∃ tail, second.rule.idempotencyKey = first.rule.idempotencyKey ++ ":" ++ tail ∧
    first.identity = tail ++ ":" ++ second.identity

/-- An id without an identity key does not show the generation, and its execution id may read
as the generation and identity key of another. -/
def SharesExecutionId (first second : StepExecution) : Prop :=
  first.rule.idempotencyKey = second.rule.idempotencyKey ∧ first.identity = second.identity ∧
    (first.commandIdentityKey = none ∨ second.commandIdentityKey = none) ∧
    (first.rule.lifecycleGeneration ≠ second.rule.lifecycleGeneration ∨
      first.commandIdentityKey ≠ second.commandIdentityKey)

variable {first second : StepExecution}

theorem toList_stepCommandId (step : StepExecution) :
    step.stepCommandId.toList = ("orchestration:".toList ++ (step.rule.idempotencyKey.toList ++
      ':' :: step.identity.toList)) ++ ':' :: Nat.toDigits 10 step.stepIndex := by
  unfold stepCommandId identity orchestrationStepCommandId
  cases step.commandIdentityKey <;>
    simp only [String.toList_append, Nat.repr, String.toList_ofList, append_assoc,
      cons_append] <;> rfl

theorem stepCommandId_eq_iff :
    first.stepCommandId = second.stepCommandId ↔ first.stepIndex = second.stepIndex ∧
      ((first.rule.idempotencyKey = second.rule.idempotencyKey ∧
        first.identity = second.identity) ∨ first.Straddles second ∨ second.Straddles first) := by
  rw [← String.toList_inj, toList_stepCommandId, toList_stepCommandId]
  constructor
  · intro same
    obtain ⟨fronts, digits⟩ := append_separator_injective (not_mem_toDigits rfl _)
      (not_mem_toDigits rfl _) same
    refine ⟨toDigits_ten_injective digits, ?_⟩
    rcases append_eq_append_iff.mp (append_cancel_left fronts) with
      ⟨tail, key, rest⟩ | ⟨tail, key, rest⟩
    all_goals rcases cons_eq_append_iff.mp rest with ⟨rfl, same⟩ | ⟨within, rfl, same⟩
    · rw [append_nil] at key
      exact .inl ⟨(String.toList_inj.mp key).symm,
        (String.toList_inj.mp (List.cons.inj same).2).symm⟩
    · refine .inr (.inl ⟨String.ofList within, ?_, ?_⟩) <;> apply String.toList_inj.mp
      · simpa using key
      · simpa using same
    · rw [append_nil] at key
      exact .inl ⟨String.toList_inj.mp key, String.toList_inj.mp (List.cons.inj same).2⟩
    · refine .inr (.inr ⟨String.ofList within, ?_, ?_⟩) <;> apply String.toList_inj.mp
      · simpa using key
      · simpa using same
  · rintro ⟨step, ⟨key, same⟩ | ⟨tail, key, same⟩ | ⟨tail, key, same⟩⟩ <;>
      rw [step, key, same] <;> simp

/-- With an identity key the id shows the generation and that key. -/
theorem same_of_identity_eq {identityKey otherKey : String}
    (given : first.commandIdentityKey = some identityKey)
    (other : second.commandIdentityKey = some otherKey) (same : first.identity = second.identity) :
    first.rule.lifecycleGeneration = second.rule.lifecycleGeneration ∧
      first.commandIdentityKey = second.commandIdentityKey := by
  simp only [identity, given, other] at same
  have texts := congrArg String.toList same
  simp only [String.toList_append, Nat.repr, String.toList_ofList, append_assoc] at texts
  obtain ⟨digits, keys⟩ := append_separator_inj (not_mem_toDigits rfl _) (not_mem_toDigits rfl _)
    (append_cancel_left texts)
  exact ⟨toDigits_ten_injective digits, by rw [given, other, String.toList_inj.mp keys]⟩

theorem Straddles.key_ne (straddles : first.Straddles second) :
    first.rule.idempotencyKey ≠ second.rule.idempotencyKey := by
  obtain ⟨tail, key, -⟩ := straddles
  intro same
  have lengths := congrArg String.length (same.trans key)
  have colon : ":".length = 1 := rfl
  rw [String.length_append, String.length_append] at lengths
  omega

/-- The command id tells two steps apart unless a key of one reaches into the other id or an
execution id stands in for what tells them apart. -/
theorem step_command_id_distinct_iff (first second : StepExecution) :
    (first.stepCommandId = second.stepCommandId → first.Same second) ↔
      ¬ (first.stepIndex = second.stepIndex ∧ (first.Straddles second ∨ second.Straddles first ∨
        first.SharesExecutionId second)) := by
  rw [stepCommandId_eq_iff]
  constructor
  · rintro told ⟨step, straddles | straddles | ⟨key, same, -, differ⟩⟩
    · exact straddles.key_ne (told ⟨step, .inr (.inl straddles)⟩).1
    · exact straddles.key_ne (told ⟨step, .inr (.inr straddles)⟩).1.symm
    · obtain ⟨-, generation, keys, -⟩ := told ⟨step, .inl ⟨key, same⟩⟩
      exact differ.elim (absurd generation) (absurd keys)
  · rintro apart ⟨step, ⟨key, same⟩ | straddles | straddles⟩
    · by_contra different
      have differ : first.rule.lifecycleGeneration ≠ second.rule.lifecycleGeneration ∨
          first.commandIdentityKey ≠ second.commandIdentityKey := by
        rw [← not_and_or]
        exact fun agree => different ⟨key, agree.1, agree.2, step⟩
      cases given : first.commandIdentityKey with
      | none => exact apart ⟨step, .inr (.inr ⟨key, same, .inl given, differ⟩)⟩
      | some =>
        cases other : second.commandIdentityKey with
        | none => exact apart ⟨step, .inr (.inr ⟨key, same, .inr other, differ⟩)⟩
        | some =>
          obtain ⟨generation, keys⟩ := same_of_identity_eq given other same
          exact different ⟨key, generation, keys, step⟩
    · exact absurd ⟨step, .inl straddles⟩ apart
    · exact absurd ⟨step, .inr (.inl straddles)⟩ apart

/-- The evidence of the first rule holds the key, generation and evidence of the second. -/
theorem evidence_collides : ∃ first second : StepExecution,
    first.stepCommandId = second.stepCommandId ∧
      first.rule.idempotencyKey ≠ second.rule.idempotencyKey :=
  ⟨⟨{ OrchestrationSession.watchRule 0 with idempotencyKey := "a" }, some "b:g1:c", "", 0⟩,
    ⟨{ OrchestrationSession.watchRule 0 with idempotencyKey := "a:g1:b" }, some "c", "", 0⟩,
    by decide, by decide⟩

end StepExecution

end Rub
