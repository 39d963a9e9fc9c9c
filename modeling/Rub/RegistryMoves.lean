import Rub.RuleRegistry

/-!
How a registry of numbered rules moves. Every rule that is left comes from one it is related
to, so what a transitive relation says of an earlier reading of a rule stays true of the live
rule for as long as there is one.
-/

namespace Rub.RuleRegistry

variable {Rule : Type} {number : Rule → Nat} {Related : Rule → Rule → Prop}

structure Moves (Related : Rule → Rule → Prop) (before after : RuleRegistry Rule number) :
    Prop where
  nextId : before.nextId ≤ after.nextId
  rule : ∀ id live, id < before.nextId → after.find id = some live →
    ∃ old, before.find id = some old ∧ Related old live

/-- A move that registers no rule. -/
structure Edits (Related : Rule → Rule → Prop) (before after : RuleRegistry Rule number) :
    Prop where
  nextId : after.nextId = before.nextId
  rule : ∀ id live, after.find id = some live → ∃ old, before.find id = some old ∧ Related old live

/-- What an earlier reading of a rule says about the live rule. -/
structure Reading (Related : Rule → Rule → Prop) (registry : RuleRegistry Rule number)
    (rule : Rule) : Prop where
  known : number rule < registry.nextId
  current : ∀ live, registry.find (number rule) = some live → Related rule live

section Operations

variable (registry : RuleRegistry Rule number)

theorem edits_self (reflexive : ∀ rule, Related rule rule) : Edits Related registry registry :=
  ⟨rfl, fun _ live found => ⟨live, found, reflexive live⟩⟩

theorem edits_editAll (edit : Rule → Rule) (keeps : ∀ rule, number (edit rule) = number rule)
    (related : ∀ rule, Related rule (edit rule)) :
    Edits Related registry (registry.editAll edit keeps) := by
  refine ⟨rfl, fun id live found => ?_⟩
  rw [find_editAll] at found
  obtain ⟨old, was, rfl⟩ := Option.map_eq_some_iff.mp found
  exact ⟨old, was, related old⟩

variable (reflexive : ∀ rule, Related rule rule)

include reflexive

theorem edits_edit (id : Nat) (change : Rule → Rule)
    (keeps : ∀ rule, number (change rule) = number rule)
    (related : ∀ old, registry.find id = some old → Related old (change old)) :
    Edits Related registry (registry.edit id change keeps) :=
  ⟨rfl, fun _ _ found => related_of_find_edit reflexive change keeps related found⟩

theorem moves_register (rule : Rule) (numbered : number rule = registry.nextId) :
    Moves Related registry (registry.register rule numbered) := by
  refine ⟨Nat.le_succ _, fun id live known found => ⟨live, ?_, reflexive live⟩⟩
  rwa [find_register, if_neg (Nat.ne_of_lt known)] at found

theorem moves_skip : Moves Related registry registry.skip :=
  ⟨Nat.le_succ _, fun _ live _ found => ⟨live, found, reflexive live⟩⟩

theorem edits_remove (id : Nat) : Edits Related registry (registry.remove id) := by
  refine ⟨rfl, fun other live found => ⟨live, ?_, reflexive live⟩⟩
  by_cases same : other = id
  · subst same
    rw [find_remove_self] at found
    cases found
  · rwa [find_remove_of_ne same] at found

end Operations

variable {registry before after : RuleRegistry Rule number} {rule : Rule}

theorem Edits.moves (edits : Edits Related before after) : Moves Related before after :=
  ⟨Nat.le_of_eq edits.nextId.symm, fun id live _ found => edits.rule id live found⟩

theorem Edits.mono {Weaker : Rule → Rule → Prop} (edits : Edits Related before after)
    (weaker : ∀ old new, Related old new → Weaker old new) : Edits Weaker before after := by
  refine ⟨edits.nextId, fun id live found => ?_⟩
  obtain ⟨old, was, related⟩ := edits.rule id live found
  exact ⟨old, was, weaker old live related⟩

theorem lt_nextId_of_find {id : Nat} (found : registry.find id = some rule) :
    id < registry.nextId := by
  have below := registry.below rule (mem_of_find found)
  rwa [number_of_find found] at below

theorem reading_of_find (reflexive : ∀ rule, Related rule rule) {id : Nat}
    (found : registry.find id = some rule) : Reading Related registry rule := by
  have own := number_of_find found
  refine ⟨own ▸ lt_nextId_of_find found, fun live again => ?_⟩
  rw [own, found] at again
  cases again
  exact reflexive rule

theorem Reading.moves
    (transitive : ∀ oldest old new, Related oldest old → Related old new → Related oldest new)
    (reading : Reading Related before rule) (moves : Moves Related before after) :
    Reading Related after rule := by
  refine ⟨Nat.lt_of_lt_of_le reading.known moves.nextId, fun live found => ?_⟩
  obtain ⟨old, was, related⟩ := moves.rule _ live reading.known found
  exact transitive rule old live (reading.current old was) related

theorem Moves.trans {middle : RuleRegistry Rule number}
    (transitive : ∀ oldest old new, Related oldest old → Related old new → Related oldest new)
    (first : Moves Related before middle) (second : Moves Related middle after) :
    Moves Related before after := by
  refine ⟨Nat.le_trans first.nextId second.nextId, fun id live known found => ?_⟩
  obtain ⟨old, was, later⟩ := second.rule id live (Nat.lt_of_lt_of_le known first.nextId) found
  obtain ⟨oldest, began, earlier⟩ := first.rule id old known was
  exact ⟨oldest, began, transitive oldest old live earlier later⟩

theorem Moves.gone (moves : Moves Related before after) {id : Nat} (known : id < before.nextId)
    (gone : before.find id = none) : after.find id = none := by
  cases found : after.find id with
  | none => rfl
  | some live =>
    obtain ⟨old, was, _⟩ := moves.rule id live known found
    rw [gone] at was
    cases was

end Rub.RuleRegistry
