import Mathlib.Data.List.Nodup

/-!
A registry of numbered rules in registration order. A rule keeps its number for life, and
a number that was given once is not given again.
-/

namespace Rub

open List

structure RuleRegistry (Rule : Type) (number : Rule → Nat) where
  rules : List Rule
  nextId : Nat
  distinct : (rules.map number).Nodup
  below : ∀ rule ∈ rules, number rule < nextId

namespace RuleRegistry

variable {Rule : Type} {number : Rule → Nat}

def empty (nextId : Nat) : RuleRegistry Rule number :=
  { rules := [], nextId := nextId, distinct := nodup_nil, below := by simp }

def find (registry : RuleRegistry Rule number) (id : Nat) : Option Rule :=
  registry.rules.find? fun rule => number rule = id

def editAll (registry : RuleRegistry Rule number) (edit : Rule → Rule)
    (keeps : ∀ rule, number (edit rule) = number rule) : RuleRegistry Rule number :=
  { rules := registry.rules.map edit
    nextId := registry.nextId
    distinct := by
      rw [map_map, show number ∘ edit = number from funext keeps]
      exact registry.distinct
    below := by
      intro rule member
      obtain ⟨old, inside, rfl⟩ := mem_map.mp member
      rw [keeps]
      exact registry.below old inside }

def edit (registry : RuleRegistry Rule number) (id : Nat) (change : Rule → Rule)
    (keeps : ∀ rule, number (change rule) = number rule) : RuleRegistry Rule number :=
  registry.editAll (fun rule => if number rule = id then change rule else rule) (by
    intro rule
    split
    · exact keeps rule
    · rfl)

/-- The rule that the next number was given to, at the end. -/
def register (registry : RuleRegistry Rule number) (rule : Rule)
    (numbered : number rule = registry.nextId) : RuleRegistry Rule number :=
  { rules := registry.rules ++ [rule]
    nextId := registry.nextId + 1
    distinct := by
      rw [map_append, map_singleton]
      refine List.Nodup.append registry.distinct (nodup_singleton _) ?_
      intro id member single
      obtain ⟨old, inside, rfl⟩ := mem_map.mp member
      have older := registry.below old inside
      rw [mem_singleton.mp single, numbered] at older
      exact Nat.lt_irrefl _ older
    below := by
      intro other member
      rcases mem_append.mp member with old | new
      · exact Nat.lt_succ_of_lt (registry.below other old)
      · rw [mem_singleton.mp new, numbered]
        exact Nat.lt_succ_self _ }

/-- A number is given away without a rule. -/
def skip (registry : RuleRegistry Rule number) : RuleRegistry Rule number :=
  { registry with
    nextId := registry.nextId + 1
    below := fun rule member => Nat.lt_succ_of_lt (registry.below rule member) }

def remove (registry : RuleRegistry Rule number) (id : Nat) : RuleRegistry Rule number :=
  { rules := registry.rules.filter fun rule => number rule ≠ id
    nextId := registry.nextId
    distinct := registry.distinct.sublist (filter_sublist.map number)
    below := fun rule member => registry.below rule (mem_of_mem_filter member) }

variable {registry : RuleRegistry Rule number} {rule : Rule} {id : Nat}

theorem number_of_find (found : registry.find id = some rule) : number rule = id := by
  simpa using find?_some found

theorem mem_of_find (found : registry.find id = some rule) :
    rule ∈ registry.rules := mem_of_find?_eq_some found

/-- Where numbers are distinct, a rule is the one found under its number. -/
theorem find?_number_of_mem {rules : List Rule} (distinct : (rules.map number).Nodup)
    (member : rule ∈ rules) :
    (rules.find? fun other => number other = number rule) = some rule := by
  cases found : rules.find? fun other => number other = number rule with
  | none =>
    have unlike := find?_eq_none.mp found rule member
    simp at unlike
  | some other =>
    have number_eq : number other = number rule := by simpa using find?_some found
    rw [inj_on_of_nodup_map distinct (mem_of_find?_eq_some found) member number_eq]

theorem find_of_mem (member : rule ∈ registry.rules) :
    registry.find (number rule) = some rule := find?_number_of_mem registry.distinct member

theorem find_none_of_le (unused : registry.nextId ≤ id) : registry.find id = none := by
  cases found : registry.find id with
  | none => rfl
  | some rule =>
    have older := registry.below rule (mem_of_find found)
    rw [number_of_find found] at older
    omega

theorem find_editAll (id : Nat) (edit : Rule → Rule)
    (keeps : ∀ rule, number (edit rule) = number rule) :
    (registry.editAll edit keeps).find id = (registry.find id).map edit := by
  unfold find editAll
  rw [find?_map]
  congr 1
  refine congrArg (fun test => find? test registry.rules) (funext fun rule => ?_)
  simp [keeps]

theorem find_edit_self (id : Nat) (change : Rule → Rule)
    (keeps : ∀ rule, number (change rule) = number rule) :
    (registry.edit id change keeps).find id = (registry.find id).map change := by
  rw [edit, find_editAll]
  cases found : registry.find id with
  | none => rfl
  | some => simp [number_of_find found]

theorem find_edit_of_ne {id other : Nat} (different : other ≠ id) (change : Rule → Rule)
    (keeps : ∀ rule, number (change rule) = number rule) :
    (registry.edit id change keeps).find other = registry.find other := by
  rw [edit, find_editAll]
  cases found : registry.find other with
  | none => rfl
  | some => simp [number_of_find found, different]

theorem related_of_find_edit {Related : Rule → Rule → Prop} (reflexive : ∀ rule, Related rule rule)
    {other : Nat} (change : Rule → Rule) (keeps : ∀ rule, number (change rule) = number rule)
    (related : ∀ old, registry.find id = some old → Related old (change old))
    (found : (registry.edit id change keeps).find other = some rule) :
    ∃ old, registry.find other = some old ∧ Related old rule := by
  by_cases same : other = id
  · subst same
    rw [find_edit_self] at found
    obtain ⟨old, was, rfl⟩ := Option.map_eq_some_iff.mp found
    exact ⟨old, was, related old was⟩
  · rw [find_edit_of_ne same] at found
    exact ⟨rule, found, reflexive rule⟩

theorem find_register (rule : Rule) (numbered : number rule = registry.nextId) (id : Nat) :
    (registry.register rule numbered).find id =
      if id = registry.nextId then some rule else registry.find id := by
  show (registry.rules ++ [rule]).find? _ = _
  rw [find?_append]
  by_cases new : id = registry.nextId
  · have unused : registry.find id = none := find_none_of_le (Nat.le_of_eq new.symm)
    show ((registry.find id).or _) = _
    rw [unused]
    simp [numbered, new]
  · rw [if_neg new]
    show ((registry.find id).or _) = _
    have other : registry.nextId ≠ id := fun same => new same.symm
    cases registry.find id <;> simp [numbered, other]

theorem find_remove_self (id : Nat) : (registry.remove id).find id = none := by
  refine find?_eq_none.mpr fun rule member => ?_
  simpa using (mem_filter.mp member).2

theorem find_remove_of_ne {id other : Nat} (different : other ≠ id) :
    (registry.remove id).find other = registry.find other := by
  show (registry.rules.filter _).find? _ = registry.rules.find? _
  rw [find?_filter]
  refine congrArg (fun test => find? test registry.rules) (funext fun rule => ?_)
  by_cases hit : number rule = other
  · simp [hit, different]
  · simp [hit]

end RuleRegistry

end Rub
