import Mathlib.Data.Finset.Card

/-!
Names that are kept apart. A search tries numbered candidates until one is not taken; it ends
because a finite set cannot hold them all. A list of names is told apart by numbering the
repeats, which is enough unless a numbered name is in the list itself.
-/

namespace Rub

open List

section Search

variable {α : Type} [DecidableEq α] {taken : Finset α} {candidate : Nat → α}

/-- The first candidate that is not taken, of as many as there is fuel. -/
def firstFree (taken : Finset α) (candidate : Nat → α) : Nat → Nat → Option α
  | 0, _ => none
  | fuel + 1, start =>
    if candidate start ∈ taken then firstFree taken candidate fuel (start + 1)
    else some (candidate start)

theorem firstFree_eq_some {fuel start : Nat} {name : α}
    (found : firstFree taken candidate fuel start = some name) :
    name ∉ taken ∧ ∃ turn, name = candidate turn := by
  induction fuel generalizing start with
  | zero => cases found
  | succ _ ih =>
    unfold firstFree at found
    split at found
    · exact ih found
    · rename_i free
      cases found
      exact ⟨free, start, rfl⟩

theorem mem_of_firstFree_eq_none {fuel start : Nat}
    (exhausted : firstFree taken candidate fuel start = none) :
    ∀ index < fuel, candidate (start + index) ∈ taken := by
  induction fuel generalizing start with
  | zero => exact fun index less => absurd less (Nat.not_lt_zero index)
  | succ _ ih =>
    unfold firstFree at exhausted
    split at exhausted
    · rename_i held
      intro index less
      cases index with
      | zero => exact held
      | succ index =>
        have later := ih exhausted index (by omega)
        rwa [show start + 1 + index = start + (index + 1) by omega] at later
    · cases exhausted

/-- Distinct candidates are not all taken when there are more of them than taken names. -/
theorem exists_firstFree (injective : Function.Injective candidate) (start : Nat) :
    ∃ name, firstFree taken candidate (taken.card + 1) start = some name := by
  cases found : firstFree taken candidate (taken.card + 1) start with
  | some name => exact ⟨name, rfl⟩
  | none =>
    have held := mem_of_firstFree_eq_none found
    have inside : (Finset.range (taken.card + 1)).image (fun index => candidate (start + index)) ⊆
        taken := by
      intro name member
      obtain ⟨index, listed, rfl⟩ := Finset.mem_image.mp member
      exact held index (Finset.mem_range.mp listed)
    have distinct : Function.Injective fun index => candidate (start + index) :=
      fun left right same => Nat.add_left_cancel (injective same)
    have size := Finset.card_le_card inside
    rw [Finset.card_image_of_injective _ distinct, Finset.card_range] at size
    omega

end Search

variable {α : Type} [DecidableEq α] {number : α → Nat → α}

/-- The names with the number of the occurrence, where some were seen before. -/
def occurrences (seen : List α) : List α → List (α × Nat)
  | [] => []
  | name :: names => (name, seen.count name + 1) :: occurrences (name :: seen) names

/-- The first occurrence keeps the name, a later one is numbered. -/
def numberedName (number : α → Nat → α) (occurrence : α × Nat) : α :=
  if occurrence.2 = 1 then occurrence.1 else number occurrence.1 occurrence.2

def numberRepeats (number : α → Nat → α) (names : List α) : List α :=
  (occurrences [] names).map (numberedName number)

theorem mem_occurrences {seen names : List α} {name : α} {turn : Nat} :
    (name, turn) ∈ occurrences seen names ↔
      seen.count name < turn ∧ turn ≤ seen.count name + names.count name := by
  induction names generalizing seen with
  | nil =>
    simp only [occurrences, not_mem_nil, count_nil, false_iff]
    omega
  | cons head _ ih =>
    rw [occurrences, mem_cons, ih, Prod.mk.injEq]
    by_cases same : head = name
    · subst same
      simp only [count_cons_self, true_and]
      omega
    · simp only [count_cons_of_ne (fun other => same other)]
      constructor
      · rintro (⟨rfl, -⟩ | held)
        · exact absurd rfl same
        · exact held
      · exact .inr

theorem occurrences_nodup (seen names : List α) : (occurrences seen names).Nodup := by
  induction names generalizing seen with
  | nil => exact nodup_nil
  | cons name _ ih =>
    refine nodup_cons.mpr ⟨fun again => ?_, ih (name :: seen)⟩
    have later := (mem_occurrences.mp again).1
    rw [count_cons_self] at later
    omega

/-- Numbering tells the names apart exactly when no number makes a name of the list. -/
theorem numberRepeats_nodup_iff {names : List α}
    (injective : ∀ left ∈ names, ∀ right ∈ names, ∀ turn other,
      number left turn = number right other → left = right ∧ turn = other) :
    (numberRepeats number names).Nodup ↔
      ∀ name ∈ names, ∀ turn, 2 ≤ turn → turn ≤ names.count name → number name turn ∉ names := by
  have listed : ∀ {name turn}, (name, turn) ∈ occurrences [] names ↔
      0 < turn ∧ turn ≤ names.count name := by
    intro name turn
    rw [mem_occurrences, count_nil, Nat.zero_add]
  have named : ∀ {name turn}, (name, turn) ∈ occurrences [] names → name ∈ names := by
    intro name turn member
    have bounds := listed.mp member
    exact count_pos_iff.mp (by omega)
  rw [numberRepeats, nodup_map_iff_inj_on (occurrences_nodup [] names)]
  constructor
  · intro apart name member turn repeated counted clash
    -- The numbered repeat and the first occurrence of the name it hits are two occurrences.
    have first : (number name turn, 1) ∈ occurrences [] names :=
      listed.mpr ⟨Nat.one_pos, count_pos_iff.mpr clash⟩
    have later : (name, turn) ∈ occurrences [] names := listed.mpr ⟨by omega, counted⟩
    have equal := apart _ later _ first (by
      unfold numberedName
      rw [if_neg (show ¬turn = 1 by omega), if_pos rfl])
    have turns := congrArg Prod.snd equal
    simp only at turns
    omega
  · rintro free ⟨left, turn⟩ leftMember ⟨right, other⟩ rightMember same
    have leftBounds := listed.mp leftMember
    have rightBounds := listed.mp rightMember
    unfold numberedName at same
    by_cases leftFirst : turn = 1
    · by_cases rightFirst : other = 1
      · rw [if_pos leftFirst, if_pos rightFirst] at same
        rw [leftFirst, rightFirst, show left = right from same]
      · rw [if_pos leftFirst, if_neg rightFirst] at same
        refine absurd (named leftMember) ?_
        rw [show left = number right other from same]
        exact free right (named rightMember) other (by omega) rightBounds.2
    · by_cases rightFirst : other = 1
      · rw [if_neg leftFirst, if_pos rightFirst] at same
        refine absurd (named rightMember) ?_
        rw [show right = number left turn from same.symm]
        exact free left (named leftMember) turn (by omega) leftBounds.2
      · rw [if_neg leftFirst, if_neg rightFirst] at same
        obtain ⟨rfl, rfl⟩ := injective left (named leftMember) right (named rightMember) turn other
          same
        rfl

end Rub
