import Mathlib.Data.Finset.Card
import Mathlib.Order.Bounds.Basic

/-!
Positive numbers recorded in any order, with the length of the prefix that is complete.
The numbers above the first gap are kept aside until the gap closes.
-/

namespace Rub

open Finset

@[ext]
structure Watermark where
  low : Nat
  above : Finset Nat
  /-- The prefix is as long as it can be. -/
  gap : ∀ n ∈ above, low + 1 < n

namespace Watermark

def empty : Watermark := { low := 0, above := ∅, gap := by simp }

/-- The loop that moves the prefix on over numbers that were kept aside. -/
def advance : Nat → Nat → Finset Nat → Nat × Finset Nat
  | 0, low, above => (low, above)
  | fuel + 1, low, above =>
    if low + 1 ∈ above then advance fuel (low + 1) (above.erase (low + 1)) else (low, above)

/-- A number is recorded: it is in the prefix or kept aside. -/
def Covers (mark : Watermark) (n : Nat) : Prop := (0 < n ∧ n ≤ mark.low) ∨ n ∈ mark.above

theorem advance_gap {fuel low : Nat} {above : Finset Nat} (enough : above.card ≤ fuel)
    (beyond : ∀ n ∈ above, low < n) :
    ∀ n ∈ (advance fuel low above).2, (advance fuel low above).1 + 1 < n := by
  induction fuel generalizing low above with
  | zero =>
    have none : above = ∅ := card_eq_zero.mp (Nat.le_zero.mp enough)
    simp [advance, none]
  | succ _ ih =>
    unfold advance
    split
    · rename_i next
      apply ih
      · rw [card_erase_of_mem next]
        omega
      · intro n member
        obtain ⟨other, member⟩ := mem_erase.mp member
        have := beyond n member
        omega
    · rename_i next
      intro n member
      have far := beyond n member
      have other : n ≠ low + 1 := fun same => next (same ▸ member)
      show low + 1 < n
      omega

theorem le_advance (fuel low : Nat) (above : Finset Nat) : low ≤ (advance fuel low above).1 := by
  induction fuel generalizing low above with
  | zero => exact le_rfl
  | succ _ ih =>
    unfold advance
    split
    · exact le_trans (Nat.le_succ low) (ih (low + 1) _)
    · exact le_rfl

theorem advance_covers (fuel low : Nat) (above : Finset Nat) (n : Nat) :
    ((0 < n ∧ n ≤ (advance fuel low above).1) ∨ n ∈ (advance fuel low above).2) ↔
      ((0 < n ∧ n ≤ low) ∨ n ∈ above) := by
  induction fuel generalizing low above with
  | zero => exact Iff.rfl
  | succ _ ih =>
    unfold advance
    split
    · rename_i next
      rw [ih, mem_erase]
      constructor
      · rintro (⟨positive, within⟩ | ⟨_, member⟩)
        · by_cases last : n = low + 1
          · exact .inr (last ▸ next)
          · exact .inl ⟨positive, by omega⟩
        · exact .inr member
      · rintro (⟨positive, within⟩ | member)
        · exact .inl ⟨positive, by omega⟩
        · by_cases last : n = low + 1
          · exact .inl (by omega)
          · exact .inr ⟨last, member⟩
    · exact Iff.rfl

def record (mark : Watermark) (n : Nat) : Watermark :=
  if recorded : n ≤ mark.low then mark
  else
    let above := insert n mark.above
    let advanced := advance above.card mark.low above
    { low := advanced.1
      above := advanced.2
      gap := advance_gap le_rfl (by
        intro m member
        rcases Finset.mem_insert.mp member with rfl | member
        · omega
        · have := mark.gap m member
          omega) }

section

variable (mark : Watermark)

include mark

theorem covers_record {n : Nat} (positive : 0 < n) (m : Nat) :
    (mark.record n).Covers m ↔ mark.Covers m ∨ m = n := by
  unfold record
  split
  · rename_i recorded
    constructor
    · exact .inl
    · rintro (covered | rfl)
      · exact covered
      · exact .inl ⟨positive, recorded⟩
  · show (_ ∨ _) ↔ _
    rw [advance_covers, mem_insert]
    unfold Covers
    tauto

theorem low_le_record (n : Nat) : mark.low ≤ (mark.record n).low := by
  unfold record
  split
  · exact le_rfl
  · exact le_advance ..

theorem covers_of_le {n : Nat} (positive : 0 < n) (within : n ≤ mark.low) :
    mark.Covers n := .inl ⟨positive, within⟩

theorem not_covers_succ_low : ¬ mark.Covers (mark.low + 1) := by
  rintro (⟨_, within⟩ | member)
  · omega
  · exact absurd (mark.gap _ member) (lt_irrefl _)

theorem le_low_of_complete {c : Nat} (complete : ∀ n, 0 < n → n ≤ c → mark.Covers n)
    : c ≤ mark.low := by
  by_contra longer
  exact mark.not_covers_succ_low (complete _ (Nat.succ_pos _) (by omega))

theorem isGreatest_low : IsGreatest {c | ∀ n, 0 < n → n ≤ c → mark.Covers n} mark.low :=
  ⟨fun _ positive within => mark.covers_of_le positive within,
    fun _ complete => mark.le_low_of_complete complete⟩

theorem record_succ_low (missing : mark.low + 2 ∉ mark.above) :
    (mark.record (mark.low + 1)).low = mark.low + 1 ∧
      (mark.record (mark.low + 1)).above = mark.above := by
  have absent : mark.low + 1 ∉ mark.above := fun member => by
    have := mark.gap _ member
    omega
  have fuel : (insert (mark.low + 1) mark.above).card = mark.above.card + 1 :=
    card_insert_of_notMem absent
  have erased : (insert (mark.low + 1) mark.above).erase (mark.low + 1) = mark.above :=
    erase_insert absent
  have stuck : ∀ fuel, advance fuel (mark.low + 1) mark.above = (mark.low + 1, mark.above) := by
    intro fuel
    cases fuel with
    | zero => rfl
    | succ => simp [advance, missing]
  unfold record
  split
  · omega
  · simp only [fuel, advance, mem_insert_self, if_true, erased, stuck, and_self]

/-- Recording the next numbers one after another, none of them kept aside. -/
theorem foldl_record_range' (count : Nat) (missing : ∀ n ∈ mark.above, mark.low + count + 1 < n) :
    ((List.range' (mark.low + 1) count).foldl record mark).low = mark.low + count ∧
      ((List.range' (mark.low + 1) count).foldl record mark).above = mark.above := by
  induction count generalizing mark with
  | zero => exact ⟨rfl, rfl⟩
  | succ _ ih =>
    have first := mark.record_succ_low fun member => by
      have := missing _ member
      omega
    have rest := ih (mark.record (mark.low + 1)) (by
      rw [first.1, first.2]
      intro n member
      have := missing n member
      omega)
    rw [first.1, first.2] at rest
    rw [List.range'_succ, List.foldl_cons, rest.1, rest.2]
    exact ⟨by omega, rfl⟩

end

@[simp] theorem not_covers_empty (n : Nat) : ¬ empty.Covers n := by
  rintro (⟨positive, within⟩ | member)
  · exact absurd positive (Nat.not_lt.mpr within)
  · simp [empty] at member

end Watermark

end Rub
