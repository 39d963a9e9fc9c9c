import Mathlib.Data.List.Forall2

/-!
An append-only log whose entries are numbered from 1, of which the newest entries are
retained, possibly amended since they were written. A cursor is the number of the last
entry written so far.
-/

namespace Rub

open List

variable {Item : Type}

/-- The entries carry the numbers 1, 2, 3 and so on. -/
def Numbered (number : Item → Nat) (log : List Item) : Prop :=
  log.map number = List.range' 1 log.length

variable {number : Item → Nat} {log : List Item}

theorem Numbered.append_singleton {item : Item} (numbered : Numbered number log)
    (next : number item = log.length + 1) :
    Numbered number (log ++ [item]) := by
  unfold Numbered at numbered ⊢
  rw [map_append, numbered, length_append, map_singleton, length_singleton,
    List.range'_1_concat, next, Nat.add_comm 1]

theorem Numbered.drop (numbered : Numbered number log) (evicted : Nat) :
    (log.drop evicted).map number = List.range' (evicted + 1) (log.drop evicted).length := by
  rw [map_drop, numbered, drop_range', length_drop]
  congr 1
  omega

/-- What remains of a log whose first `evicted` entries are gone; `Shown` says how a kept
entry relates to the one that was written. -/
structure Retains (Shown : Item → Item → Prop) (log : List Item) (evicted : Nat)
    (kept : List Item) : Prop where
  evicted_le : evicted ≤ log.length
  shown : List.Forall₂ Shown (log.drop evicted) kept

namespace Retains

variable {Shown : Item → Item → Prop} {log kept : List Item} {evicted : Nat}

theorem nil (Shown : Item → Item → Prop) : Retains Shown [] 0 [] := ⟨Nat.le_refl _, .nil⟩

theorem push (retains : Retains Shown log evicted kept) {item : Item} (same : Shown item item) :
    Retains Shown (log ++ [item]) evicted (kept ++ [item]) := by
  have within := retains.evicted_le
  refine ⟨?_, ?_⟩
  · rw [length_append]
    omega
  · rw [drop_append_of_le_length within]
    exact rel_append retains.shown (.cons same .nil)

variable {rest : List Item} {oldest : Item}

theorem evict (retains : Retains Shown log evicted (oldest :: rest)) :
    Retains Shown log (evicted + 1) rest := by
  obtain ⟨within, shown⟩ := retains
  cases remaining : log.drop evicted with
  | nil =>
    rw [remaining] at shown
    cases shown
  | cons _ later =>
    rw [remaining] at shown
    have dropped : log.drop (evicted + 1) = later := by
      rw [← drop_drop, remaining]
      rfl
    have room : 0 < (log.drop evicted).length := by
      rw [remaining]
      exact Nat.succ_pos _
    rw [length_drop] at room
    refine ⟨by omega, ?_⟩
    rw [dropped]
    exact (forall₂_cons.mp shown).2

theorem amend (retains : Retains Shown log evicted kept) {amended : Item → Item}
    (keeps : ∀ written now, Shown written now → Shown written (amended now)) :
    Retains Shown log evicted (kept.map amended) := by
  refine ⟨retains.evicted_le, ?_⟩
  rw [forall₂_map_right_iff]
  exact retains.shown.imp keeps

theorem number_head
    (retains : Retains Shown log evicted (oldest :: rest)) (numbered : Numbered number log)
    (sameNumber : ∀ written now, Shown written now → number now = number written) :
    number oldest = evicted + 1 := by
  have remaining := numbered.drop evicted
  cases present : log.drop evicted with
  | nil =>
    have shown := retains.shown
    rw [present] at shown
    cases shown
  | cons first =>
    have shown := retains.shown
    rw [present] at shown
    rw [present, map_cons, length_cons, List.range'_succ, List.cons.injEq] at remaining
    rw [sameNumber first oldest (forall₂_cons.mp shown).1, remaining.1]

theorem filter_between (cursor endCursor : Nat) (items : List Item) :
    ∀ start, items.map number = List.range' start items.length →
    items.filter (fun item => cursor < number item ∧ number item ≤ endCursor) =
      (items.take (endCursor + 1 - start)).drop (cursor + 1 - start) := by
  induction items with
  | nil =>
    intro start numbered
    simp
  | cons _ _ ih =>
    intro start numbered
    rw [map_cons, length_cons, List.range'_succ, List.cons.injEq] at numbered
    have rest := ih (start + 1) numbered.2
    by_cases upper : start ≤ endCursor
    · have window : endCursor + 1 - start = (endCursor + 1 - (start + 1)) + 1 := by omega
      rw [window, take_succ_cons]
      by_cases lower : cursor < start
      · have whole : cursor + 1 - start = 0 := by omega
        have later : cursor + 1 - (start + 1) = 0 := by omega
        rw [filter_cons_of_pos (by simp [numbered.1, lower, upper]), rest, whole, later]
        rfl
      · have skipped : cursor + 1 - start = (cursor + 1 - (start + 1)) + 1 := by omega
        rw [filter_cons_of_neg (by simp [numbered.1, lower]), rest, skipped, drop_succ_cons]
    · have none : endCursor + 1 - start = 0 := by omega
      have noneLater : endCursor + 1 - (start + 1) = 0 := by omega
      rw [filter_cons_of_neg (by simp [numbered.1, upper]), rest, none, noneLater]
      simp

/-- What a window of a retained log shows, when nothing after its cursor has been evicted:
the entries written between the two cursors, in order. -/
theorem window (retains : Retains Shown log evicted kept) (numbered : Numbered number log)
    (sameNumber : ∀ written now, Shown written now → number now = number written) {cursor : Nat}
    (enough : evicted ≤ cursor) (endCursor : Nat) :
    List.Forall₂ Shown ((log.take endCursor).drop cursor)
      (kept.filter fun item => cursor < number item ∧ number item ≤ endCursor) := by
  have written : (log.drop evicted).filter
      (fun item => cursor < number item ∧ number item ≤ endCursor) =
      (log.take endCursor).drop cursor := by
    rw [filter_between cursor endCursor _ (evicted + 1) (numbered.drop evicted),
      drop_take, drop_take, drop_drop]
    congr 1
    · omega
    · congr 1
      omega
  rw [← written]
  refine rel_filter ?_ retains.shown
  intro first second same
  simp [sameNumber first second same]

end Retains

end Rub
