import Mathlib.Data.List.DropRight
import Rub.NumberedLog

/-!
Queues bounded by a number of entries and by a number of bytes. What exceeds a bound is
removed from the front, but the newest entry stays whatever its size.
-/

namespace Rub

open List

variable {α : Type}

/-- The loop that removes the oldest entries while a bound is exceeded; the first component
is the number of bytes left. -/
def trimOldest (maxEntries maxBytes : Nat) (bytes : α → Nat) : Nat → List α → Nat × List α
  | total, [] => (total, [])
  | total, oldest :: rest =>
    if maxEntries < rest.length + 1 ∨ (maxBytes < total ∧ 1 < rest.length + 1) then
      trimOldest maxEntries maxBytes bytes (total - bytes oldest) rest
    else (total, oldest :: rest)

variable {maxEntries maxBytes : Nat} {bytes : α → Nat}

theorem trimOldest_suffix (total : Nat) (entries : List α) :
    (trimOldest maxEntries maxBytes bytes total entries).2 <:+ entries := by
  induction entries generalizing total with
  | nil => exact suffix_rfl
  | cons _ _ ih =>
    unfold trimOldest
    split
    · exact (ih _).trans (suffix_cons _ _)
    · exact suffix_rfl

theorem trimOldest_ne_nil (positive : 0 < maxEntries) (total : Nat) {entries : List α}
    (filled : entries ≠ []) : (trimOldest maxEntries maxBytes bytes total entries).2 ≠ [] := by
  induction entries generalizing total with
  | nil => exact absurd rfl filled
  | cons _ _ ih =>
    unfold trimOldest
    split
    · rename_i exceeded
      apply ih
      intro alone
      subst alone
      simp only [length_nil] at exceeded
      omega
    · exact cons_ne_nil _ _

variable {kept entries : List α}

theorem rtake_of_suffix (suffix : kept <:+ entries) {count : Nat}
    (enough : count ≤ kept.length) : kept.rtake count = entries.rtake count := by
  obtain ⟨front, rfl⟩ := suffix
  rw [rtake_eq_reverse_take_reverse, rtake_eq_reverse_take_reverse,
    reverse_append, take_append_of_le_length (by simpa using enough)]

theorem rtake_of_length_le {count : Nat} (few : entries.length ≤ count) :
    entries.rtake count = entries := by
  unfold List.rtake
  rw [Nat.sub_eq_zero_of_le few, drop_zero]

theorem rtake_rtake (entries : List α) {count limit : Nat} (fewer : count ≤ limit) :
    (entries.rtake limit).rtake count = entries.rtake count := by
  rw [rtake_eq_reverse_take_reverse, rtake_eq_reverse_take_reverse,
    rtake_eq_reverse_take_reverse, reverse_reverse, take_take,
    Nat.min_eq_left fewer]

/-- Keeping the newest entries after each addition keeps the newest of all. -/
theorem rtake_append_singleton (entries : List α) (newest : α) (limit : Nat) :
    (entries.rtake limit ++ [newest]).rtake limit = (entries ++ [newest]).rtake limit := by
  cases limit with
  | zero => rw [rtake_zero, rtake_zero]
  | succ limit =>
    rw [rtake_concat_succ, rtake_concat_succ, rtake_rtake entries (Nat.le_succ limit)]

theorem length_rtake (entries : List α) (count : Nat) :
    (entries.rtake count).length = min count entries.length := by
  unfold List.rtake
  rw [length_drop]
  omega

theorem rtake_suffix (entries : List α) (count : Nat) : entries.rtake count <:+ entries :=
  drop_suffix _ _

/-- The number of the oldest entry that is left says how many were removed. -/
theorem evicted_of_oldest {number : α → Nat}
    (numbered : Numbered number entries) (suffix : kept <:+ entries)
    (nonempty : entries ≠ [] → kept ≠ []) :
    ((kept.head?.map number).map fun oldest => oldest - 1).getD 0 =
      entries.length - kept.length := by
  obtain ⟨front, rfl⟩ := suffix
  cases kept with
  | nil =>
    cases front with
    | nil => rfl
    | cons => exact absurd rfl (nonempty (cons_ne_nil _ _))
  | cons =>
    have numbers := congrArg (fun list => list[front.length]?) numbered
    simp only [map_append, map_cons, length_append, length_cons] at numbers
    rw [List.getElem?_append_right (by simp), length_map, Nat.sub_self,
      List.getElem?_cons_zero, List.getElem?_range' (by omega), Option.some.injEq] at numbers
    simp only [List.head?_cons, Option.map_some, Option.getD_some, length_append, length_cons]
    omega

/-- A selection of the last entries that the window did not cut short is the selection from
all the entries. -/
theorem rtake_window (suffix : kept <:+ entries) {last : Nat}
    (enough : entries.length - kept.length = 0 ∨ last ≤ kept.length) :
    kept.rtake (min last kept.length) = entries.rtake last := by
  rcases enough with whole | enough
  · have same : kept = entries := suffix.eq_of_length (by have := suffix.length_le; omega)
    subst same
    by_cases few : last ≤ kept.length
    · rw [Nat.min_eq_left few]
    · rw [Nat.min_eq_right (by omega), rtake_of_length_le (Nat.le_refl _),
        rtake_of_length_le (by omega)]
  · rw [Nat.min_eq_left enough, rtake_of_suffix suffix enough]

theorem rtake_map {β : Type} (change : α → β) (entries : List α) (count : Nat) :
    (entries.map change).rtake count = (entries.rtake count).map change := by
  unfold List.rtake
  rw [length_map, map_drop]

end Rub
