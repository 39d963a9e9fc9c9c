import Mathlib.Data.List.Basic

/-!
Logs in which later events end earlier ones. An event stands while nothing behind it has
ended it; a log separates events that clash when the first was ended before the second came.
-/

namespace Rub

open List

variable {Event : Type} {ends clash : Event → Event → Prop} {log : List Event}

/-- The event is in the log and nothing behind it ends it. -/
def Standing (ends : Event → Event → Prop) (log : List Event) (event : Event) : Prop :=
  ∃ before after, log = before ++ event :: after ∧ ∀ later ∈ after, ¬ ends event later

/-- Between two events that clash there is one that ends the first. -/
def Separated (ends clash : Event → Event → Prop) (log : List Event) : Prop :=
  ∀ before first between second after,
    log = before ++ first :: (between ++ second :: after) → clash first second →
      ∃ event ∈ between, ends first event

/-- Splitting a log that was appended to: the new event is the one asked for, or the split is
one of the log before. -/
theorem append_singleton_split {event marked : Event} {before after : List Event}
    (split : log ++ [event] = before ++ marked :: after) :
    (log = before ∧ event = marked ∧ after = []) ∨
      ∃ rest, after = rest ++ [event] ∧ log = before ++ marked :: rest := by
  rcases eq_nil_or_concat after with rfl | ⟨rest, last, rfl⟩
  · obtain ⟨logs, events⟩ := append_inj' split rfl
    exact .inl ⟨logs, (List.cons.inj events).1, rfl⟩
  · rw [concat_eq_append, ← cons_append, ← append_assoc] at split
    obtain ⟨logs, events⟩ := append_inj' split rfl
    obtain rfl := (List.cons.inj events).1
    exact .inr ⟨rest, concat_eq_append, logs⟩

theorem not_standing_nil (event : Event) : ¬ Standing ends [] event := by
  rintro ⟨before, after, split, -⟩
  simp at split

variable {marks endsTest : Event → Bool} {event : Event}

theorem Standing.mem (standing : Standing ends log event) : event ∈ log := by
  obtain ⟨before, after, rfl, -⟩ := standing
  simp

/-- What stands after an event was added: the event itself, or one that it does not end. -/
theorem standing_append {event marked : Event} (standing : Standing ends (log ++ [event]) marked) :
    event = marked ∨ (Standing ends log marked ∧ ¬ ends marked event) := by
  obtain ⟨before, after, split, unended⟩ := standing
  rcases append_singleton_split split with ⟨-, same, -⟩ | ⟨rest, rfl, earlier⟩
  · exact .inl same
  · refine .inr ⟨⟨before, rest, earlier, fun later member => ?_⟩, ?_⟩
    · exact unended later (mem_append_left _ member)
    · exact unended event (mem_append_right _ (mem_singleton_self _))

/-- Whether some marked event stands, computed over the log. -/
def anyStanding (marks ends : Event → Bool) (log : List Event) : Bool :=
  log.foldl (fun standing event => marks event || (standing && !ends event)) false

theorem foldl_standing {events : List Event} (unended : ∀ event ∈ events, endsTest event = false) :
    events.foldl (fun standing event => marks event || (standing && !endsTest event)) true =
      true := by
  induction events with
  | nil => rfl
  | cons event _ ih =>
    have continued : (marks event || (true && !endsTest event)) = true := by
      simp [unended event mem_cons_self]
    rw [foldl_cons, continued]
    exact ih fun later member => unended later (mem_cons_of_mem _ member)

theorem Standing.anyStanding (standing : Standing ends log event) (marked : marks event = true)
    (sound : ∀ later, endsTest later = true → ends event later) :
    anyStanding marks endsTest log = true := by
  obtain ⟨before, after, rfl, unended⟩ := standing
  rw [Rub.anyStanding, foldl_append, foldl_cons, marked, Bool.true_or]
  refine foldl_standing fun later member => ?_
  cases ending : endsTest later with
  | false => rfl
  | true => exact absurd (sound later ending) (unended later member)

theorem separated_nil : Separated ends clash [] := by
  intro before first between second after split
  simp at split

/-- A log stays separated when the new event clashes with none that stands. -/
theorem Separated.append (separated : Separated ends clash log)
    (allowed : ∀ marked, Standing ends log marked → ¬ clash marked event) :
    Separated ends clash (log ++ [event]) := by
  intro before first between second after split clashes
  have regrouped : log ++ [event] = (before ++ first :: between) ++ second :: after := by
    rw [split]
    simp
  rcases append_singleton_split regrouped with ⟨earlier, rfl, -⟩ | ⟨rest, -, earlier⟩
  · -- the new event is the second one: the first must have been ended before it
    by_contra unended
    refine allowed first ⟨before, between, earlier, fun later member ending => ?_⟩ clashes
    exact unended ⟨later, member, ending⟩
  · refine separated before first between second rest ?_ clashes
    rw [earlier]
    simp

end Rub
