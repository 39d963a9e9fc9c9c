import Mathlib.Logic.Function.Basic

/-! Partial maps as functions into options. -/

namespace Rub

open Function

variable {Key Value : Type} [DecidableEq Key] {entries : Key → Option Value}

/-- What an updated map holds was written, or was there under another key. -/
theorem update_eq_some {key other : Key} {written : Option Value} {value : Value}
    (found : update entries key written other = some value) :
    other = key ∧ written = some value ∨ other ≠ key ∧ entries other = some value := by
  by_cases same : other = key
  · subst same
    rw [update_self] at found
    exact .inl ⟨rfl, found⟩
  · rw [update_of_ne same] at found
    exact .inr ⟨same, found⟩

theorem update_none_eq_some {key other : Key} {value : Value}
    (found : update entries key none other = some value) :
    other ≠ key ∧ entries other = some value := by
  rcases update_eq_some found with ⟨_, none_written⟩ | kept
  · cases none_written
  · exact kept

end Rub
