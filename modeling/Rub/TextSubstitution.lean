import Mathlib.Data.List.Infix

/-!
Occurrences of a pattern in a text, the first of them, and the replacement of all of them
from left to right. A text is a list of symbols.
-/

namespace Rub

open List

variable {α : Type}

theorem infix_of_infix_block_append {word block text : List α} (nonempty : word ≠ [])
    (apart : ∀ symbol ∈ block, symbol ∉ word) (found : word <:+: block ++ text) :
    word <:+: text := by
  induction block with
  | nil => exact found
  | cons symbol _ ih =>
    rcases infix_cons_iff.mp found with starts | later
    · cases word with
      | nil => exact absurd rfl nonempty
      | cons =>
        obtain ⟨same, -⟩ := cons_prefix_cons.mp starts
        have foreign := apart symbol mem_cons_self
        exact absurd (same ▸ mem_cons_self) foreign
    · exact ih (fun symbol member => apart symbol (mem_cons_of_mem _ member)) later

variable [DecidableEq α]

/-- What stands before and behind the first occurrence of the pattern. -/
def splitFirst (pattern : List α) : List α → Option (List α × List α)
  | [] => if pattern = [] then some ([], []) else none
  | symbol :: rest =>
    if pattern <+: symbol :: rest then some ([], (symbol :: rest).drop pattern.length)
    else (splitFirst pattern rest).map fun parts => (symbol :: parts.1, parts.2)

/-- The replacement of all occurrences behind the symbols that are still to be skipped. -/
def replaceFrom (pattern replacement : List α) : Nat → List α → List α
  | _, [] => []
  | skipped + 1, _ :: rest => replaceFrom pattern replacement skipped rest
  | 0, symbol :: rest =>
    if pattern <+: symbol :: rest then
      replacement ++ replaceFrom pattern replacement (pattern.length - 1) rest
    else symbol :: replaceFrom pattern replacement 0 rest

/-- The text with each occurrence of a non-empty pattern replaced, from left to right. -/
def replaceAll (pattern replacement text : List α) : List α :=
  replaceFrom pattern replacement 0 text

variable {pattern text before after : List α}

theorem splitFirst_eq_some (split : splitFirst pattern text = some (before, after)) :
    text = before ++ pattern ++ after := by
  induction text generalizing before with
  | nil =>
    unfold splitFirst at split
    split at split
    · rename_i empty
      cases split
      simp [empty]
    · cases split
  | cons _ _ ih =>
    unfold splitFirst at split
    split at split
    · rename_i starts
      cases split
      obtain ⟨tail, same⟩ := starts
      rw [← same, drop_left]
      rfl
    · obtain ⟨parts, later, ⟨⟩⟩ := Option.map_eq_some_iff.mp split
      simp [ih later]

/-- What stands behind any occurrence stands behind the first one. -/
theorem splitFirst_of_occurrence {front back : List α} (occurs : text = front ++ pattern ++ back) :
    ∃ before after, splitFirst pattern text = some (before, after) ∧ back <:+ after := by
  induction text generalizing front with
  | nil =>
    obtain ⟨front, rfl⟩ := append_eq_nil_iff.mp occurs.symm
    obtain ⟨-, rfl⟩ := append_eq_nil_iff.mp front
    exact ⟨[], [], rfl, suffix_refl _⟩
  | cons symbol _ ih =>
    unfold splitFirst
    split
    · refine ⟨[], _, rfl, ?_⟩
      rw [occurs, append_assoc, drop_append]
      have behind : back <:+ (pattern ++ back).drop (pattern.length - front.length) := by
        rw [drop_append, Nat.sub_eq_zero_of_le (Nat.sub_le _ _), drop_zero]
        exact suffix_append _ _
      exact behind.trans (suffix_append _ _)
    · rename_i differs
      cases front with
      | nil => exact absurd ⟨back, occurs.symm⟩ differs
      | cons =>
        obtain ⟨-, same⟩ := List.cons.inj occurs
        obtain ⟨before, after, split, behind⟩ := ih same
        exact ⟨symbol :: before, after, by rw [split]; rfl, behind⟩

variable {replacement : List α}

theorem replaceFrom_drop (skipped : Nat) (text : List α) :
    replaceFrom pattern replacement skipped text =
      replaceAll pattern replacement (text.drop skipped) := by
  induction text generalizing skipped with
  | nil => cases skipped <;> rfl
  | cons _ _ ih =>
    cases skipped with
    | zero => rfl
    | succ skipped => exact ih skipped

theorem replaceAll_append (nonempty : pattern ≠ []) (rest : List α) :
    replaceAll pattern replacement (pattern ++ rest) =
      replacement ++ replaceAll pattern replacement rest := by
  cases pattern with
  | nil => exact absurd rfl nonempty
  | cons symbol others =>
    have starts : symbol :: others <+: symbol :: (others ++ rest) := prefix_append _ _
    show replaceFrom _ _ 0 (symbol :: (others ++ rest)) = _
    rw [replaceFrom, if_pos starts, replaceFrom_drop]
    simp

theorem replaceAll_cons {symbol : α} {rest : List α} (differs : ¬ pattern <+: symbol :: rest) :
    replaceAll pattern replacement (symbol :: rest) =
      symbol :: replaceAll pattern replacement rest := by
  show replaceFrom _ _ 0 (symbol :: rest) = _
  rw [replaceFrom, if_neg differs]
  rfl

/-- Induction over a text as the replacement walks it: an occurrence at a time, or a symbol
where no occurrence starts. -/
theorem replacement_induction {P : List α → Prop} (nonempty : pattern ≠ []) (nil : P [])
    (occurrence : ∀ rest, P rest → P (pattern ++ rest))
    (symbol : ∀ first rest, ¬ pattern <+: first :: rest → P rest → P (first :: rest))
    (text : List α) : P text := by
  induction bound : text.length using Nat.strong_induction_on generalizing text with
  | _ length ih =>
    cases text with
    | nil => exact nil
    | cons first rest =>
      by_cases starts : pattern <+: first :: rest
      · obtain ⟨tail, same⟩ := starts
        have shorter : tail.length < length := by
          have positive := length_pos_of_ne_nil nonempty
          have total := congrArg List.length same
          simp only [length_append] at total
          omega
        rw [← same]
        exact occurrence tail (ih _ shorter tail rfl)
      · have shorter : rest.length < length := by
          simp only [length_cons] at bound
          omega
        exact symbol first rest starts (ih _ shorter rest rfl)

section

variable {word : List α} (nonempty : pattern ≠ []) (replaced : replacement ≠ [])

include nonempty replaced

/-- A word without a symbol of the replacement that starts the replaced text starts the
text already. -/
theorem prefix_of_prefix_replaceAll (apart : ∀ symbol ∈ replacement, symbol ∉ word)
    (starts : word <+: replaceAll pattern replacement text) : word <+: text := by
  induction text using replacement_induction nonempty generalizing word with
  | nil => exact starts
  | occurrence =>
    rw [replaceAll_append nonempty] at starts
    cases word with
    | nil => exact nil_prefix
    | cons =>
      cases replacement with
      | nil => exact absurd rfl replaced
      | cons symbol =>
        obtain ⟨same, -⟩ := cons_prefix_cons.mp starts
        have foreign := apart symbol mem_cons_self
        exact absurd (same ▸ mem_cons_self) foreign
  | symbol _ rest differs ih =>
    rw [replaceAll_cons differs] at starts
    cases word with
    | nil => exact nil_prefix
    | cons symbol =>
      obtain ⟨same, rest⟩ := cons_prefix_cons.mp starts
      have later := ih (fun symbol member foreign =>
        apart symbol member (mem_cons_of_mem _ foreign)) rest
      exact cons_prefix_cons.mpr ⟨same, later⟩

/-- A word without a symbol of the replacement that is in the replaced text was in the text,
at a place where the pattern was not. -/
theorem infix_of_infix_replaceAll (wordNonempty : word ≠ [])
    (apart : ∀ symbol ∈ replacement, symbol ∉ word)
    (found : word <:+: replaceAll pattern replacement text) :
    ∃ rest, rest <:+ text ∧ word <+: rest ∧ ¬ pattern <+: rest := by
  induction text using replacement_induction nonempty with
  | nil => exact absurd (eq_nil_of_infix_nil found) wordNonempty
  | occurrence _ ih =>
    rw [replaceAll_append nonempty] at found
    obtain ⟨place, suffix, starts, free⟩ :=
      ih (infix_of_infix_block_append wordNonempty apart found)
    exact ⟨place, suffix.trans (suffix_append _ _), starts, free⟩
  | symbol first rest differs ih =>
    rw [replaceAll_cons differs] at found
    rcases infix_cons_iff.mp found with starts | later
    · have walked : replaceAll pattern replacement (first :: rest) = _ := replaceAll_cons differs
      rw [← walked] at starts
      refine ⟨first :: rest, suffix_refl _, ?_, differs⟩
      exact prefix_of_prefix_replaceAll nonempty replaced apart starts
    · obtain ⟨place, suffix, starts, free⟩ := ih later
      exact ⟨place, suffix.trans (suffix_cons _ _), starts, free⟩

theorem not_infix_replaceAll (wordNonempty : word ≠ [])
    (apart : ∀ symbol ∈ replacement, symbol ∉ word) (absent : ¬ word <:+: text) :
    ¬ word <:+: replaceAll pattern replacement text := by
  intro found
  obtain ⟨place, suffix, starts, -⟩ :=
    infix_of_infix_replaceAll nonempty replaced wordNonempty apart found
  exact absent (starts.isInfix.trans suffix.isInfix)

end

theorem pattern_not_infix_replaceAll (nonempty : pattern ≠ []) (replaced : replacement ≠ [])
    (apart : ∀ symbol ∈ replacement, symbol ∉ pattern) :
    ¬ pattern <:+: replaceAll pattern replacement text := by
  intro found
  obtain ⟨place, -, starts, free⟩ :=
    infix_of_infix_replaceAll nonempty replaced nonempty apart found
  exact free starts

end Rub
