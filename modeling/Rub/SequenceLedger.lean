import Rub.Watermark

/-!
Numbered items that many parties hand to one consumer. A party draws a number, then
hands in an item with that number or gives the number up; the consumer settles the
items it was handed. Every number given up or settled is recorded afterwards, by the
party that gave it up or by the consumer. The ledger says who answers for each number.
-/

namespace Rub

open Function List

structure SequenceLedger (Party Item : Type) where
  /-- The last number drawn. -/
  allocated : Nat
  /-- The number a party has drawn and not yet disposed of. -/
  owned : Party → Option Nat
  /-- The number a party has given up and not yet recorded. -/
  owed : Party → Option Nat
  entered : List Item
  inFlight : List Item
  settled : List Item
  lost : List Item
  givenUp : List Nat
  /-- The number of the item the consumer has settled and not yet recorded. -/
  consumerOwed : Option Nat
  recorded : Watermark

namespace SequenceLedger

variable {Party Item : Type} [DecidableEq Party] (number : Item → Nat)

/-- Everything that can happen to a number. -/
inductive Step (ledger : SequenceLedger Party Item) : SequenceLedger Party Item → Prop where
  | move (inFlight : List Item) (same : inFlight.Perm ledger.inFlight) :
      Step ledger { ledger with inFlight := inFlight }
  | draw (party : Party) :
      Step ledger { ledger with
        allocated := ledger.allocated + 1
        owned := update ledger.owned party (some (ledger.allocated + 1)) }
  | enter (party : Party) (item : Item) (inFlight : List Item)
      (held : ledger.owned party = some (number item))
      (added : inFlight.Perm (item :: ledger.inFlight)) :
      Step ledger { ledger with
        owned := update ledger.owned party none
        entered := ledger.entered ++ [item]
        inFlight := inFlight }
  | giveUp (party : Party) (n : Nat) (held : ledger.owned party = some n)
      (free : ledger.owed party = none) :
      Step ledger { ledger with
        owned := update ledger.owned party none
        owed := update ledger.owed party (some n)
        givenUp := ledger.givenUp ++ [n] }
  | record (party : Party) (n : Nat) (due : ledger.owed party = some n) :
      Step ledger { ledger with
        owed := update ledger.owed party none
        recorded := ledger.recorded.record n }
  | settle (item : Item) (inFlight : List Item) (taken : ledger.inFlight.Perm (item :: inFlight))
      (free : ledger.consumerOwed = none) :
      Step ledger { ledger with
        inFlight := inFlight
        settled := ledger.settled ++ [item]
        consumerOwed := some (number item) }
  | recordSettled (n : Nat) (due : ledger.consumerOwed = some n) :
      Step ledger { ledger with
        consumerOwed := none
        recorded := ledger.recorded.record n }
  | lose (items inFlight : List Item) (taken : ledger.inFlight.Perm (items ++ inFlight)) :
      Step ledger { ledger with inFlight := inFlight, lost := ledger.lost ++ items }

/-- The numbers that have left the party that drew them. -/
def disposed (ledger : SequenceLedger Party Item) : List Nat :=
  (ledger.inFlight ++ ledger.settled ++ ledger.lost).map number ++ ledger.givenUp

/-- The number has been settled or given up. -/
def Closed (ledger : SequenceLedger Party Item) (n : Nat) : Prop :=
  n ∈ ledger.settled.map number ∨ n ∈ ledger.givenUp

/-- Someone is between closing the number and recording it. -/
def Owed (ledger : SequenceLedger Party Item) (n : Nat) : Prop :=
  (∃ party, ledger.owed party = some n) ∨ ledger.consumerOwed = some n

/-- No two parties have the same number. -/
def HeldOnce (held : Party → Option Nat) : Prop :=
  ∀ first second n, held first = some n → held second = some n → first = second

/-- No number is in two places, and only drawn numbers are anywhere. -/
structure Placed (allocated : Nat) (owned : Party → Option Nat) (disposed : List Nat) : Prop where
  distinct : disposed.Nodup
  drawn : ∀ n ∈ disposed, 0 < n ∧ n ≤ allocated
  held : ∀ party n, owned party = some n → (0 < n ∧ n ≤ allocated) ∧ n ∉ disposed
  held_once : HeldOnce owned

structure Sound (ledger : SequenceLedger Party Item) : Prop where
  placed : Placed ledger.allocated ledger.owned (ledger.disposed number)
  owed_givenUp : ∀ party n, ledger.owed party = some n → n ∈ ledger.givenUp
  owed_once : HeldOnce ledger.owed
  consumerOwed_settled : ∀ n, ledger.consumerOwed = some n → n ∈ ledger.settled.map number
  /-- What was handed in is somewhere. -/
  conserved : ledger.entered.Perm (ledger.inFlight ++ ledger.settled ++ ledger.lost)
  covered : ∀ n, ledger.recorded.Covers n ↔ ledger.Closed number n ∧ ¬ ledger.Owed n

def empty : SequenceLedger Party Item :=
  { allocated := 0, owned := fun _ => none, owed := fun _ => none, entered := [], inFlight := [],
    settled := [], lost := [], givenUp := [], consumerOwed := none, recorded := .empty }

omit [DecidableEq Party] in
theorem sound_empty : Sound number (empty : SequenceLedger Party Item) where
  placed := ⟨by simp [disposed, empty], by simp [disposed, empty], by simp [empty],
    by simp [HeldOnce, empty]⟩
  owed_givenUp := by simp [empty]
  owed_once := by simp [HeldOnce, empty]
  consumerOwed_settled := by simp [empty]
  conserved := List.Perm.refl _
  covered := by simp [empty, Closed]

variable {n : Nat} {held : Party → Option Nat} {party : Party}

theorem ne_of_update_none {other : Party}
    (holds : update held party none other = some n) : other ≠ party := by
  rintro rfl
  simp at holds

theorem HeldOnce.update_none (once : HeldOnce held) : HeldOnce (update held party none) := by
  intro first second n firstHolds secondHolds
  rw [update_of_ne (ne_of_update_none firstHolds)] at firstHolds
  rw [update_of_ne (ne_of_update_none secondHolds)] at secondHolds
  exact once first second n firstHolds secondHolds

theorem HeldOnce.update_some (once : HeldOnce held) (fresh : ∀ other, held other ≠ some n) :
    HeldOnce (update held party (some n)) := by
  intro first second m firstHolds secondHolds
  by_cases isFirst : first = party <;> by_cases isSecond : second = party
  · rw [isFirst, isSecond]
  · rw [isFirst, update_self] at firstHolds
    rw [update_of_ne isSecond, ← firstHolds] at secondHolds
    exact absurd secondHolds (fresh second)
  · rw [isSecond, update_self] at secondHolds
    rw [update_of_ne isFirst, ← secondHolds] at firstHolds
    exact absurd firstHolds (fresh first)
  · rw [update_of_ne isFirst] at firstHolds
    rw [update_of_ne isSecond] at secondHolds
    exact once first second m firstHolds secondHolds

section Places

variable {allocated : Nat} {owned : Party → Option Nat} {places : List Nat}
  (placed : Placed allocated owned places)

include placed

omit [DecidableEq Party] in
theorem Placed.perm {rearranged : List Nat}
    (same : rearranged.Perm places) : Placed allocated owned rearranged where
  distinct := same.nodup_iff.mpr placed.distinct
  drawn n member := placed.drawn n (same.mem_iff.mp member)
  held party n holds := ⟨(placed.held party n holds).1, fun member =>
      (placed.held party n holds).2 (same.mem_iff.mp member)⟩
  held_once := placed.held_once

theorem Placed.draw (party : Party) :
    Placed (allocated + 1) (update owned party (some (allocated + 1))) places where
  distinct := placed.distinct
  drawn n member := by
    have := placed.drawn n member
    omega
  held other n holds := by
    by_cases same : other = party
    · subst same
      rw [update_self] at holds
      cases holds
      refine ⟨by omega, fun member => ?_⟩
      have := placed.drawn _ member
      omega
    · rw [update_of_ne same] at holds
      obtain ⟨bounds, absent⟩ := placed.held other n holds
      exact ⟨by omega, absent⟩
  held_once := by
    apply placed.held_once.update_some
    intro other holds
    have := (placed.held other _ holds).1
    omega

/-- A party disposes of the number it owns. -/
theorem Placed.dispose
    (holds : owned party = some n) {extended : List Nat} (added : extended.Perm (n :: places)) :
    Placed allocated (update owned party none) extended := by
  have shown : Placed allocated (update owned party none) (n :: places) := by
    obtain ⟨bounds, absent⟩ := placed.held party n holds
    refine ⟨nodup_cons.mpr ⟨absent, placed.distinct⟩, ?_, ?_, placed.held_once.update_none⟩
    · intro m member
      rcases mem_cons.mp member with rfl | member
      · exact bounds
      · exact placed.drawn m member
    · intro other m otherHolds
      have different := ne_of_update_none otherHolds
      rw [update_of_ne different] at otherHolds
      obtain ⟨otherBounds, otherAbsent⟩ := placed.held other m otherHolds
      refine ⟨otherBounds, fun member => ?_⟩
      rcases mem_cons.mp member with rfl | member
      · exact different (placed.held_once other party m otherHolds holds)
      · exact otherAbsent member
  exact shown.perm added

end Places

variable {owed : Party → Option Nat}

theorem owes_update_some (free : owed party = none) (m : Nat) :
    (∃ other, update owed party (some n) other = some m) ↔
      (∃ other, owed other = some m) ∨ m = n := by
  constructor
  · rintro ⟨other, owes⟩
    by_cases same : other = party
    · rw [same, update_self] at owes
      exact .inr (Option.some.inj owes).symm
    · exact .inl ⟨other, by rwa [update_of_ne same] at owes⟩
  · rintro (⟨other, owes⟩ | rfl)
    · have different : other ≠ party := by
        rintro rfl
        rw [free] at owes
        cases owes
      exact ⟨other, by rwa [update_of_ne different]⟩
    · exact ⟨party, update_self ..⟩

theorem owes_update_none (due : owed party = some n) (once : HeldOnce owed) (m : Nat) :
    (∃ other, update owed party none other = some m) ↔ (∃ other, owed other = some m) ∧ m ≠ n := by
  constructor
  · rintro ⟨other, owes⟩
    have different := ne_of_update_none owes
    rw [update_of_ne different] at owes
    refine ⟨⟨other, owes⟩, ?_⟩
    rintro rfl
    exact different (once other party m owes due)
  · rintro ⟨⟨other, owes⟩, different⟩
    have elsewhere : other ≠ party := by
      rintro rfl
      exact different (Option.some.inj (owes.symm.trans due))
    exact ⟨other, by rwa [update_of_ne elsewhere]⟩

variable {number} {ledger : SequenceLedger Party Item}

omit [DecidableEq Party] in
theorem Closed.mem_disposed (closed : ledger.Closed number n) : n ∈ ledger.disposed number := by
  simp only [disposed, map_append, mem_append]
  rcases closed with settled | givenUp
  · exact .inl (.inl (.inr settled))
  · exact .inr givenUp

variable {item : Item}

section

omit [DecidableEq Party]

theorem mem_disposed_of_inFlight (member : item ∈ ledger.inFlight) :
    number item ∈ ledger.disposed number := by
  simp only [disposed, map_append, mem_append]
  exact .inl (.inl (.inl (mem_map_of_mem member)))

theorem Sound.not_closed_of_inFlight (sound : Sound number ledger)
    (member : item ∈ ledger.inFlight) : ¬ ledger.Closed number (number item) := by
  have distinct := sound.placed.distinct
  simp only [disposed, map_append, append_assoc, nodup_append] at distinct
  have apart := distinct.2.2 (number item) (mem_map_of_mem member)
  intro closed
  refine apart (number item) ?_ rfl
  simp only [mem_append]
  rcases closed with settled | givenUp
  · exact .inl settled
  · exact .inr (.inr givenUp)

theorem Sound.not_settled_of_givenUp (sound : Sound number ledger)
    (givenUp : n ∈ ledger.givenUp) : n ∉ ledger.settled.map number := by
  have distinct := sound.placed.distinct
  simp only [disposed, map_append, nodup_append] at distinct
  intro settled
  exact distinct.2.2 n (by simp only [mem_append]; exact .inl (.inr settled)) n givenUp rfl

theorem Sound.not_covers_of_inFlight (sound : Sound number ledger)
    (member : item ∈ ledger.inFlight) : ¬ ledger.recorded.Covers (number item) :=
  fun covers => sound.not_closed_of_inFlight member ((sound.covered _).mp covers).1

end

theorem Sound.giveUp (sound : Sound number ledger)
    (held : ledger.owned party = some n) (free : ledger.owed party = none) :
    Sound number { ledger with
      owned := update ledger.owned party none
      owed := update ledger.owed party (some n)
      givenUp := ledger.givenUp ++ [n] } := by
  have fresh : ¬ ledger.Closed number n := fun closed =>
    (sound.placed.held party n held).2 closed.mem_disposed
  have unowed : ∀ other, ledger.owed other ≠ some n := fun other owes =>
    fresh (.inr (sound.owed_givenUp other n owes))
  exact { sound with
    placed := sound.placed.dispose held (by
      simp only [disposed, ← append_assoc]
      exact perm_append_singleton n _)
    owed_givenUp := by
      intro other m owes
      rcases (owes_update_some free m).mp ⟨other, owes⟩ with ⟨earlier, owes⟩ | rfl
      · exact mem_append_left _ (sound.owed_givenUp earlier m owes)
      · simp
    owed_once := sound.owed_once.update_some unowed
    covered := by
      intro m
      have before := sound.covered m
      simp only [Closed, Owed, owes_update_some free, mem_append, mem_singleton] at before ⊢
      by_cases same : m = n
      · subst same
        have absent := fresh
        simp only [Closed] at absent
        tauto
      · simp only [same, or_false]
        exact before }

theorem Sound.record (sound : Sound number ledger) (due : ledger.owed party = some n) :
    Sound number { ledger with
      owed := update ledger.owed party none
      recorded := ledger.recorded.record n } := by
  have givenUp := sound.owed_givenUp party n due
  have positive : 0 < n := (sound.placed.drawn n (Closed.mem_disposed (.inr givenUp))).1
  have unsettled := sound.not_settled_of_givenUp givenUp
  have other : ledger.consumerOwed ≠ some n := fun owes =>
    unsettled (sound.consumerOwed_settled n owes)
  exact { sound with
    owed_givenUp := by
      intro other m owes
      obtain ⟨⟨earlier, owes⟩, _⟩ := (owes_update_none due sound.owed_once m).mp ⟨other, owes⟩
      exact sound.owed_givenUp earlier m owes
    owed_once := sound.owed_once.update_none
    covered := by
      intro m
      have before := sound.covered m
      simp only [Closed, Owed, owes_update_none due sound.owed_once,
        Watermark.covers_record _ positive] at before ⊢
      by_cases same : m = n
      · subst same
        tauto
      · tauto }

section

omit [DecidableEq Party]

theorem settle_perm {before after : List Item} (settled lost : List Item)
    (taken : before.Perm (item :: after)) :
    (after ++ (settled ++ [item]) ++ lost).Perm (before ++ settled ++ lost) := by
  have back : (after ++ (settled ++ [item])).Perm (item :: (after ++ settled)) := by
    rw [← append_assoc]
    exact perm_append_singleton item _
  exact (back.trans (taken.symm.append_right settled)).append_right lost

theorem Sound.settle (sound : Sound number ledger) {inFlight : List Item}
    (taken : ledger.inFlight.Perm (item :: inFlight)) (free : ledger.consumerOwed = none) :
    Sound number { ledger with
      inFlight := inFlight
      settled := ledger.settled ++ [item]
      consumerOwed := some (number item) } := by
  have moved := settle_perm ledger.settled ledger.lost taken
  have fresh := sound.not_closed_of_inFlight (taken.mem_iff.mpr mem_cons_self)
  exact { sound with
    placed := sound.placed.perm (by
      exact (moved.map number).append_right _)
    consumerOwed_settled := by
      intro n owes
      cases owes
      simp
    conserved := sound.conserved.trans moved.symm
    covered := by
      intro m
      have before := sound.covered m
      simp only [Closed, Owed, free, map_append, map_cons, map_nil,
        mem_append, mem_singleton, Option.some.injEq] at before ⊢
      by_cases same : m = number item
      · subst same
        simp only [Closed] at fresh
        tauto
      · have other : number item ≠ m := Ne.symm same
        simp only [same, other, or_false, reduceCtorEq] at before ⊢
        exact before }

theorem Sound.recordSettled (sound : Sound number ledger) (due : ledger.consumerOwed = some n) :
    Sound number { ledger with
      consumerOwed := none
      recorded := ledger.recorded.record n } := by
  have settled := sound.consumerOwed_settled n due
  have positive : 0 < n := (sound.placed.drawn n (Closed.mem_disposed (.inl settled))).1
  have unowed : ∀ other, ledger.owed other ≠ some n := fun other owes =>
    sound.not_settled_of_givenUp (sound.owed_givenUp other n owes) settled
  exact { sound with
    consumerOwed_settled := by simp
    covered := by
      intro m
      have before := sound.covered m
      simp only [Closed, Owed, due, Watermark.covers_record _ positive, Option.some.injEq,
        reduceCtorEq, or_false] at before ⊢
      by_cases same : m = n
      · subst same
        tauto
      · have other : n ≠ m := Ne.symm same
        tauto }

theorem lose_perm {items before after : List Item} (settled lost : List Item)
    (taken : before.Perm (items ++ after)) :
    (before ++ settled ++ lost).Perm (after ++ settled ++ (lost ++ items)) := by
  have front : (before ++ settled ++ lost).Perm (items ++ (after ++ settled ++ lost)) := by
    simpa only [append_assoc] using taken.append_right (settled ++ lost)
  have back : (items ++ (after ++ settled ++ lost)).Perm (after ++ settled ++ (lost ++ items)) := by
    rw [← append_assoc (after ++ settled)]
    exact perm_append_comm
  exact front.trans back

end

theorem sound_step (sound : Sound number ledger) {next : SequenceLedger Party Item}
    (step : Step number ledger next) : Sound number next := by
  cases step with
  | move _ same =>
    exact { sound with
      placed := sound.placed.perm (by
        exact ((same.append_right _).append_right _).map number |>.append_right _)
      conserved := sound.conserved.trans (((same.symm.append_right _).append_right _)) }
  | draw party => exact { sound with placed := sound.placed.draw party }
  | enter _ item _ held added =>
    exact { sound with
      placed := sound.placed.dispose held (by
        exact ((added.append_right _).append_right _).map number |>.append_right _)
      conserved := by
        have grown := sound.conserved.append_right [item]
        refine grown.trans (perm_append_comm.trans ?_)
        exact ((added.symm.append_right _).append_right _) }
  | giveUp _ _ held free => exact sound.giveUp held free
  | record _ _ due => exact sound.record due
  | settle _ _ taken free => exact sound.settle taken free
  | recordSettled n due => exact sound.recordSettled due
  | lose _ _ taken =>
    exact { sound with
      placed := sound.placed.perm (by
        refine List.Perm.append_right _ (List.Perm.map number ?_)
        exact (lose_perm ledger.settled ledger.lost taken).symm)
      conserved := sound.conserved.trans (lose_perm ledger.settled ledger.lost taken) }

omit [DecidableEq Party] in
/-- The recorded prefix is the longest one whose numbers are all closed and recorded. -/
theorem Sound.isGreatest_low (sound : Sound number ledger) :
    IsGreatest {c | ∀ n, 0 < n → n ≤ c → ledger.Closed number n ∧ ¬ ledger.Owed n}
      ledger.recorded.low := by
  have greatest := ledger.recorded.isGreatest_low
  simp only [sound.covered] at greatest
  exact greatest

omit [DecidableEq Party] in
theorem Sound.nodup_entered (sound : Sound number ledger) : (ledger.entered.map number).Nodup := by
  have distinct := sound.placed.distinct
  have numbers := (sound.conserved.map number).nodup_iff
  exact numbers.mpr (nodup_append.mp distinct).1

end SequenceLedger

end Rub
