import Mathlib.Data.List.Nodup

/-!
The bookkeeping of asynchronous reservations. A reservation is asked for by a task that
sends what it got over a channel; the book holds for each rule the attempt it waits for,
and what the attempt was made for. A task that is aborted may be past its last suspension
point and send nevertheless.
-/

namespace Rub

open Function List

structure PendingReservation (Policy : Type) where
  attemptId : Nat
  policy : Policy

structure ReservationTask where
  ruleId : Nat
  attemptId : Nat
  aborted : Bool
deriving DecidableEq

/-- What a task sends: the attempt it was made for, with a grant or a refusal. -/
structure ReservationCompletion (Refusal : Type) where
  ruleId : Nat
  attemptId : Nat
  result : Except Refusal Unit

def ReservationCompletion.granted {Refusal : Type} (completion : ReservationCompletion Refusal) :
    Bool :=
  match completion.result with
  | .ok () => true
  | .error _ => false

structure ReservationBook (Policy Refusal : Type) where
  pending : Nat → Option (PendingReservation Policy)
  tasks : List ReservationTask
  channel : List (ReservationCompletion Refusal)
  lastAttempt : Nat

namespace ReservationBook

variable {Policy Refusal : Type}

def empty : ReservationBook Policy Refusal :=
  { pending := fun _ => none, tasks := [], channel := [], lastAttempt := 0 }

def ReservationTask.abortIf (test : ReservationTask → Bool) (task : ReservationTask) :
    ReservationTask :=
  if test task then { task with aborted := true } else task

variable (book : ReservationBook Policy Refusal)

/-- A new attempt for the rule; an older one that is pending is forgotten. -/
def spawn (ruleId : Nat) (policy : Policy) : ReservationBook Policy Refusal :=
  { book with
    pending := update book.pending ruleId
      (some { attemptId := book.lastAttempt + 1, policy := policy })
    tasks := book.tasks ++
      [{ ruleId := ruleId, attemptId := book.lastAttempt + 1, aborted := false }]
    lastAttempt := book.lastAttempt + 1 }

/-- Keeps the pending attempts that pass the test and aborts the tasks of the others. -/
def retain (keep : Nat → PendingReservation Policy → Bool) : ReservationBook Policy Refusal :=
  { book with
    pending := fun ruleId => (book.pending ruleId).filter (keep ruleId)
    tasks := book.tasks.map (ReservationTask.abortIf fun task =>
      match book.pending task.ruleId with
      | some pending => pending.attemptId == task.attemptId && !keep task.ruleId pending
      | none => false) }

def cancel (ruleId : Nat) : ReservationBook Policy Refusal :=
  book.retain fun other _ => other != ruleId

def abortAll : ReservationBook Policy Refusal :=
  book.retain fun _ _ => false

/-- The task of an attempt ends and sends its result. -/
def deliver (task : ReservationTask) (result : Except Refusal Unit) :
    ReservationBook Policy Refusal :=
  { book with
    tasks := book.tasks.erase task
    channel := book.channel ++
      [{ ruleId := task.ruleId, attemptId := task.attemptId, result := result }] }

/-- An aborted task ends without sending. -/
def vanish (task : ReservationTask) : ReservationBook Policy Refusal :=
  { book with tasks := book.tasks.erase task }

/-- The book after its channel was read. -/
def withChannel (channel : List (ReservationCompletion Refusal)) : ReservationBook Policy Refusal :=
  { book with channel := channel }

/-- The first lines of the completion handlers: the pending attempt of the rule is taken out
before its number is compared. -/
def claim (completion : ReservationCompletion Refusal) :
    Option (PendingReservation Policy) × ReservationBook Policy Refusal :=
  match book.pending completion.ruleId with
  | none => (none, book)
  | some pending =>
    let taken := { book with pending := update book.pending completion.ruleId none }
    if pending.attemptId ≠ completion.attemptId then (none, taken) else (some pending, taken)

variable {book} {completion : ReservationCompletion Refusal} {ruleId : Nat}
  {pending : PendingReservation Policy}

theorem pending_of_retain {keep : Nat → PendingReservation Policy → Bool}
    (found : (book.retain keep).pending ruleId = some pending) :
    book.pending ruleId = some pending :=
  (Option.filter_eq_some_iff.mp found).1

theorem retain_pending_none (keep : Nat → PendingReservation Policy → Bool)
    (vacant : book.pending ruleId = none) : (book.retain keep).pending ruleId = none := by
  show (book.pending ruleId).filter (keep ruleId) = none
  rw [vacant]
  rfl

theorem pending_of_claim (found : (book.claim completion).2.pending ruleId = some pending) :
    book.pending ruleId = some pending := by
  unfold claim at found
  cases waits : book.pending completion.ruleId with
  | none => simpa only [waits] using found
  | some =>
    have left : update book.pending completion.ruleId none ruleId = some pending := by
      simp only [waits] at found
      split at found <;> exact found
    by_cases same : ruleId = completion.ruleId
    · subst same
      simp at left
    · simpa [same] using left

theorem pending_of_claimed (claimed : (book.claim completion).1 = some pending) :
    book.pending completion.ruleId = some pending ∧ pending.attemptId = completion.attemptId := by
  unfold claim at claimed
  cases waits : book.pending completion.ruleId with
  | none => simp [waits] at claimed
  | some =>
    simp only [waits] at claimed
    split at claimed
    · cases claimed
    · rename_i same
      cases claimed
      exact ⟨rfl, not_not.mp same⟩

theorem pending_claim_self (completion : ReservationCompletion Refusal) :
    (book.claim completion).2.pending completion.ruleId = none := by
  unfold claim
  cases waits : book.pending completion.ruleId with
  | none => exact waits
  | some =>
    dsimp only
    split <;> exact update_self ..

@[simp] theorem withChannel_channel (channel : List (ReservationCompletion Refusal)) :
    (book.withChannel channel).channel = channel := rfl

@[simp] theorem claim_channel (completion : ReservationCompletion Refusal) :
    (book.claim completion).2.channel = book.channel := by
  unfold claim
  cases book.pending completion.ruleId with
  | none => rfl
  | some taken =>
    dsimp only
    split <;> rfl

/-- Whether some attempt for the rule has not been received yet. -/
def outstanding (book : ReservationBook Policy Refusal) (ruleId : Nat) : Bool :=
  book.tasks.any (·.ruleId == ruleId) || book.channel.any (·.ruleId == ruleId)

/-- Where a rule has a pending attempt, no other attempt for it is outstanding. -/
structure Orderly (book : ReservationBook Policy Refusal) : Prop where
  tasks : ∀ ruleId pending, book.pending ruleId = some pending →
    ∀ task ∈ book.tasks, task.ruleId = ruleId → task.attemptId = pending.attemptId
  channel : ∀ ruleId pending, book.pending ruleId = some pending →
    ∀ completion ∈ book.channel, completion.ruleId = ruleId →
      completion.attemptId = pending.attemptId

theorem orderly_empty : Orderly (empty : ReservationBook Policy Refusal) :=
  ⟨fun _ _ found => (nomatch found), fun _ _ found => (nomatch found)⟩

/-- An attempt that is made while none is outstanding keeps the order. -/
theorem Orderly.spawn (orderly : Orderly book) (policy : Policy)
    (free : book.outstanding ruleId = false) : Orderly (book.spawn ruleId policy) := by
  simp only [outstanding, Bool.or_eq_false_iff, any_eq_false, beq_iff_eq] at free
  refine ⟨fun other pending found task member own => ?_, fun other pending found completion
    member own => ?_⟩
  · by_cases same : other = ruleId
    · subst same
      simp only [ReservationBook.spawn, update_self] at found
      cases found
      rcases mem_append.mp member with old | new
      · exact absurd own (free.1 task old)
      · rw [mem_singleton.mp new]
    · simp only [ReservationBook.spawn, update_of_ne same] at found
      rcases mem_append.mp member with old | new
      · exact orderly.tasks other pending found task old own
      · rw [mem_singleton.mp new] at own
        exact absurd own.symm same
  · by_cases same : other = ruleId
    · exact absurd (own.trans same) (free.2 completion member)
    · simp only [ReservationBook.spawn, update_of_ne same] at found
      exact orderly.channel other pending found completion member own

theorem Orderly.retain (orderly : Orderly book) (keep : Nat → PendingReservation Policy → Bool) :
    Orderly (book.retain keep) := by
  refine ⟨fun other pending found task member own => ?_, fun other pending found =>
    orderly.channel other pending (pending_of_retain found)⟩
  obtain ⟨old, before, rfl⟩ := mem_map.mp member
  have kept : ∀ test, (ReservationTask.abortIf test old).ruleId = old.ruleId ∧
      (ReservationTask.abortIf test old).attemptId = old.attemptId := by
    intro test
    unfold ReservationTask.abortIf
    split <;> exact ⟨rfl, rfl⟩
  rw [(kept _).1] at own
  rw [(kept _).2]
  exact orderly.tasks other pending (pending_of_retain found) old before own

theorem Orderly.deliver (orderly : Orderly book) {task : ReservationTask}
    (running : task ∈ book.tasks) (result : Except Refusal Unit) :
    Orderly (book.deliver task result) := by
  refine ⟨fun other pending found later member =>
    orderly.tasks other pending found later (mem_of_mem_erase member),
    fun other pending found completion member own => ?_⟩
  rcases mem_append.mp member with old | new
  · exact orderly.channel other pending found completion old own
  · rw [mem_singleton.mp new] at own ⊢
    exact orderly.tasks other pending found task running own

theorem Orderly.vanish (orderly : Orderly book) (task : ReservationTask) :
    Orderly (book.vanish task) :=
  ⟨fun other pending found later member =>
    orderly.tasks other pending found later (mem_of_mem_erase member), orderly.channel⟩

@[simp] theorem claim_tasks (completion : ReservationCompletion Refusal) :
    (book.claim completion).2.tasks = book.tasks := by
  unfold claim
  cases book.pending completion.ruleId with
  | none => rfl
  | some taken =>
    dsimp only
    split <;> rfl

variable {channel : List (ReservationCompletion Refusal)} (orderly : Orderly book)
  (first : book.channel = completion :: channel)

include orderly first

theorem Orderly.claim : Orderly ((book.withChannel channel).claim completion).2 := by
  have before : ∀ {other : Nat} {pending : PendingReservation Policy},
      ((book.withChannel channel).claim completion).2.pending other = some pending →
        book.pending other = some pending := pending_of_claim
  refine ⟨fun other pending found task member => ?_, fun other pending found later member => ?_⟩
  · rw [claim_tasks] at member
    exact orderly.tasks other pending (before found) task member
  · rw [claim_channel, withChannel_channel] at member
    refine orderly.channel other pending (before found) later ?_
    rw [first]
    exact mem_cons_of_mem _ member

/-- In order, the completion that is received is the one of the pending attempt. -/
theorem Orderly.received (waits : book.pending completion.ruleId = some pending) :
    pending.attemptId = completion.attemptId := by
  refine (orderly.channel completion.ruleId pending waits completion ?_ rfl).symm
  rw [first]
  exact mem_cons_self

theorem Orderly.claim_received (waits : book.pending completion.ruleId = some pending) :
    ((book.withChannel channel).claim completion).1 = some pending := by
  have same : (book.withChannel channel).pending completion.ruleId = some pending := waits
  have own := orderly.received first waits
  simp only [ReservationBook.claim, same, own, ne_eq, not_true_eq_false, if_false]

/-- In order, a completion of another attempt finds nothing pending. -/
theorem Orderly.claim_stale (stale : ∀ pending, book.pending completion.ruleId = some pending →
      pending.attemptId ≠ completion.attemptId) :
    ((book.withChannel channel).claim completion).2.pending = book.pending := by
  have vacant : (book.withChannel channel).pending completion.ruleId = none := by
    cases waits : book.pending completion.ruleId with
    | none => exact waits
    | some pending => exact absurd (orderly.received first waits) (stale pending waits)
  simp only [ReservationBook.claim, vacant]
  rfl

end ReservationBook

end Rub
