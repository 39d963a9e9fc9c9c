import Mathlib.Data.List.Infix

/-!
Buffered readers of a stream. A source gives the successive fills of a buffer, and an empty
fill only at its end; a fill shows a part of what the stream still gives, and what is consumed
of it is gone. A source that makes its reader wait gives the same fills.
-/

namespace Rub

open List

variable {Source α : Type}

/-- A source of fills, with what it still gives in each state. -/
structure FillSource (Source α : Type) where
  next : Source → List α × Source
  bytes : Source → List α
  bytes_next : ∀ source, (next source).1 ++ bytes (next source).2 = bytes source
  bytes_of_next_nil : ∀ source, (next source).1 = [] → bytes source = []

/-- Successive fills, none of them empty. -/
structure Fills (α : Type) where
  chunks : List (List α)
  filled : ∀ chunk ∈ chunks, chunk ≠ []

def Fills.bytes (fills : Fills α) : List α := fills.chunks.flatten

def Fills.next (fills : Fills α) : List α × Fills α :=
  match fills with
  | ⟨[], filled⟩ => ([], ⟨[], filled⟩)
  | ⟨chunk :: chunks, filled⟩ =>
    (chunk, ⟨chunks, fun later member => filled later (mem_cons_of_mem _ member)⟩)

def readySource : FillSource (Fills α) α where
  next := Fills.next
  bytes := Fills.bytes
  bytes_next fills := by
    obtain ⟨chunks, filled⟩ := fills
    cases chunks with
    | nil => rfl
    | cons chunk chunks => rfl
  bytes_of_next_nil fills empty := by
    obtain ⟨chunks, filled⟩ := fills
    cases chunks with
    | nil => rfl
    | cons chunk chunks => exact absurd empty (filled chunk mem_cons_self)

/-- What a poll of a source answers. -/
inductive Poll (α : Type) where
  | pending
  | ready (chunk : α)

/-- The answers of a source that is polled again and again. -/
structure PolledFills (α : Type) where
  polls : List (Poll (List α))
  filled : ∀ chunk, .ready chunk ∈ polls → chunk ≠ []

/-- What the answers of a source give, without the waiting. -/
def readyBytes : List (Poll (List α)) → List α
  | [] => []
  | .pending :: polls => readyBytes polls
  | .ready chunk :: polls => chunk ++ readyBytes polls

def PolledFills.bytes (polled : PolledFills α) : List α := readyBytes polled.polls

/-- Polls until a fill is ready. -/
def awaitFill : List (Poll (List α)) → List α × List (Poll (List α))
  | [] => ([], [])
  | .pending :: polls => awaitFill polls
  | .ready chunk :: polls => (chunk, polls)

theorem awaitFill_subset (polls : List (Poll (List α))) : (awaitFill polls).2 ⊆ polls := by
  induction polls with
  | nil => exact List.Subset.refl _
  | cons poll _ ih =>
    cases poll with
    | pending => exact List.Subset.trans ih (subset_cons_self _ _)
    | ready => exact subset_cons_self _ _

theorem readyBytes_awaitFill (polls : List (Poll (List α))) :
    (awaitFill polls).1 ++ readyBytes (awaitFill polls).2 = readyBytes polls := by
  induction polls with
  | nil => rfl
  | cons poll _ ih =>
    cases poll with
    | pending => exact ih
    | ready => rfl

theorem readyBytes_of_awaitFill_nil {polls : List (Poll (List α))}
    (filled : ∀ chunk, .ready chunk ∈ polls → chunk ≠ []) (empty : (awaitFill polls).1 = []) :
    readyBytes polls = [] := by
  induction polls with
  | nil => rfl
  | cons poll _ ih =>
    cases poll with
    | pending => exact ih (fun chunk later => filled chunk (mem_cons_of_mem _ later)) empty
    | ready chunk => exact absurd empty (filled chunk mem_cons_self)

def PolledFills.next (polled : PolledFills α) : List α × PolledFills α :=
  ((awaitFill polled.polls).1,
    ⟨(awaitFill polled.polls).2,
      fun chunk later => polled.filled chunk (awaitFill_subset polled.polls later)⟩)

def polledSource : FillSource (PolledFills α) α where
  next := PolledFills.next
  bytes := PolledFills.bytes
  bytes_next polled := readyBytes_awaitFill polled.polls
  bytes_of_next_nil polled empty := readyBytes_of_awaitFill_nil polled.filled empty

variable (source : FillSource Source α)

/-- A reader with what is left in its buffer. -/
structure BufReader (Source α : Type) where
  buffer : List α
  inner : Source

namespace BufReader

/-- A reader that has not read anything. -/
def new (inner : Source) : BufReader Source α := ⟨[], inner⟩

/-- The buffer is filled again when nothing is left in it. -/
def fillBuf (reader : BufReader Source α) : List α × BufReader Source α :=
  if reader.buffer.isEmpty then
    ((source.next reader.inner).1, ⟨(source.next reader.inner).1, (source.next reader.inner).2⟩)
  else (reader.buffer, reader)

def consume (reader : BufReader Source α) (count : Nat) : BufReader Source α :=
  { reader with buffer := reader.buffer.drop count }

/-- What the reader still gives. -/
def remaining (reader : BufReader Source α) : List α := reader.buffer ++ source.bytes reader.inner

variable (reader : BufReader Source α)

theorem buffer_fillBuf : (reader.fillBuf source).2.buffer = (reader.fillBuf source).1 := by
  unfold fillBuf
  split
  · rfl
  · rfl

theorem remaining_fillBuf :
    (reader.fillBuf source).2.remaining source = reader.remaining source := by
  unfold fillBuf
  split
  · rename_i empty
    show (source.next reader.inner).1 ++ source.bytes (source.next reader.inner).2 = _
    rw [source.bytes_next, remaining, List.isEmpty_iff.mp empty, nil_append]
  · rfl

theorem exists_remaining : ∃ rest, reader.remaining source = (reader.fillBuf source).1 ++ rest := by
  refine ⟨source.bytes (reader.fillBuf source).2.inner, ?_⟩
  rw [← remaining_fillBuf, ← buffer_fillBuf]
  rfl

theorem remaining_eq_nil_of_fill (ended : (reader.fillBuf source).1 = []) :
    reader.remaining source = [] := by
  unfold fillBuf at ended
  split at ended
  · rename_i empty
    rw [remaining, List.isEmpty_iff.mp empty, source.bytes_of_next_nil _ ended, nil_append]
  · rename_i held
    exact absurd (List.isEmpty_iff.mpr ended) held

theorem remaining_consume {count : Nat} (within : count ≤ (reader.fillBuf source).1.length) :
    ((reader.fillBuf source).2.consume count).remaining source =
      (reader.remaining source).drop count := by
  rw [← buffer_fillBuf] at within
  rw [← remaining_fillBuf source reader]
  exact (drop_append_of_le_length within).symm

theorem length_remaining_consume_lt {count : Nat} (positive : 0 < count)
    (within : count ≤ (reader.fillBuf source).1.length) :
    (((reader.fillBuf source).2.consume count).remaining source).length <
      (reader.remaining source).length := by
  obtain ⟨rest, joined⟩ := reader.exists_remaining source
  rw [reader.remaining_consume source within, length_drop, joined, length_append]
  omega

end BufReader

end Rub
