import Rub.NetworkRequestWindow

/-!
Windows of the request registry that are read in a chain, each from the cursor the last one
left. What is observed between the first cursor and the last one is shown by some window, in
a lifecycle that is no earlier, as long as no window lost its cursor to the bound.
-/

namespace Rub

open Function List

namespace RuntimeObservatoryState

variable {state : RuntimeObservatoryState} {log : List String} {id : String} {sequence rank : Nat}

/-- The order lists the records by their sequences, within the bound. -/
structure Consistent (state : RuntimeObservatoryState) : Prop where
  nodup : state.requestOrder.Nodup
  listed : ∀ id, id ∈ state.requestOrder ↔ (state.requestRecords id).isSome = true
  increasing : Increasing (state.requestOrder.filterMap state.requestRecords)
  bounded : state.requestOrder.length ≤ observatoryRequestRecordLimit

theorem length_trim (order : List String) : ∀ state : RuntimeObservatoryState,
    (state.trimRequestRecordsFrom order).requestOrder.length ≤ observatoryRequestRecordLimit := by
  induction order with
  | nil => exact fun _ => Nat.zero_le _
  | cons oldest rest ih =>
    intro state
    unfold trimRequestRecordsFrom
    split
    · exact ih _
    · exact Nat.le_of_not_gt ‹_›

theorem length_upsert (registered : Registered log state)
    (bounded : state.requestOrder.length ≤ observatoryRequestRecordLimit)
    (record : ObservedNetworkRequestRecord) :
    (state.upsertObservedRequestRecord record).requestOrder.length ≤
      observatoryRequestRecordLimit := by
  unfold upsertObservedRequestRecord
  cases known : state.requestRecords record.requestId with
  | some existing =>
    have member := (registered.listed record.requestId).mpr (by rw [known]; rfl)
    have filled := length_pos_of_mem member
    simp only [length_append, length_singleton, length_erase_of_mem member]
    omega
  | none => exact length_trim _ _

theorem consistent_after (actions : List ObservatoryAction) : Consistent (after actions) := by
  suffices bounded : (after actions).requestOrder.length ≤ observatoryRequestRecordLimit from
    ⟨(registered_after actions).nodup, (registered_after actions).listed,
      (registered_after actions).increasing, bounded⟩
  induction actions using List.reverseRecOn with
  | nil => exact Nat.zero_le _
  | append_singleton actions action ih =>
    have step : after (actions ++ [action]) = (after actions).act action := by
      simp [after]
    rw [step]
    rcases act_cases (after actions) action with ⟨record, rfl⟩ | ⟨-, _, _, same⟩
    · exact length_upsert (registered_after actions) ih record
    · rw [same]
      exact ih

/-- An observation is evicted, or its record still stands in a lifecycle that is no earlier. -/
def Retained (id : String) (sequence rank : Nat) (state : RuntimeObservatoryState) : Prop :=
  sequence ≤ state.lastEvictedRequestSequence ∨ ∃ record, state.requestRecords id = some record ∧
    sequence ≤ record.sequence ∧ rank ≤ requestLifecycleRank record.lifecycle

theorem Retained.trim (order : List String) :
    ∀ state : RuntimeObservatoryState, Retained id sequence rank state →
      Retained id sequence rank (state.trimRequestRecordsFrom order) := by
  induction order with
  | nil => exact fun _ retained => retained
  | cons oldest rest ih =>
    intro state retained
    unfold trimRequestRecordsFrom
    split
    · apply ih
      rcases retained with evicted | ⟨record, known, later, further⟩
      · left
        cases held : state.requestRecords oldest with
        | none => simpa only [held] using evicted
        | some => simpa only [held] using Nat.le_trans evicted (Nat.le_max_left _ _)
      · by_cases same : oldest = id
        · subst same
          left
          simpa only [known] using Nat.le_trans later (Nat.le_max_right _ _)
        · exact .inr ⟨record, (update_of_ne (Ne.symm same) _ _).trans known, later, further⟩
    · exact retained

theorem rank_le_merge (existing : NetworkRequestRecord) (incoming : ObservedNetworkRequestRecord) :
    requestLifecycleRank existing.lifecycle ≤
        requestLifecycleRank (mergeObservedRequestRecord existing incoming).lifecycle ∧
      requestLifecycleRank incoming.lifecycle ≤
        requestLifecycleRank (mergeObservedRequestRecord existing incoming).lifecycle := by
  unfold mergeObservedRequestRecord
  simp only
  split <;> omega

theorem Retained.upsert (registered : Registered log state)
    (retained : Retained id sequence rank state) (record : ObservedNetworkRequestRecord) :
    Retained id sequence rank (state.upsertObservedRequestRecord record) := by
  have evictedKept := lastEvicted_markActive state
  unfold upsertObservedRequestRecord
  cases known : state.requestRecords record.requestId with
  | some existing =>
    rcases retained with evicted | ⟨held, found, later, further⟩
    · exact .inl (evictedKept ▸ evicted)
    · by_cases same : id = record.requestId
      · subst same
        cases known.symm.trans found
        have before := (registered.latest _ existing known).1.le_length
        have numbered := registered.requestSequence
        refine .inr ⟨_, update_self .., ?_,
          Nat.le_trans further (rank_le_merge existing record).1⟩
        show sequence ≤ state.requestSequence
        omega
      · exact .inr ⟨held, (update_of_ne same _ _).trans found, later, further⟩
  | none =>
    apply Retained.trim
    rcases retained with evicted | ⟨held, found, later, further⟩
    · exact .inl (evictedKept ▸ evicted)
    · refine .inr ⟨held, (update_of_ne ?_ _ _).trans found, later, further⟩
      rintro rfl
      cases known.symm.trans found

theorem Retained.act (registered : Registered log state)
    (retained : Retained id sequence rank state) (action : ObservatoryAction) :
    Retained id sequence rank (state.act action) := by
  rcases act_cases state action with ⟨record, rfl⟩ | ⟨-, _, _, same⟩
  · exact retained.upsert registered record
  · rw [same]
    exact retained

theorem trim_keeps_last (newest : String) (order : List String) (absent : newest ∉ order) :
    ∀ state : RuntimeObservatoryState,
      (state.trimRequestRecordsFrom (order ++ [newest])).requestRecords newest =
        state.requestRecords newest := by
  induction order with
  | nil => exact fun _ => rfl
  | cons oldest rest ih =>
    intro state
    rw [mem_cons, not_or] at absent
    rw [cons_append]
    unfold trimRequestRecordsFrom
    split
    · rw [ih absent.2]
      exact update_of_ne absent.1 _ _
    · rfl

/-- An observation is stored with its sequence, in a lifecycle that is no earlier. -/
theorem upsert_stored (registered : Registered log state) (record : ObservedNetworkRequestRecord) :
    ∃ stored, (state.upsertObservedRequestRecord record).requestRecords record.requestId =
      some stored ∧ stored.sequence = state.requestSequence ∧
        requestLifecycleRank record.lifecycle ≤ requestLifecycleRank stored.lifecycle := by
  unfold upsertObservedRequestRecord
  cases known : state.requestRecords record.requestId with
  | some existing => exact ⟨_, update_self .., rfl, (rank_le_merge existing record).2⟩
  | none =>
    exact ⟨_, (trim_keeps_last _ _ (registered.absent known) _).trans (update_self ..), rfl,
      Nat.le_refl _⟩

/-- What an authoritative window shows of an observation behind its cursor. -/
theorem Retained.shown (registered : Registered log state)
    (retained : Retained id sequence rank state) {cursor drops : Nat} (behind : cursor < sequence)
    (authoritative : (state.requestWindowAfter cursor drops drops).authoritative = true) :
    ∃ record ∈ (state.requestWindowAfter cursor drops drops).records,
      record.requestId = id ∧ rank ≤ requestLifecycleRank record.lifecycle := by
  have enough := lastEvicted_le_of_authoritative authoritative
  rcases retained with evicted | ⟨record, known, later, further⟩
  · omega
  · have listed := (registered.listed id).mpr (by rw [known]; rfl)
    refine ⟨record, mem_filter.mpr ⟨mem_filterMap.mpr ⟨id, listed, known⟩, ?_⟩,
      registered.named id record known, further⟩
    exact decide_eq_true (Nat.lt_of_lt_of_le behind later)

end RuntimeObservatoryState

open RuntimeObservatoryState

/-- What happens to the registry, or a read of the next window; the drop count has not moved. -/
inductive ChainEvent where
  | act (action : ObservatoryAction)
  | read (drops : Nat)

/-- The registry, the cursor of the next read and the windows so far. -/
structure WindowChain where
  observatory : RuntimeObservatoryState
  cursor : Nat
  windows : List NetworkRequestWindow

namespace WindowChain

def step (chain : WindowChain) : ChainEvent → WindowChain
  | .act action => { chain with observatory := chain.observatory.act action }
  | .read drops =>
    let window := chain.observatory.requestWindowAfter chain.cursor drops drops
    { chain with cursor := window.nextCursor, windows := chain.windows ++ [window] }

/-- A chain that starts at the cursor of the registry after some actions. -/
def run (before : List ObservatoryAction) (events : List ChainEvent) : WindowChain :=
  let start := RuntimeObservatoryState.after before
  events.foldl step ⟨start, start.requestCursor, []⟩

variable {before : List ObservatoryAction} {events past later : List ChainEvent}
  {record : ObservedNetworkRequestRecord} {stored : NetworkRequestRecord}

theorem run_concat (before : List ObservatoryAction) (events : List ChainEvent)
    (event : ChainEvent) : run before (events ++ [event]) = (run before events).step event := by
  simp [run]

/-- Some window shows the request in a lifecycle that is no earlier. -/
def Shows (chain : WindowChain) (requestId : String) (rank : Nat) : Prop :=
  ∃ window ∈ chain.windows, ∃ seen ∈ window.records, seen.requestId = requestId ∧
    rank ≤ requestLifecycleRank seen.lifecycle

/-- The observation that follows a part of the run stored that record. -/
def Stored (before : List ObservatoryAction) (past : List ChainEvent)
    (record : ObservedNetworkRequestRecord) (stored : NetworkRequestRecord) : Prop :=
  (run before (past ++ [.act (.upsert record)])).observatory.requestRecords record.requestId =
      some stored ∧
    requestLifecycleRank record.lifecycle ≤ requestLifecycleRank stored.lifecycle

/-- An observation of the run is retained or evicted, and shown once a read followed it or the
cursor passed it. -/
structure Inv (before : List ObservatoryAction) (events : List ChainEvent) (chain : WindowChain) :
    Prop where
  registered : ∃ log, Registered log chain.observatory
  reached : chain.cursor ≤ chain.observatory.requestCursor
  settled : (∀ window ∈ chain.windows, window.authoritative = true) → ∀ past record later,
    events = past ++ .act (.upsert record) :: later → ∃ stored, Stored before past record stored ∧
      Retained record.requestId (run before past).observatory.requestSequence
        (requestLifecycleRank stored.lifecycle) chain.observatory ∧
      ((∃ drops, ChainEvent.read drops ∈ later) ∨
          (run before past).observatory.requestSequence ≤ chain.cursor →
        chain.Shows record.requestId (requestLifecycleRank stored.lifecycle))

/-- Where a run that goes on splits at an observation, it split there before, or the
observation is the new event. -/
theorem split_concat {event : ChainEvent}
    (split : events ++ [event] = past ++ .act (.upsert record) :: later) :
    past = events ∧ later = [] ∧ event = .act (.upsert record) ∨
      ∃ rest, later = rest ++ [event] ∧ events = past ++ .act (.upsert record) :: rest := by
  rcases eq_nil_or_concat later with rfl | ⟨rest, last, rfl⟩
  · obtain ⟨same, ends⟩ := append_inj' split rfl
    exact .inl ⟨same.symm, rfl, (cons_eq_cons.mp ends).1⟩
  · rw [concat_eq_append, ← cons_append, ← append_assoc] at split
    obtain ⟨same, ends⟩ := append_inj' split rfl
    exact .inr ⟨rest, by rw [concat_eq_append, ends], same⟩

theorem Inv.act (inv : Inv before events (run before events)) (action : ObservatoryAction) :
    Inv before (events ++ [.act action]) ((run before events).step (.act action)) := by
  obtain ⟨⟨log, registered⟩, reached, settled⟩ := inv
  have cursor := registered.cursor
  refine ⟨⟨_, registered.act action⟩, ?_, fun authoritative past record later split => ?_⟩
  · show (run before events).cursor ≤ ((run before events).observatory.act action).requestCursor
    rw [(registered.act action).cursor, length_append]
    omega
  · rcases split_concat split with ⟨rfl, rfl, added⟩ | ⟨rest, rfl, earlier⟩
    · cases added
      obtain ⟨stored, held, numbered, further⟩ := upsert_stored registered record
      refine ⟨stored, ⟨by rw [run_concat]; exact held, further⟩,
        .inr ⟨stored, held, Nat.le_of_eq numbered.symm, Nat.le_refl _⟩, fun passed => ?_⟩
      have number := registered.requestSequence
      have passed : _ ≤ (run before past).cursor := passed.resolve_left (by simp)
      omega
    · obtain ⟨stored, kept, retained, shown⟩ := settled authoritative past record rest earlier
      exact ⟨stored, kept, retained.act registered action,
        fun read => shown (by simpa [step] using read)⟩

theorem Inv.read {chain : WindowChain} (inv : Inv before events chain) (drops : Nat) :
    Inv before (events ++ [.read drops]) (chain.step (.read drops)) := by
  obtain ⟨⟨log, registered⟩, reached, settled⟩ := inv
  refine ⟨⟨log, registered⟩, (registered.nextCursor_bounds reached drops drops).2,
    fun authoritative past record later split => ?_⟩
  rcases split_concat split with ⟨-, -, ⟨⟩⟩ | ⟨rest, -, earlier⟩
  obtain ⟨stored, kept, retained, shown⟩ := settled
    (fun window member => authoritative window (mem_append_left _ member)) past record rest earlier
  refine ⟨stored, kept, retained, fun _ => ?_⟩
  by_cases passed : (run before past).observatory.requestSequence ≤ chain.cursor
  · obtain ⟨window, member, seen⟩ := shown (.inr passed)
    exact ⟨window, mem_append_left _ member, seen⟩
  · -- The window that passes the observation shows it.
    have last : chain.observatory.requestWindowAfter chain.cursor drops drops ∈
        (chain.step (.read drops)).windows := mem_append_right _ mem_cons_self
    exact ⟨_, last, retained.shown registered (Nat.lt_of_not_le passed) (authoritative _ last)⟩

theorem inv_run (before : List ObservatoryAction) (events : List ChainEvent) :
    Inv before events (run before events) := by
  induction events using List.reverseRecOn with
  | nil =>
    refine ⟨⟨_, registered_after before⟩, Nat.le_refl _, fun _ past _ _ split => ?_⟩
    cases past <;> cases split
  | append_singleton events event ih =>
    rw [run_concat]
    cases event with
    | act action => exact ih.act action
    | read drops => exact ih.read drops

end WindowChain

open WindowChain in
/-- The registry stays consistent, no window shows a record at or below its cursor, and where
all windows of a chain are authoritative, every observation that a read follows is shown by
one of them, in a lifecycle no earlier than the observation left it in. -/
theorem chained_windows_complete (before : List ObservatoryAction) (events : List ChainEvent) :
    Consistent (after before) ∧
    (∀ cursor drops, ∀ seen ∈ ((after before).requestWindowAfter cursor drops drops).records,
      cursor < seen.sequence) ∧
    ((∀ window ∈ (run before events).windows, window.authoritative = true) →
      ∀ past record later, events = past ++ .act (.upsert record) :: later →
        (∃ drops, .read drops ∈ later) →
        ∃ stored, Stored before past record stored ∧
          (run before events).Shows record.requestId (requestLifecycleRank stored.lifecycle)) := by
  refine ⟨consistent_after before, fun cursor drops seen member => ?_,
    fun authoritative past record later split read => ?_⟩
  · exact of_decide_eq_true (mem_filter.mp member).2
  · obtain ⟨stored, kept, -, shown⟩ :=
      (inv_run before events).settled authoritative past record later split
    exact ⟨stored, kept, shown (.inl read)⟩

end Rub
