import Mathlib.Data.List.Induction
import Rub.NetworkRequests

/-!
What a bounded window of the request registry shows. A record carries the sequence of its
latest update, so a record that is updated after the window's end has left the window.
-/

namespace Rub

open Function List

def ObservatoryAction.upsertedId : ObservatoryAction → Option String
  | .upsert record => some record.requestId
  | _ => none

/-- The request ids of the observations of a run; the first one has sequence 1. -/
def upsertedIds (actions : List ObservatoryAction) : List String :=
  actions.filterMap ObservatoryAction.upsertedId

theorem upsertedIds_append_singleton (actions : List ObservatoryAction)
    (action : ObservatoryAction) :
    upsertedIds (actions ++ [action]) = upsertedIds actions ++ action.upsertedId.toList := by
  unfold upsertedIds
  cases found : action.upsertedId <;> simp [found]

/-- The observation with that sequence was of that request. -/
def Upserted (log : List String) (requestId : String) (sequence : Nat) : Prop :=
  ∃ index, sequence = index + 1 ∧ log[index]? = some requestId

variable {log : List String} {sequence : Nat} {requestId : String}

theorem Upserted.append (upserted : Upserted log requestId sequence) (added : String) :
    Upserted (log ++ [added]) requestId sequence := by
  obtain ⟨index, same, found⟩ := upserted
  refine ⟨index, same, ?_⟩
  rw [List.getElem?_append_left (List.getElem?_eq_some_iff.mp found).1]
  exact found

theorem upserted_last (log : List String) (requestId : String) :
    Upserted (log ++ [requestId]) requestId (log.length + 1) :=
  ⟨log.length, rfl, by simp⟩

theorem upserted_append_iff {added requestId : String} :
    Upserted (log ++ [added]) requestId sequence ↔
      Upserted log requestId sequence ∨ requestId = added ∧ sequence = log.length + 1 := by
  refine ⟨fun upserted => ?_, fun either => ?_⟩
  · obtain ⟨index, same, found⟩ := upserted
    rcases Nat.lt_or_ge index log.length with before | beyond
    · rw [List.getElem?_append_left before] at found
      exact .inl ⟨index, same, found⟩
    · rw [List.getElem?_append_right beyond, List.getElem?_singleton] at found
      split at found
      · cases found
        exact .inr ⟨rfl, by omega⟩
      · cases found
  · rcases either with before | ⟨rfl, rfl⟩
    · exact before.append added
    · exact upserted_last log requestId

theorem Upserted.le_length
    (upserted : Upserted log requestId sequence) : sequence ≤ log.length := by
  obtain ⟨index, same, found⟩ := upserted
  have inside := (List.getElem?_eq_some_iff.mp found).1
  omega

namespace RuntimeObservatoryState

def Increasing (records : List NetworkRequestRecord) : Prop :=
  records.Pairwise fun left right => left.sequence < right.sequence

/-- The registry knows the latest observation of each request, except for those it evicted
before `lastEvictedRequestSequence`. -/
structure Registered (log : List String) (state : RuntimeObservatoryState) : Prop where
  cursor : state.requestCursor = log.length
  nodup : state.requestOrder.Nodup
  listed : ∀ id, id ∈ state.requestOrder ↔ (state.requestRecords id).isSome = true
  named : ∀ id record, state.requestRecords id = some record → record.requestId = id
  latest : ∀ id record, state.requestRecords id = some record →
    Upserted log id record.sequence ∧
      ∀ sequence, Upserted log id sequence → sequence ≤ record.sequence
  evicted : ∀ id sequence, id ∉ state.requestOrder → Upserted log id sequence →
    sequence ≤ state.lastEvictedRequestSequence
  increasing : Increasing (state.requestOrder.filterMap state.requestRecords)

theorem registered_default : Registered [] default where
  cursor := rfl
  nodup := nodup_nil
  listed := fun _ => by simp [default]
  named := fun _ _ known => nomatch known
  latest := fun _ _ known => nomatch known
  evicted := fun id sequence _ upserted => by
    obtain ⟨index, _, found⟩ := upserted
    simp at found
  increasing := Pairwise.nil

variable {state next : RuntimeObservatoryState} {log : List String}

theorem Registered.requestSequence (registered : Registered log state) :
    state.requestSequence = log.length + 1 := by
  have cursor := registered.cursor
  unfold requestCursor at cursor
  unfold RuntimeObservatoryState.requestSequence
  omega

theorem Registered.congr (registered : Registered log state)
    (sequence : next.nextRequestSequence = state.nextRequestSequence)
    (records : next.requestRecords = state.requestRecords)
    (order : next.requestOrder = state.requestOrder)
    (evicted : next.lastEvictedRequestSequence = state.lastEvictedRequestSequence) :
    Registered log next := by
  refine ⟨?_, ?_, ?_, ?_, ?_, ?_, ?_⟩
  · rw [← registered.cursor, requestCursor, sequence, requestCursor]
  · rw [order]
    exact registered.nodup
  · rw [order, records]
    exact registered.listed
  · rw [records]
    exact registered.named
  · rw [records]
    exact registered.latest
  · rw [order, evicted]
    exact registered.evicted
  · rw [order, records]
    exact registered.increasing

theorem of_update_none {records : String → Option NetworkRequestRecord}
    {removed id : String} {record : NetworkRequestRecord}
    (kept : update records removed none id = some record) :
    records id = some record := by
  by_cases same : id = removed
  · subst same
    rw [update_self] at kept
    cases kept
  · rwa [update_of_ne same] at kept

theorem filterMap_update {order : List String} {records : String → Option NetworkRequestRecord}
    {id : String} (absent : id ∉ order) (value : Option NetworkRequestRecord) :
    order.filterMap (update records id value) = order.filterMap records := by
  refine filterMap_congr fun other member => update_of_ne ?_ _ _
  rintro rfl
  exact absent member

theorem Registered.trim (order : List String) :
    ∀ state : RuntimeObservatoryState, Registered log { state with requestOrder := order } →
      Registered log (state.trimRequestRecordsFrom order) := by
  induction order with
  | nil =>
    intro state registered
    exact registered
  | cons oldest rest ih =>
    intro state registered
    unfold trimRequestRecordsFrom
    split
    · obtain ⟨fresh, tail⟩ := nodup_cons.mp registered.nodup
      have known := (registered.listed oldest).mp mem_cons_self
      obtain ⟨evicted, held⟩ := Option.isSome_iff_exists.mp known
      have held : state.requestRecords oldest = some evicted := held
      apply ih
      refine ⟨registered.cursor, tail, fun id => ?_, fun id record kept => ?_,
        fun id record kept => ?_, fun id sequence absent upserted => ?_, ?_⟩
      · show id ∈ rest ↔ (update state.requestRecords oldest none id).isSome = true
        by_cases same : id = oldest
        · subst same
          simp [fresh]
        · rw [update_of_ne same, ← registered.listed id]
          simp [same]
      · exact registered.named id record (of_update_none kept)
      · exact registered.latest id record (of_update_none kept)
      · simp only [held]
        by_cases same : id = oldest
        · subst same
          have last := (registered.latest id evicted held).2 sequence upserted
          exact Nat.le_trans last (Nat.le_max_right _ _)
        · have gone := registered.evicted id sequence (by simp [same, absent]) upserted
          exact Nat.le_trans gone (Nat.le_max_left _ _)
      · show Increasing (rest.filterMap (update state.requestRecords oldest none))
        rw [filterMap_update fresh]
        exact registered.increasing.sublist ((sublist_cons_self _ _).filterMap _)
    · exact registered

/-- Every action but an observation leaves the registry alone. -/
theorem act_cases (state : RuntimeObservatoryState) (action : ObservatoryAction) :
    (∃ record, action = .upsert record) ∨ action.upsertedId = none ∧ ∃ status reason,
      state.act action = { state with status := status, degradedReason := reason } := by
  cases action with
  | upsert record => exact .inl ⟨record, rfl⟩
  | active =>
    refine .inr ⟨rfl, ?_⟩
    show ∃ status reason, state.markActive = _
    unfold markActive
    split <;> exact ⟨_, _, rfl⟩
  | ready =>
    refine .inr ⟨rfl, ?_⟩
    show ∃ status reason, state.markReady = _
    unfold markReady
    split <;> exact ⟨_, _, rfl⟩
  | degraded => exact .inr ⟨rfl, _, _, rfl⟩

theorem lastEvicted_markActive (state : RuntimeObservatoryState) :
    state.markActive.lastEvictedRequestSequence = state.lastEvictedRequestSequence := by
  unfold markActive
  split <;> rfl

theorem Registered.absent (registered : Registered log state) {id : String}
    (unknown : state.requestRecords id = none) : id ∉ state.requestOrder := by
  rw [registered.listed id, unknown]
  exact Bool.false_ne_true

section

variable (registered : Registered log state)

include registered

/-- The registry once a numbered record stands for the observed request, at the back of the
order. -/
theorem Registered.insert (requestId : String)
    (record : NetworkRequestRecord) (name : record.requestId = requestId)
    (numbered : record.sequence = log.length + 1)
    (sequence : next.nextRequestSequence = log.length + 2) (records : next.requestRecords =
      update state.requestRecords requestId (some record))
    (evicted : next.lastEvictedRequestSequence = state.lastEvictedRequestSequence)
    (order : next.requestOrder = state.requestOrder.erase requestId ++ [requestId]) :
    Registered (log ++ [requestId]) next := by
  have kept {id : String} {held : NetworkRequestRecord}
      (found : next.requestRecords id = some held) :
      (id = requestId ∧ held = record) ∨
        (id ≠ requestId ∧ state.requestRecords id = some held) := by
    rw [records] at found
    by_cases same : id = requestId
    · rw [same, update_self] at found
      exact .inl ⟨same, (Option.some.inj found).symm⟩
    · rw [update_of_ne same] at found
      exact .inr ⟨same, found⟩
  have listed (id : String) :
      id ∈ next.requestOrder ↔ id ∈ state.requestOrder ∨ id = requestId := by
    rw [order, mem_append, mem_singleton, registered.nodup.mem_erase_iff]
    by_cases same : id = requestId <;> simp [same]
  refine ⟨?_, ?_, fun id => ?_, fun id held found => ?_, fun id held found => ?_,
    fun id sequence absent upserted => ?_, ?_⟩
  · rw [requestCursor, sequence, length_append]
    rfl
  · rw [order]
    refine (registered.nodup.erase _).append (nodup_singleton _) ?_
    intro id member last
    exact (registered.nodup.mem_erase_iff.mp member).1 (mem_singleton.mp last)
  · rw [listed id, records, registered.listed id]
    by_cases same : id = requestId <;> simp [same]
  · rcases kept found with ⟨same, rfl⟩ | ⟨_, known⟩
    · rw [name, same]
    · exact registered.named id held known
  · rcases kept found with ⟨rfl, rfl⟩ | ⟨other, known⟩
    · rw [numbered]
      refine ⟨upserted_last _ _, fun sequence upserted => ?_⟩
      have bound := upserted.le_length
      rw [length_append] at bound
      exact bound
    · obtain ⟨last, latest⟩ := registered.latest id held known
      refine ⟨last.append _, fun sequence upserted => ?_⟩
      rcases upserted_append_iff.mp upserted with before | ⟨same, _⟩
      · exact latest sequence before
      · exact absurd same other
  · rw [listed id, not_or] at absent
    rw [evicted]
    rcases upserted_append_iff.mp upserted with before | ⟨same, _⟩
    · exact registered.evicted id sequence absent.1 before
    · exact absurd same absent.2
  · have moved : requestId ∉ state.requestOrder.erase requestId := fun member =>
      (registered.nodup.mem_erase_iff.mp member).1 rfl
    rw [order, records, filterMap_append, filterMap_update moved]
    refine pairwise_append.mpr
      ⟨registered.increasing.sublist (erase_sublist.filterMap _), by simp, ?_⟩
    intro older member newest last
    obtain ⟨other, -, found⟩ := mem_filterMap.mp member
    have before := (registered.latest other older found).1.le_length
    have same : newest = record := by simpa [eq_comm] using last
    rw [same, numbered]
    exact Nat.lt_succ_of_le before

theorem Registered.upsert (record : ObservedNetworkRequestRecord) :
    Registered (log ++ [record.requestId]) (state.upsertObservedRequestRecord record) := by
  have sequence := registered.requestSequence
  have advanced : state.requestSequence + 1 = log.length + 2 := by rw [sequence]
  have sameEvicted := lastEvicted_markActive state
  unfold upsertObservedRequestRecord
  cases known : state.requestRecords record.requestId with
  | some existing =>
    have name := registered.named _ existing known
    exact registered.insert record.requestId
      { mergeObservedRequestRecord existing record with sequence := state.requestSequence }
      name sequence advanced rfl sameEvicted rfl
  | none =>
    apply Registered.trim
    exact registered.insert record.requestId
      (authoritativeRequestRecord record state.requestSequence) rfl sequence advanced rfl
      sameEvicted (by rw [erase_of_not_mem (registered.absent known)])

theorem Registered.act (action : ObservatoryAction) :
    Registered (log ++ action.upsertedId.toList) (state.act action) := by
  rcases act_cases state action with ⟨record, rfl⟩ | ⟨quiet, _, _, same⟩
  · exact registered.upsert record
  · rw [quiet, same, Option.toList_none, append_nil]
    exact registered.congr rfl rfl rfl rfl

end

theorem registered_after (actions : List ObservatoryAction) :
    Registered (upsertedIds actions) (after actions) := by
  induction actions using List.reverseRecOn with
  | nil => exact registered_default
  | append_singleton actions action ih =>
    have step : after (actions ++ [action]) = (after actions).act action := by
      simp [after]
    rw [step, upsertedIds_append_singleton]
    exact ih.act action

/-- A window that starts at a cursor the registry has reached ends between that cursor and the
last observation. -/
theorem Registered.nextCursor_bounds (registered : Registered log state) {cursor : Nat}
    (reached : cursor ≤ state.requestCursor) (drops lastDrops : Nat) :
    cursor ≤ (state.requestWindowAfter cursor drops lastDrops).nextCursor ∧
      (state.requestWindowAfter cursor drops lastDrops).nextCursor ≤ state.requestCursor := by
  show cursor ≤ (lastSequence (state.requestRecordsAfter cursor)).getD state.requestCursor ∧
    (lastSequence (state.requestRecordsAfter cursor)).getD state.requestCursor ≤ state.requestCursor
  cases last : lastSequence (state.requestRecordsAfter cursor) with
  | none => exact ⟨reached, Nat.le_refl _⟩
  | some =>
    obtain ⟨record, member, rfl⟩ := mem_map.mp (List.max?_mem last)
    obtain ⟨shown, later⟩ := mem_filter.mp member
    obtain ⟨id, -, found⟩ := mem_filterMap.mp shown
    have numbered := (registered.latest id record found).1.le_length
    rw [registered.cursor]
    exact ⟨Nat.le_of_lt (by simpa using later), numbered⟩

theorem lastEvicted_le_of_authoritative {cursor drops lastDrops : Nat} (authoritative :
      (state.requestWindowDegradedReason cursor drops lastDrops).isNone = true) :
    state.lastEvictedRequestSequence ≤ cursor := by
  by_contra lost
  simp [requestWindowDegradedReason, Nat.lt_of_not_le lost] at authoritative

/-- A request observed inside an authoritative window is shown exactly if it was not observed
again after the window's end. -/
theorem Registered.shown_iff (registered : Registered log state)
    {cursor endCursor sequence : Nat} (enough : state.lastEvictedRequestSequence ≤ cursor)
    {id : String} (lower : cursor < sequence) (upserted : Upserted log id sequence) :
    (∃ record ∈ state.requestRecordsBetween cursor endCursor, record.requestId = id) ↔
      ∀ later, Upserted log id later → later ≤ endCursor := by
  have present : id ∈ state.requestOrder := by
    by_contra absent
    have evicted := registered.evicted id sequence absent upserted
    omega
  obtain ⟨record, held⟩ := Option.isSome_iff_exists.mp ((registered.listed id).mp present)
  obtain ⟨last, latest⟩ := registered.latest id record held
  refine ⟨fun shown later again => ?_, fun settled => ?_⟩
  · obtain ⟨other, member, same⟩ := shown
    obtain ⟨listed, inside⟩ := mem_filter.mp member
    obtain ⟨otherId, _, found⟩ := mem_filterMap.mp listed
    have own : otherId = id := by rw [← registered.named otherId other found, same]
    rw [own, held] at found
    cases found
    have upper := (of_decide_eq_true inside).2
    exact Nat.le_trans (latest later again) upper
  · refine ⟨record, mem_filter.mpr ⟨mem_filterMap.mpr ⟨id, present, held⟩, ?_⟩,
      registered.named id record held⟩
    have after := latest sequence upserted
    exact decide_eq_true ⟨Nat.lt_of_lt_of_le lower after, settled _ last⟩

end RuntimeObservatoryState

open RuntimeObservatoryState in
/-- An authoritative bounded window shows every request observed inside it exactly if none of
them was observed again after its end. -/
theorem bounded_window_complete_iff (actions : List ObservatoryAction)
    (cursor endCursor drops : Nat)
    (authoritative : ((after actions).requestWindowBetween cursor endCursor drops
      drops).authoritative = true) :
    (∀ id sequence, cursor < sequence → sequence ≤ endCursor →
      Upserted (upsertedIds actions) id sequence →
        ∃ record ∈ ((after actions).requestWindowBetween cursor endCursor drops drops).records,
          record.requestId = id) ↔
    ∀ id sequence, cursor < sequence → sequence ≤ endCursor →
      Upserted (upsertedIds actions) id sequence →
        ∀ later, Upserted (upsertedIds actions) id later → later ≤ endCursor := by
  have registered := registered_after actions
  have enough := lastEvicted_le_of_authoritative authoritative
  constructor
  · intro complete id sequence lower upper upserted
    exact (registered.shown_iff enough lower upserted).mp
      (complete id sequence lower upper upserted)
  · intro settled id sequence lower upper upserted
    exact (registered.shown_iff enough lower upserted).mpr
      (settled id sequence lower upper upserted)

/-- A request that carries nothing else. -/
def getRequest (requestId url : String) (lifecycle : NetworkRequestLifecycle) :
    ObservedNetworkRequestRecord :=
  { requestId, lifecycle, url, method := "GET", tabTargetId := none,
    status := none, requestHeaders := [], responseHeaders := [], requestBody := none,
    responseBody := none, originalUrl := none, rewrittenUrl := none, appliedRuleEffects := [],
    errorText := none, frameId := none, resourceType := none, mimeType := none }

def observed (requestId : String) (lifecycle : NetworkRequestLifecycle) : ObservatoryAction :=
  .upsert (getRequest requestId "https://example.test" lifecycle)

open RuntimeObservatoryState in
/-- Two requests, the second of them inside the window. -/
theorem settled_window_complete :
    ∃ window, window = (after [observed "a" .pending, observed "b" .pending]).requestWindowBetween
        (after [observed "a" .pending]).requestCursor 2 0 0 ∧
      window.authoritative = true ∧
      ∀ id sequence, (after [observed "a" .pending]).requestCursor < sequence → sequence ≤ 2 →
        Upserted (upsertedIds [observed "a" .pending, observed "b" .pending]) id sequence →
          ∃ record ∈ window.records, record.requestId = id :=
  ⟨_, rfl, rfl, (bounded_window_complete_iff [observed "a" .pending, observed "b" .pending]
    _ 2 0 rfl).mpr fun _ _ _ _ _ _ upserted => upserted.le_length⟩

open RuntimeObservatoryState in
/-- A request that completes after the window's end is missing from an authoritative window
that it was first observed in. -/
theorem updated_request_leaves_window :
    ∃ window,
      window = (after [observed "a" .pending, observed "a" .completed]).requestWindowBetween
        (after []).requestCursor (after [observed "a" .pending]).requestCursor 0 0 ∧
      window.authoritative = true ∧
      Upserted (upsertedIds [observed "a" .pending, observed "a" .completed]) "a" 1 ∧
      (after []).requestCursor < 1 ∧ 1 ≤ (after [observed "a" .pending]).requestCursor ∧
      ¬ ∃ record ∈ window.records, record.requestId = "a" := by
  refine ⟨_, rfl, rfl, ⟨0, rfl, rfl⟩, by decide, by decide, ?_⟩
  rintro ⟨record, member, _⟩
  cases (show record ∈ [] from member)

end Rub
