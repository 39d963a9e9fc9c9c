import Rub.PostCommitProjections

/-!
What becomes of a submitted projection. The queue is emptied and trimmed from its front, so
the submissions leave it in order, each into the hands of a drain or into the count of the
dropped ones. A cancelled drain loses what it holds, and the flag it has set again.
-/

namespace Rub

open List ProjectionState Option

variable {sizes : SerializedSizes} {submission : Submission}

/-- The submissions that left the queue without being dropped. -/
def survivors (submitted : List PostCommitProjection) (dropped : List Nat) (removed : Nat) :
    List Submission :=
  (submitted.zipIdx.take removed).filter fun submission => submission.2 ∉ dropped

variable {submitted : List PostCommitProjection} {dropped : List Nat} {removed : Nat}

theorem number_lt_of_mem_take (member : submission ∈ submitted.zipIdx.take removed) :
    submission.2 < removed := by
  obtain ⟨index, bound, rfl⟩ := mem_take_iff_getElem.mp member
  rw [getElem_zipIdx]
  omega

theorem number_of_mem_drop_take {count : Nat}
    (member : submission ∈ (submitted.zipIdx.drop removed).take count) :
    removed ≤ submission.2 ∧ submission.2 < removed + count := by
  obtain ⟨index, bound, rfl⟩ := mem_take_iff_getElem.mp member
  rw [getElem_drop, getElem_zipIdx]
  omega

theorem survivors_drop (projection : PostCommitProjection) (count : Nat)
    (within : removed ≤ submitted.length) :
    survivors (submitted ++ [projection]) (dropped ++ List.range' removed count)
      (removed + count) = survivors submitted dropped removed := by
  have older : (submitted ++ [projection]).zipIdx.take removed = submitted.zipIdx.take removed := by
    rw [zipIdx_append, take_append_of_le_length (by simpa using within)]
  have newer : (((submitted ++ [projection]).zipIdx.drop removed).take count).filter
      (fun submission => submission.2 ∉ dropped ++ List.range' removed count) = [] := by
    rw [filter_eq_nil_iff]
    intro submission member
    have numbers := number_of_mem_drop_take member
    simp [numbers]
  unfold survivors
  rw [take_add, filter_append, newer, append_nil, older]
  refine filter_congr fun submission member => ?_
  have below := number_lt_of_mem_take member
  simp [below]

variable {projection : PostCommitProjection} {rest : List PostCommitProjection}

theorem survivors_pop (front : submitted.drop removed = projection :: rest)
    (below : ∀ number ∈ dropped, number < removed) :
    survivors submitted dropped (removed + 1) =
      survivors submitted dropped removed ++ [(projection, removed)] := by
  have found : submitted[removed]? = some projection := by
    rw [← List.head?_drop, front]
    rfl
  have numbered : submitted.zipIdx[removed]? = some (projection, removed) := by
    rw [List.getElem?_zipIdx, found]
    simp
  have kept : removed ∉ dropped := fun member => Nat.lt_irrefl _ (below removed member)
  unfold survivors
  rw [take_add_one, numbered, filter_append]
  simp [kept]

/-- Every submission is in the queue, dropped, in the hands of the drain that holds the lock,
or recorded. -/
structure Accounted (state : ProjectionState) : Prop where
  within : state.queue.entries.length ≤ state.submitted.length
  queued : state.queue.entries = state.submitted.drop state.removed
  dropped_lt : ∀ number ∈ state.dropped, number < state.removed
  dropped_nodup : state.dropped.Nodup
  counted : state.queue.droppedBeforeProjection = state.dropped.length
  history : survivors state.submitted state.dropped state.removed =
    state.inHistory ++ ((state.holder.map fun held => held.2.beforeHistory).getD [])
  capture : survivors state.submitted state.dropped state.removed =
    state.inCapture.map Prod.fst ++ ((state.holder.map fun held => held.2.beforeCapture).getD [])

theorem accounted_initial : Accounted .initial := by
  refine ⟨Nat.le_refl _, rfl, ?_, nodup_nil, rfl, rfl, rfl⟩
  intro number member
  cases member

variable {state : ProjectionState}

theorem Accounted.submit (accounted : Accounted state)
    (projection : PostCommitProjection) : Accounted (state.afterSubmit projection) := by
  have within := accounted.within
  have suffix : (state.queue.submit projection).entries <:+ state.queue.entries ++ [projection] :=
    trimOldest_suffix _ _
  have shorter := suffix.length_le
  rw [length_append, length_singleton] at shorter
  have removed : (state.afterSubmit projection).removed = state.removed +
      (state.queue.entries.length + 1 - (state.queue.submit projection).entries.length) := by
    simp only [removed, afterSubmit, length_append, length_singleton]
    omega
  have inside : state.removed ≤ state.submitted.length := Nat.sub_le _ _
  have survived := @survivors_drop state.submitted state.dropped state.removed projection
    (state.queue.entries.length + 1 - (state.queue.submit projection).entries.length) inside
  rw [← removed] at survived
  refine ⟨?_, ?_, ?_, ?_, ?_, ?_, ?_⟩
  · simp only [afterSubmit, length_append, length_singleton]
    omega
  · rw [removed]
    have whole : state.queue.entries ++ [projection] =
        (state.submitted ++ [projection]).drop state.removed := by
      rw [drop_append_of_le_length inside, ← accounted.queued]
    have dropped := suffix_iff_eq_drop.mp suffix
    rw [length_append, length_singleton, whole, drop_drop] at dropped
    exact dropped
  · intro number member
    rcases mem_append.mp member with older | newer
    · have := accounted.dropped_lt number older
      omega
    · have := List.mem_range'_1.mp newer
      omega
  · refine nodup_append.mpr ⟨accounted.dropped_nodup, nodup_range', ?_⟩
    intro older olderMember newer newerMember same
    have := accounted.dropped_lt older olderMember
    have := List.mem_range'_1.mp newerMember
    omega
  · have counted := state.queue.submit_dropped projection
    rw [accounted.counted] at counted
    simpa [afterSubmit] using counted
  · exact survived.trans accounted.history
  · exact survived.trans accounted.capture

theorem Accounted.pop {drain : Drain} (accounted : Accounted state)
    (held : state.holder = some (drain, .draining))
    (filled : state.queue.entries = projection :: rest) :
    Accounted (state.popped drain projection rest) := by
  have within := accounted.within
  have queued := accounted.queued
  rw [filled] at queued
  rw [filled, length_cons] at within
  have removed : state.submitted.length - rest.length = state.removed + 1 := by
    rw [removed, filled, length_cons]
    omega
  have survived := survivors_pop queued.symm accounted.dropped_lt
  have history := accounted.history
  have capture := accounted.capture
  rw [held] at history capture
  simp only [map_some, getD_some, DrainStage.beforeHistory, append_nil] at history
  simp only [map_some, getD_some, DrainStage.beforeCapture, append_nil] at capture
  refine ⟨?_, ?_, ?_, accounted.dropped_nodup, accounted.counted, ?_, ?_⟩
  · simp only [popped]
    omega
  · change rest = state.submitted.drop (state.submitted.length - rest.length)
    rw [removed, ← tail_drop, ← queued]
    rfl
  · intro number member
    have := accounted.dropped_lt number member
    simp only [popped, ProjectionState.removed, removed]
    exact Nat.lt_succ_of_lt this
  · simp only [popped, ProjectionState.removed, removed]
    rw [← history]
    exact survived
  · simp only [popped, ProjectionState.removed, removed]
    rw [← capture]
    exact survived

variable {action : ProjectionAction} {next : ProjectionState}

/-- Every step accounts for every submission, unless a drain is cancelled with one in hand. -/
theorem Accounted.step (accounted : Accounted state)
    (kept : action ≠ .cancelHolding) (taken : ProjectionStep sizes state action next) :
    Accounted next := by
  have history := accounted.history
  have capture := accounted.capture
  cases taken with
  | submit => exact accounted.submit _
  | spawn =>
    unfold afterSpawn
    split
    · exact { accounted with }
    · exact { accounted with }
  | awaitDrain | query | cancelWaiting => exact { accounted with }
  | acquire free =>
    rw [free] at history capture
    exact { accounted with history := history, capture := capture }
  | settle held | clearFlag held | finish held | findPending held | yield held | rearm held =>
    rw [held] at history capture
    exact { accounted with history := history, capture := capture }
  | pop held filled =>
    exact accounted.pop held filled
  | recordHistory held =>
    rw [held] at history capture
    refine { accounted with history := history.trans ?_, capture := capture }
    exact (append_nil _).symm
  | recordCapture held =>
    rw [held] at history capture
    refine { accounted with history := history, capture := capture.trans ?_ }
    simp [DrainStage.beforeCapture, afterRecordCapture]
  | cancelHolding => exact absurd rfl kept

/-- What the capture is given for a recorded submission. -/
def capturedCommand (recorded : Submission × Except RubError SecretSources) : CapturedCommand :=
  ⟨redactedPostCommitRequest recorded.1.1.request recorded.2,
    recorded.1.1.workflowCaptureResponse, recorded.1.1.workflowCaptureDeliveryState⟩

/-- The two views are what the recorded submissions make of them. -/
structure Recorded (sizes : SerializedSizes) (state : ProjectionState) : Prop where
  history : state.history = recordHistory (state.inHistory.map fun submission =>
    (submission.1.request, submission.1.response))
  capture : state.capture =
    recordCaptures sizes.captureEntry (state.inCapture.map capturedCommand)

theorem Recorded.step (recorded : Recorded sizes state)
    (taken : ProjectionStep sizes state action next) :
    Recorded sizes next := by
  cases taken with
  | recordHistory =>
    refine { recorded with history := ?_ }
    simp [afterRecordHistory, recorded.history, recordHistory]
  | recordCapture =>
    refine { recorded with capture := ?_ }
    simp [afterRecordCapture, recorded.capture, recordCaptures, capturedCommand]
  | spawn =>
    unfold afterSpawn
    split
    · exact { recorded with }
    · exact { recorded with }
  | _ => exact { recorded with }

/-- A drain that set the flag is still to clear it. -/
def ProjectionState.Claimed (state : ProjectionState) : Prop :=
  (∃ drain ∈ state.waiting, drain.claims = true) ∨
    ∃ drain stage, state.holder = some (drain, stage) ∧ drain.claims = true ∧
      stage.beforeClear = true

/-- Some drain will look at the queue again, and cannot be cancelled before. -/
def ProjectionState.Watched (state : ProjectionState) : Prop :=
  (∃ drain ∈ state.waiting, drain.claims = true ∨ drain.origin ≠ .query) ∨ state.holder ≠ none

theorem ProjectionState.Claimed.watched (claimed : state.Claimed) : state.Watched := by
  rcases claimed with ⟨drain, member, claims⟩ | ⟨drain, stage, held, -, -⟩
  · exact .inl ⟨drain, member, .inl claims⟩
  · refine .inr ?_
    rw [held]
    exact some_ne_none _

/-- A raised flag has an owner, and a filled queue has a drain to come. -/
structure Served (state : ProjectionState) : Prop where
  claimed : state.scheduled = true → state.Claimed
  watched : state.queue.entries ≠ [] → state.owed ≠ 0 ∨ state.Watched

theorem served_initial : Served .initial := by
  refine ⟨fun flag => ?_, fun filled => absurd rfl filled⟩
  cases flag

theorem mem_eraseIdx_of_ne {drains : List Drain} {index : Nat} {erased drain : Drain}
    (found : drains[index]? = some erased) (member : drain ∈ drains) (other : drain ≠ erased) :
    drain ∈ drains.eraseIdx index := by
  obtain ⟨position, bound, rfl⟩ := mem_iff_getElem.mp member
  rw [mem_eraseIdx_iff_getElem]
  refine ⟨position, bound, fun same => other ?_, rfl⟩
  subst same
  rw [List.getElem?_eq_getElem bound] at found
  exact some.inj found

/-- A query is cancelled only while it waits for the lock and has not set the flag. -/
def ProjectionState.SafelyCancelled (state : ProjectionState) : ProjectionAction → Prop
  | .cancelWaiting index => (state.waiting[index]?).any Drain.rearmed = false
  | .cancelHolding => False
  | _ => True

instance (state : ProjectionState) (action : ProjectionAction) :
    Decidable (state.SafelyCancelled action) :=
  match action with
  | .cancelWaiting index => inferInstanceAs (Decidable ((state.waiting[index]?).any _ = false))
  | .cancelHolding => isFalse id
  | .submit .. | .spawn | .awaitDrain | .query | .acquire _ | .pop | .recordHistory
  | .recordCapture _ | .clearFlag | .inspect | .rearm => isTrue trivial

section

variable (served : Served state)

include served

variable {drain : Drain}

/-- A drain that takes the lock goes on for the one that waited. -/
theorem Served.acquire {index : Nat} (free : state.holder = none)
    (found : state.waiting[index]? = some drain) :
    Served { state with
      waiting := state.waiting.eraseIdx index, holder := some (drain, .draining) } := by
  refine ⟨fun flag => ?_, fun _ => .inr (.inr (some_ne_none _))⟩
  rcases served.claimed flag with ⟨owner, member, claims⟩ | ⟨owner, stage, held, -, -⟩
  · by_cases same : owner = drain
    · subst same
      exact .inr ⟨owner, .draining, rfl, claims, rfl⟩
    · exact .inl ⟨owner, mem_eraseIdx_of_ne found member same, claims⟩
  · rw [free] at held
    cases held

/-- A query that is cancelled safely was nobody's owner. -/
theorem Served.cancelWaiting {index : Nat} (found : state.waiting[index]? = some drain)
    (cancellable : drain.origin = .query) (unarmed : drain.rearmed = false) :
    Served { state with waiting := state.waiting.eraseIdx index } := by
  have idle : drain.claims = false := by simp [Drain.claims, cancellable, unarmed]
  constructor
  · intro flag
    rcases served.claimed flag with ⟨owner, member, claims⟩ | holding
    · refine .inl ⟨owner, mem_eraseIdx_of_ne found member ?_, claims⟩
      rintro rfl
      rw [idle] at claims
      cases claims
    · exact .inr holding
  · intro filled
    rcases served.watched filled with owing | ⟨owner, member, watches⟩ | holding
    · exact .inl owing
    · refine .inr (.inl ⟨owner, mem_eraseIdx_of_ne found member ?_, watches⟩)
      rintro rfl
      rcases watches with claims | other
      · rw [idle] at claims
        cases claims
      · exact other cancellable
    · exact .inr (.inr holding)

/-- While the lock holder has not cleared the flag, its next stage keeps what it owns. -/
theorem Served.hold {stage later : DrainStage} (held : state.holder = some (drain, stage))
    (holds : next.holder = some (drain, later)) (waiting : next.waiting = state.waiting)
    (flag : next.scheduled = true → state.scheduled = true)
    (keeps : stage.beforeClear = true → later.beforeClear = true) : Served next := by
  refine ⟨fun up => ?_, fun _ => .inr (.inr ?_)⟩
  · rcases served.claimed (flag up) with
      ⟨owner, member, claims⟩ | ⟨owner, at_, same, claims, before⟩
    · exact .inl ⟨owner, waiting ▸ member, claims⟩
    · rw [held] at same
      cases same
      exact .inr ⟨drain, later, holds, claims, keeps before⟩
  · rw [holds]
    exact some_ne_none _

/-- Every step leaves an owner for the flag and a drain for the queue, where queries are
cancelled safely. -/
theorem Served.step
    (safely : state.SafelyCancelled action) (taken : ProjectionStep sizes state action next) :
    Served next := by
  cases taken with
  | submit =>
    exact ⟨served.claimed, fun _ => .inl (Nat.succ_ne_zero _)⟩
  | spawn =>
    unfold afterSpawn
    split
    · rename_i flag
      exact ⟨served.claimed, fun _ => .inr (served.claimed flag).watched⟩
    · have claimed : ({ state with
          scheduled := true
          waiting := state.waiting ++ [⟨.spawned, false⟩]
          owed := state.owed - 1 } : ProjectionState).Claimed :=
        .inl ⟨_, mem_append_right _ (mem_singleton_self _), rfl⟩
      exact ⟨fun _ => claimed, fun _ => .inr claimed.watched⟩
  | awaitDrain =>
    refine ⟨fun flag => ?_, fun _ => .inr (.inl ⟨_, mem_append_right _
      (mem_singleton_self _), .inr (by decide)⟩)⟩
    exact (served.claimed flag).imp
      (fun ⟨drain, member, claims⟩ => ⟨drain, mem_append_left _ member, claims⟩) id
  | query =>
    refine ⟨fun flag => ?_, fun filled => ?_⟩
    · exact (served.claimed flag).imp
        (fun ⟨drain, member, claims⟩ => ⟨drain, mem_append_left _ member, claims⟩) id
    · exact (served.watched filled).imp_right fun watched => watched.imp
        (fun ⟨drain, member, watches⟩ => ⟨drain, mem_append_left _ member, watches⟩) id
  | acquire free found => exact served.acquire free found
  | settle held | pop held | recordHistory held | recordCapture held =>
    exact served.hold held rfl rfl id fun _ => rfl
  | clearFlag => exact ⟨fun flag => (nomatch flag), fun _ => .inr (.inr (some_ne_none _))⟩
  | finish held empty =>
    refine ⟨fun flag => ?_, fun filled => absurd empty filled⟩
    rcases served.claimed flag with waiting | ⟨owner, stage, same, -, before⟩
    · exact .inl waiting
    · rw [held] at same
      cases same
      cases before
  | findPending held => exact served.hold held rfl rfl id id
  | yield held flag =>
    have claimed : ({ state with holder := none } : ProjectionState).Claimed := by
      rcases served.claimed flag with waiting | ⟨owner, stage, same, -, before⟩
      · exact .inl waiting
      · rw [held] at same
        cases same
        cases before
    exact ⟨fun _ => claimed, fun _ => .inr claimed.watched⟩
  | rearm held flag =>
    rename_i drain
    have claimed : ({ state with
        scheduled := true
        holder := none
        waiting := state.waiting ++ [{ drain with rearmed := true }] } : ProjectionState).Claimed :=
      .inl ⟨_, mem_append_right _ (mem_singleton_self _), by simp [Drain.claims]⟩
    exact ⟨fun _ => claimed, fun _ => .inr claimed.watched⟩
  | cancelWaiting found cancellable =>
    refine served.cancelWaiting found cancellable ?_
    simpa [SafelyCancelled, found] using safely
  | cancelHolding => exact safely.elim

end

/-- No drain runs or is to come. -/
def ProjectionState.Quiet (state : ProjectionState) : Prop :=
  state.waiting = [] ∧ state.holder = none ∧ state.owed = 0

/-- The submission is recorded in both views, and not counted as dropped. -/
def ProjectionState.Projected (state : ProjectionState) (submission : Submission) : Prop :=
  submission ∈ state.inHistory ∧ submission ∈ state.inCapture.map Prod.fst ∧
    submission.2 ∉ state.dropped

/-- The submission is counted as dropped, and recorded in no view. -/
def ProjectionState.Dropped (state : ProjectionState) (submission : Submission) : Prop :=
  submission.2 ∈ state.dropped ∧ submission ∉ state.inHistory ∧
    submission ∉ state.inCapture.map Prod.fst

/-- The submission is still in the queue, or in the hands of the drain that holds the lock. -/
def ProjectionState.Pending (state : ProjectionState) (submission : Submission) : Prop :=
  (state.removed ≤ submission.2 ∨
    ∃ drain stage, state.holder = some (drain, stage) ∧ submission ∈ stage.beforeCapture) ∧
  submission.2 ∉ state.dropped

/-- Nothing is lost, recorded twice or out of order, or left behind. A view that takes a
sublist of the numbered submissions takes each at most once, and in order. -/
structure Settled (sizes : SerializedSizes) (state : ProjectionState) : Prop where
  recorded : Recorded sizes state
  history_once : state.inHistory.Sublist state.submitted.zipIdx
  capture_once : (state.inCapture.map Prod.fst).Sublist state.submitted.zipIdx
  dropped_once : state.dropped.Nodup
  counted : state.queue.droppedBeforeProjection = state.dropped.length
  accounted : ∀ submission ∈ state.submitted.zipIdx, state.Projected submission ∨
    state.Dropped submission ∨ state.Pending submission
  quiet : state.Quiet → state.queue.entries = [] ∧
    ∀ submission ∈ state.submitted.zipIdx, state.Projected submission ∨ state.Dropped submission

theorem beforeHistory_subset (stage : DrainStage) : stage.beforeHistory ⊆ stage.beforeCapture := by
  cases stage with
  | popped => exact List.Subset.refl _
  | _ => exact nil_subset _

theorem survivors_sublist (submitted : List PostCommitProjection) (dropped : List Nat)
    (removed : Nat) : (survivors submitted dropped removed).Sublist submitted.zipIdx :=
  filter_sublist.trans (take_sublist _ _)

theorem Accounted.history_sublist (accounted : Accounted state) : state.inHistory.Sublist
      (survivors state.submitted state.dropped state.removed) := by
  rw [accounted.history]
  exact sublist_append_left _ _

theorem Accounted.capture_sublist (accounted : Accounted state) :
    (state.inCapture.map Prod.fst).Sublist
      (survivors state.submitted state.dropped state.removed) := by
  rw [accounted.capture]
  exact sublist_append_left _ _

theorem survivor_not_dropped (member : submission ∈ survivors submitted dropped removed) :
    submission.2 ∉ dropped := by
  simpa using (mem_filter.mp member).2

theorem mem_survivors (member : submission ∈ submitted.zipIdx) (left : submission.2 < removed)
    (kept : submission.2 ∉ dropped) :
    submission ∈ survivors submitted dropped removed := by
  refine mem_filter.mpr ⟨?_, by simpa using kept⟩
  obtain ⟨index, bound, rfl⟩ := mem_iff_getElem.mp member
  rw [getElem_zipIdx] at left
  exact mem_take_iff_getElem.mpr ⟨index, by omega, rfl⟩

theorem Accounted.place (accounted : Accounted state) (member : submission ∈ state.submitted.zipIdx)
    :
    state.Projected submission ∨ state.Dropped submission ∨ state.Pending submission := by
  by_cases dropped : submission.2 ∈ state.dropped
  · refine .inr (.inl ⟨dropped, fun inside => ?_, fun inside => ?_⟩)
    · exact survivor_not_dropped (accounted.history_sublist.subset inside) dropped
    · exact survivor_not_dropped (accounted.capture_sublist.subset inside) dropped
  by_cases queued : state.removed ≤ submission.2
  · exact .inr (.inr ⟨.inl queued, dropped⟩)
  have survived := mem_survivors member (Nat.lt_of_not_le queued) dropped
  have inHistory := accounted.history ▸ survived
  have inCapture := accounted.capture ▸ survived
  cases holder : state.holder with
  | none =>
    rw [holder] at inHistory inCapture
    simp only [map_none, getD_none, append_nil] at inHistory inCapture
    exact .inl ⟨inHistory, inCapture, dropped⟩
  | some held =>
    rw [holder] at inHistory inCapture
    by_cases hand : submission ∈ held.2.beforeCapture
    · exact .inr (.inr ⟨.inr ⟨held.1, held.2, holder, hand⟩, dropped⟩)
    · have recorded := (mem_append.mp inHistory).resolve_right
        fun inside => hand (beforeHistory_subset held.2 inside)
      exact .inl ⟨recorded, (mem_append.mp inCapture).resolve_right hand, dropped⟩

variable {actions : List ProjectionAction}

theorem recorded_of_run (run : (projectionSystem sizes).runFrom .initial actions = some state) :
    Recorded sizes state :=
  (projectionSystem sizes).runFrom_preserves
    (fun _ _ _ recorded taken => recorded.step (projectionStep_of_step taken)) ⟨rfl, rfl⟩ run

/-- No drain is cancelled with a submission in hand. -/
def KeepsHold (_ : ProjectionState) (action : ProjectionAction) : Prop :=
  action ≠ .cancelHolding

theorem accounted_of_run (kept : (projectionSystem sizes).Along KeepsHold .initial actions)
    (run : (projectionSystem sizes).runFrom .initial actions = some state) : Accounted state :=
  (projectionSystem sizes).runFrom_preserves_along
    (fun _ _ _ accounted kept taken => accounted.step kept (projectionStep_of_step taken))
    accounted_initial kept run

theorem served_of_run (safely : (projectionSystem sizes).Along SafelyCancelled .initial actions)
    (run : (projectionSystem sizes).runFrom .initial actions = some state) : Served state :=
  (projectionSystem sizes).runFrom_preserves_along
    (fun _ _ _ served safe taken => served.step safe (projectionStep_of_step taken))
    served_initial safely run

theorem Settled.of_invariants (recorded : Recorded sizes state) (accounted : Accounted state)
    (served : Served state) : Settled sizes state := by
  refine ⟨recorded, accounted.history_sublist.trans (survivors_sublist ..),
    accounted.capture_sublist.trans (survivors_sublist ..), accounted.dropped_nodup,
    accounted.counted, fun submission member => accounted.place member, ?_⟩
  rintro ⟨idle, free, paid⟩
  have empty : state.queue.entries = [] := by
    by_contra filled
    rcases served.watched filled with owing | ⟨drain, member, -⟩ | held
    · exact owing paid
    · rw [idle] at member
      cases member
    · exact held free
  refine ⟨empty, fun submission member => ?_⟩
  rcases accounted.place member with projected | dropped | ⟨queued | ⟨drain, stage, held, -⟩, -⟩
  · exact .inl projected
  · exact .inr dropped
  · obtain ⟨index, bound, rfl⟩ := mem_iff_getElem.mp member
    rw [removed, empty, getElem_zipIdx] at queued
    simp only [length_nil, Nat.sub_zero, length_zipIdx] at queued bound
    omega
  · rw [free] at held
    cases held

/-- Where queries are only cancelled while they wait for the lock the first time, projections
are neither lost nor stuck. -/
theorem projections_settled (sizes : SerializedSizes) {actions : List ProjectionAction}
    {state : ProjectionState}
    (safely : (projectionSystem sizes).Along SafelyCancelled .initial actions)
    (run : (projectionSystem sizes).runFrom .initial actions = some state) :
    Settled sizes state := by
  refine .of_invariants (recorded_of_run run) (accounted_of_run ?_ run) (served_of_run safely run)
  refine (projectionSystem sizes).along_mono (fun current action safe => ?_) safely
  rintro rfl
  exact safe

def smallSizes : SerializedSizes := ⟨fun _ => 0, fun _ => 0, fun _ => 0⟩

def submitCommand (command : String) : ProjectionAction :=
  .submit ⟨ipcProtocolVersion, command, some "cmd-1", none, Json.object [], 1000⟩
    (IpcResponse.success "req-1" (Json.object [])) (IpcResponse.success "req-1" (Json.object []))
    .delivered

/-- A query is cancelled after it took the entry from the queue; the drain that was spawned for
the entry finds nothing. -/
def lostEntryRun : List ProjectionAction :=
  [submitCommand "open", .query, .acquire 0, .pop, .cancelHolding, .spawn, .acquire 0, .pop,
    .clearFlag, .inspect]

/-- A query has found the queue filled and set the flag, and is cancelled before it takes the
lock again; the spawn for the entry had seen the flag. -/
def strandedEntryRun : List ProjectionAction :=
  [.query, .acquire 0, .pop, .clearFlag, submitCommand "open", .inspect, .rearm, .spawn,
    .cancelWaiting 0]

/-- A cancelled query loses an entry, or leaves one behind with the flag up. -/
theorem cancelled_query_loses_entry :
    (∃ state, (projectionSystem smallSizes).runFrom .initial lostEntryRun = some state ∧
      state.Quiet ∧ state.submitted.length = 1 ∧ state.queue.entries = [] ∧
      state.history.entries = [] ∧ state.capture.entries = [] ∧
      state.queue.droppedBeforeProjection = 0) ∧
    ∃ state, (projectionSystem smallSizes).runFrom .initial strandedEntryRun = some state ∧
      state.Quiet ∧ state.queue.entries ≠ [] ∧ state.scheduled = true := by
  refine ⟨⟨_, rfl, ⟨rfl, rfl, rfl⟩, rfl, rfl, rfl, rfl, rfl⟩,
    ⟨_, rfl, ⟨rfl, rfl, rfl⟩, cons_ne_nil _ _, rfl⟩⟩

/-- A query is cancelled while it waits, and the spawned drain records the entry. -/
def waitingQueryRun : List ProjectionAction :=
  [submitCommand "open", .query, .cancelWaiting 0, .spawn, .acquire 0, .pop, .recordHistory,
    .recordCapture (.error (.internal "unavailable")), .pop, .clearFlag, .inspect]

theorem waiting_query_settled :
    ((projectionSystem smallSizes).runFrom .initial waitingQueryRun).map
        (fun state => (state.history.entries.length, state.capture.entries.length)) =
      some (1, 1) ∧
    ∀ state, (projectionSystem smallSizes).runFrom .initial waitingQueryRun = some state →
      Settled smallSizes state :=
  ⟨rfl, fun _ run => projections_settled smallSizes (by decide) run⟩

end Rub
