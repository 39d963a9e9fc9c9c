import Rub.ProjectionDrain

/-!
When a selection of the last commands that is reported as complete has no hole. Commands are
dropped in front of the pending ones and behind those already recorded, so a drop can fall
inside the retained window, where the counts that are compared do not show it.
-/

namespace Rub

open List ProjectionState CommandHistoryState WorkflowCaptureEntry WorkflowCaptureStoredEntry

variable {α : Type} {number : α → Nat} {items : List α} {kept : α → Bool} {count : Nat}

/-- The last items that are left are the last items exactly when enough of them came after
each one that is gone. -/
theorem rtake_filter_iff (sorted : items.Pairwise fun left right => number left < number right)
    (enough : count ≤ (items.filter kept).length) :
    (items.filter kept).rtake count = items.rtake count ↔ ∀ item ∈ items, kept item = false →
        count ≤ ((items.filter kept).filter fun later => number item < number later).length := by
  obtain ⟨front, split⟩ := rtake_suffix items count
  have fewer : (items.filter kept).length ≤ items.length := length_filter_le _ _
  have size : (items.rtake count).length = count := by
    rw [length_rtake]
    omega
  generalize items.rtake count = window at split size ⊢
  subst split
  obtain ⟨-, inside, across⟩ := pairwise_append.mp sorted
  constructor
  · intro same item member gone
    have outside : item ∉ window := by
      intro within
      rw [← same] at within
      have selected := mem_filter.mp ((rtake_suffix _ _).subset within)
      rw [selected.2] at gone
      cases gone
    have before := (mem_append.mp member).resolve_right outside
    have later : window.filter (fun later => number item < number later) = window :=
      filter_eq_self.mpr fun other within => by simpa using across item before other within
    have part := (rtake_suffix ((front ++ window).filter kept) count).sublist
    rw [same] at part
    calc count = (window.filter fun later => number item < number later).length := by
          rw [later, size]
      _ ≤ _ := (part.filter _).length_le
  · intro followed
    have all : ∀ item ∈ window, kept item = true := by
      intro item within
      by_contra gone
      have many := followed item (mem_append_right _ within) (Bool.eq_false_of_not_eq_true gone)
      -- What comes after an item of the window is in the window, and it is not the item itself.
      have none : front.filter (fun later => number item < number later) = [] := by
        rw [filter_eq_nil_iff]
        intro earlier member
        have := across earlier member item within
        simp only [decide_eq_true_eq]
        omega
      have smaller : (window.filter fun later => number item < number later).length <
          window.length := by
        refine length_filter_lt_length_iff_exists.mpr ⟨item, within, ?_⟩
        simp
      have bound : (((front ++ window).filter kept).filter
          fun later => number item < number later).length ≤
            (window.filter fun later => number item < number later).length := by
        refine (filter_sublist.filter _).length_le.trans ?_
        rw [filter_append, none, nil_append]
      omega
    have whole : window.filter kept = window := filter_eq_self.mpr all
    rw [filter_append, whole, ← rtake_of_suffix (suffix_append _ _) (by omega),
      rtake_of_length_le (by omega)]

variable {β : Type} {projection : WorkflowCaptureProjection} {origin : β → Option α}
  {entries : List β}

/-- A selection of entries that stand for recorded items, compared with the selection from
all items: where nothing is gone, or enough is left, only what is gone can make a hole. -/
theorem selection_iff (sorted : items.Pairwise fun left right => number left < number right)
    (origins : entries.map origin = ((items.filter kept).rtake count).map some)
    (enough : (∀ item ∈ items, kept item = true) ∨ count ≤ (items.filter kept).length) :
    entries.map origin = (items.rtake count).map some ↔ ∀ item ∈ items, kept item = false →
        count ≤ ((items.filter kept).filter fun later => number item < number later).length := by
  rw [origins, map_inj_right fun _ _ => Option.some.inj]
  rcases enough with whole | enough
  · rw [filter_eq_self.mpr whole]
    refine ⟨fun _ item member gone => ?_, fun _ => rfl⟩
    rw [whole item member] at gone
    cases gone
  · exact rtake_filter_iff sorted enough

variable {submitted : List PostCommitProjection} {dropped : List Nat} {removed : Nat}

/-- The number behind the last of these submissions. -/
def reach (recorded : List Submission) : Nat :=
  (recorded.getLast?.map fun submission => submission.2 + 1).getD 0

theorem zipIdx_sorted (submitted : List PostCommitProjection) :
    submitted.zipIdx.Pairwise fun left right => left.2 < right.2 := by
  rw [pairwise_iff_getElem]
  intro left right leftBound rightBound less
  simpa using less

theorem survivors_filter {bound : Nat} (within : bound ≤ removed) :
    (survivors submitted dropped removed).filter (fun submission => submission.2 < bound) =
      survivors submitted dropped bound := by
  have split := @take_add _ submitted.zipIdx bound (removed - bound)
  rw [Nat.add_sub_cancel' within] at split
  have first : (submitted.zipIdx.take bound).filter (fun submission => submission.2 < bound) =
      submitted.zipIdx.take bound :=
    filter_eq_self.mpr fun submission member => by
      simpa using number_lt_of_mem_take member
  have rest : ((submitted.zipIdx.drop bound).take (removed - bound)).filter
      (fun submission => submission.2 < bound) = [] :=
    filter_eq_nil_iff.mpr fun submission member => by
      simpa using (number_of_mem_drop_take member).1
  unfold survivors
  rw [filter_comm, split, filter_append, first, rest, append_nil]

/-- What was recorded is what was not dropped up to the last recorded submission. -/
theorem recorded_eq_survivors {recorded hand : List Submission}
    (survived : survivors submitted dropped removed = recorded ++ hand) :
    recorded = survivors submitted dropped (reach recorded) := by
  have sorted : (recorded ++ hand).Pairwise fun left right => left.2 < right.2 := by
    rw [← survived]
    exact (zipIdx_sorted submitted).sublist (survivors_sublist ..)
  obtain ⟨recordedSorted, -, across⟩ := pairwise_append.mp sorted
  rcases eq_nil_or_concat' recorded with rfl | ⟨earlier, last, rfl⟩
  · rfl
  · have lastMember : last ∈ earlier ++ [last] := mem_append_right _ (mem_singleton_self _)
    have bound : last.2 + 1 ≤ removed := by
      have member : last ∈ survivors submitted dropped removed := by
        rw [survived]
        exact mem_append_left _ lastMember
      exact number_lt_of_mem_take (mem_filter.mp member).1
    have reached : reach (earlier ++ [last]) = last.2 + 1 := by simp [reach]
    rw [reached, ← survivors_filter bound, survived, filter_append]
    have first : (earlier ++ [last]).filter (fun submission => submission.2 < last.2 + 1) =
        earlier ++ [last] := by
      refine filter_eq_self.mpr fun submission member => ?_
      simp only [decide_eq_true_eq]
      rcases mem_append.mp member with older | same
      · have := (pairwise_append.mp recordedSorted).2.2 submission older last (mem_singleton_self _)
        omega
      · rw [mem_singleton.mp same]
        omega
    have rest : hand.filter (fun submission => submission.2 < last.2 + 1) = [] := by
      refine filter_eq_nil_iff.mpr fun submission member => ?_
      have := across last lastMember submission member
      simp only [decide_eq_true_eq]
      omega
    rw [first, rest, append_nil]

variable {commands : List (IpcRequest × IpcResponse)} {last dropped : Nat}

theorem allHistoryEntries_numbered (commands : List (IpcRequest × IpcResponse)) :
    Numbered CommandHistoryEntry.sequence (allHistoryEntries commands) := by
  unfold Numbered allHistoryEntries
  rw [map_map, length_map, length_zipIdx]
  exact zipIdx_map_snd 1 commands

/-- A selection that the retention did not cut short selects from all entries. -/
theorem history_selection (untruncated : ((recordHistory commands).projection last
      dropped).selectionTruncatedByRetention = false) :
    ((recordHistory commands).projection last dropped).entries =
      (allHistoryEntries commands).rtake last := by
  have retained := (recordHistory_eq commands).1
  have suffix : (recordHistory commands).entries <:+ allHistoryEntries commands := by
    rw [retained]
    exact rtake_suffix _ _
  have nonempty : allHistoryEntries commands ≠ [] → (recordHistory commands).entries ≠ [] := by
    intro filled empty
    have lengths := congrArg length retained
    rw [empty, length_rtake, historyLimit] at lengths
    have := length_pos_of_ne_nil filled
    simp only [length_nil] at lengths
    omega
  have evicted := evicted_of_oldest (allHistoryEntries_numbered commands) suffix nonempty
  refine rtake_window suffix ?_
  simp only [projection, projectionForSelection,
    Option.isSome_none, Bool.or_self, Bool.false_eq_true, if_false, evicted, length_rtake,
    ite_eq_left_iff, decide_eq_false_iff_not] at untruncated
  by_cases whole : (allHistoryEntries commands).length - (recordHistory commands).entries.length = 0
  · exact .inl whole
  · have := untruncated whole
    omega

/-- A selection that no drop is reported for has enough entries, or nothing was dropped. -/
theorem history_undropped (undropped : ((recordHistory commands).projection last
      dropped).selectionDroppedBeforeProjection = false) :
    dropped = 0 ∨ last ≤ commands.length := by
  have retained := congrArg length (recordHistory_eq commands).1
  rw [length_rtake] at retained
  have all : (allHistoryEntries commands).length = commands.length := by
    simp [allHistoryEntries]
  simp only [projection, projectionForSelection,
    Option.isSome_none, Bool.or_self, Bool.false_eq_true, if_false, Bool.not_false, Bool.and_true,
    length_rtake, Bool.and_eq_false_iff, decide_eq_false_iff_not] at undropped
  omega

variable {entryBytes : WorkflowCaptureEntry → Nat} {commands : List CapturedCommand}
  {includeObservation : Bool}

theorem allCaptureEntries_numbered (commands : List CapturedCommand) :
    Numbered sequence (allCaptureEntries commands) := by
  unfold Numbered allCaptureEntries
  rw [map_map, length_map, length_zipIdx]
  exact zipIdx_map_snd 1 _

theorem untruncated_export
    (untruncated : exportSelectionIsTruncatedByRetention (.lastOnly last) projection = false) :
    projection.droppedBeforeRetention = 0 ∨ projection.oldestRetainedSequence = none ∨
      last ≤ projection.entries.length := by
  have range : (HistorySelection.lastOnly last).isRange = false := rfl
  unfold exportSelectionIsTruncatedByRetention at untruncated
  split at untruncated
  · exact .inl ‹_›
  · split at untruncated
    · exact .inr (.inl ‹_›)
    · rw [range, if_neg Bool.false_ne_true, decide_eq_false_iff_not] at untruncated
      exact .inr (.inr (Nat.le_of_not_lt untruncated))

theorem undropped_export
    (undropped : exportSelectionIsAffectedByProjectionLoss (.lastOnly last) projection = false) :
    projection.droppedBeforeProjection = 0 ∨ last ≤ projection.entries.length := by
  have range : (HistorySelection.lastOnly last).isRange = false := rfl
  unfold exportSelectionIsAffectedByProjectionLoss at undropped
  split at undropped
  · exact .inl ‹_›
  · rw [range, if_neg Bool.false_ne_true, decide_eq_false_iff_not] at undropped
    exact .inr (Nat.le_of_not_lt undropped)

theorem projection_entries (state : WorkflowCaptureState) (last dropped : Nat) :
    (state.projection last dropped).entries = (state.entries.map entry).rtake
        (min last (state.entries.map entry).length) := by
  rw [rtake_map, length_map]
  rfl

theorem projection_droppedBeforeRetention (state : WorkflowCaptureState) (last dropped : Nat) :
    (state.projection last dropped).droppedBeforeRetention = ((((state.entries.map entry).head?.map
        sequence).map fun oldest => oldest - 1).getD 0) := by
  simp only [WorkflowCaptureState.projection, head?_map, Option.map_map, Function.comp_def]

/-- A complete export selects from all entries; where something was dropped, it has enough
of them. -/
theorem capture_selection (complete : (buildExportProjection (.lastOnly last) includeObservation
      ((recordCaptures entryBytes commands).projection last dropped)).complete = true) :
    ((recordCaptures entryBytes commands).projection last dropped).entries =
        (allCaptureEntries commands).rtake last ∧
      (dropped = 0 ∨ last ≤ (allCaptureEntries commands).length) := by
  obtain ⟨suffix, nonempty, -⟩ := recordCaptures_retains entryBytes commands
  have filled : allCaptureEntries commands ≠ [] →
      (recordCaptures entryBytes commands).entries.map entry ≠ [] :=
    fun some => by simpa using nonempty some
  have evicted := evicted_of_oldest (allCaptureEntries_numbered commands) suffix filled
  rw [← projection_droppedBeforeRetention _ last dropped] at evicted
  have bound := suffix.length_le
  obtain ⟨untruncated, undropped⟩ : exportSelectionIsTruncatedByRetention (.lastOnly last)
        ((recordCaptures entryBytes commands).projection last dropped) = false ∧
      exportSelectionIsAffectedByProjectionLoss (.lastOnly last)
        ((recordCaptures entryBytes commands).projection last dropped) = false := by
    simpa [buildExportProjection] using complete
  have count := congrArg length
    (projection_entries (recordCaptures entryBytes commands) last dropped)
  rw [length_rtake] at count
  constructor
  · rw [projection_entries]
    refine rtake_window suffix ?_
    rcases untruncated_export untruncated with none | empty | enough
    · rw [evicted] at none
      exact .inl none
    · -- The window of a capture that recorded anything has an oldest entry.
      have gone : (recordCaptures entryBytes commands).entries = [] := by
        simpa [WorkflowCaptureState.projection] using empty
      have none : allCaptureEntries commands = [] := by
        by_contra some
        exact nonempty some gone
      rw [none]
      exact .inl (Nat.zero_sub _)
    · rw [count] at enough
      exact .inr (by omega)
  · refine (undropped_export undropped).imp id fun enough => ?_
    omega

variable {sizes : SerializedSizes} {state : ProjectionState} {actions : List ProjectionAction}

namespace ProjectionState

/-- The submission an entry of the history was recorded for. -/
def historyOrigin (state : ProjectionState) (entry : CommandHistoryEntry) : Option Submission :=
  state.inHistory[entry.sequence - 1]?

/-- The submissions up to the last one that was drained into the history. -/
def historySeen (state : ProjectionState) : List Submission :=
  state.submitted.zipIdx.take (reach state.inHistory)

/-- The captured submissions, which are the successful ones of those that were drained. -/
def captured (state : ProjectionState) : List (Submission × Except RubError SecretSources) :=
  state.inCapture.filter fun recorded => (capturedCommand recorded).succeeded

def captureOrigin (state : ProjectionState) (entry : WorkflowCaptureEntry) : Option Submission :=
  (state.captured.map Prod.fst)[entry.sequence - 1]?

/-- The successful submissions up to the last one that was drained into the capture. -/
def captureSeen (state : ProjectionState) : List Submission :=
  (state.submitted.zipIdx.take (reach (state.inCapture.map Prod.fst))).filter fun submission =>
    submission.1.workflowCaptureResponse.status == .success

/-- The entries show exactly these submissions, in order. -/
def ShowsInHistory (state : ProjectionState) (entries : List CommandHistoryEntry)
    (window : List Submission) : Prop :=
  entries.map state.historyOrigin = window.map some ∧
    ∀ entry ∈ entries, ∀ submission, state.historyOrigin entry = some submission →
      entry = historyEntry entry.sequence submission.1.request submission.1.response

/-- The entries show exactly these submissions, in order, with their arguments redacted. -/
def ShowsInCapture (state : ProjectionState) (entries : List WorkflowCaptureEntry)
    (window : List Submission) : Prop :=
  entries.map state.captureOrigin = window.map some ∧
    ∀ entry ∈ entries, ∀ submission, state.captureOrigin entry = some submission →
      ∃ loaded, entry = workflowCaptureEntry entry.sequence
        (redactedPostCommitRequest submission.1.request loaded)
        submission.1.workflowCaptureResponse submission.1.workflowCaptureDeliveryState

/-- At least `count` of the recorded submissions came after each dropped one. -/
def FollowedBy (state : ProjectionState) (seen recorded : List Submission) (count : Nat) : Prop :=
  ∀ submission ∈ seen, submission.2 ∈ state.dropped →
    count ≤ (recorded.filter fun later => submission.2 < later.2).length

end ProjectionState

theorem map_getElem_zipIdx (items : List α) (entry : α → Nat → β) (number : β → Nat)
    (numbered : ∀ item index, number (entry item index) = index) :
    ((items.zipIdx 1).map fun numbered => entry numbered.1 numbered.2).map
      (fun result => items[number result - 1]?) = items.map some := by
  refine ext_getElem? fun index => ?_
  simp only [map_map, getElem?_map, getElem?_zipIdx]
  cases found : items[index]? with
  | none => rfl
  | some => simp [numbered, Nat.add_comm, found]

theorem origins_rtake {all entries : List β}
    {recorded : List α} (origins : all.map origin = recorded.map some)
    (selected : entries = all.rtake last) :
    entries.map origin = (recorded.rtake last).map some := by
  rw [selected, ← rtake_map, origins, rtake_map]

theorem mem_map_zipIdx (entry : α → Nat → β) (number : β → Nat)
    (numbered : ∀ item index, number (entry item index) = index) {result : β}
    (member : result ∈ (items.zipIdx 1).map fun numbered => entry numbered.1 numbered.2) :
    ∃ item, items[number result - 1]? = some item ∧ result = entry item (number result) := by
  obtain ⟨⟨item, index⟩, inside, rfl⟩ := mem_map.mp member
  obtain ⟨position, bound, same⟩ := mem_iff_getElem.mp inside
  rw [getElem_zipIdx, Prod.mk.injEq] at same
  refine ⟨item, ?_, by rw [numbered]⟩
  rw [numbered, ← same.1, ← same.2, Nat.add_sub_cancel_left]
  exact getElem?_eq_getElem _

theorem Accounted.dropped_eq_nil (accounted : Accounted state)
    (late : state.queue.droppedBeforeProjection ≤ dropped) (none : dropped = 0) :
    state.dropped = [] := by
  have counted := accounted.counted
  exact eq_nil_of_length_eq_zero (by omega)

/-- Entries that stand for the last recorded submissions show the last submissions exactly
when enough were recorded after each drop. -/
theorem window_complete_iff {origin : β → Option Submission} {seen recorded : List Submission}
    (sorted : seen.Pairwise fun left right => left.2 < right.2)
    (kept : recorded = seen.filter fun submission => submission.2 ∉ state.dropped)
    (origins : entries.map origin = (recorded.rtake last).map some)
    (enough : state.dropped = [] ∨ last ≤ recorded.length) :
    entries.map origin = (seen.rtake last).map some ↔ state.FollowedBy seen recorded last := by
  subst kept
  have whole : (∀ submission ∈ seen, decide (submission.2 ∉ state.dropped) = true) ∨
      last ≤ (seen.filter fun submission => submission.2 ∉ state.dropped).length := by
    refine enough.imp (fun none submission _ => ?_) id
    rw [none]
    rfl
  refine (selection_iff sorted origins whole).trans (forall₂_congr fun submission _ => ?_)
  rw [decide_eq_false_iff_not, not_not]

/-- A command selection without a flag shows the last commands exactly when enough of them
were recorded after each drop. -/
theorem history_complete_iff (recorded : Recorded sizes state) (accounted : Accounted state)
    (late : state.queue.droppedBeforeProjection ≤ dropped)
    (untruncated : (state.history.projection last dropped).selectionTruncatedByRetention = false)
    (undropped : (state.history.projection last dropped).selectionDroppedBeforeProjection = false) :
    state.ShowsInHistory (state.history.projection last dropped).entries
        (state.historySeen.rtake last) ↔
      state.FollowedBy state.historySeen state.inHistory last := by
  rw [recorded.history] at untruncated undropped ⊢
  have selected := history_selection untruncated
  rw [allHistoryEntries, zipIdx_map, map_map] at selected
  have origins := map_getElem_zipIdx state.inHistory
    (fun submission number => historyEntry number submission.1.request submission.1.response)
    CommandHistoryEntry.sequence fun _ _ => rfl
  have enough : state.dropped = [] ∨ last ≤ state.inHistory.length := by
    refine (history_undropped undropped).imp (accounted.dropped_eq_nil late) fun enough => ?_
    rwa [length_map] at enough
  have complete := window_complete_iff ((zipIdx_sorted state.submitted).sublist (take_sublist _ _))
    (recorded_eq_survivors accounted.history) (origins_rtake origins selected) enough
  refine (and_iff_left ?_).trans complete
  intro entry member submission found
  rw [selected] at member
  obtain ⟨origin, same, shape⟩ := mem_map_zipIdx (fun (submission : Submission) number =>
      historyEntry number submission.1.request submission.1.response)
    CommandHistoryEntry.sequence (fun _ _ => rfl) ((rtake_suffix _ _).subset member)
  rw [historyOrigin, same] at found
  cases found
  exact shape

theorem captured_eq_filter (accounted : Accounted state) :
    state.captured.map Prod.fst = state.captureSeen.filter
      fun submission => submission.2 ∉ state.dropped := by
  have succeeded : state.captured.map Prod.fst = (state.inCapture.map Prod.fst).filter
      fun submission => submission.1.workflowCaptureResponse.status == .success := by
    rw [filter_map]
    rfl
  have survived := recorded_eq_survivors accounted.capture
  calc state.captured.map Prod.fst
      = (survivors state.submitted state.dropped (reach (state.inCapture.map Prod.fst))).filter
          fun submission => submission.1.workflowCaptureResponse.status == .success := by
        rw [succeeded, ← survived]
    _ = _ := filter_comm ..

theorem captureOrigins {all : List WorkflowCaptureEntry}
    (origins : all.map (fun entry => state.captured[entry.sequence - 1]?) =
      state.captured.map some) :
    all.map state.captureOrigin = (state.captured.map Prod.fst).map some := by
  have looked : state.captureOrigin =
      Option.map Prod.fst ∘ fun entry => state.captured[entry.sequence - 1]? := by
    funext entry
    exact getElem?_map
  rw [looked, ← map_map, origins, map_map, map_map]
  rfl

/-- A complete export shows the last successful commands exactly when enough of them were
captured after each dropped one. -/
theorem export_complete_iff (recorded : Recorded sizes state) (accounted : Accounted state)
    (late : state.queue.droppedBeforeProjection ≤ dropped)
    (complete : (buildExportProjection (.lastOnly last) includeObservation
      (state.capture.projection last dropped)).complete = true) :
    state.ShowsInCapture (state.capture.projection last dropped).entries
        (state.captureSeen.rtake last) ↔
      state.FollowedBy state.captureSeen (state.captured.map Prod.fst) last := by
  rw [recorded.capture] at complete ⊢
  obtain ⟨selected, enough⟩ := capture_selection complete
  rw [allCaptureEntries, filter_map, zipIdx_map, map_map,
    show CapturedCommand.succeeded ∘ capturedCommand = fun item => (capturedCommand item).succeeded
      from rfl] at selected enough
  have origins := map_getElem_zipIdx state.captured
    (fun item number => workflowCaptureEntry number (capturedCommand item).request
      (capturedCommand item).response (capturedCommand item).deliveryState)
    sequence fun _ _ => rfl
  have roomy : state.dropped = [] ∨ last ≤ (state.captured.map Prod.fst).length := by
    refine enough.imp (accounted.dropped_eq_nil late) fun enough => ?_
    simpa [captured] using enough
  have shown := window_complete_iff
    (((zipIdx_sorted state.submitted).sublist (take_sublist _ _)).filter _)
    (captured_eq_filter accounted) (origins_rtake (captureOrigins origins) selected) roomy
  refine (and_iff_left ?_).trans shown
  intro entry member submission found
  rw [selected] at member
  obtain ⟨item, same, shape⟩ := mem_map_zipIdx
    (fun item number => workflowCaptureEntry number (capturedCommand item).request
      (capturedCommand item).response (capturedCommand item).deliveryState)
    sequence (fun _ _ => rfl) ((rtake_suffix _ _).subset member)
  rw [captureOrigin, getElem?_map, captured, same] at found
  cases found
  exact ⟨item.2, shape⟩

/-- A selection of the last commands that is reported without a flag, respectively as complete,
shows exactly the last commands that were submitted before the last drained one, exactly when
enough of them were recorded after each one that was dropped. -/
theorem complete_selection_iff (sizes : SerializedSizes) (actions : List ProjectionAction)
    (state : ProjectionState) (kept : (projectionSystem sizes).Along KeepsHold .initial actions)
    (run : (projectionSystem sizes).runFrom .initial actions = some state) (last dropped : Nat)
    (late : state.queue.droppedBeforeProjection ≤ dropped) :
    ((state.history.projection last dropped).selectionTruncatedByRetention = false →
      (state.history.projection last dropped).selectionDroppedBeforeProjection = false →
      (state.ShowsInHistory (state.history.projection last dropped).entries
          (state.historySeen.rtake last) ↔
        state.FollowedBy state.historySeen state.inHistory last)) ∧
    ∀ includeObservation, (buildExportProjection (.lastOnly last) includeObservation
        (state.capture.projection last dropped)).complete = true →
      (state.ShowsInCapture (state.capture.projection last dropped).entries
          (state.captureSeen.rtake last) ↔
        state.FollowedBy state.captureSeen (state.captured.map Prod.fst) last) := by
  have recorded := recorded_of_run run
  have accounted := accounted_of_run kept run
  exact ⟨history_complete_iff recorded accounted late,
    fun _ complete => export_complete_iff recorded accounted late complete⟩

/-- Responses of the size of a frame. -/
def frameSizes : SerializedSizes :=
  ⟨fun _ => 100, fun response => if response.requestId = "small" then 100 else maxFrameBytes,
    fun _ => 100⟩

def submitSized (command requestId : String) : ProjectionAction :=
  .submit ⟨ipcProtocolVersion, command, some "cmd", none, Json.object [], 1000⟩
    (IpcResponse.success requestId (Json.object []))
    (IpcResponse.success requestId (Json.object [])) .delivered

/-- One command is recorded. Of the next two, which do not fit into the queue together, the
older is dropped; the newer is recorded. -/
def droppedBetweenRun : List ProjectionAction :=
  [submitSized "open" "small", .spawn, .acquire 0, .pop, .recordHistory,
    .recordCapture (.error (.internal "unavailable")),
    submitSized "click" "big", submitSized "state" "big", .pop, .recordHistory,
    .recordCapture (.error (.internal "unavailable"))]

/-- The hole between the two recorded commands is reported neither by the history nor by the
export. -/
theorem dropped_between_not_reported :
    ∃ state, (projectionSystem frameSizes).runFrom .initial droppedBetweenRun = some state ∧
      state.queue.droppedBeforeProjection = 1 ∧
      (state.history.projection 2 1).selectionTruncatedByRetention = false ∧
      (state.history.projection 2 1).selectionDroppedBeforeProjection = false ∧
      (state.history.projection 2 1).entries.map CommandHistoryEntry.command =
        ["open", "state"] ∧
      (state.historySeen.rtake 2).map (fun submission => submission.1.request.command) =
        ["click", "state"] ∧
      (buildExportProjection (.lastOnly 2) true (state.capture.projection 2 1)).complete = true ∧
      (state.capture.projection 2 1).entries.map WorkflowCaptureEntry.command =
        ["open", "state"] ∧
      (state.captureSeen.rtake 2).map (fun submission => submission.1.request.command) =
        ["click", "state"] := by
  refine ⟨_, rfl, ?_⟩
  decide

/-- The last command is shown where nothing was dropped after it. -/
theorem last_after_drop_shown :
    ∃ state, (projectionSystem frameSizes).runFrom .initial droppedBetweenRun = some state ∧
      state.ShowsInHistory (state.history.projection 1 1).entries (state.historySeen.rtake 1) := by
  have finishes : ((projectionSystem frameSizes).runFrom .initial droppedBetweenRun).isSome =
      true := rfl
  obtain ⟨state, run⟩ := Option.isSome_iff_exists.mp finishes
  refine ⟨state, run, ?_⟩
  have facts : ((projectionSystem frameSizes).runFrom .initial droppedBetweenRun).map
      (fun state => (state.queue.droppedBeforeProjection,
        (state.history.projection 1 1).selectionTruncatedByRetention,
        (state.history.projection 1 1).selectionDroppedBeforeProjection,
        state.dropped, state.inHistory.map Prod.snd)) = some (1, false, false, [1], [0, 2]) := rfl
  rw [run] at facts
  simp only [Option.map_some, Option.some.injEq, Prod.mk.injEq] at facts
  obtain ⟨counted, untruncated, undropped, dropped, numbers⟩ := facts
  have kept : (projectionSystem frameSizes).Along KeepsHold .initial droppedBetweenRun :=
    (projectionSystem frameSizes).along_of_mem
      (by simp [droppedBetweenRun, submitSized, KeepsHold]) _
  refine ((complete_selection_iff frameSizes droppedBetweenRun state kept run 1 1
    (Nat.le_of_eq counted)).1 untruncated undropped).mpr ?_
  intro submission member gone
  rw [dropped, mem_singleton] at gone
  have newest : 2 ∈ state.inHistory.map Prod.snd := by
    rw [numbers]
    decide
  obtain ⟨later, recorded, number⟩ := mem_map.mp newest
  refine length_pos_of_mem (mem_filter.mpr ⟨recorded, ?_⟩)
  rw [gone, number]
  rfl

end Rub
