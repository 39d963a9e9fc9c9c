import Rub.Downloads

/-!
What the operations of the download runtime do to its authority: the listener generation,
the sequence of the last runtime event and the degraded reason.
-/

namespace Rub

structure DownloadAuthority where
  generation : Nat
  runtimeSequence : Nat
  degradedReason : Option String
  deriving DecidableEq

namespace DownloadRuntimeState

def authority (state : DownloadRuntimeState) : DownloadAuthority :=
  { generation := state.currentGeneration
    runtimeSequence := state.runtimeEventSequence
    degradedReason := state.projection.degradedReason }

section

variable (state : DownloadRuntimeState)

include state

theorem authority_trimTimelineFrom (timeline : List DownloadEvent) :
    (state.trimTimelineFrom timeline).authority = state.authority := by
  induction timeline generalizing state with
  | nil => rfl
  | cons _ _ ih =>
    unfold trimTimelineFrom
    split
    · rw [ih]
      rfl
    · rfl

@[simp] theorem authority_recordEvent (kind : DownloadEventKind) (download : DownloadEntry)
    : (state.recordEvent kind download).authority = state.authority := by
  unfold recordEvent
  rw [authority_trimTimelineFrom]
  rfl

end

variable {state : DownloadRuntimeState} {generation : Nat}

theorem prepareGeneration_older
    (older : state.effectiveGeneration generation < state.currentGeneration) :
    state.prepareGeneration generation = none := by
  simp [prepareGeneration, older]

theorem prepareGeneration_same
    (same : state.effectiveGeneration generation = state.currentGeneration) :
    state.prepareGeneration generation = some state := by
  simp [prepareGeneration, same]

theorem prepareGeneration_newer
    (newer : state.currentGeneration < state.effectiveGeneration generation) :
    state.prepareGeneration generation =
      some { default with currentGeneration := state.effectiveGeneration generation } := by
  have notOlder : ¬ state.effectiveGeneration generation < state.currentGeneration := by omega
  simp [prepareGeneration, notOlder, newer]

/-- A start or a progress event changes the authority only by a newer generation. -/
inductive Carried (before : DownloadRuntimeState) (generation : Nat)
    (after : DownloadRuntimeState) : Prop where
  | same (kept : after.authority = before.authority)
  | newer (later : before.currentGeneration < before.effectiveGeneration generation)
      (reset : after.authority =
        { generation := before.effectiveGeneration generation, runtimeSequence := 0,
          degradedReason := none })

theorem carried_of_prepared {before prepared after : DownloadRuntimeState}
    (ready : before.prepareGeneration generation = some prepared)
    (kept : after.authority = prepared.authority) : Carried before generation after := by
  rcases Nat.lt_trichotomy (before.effectiveGeneration generation) before.currentGeneration with
    older | same | newer
  · rw [prepareGeneration_older older] at ready
    cases ready
  · rw [prepareGeneration_same same] at ready
    cases ready
    exact .same kept
  · rw [prepareGeneration_newer newer] at ready
    cases ready
    exact .newer newer kept

theorem recordStarted_carried (state : DownloadRuntimeState) (now : String)
    (generation sequence : Nat) (guid url suggestedFilename : String) (frameId : Option String) :
    Carried state generation
      (state.recordStarted now generation sequence guid url suggestedFilename frameId).2 := by
  unfold recordStarted
  split
  · exact .same rfl
  · rename_i prepared ready
    apply carried_of_prepared ready
    split
    · rfl
    · split
      · rfl
      · unfold recordFreshStart
        rw [authority_recordEvent]
        rfl

theorem recordProgress_carried (state : DownloadRuntimeState) (now : String)
    (event : DownloadProgressEvent) :
    Carried state event.generation (state.recordProgress now event).2 := by
  unfold recordProgress
  split
  · exact .same rfl
  · rename_i prepared ready
    apply carried_of_prepared ready
    split
    · rfl
    · dsimp only
      split
      · rfl
      · rw [authority_recordEvent]
        split <;> rfl

variable {browserSequence : Nat}

/-- An event that is newer than the last runtime event is in order unless its generation is
over. -/
theorem prepareRuntimeEventOrder_of_newer (newer : state.runtimeEventSequence < browserSequence) :
    (state.effectiveGeneration generation < state.currentGeneration ∧
        state.prepareRuntimeEventOrder generation (some browserSequence) = (false, state)) ∨
      (state.currentGeneration ≤ state.effectiveGeneration generation ∧
        ∃ prepared : DownloadRuntimeState,
          state.prepareRuntimeEventOrder generation (some browserSequence) =
            (true, { prepared with runtimeEventSequence := browserSequence }) ∧
            prepared.currentGeneration = state.effectiveGeneration generation) := by
  have positive : 0 < browserSequence := by omega
  have present : (some browserSequence).filter (0 < ·) = some browserSequence := by
    simp [Option.filter, positive]
  unfold prepareRuntimeEventOrder
  rcases Nat.lt_trichotomy (state.effectiveGeneration generation) state.currentGeneration with
    older | same | later
  · exact .inl ⟨older, by rw [prepareGeneration_older older]⟩
  · refine .inr ⟨same.ge, state, ?_, same.symm⟩
    have inOrder : ¬ browserSequence ≤ state.runtimeEventSequence := by omega
    simp only [prepareGeneration_same same, present, inOrder, if_false]
  · refine .inr ⟨later.le,
      { default with currentGeneration := state.effectiveGeneration generation }, ?_, rfl⟩
    have inOrder : ¬ browserSequence ≤ default.runtimeEventSequence := Nat.not_le.mpr positive
    simp only [prepareGeneration_newer later, present, inOrder, if_false]

/-- What a runtime event in order leaves, unless its generation is over. -/
inductive Governed (before : DownloadRuntimeState) (generation browserSequence : Nat)
    (degradedReason : Option String) (applied : Bool) (after : DownloadRuntimeState) : Prop where
  | ended (older : before.effectiveGeneration generation < before.currentGeneration)
      (refused : applied = false) (unchanged : after = before)
  | current (reached : before.currentGeneration ≤ before.effectiveGeneration generation)
      (accepted : applied = true)
      (authority : after.authority =
        { generation := before.effectiveGeneration generation
          runtimeSequence := browserSequence
          degradedReason := degradedReason })

theorem markDegradedSequenced_governed
    (newer : state.runtimeEventSequence < browserSequence) (reason : String) :
    Governed state generation browserSequence (some reason)
      (state.markDegradedSequenced generation (some browserSequence) reason).1
      (state.markDegradedSequenced generation (some browserSequence) reason).2 := by
  unfold markDegradedSequenced applyInOrder
  rcases prepareRuntimeEventOrder_of_newer newer with
    ⟨older, refused⟩ | ⟨reached, prepared, ready, generationOf⟩
  · rw [refused]
    exact .ended older rfl rfl
  · rw [ready]
    refine .current reached rfl ?_
    simp [authority, generationOf]

theorem authority_foldl_recordEvent (downloads : List DownloadEntry)
    (known : DownloadEntry → Prop) [DecidablePred known] (state : DownloadRuntimeState) :
    (downloads.foldl (fun current download => if known download then current
      else current.recordEvent (eventKindForState download.state) download) state).authority =
      state.authority := by
  induction downloads generalizing state with
  | nil => rfl
  | cons _ _ ih =>
    rw [List.foldl_cons, ih]
    split
    · rfl
    · exact authority_recordEvent ..

theorem applyRuntimeProjectionSequenced_governed
    (newer : state.runtimeEventSequence < browserSequence) (runtime : DownloadRuntimeInfo) :
    Governed state generation browserSequence runtime.degradedReason
      (state.applyRuntimeProjectionSequenced generation browserSequence runtime).1
      (state.applyRuntimeProjectionSequenced generation browserSequence runtime).2 := by
  unfold applyRuntimeProjectionSequenced applyRuntimeEvent applyInOrder
  rcases prepareRuntimeEventOrder_of_newer newer with
    ⟨older, refused⟩ | ⟨reached, prepared, ready, generationOf⟩
  · rw [refused]
    exact .ended older rfl rfl
  · rw [ready]
    refine .current reached rfl ?_
    rw [authority_foldl_recordEvent]
    simp [authority, generationOf]

end DownloadRuntimeState

end Rub
