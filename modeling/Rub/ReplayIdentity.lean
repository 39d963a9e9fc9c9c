import Rub.ReplayFingerprint

/-!
What the replay identity of a request shows of its arguments. The fallback leaves out the
deadline fields; every projection keeps a post-action wait, or denies the arguments that
carry one.
-/

namespace Rub

variable {serde : SerdeJson} {args : Json} {fields : List (String × Option Json)}

/-- A struct that does not know the post-action wait denies arguments that carry it. -/
theorem structFields_denies {β : Type} {least : Nat} (given : (args.get "wait_after").isSome)
    (names : List String) (unknown : "wait_after" ∉ names)
    (rest : (String → Option Json) → Option β) :
    (Serde.structFields least names args).bind rest = none := by
  cases decoded : Serde.structFields least names args with
  | none => rfl
  | some =>
    have member := Json.mem_keys_iff.mpr (Option.isSome_iff_ne_none.mp given)
    exact absurd (Serde.known_of_structFields decoded _ member) unknown

/-- The projection, where there is one, has the arguments' own post-action wait. -/
def KeepsWaitAfter (args : Json) (projected : Option Json) : Prop :=
  ∀ value, projected = some value → value.get "wait_after" = args.get "wait_after"

theorem KeepsWaitAfter.none : KeepsWaitAfter args Option.none := by
  intro value same
  cases same

theorem KeepsWaitAfter.or {first second : Option Json} (left : KeepsWaitAfter args first)
    (right : KeepsWaitAfter args second) : KeepsWaitAfter args (first.or second) := by
  cases first with
  | none => exact right
  | some => exact left

theorem KeepsWaitAfter.bind {α : Type} {parsed : Option α} {project : α → Option Json}
    (each : ∀ value, KeepsWaitAfter args (project value)) :
    KeepsWaitAfter args (parsed.bind project) := by
  cases parsed with
  | none => exact .none
  | some value => exact each value

theorem KeepsWaitAfter.present (names : List String) (named : fields.map Prod.fst = names)
    (distinct : names.Nodup) (found : fields.lookup "wait_after" = some (args.get "wait_after")) :
    KeepsWaitAfter args (some (Json.present fields)) := by
  rintro value ⟨⟩
  subst named
  rw [Json.get_present distinct, found]
  rfl

/-- A projection may also write the wait with a null in place of a missing one. -/
theorem KeepsWaitAfter.present_optional (given : (args.get "wait_after").isSome)
    (names : List String) (named : fields.map Prod.fst = names) (distinct : names.Nodup)
    (found : fields.lookup "wait_after" = some (some (Json.optional (args.get "wait_after")))) :
    KeepsWaitAfter args (some (Json.present fields)) := by
  obtain ⟨waitAfter, member⟩ := Option.isSome_iff_exists.mp given
  refine .present names named distinct ?_
  rw [found, member]
  rfl

theorem KeepsWaitAfter.getD_scrub {projected : Option Json} (kept : KeepsWaitAfter args projected) :
    (projected.getD (scrubDeadlineProjectedTimeoutAuthority args)).get "wait_after" =
      args.get "wait_after" := by
  cases projected with
  | none => exact get_scrub (by decide) (by decide)
  | some value => exact kept value rfl

section

variable (given : (args.get "wait_after").isSome)

include given

theorem openReplayArgs_keeps : KeepsWaitAfter args (openReplayArgs args) :=
  .bind fun _ => .bind fun _ =>
    .present_optional given ["url", "load_strategy", "wait_after"] rfl (by decide) rfl

theorem reloadReplayArgs_keeps : KeepsWaitAfter args (reloadReplayArgs args) :=
  .bind fun _ => .bind fun _ =>
    .present_optional given ["load_strategy", "wait_after"] rfl (by decide) rfl

theorem switchReplayArgs_keeps : KeepsWaitAfter args (switchReplayArgs args) :=
  .bind fun _ => .present_optional given ["index", "wait_after"] rfl (by decide) rfl

/-- The other navigation commands have no post-action wait and deny it. -/
theorem navigationReplayArgs_keeps (command : String) :
    KeepsWaitAfter args (navigationReplayArgs command args) := by
  unfold navigationReplayArgs
  split
  · exact openReplayArgs_keeps given
  · have denied : StateArgs.decode args = none := structFields_denies given _ (by decide) _
    rw [stateReplayArgs, denied]
    exact .none
  · have denied : ScrollArgs.decode args = none := structFields_denies given _ (by decide) _
    rw [scrollReplayArgs, denied]
    exact .none
  · exact reloadReplayArgs_keeps given
  · have denied : ScreenshotArgs.decode args = none := structFields_denies given _ (by decide) _
    rw [screenshotReplayArgs, denied]
    exact .none
  · exact switchReplayArgs_keeps given
  · have denied : CloseTabArgs.decode args = none := structFields_denies given _ (by decide) _
    rw [closeTabReplayArgs, denied]
    exact .none
  · exact .none

end

theorem clickReplayArgs_keeps : KeepsWaitAfter args (clickReplayArgs serde args) := by
  refine .bind fun parsed => .bind fun gesture => ?_
  cases parsed.xy with
  | some xy => exact .present ["gesture", "xy", "wait_after"] rfl (by decide) rfl
  | none => exact .present ("gesture" :: addressedNames) rfl (by decide) rfl

theorem interactionReplayArgs_keeps (command : String) :
    KeepsWaitAfter args (interactionReplayArgs serde command args) := by
  unfold interactionReplayArgs
  split
  · exact clickReplayArgs_keeps
  · exact .bind fun _ => .present ["keys", "wait_after", "_orchestration"] rfl (by decide) rfl
  · exact .bind fun _ => .present ("text" :: "clear" :: addressedNames) rfl (by decide) rfl
  · exact .bind fun _ => .present addressedNames rfl (by decide) rfl
  · exact .bind fun _ => .present ("path" :: addressedNames) rfl (by decide) rfl
  · exact .bind fun _ => .present ("value" :: addressedNames) rfl (by decide) rfl
  · exact .none

theorem workflowReplayArgs_keeps (command : String) :
    KeepsWaitAfter args (workflowReplayArgs serde command args) := by
  unfold workflowReplayArgs
  split
  iterate 2
    exact .bind fun _ => .present
      ["spec", "atomic", "snapshot_id", "wait_after", "submit", "_orchestration"]
      rfl (by decide) rfl
  iterate 2
    exact .bind fun _ => .present ["spec", "wait_after", "_orchestration"] rfl (by decide) rfl
  · exact .none

theorem storageCommand_denies (given : (args.get "wait_after").isSome) :
    StorageCommand.parse args = none := by
  have keyed : storageKeyDecode args = none := structFields_denies given _ (by decide) _
  have valued : storageSetDecode args = none := structFields_denies given _ (by decide) _
  have cleared : storageClearDecode args = none := structFields_denies given _ (by decide) _
  have exported : storageExportDecode args = none := structFields_denies given _ (by decide) _
  have imported : storageImportDecode args = none := structFields_denies given _ (by decide) _
  unfold StorageCommand.parse
  split <;> simp [keyed, valued, cleared, exported, imported]

/-- Whatever projection a command has, it keeps a post-action wait that is given. -/
theorem directReplayArgs_waitAfter (given : (args.get "wait_after").isSome) (command : String) :
    (directReplayArgs serde command args).get "wait_after" = args.get "wait_after" := by
  refine KeepsWaitAfter.getD_scrub ?_
  refine (navigationReplayArgs_keeps given command).or ((interactionReplayArgs_keeps command).or ?_)
  split
  · have denied : ObserveArgs.decode args = none := structFields_denies given _ (by decide) _
    rw [observeReplayArgs, denied]
    exact .none
  · rw [storageReplayArgs, storageCommand_denies given]
    exact .none
  · exact workflowReplayArgs_keeps _
  · exact workflowReplayArgs_keeps _
  · exact workflowReplayArgs_keeps _
  · exact workflowReplayArgs_keeps _
  · exact .none

variable {left right : Json} {command : String}

/-- A command with a wait budget of its own has no projection but the fallback. -/
theorem semanticReplayArgs_of_embedded
    (embedded : command = "wait" ∨ command = "inspect" ∨ command = "download") (args : Json) :
    semanticReplayArgs serde command args = scrubDeadlineProjectedTimeoutAuthority args := by
  rw [semanticReplayArgs_eq]
  rcases embedded with rfl | rfl | rfl <;>
    simp [directReplayArgs, navigationReplayArgs, interactionReplayArgs]

theorem scrub_eq_of_get (leftObject : left.isObject = true) (rightObject : right.isObject = true)
    (same : ∀ name, name ≠ "timeout_ms" → name ≠ "wait_timeout_ms" →
      left.get name = right.get name) :
    scrubDeadlineProjectedTimeoutAuthority left = scrubDeadlineProjectedTimeoutAuthority right := by
  unfold scrubDeadlineProjectedTimeoutAuthority
  apply Json.object_ext
  · simpa using leftObject
  · simpa using rightObject
  · intro name
    rw [Json.get_remove, Json.get_remove, Json.get_remove, Json.get_remove]
    by_cases second : name = "wait_timeout_ms"
    · rw [if_pos second, if_pos second]
    · by_cases first : name = "timeout_ms"
      · rw [if_pos first, if_pos first]
      · rw [if_neg first, if_neg first, same name first second]

/-- The request carries another request to a target that it names. -/
def IsTargetDispatch (command : String) (args : Json) : Prop :=
  command = "_orchestration_target_dispatch" ∧ (targetDispatchParts args).isSome

theorem semanticReplayArgs_of_direct (direct : ¬ IsTargetDispatch command args) :
    semanticReplayArgs serde command args = directReplayArgs serde command args := by
  rw [semanticReplayArgs_eq]
  split
  · rename_i dispatch
    cases parts : targetDispatchParts args with
    | none => rfl
    | some => exact absurd ⟨dispatch, parts ▸ rfl⟩ direct
  · rfl

/-- A target dispatch shows its target and the request it carries, and nothing else. -/
theorem semanticReplayArgs_of_dispatch (dispatch : IsTargetDispatch command left)
    (same : targetDispatchParts left = targetDispatchParts right) :
    semanticReplayArgs serde command left = semanticReplayArgs serde command right := by
  obtain ⟨isDispatch, given⟩ := dispatch
  obtain ⟨pair, parts⟩ := Option.isSome_iff_exists.mp given
  rw [semanticReplayArgs_eq, semanticReplayArgs_eq, if_pos isDispatch, if_pos isDispatch, ← same,
    parts]

end Rub
