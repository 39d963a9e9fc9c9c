import Rub.ReplayFingerprint

/-!
What the handler of each command with a replay projection reads of its arguments to
decide its effect. The text of a path's state or of a spec's source, the trigger metadata
and the orchestration metadata other than the frame are carried along but decide nothing.
-/

namespace Rub

open Json Option

/-- How the steps of a workflow inherit the orchestration metadata of their request. -/
inductive OrchestrationMetadataInheritancePolicy where
  | preserveChildOverrides | triggerAuthoritativeFrame
  deriving DecidableEq

def orchestrationMetadataIsAuthoritative (key : String)
    (policy : OrchestrationMetadataInheritancePolicy) : Bool :=
  key == "frame_id" && policy == .triggerAuthoritativeFrame

/-- One turn of the loop over the inherited members. -/
def inheritMember (inherited : Json) (policy : OrchestrationMetadataInheritancePolicy)
    (orchestration : Json) (key : String) : Json :=
  if orchestrationMetadataIsAuthoritative key policy || (orchestration.get key).isNone then
    orchestration.insert key (Json.optional (inherited.get key))
  else orchestration

def inheritOrchestrationMetadata (args : Json) (inherited : Option Json)
    (policy : OrchestrationMetadataInheritancePolicy) : Json :=
  match inherited.filter isObject with
  | none => args
  | some inherited =>
    if args.isObject then
      let own := ((args.get "_orchestration").filter isObject).getD (object [])
      args.insert "_orchestration" (inherited.keys.foldl (inheritMember inherited policy) own)
    else args

def workflowStepFrame (inherited : Option Json) (policy : OrchestrationMetadataInheritancePolicy)
    (step : Json) : Option String :=
  orchestrationFrameOverride (inheritOrchestrationMetadata step inherited policy)

theorem isObject_inheritMember (inherited : Json) (policy : OrchestrationMetadataInheritancePolicy)
    (own : Json) (key : String) :
    (inheritMember inherited policy own key).isObject = own.isObject := by
  unfold inheritMember
  split
  · exact isObject_insert ..
  · rfl

/-- An inherited member takes the place of one the metadata may not keep. -/
def Yields (policy : OrchestrationMetadataInheritancePolicy) (own : Json) (name : String) : Prop :=
  orchestrationMetadataIsAuthoritative name policy = true ∨ own.get name = none

theorem get_inheritMember (policy : OrchestrationMetadataInheritancePolicy) {inherited own : Json}
    {key : String} (given : inherited.get key ≠ none) (object : own.isObject = true)
    (name : String) :
    (name = key ∧ Yields policy own name ∧
      (inheritMember inherited policy own key).get name = inherited.get name) ∨
    (¬ (name = key ∧ Yields policy own name) ∧
      (inheritMember inherited policy own key).get name = own.get name) := by
  obtain ⟨value, found⟩ := ne_none_iff_exists'.mp given
  unfold inheritMember
  by_cases hit : name = key
  · subst hit
    by_cases yields : Yields policy own name
    · refine .inl ⟨rfl, yields, ?_⟩
      have taken : (orchestrationMetadataIsAuthoritative name policy ||
          (own.get name).isNone) = true := by simpa [Yields] using yields
      rw [if_pos taken, get_insert object, if_pos rfl, found]
      rfl
    · refine .inr ⟨fun both => yields both.2, ?_⟩
      have kept : ¬ (orchestrationMetadataIsAuthoritative name policy ||
          (own.get name).isNone) = true := by simpa [Yields] using yields
      rw [if_neg kept]
  · refine .inr ⟨fun both => hit both.1, ?_⟩
    split
    · rw [get_insert object, if_neg hit]
    · rfl

variable {policy : OrchestrationMetadataInheritancePolicy} {step own : Json}
  {given : Option Json}

theorem get_foldl_inheritMember {inherited : Json} {keys : List String}
    (known : ∀ key ∈ keys, inherited.get key ≠ none) (object : own.isObject = true)
    (name : String) :
    (name ∈ keys ∧ Yields policy own name ∧
      (keys.foldl (inheritMember inherited policy) own).get name = inherited.get name) ∨
    (¬ (name ∈ keys ∧ Yields policy own name) ∧
      (keys.foldl (inheritMember inherited policy) own).get name = own.get name) := by
  induction keys generalizing own with
  | nil => simp
  | cons key _ ih =>
    have given := known key List.mem_cons_self
    have merged := ih (fun other member => known other (List.mem_cons_of_mem _ member))
      ((isObject_inheritMember inherited policy own key).trans object)
    rcases get_inheritMember policy given object name with ⟨rfl, yields, first⟩ | ⟨kept, first⟩
    · refine .inl ⟨List.mem_cons_self, yields, ?_⟩
      rcases merged with ⟨_, _, rest⟩ | ⟨_, rest⟩
      · exact rest
      · exact rest.trans first
    · have same : Yields policy (inheritMember inherited policy own key) name ↔
          Yields policy own name := by rw [Yields, Yields, first]
      rw [same, first] at merged
      rcases merged with ⟨member, yields, rest⟩ | ⟨absent, rest⟩
      · exact .inl ⟨List.mem_cons_of_mem _ member, yields, rest⟩
      · refine .inr ⟨fun both => ?_, rest⟩
        rcases List.mem_cons.mp both.1 with hit | member
        · exact kept ⟨hit, both.2⟩
        · exact absent ⟨member, both.2⟩
/-- The frame id among orchestration metadata, whatever its type. -/
def frameIdMember (orchestration : Option Json) : Option Json :=
  orchestration.bind fun value => value.get "frame_id"

/-- The frame id a step ends up with, of its own one and the inherited one. -/
def mergedFrameId (policy : OrchestrationMetadataInheritancePolicy) (own given : Option Json) :
    Option Json :=
  match policy with
  | .preserveChildOverrides => own.or given
  | .triggerAuthoritativeFrame => given.or own

theorem frameIdMember_filter (orchestration : Option Json) :
    frameIdMember (orchestration.filter isObject) = frameIdMember orchestration := by
  cases orchestration with
  | none => rfl
  | some value =>
    cases object : value.isObject with
    | true => simp [Option.filter, object]
    | false => simp [Option.filter, object, frameIdMember, get_of_not_object object]

theorem merged_of_yields (present : given ≠ none) (yields : Yields policy own "frame_id") :
    mergedFrameId policy (own.get "frame_id") given = given := by
  obtain ⟨value, rfl⟩ := ne_none_iff_exists'.mp present
  cases policy with
  | triggerAuthoritativeFrame => rfl
  | preserveChildOverrides =>
    rcases yields with authoritative | absent
    · cases authoritative
    · rw [absent]
      rfl

theorem merged_of_kept (kept : ¬ (given ≠ none ∧ Yields policy own "frame_id")) :
    mergedFrameId policy (own.get "frame_id") given = own.get "frame_id" := by
  cases given with
  | none => cases policy <;> simp [mergedFrameId]
  | some =>
    have stays : ¬ Yields policy own "frame_id" := fun yields => kept ⟨by simp, yields⟩
    cases policy with
    | triggerAuthoritativeFrame => exact absurd (.inl rfl) stays
    | preserveChildOverrides =>
      have present : own.get "frame_id" ≠ none := fun absent => stays (.inr absent)
      obtain ⟨mine, found⟩ := ne_none_iff_exists'.mp present
      rw [found]
      rfl

theorem frameIdMember_inherited (object : step.isObject = true)
    (inherited : Option Json) (policy : OrchestrationMetadataInheritancePolicy) :
    frameIdMember ((inheritOrchestrationMetadata step inherited policy).get "_orchestration") =
      mergedFrameId policy (frameIdMember (step.get "_orchestration"))
        (frameIdMember inherited) := by
  rw [← frameIdMember_filter inherited]
  unfold inheritOrchestrationMetadata
  cases filtered : inherited.filter isObject with
  | none => cases policy <;> simp [mergedFrameId, frameIdMember]
  | some =>
    have ownMember : (((step.get "_orchestration").filter isObject).getD
        (Json.object [])).get "frame_id" = frameIdMember (step.get "_orchestration") := by
      rw [← frameIdMember_filter]
      cases (step.get "_orchestration").filter isObject <;> rfl
    have ownObject : (((step.get "_orchestration").filter isObject).getD
        (Json.object [])).isObject = true := by
      cases own : (step.get "_orchestration").filter isObject with
      | none => rfl
      | some => exact (filter_eq_some_iff.mp own).2
    simp only [object, if_true]
    rw [get_insert object, if_pos rfl, ← ownMember]
    generalize ((step.get "_orchestration").filter isObject).getD (Json.object []) = own
      at ownObject
    rcases get_foldl_inheritMember (fun key => mem_keys_iff.mp) ownObject "frame_id" with
      ⟨member, yields, merged⟩ | ⟨kept, merged⟩
    · exact merged.trans (merged_of_yields (mem_keys_iff.mp member) yields).symm
    · rw [mem_keys_iff] at kept
      exact merged.trans (merged_of_kept kept).symm

theorem workflowStepFrame_of_object (object : step.isObject = true)
    (inherited : Option Json) (policy : OrchestrationMetadataInheritancePolicy) :
    workflowStepFrame inherited policy step =
      trimmedText ((mergedFrameId policy (frameIdMember (step.get "_orchestration"))
        (frameIdMember inherited)).bind asStr) := by
  rw [← frameIdMember_inherited object inherited policy]
  rfl

theorem workflowStepFrame_of_scalar (scalar : step.isObject = false)
    (inherited : Option Json) (policy : OrchestrationMetadataInheritancePolicy) :
    workflowStepFrame inherited policy step = none := by
  have untouched : inheritOrchestrationMetadata step inherited policy = step := by
    unfold inheritOrchestrationMetadata
    cases inherited.filter isObject <;> simp [scalar]
  rw [workflowStepFrame, untouched, orchestrationFrameOverride, get_of_not_object scalar]
  rfl

theorem workflowStepFrame_congr {left right : Option Json}
    {policy : OrchestrationMetadataInheritancePolicy}
    (same : ∀ own, trimmedText ((mergedFrameId policy own (frameIdMember left)).bind asStr) =
      trimmedText ((mergedFrameId policy own (frameIdMember right)).bind asStr)) :
    workflowStepFrame left policy = workflowStepFrame right policy := by
  funext step
  cases object : step.isObject with
  | false => rw [workflowStepFrame_of_scalar object, workflowStepFrame_of_scalar object]
  | true => rw [workflowStepFrame_of_object object, workflowStepFrame_of_object object, same]

/-- A step without orchestration metadata of its own runs in the frame of its request. -/
theorem workflowStepFrame_of_bare (inherited : Option Json)
    (policy : OrchestrationMetadataInheritancePolicy) :
    workflowStepFrame inherited policy (object []) = frameOverrideOf inherited := by
  rw [workflowStepFrame_of_object rfl]
  have bare : frameIdMember ((object []).get "_orchestration") = none := rfl
  rw [bare]
  cases policy <;> simp [mergedFrameId, frameOverrideOf, frameIdMember]

variable {left right : Option Json}

/-- Steps that keep their own frame id see no more of the inherited one than its text. -/
theorem workflowStepFrame_preserve_iff : workflowStepFrame left .preserveChildOverrides =
        workflowStepFrame right .preserveChildOverrides ↔
      frameOverrideOf left = frameOverrideOf right := by
  constructor
  · intro same
    have bare := congrFun same (Json.object [])
    rwa [workflowStepFrame_of_bare, workflowStepFrame_of_bare] at bare
  · refine fun same => workflowStepFrame_congr fun own => ?_
    cases own with
    | some => rfl
    | none => exact same

/-- A step that asks for a frame of its own. -/
def framedStep : Json :=
  object [("_orchestration", object [("frame_id", string "f")])]

theorem framedStep_frame (same : workflowStepFrame left .triggerAuthoritativeFrame =
      workflowStepFrame right .triggerAuthoritativeFrame)
    (override : frameOverrideOf left = frameOverrideOf right) (given : (frameIdMember right).isSome)
    : (frameIdMember left).isSome := by
  obtain ⟨value, found⟩ := isSome_iff_exists.mp given
  cases absent : frameIdMember left with
  | some => rfl
  | none =>
    have framed := congrFun same framedStep
    rw [workflowStepFrame_of_object rfl, workflowStepFrame_of_object rfl, absent, found] at framed
    have blank : frameOverrideOf left = none := by
      show trimmedText ((frameIdMember left).bind asStr) = none
      rw [absent]
      rfl
    have replaced : trimmedText ((some value).bind asStr) = frameOverrideOf right := by
      show _ = trimmedText ((frameIdMember right).bind asStr)
      rw [found]
    have own : some "f" = trimmedText ((some value).bind asStr) := framed
    rw [replaced, ← override, blank] at own
    cases own

/-- An authoritative frame id also replaces the one of a step when it has no text itself. -/
theorem workflowStepFrame_trigger_iff : workflowStepFrame left .triggerAuthoritativeFrame =
        workflowStepFrame right .triggerAuthoritativeFrame ↔
      frameOverrideOf left = frameOverrideOf right ∧
        ((frameIdMember left).isSome ↔ (frameIdMember right).isSome) := by
  constructor
  · intro same
    have override := congrFun same (Json.object [])
    rw [workflowStepFrame_of_bare, workflowStepFrame_of_bare] at override
    exact ⟨override, framedStep_frame same.symm override.symm, framedStep_frame same override⟩
  · refine fun ⟨override, given⟩ => workflowStepFrame_congr fun own => ?_
    have texts : trimmedText ((frameIdMember left).bind asStr) =
        trimmedText ((frameIdMember right).bind asStr) := override
    cases first : frameIdMember left with
    | none =>
      rw [first] at given
      have absent : frameIdMember right = none := by simpa using given
      rw [absent]
    | some =>
      rw [first] at given texts
      obtain ⟨other, second⟩ := isSome_iff_exists.mp (given.mp rfl)
      rw [second] at texts ⊢
      exact texts

/-- What the resolution of an addressed element reads. -/
structure AddressedReads where
  locator : Except ErrorEnvelope (Option CanonicalLocator)
  ranking : LocatorRankingPolicy
  snapshotId : Option String
  frame : Option String

def addressedReads (args : Json) : AddressedReads :=
  { locator := parseCanonicalLocator args .elementAddress
    ranking := locatorRankingPolicy args
    snapshotId := stringArg args "snapshot_id"
    frame := orchestrationFrameOverride args }

/-- What the wait after a command reads; only a located wait runs in a frame. -/
structure PostWaitReads where
  waitAfter : Option Json
  frame : Option String

def postWaitReads (serde : SerdeJson) (args : Json) : PostWaitReads :=
  { waitAfter := args.get "wait_after"
    frame := if waitAfterUsesFrame serde args then orchestrationFrameOverride args else none }

/-- The raw observation members, as the observation scope is read from them. -/
def observationReads (args : Json) : List (Option Json) := observationFieldNames.map args.get

inductive HandlerReads where
  | open (url : String) (strategy : Except ErrorEnvelope LoadStrategy) (wait : PostWaitReads)
  | state (limit : Option Nat) (format : Option String) (a11y viewport : Bool)
      (diff : Option String) (listeners : Bool) (observation : List (Option Json))
      (frame : Option String)
  | scroll (direction : Except ErrorEnvelope ScrollDirection) (amount : Option Nat)
      (frame : Option String)
  | reload (strategy : Except ErrorEnvelope LoadStrategy) (wait : PostWaitReads)
  | screenshot (full highlight : Bool) (path : Option String)
  | switch (index : Nat) (wait : PostWaitReads)
  | closeTab (index : Option Nat)
  | clickPoint (gesture : Except ErrorEnvelope ClickGesture) (xy : FloatText × FloatText)
      (wait : PostWaitReads)
  | clickElement (gesture : Except ErrorEnvelope ClickGesture) (target : AddressedReads)
      (wait : PostWaitReads)
  | keys (keys : String) (frame : Option String) (wait : PostWaitReads)
  | type (text : String) (clear located : Bool) (target : AddressedReads) (wait : PostWaitReads)
  | hover (target : AddressedReads) (wait : PostWaitReads)
  | upload (path : String) (target : AddressedReads) (wait : PostWaitReads)
  | select (value : String) (target : AddressedReads) (wait : PostWaitReads)
  | observe (full : Bool) (path : Option String) (limit : Option Nat)
      (observation : List (Option Json)) (frame : Option String)
  | storage (command : StorageCommand) (frame : Option String)
  /-- The steps of a form fill carry no orchestration metadata of their own. -/
  | fill (spec : Json) (atomic : Bool) (snapshotId : Option String) (submit : Option Json)
      (frame stepFrame : Option String) (wait : PostWaitReads)
  | pipe (spec : Json) (stepFrame : Json → Option String) (wait : PostWaitReads)

/-- The commands with a replay projection. -/
inductive ProjectedCommand where
  | open | state | scroll | reload | screenshot | switch | closeTab | click | keys | type | hover
  | upload | select | observe | storage | fill | triggerFill | pipe | triggerPipe
  deriving DecidableEq

namespace ProjectedCommand

def name : ProjectedCommand → String
  | .open => "open"
  | .state => "state"
  | .scroll => "scroll"
  | .reload => "reload"
  | .screenshot => "screenshot"
  | .switch => "switch"
  | .closeTab => "close-tab"
  | .click => "click"
  | .keys => "keys"
  | .type => "type"
  | .hover => "hover"
  | .upload => "upload"
  | .select => "select"
  | .observe => "observe"
  | .storage => "storage"
  | .fill => "fill"
  | .triggerFill => "_trigger_fill"
  | .pipe => "pipe"
  | .triggerPipe => "_trigger_pipe"

end ProjectedCommand

variable (serde : SerdeJson)

def openReads (args : Json) : Option HandlerReads :=
  (OpenArgs.decode args).map fun parsed =>
    .open parsed.url (parseOptionalLoadStrategy parsed.loadStrategy "load_strategy")
      (postWaitReads serde args)

def stateReads (args : Json) : Option HandlerReads :=
  (StateArgs.decode args).map fun parsed =>
    .state parsed.limit parsed.format parsed.a11y parsed.viewport parsed.diff parsed.listeners
      (observationReads args) (orchestrationFrameOverride args)

def scrollReads (args : Json) : Option HandlerReads :=
  (ScrollArgs.decode args).map fun parsed =>
    .scroll (parseOptionalScrollDirection parsed.direction "direction") parsed.amount
      (orchestrationFrameOverride args)

def reloadReads (args : Json) : Option HandlerReads :=
  (ReloadArgs.decode args).map fun parsed =>
    .reload (parseOptionalLoadStrategy parsed.loadStrategy "load_strategy")
      (postWaitReads serde args)

def screenshotReads (args : Json) : Option HandlerReads :=
  (ScreenshotArgs.decode args).map fun parsed =>
    .screenshot parsed.full parsed.highlight parsed.path

def switchReads (args : Json) : Option HandlerReads :=
  (SwitchArgs.decode args).map fun parsed => .switch parsed.index (postWaitReads serde args)

def closeTabReads (args : Json) : Option HandlerReads :=
  (CloseTabArgs.decode args).map fun parsed => .closeTab parsed.index

def clickReads (args : Json) : Option HandlerReads :=
  (ClickArgs.decode serde args).map fun parsed =>
    match parsed.xy with
    | some xy => .clickPoint (requestedClickGesture parsed.gesture) xy (postWaitReads serde args)
    | none =>
      .clickElement (requestedClickGesture parsed.gesture) (addressedReads args)
        (postWaitReads serde args)

def keysReads (args : Json) : Option HandlerReads :=
  (KeysArgs.decode args).map fun parsed =>
    .keys parsed.keys (orchestrationFrameOverride args) (postWaitReads serde args)

def typeReads (args : Json) : Option HandlerReads :=
  (TextEntryArgs.decode args).map fun parsed =>
    .type parsed.text parsed.clear parsed.locator.isRequested (addressedReads args)
      (postWaitReads serde args)

def hoverReads (args : Json) : Option HandlerReads :=
  (HoverArgs.decode args).map fun _ => .hover (addressedReads args) (postWaitReads serde args)

def uploadReads (args : Json) : Option HandlerReads :=
  (UploadArgs.decode args).map fun parsed =>
    .upload parsed.path (addressedReads args) (postWaitReads serde args)

def selectReads (args : Json) : Option HandlerReads :=
  (SelectArgs.decode args).map fun parsed =>
    .select parsed.value (addressedReads args) (postWaitReads serde args)

def observeReads (args : Json) : Option HandlerReads :=
  (ObserveArgs.decode args).map fun parsed =>
    .observe parsed.full parsed.path parsed.limit (observationReads args)
      (orchestrationFrameOverride args)

def storageReads (args : Json) : Option HandlerReads :=
  (StorageCommand.parse args).map fun command => .storage command (orchestrationFrameOverride args)

def fillReads (policy : OrchestrationMetadataInheritancePolicy) (args : Json) :
    Option HandlerReads :=
  (FillArgs.decode serde args).map fun parsed =>
    .fill parsed.spec parsed.atomic parsed.snapshotId (submitArgs parsed.submit)
      (orchestrationFrameOverride args)
      (workflowStepFrame parsed.orchestration policy (object []))
      (postWaitReads serde args)

def pipeReads (policy : OrchestrationMetadataInheritancePolicy) (args : Json) :
    Option HandlerReads :=
  (PipeArgs.decode serde args).map fun parsed =>
    .pipe parsed.spec (workflowStepFrame parsed.orchestration policy) (postWaitReads serde args)

/-- What the command's handler reads of arguments that the command's parser accepts. -/
def ProjectedCommand.handlerReads : ProjectedCommand → Json → Option HandlerReads
  | .open => openReads serde
  | .state => stateReads
  | .scroll => scrollReads
  | .reload => reloadReads serde
  | .screenshot => screenshotReads
  | .switch => switchReads serde
  | .closeTab => closeTabReads
  | .click => clickReads serde
  | .keys => keysReads serde
  | .type => typeReads serde
  | .hover => hoverReads serde
  | .upload => uploadReads serde
  | .select => selectReads serde
  | .observe => observeReads
  | .storage => storageReads
  | .fill => fillReads serde .preserveChildOverrides
  | .triggerFill => fillReads serde .triggerAuthoritativeFrame
  | .pipe => pipeReads serde .preserveChildOverrides
  | .triggerPipe => pipeReads serde .triggerAuthoritativeFrame

def ProjectedCommand.replayArgs : ProjectedCommand → Json → Option Json
  | .open => openReplayArgs
  | .state => stateReplayArgs
  | .scroll => scrollReplayArgs
  | .reload => reloadReplayArgs
  | .screenshot => screenshotReplayArgs
  | .switch => switchReplayArgs
  | .closeTab => closeTabReplayArgs
  | .click => clickReplayArgs serde
  | .keys => keysReplayArgs
  | .type => typeReplayArgs
  | .hover => hoverReplayArgs
  | .upload => uploadReplayArgs
  | .select => selectReplayArgs
  | .observe => observeReplayArgs
  | .storage => storageReplayArgs
  | .fill => fillReplayArgs serde
  | .triggerFill => fillReplayArgs serde
  | .pipe => pipeReplayArgs serde
  | .triggerPipe => pipeReplayArgs serde

theorem ProjectedCommand.semanticReplayArgs_name (command : ProjectedCommand) (args : Json) :
    semanticReplayArgs serde command.name args =
      (command.replayArgs serde args).getD (scrubDeadlineProjectedTimeoutAuthority args) := by
  have plain : command.name ≠ "_orchestration_target_dispatch" := by cases command <;> decide
  rw [semanticReplayArgs_eq, if_neg plain]
  cases command <;>
    simp [directReplayArgs, navigationReplayArgs, interactionReplayArgs, workflowReplayArgs,
      ProjectedCommand.name, ProjectedCommand.replayArgs]

end Rub
