import Rub.PipeExecution
import Rub.WorkflowCapture

/-!
Whether an exported history runs the recorded commands again. The arguments of a command are
redacted when it is captured, and come back through the two placeholder languages of a
workflow, which the command itself did not know.
-/

namespace Rub

open Json List PipeStepSpec

variable {sources : SecretSources} {metadata : SecretResolutionMetadata} {text : String}

/-- What a string leaf of the arguments is captured as. -/
def capturedText (sources : SecretSources) (metadata : SecretResolutionMetadata)
    (text : String) : String :=
  redactString (redactExactLeaf sources text) metadata

def collectedSecrets (sources : SecretSources) (args : Json) : SecretResolutionMetadata :=
  args.leafTexts.foldl (collectSecretMatch sources) .empty

/-- The leaf comes back from its captured form: it is the value of a secret and its captured
reference resolves to it (or is no placeholder and the same text), or it is neither redacted
nor taken for a placeholder. In both cases no reference to an earlier step is read into it. -/
def LeafReplays (sources : SecretSources) (metadata : SecretResolutionMetadata)
    (text : String) : Prop :=
  ¬ HasReference text.toList ∧
    match sources.referenceForValue text with
    | some (reference, _) =>
      (parseSecretPlaceholder (redactString reference metadata) = none ∧
        redactString reference metadata = text) ∨
      ∃ name source, parseSecretPlaceholder (redactString reference metadata) = some name ∧
        sources.resolve name = some (text, source)
    | none => redactString text metadata = text ∧ parseSecretPlaceholder text = none

theorem referenceForValue_of_resolve {name : String} {source : SecretSource} (filled : text ≠ "")
    (found : sources.resolve name = some (text, source)) :
    sources.referenceForValue text ≠ none := by
  unfold SecretSources.referenceForValue
  rw [if_neg filled]
  cases inProcess : sources.processEnv.find? fun entry => entry.2 == text with
  | some => exact Option.some_ne_none _
  | none =>
    unfold SecretSources.resolve at found
    cases looked : sources.processEnv.lookup name with
    | some value =>
      simp only [looked, Option.some.injEq, Prod.mk.injEq] at found
      have absent := List.find?_eq_none.mp inProcess (name, value) (mem_of_lookup_eq_some looked)
      exact absurd found.1 (by simpa using absent)
    | none =>
      simp only [looked, Option.map_eq_some_iff, Prod.mk.injEq] at found
      obtain ⟨value, inFile, rfl, -⟩ := found
      simp only [ne_eq, Option.map_eq_none_iff, List.find?_eq_none, not_forall]
      exact ⟨(name, value), mem_of_lookup_eq_some inFile, by simp⟩

theorem resolveSecretText_eq_ok_iff {command put : String} :
    resolveSecretText command sources text = .ok (string put) ↔
      (parseSecretPlaceholder text = none ∧ text = put) ∨
        ∃ name source, parseSecretPlaceholder text = some name ∧
          sources.resolve name = some (put, source) := by
  have strings : ∀ left right : String, string left = string right ↔ left = right :=
    fun left right => ⟨fun same => Option.some.inj (congrArg asStr same), congrArg _⟩
  unfold resolveSecretText
  cases parsed : parseSecretPlaceholder text with
  | none => simp [strings]
  | some name =>
    cases found : sources.resolve name with
    | none => simp [found]
    | some secret =>
      obtain ⟨value, source⟩ := secret
      simp [found, strings]

/-- The secret pass gives a captured leaf back exactly under the condition on it. -/
theorem capturedText_resolves_iff (command : String) :
    resolveSecretText command sources (capturedText sources metadata text) =
        .ok (string text) ∧ ¬ HasReference text.toList ↔
      LeafReplays sources metadata text := by
  rw [resolveSecretText_eq_ok_iff, and_comm, LeafReplays]
  refine and_congr_right fun _ => ?_
  unfold capturedText redactExactLeaf
  cases matched : sources.referenceForValue text with
  | some => exact Iff.rfl
  | none =>
    simp only
    -- A text that a placeholder resolves to would have been found among the values.
    have unresolvable : ∀ name source, sources.resolve name ≠ some (text, source) ∨ text = "" := by
      intro name source
      by_cases filled : text = ""
      · exact .inr filled
      · exact .inl fun found => referenceForValue_of_resolve filled found matched
    constructor
    · rintro (⟨plain, same⟩ | ⟨name, source, parsed, found⟩)
      · rw [same] at plain
        exact ⟨same, plain⟩
      · rcases unresolvable name source with absent | empty
        · exact absurd found absent
        · rw [empty, redactString, if_pos rfl] at parsed
          cases parsed
    · rintro ⟨same, plain⟩
      rw [same]
      exact .inl ⟨plain, rfl⟩

/-- A successful command, as far as its capture reads it. -/
structure RecordedCommand where
  sequence : Nat
  request : IpcRequest
  response : IpcResponse
  deliveryState : WorkflowCaptureDeliveryState

def RecordedCommand.call (command : RecordedCommand) : String × Json :=
  (command.request.command, command.request.args)

def capturedEntry (sources : SecretSources) (command : RecordedCommand) : WorkflowCaptureEntry :=
  workflowCaptureEntry command.sequence (redactedPostCommitRequest command.request (.ok sources))
    command.response command.deliveryState

/-- The command is part of an export. -/
def Exported (sources : SecretSources) (command : RecordedCommand) : Prop :=
  ∃ includeObservation,
    exportVerdict includeObservation (capturedEntry sources command) = .step

def exportedSteps (sources : SecretSources) (commands : List RecordedCommand) :
    List WorkflowExportStep :=
  commands.map fun command => exportStep (capturedEntry sources command)

/-- Every leaf of the arguments comes back from its captured form. -/
def Replayable (sources : SecretSources) (args : Json) : Prop :=
  ∀ text ∈ args.leafTexts, LeafReplays sources (collectedSecrets sources args) text

theorem redactJsonValue_eq (value : Json) (metadata : SecretResolutionMetadata) :
    redactJsonValue value metadata = value.mapLeaves fun text => redactString text metadata := by
  unfold redactJsonValue
  split
  · rename_i empty
    refine (mapLeaves_eq_self_iff.mpr fun text _ => ?_).symm
    have none : metadata.entries = [] := List.isEmpty_iff.mp empty
    simp [redactString, none]
  · rfl

theorem capturedEntry_args (command : RecordedCommand) :
    (capturedEntry sources command).args = command.request.args.mapLeaves
      (capturedText sources (collectedSecrets sources command.request.args)) := by
  have payload : (capturedEntry sources command).args =
      redactJsonValue (command.request.args.mapLeaves (redactExactLeaf sources))
        (collectedSecrets sources command.request.args) := rfl
  rw [payload, redactJsonValue_eq, mapLeaves_mapLeaves]
  rfl

theorem orchestration_allowed_iff {args : Json} :
    (orchestrationRequestPolicy args).workflowAllowed = true ↔
      ((args.get "sub").bind asStr).getD "list" ∈
        ["add", "pause", "resume", "remove", "execute"] := by
  unfold orchestrationRequestPolicy
  split <;> simp_all

theorem allowed_of_exported {command : RecordedCommand} (exported : Exported sources command) :
    workflowRequestAllowed command.request.command (capturedEntry sources command).args = true := by
  obtain ⟨includeObservation, verdict⟩ := exported
  unfold exportVerdict at verdict
  (repeat' split at verdict) <;> cases verdict
  exact Bool.eq_true_of_not_eq_false ‹_›

theorem allowed_of_captured {command : String} {args : Json} {captured : String → String}
    (back : ∀ text ∈ args.leafTexts,
      resolveSecretText "pipe" sources (captured text) = .ok (string text))
    (allowed : workflowRequestAllowed command (args.mapLeaves captured) = true) :
    workflowRequestAllowed command args = true := by
  unfold workflowRequestAllowed workflowRequestPolicy at allowed ⊢
  split at allowed
  · rename_i orchestration
    rw [if_pos orchestration]
    rw [orchestration_allowed_iff] at allowed ⊢
    rw [get_mapLeaves, bind_asStr_mapLeaves] at allowed
    cases given : (args.get "sub").bind asStr with
    | none =>
      rw [given] at allowed
      simp at allowed
    | some text =>
      rw [given, Option.map_some, Option.getD_some] at allowed
      -- The name of a subcommand is no placeholder, so it is what it resolves to.
      have plain : ∀ name ∈ ["add", "pause", "resume", "remove", "execute"],
          parseSecretPlaceholder name = none := by decide
      obtain ⟨member, found, isText⟩ := Option.bind_eq_some_iff.mp given
      have resolved := back text (mem_leafTexts_of_get found (mem_leafTexts_asStr isText))
      rcases resolveSecretText_eq_ok_iff.mp resolved with ⟨-, same⟩ | ⟨name, source, parsed, -⟩
      · rwa [same] at allowed
      · rw [plain _ allowed] at parsed
        cases parsed
  · rename_i other
    rwa [if_neg other]

variable {serde : SerdeJson}

/-- An exported step after the secret pass. -/
def resolvedStep (sources : SecretSources) (step : WorkflowExportStep) : PipeStepSpec :=
  ⟨secretText sources step.command, step.args.mapLeaves (secretText sources), none⟩

theorem decode_exported (command : String) (args : Json) :
    decode (object [("command", string command), ("args", args)]) = some ⟨command, args, none⟩ := by
  have fields : Serde.structFields 3 ["command", "args", "label"]
      (object [("command", string command), ("args", args)]) =
        some (object [("command", string command), ("args", args)]).get :=
    Serde.structFields_object (by simp)
  rw [decode, fields]
  simp only [Option.bind_eq_bind, Option.bind_some, get_object]
  rfl

theorem decodePipeStepList_exported (steps : List WorkflowExportStep) :
    decodePipeStepList ((array (steps.map replayableExportStepJson)).mapLeaves
      (secretText sources)) = some ⟨steps.map (resolvedStep sources), []⟩ := by
  have items : (steps.map replayableExportStepJson).map
      (fun item => item.mapLeaves (secretText sources)) =
        steps.map fun step => object [("command", string (secretText sources step.command)),
          ("args", step.args.mapLeaves (secretText sources))] := by
    rw [map_map]
    refine map_congr_left fun step _ => ?_
    simp only [Function.comp, replayableExportStepJson, mapLeaves_object]
    rfl
  have decoded : ∀ rest : List WorkflowExportStep, (rest.map fun step =>
      object [("command", string (secretText sources step.command)),
        ("args", step.args.mapLeaves (secretText sources))]).mapM decode =
          some (rest.map (resolvedStep sources)) := by
    intro rest
    induction rest with
    | nil => rfl
    | cons _ _ ih =>
      rw [map_cons, mapM_cons, decode_exported, ih]
      rfl
  rw [mapLeaves_array, items, decodePipeStepList, decodeItems, asArray_array,
    Option.bind_some, decoded]
  rfl

theorem duplicateLabel_unlabelled (seen : List String) (index : Nat)
    (steps : List WorkflowExportStep) :
    duplicateLabel seen index (steps.map (resolvedStep sources)) = none := by
  induction steps generalizing index with
  | nil => rfl
  | cons _ _ ih => exact ih (index + 1)

theorem resolveJsonValue_of_resolves {α : Type} {decode : Json → Option α} {spec : Json}
    {command : String} {value : α}
    (resolves : ∀ text ∈ spec.leafTexts, ∃ put, resolveSecretText command sources text = .ok put)
    (decoded : decode (spec.mapLeaves (secretText sources)) = some value) :
    resolveJsonValueWithSecretResolution serde decode spec command (.ok sources) =
      .ok ⟨value, spec.leafTexts.foldl (recordSecretText sources) .empty⟩ := by
  have tried : spec.tryLeaves (resolveSecretText command sources) =
      .ok (spec.mapLeaves (secretText sources)) := by
    refine tryLeaves_of_ok fun text member => ?_
    obtain ⟨put, found⟩ := resolves text member
    rw [found, resolveSecretText_eq_ok found]
  simp only [resolveJsonValueWithSecretResolution, resolveSecretPlaceholders, bind, Except.bind,
    pure, Except.pure, tried, decoded]

theorem parsePipeSpec_exported {steps : List WorkflowExportStep} (filled : steps ≠ [])
    (resolves : ∀ text ∈ (array (steps.map replayableExportStepJson)).leafTexts,
      ∃ put, resolveSecretText "pipe" sources text = .ok put) :
    ∃ metadata, parsePipeSpec serde (array (steps.map replayableExportStepJson))
      (.ok sources) = .ok ⟨⟨steps.map (resolvedStep sources), []⟩, metadata⟩ := by
  have isArray : (array (steps.map replayableExportStepJson)).asArray.isSome = true := by
    rfl
  have nonempty : (steps.map (resolvedStep sources)).isEmpty = false := by
    simpa using filled
  refine ⟨(array (steps.map replayableExportStepJson)).leafTexts.foldl
    (recordSecretText sources) .empty, ?_⟩
  unfold parsePipeSpec
  simp only [isArray, if_true]
  rw [resolveJsonValue_of_resolves resolves (decodePipeStepList_exported steps)]
  simp only [bind, Except.bind, nonempty, Bool.false_and, duplicateLabel_unlabelled]
  rfl

theorem resolves_of_parsePipeSpec {raw : Json} {parsed : ResolvedJsonSpec ParsedPipeWorkflowSpec}
    (accepted : parsePipeSpec serde raw (.ok sources) = .ok parsed) :
    ∀ text ∈ raw.leafTexts, ∃ put, resolveSecretText "pipe" sources text = .ok put := by
  obtain ⟨resolved, resolution, -⟩ := except_bind_eq_ok.mp accepted
  obtain ⟨loaded, same, resolution⟩ := except_bind_eq_ok.mp resolution
  cases same
  obtain ⟨pair, resolution, -⟩ := except_bind_eq_ok.mp resolution
  obtain ⟨result, tried, -⟩ := except_bind_eq_ok.mp resolution
  exact (tryLeaves_eq_ok_iff.mp tried).1

/-- Every command succeeds and passes its fence, with any result. -/
def PipeRouter.Commits (router : PipeRouter) : Prop :=
  ∀ executed, ∃ data, router.execute executed = .ok data ∧
    ∀ command, ensureCommittedAutomationResult command (some data) = .ok ()

theorem runPipeStep_inert {router : PipeRouter} (commits : router.Commits) {step : PipeStepSpec}
    (allowed : workflowRequestAllowed step.command step.args = true)
    (inert : ∀ text ∈ step.args.leafTexts, ¬ HasReference text.toList) (progress : PipeProgress) :
    ∃ next, runPipeStep router metadata .preserveChildOverrides none progress step = .ok next ∧
      next.executed = progress.executed ++ [(step.command, step.args)] := by
  have references : resolveStepReferences step.args progress.completed progress.completed.length =
      .ok step.args :=
    tryLeaves_eq_self_iff.mpr fun text member => resolveStepText_inert (inert text member)
  obtain ⟨data, executed, committed⟩ := commits (progress.executed ++ [(step.command, step.args)])
  have inherited : inheritOrchestrationMetadata step.args none .preserveChildOverrides =
      step.args := rfl
  unfold runPipeStep
  simp only [pipeStepAllowed, allowed, if_true, inherited, references, executePipeCommand, executed,
    committed]
  exact ⟨_, rfl, rfl⟩

theorem runPipeSteps_inert {router : PipeRouter} (commits : router.Commits)
    {steps : List PipeStepSpec}
    (allowed : ∀ step ∈ steps, workflowRequestAllowed step.command step.args = true)
    (inert : ∀ step ∈ steps, ∀ text ∈ step.args.leafTexts, ¬ HasReference text.toList)
    (progress : PipeProgress) :
    ∃ next, steps.foldlM (runPipeStep router metadata .preserveChildOverrides none) progress =
        .ok next ∧
      next.executed = progress.executed ++ steps.map fun step => (step.command, step.args) := by
  induction steps generalizing progress with
  | nil => exact ⟨progress, rfl, by simp⟩
  | cons step _ ih =>
    obtain ⟨first, ran, executed⟩ := @runPipeStep_inert metadata router commits step
      (allowed step mem_cons_self) (inert step mem_cons_self) progress
    obtain ⟨last, rest, all⟩ := ih (fun step member => allowed step (mem_cons_of_mem _ member))
      (fun step member => inert step (mem_cons_of_mem _ member)) first
    refine ⟨last, ?_, ?_⟩
    · rw [foldlM_cons, ran]
      exact rest
    · rw [all, executed]
      simp

/-- The exported selection is run again command for command, wherever the commands commit. -/
def ReplaysExactly (sources : SecretSources) (selection : List RecordedCommand) : Prop :=
  ∀ router : PipeRouter, router.secrets = .ok sources → router.Commits →
    (cmdPipe router (exportedPipe (exportedSteps sources selection))).progress.executed =
      selection.map RecordedCommand.call

theorem mem_leafTexts_replayable {step : WorkflowExportStep} :
    text ∈ (replayableExportStepJson step).leafTexts ↔
      text ∈ step.args.leafTexts ∨ text = step.command := by
  have order : "args" < "command" := by decide
  have tree : (replayableExportStepJson step).tree =
      .object [("args", step.args.tree), ("command", .string step.command)] := by
    simp [replayableExportStepJson, object, fieldsOf, insertField, order, string]
  rw [leafTexts, tree, JsonTree.leafTexts_object]
  simp [leafTexts, JsonTree.leafTexts]

theorem exported_command_plain {command : RecordedCommand} (exported : Exported sources command) :
    parseSecretPlaceholder command.request.command = none := by
  have plain : ∀ name ∈ workflowCommands, parseSecretPlaceholder name = none := by decide
  exact plain _ (mem_workflowCommands_of_allowed (allowed_of_exported exported))

theorem decode_exportedPipe (serde : SerdeJson) (steps : List WorkflowExportStep) :
    PipeArgs.decode serde (exportedPipe steps) =
      some ⟨array (steps.map replayableExportStepJson), none, none, none, none⟩ := rfl

/-- The secret pass gives the command and arguments back that the step was captured from. -/
theorem resolvedStep_captured {command : RecordedCommand} (exported : Exported sources command)
    (back : ∀ text ∈ command.request.args.leafTexts, resolveSecretText "pipe" sources
      (capturedText sources (collectedSecrets sources command.request.args) text) =
        .ok (string text)) :
    resolvedStep sources (exportStep (capturedEntry sources command)) =
      ⟨command.request.command, command.request.args, none⟩ := by
  have name : secretText sources command.request.command = command.request.command := by
    simp [secretText, exported_command_plain exported]
  have args : (capturedEntry sources command).args.mapLeaves (secretText sources) =
      command.request.args := by
    rw [capturedEntry_args, mapLeaves_mapLeaves]
    exact mapLeaves_eq_self_iff.mpr fun text member =>
      (Option.some.inj (congrArg asStr (resolveSecretText_eq_ok (back text member)))).symm
  exact congrArg₂ (fun name args => mk name args none) name args

/-- Every leaf of the exported workflow is a captured leaf or the name of a command. -/
theorem mem_leafTexts_exported {selection : List RecordedCommand} :
    text ∈ (array ((exportedSteps sources selection).map replayableExportStepJson)).leafTexts ↔
      ∃ command ∈ selection, text ∈ (capturedEntry sources command).args.leafTexts ∨
        text = command.request.command := by
  rw [leafTexts_array, mem_flatMap]
  simp only [exportedSteps, map_map, mem_map, exists_exists_and_eq_and,
    Function.comp_apply, mem_leafTexts_replayable]
  rfl

/-- Commands whose arguments come back are run again as they were. -/
theorem replaysExactly_of_replayable {selection : List RecordedCommand} (filled : selection ≠ [])
    (exported : ∀ command ∈ selection, Exported sources command)
    (replayable : ∀ command ∈ selection, Replayable sources command.request.args) :
    ReplaysExactly sources selection := by
  intro router secrets commits
  have back : ∀ command ∈ selection, ∀ text ∈ command.request.args.leafTexts,
      resolveSecretText "pipe" sources
        (capturedText sources (collectedSecrets sources command.request.args) text) =
          .ok (string text) ∧ ¬ HasReference text.toList :=
    fun command member text inside =>
      (capturedText_resolves_iff "pipe").mpr (replayable command member text inside)
  have steps : (exportedSteps sources selection).map (resolvedStep sources) =
      selection.map fun command => ⟨command.request.command, command.request.args, none⟩ := by
    rw [exportedSteps, map_map]
    exact map_congr_left fun command member => resolvedStep_captured
      (exported command member) fun text inside => (back command member text inside).1
  have resolves : ∀ text ∈ (array ((exportedSteps sources selection).map
      replayableExportStepJson)).leafTexts,
        ∃ put, resolveSecretText "pipe" sources text = .ok put := by
    intro text member
    obtain ⟨command, inside, leaf | rfl⟩ := mem_leafTexts_exported.mp member
    · rw [capturedEntry_args, leafTexts_mapLeaves] at leaf
      obtain ⟨original, given, rfl⟩ := mem_map.mp leaf
      exact ⟨_, (back command inside original given).1⟩
    · exact ⟨_, resolveSecretText_eq_ok_iff.mpr
        (.inl ⟨exported_command_plain (exported command inside), rfl⟩)⟩
  obtain ⟨metadata, parsed⟩ := @parsePipeSpec_exported sources router.serde
    (exportedSteps sources selection) (by simpa [exportedSteps] using filled) resolves
  have allowed : ∀ step ∈ selection.map fun command =>
      mk command.request.command command.request.args none,
      workflowRequestAllowed step.command step.args = true := by
    intro step member
    obtain ⟨command, inside, rfl⟩ := mem_map.mp member
    refine allowed_of_captured (fun text leaf => (back command inside text leaf).1) ?_
    rw [← capturedEntry_args]
    exact allowed_of_exported (exported command inside)
  have inert : ∀ step ∈ selection.map fun command =>
      mk command.request.command command.request.args none,
      ∀ text ∈ step.args.leafTexts, ¬ HasReference text.toList := by
    intro step member text leaf
    obtain ⟨command, inside, rfl⟩ := mem_map.mp member
    exact (back command inside text leaf).2
  obtain ⟨progress, ran, executed⟩ := @runPipeSteps_inert metadata router commits _ allowed inert
    .initial
  unfold cmdPipe cmdPipeWithPolicy
  simp only [decode_exportedPipe, secrets, parsed, steps, runPipeWorkflow, ran]
  rw [map_map] at executed
  exact executed

/-- In the first step, references resolve only where there are none. -/
theorem resolveStepReferences_first {args resolved : Json}
    (done : resolveStepReferences args [] 0 = .ok resolved) :
    resolved = args ∧ ∀ text ∈ args.leafTexts, ¬ HasReference text.toList := by
  have inert : ∀ text ∈ args.leafTexts, ¬ HasReference text.toList := by
    intro text member reference
    obtain ⟨put, found⟩ := (tryLeaves_eq_ok_iff.mp done).1 text member
    obtain ⟨error, failed⟩ := resolveStepText_first reference
    rw [failed] at found
    cases found
  refine ⟨?_, inert⟩
  have same : resolveStepReferences args [] 0 = .ok args :=
    tryLeaves_eq_self_iff.mpr fun text member => resolveStepText_inert (inert text member)
  rw [same] at done
  exact (Except.ok.inj done).symm

/-- What a single step executed: its arguments with the references resolved. -/
theorem references_of_executed {router : PipeRouter} {step : PipeStepSpec} {entry : String × Json}
    (executed : (outcomeProgress (runPipeStep router metadata .preserveChildOverrides none .initial
      step)).executed = [entry]) :
    resolveStepReferences step.args [] 0 = .ok entry.2 := by
  have inherited : resolveStepReferences (inheritOrchestrationMetadata step.args none
      .preserveChildOverrides) PipeProgress.initial.completed
      PipeProgress.initial.completed.length = resolveStepReferences step.args [] 0 := rfl
  unfold runPipeStep at executed
  simp only [inherited] at executed
  split at executed
  · cases references : resolveStepReferences step.args [] 0 <;> rw [references] at executed
    · cases executed
    · simp only [executed_executePipeCommand] at executed
      cases executed
      rfl
  · cases executed

/-- A command that is run again as it was has arguments that come back. -/
theorem replayable_of_replaysExactly {command : RecordedCommand}
    (replays : ReplaysExactly sources [command]) :
    Replayable sources command.request.args := by
  let router : PipeRouter := ⟨plainSerde, .ok sources, fun _ => .ok (object []), 0⟩
  have executed := replays router rfl fun _ => ⟨_, rfl, fun _ => rfl⟩
  unfold cmdPipe cmdPipeWithPolicy at executed
  rw [decode_exportedPipe] at executed
  simp only at executed
  cases parsed : parsePipeSpec router.serde (array ((exportedSteps sources [command]).map
      replayableExportStepJson)) router.secrets with
  | error =>
    rw [parsed] at executed
    cases executed
  | ok =>
    have resolves := resolves_of_parsePipeSpec parsed
    obtain ⟨metadata, same⟩ := @parsePipeSpec_exported sources router.serde
      (exportedSteps sources [command]) (by simp [exportedSteps]) resolves
    rw [same] at executed
    have single : (outcomeProgress (runPipeStep router metadata .preserveChildOverrides none
        .initial (resolvedStep sources (exportStep (capturedEntry sources command))))).executed =
          [command.call] := by
      cases stepped : runPipeStep router metadata .preserveChildOverrides none .initial
          (resolvedStep sources (exportStep (capturedEntry sources command))) with
      | error =>
        simp only [exportedSteps, map_cons, map_nil, runPipeWorkflow,
          foldlM_cons, stepped] at executed
        exact executed
      | ok =>
        simp only [exportedSteps, map_cons, map_nil, runPipeWorkflow,
          foldlM_cons, stepped] at executed
        exact executed
    obtain ⟨back, inert⟩ := resolveStepReferences_first (references_of_executed single)
    -- The arguments after the secret pass are those of the command, leaf for leaf.
    have args : (capturedEntry sources command).args.mapLeaves (secretText sources) =
        command.request.args := back.symm
    intro text member
    refine (capturedText_resolves_iff "pipe").mp ⟨?_, ?_⟩
    · have texts := args
      rw [capturedEntry_args, mapLeaves_mapLeaves] at texts
      have same := mapLeaves_eq_self_iff.mp texts text member
      have leaf : capturedText sources (collectedSecrets sources command.request.args) text ∈
          (capturedEntry sources command).args.leafTexts := by
        rw [capturedEntry_args, leafTexts_mapLeaves]
        exact mem_map_of_mem member
      obtain ⟨put, found⟩ := resolves _ (mem_leafTexts_exported.mpr
        ⟨command, mem_singleton_self _, .inl leaf⟩)
      rw [found, resolveSecretText_eq_ok found, same]
    · refine inert text ?_
      have leaves := congrArg leafTexts args
      exact leaves ▸ member

/-- Every selection of a history is run again as it was exactly when every leaf of every
command's arguments comes back from its captured form. -/
theorem exported_history_replays_iff (sources : SecretSources) (commands : List RecordedCommand)
    (exported : ∀ command ∈ commands, Exported sources command) :
    (∀ selection, selection <:+: commands → selection ≠ [] → ReplaysExactly sources selection) ↔
      ∀ command ∈ commands, Replayable sources command.request.args := by
  constructor
  · intro replays command member
    obtain ⟨before, after, rfl⟩ := append_of_mem member
    exact replayable_of_replaysExactly
      (replays [command] ⟨before, after, by simp⟩ (cons_ne_nil _ _))
  · intro replayable selection part filled
    exact replaysExactly_of_replayable filled
      (fun command member => exported command (part.subset member))
      (fun command member => replayable command (part.subset member))

theorem not_hasReference_of_no_brace {text : List Char} (plain : '{' ∉ text) :
    ¬ HasReference text := by
  rintro ⟨before, inside, after, rfl⟩
  simp [openBraces] at plain

/-- A user whose name is in the environment. -/
def userSources : SecretSources :=
  ⟨[("USER", "bob")], [], pairwise_singleton _ _, orderedKeys_nil, SecretSources.named_nil⟩

/-- A router of that user whose commands all succeed. -/
def committingRouter : PipeRouter :=
  ⟨plainSerde, .ok userSources, fun _ => .ok (object []), 0⟩

/-- A successful command with these arguments. -/
def recordedType (args : Json) : RecordedCommand :=
  ⟨1, ⟨ipcProtocolVersion, "type", some "cmd-1", none, args, 1000⟩,
    IpcResponse.success "req-1" (object []), .delivered⟩

/-- A typed name is captured as a reference to the environment and comes back. -/
theorem typed_name_replays :
    ReplaysExactly userSources [recordedType (object [("text", string "bob")])] := by
  refine (exported_history_replays_iff userSources
    [recordedType (object [("text", string "bob")])] ?_).mpr ?_ _ infix_rfl
      (cons_ne_nil _ _)
  · intro command member
    obtain rfl := mem_singleton.mp member
    exact ⟨false, rfl⟩
  · intro command member text leaf
    obtain rfl := mem_singleton.mp member
    obtain rfl := mem_singleton.mp leaf
    exact ⟨not_hasReference_of_no_brace (by decide), .inr ⟨"USER", .environment, by decide, rfl⟩⟩

/-- A typed name that is also part of the selector: the selector is captured with a reference
inside it, which is not resolved again. -/
theorem typed_selector_not_replayed :
    Exported userSources (recordedType (object [("selector", string "#bob"),
      ("text", string "bob")])) ∧ (cmdPipe committingRouter (exportedPipe (exportedSteps userSources
      [recordedType (object [("selector", string "#bob"),
        ("text", string "bob")])]))).progress.executed =
      [("type", object [("selector", string "#$USER"),
        ("text", string "bob")])] ∧
    ¬ ReplaysExactly userSources [recordedType (object [("selector", string "#bob"),
      ("text", string "bob")])] := by
  refine ⟨⟨false, rfl⟩, rfl, fun replays => ?_⟩
  have executed := replays committingRouter rfl fun _ => ⟨_, rfl, fun _ => rfl⟩
  have selectors := congrArg (List.map fun call : String × Json =>
    (call.2.get "selector").bind asStr) executed
  exact absurd selectors (by decide)

end Rub
