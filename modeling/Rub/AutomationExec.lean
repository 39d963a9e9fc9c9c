import Rub.WorkflowAction

/-!
Which commands a fired rule's workflow runs. A trigger's workflow is refused `exec` when it
runs. An orchestration's workflow is not: it is only refused where its inline steps are
checked at registration, and that check reads the command of a step given as an object.
-/

namespace Rub

open Json List Option

variable {router : PipeRouter} {metadata : SecretResolutionMetadata}
  {policy : OrchestrationMetadataInheritancePolicy} {inherited specSource : Option Json}

/-- A step comes to run: the steps before it gave `results`, and `args` is what the references
of the step make of them. -/
inductive StepRuns (router : PipeRouter) (policy : OrchestrationMetadataInheritancePolicy)
    (request : Json) (step : PipeStepSpec) : List Json → Json → Prop where
  | reached {parsedArgs : PipeArgs} {parsed : ResolvedJsonSpec ParsedPipeWorkflowSpec}
      {before : List PipeStepSpec} {progress : PipeProgress} {args : Json}
      (decoded : PipeArgs.decode router.serde request = some parsedArgs)
      (accepted : parsePipeSpec router.serde parsedArgs.spec router.secrets = .ok parsed)
      (listed : before ++ [step] <+: parsed.value.steps)
      (done : before.foldlM (runPipeStep router parsed.metadata policy parsedArgs.orchestration)
        .initial = .ok progress)
      (allowed : pipeStepAllowed policy step = true)
      (resolved : resolveStepReferences (inheritOrchestrationMetadata step.args
        parsedArgs.orchestration policy) progress.completed progress.completed.length = .ok args) :
      StepRuns router policy request step progress.completed args

/-- Every executed command has the property. -/
def Executes (P : String × Json → Prop) (progress : PipeProgress) : Prop :=
  ∀ entry ∈ progress.executed, P entry

variable {P : String × Json → Prop}

theorem executes_initial : Executes P .initial := fun _ member => nomatch member

variable {progress : PipeProgress}

theorem executes_executePipeCommand {command : String} {args : Json}
    (before : Executes P progress) (holds : P (command, args))
    (fence : Json → Except ErrorEnvelope Unit) (executionFailed fenceFailed : String)
    (label : Option String) : Executes P (outcomeProgress (executePipeCommand router metadata fence
      executionFailed fenceFailed progress command label args)) := by
  intro entry member
  rw [executed_executePipeCommand] at member
  rcases mem_append.mp member with older | new
  · exact before entry older
  · obtain rfl := mem_singleton.mp new
    exact holds

theorem executes_runPipeStep {step : PipeStepSpec} (before : Executes P progress)
    (holds : ∀ args, pipeStepAllowed policy step = true →
      resolveStepReferences (inheritOrchestrationMetadata step.args inherited policy)
        progress.completed progress.completed.length = .ok args → P (step.command, args)) :
    Executes P (outcomeProgress (runPipeStep router metadata policy inherited progress step)) := by
  unfold runPipeStep
  simp only
  split
  · rename_i allowed
    cases resolved : resolveStepReferences (inheritOrchestrationMetadata step.args inherited policy)
        progress.completed progress.completed.length with
    | error => exact before
    | ok args => exact executes_executePipeCommand before (holds args allowed resolved) _ _ _ _
  · exact before

/-- A property that each turn keeps is kept by the loop, wherever it ends. -/
theorem executes_foldlM {α : Type} {turn : PipeProgress → α → Except PipeFailure PipeProgress}
    {items : List α} (keeps : ∀ before item reached, before ++ [item] <+: items →
      before.foldlM turn progress = .ok reached → Executes P reached →
        Executes P (outcomeProgress (turn reached item))) (start : Executes P progress) :
    Executes P (outcomeProgress (items.foldlM turn progress)) := by
  induction items using reverseRecOn with
  | nil => exact start
  | append_singleton items item ih =>
    have earlier := ih fun before item reached listed =>
      keeps before item reached (listed.trans (prefix_append _ _))
    rw [foldlM_append]
    cases done : items.foldlM turn progress with
    | error =>
      rw [done] at earlier
      exact earlier
    | ok reached =>
      rw [done] at earlier
      have last := keeps items item reached (prefix_refl _) done earlier
      show Executes P (outcomeProgress (turn reached item >>= pure))
      rwa [bind_pure]

/-- The command of a step that runs, or the registration of an orchestration. -/
def FromStep (router : PipeRouter) (policy : OrchestrationMetadataInheritancePolicy)
    (request : Json) (entry : String × Json) : Prop :=
  entry.1 = "orchestration" ∨ ∃ step results, step.command = entry.1 ∧
    StepRuns router policy request step results entry.2

section Accepted

variable {request : Json} {parsedArgs : PipeArgs}
  {parsed : ResolvedJsonSpec ParsedPipeWorkflowSpec}
  (decoded : PipeArgs.decode router.serde request = some parsedArgs)
  (accepted : parsePipeSpec router.serde parsedArgs.spec router.secrets = .ok parsed)

include decoded accepted

theorem progress_cmdPipeWithPolicy : (cmdPipeWithPolicy router request policy).progress =
    outcomeProgress (runPipeWorkflow router parsed.metadata policy parsedArgs parsed.value) := by
  simp only [cmdPipeWithPolicy, decoded, accepted]
  cases runPipeWorkflow router parsed.metadata policy parsedArgs parsed.value <;> rfl

theorem executes_runPipeWorkflow : Executes (FromStep router policy request) (outcomeProgress
    (runPipeWorkflow router parsed.metadata policy parsedArgs parsed.value)) := by
  unfold runPipeWorkflow
  have steps : Executes (FromStep router policy request) _ :=
    executes_foldlM (fun _ step _ listed done earlier =>
      executes_runPipeStep earlier fun args allowed resolved =>
        .inr ⟨step, _, rfl, .reached decoded accepted listed done allowed resolved⟩)
      executes_initial
  cases stepped : parsed.value.steps.foldlM (runPipeStep router parsed.metadata policy
      parsedArgs.orchestration) PipeProgress.initial with
  | error =>
    rw [stepped] at steps
    exact steps
  | ok progress =>
    rw [stepped] at steps
    exact executes_foldlM (fun _ _ _ _ _ earlier =>
      executes_executePipeCommand earlier (.inl rfl) _ _ _ _) steps

end Accepted

theorem executes_cmdPipeWithPolicy (request : Json) :
    Executes (FromStep router policy request)
      (cmdPipeWithPolicy router request policy).progress := by
  cases decoded : PipeArgs.decode router.serde request with
  | none =>
    rw [cmdPipeWithPolicy, decoded]
    exact executes_initial
  | some parsedArgs =>
    cases accepted : parsePipeSpec router.serde parsedArgs.spec router.secrets with
    | error =>
      simp only [cmdPipeWithPolicy, decoded, accepted]
      exact executes_initial
    | ok parsed =>
      rw [progress_cmdPipeWithPolicy decoded accepted]
      exact executes_runPipeWorkflow decoded accepted

/-- The command of a step as it is written: a member of an object, or the first of an array. -/
def writtenCommand (step : Json) : Option String :=
  (match step.asArray with
    | some items => items.head?
    | none => step.get "command").bind asStr

/-- The steps of a workflow as it is written: a list, or a list in an object. -/
def writtenSteps (spec : Json) : List Json :=
  (spec.asArray.or ((spec.get "steps").bind asArray)).getD []

theorem writtenCommand_mapLeaves (step : Json) (change : String → String) :
    writtenCommand (step.mapLeaves change) = (writtenCommand step).map change := by
  unfold writtenCommand
  rw [asArray_mapLeaves, get_mapLeaves]
  cases step.asArray with
  | none => exact bind_asStr_mapLeaves _ change
  | some items =>
    rw [← bind_asStr_mapLeaves, ← head?_map]
    rfl

theorem writtenSteps_mapLeaves (spec : Json) (change : String → String) :
    writtenSteps (spec.mapLeaves change) = (writtenSteps spec).map (mapLeaves · change) := by
  unfold writtenSteps
  rw [asArray_mapLeaves, get_mapLeaves]
  cases spec.asArray with
  | some => rfl
  | none =>
    cases spec.get "steps" with
    | none => rfl
    | some steps =>
      simp only [map_some, map_none, none_or, bind_some, asArray_mapLeaves]
      cases steps.asArray <;> rfl

theorem mem_of_decodeItems {α : Type} {decode : Json → Option α} {value : Json} {results : List α}
    (decoded : decodeItems decode value = some results) {result : α} (member : result ∈ results) :
    ∃ items, value.asArray = some items ∧ ∃ item ∈ items, decode item = some result := by
  obtain ⟨items, isArray, done⟩ := bind_eq_some_iff.mp decoded
  refine ⟨items, isArray, ?_⟩
  clear decoded isArray
  induction items generalizing results with
  | nil =>
    cases done
    cases member
  | cons item items ih =>
    simp only [mapM_cons, bind_eq_bind, bind_eq_some_iff] at done
    obtain ⟨head, first, tail, rest, ⟨⟩⟩ := done
    rcases mem_cons.mp member with rfl | later
    · exact ⟨item, mem_cons_self, first⟩
    · obtain ⟨origin, inside, decoded⟩ := ih later rest
      exact ⟨origin, mem_cons_of_mem _ inside, decoded⟩

theorem mem_of_decodePipeWorkflowAsset {value : Json} {parsed : ParsedPipeWorkflowSpec}
    (unlisted : value.asArray = none) (decoded : decodePipeWorkflowAsset value = some parsed)
    {step : PipeStepSpec} (member : step ∈ parsed.steps) :
    ∃ item ∈ writtenSteps value, PipeStepSpec.decode item = some step := by
  simp only [decodePipeWorkflowAsset, bind_eq_bind, bind_eq_some_iff] at decoded
  obtain ⟨fields, found, steps, listed, _, _, ⟨⟩⟩ := decoded
  rw [Serde.structFields, unlisted] at found
  obtain ⟨-, -, rfl⟩ := Serde.flatFields_eq_some found
  cases given : value.get "steps" with
  | none =>
    rw [given] at listed
    cases listed
    cases member
  | some list =>
    rw [given] at listed
    obtain ⟨items, isArray, inside⟩ := mem_of_decodeItems listed member
    rwa [writtenSteps, unlisted, given, none_or, bind_some, isArray]

theorem steps_of_parsePipeSpec {serde : SerdeJson} {raw : Json}
    {loaded : Except RubError SecretSources} {parsed : ResolvedJsonSpec ParsedPipeWorkflowSpec}
    (accepted : parsePipeSpec serde raw loaded = .ok parsed) :
    ∃ sources, loaded = .ok sources ∧ ∀ step ∈ parsed.value.steps, ∃ item ∈ writtenSteps raw,
      PipeStepSpec.decode (item.mapLeaves (secretText sources)) = some step := by
  obtain ⟨result, resolution, accepted⟩ := except_bind_eq_ok.mp accepted
  have same : result = parsed := by
    split at accepted
    · cases accepted
    · split at accepted
      · cases accepted
      · exact Except.ok.inj accepted
  subst same
  obtain ⟨sources, secrets, decoded⟩ := resolveJsonValue_eq_ok resolution
  refine ⟨sources, secrets, fun step member => ?_⟩
  obtain ⟨item, inside, decodedItem⟩ : ∃ item ∈ writtenSteps (raw.mapLeaves (secretText sources)),
      PipeStepSpec.decode item = some step := by
    cases isArray : raw.asArray with
    | none =>
      rw [isArray] at decoded
      exact mem_of_decodePipeWorkflowAsset (by rw [asArray_mapLeaves, isArray]; rfl) decoded member
    | some =>
      rw [isArray] at decoded
      obtain ⟨steps, list, value⟩ := map_eq_some_iff.mp decoded
      rw [← value] at member
      obtain ⟨items, listed, inside⟩ := mem_of_decodeItems list member
      rwa [writtenSteps, listed]
  rw [writtenSteps_mapLeaves] at inside
  obtain ⟨origin, originInside, rfl⟩ := mem_map.mp inside
  exact ⟨origin, originInside, decodedItem⟩

/-- The JSON library reads back every value that it wrote. -/
def SerdeJson.ReadsBack (serde : SerdeJson) : Prop :=
  ∀ value, serde.fromStr (jsonText value) = some value

theorem trimmedText_of_visible {text : String} {c : Char} {rest : List Char}
    (shape : text.toList = c :: rest) (visible : isWhiteSpace c = false) :
    ∃ tail, trimmedText (some text) = some (String.ofList (c :: tail)) := by
  have front : text.toList.dropWhile isWhiteSpace = c :: rest := by
    rw [shape, dropWhile_cons_of_neg (by simp [visible])]
  obtain ⟨tail, back⟩ : ∃ tail,
      ((c :: rest).reverse.dropWhile isWhiteSpace).reverse = c :: tail := by
    rw [reverse_cons, dropWhile_append]
    split
    · exact ⟨[], by simp [visible]⟩
    · exact ⟨((rest.reverse.dropWhile isWhiteSpace).reverse), by simp⟩
  refine ⟨tail, ?_⟩
  have trimmed : trim text = String.ofList (c :: tail) := by
    rw [trim, front, back]
  simp [trimmedText, trimmed]

theorem workflowCommands_plain {command : String} (member : command ∈ workflowCommands)
    {c : Char} {rest : List Char} (shape : command.toList = c :: rest) : c ≠ '{' ∧ c ≠ '$' := by
  have plain : ∀ command ∈ workflowCommands,
      command.toList.head? ≠ some '{' ∧ command.toList.head? ≠ some '$' := by decide
  have heads := plain command member
  rw [shape] at heads
  simpa using heads

theorem inline_command_fixed {index : Nat} {step : Json} {command : String}
    (valid : validateInlineStep index step = .ok ())
    (given : (step.get "command").bind asStr = some command) :
    parseWorkflowPlaceholder command = none ∧ parseSecretPlaceholder command = none ∧
      command ≠ "exec" := by
  have allowed : ∀ trimmed, trimmedText (some command) = some trimmed →
      trimmed ∈ workflowCommands ∧ trimmed ≠ "exec" := by
    intro trimmed shown
    simp only [validateInlineStep, given, shown] at valid
    split at valid
    · rename_i permitted
      simp only [triggerWorkflowRequestAllowed, Bool.and_eq_true, decide_eq_true_eq] at permitted
      exact ⟨mem_workflowCommands_of_allowed permitted.2, permitted.1⟩
    · cases valid
  have heads : ∀ c rest, command.toList = c :: rest → c ≠ '{' ∧ c ≠ '$' := by
    intro c rest shape
    cases visible : isWhiteSpace c with
    | true =>
      constructor
      · rintro rfl
        exact absurd visible (by decide)
      · rintro rfl
        exact absurd visible (by decide)
    | false =>
      obtain ⟨tail, shown⟩ := trimmedText_of_visible shape visible
      exact workflowCommands_plain (allowed _ shown).1 (String.toList_ofList)
  refine ⟨?_, ?_, ?_⟩
  · unfold parseWorkflowPlaceholder
    split
    · rename_i braced
      obtain ⟨tail, shape⟩ := braced.1
      exact absurd rfl (heads '{' _ shape.symm).1
    · rfl
  · unfold parseSecretPlaceholder
    split
    · rename_i first rest shape
      exact absurd rfl (heads '$' _ shape).2
    · rfl
  · rintro rfl
    exact (allowed "exec" (by decide)).2 rfl

theorem command_of_decode {value : Json} {step : PipeStepSpec}
    (decoded : PipeStepSpec.decode value = some step) :
    writtenCommand value = some step.command := by
  simp only [PipeStepSpec.decode, bind_eq_bind, bind_eq_some_iff] at decoded
  obtain ⟨fields, found, text, command, label, _, ⟨⟩⟩ := decoded
  unfold writtenCommand
  unfold Serde.structFields Serde.positional at found
  cases isArray : value.asArray with
  | none =>
    rw [isArray] at found
    obtain ⟨-, -, rfl⟩ := Serde.flatFields_eq_some found
    exact command
  | some items =>
    simp only [isArray] at found
    split at found
    · cases found
      cases items with
      | nil => cases command
      | cons => exact command
    · cases found

/-- The command is written out: neither `exec` nor a text that something is put in for. -/
def CommandFixed (step : Json) : Prop :=
  ∀ command, writtenCommand step = some command → parseWorkflowPlaceholder command = none ∧
    parseSecretPlaceholder command = none ∧ command ≠ "exec"

theorem commandFixed_of_inline {index : Nat} {step : Json} (object : step.isObject = true)
    (valid : validateInlineStep index step = .ok ()) : CommandFixed step := by
  intro command written
  refine inline_command_fixed valid ?_
  unfold writtenCommand at written
  split at written
  · rename_i isArray
    rw [Serde.isObject_of_asArray isArray] at object
    cases object
  · exact written

theorem CommandFixed.not_exec {item : Json} {step : PipeStepSpec}
    {bindings : List (String × String)} {sources : SecretSources} (fixed : CommandFixed item)
    (decoded : PipeStepSpec.decode ((item.mapLeaves (bindWorkflowText bindings)).mapLeaves
      (secretText sources)) = some step) : step.command ≠ "exec" := by
  have written := command_of_decode decoded
  rw [mapLeaves_mapLeaves, writtenCommand_mapLeaves] at written
  obtain ⟨original, given, same⟩ := map_eq_some_iff.mp written
  obtain ⟨parameter, secret, different⟩ := fixed original given
  rw [← same]
  simpa [bindWorkflowText, parameter, secretText, secret] using different

variable {host : WorkflowHost} {rule : FiringRule} {payload args : Json}

theorem spec_of_decode {serde : SerdeJson} {parsedArgs : PipeArgs} (object : args.isObject = true)
    (decoded : PipeArgs.decode serde args = some parsedArgs) :
    (args.get "spec").bind (normalizedJsonSpec serde) = some parsedArgs.spec := by
  simp only [PipeArgs.decode, bind_eq_bind, bind_eq_some_iff] at decoded
  obtain ⟨fields, found, value, spec, _, _, _, _, _, _, _, _, ⟨⟩⟩ := decoded
  obtain ⟨-, rfl⟩ := Serde.structFields_of_isObject object found
  exact spec

/-- The workflow as it is written: in the file of its name, or inline. -/
def writtenSpec (host : WorkflowHost) (payload : Json) : Option Json :=
  match (payload.get "workflow_name").bind asStr with
  | some name => do
    let normalized ← (normalizeWorkflowName name).toOption
    let contents ← (host.workflowFile normalized).toOption
    host.router.serde.fromStr contents
  | none => (payload.get "steps").filter fun steps => steps.asArray.isSome

theorem writtenSpec_of_resolved (reads : host.router.serde.ReadsBack) {owner : WorkflowOwner}
    {rawSpec : String} {source : Json}
    (resolved : resolveWorkflowSpec host owner payload = .ok (rawSpec, source)) :
    writtenSpec host payload = host.router.serde.fromStr rawSpec := by
  unfold resolveWorkflowSpec at resolved
  unfold writtenSpec
  split at resolved
  case h_1 name named _ =>
    obtain ⟨normalized, accepted, resolved⟩ := except_bind_eq_ok.mp resolved
    obtain ⟨contents, file, ⟨⟩⟩ := except_bind_eq_ok.mp resolved
    simp only [named, accepted, file, Except.toOption, bind_eq_bind, bind_some]
  case h_2 => cases resolved
  case h_3 unnamed =>
    split at resolved <;> cases resolved
    rename_i isArray
    obtain ⟨steps, given, isArray⟩ := bind_eq_some_iff.mp isArray
    rw [unnamed, given, filter_some, isArray]
    exact (reads steps).symm

theorem isObject_applyTriggerFrameOverride (args : Json) (frameId : Option String) :
    (applyTriggerFrameOverride args frameId).isObject = args.isObject := by
  cases frameId with
  | none => rfl
  | some => exact isObject_insert ..

theorem get_applyTriggerFrameOverride {args : Json} {frameId : Option String} {key : String}
    (isObject : args.isObject = true) (different : key ≠ "_orchestration") :
    (applyTriggerFrameOverride args frameId).get key = args.get key := by
  cases frameId with
  | none => rfl
  | some => exact (get_insert isObject ..).trans (if_neg different)

/-- The spec that a rule's request carries is the workflow with its parameters bound, for a
trigger as a text. -/
theorem spec_of_request (reads : host.router.serde.ReadsBack)
    (request : workflowRequestArgs host rule payload = .ok args) :
    ∃ rawSpec source bindings spec,
      resolveWorkflowSpec host rule.owner payload = .ok (rawSpec, source) ∧
      workflowBindings host rule.owner payload = .ok bindings ∧
      host.router.serde.fromStr rawSpec = some spec ∧ args.isObject = true ∧
      args.get "spec" = some (match rule.owner with
        | .trigger => string (jsonText (spec.mapLeaves (bindWorkflowText bindings)))
        | .orchestration => spec.mapLeaves (bindWorkflowText bindings)) := by
  obtain ⟨⟨rawSpec, specSource⟩, resolved, request⟩ := except_bind_eq_ok.mp request
  obtain ⟨bindings, bound, request⟩ := except_bind_eq_ok.mp request
  obtain ⟨parameterized, substituted, request⟩ := except_bind_eq_ok.mp request
  unfold resolveWorkflowBindingMap at substituted
  split at substituted
  · cases substituted
  · rename_i spec parsed
    simp only at substituted
    split at substituted
    · cases substituted
    · cases substituted
      refine ⟨rawSpec, specSource, bindings, spec, resolved, bound, parsed, ?_⟩
      cases owner : rule.owner with
      | trigger =>
        simp only [owner] at request
        cases request
        refine ⟨(isObject_applyTriggerFrameOverride _ _).trans rfl, ?_⟩
        rw [get_applyTriggerFrameOverride rfl (by decide), get_object]
        rfl
      | orchestration =>
        simp only [owner] at request
        obtain ⟨sourceVars, -, request⟩ := except_bind_eq_ok.mp request
        simp only [reads _] at request
        cases request
        exact ⟨rfl, by rw [get_object]; rfl⟩

theorem forM_eq_ok {α : Type} {check : α → Except RubError Unit} {items : List α}
    (passed : items.forM check = .ok ()) : ∀ item ∈ items, check item = .ok () := by
  induction items with
  | nil => exact fun _ member => nomatch member
  | cons item items ih =>
    have split : (check item >>= fun _ => items.forM check) = .ok () := passed
    obtain ⟨⟨⟩, first, rest⟩ := except_bind_eq_ok.mp split
    exact forall_mem_cons.mpr ⟨first, ih rest⟩

theorem inline_steps_checked {action validated : TriggerActionSpec} {steps : Json}
    {items : List Json} (accepted : validateTriggerAction action = .ok validated)
    (workflow : action.kind = .workflow) (carried : validated.payload = some payload)
    (given : payload.get "steps" = some steps) (isArray : steps.asArray = some items) :
    ∀ item ∈ items, ∃ index, validateInlineStep index item = .ok () := by
  simp only [validateTriggerAction, workflow, validateWorkflowTriggerAction] at accepted
  (repeat' split at accepted) <;> try cases accepted
  rename_i input _ object
  obtain ⟨output, checked, ⟨⟩⟩ := except_bind_eq_ok.mp accepted
  cases carried
  obtain ⟨-, -, checked⟩ := except_bind_eq_ok.mp checked
  obtain ⟨-, -, checked⟩ := except_bind_eq_ok.mp checked
  obtain ⟨-, -, checked⟩ := except_bind_eq_ok.mp checked
  obtain ⟨⟨⟩, stepsChecked, checked⟩ := except_bind_eq_ok.mp checked
  -- Normalizing the name leaves the steps alone.
  have same : payload.get "steps" = input.get "steps" := by
    split at checked
    · obtain ⟨normalized, -, ⟨⟩⟩ := except_bind_eq_ok.mp checked
      rw [get_insert (by simpa using object)]
      rfl
    · cases checked
      rfl
    all_goals cases checked
  unfold validateInlineTriggerWorkflowSteps at stepsChecked
  rw [← same, given, bind_some, isArray] at stepsChecked
  intro item member
  obtain ⟨index, bound, rfl⟩ := mem_iff_getElem.mp member
  exact ⟨index, forM_eq_ok stepsChecked (items[index], index)
    (mem_zipIdx_iff_getElem?.mpr (List.getElem?_eq_getElem bound))⟩

/-- The workflow is not a text, and each of its steps is an inline object, which registration
checks, or has its command written out. -/
def CommandsWritten (host : WorkflowHost) (payload : Json) : Prop :=
  ∀ spec, writtenSpec host payload = some spec → spec.asStr = none ∧
    ∀ step ∈ writtenSteps spec, CommandFixed step ∨
      ((payload.get "workflow_name").bind asStr = none ∧ step.isObject = true)

theorem steps_not_exec {action validated : TriggerActionSpec} {parsedArgs : PipeArgs}
    {parsed : ResolvedJsonSpec ParsedPipeWorkflowSpec} (reads : host.router.serde.ReadsBack)
    (owner : rule.owner = .orchestration) (accepted : validateTriggerAction action = .ok validated)
    (workflow : action.kind = .workflow) (carried : validated.payload = some payload)
    (written : CommandsWritten host payload)
    (request : workflowRequestArgs host rule payload = .ok args)
    (decoded : PipeArgs.decode host.router.serde args = some parsedArgs)
    (parses : parsePipeSpec host.router.serde parsedArgs.spec host.router.secrets = .ok parsed) :
    ∀ step ∈ parsed.value.steps, step.command ≠ "exec" := by
  intro step member
  obtain ⟨rawSpec, source, bindings, spec, resolved, -, parsed, object, bound⟩ :=
    spec_of_request reads request
  have given := (writtenSpec_of_resolved reads resolved).trans parsed
  obtain ⟨scalar, fixed⟩ := written spec given
  simp only [owner] at bound
  have normalized := spec_of_decode object decoded
  have unread : (spec.mapLeaves (bindWorkflowText bindings)).asStr = none := by
    rw [asStr_mapLeaves, scalar]
    rfl
  rw [bound, bind_some, normalizedJsonSpec, unread] at normalized
  rw [← some.inj normalized] at parses
  obtain ⟨sources, -, origin⟩ := steps_of_parsePipeSpec parses
  obtain ⟨item, inside, decodedItem⟩ := origin step member
  rw [writtenSteps_mapLeaves] at inside
  obtain ⟨step, stepInside, rfl⟩ := mem_map.mp inside
  refine CommandFixed.not_exec ?_ decodedItem
  rcases fixed step stepInside with plain | ⟨unnamed, object⟩
  · exact plain
  · rw [writtenSpec, unnamed] at given
    obtain ⟨listed, isArray⟩ := filter_eq_some_iff.mp given
    obtain ⟨items, isArray⟩ := isSome_iff_exists.mp isArray
    rw [writtenSteps, isArray] at stepInside
    obtain ⟨index, valid⟩ :=
      inline_steps_checked accepted workflow carried listed isArray step stepInside
    exact commandFixed_of_inline object valid

/-- Under which policy the workflow of a rule inherits what the rule asks for. -/
def WorkflowOwner.inheritance : WorkflowOwner → OrchestrationMetadataInheritancePolicy
  | .trigger => .triggerAuthoritativeFrame
  | .orchestration => .preserveChildOverrides

theorem fireWorkflowAction_eq (host : WorkflowHost) (rule : FiringRule) (payload : Json) :
    fireWorkflowAction host rule payload =
      match workflowRequestArgs host rule payload with
      | .error error => ⟨.initial, .error error⟩
      | .ok args => cmdPipeWithPolicy host.router args rule.owner.inheritance := by
  unfold fireWorkflowAction
  cases rule.owner <;> rfl

/-- The workflow of an accepted rule runs no `exec` when the rule is a trigger, or when the
commands of the workflow are written out. -/
theorem automation_never_runs_exec (host : WorkflowHost) (reads : host.router.serde.ReadsBack)
    (rule : FiringRule) (action validated : TriggerActionSpec) (payload : Json)
    (accepted : validateTriggerAction action = .ok validated)
    (workflow : action.kind = .workflow) (carried : validated.payload = some payload)
    (guarded : rule.owner = .trigger ∨ CommandsWritten host payload) :
    ∀ entry ∈ (fireWorkflowAction host rule payload).progress.executed, entry.1 ≠ "exec" := by
  intro entry member
  rw [fireWorkflowAction_eq] at member
  cases request : workflowRequestArgs host rule payload with
  | error =>
    rw [request] at member
    cases member
  | ok args =>
    rw [request] at member
    rcases executes_cmdPipeWithPolicy args entry member with registers | ⟨step, _, same, runs⟩
    · rw [registers]
      decide
    · obtain ⟨decoded, parses, listed, -, allowed, -⟩ := runs
      rw [← same]
      cases owner : rule.owner with
      | trigger =>
        rw [owner] at allowed
        simp only [WorkflowOwner.inheritance, pipeStepAllowed, triggerWorkflowRequestAllowed,
          Bool.and_eq_true, decide_eq_true_eq] at allowed
        exact allowed.1
      | orchestration =>
        have written := guarded.resolve_left (by rw [owner]; rintro ⟨⟩)
        exact steps_not_exec reads owner accepted workflow carried written request decoded parses
          step (listed.subset (by simp))

/-- A library that reads every compact text back. -/
noncomputable def readingSerde : SerdeJson :=
  { plainSerde with fromStr := Function.partialInv jsonText }

theorem readingSerde_readsBack : readingSerde.ReadsBack := by
  intro value
  refine Function.partialInv_left (fun left right same => canonicalJson_injective ?_) value
  exact String.ofList_injective same

/-- A host with one workflow file, whose commands all succeed. -/
noncomputable def workflowFileHost (steps : Json) : WorkflowHost where
  router :=
    { serde := readingSerde
      secrets := .ok ⟨[], [], orderedKeys_nil, orderedKeys_nil, SecretSources.named_nil⟩
      execute := fun _ => .ok (object [])
      currentEpoch := 1 }
  workflowFile := fun _ => .ok (jsonText steps)
  workflowPath := id
  querySource := fun _ => .ok ""

def orchestrationRule : FiringRule := ⟨.orchestration, object [], none⟩

def namedWorkflow : Json := object [("workflow_name", string "report")]

def inlineWorkflow (steps : List Json) : Json := object [("steps", array steps)]

def workflowActionOf (payload : Json) : TriggerActionSpec := ⟨.workflow, none, some payload⟩

def commandObject (command : String) : Json := object [("command", string command)]

theorem request_of_text {source : Json}
    (steps : Json) (reads : host.router.serde.ReadsBack) (owner : rule.owner = .orchestration)
    (resolved : resolveWorkflowSpec host .orchestration payload = .ok (jsonText steps, source))
    (unbound : workflowBindings host .orchestration payload = .ok [])
    (sourceless : resolveSourceVarBindings host payload = .ok [])
    (fixed : steps.leafTexts.filterMap parseWorkflowPlaceholder = []) :
    workflowRequestArgs host rule payload = .ok (object
      [("spec", steps.mapLeaves (bindWorkflowText [])),
        ("spec_source", source.insert "vars" (array [])),
        ("_orchestration", rule.requestMeta)]) := by
  have bound : resolveWorkflowBindingMap host.router.serde (jsonText steps) [] =
      .ok ⟨jsonText (steps.mapLeaves (bindWorkflowText [])), []⟩ := by
    unfold resolveWorkflowBindingMap
    rw [reads steps]
    simp only [fixed]
    rfl
  unfold workflowRequestArgs
  simp only [owner, resolved, unbound, bound, sourceless, bind, Except.bind]
  rw [reads]
  rfl

noncomputable def firedCommands (file payload : Json) : List String :=
  (fireWorkflowAction (workflowFileHost file) orchestrationRule
    payload).progress.executed.map Prod.fst

/-- A step that runs a script, as an array with all three fields. -/
def execArray : Json := array [string "exec", object [], Json.null]

/-- An accepted orchestration whose workflow file runs a script executes it, and so does one
that lists the step as an array. -/
theorem orchestration_runs_exec :
    (validateTriggerAction (workflowActionOf namedWorkflow) =
        .ok (workflowActionOf namedWorkflow) ∧
      firedCommands (array [commandObject "exec"]) namedWorkflow = ["exec"]) ∧
    (validateTriggerAction (workflowActionOf (inlineWorkflow [execArray])) =
        .ok (workflowActionOf (inlineWorkflow [execArray])) ∧
      firedCommands Json.null (inlineWorkflow [execArray]) = ["exec"]) := by
  refine ⟨⟨rfl, ?_⟩, ⟨rfl, ?_⟩⟩
  · unfold firedCommands fireWorkflowAction
    rw [request_of_text (array [commandObject "exec"]) readingSerde_readsBack rfl rfl rfl
      rfl rfl]
    rfl
  · unfold firedCommands fireWorkflowAction
    rw [request_of_text (array [execArray]) readingSerde_readsBack rfl rfl rfl rfl rfl]
    rfl

/-- An accepted inline click, given as an object, runs and nothing else does. -/
theorem inline_click_runs_no_exec :
    firedCommands Json.null (inlineWorkflow [commandObject "click"]) = ["click"] ∧
    ∀ entry ∈ (fireWorkflowAction (workflowFileHost Json.null) orchestrationRule
      (inlineWorkflow [commandObject "click"])).progress.executed, entry.1 ≠ "exec" := by
  refine ⟨?_, automation_never_runs_exec (workflowFileHost Json.null) readingSerde_readsBack
    orchestrationRule (workflowActionOf (inlineWorkflow [commandObject "click"])) _ _ rfl rfl rfl
    (.inr ?_)⟩
  · unfold firedCommands fireWorkflowAction
    rw [request_of_text (array [commandObject "click"]) readingSerde_readsBack rfl rfl rfl
      rfl rfl]
    rfl
  · rintro spec ⟨⟩
    refine ⟨rfl, fun step member => .inr ⟨rfl, ?_⟩⟩
    obtain rfl := mem_singleton.mp member
    rfl

end Rub
