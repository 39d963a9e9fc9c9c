import Rub.AutomationExec
import Rub.NestedSecrets

/-!
Which secrets a workflow run depends on. Secret references are resolved in the spec of the
pipe, after the texts of the page were bound to its parameters, and again in the spec of each
`fill` and `extract` step, after the results of earlier steps were put in.
-/

namespace Rub

open Json List Option

/-- A command as it reaches the page: its arguments, and what its own secret pass made of
the spec it brings along. -/
structure ResolvedCommand where
  command : String
  args : Json
  resolved : Option (Except RubError (Json × SecretResolutionMetadata))

def resolveCommand (serde : SerdeJson) (sources : SecretSources) (entry : String × Json) :
    ResolvedCommand :=
  { command := entry.1
    args := entry.2
    resolved := (nestedSpec serde entry.1 entry.2).map fun spec =>
      resolveSecretPlaceholders spec entry.1 sources .empty }

/-- All that a workflow run meets but the secrets: the files, the page, and what comes back
for the commands so far. -/
structure WorkflowWorld where
  serde : SerdeJson
  workflowFile : String → Except RubError String
  workflowPath : String → String
  querySource : TriggerWorkflowSourceVarSpec → Except RubError String
  respond : List ResolvedCommand → Except RubError Json
  currentEpoch : Nat

def WorkflowWorld.router (world : WorkflowWorld) (sources : SecretSources) : PipeRouter where
  serde := world.serde
  secrets := .ok sources
  execute := fun executed => world.respond (executed.map (resolveCommand world.serde sources))
  currentEpoch := world.currentEpoch

def WorkflowWorld.host (world : WorkflowWorld) (sources : SecretSources) : WorkflowHost where
  router := world.router sources
  workflowFile := world.workflowFile
  workflowPath := world.workflowPath
  querySource := world.querySource

/-- No secrets at all. What a workflow is before it runs does not depend on them. -/
def SecretSources.empty : SecretSources :=
  ⟨[], [], orderedKeys_nil, orderedKeys_nil, SecretSources.named_nil⟩

/-- A workflow as it is started: a request with a spec, or a rule that fires. -/
inductive WorkflowStart where
  | pipe (args : Json)
  | fired (rule : FiringRule) (payload : Json)

namespace WorkflowStart

variable (world : WorkflowWorld)

def run (sources : SecretSources) : WorkflowStart → PipeRun
  | .pipe args => cmdPipe (world.router sources) args
  | .fired rule payload => fireWorkflowAction (world.host sources) rule payload

def requestArgs : WorkflowStart → Except RubError Json
  | .pipe args => .ok args
  | .fired rule payload => workflowRequestArgs (world.host .empty) rule payload

def inheritance : WorkflowStart → OrchestrationMetadataInheritancePolicy
  | .pipe _ => .preserveChildOverrides
  | .fired rule _ => rule.owner.inheritance

/-- A step of the run is reached when earlier ones have returned `results`, and runs with
`args`. -/
def Reaches (sources : SecretSources) (start : WorkflowStart) (step : PipeStepSpec)
    (results : List Json) (args : Json) : Prop :=
  ∃ request, start.requestArgs world = .ok request ∧
    StepRuns (world.router sources) start.inheritance request step results args

/-- The spec the pipe resolves its secret references in. -/
def scannedSpec (start : WorkflowStart) : Option Json :=
  ((start.requestArgs world).toOption.bind (PipeArgs.decode world.serde)).map PipeArgs.spec

/-- The names a run looks up: those in the pipe's spec, and those in the specs of the steps
it executed. -/
def lookedUp (sources : SecretSources) (start : WorkflowStart) : List String :=
  ((start.scannedSpec world).map secretNames).getD [] ++
    (start.run world sources).progress.executed.flatMap fun entry =>
      nestedNames world.serde entry.1 entry.2

/-- The leaves of a workflow file or of the steps of a rule. -/
def workflowTexts (owner : WorkflowOwner) (payload : Json) : List String :=
  match resolveWorkflowSpec (world.host .empty) owner payload with
  | .error _ => []
  | .ok (rawSpec, _) => ((world.serde.fromStr rawSpec).map leafTexts).getD []

/-- The texts its author wrote: the leaves of the spec, and the texts of `vars`. -/
def authoredTexts : WorkflowStart → List String
  | .pipe args =>
    ((PipeArgs.decode world.serde args).map fun parsed => parsed.spec.leafTexts).getD []
  | .fired rule payload =>
    workflowTexts world rule.owner payload ++
      ((explicitBindings payload).toOption.getD []).map Prod.snd

/-- The texts of `source_vars`, which the page gives. -/
def sourceTexts : WorkflowStart → List String
  | .pipe _ => []
  | .fired _ payload =>
    ((resolveSourceVarBindings (world.host .empty) payload).toOption.getD []).map Prod.snd

end WorkflowStart

/-- The texts, and the leaves of those that are JSON texts. -/
def readableTexts (serde : SerdeJson) (texts : List String) : List String :=
  texts ++ texts.flatMap fun text => ((serde.fromStr text).map leafTexts).getD []

variable {serde : SerdeJson} {world : WorkflowWorld} {sources other : SecretSources}

/-- The sources agree on what a command looks up. -/
def AgreeOn (serde : SerdeJson) (sources other : SecretSources) (entry : String × Json) : Prop :=
  ∀ name ∈ nestedNames serde entry.1 entry.2, other.resolve name = sources.resolve name

theorem resolveCommand_congr {entry : String × Json} (agree : AgreeOn serde sources other entry) :
    resolveCommand serde other entry = resolveCommand serde sources entry := by
  unfold resolveCommand
  unfold AgreeOn nestedNames at agree
  cases spec : nestedSpec serde entry.1 entry.2 with
  | none => rfl
  | some spec =>
    rw [spec] at agree
    rw [map_some, map_some, resolveSecretPlaceholders_congr agree]

theorem execute_congr {executed : List (String × Json)}
    (agree : ∀ entry ∈ executed, AgreeOn world.serde sources other entry) :
    (world.router other).execute executed = (world.router sources).execute executed := by
  show world.respond _ = world.respond _
  rw [map_congr_left fun entry member => resolveCommand_congr (agree entry member)]

variable {metadata : SecretResolutionMetadata}
  {policy : OrchestrationMetadataInheritancePolicy} {progress : PipeProgress}

theorem executePipeCommand_congr {fence : Json → Except ErrorEnvelope Unit}
    {executionFailed fenceFailed command : String} {label : Option String} {args : Json}
    (agree : ∀ entry ∈ (outcomeProgress (executePipeCommand (world.router sources) metadata fence
      executionFailed fenceFailed progress command label args)).executed,
      AgreeOn world.serde sources other entry) :
    executePipeCommand (world.router other) metadata fence executionFailed fenceFailed progress
        command label args =
      executePipeCommand (world.router sources) metadata fence executionFailed fenceFailed progress
        command label args := by
  rw [executed_executePipeCommand] at agree
  unfold executePipeCommand
  simp only [execute_congr agree]

theorem executed_executePipeCommand_mono {router : PipeRouter}
    {fence : Json → Except ErrorEnvelope Unit} {executionFailed fenceFailed command : String}
    {label : Option String} {args : Json} :
    progress.executed ⊆ (outcomeProgress (executePipeCommand router metadata fence
      executionFailed fenceFailed progress command label args)).executed := by
  rw [executed_executePipeCommand]
  exact subset_append_left _ _

theorem executed_runPipeStep_mono {router : PipeRouter} {inherited : Option Json}
    {step : PipeStepSpec} :
    progress.executed ⊆
      (outcomeProgress (runPipeStep router metadata policy inherited progress step)).executed := by
  unfold runPipeStep
  simp only
  split
  · cases resolveStepReferences (inheritOrchestrationMetadata step.args inherited policy)
        progress.completed progress.completed.length with
    | error => exact List.Subset.refl _
    | ok => exact executed_executePipeCommand_mono
  · exact List.Subset.refl _

theorem runPipeStep_congr {inherited : Option Json} {step : PipeStepSpec}
    (agree : ∀ entry ∈ (outcomeProgress (runPipeStep (world.router sources) metadata policy
      inherited progress step)).executed, AgreeOn world.serde sources other entry) :
    runPipeStep (world.router other) metadata policy inherited progress step =
      runPipeStep (world.router sources) metadata policy inherited progress step := by
  unfold runPipeStep at agree ⊢
  simp only at agree ⊢
  split
  · rename_i allowed
    rw [if_pos allowed] at agree
    cases resolved : resolveStepReferences
        (inheritOrchestrationMetadata step.args inherited policy) progress.completed
        progress.completed.length with
    | error => rfl
    | ok =>
      rw [resolved] at agree
      exact executePipeCommand_congr agree
  · rfl

variable {α : Type} {turn otherTurn : PipeProgress → α → Except PipeFailure PipeProgress}
  {items : List α}

theorem executed_foldlM_mono (mono : ∀ item progress,
      progress.executed ⊆ (outcomeProgress (turn progress item)).executed) :
    progress.executed ⊆ (outcomeProgress (items.foldlM turn progress)).executed := by
  induction items generalizing progress with
  | nil => exact List.Subset.refl _
  | cons item _ ih =>
    rw [foldlM_cons]
    have first := mono item progress
    cases done : turn progress item with
    | error =>
      rw [done] at first
      exact first
    | ok =>
      rw [done] at first
      exact List.Subset.trans first ih

theorem foldlM_congr_of_executed {P : String × Json → Prop} (mono : ∀ item progress,
      progress.executed ⊆ (outcomeProgress (turn progress item)).executed)
    (same : ∀ item progress, (∀ entry ∈ (outcomeProgress (turn progress item)).executed, P entry) →
      otherTurn progress item = turn progress item)
    (executed : ∀ entry ∈ (outcomeProgress (items.foldlM turn progress)).executed, P entry) :
    items.foldlM otherTurn progress = items.foldlM turn progress := by
  induction items generalizing progress with
  | nil => rfl
  | cons item items ih =>
    rw [foldlM_cons] at executed ⊢
    rw [foldlM_cons]
    cases done : turn progress item with
    | error =>
      rw [done] at executed
      rw [same item progress (by rw [done]; exact executed), done]
      rfl
    | ok next =>
      rw [done] at executed
      have later : next.executed ⊆ (outcomeProgress (items.foldlM turn next)).executed :=
        executed_foldlM_mono mono
      rw [same item progress (by
        rw [done]
        exact fun entry member => executed entry (later member)), done]
      exact ih executed

theorem runPipeWorkflow_congr {parsedArgs : PipeArgs} {workflow : ParsedPipeWorkflowSpec}
    (agree : ∀ entry ∈ (outcomeProgress (runPipeWorkflow (world.router sources) metadata policy
      parsedArgs workflow)).executed, AgreeOn world.serde sources other entry) :
    runPipeWorkflow (world.router other) metadata policy parsedArgs workflow =
      runPipeWorkflow (world.router sources) metadata policy parsedArgs workflow := by
  have registered : ∀ router progress,
      progress.executed ⊆ (outcomeProgress (workflow.orchestrations.foldlM
        (runEmbeddedOrchestration router metadata parsedArgs.specSource) progress)).executed :=
    fun router progress => executed_foldlM_mono fun _ _ => executed_executePipeCommand_mono
  unfold runPipeWorkflow at agree ⊢
  have steps : workflow.steps.foldlM
        (runPipeStep (world.router other) metadata policy parsedArgs.orchestration) .initial =
      workflow.steps.foldlM
        (runPipeStep (world.router sources) metadata policy parsedArgs.orchestration) .initial := by
    refine foldlM_congr_of_executed (fun _ _ => executed_runPipeStep_mono)
      (fun _ _ => runPipeStep_congr) ?_
    cases done : workflow.steps.foldlM (runPipeStep (world.router sources) metadata policy
        parsedArgs.orchestration) PipeProgress.initial with
    | error =>
      rw [done] at agree
      exact agree
    | ok progress =>
      rw [done] at agree
      exact fun entry member => agree entry (registered _ progress member)
  rw [steps]
  cases done : workflow.steps.foldlM (runPipeStep (world.router sources) metadata policy
      parsedArgs.orchestration) PipeProgress.initial with
  | error => rfl
  | ok =>
    rw [done] at agree
    exact foldlM_congr_of_executed (fun _ _ => executed_executePipeCommand_mono)
      (fun _ _ => executePipeCommand_congr) agree

theorem parsePipeSpec_congr {raw : Json}
    (same : ∀ name ∈ secretNames raw, other.resolve name = sources.resolve name) :
    parsePipeSpec serde raw (.ok other) = parsePipeSpec serde raw (.ok sources) := by
  unfold parsePipeSpec resolveJsonValueWithSecretResolution
  simp only [bind, Except.bind, resolveSecretPlaceholders_congr same]

theorem cmdPipeWithPolicy_congr {args : Json}
    (scanned : ∀ parsedArgs, PipeArgs.decode world.serde args = some parsedArgs →
      ∀ name ∈ secretNames parsedArgs.spec, other.resolve name = sources.resolve name)
    (agree : ∀ entry ∈ (cmdPipeWithPolicy (world.router sources) args policy).progress.executed,
      AgreeOn world.serde sources other entry) :
    cmdPipeWithPolicy (world.router other) args policy =
      cmdPipeWithPolicy (world.router sources) args policy := by
  have serdes : ∀ secrets, (world.router secrets).serde = world.serde := fun _ => rfl
  have loads : ∀ secrets, (world.router secrets).secrets = .ok secrets := fun _ => rfl
  simp only [cmdPipeWithPolicy, serdes, loads]
  cases decoded : PipeArgs.decode world.serde args with
  | none => rfl
  | some parsedArgs =>
    simp only [parsePipeSpec_congr (scanned parsedArgs decoded)]
    cases accepted : parsePipeSpec world.serde parsedArgs.spec (.ok sources) with
    | error => rfl
    | ok parsed =>
      rw [progress_cmdPipeWithPolicy decoded accepted] at agree
      simp only [runPipeWorkflow_congr agree]
      rfl

open WorkflowStart

theorem run_eq (start : WorkflowStart) : start.run world sources =
    match start.requestArgs world with
    | .error error => ⟨.initial, .error error⟩
    | .ok args => cmdPipeWithPolicy (world.router sources) args start.inheritance := by
  cases start with
  | pipe => rfl
  | fired rule payload => exact fireWorkflowAction_eq (world.host sources) rule payload

/-- A command that looks a secret up itself is that of a step. -/
theorem reaches_of_executed {start : WorkflowStart} {entry : String × Json} {name : String}
    (member : entry ∈ (start.run world sources).progress.executed)
    (looked : name ∈ nestedNames world.serde entry.1 entry.2) : ∃ step results,
      step.command = entry.1 ∧ start.Reaches world sources step results entry.2 := by
  rw [run_eq] at member
  cases sent : start.requestArgs world with
  | error =>
    rw [sent] at member
    cases member
  | ok args =>
    rw [sent] at member
    rcases executes_cmdPipeWithPolicy args entry member with registers | ⟨step, results, same, runs⟩
    · rw [registers] at looked
      cases looked
    · exact ⟨step, results, same, args, sent, runs⟩

theorem run_congr {start : WorkflowStart}
    (agree : ∀ name ∈ start.lookedUp world sources, other.resolve name = sources.resolve name) :
    start.run world other = start.run world sources := by
  have scanned : ∀ spec, start.scannedSpec world = some spec →
      ∀ name ∈ secretNames spec, other.resolve name = sources.resolve name := by
    intro spec scans name member
    refine agree name (mem_append_left _ ?_)
    rw [scans]
    exact member
  have executed : ∀ entry ∈ (start.run world sources).progress.executed,
      AgreeOn world.serde sources other entry := by
    intro entry member name looked
    exact agree name (mem_append_right _ (mem_flatMap.mpr ⟨entry, member, looked⟩))
  rw [run_eq] at executed
  rw [run_eq, run_eq]
  cases sent : start.requestArgs world with
  | error => rfl
  | ok args =>
    rw [sent] at executed
    refine cmdPipeWithPolicy_congr (fun parsedArgs decoded => scanned parsedArgs.spec ?_) executed
    simp [scannedSpec, sent, Except.toOption, decoded]

theorem readableTexts_mono {texts others : List String} (inside : texts ⊆ others) :
    readableTexts serde texts ⊆ readableTexts serde others := by
  intro text member
  rcases mem_append.mp member with own | nested
  · exact mem_append_left _ (inside own)
  · obtain ⟨outer, listed, leaf⟩ := mem_flatMap.mp nested
    exact mem_append_right _ (mem_flatMap.mpr ⟨outer, inside listed, leaf⟩)

theorem mem_readableTexts_append {texts others : List String} {text : String}
    (member : text ∈ readableTexts serde (texts ++ others)) :
    text ∈ readableTexts serde texts ∨ text ∈ readableTexts serde others := by
  unfold readableTexts at member ⊢
  rw [flatMap_append] at member
  simp only [mem_append] at member ⊢
  tauto

theorem mem_readableTexts_of_fromStr {texts : List String} {outer text : String} {value : Json}
    (listed : outer ∈ texts) (reads : serde.fromStr outer = some value)
    (leaf : text ∈ value.leafTexts) :
    text ∈ readableTexts serde texts := by
  refine mem_append_right _ (mem_flatMap.mpr ⟨outer, listed, ?_⟩)
  rw [reads]
  exact leaf

/-- A spec given as a value or as its text has no leaves but those of the value. -/
theorem leafTexts_normalizedJsonSpec {value spec : Json}
    (normalized : normalizedJsonSpec serde value = some spec) :
    spec.leafTexts ⊆ readableTexts serde value.leafTexts := by
  intro text member
  unfold normalizedJsonSpec at normalized
  split at normalized
  · rename_i outer isText
    exact mem_readableTexts_of_fromStr (mem_leafTexts_asStr isText) normalized member
  · cases normalized
    exact mem_append_left _ member

theorem bindWorkflowText_mem (bindings : List (String × String)) (text : String) :
    bindWorkflowText bindings text = text ∨
      bindWorkflowText bindings text ∈ bindings.map Prod.snd := by
  unfold bindWorkflowText
  cases parseWorkflowPlaceholder text with
  | none => exact .inl rfl
  | some name =>
    cases found : bindings.lookup name with
    | none => exact .inl (by simp [found])
    | some =>
      right
      simp only [found, getD_some]
      exact mem_map.mpr ⟨_, mem_of_lookup_eq_some found, rfl⟩

/-- What the pipe's spec refers to is written by the author or given by the page. -/
theorem scanned_mem {start : WorkflowStart} {spec : Json} {text : String}
    (reads : world.serde.ReadsBack) (scanned : start.scannedSpec world = some spec)
    (inside : text ∈ spec.leafTexts) :
    text ∈ readableTexts world.serde (start.authoredTexts world) ∨
      text ∈ readableTexts world.serde (start.sourceTexts world) := by
  obtain ⟨parsedArgs, parses, rfl⟩ := map_eq_some_iff.mp scanned
  obtain ⟨args, sent, decoded⟩ := bind_eq_some_iff.mp parses
  cases start with
  | pipe =>
    cases sent
    refine .inl (mem_append_left _ ?_)
    simpa [authoredTexts, decoded] using inside
  | fired rule payload =>
    have request : workflowRequestArgs (world.host .empty) rule payload = .ok args :=
      except_toOption_eq_some.mp sent
    obtain ⟨rawSpec, source, bindings, workflow, resolved, bound, parsed, object, given⟩ :=
      @spec_of_request (world.host .empty) _ _ _ reads request
    have leaves : parsedArgs.spec.leafTexts ⊆
        readableTexts world.serde (workflow.leafTexts.map (bindWorkflowText bindings)) := by
      have normalized := spec_of_decode object decoded
      rw [given, bind_some] at normalized
      rw [← leafTexts_mapLeaves]
      cases owner : rule.owner with
      | trigger =>
        simp only [owner] at normalized
        rw [← some.inj ((reads _).symm.trans normalized)]
        exact subset_append_left _ _
      | orchestration =>
        simp only [owner] at normalized
        exact leafTexts_normalizedJsonSpec normalized
    obtain ⟨explicit, written, bound⟩ := except_bind_eq_ok.mp bound
    obtain ⟨page, read, bound⟩ := except_bind_eq_ok.mp bound
    have joined : bindings = explicit ++ page := by
      split at bound <;> cases bound
      rfl
    subst joined
    apply mem_readableTexts_append
    refine readableTexts_mono ?_ (leaves inside)
    intro leaf member
    obtain ⟨origin, listed, rfl⟩ := mem_map.mp member
    simp only [authoredTexts, workflowTexts, resolved, written,
      sourceTexts, read, Except.toOption, getD_some, mem_append]
    rcases bindWorkflowText_mem (explicit ++ page) origin with kept | put
    · rw [kept]
      refine .inl (.inl ?_)
      rw [show world.serde.fromStr rawSpec = some workflow from parsed]
      exact listed
    · rw [map_append, mem_append] at put
      tauto

/-- Where no text of the page refers to a secret, and no step does when what earlier steps
returned is put in, unless its spec is a text its author wrote: a run looks up what its author
referred to, and does the same under all secrets that agree on that. -/
theorem workflow_secrets_authored (world : WorkflowWorld) (reads : world.serde.ReadsBack)
    (sources : SecretSources) (start : WorkflowStart)
    (plain : ∀ text ∈ readableTexts world.serde (start.sourceTexts world),
      parseSecretPlaceholder text = none)
    (written : ∀ step results args, start.Reaches world sources step results args →
      nestedNames world.serde step.command args = [] ∨ ∃ text ∈ start.authoredTexts world,
        world.serde.fromStr text = givenSpec world.serde step.command args) :
    (∀ name ∈ start.lookedUp world sources,
      secretReference name ∈ readableTexts world.serde (start.authoredTexts world)) ∧
    (∀ entry ∈ (start.run world sources).progress.executed,
      ∀ name ∈ nestedNames world.serde entry.1 entry.2,
        ∃ text ∈ start.authoredTexts world, ∃ spec, world.serde.fromStr text = some spec ∧
          secretReference name ∈ spec.leafTexts) ∧
    ∀ other : SecretSources,
      (∀ name, secretReference name ∈ readableTexts world.serde (start.authoredTexts world) →
        other.resolve name = sources.resolve name) →
      start.run world other = start.run world sources := by
  have nested : ∀ entry ∈ (start.run world sources).progress.executed,
      ∀ name ∈ nestedNames world.serde entry.1 entry.2,
        ∃ text ∈ start.authoredTexts world, ∃ spec, world.serde.fromStr text = some spec ∧
          secretReference name ∈ spec.leafTexts := by
    intro entry member name looked
    obtain ⟨step, results, same, reaches⟩ := reaches_of_executed member looked
    rw [← same] at looked
    rcases written step results entry.2 reaches with none | ⟨text, listed, given⟩
    · rw [none] at looked
      cases looked
    · obtain ⟨spec, found, leaf⟩ := reference_of_mem_nestedNames looked
      exact ⟨text, listed, spec, given.trans found, leaf⟩
  have authored : ∀ name ∈ start.lookedUp world sources,
      secretReference name ∈ readableTexts world.serde (start.authoredTexts world) := by
    intro name looked
    rcases mem_append.mp looked with first | later
    · cases scanned : start.scannedSpec world <;> rw [scanned] at first
      · cases first
      · obtain ⟨text, inside, parsed⟩ := mem_filterMap.mp first
        rcases scanned_mem reads scanned inside with own | page
        · rwa [← parseSecretPlaceholder_eq_some parsed]
        · rw [plain text page] at parsed
          cases parsed
    · obtain ⟨entry, member, inside⟩ := mem_flatMap.mp later
      obtain ⟨text, listed, spec, read, leaf⟩ := nested entry member name inside
      exact mem_readableTexts_of_fromStr listed read leaf
  refine ⟨authored, nested, fun other agree => run_congr fun name looked => ?_⟩
  exact agree name (authored name looked)

/-- A page that shows a text wherever it is read. -/
def showingWorld (serde : SerdeJson) (text : String) : WorkflowWorld where
  serde := serde
  workflowFile := fun _ => .error (.io "no such file")
  workflowPath := id
  querySource := fun _ => .ok text
  respond := fun _ => .ok (object [("result", object [("value", string text)])])
  currentEpoch := 1

def passwordSources (password : String) : SecretSources where
  processEnv := [("RUB_PASSWORD", password)]
  fileEnv := []
  processOrdered := pairwise_singleton _ _
  fileOrdered := orderedKeys_nil
  fileNamed := SecretSources.named_nil

def typeStep (text : String) : Json :=
  object [("command", string "type"), ("args", object [("text", string text)])]

def fillStep (text : String) : Json :=
  object [("command", string "fill"), ("args", object [("spec", array
    [object [("selector", string "#q"), ("value", string text)]])])]

def pipeOf (steps : List Json) : WorkflowStart := .pipe (object [("spec", array steps)])

/-- The title of the page is read, and put into a form. -/
def copyingPipe : WorkflowStart :=
  pipeOf [object [("command", string "get"), ("args", object [("sub", string "title")])],
    fillStep "\x7b\x7bprev.result.result.value\x7d\x7d"]

/-- Steps with a parameter that the page gives. -/
def boundSteps : Json := array [typeStep "\x7b\x7bname\x7d\x7d"]

def boundPayload : Json :=
  object [("steps", boundSteps), ("source_vars", object [("name",
    object [("kind", string "text"), ("selector", string "#name")])])]

def typedTexts (run : PipeRun) : List (Option String) :=
  run.progress.executed.map fun entry => (entry.2.get "text").bind asStr

/-- The fired steps are sent with the text of the page in the place of the parameter. -/
theorem request_of_boundPayload (text : String) (sources : SecretSources) :
    workflowRequestArgs ((showingWorld readingSerde text).host sources) orchestrationRule
        boundPayload =
      .ok (object [("spec", boundSteps.mapLeaves (bindWorkflowText [("name", text)])),
        ("spec_source", object [("kind", string "orchestration_inline_workflow"),
          ("step_count", natural 1), ("vars", array [string "name"]),
          ("source_vars", array [string "name"])]),
        ("_orchestration", object [])]) := by
  have resolved : resolveWorkflowSpec ((showingWorld readingSerde text).host sources)
      .orchestration boundPayload = .ok (jsonText boundSteps, object
        [("kind", string "orchestration_inline_workflow"), ("step_count", natural 1)]) :=
    rfl
  have page : resolveSourceVarBindings ((showingWorld readingSerde text).host sources)
      boundPayload = .ok [("name", text)] := rfl
  have bound : workflowBindings ((showingWorld readingSerde text).host sources) .orchestration
      boundPayload = .ok [("name", text)] := rfl
  have substituted : resolveWorkflowBindingMap readingSerde (jsonText boundSteps)
      [("name", text)] = .ok ⟨jsonText (boundSteps.mapLeaves (bindWorkflowText [("name", text)])),
        ["name"]⟩ := by
    unfold resolveWorkflowBindingMap
    rw [readingSerde_readsBack]
    rfl
  unfold workflowRequestArgs
  simp only [orchestrationRule, resolved, page, bound, bind, Except.bind]
  rw [show ((showingWorld readingSerde text).host sources).router.serde = readingSerde from rfl,
    substituted]
  simp only [readingSerde_readsBack _]
  rfl

/-- A text that the page shows is looked up as a secret: as the text of a source variable,
whose secret is then typed, and as a text that a `fill` step was given; and a secret that
refers to another one is looked up again. -/
theorem shown_reference_looked_up :
    ("$RUB_PASSWORD" ∉ WorkflowStart.authoredTexts (showingWorld readingSerde "$RUB_PASSWORD")
        (.fired orchestrationRule boundPayload) ∧
      typedTexts (WorkflowStart.run (showingWorld readingSerde "$RUB_PASSWORD")
        (passwordSources "hunter2") (.fired orchestrationRule boundPayload)) =
          [some "hunter2"]) ∧
    ("$RUB_PASSWORD" ∉ copyingPipe.authoredTexts (showingWorld plainSerde "$RUB_PASSWORD") ∧
      copyingPipe.lookedUp (showingWorld plainSerde "$RUB_PASSWORD")
        (passwordSources "hunter2") = ["RUB_PASSWORD"]) ∧
    (pipeOf [fillStep "$RUB_PASSWORD"]).lookedUp (showingWorld plainSerde "")
      (passwordSources "$OTHER") = ["RUB_PASSWORD", "OTHER"] := by
  refine ⟨⟨?_, ?_⟩, ⟨by decide, rfl⟩, rfl⟩
  · have texts : WorkflowStart.authoredTexts (showingWorld readingSerde "$RUB_PASSWORD")
        (.fired orchestrationRule boundPayload) = ((readingSerde.fromStr
          (jsonText boundSteps)).map leafTexts).getD [] ++ [] := rfl
    rw [texts, readingSerde_readsBack]
    decide
  · show typedTexts (fireWorkflowAction ((showingWorld readingSerde "$RUB_PASSWORD").host
      (passwordSources "hunter2")) orchestrationRule boundPayload) = _
    unfold fireWorkflowAction
    rw [request_of_boundPayload]
    rfl

/-- A password that the author refers to in a text to type is looked up and typed. -/
theorem typed_reference_looked_up :
    typedTexts ((pipeOf [typeStep "$RUB_PASSWORD"]).run (showingWorld readingSerde "")
      (passwordSources "hunter2")) = [some "hunter2"] ∧
    ∀ name ∈ (pipeOf [typeStep "$RUB_PASSWORD"]).lookedUp (showingWorld readingSerde "")
      (passwordSources "hunter2"),
        secretReference name ∈ readableTexts readingSerde
          ((pipeOf [typeStep "$RUB_PASSWORD"]).authoredTexts (showingWorld readingSerde "")) := by
  refine ⟨rfl, (workflow_secrets_authored (showingWorld readingSerde "") readingSerde_readsBack
    (passwordSources "hunter2") (pipeOf [typeStep "$RUB_PASSWORD"])
    (fun _ member => nomatch member) ?_).1⟩
  rintro step results args ⟨_, ⟨⟩, ⟨⟨⟩, ⟨⟩, listed, -, -, -⟩⟩
  obtain rfl := mem_singleton.mp (listed.subset (mem_append_right _ (mem_singleton_self step)))
  exact .inl rfl

end Rub
