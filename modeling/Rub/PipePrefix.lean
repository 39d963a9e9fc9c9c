import Rub.PipeExecution

/-!
What a failed workflow reports of the steps that were committed before it stopped. Every
exit but one goes through the step error, which lists the results so far; a step whose
command is not allowed leaves through a plain error.
-/

namespace Rub

open Json

/-- The error's context counts the committed steps, lists their results in order before the
failed step, and carries the recovery contract of a partial commit. -/
structure ReportsPrefix (error : RubError) (completed : List Json) : Prop where
  reported : ∃ envelope context transaction failed,
    error = .domain envelope ∧ envelope.context = some context ∧
    context.get "transaction" = some transaction ∧
    transaction.get "committed_step_count" = some (natural completed.length) ∧
    transaction.get "recovery_contract" = some partialCommitStepsContract ∧
    context.get "steps" = some (array (completed ++ [failed]))

theorem reportsPrefix_pipeStepError (error : RubError) (stepIndex : Nat) (command : String)
    (label : Option String) (completed : List Json) (failureClass : String) :
    ReportsPrefix (pipeStepError error stepIndex command label completed failureClass)
      completed := by
  refine ⟨_, _, pipeTransaction error.intoEnvelope stepIndex completed failureClass,
    workflowFailedStepProjection stepIndex command label none error.intoEnvelope,
    rfl, rfl, ?_, ?_, ?_, ?_⟩
  · rw [get_object]
    rfl
  · rw [pipeTransaction, get_object]
    rfl
  · rw [pipeTransaction, get_object]
    rfl
  · rw [get_object]
    rfl

theorem not_reportsPrefix_disallowed (policy : OrchestrationMetadataInheritancePolicy)
    (step : PipeStepSpec) (index : Nat) (completed : List Json) :
    ¬ ReportsPrefix (disallowedStepError policy step index) completed := by
  rintro ⟨envelope, context, transaction, failed, same, carried, found, -⟩
  cases same
  cases carried
  rw [get_object] at found
  cases found

variable {router : PipeRouter} {metadata : SecretResolutionMetadata}
  {policy : OrchestrationMetadataInheritancePolicy} {inherited : Option Json}
  {progress : PipeProgress} {step : PipeStepSpec} {failure : PipeFailure}

/-- A command that ends the workflow reports the results before it. -/
theorem executePipeCommand_failure {fence : Json → Except ErrorEnvelope Unit}
    {executionFailed fenceFailed command : String} {label : Option String} {args : Json}
    (failed : executePipeCommand router metadata fence executionFailed fenceFailed progress command
      label args = .error failure) : failure.progress.completed = progress.completed ∧
      ReportsPrefix failure.error failure.progress.completed := by
  unfold executePipeCommand at failed
  simp only at failed
  split at failed
  · cases failed
    exact ⟨rfl, reportsPrefix_pipeStepError ..⟩
  · split at failed <;> cases failed
    exact ⟨rfl, reportsPrefix_pipeStepError ..⟩

/-- A step that ends the workflow reports the prefix exactly when its command was allowed. -/
theorem runPipeStep_failure
    (failed : runPipeStep router metadata policy inherited progress step = .error failure) :
    failure.progress.completed = progress.completed ∧
      (ReportsPrefix failure.error failure.progress.completed ↔
        pipeStepAllowed policy step = true) := by
  unfold runPipeStep at failed
  simp only at failed
  split at failed
  · rename_i allowed
    split at failed
    · cases failed
      exact ⟨rfl, iff_of_true (reportsPrefix_pipeStepError ..) allowed⟩
    · obtain ⟨same, reports⟩ := executePipeCommand_failure failed
      exact ⟨same, iff_of_true reports allowed⟩
  · cases failed
    exact ⟨rfl, iff_of_false (not_reportsPrefix_disallowed _ _ _ _) ‹_›⟩

/-- A loop that fails has a turn that fails, and all turns before it succeed. -/
theorem exists_stop_of_foldlM {State Item Failure : Type}
    {turn : State → Item → Except Failure State} {items : List Item} {start : State}
    {failure : Failure} (failed : items.foldlM turn start = .error failure) :
    ∃ before item after reached, items = before ++ item :: after ∧
      before.foldlM turn start = .ok reached ∧ turn reached item = .error failure := by
  induction items generalizing start with
  | nil => cases failed
  | cons item items ih =>
    rw [List.foldlM_cons] at failed
    cases turned : turn start item with
    | error =>
      rw [turned] at failed
      cases failed
      exact ⟨[], item, items, start, rfl, rfl, turned⟩
    | ok next =>
      rw [turned] at failed
      obtain ⟨before, stop, after, reached, rfl, passed, stopped⟩ := ih failed
      refine ⟨item :: before, stop, after, reached, rfl, ?_, stopped⟩
      rw [List.foldlM_cons, turned]
      exact passed

/-- The turns before a step succeed, with these results, and its own fails. -/
def StopsAt (turn : PipeProgress → PipeStepSpec → Except PipeFailure PipeProgress)
    (steps : List PipeStepSpec) (reached : PipeProgress) (step : PipeStepSpec) : Prop :=
  ∃ before after failure, steps = before ++ step :: after ∧
    before.foldlM turn .initial = .ok reached ∧ turn reached step = .error failure

theorem StopsAt.foldlM {turn : PipeProgress → PipeStepSpec → Except PipeFailure PipeProgress}
    {steps : List PipeStepSpec} (stops : StopsAt turn steps progress step) :
    ∃ failure, steps.foldlM turn .initial = .error failure ∧
      turn progress step = .error failure := by
  obtain ⟨before, after, failure, rfl, passed, failed⟩ := stops
  refine ⟨failure, ?_, failed⟩
  rw [List.foldlM_append, passed]
  show List.foldlM turn progress (step :: after) = _
  rw [List.foldlM_cons, failed]
  rfl

/-- A workflow stops at the step whose turn fails, or behind all steps. -/
theorem runPipeWorkflow_failure {parsedArgs : PipeArgs} {workflow : ParsedPipeWorkflowSpec}
    (stopped : runPipeWorkflow router metadata policy parsedArgs workflow = .error failure) :
    let turn := runPipeStep router metadata policy parsedArgs.orchestration
    (ReportsPrefix failure.error failure.progress.completed ↔
      ∀ reached step, StopsAt turn workflow.steps reached step →
        pipeStepAllowed policy step = true) ∧
      ∀ reached step, StopsAt turn workflow.steps reached step →
        failure.progress.completed = reached.completed := by
  intro turn
  unfold runPipeWorkflow at stopped
  cases run : workflow.steps.foldlM turn .initial with
  | ok stepped =>
    have passed : ∀ reached step, ¬ StopsAt turn workflow.steps reached step := by
      intro reached step stops
      obtain ⟨_, failed, -⟩ := stops.foldlM
      cases run.symm.trans failed
    rw [run] at stopped
    obtain ⟨_, _, _, _, -, -, failed⟩ := exists_stop_of_foldlM stopped
    exact ⟨iff_of_true (executePipeCommand_failure failed).2
      fun _ _ stops => (passed _ _ stops).elim, fun _ _ stops => (passed _ _ stops).elim⟩
  | error =>
    rw [run] at stopped
    cases stopped
    have reports : ∀ reached step, StopsAt turn workflow.steps reached step →
        failure.progress.completed = reached.completed ∧
          (ReportsPrefix failure.error failure.progress.completed ↔
            pipeStepAllowed policy step = true) := by
      intro reached step stops
      obtain ⟨_, again, failed⟩ := stops.foldlM
      cases run.symm.trans again
      exact runPipeStep_failure failed
    obtain ⟨before, step, after, reached, split, passed, failed⟩ := exists_stop_of_foldlM run
    have stops : StopsAt turn workflow.steps reached step :=
      ⟨before, after, failure, split, passed, failed⟩
    refine ⟨⟨fun listed reached step stops => (reports reached step stops).2.mp listed,
      fun allowed => (reports reached step stops).2.mpr (allowed reached step stops)⟩,
      fun reached step stops => (reports reached step stops).1⟩

/-- A workflow that fails reports the steps it committed exactly when the step it stopped at,
if it stopped at a step of the spec, has an allowed command. -/
theorem failed_pipe_reports_prefix_iff (router : PipeRouter) (args : Json)
    (policy : OrchestrationMetadataInheritancePolicy) (parsedArgs : PipeArgs)
    (parsed : ResolvedJsonSpec ParsedPipeWorkflowSpec) (error : RubError)
    (decoded : PipeArgs.decode router.serde args = some parsedArgs)
    (accepted : parsePipeSpec router.serde parsedArgs.spec router.secrets = .ok parsed)
    (failed : (cmdPipeWithPolicy router args policy).result = .error error) :
    let turn := runPipeStep router parsed.metadata policy parsedArgs.orchestration
    (ReportsPrefix error (cmdPipeWithPolicy router args policy).progress.completed ↔
      ∀ reached step, StopsAt turn parsed.value.steps reached step →
        pipeStepAllowed policy step = true) ∧
      ∀ reached step, StopsAt turn parsed.value.steps reached step →
        (cmdPipeWithPolicy router args policy).progress.completed = reached.completed := by
  cases run : runPipeWorkflow router parsed.metadata policy parsedArgs parsed.value with
  | ok =>
    simp only [cmdPipeWithPolicy, decoded, accepted, run] at failed
    cases failed
  | error =>
    simp only [cmdPipeWithPolicy, decoded, accepted, run] at failed ⊢
    cases failed
    exact runPipeWorkflow_failure run

/-- Every command succeeds but a click. -/
def clicklessRouter : PipeRouter where
  serde := plainSerde
  secrets := .ok ⟨[], [], orderedKeys_nil, orderedKeys_nil, SecretSources.named_nil⟩
  execute := fun executed =>
    if executed.getLast?.map Prod.fst = some "click" then .error (.internal "no such element")
    else .ok (object [])
  currentEpoch := 1

def commandPipe (commands : List String) : Json :=
  object [("spec", array (commands.map fun command =>
    object [("command", string command)]))]

def commandSteps (commands : List String) : ResolvedJsonSpec ParsedPipeWorkflowSpec :=
  ⟨⟨commands.map fun command => ⟨command, Json.null, none⟩, []⟩, .empty⟩

def commandArgs (commands : List String) : PipeArgs :=
  ⟨array (commands.map fun command => object [("command", string command)]),
    none, none, none, none⟩

/-- A click that fails behind a tab listing is reported with the listing. -/
theorem failed_click_reports_prefix :
    ∃ error, (cmdPipe clicklessRouter (commandPipe ["tabs", "click"])).result = .error error ∧
      (cmdPipe clicklessRouter (commandPipe ["tabs", "click"])).progress.completed.length = 1 ∧
      ReportsPrefix error
        (cmdPipe clicklessRouter (commandPipe ["tabs", "click"])).progress.completed := by
  refine ⟨_, rfl, rfl, ?_⟩
  refine (failed_pipe_reports_prefix_iff clicklessRouter (commandPipe ["tabs", "click"])
    .preserveChildOverrides (commandArgs ["tabs", "click"]) (commandSteps ["tabs", "click"]) _
    rfl rfl rfl).1.mpr ?_
  rintro reached step ⟨before, after, failure, split, -⟩
  have member : step ∈ (commandSteps ["tabs", "click"]).value.steps := by
    rw [split]
    simp
  simp only [commandSteps, List.map_cons, List.map_nil, List.mem_cons, List.not_mem_nil, or_false]
    at member
  rcases member with rfl | rfl <;> rfl

/-- A nested pipe behind a tab listing is refused as if nothing had been done. -/
theorem disallowed_step_hides_prefix :
    ∃ error, (cmdPipe clicklessRouter (commandPipe ["tabs", "pipe"])).result = .error error ∧
      (cmdPipe clicklessRouter (commandPipe ["tabs", "pipe"])).progress.completed.length = 1 ∧
      ¬ ReportsPrefix error
        (cmdPipe clicklessRouter (commandPipe ["tabs", "pipe"])).progress.completed :=
  ⟨_, rfl, rfl, not_reportsPrefix_disallowed .preserveChildOverrides ⟨"pipe", Json.null, none⟩ 1 _⟩

end Rub
