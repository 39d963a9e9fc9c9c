import Rub.AutomationFence
import Rub.HandlerReads
import Rub.StepReferences
import Rub.WorkflowPolicy

/-!
The execution of a workflow: the spec is resolved and parsed, then its steps are run one
after the other, then its embedded orchestrations are registered. Each of them is pushed to
the completed results once it was executed and passed its commit fence.
-/

namespace Rub

open Json

structure PipeStepSpec where
  command : String
  args : Json
  label : Option String

structure PipeEmbeddedOrchestrationSpec where
  label : Option String
  spec : Json

structure ParsedPipeWorkflowSpec where
  steps : List PipeStepSpec
  orchestrations : List PipeEmbeddedOrchestrationSpec

def PipeStepSpec.decode (value : Json) : Option PipeStepSpec := do
  let fields ← Serde.structFields 3 ["command", "args", "label"] value
  let command ← Serde.required asStr (fields "command")
  let label ← Serde.optional asStr (fields "label")
  pure { command, args := Json.optional (fields "args"), label }

def PipeEmbeddedOrchestrationSpec.decode (value : Json) :
    Option PipeEmbeddedOrchestrationSpec := do
  let fields ← Serde.structFields 2 ["label", "spec"] value
  let label ← Serde.optional asStr (fields "label")
  let spec ← fields "spec"
  pure { label, spec }

def decodeItems {α : Type} (decode : Json → Option α) (value : Json) : Option (List α) :=
  value.asArray.bind fun items => items.mapM decode

def decodeListField {α : Type} (decode : Json → Option α) (field : Option Json) :
    Option (List α) :=
  match field with
  | none => some []
  | some value => decodeItems decode value

def decodePipeStepList (value : Json) : Option ParsedPipeWorkflowSpec :=
  (decodeItems PipeStepSpec.decode value).map fun steps => { steps, orchestrations := [] }

def decodePipeWorkflowAsset (value : Json) : Option ParsedPipeWorkflowSpec := do
  let fields ← Serde.structFields 0 ["steps", "orchestrations"] value
  let steps ← decodeListField PipeStepSpec.decode (fields "steps")
  let orchestrations ←
    decodeListField PipeEmbeddedOrchestrationSpec.decode (fields "orchestrations")
  pure { steps, orchestrations }

/-- The first step whose label an earlier step has. -/
def duplicateLabel (seen : List String) : Nat → List PipeStepSpec → Option (Nat × String)
  | _, [] => none
  | index, step :: steps =>
    match step.label with
    | none => duplicateLabel seen (index + 1) steps
    | some label =>
      if label ∈ seen then some (index, label)
      else duplicateLabel (label :: seen) (index + 1) steps

def parsePipeSpec (serde : SerdeJson) (raw : Json) (loaded : Except RubError SecretSources) :
    Except RubError (ResolvedJsonSpec ParsedPipeWorkflowSpec) := do
  let decode := if raw.asArray.isSome then decodePipeStepList else decodePipeWorkflowAsset
  let parsed ← resolveJsonValueWithSecretResolution serde decode raw "pipe" loaded
  if parsed.value.steps.isEmpty && parsed.value.orchestrations.isEmpty then
    .error (.invalidInput
      "pipe workflow objects must declare at least one step or embedded orchestration block")
  else
    match duplicateLabel [] 0 parsed.value.steps with
    | some (index, label) =>
      .error (.invalidInputWithContext
        ("Duplicate step label '" ++ label ++ "' at step index " ++ toString index)
        (object [("label", string label), ("step_index", natural index)]))
    | none => .ok parsed

def buildEmbeddedOrchestrationArgs (workflowSource : Option Json)
    (orchestration : PipeEmbeddedOrchestrationSpec) (blockIndex : Nat) : Except RubError Json :=
  .ok (object [("sub", string "add"), ("spec", orchestration.spec),
    ("spec_source", object [("kind", string "workflow_embedded"),
      ("workflow_source",
        workflowSource.getD (object [("kind", string "inline")])),
      ("block_index", natural blockIndex),
      ("label", optionalText orchestration.label)])])

def workflowStepActionProjection (command : String) (label role : Option String) : Json :=
  present [("kind", some (string "command")), ("command", some (string command)),
    ("label", label.map string), ("role", role.map string)]

def workflowStepProjection (stepIndex : Nat) (command : String) (label role : Option String)
    (data : Json) : Json :=
  object [("step_index", natural stepIndex), ("status", string "committed"),
    ("action", workflowStepActionProjection command label role), ("result", data)]

def workflowErrorProjection (envelope : ErrorEnvelope) : Json :=
  object [("code", string envelope.code.name),
    ("message", string envelope.message), ("suggestion", string envelope.suggestion),
    ("context", Json.optional envelope.context)]

def workflowFailedStepProjection (stepIndex : Nat) (command : String) (label role : Option String)
    (envelope : ErrorEnvelope) : Json :=
  object [("step_index", natural stepIndex), ("status", string "failed"),
    ("action", workflowStepActionProjection command label role), ("result", Json.null),
    ("error", workflowErrorProjection envelope)]

def partialCommitStepsContract : Json :=
  object [("kind", string "partial_commit"),
    ("committed_steps_authoritative", Json.bool true), ("rollback_available", Json.bool false),
    ("resume_from_failed_step_supported", Json.bool false)]

def pipeTransaction (source : ErrorEnvelope) (stepIndex : Nat) (completed : List Json)
    (failureClass : String) : Json :=
  object [("atomic", Json.bool false), ("status", string "failed"),
    ("failure_class", string failureClass), ("failed_step_index", natural stepIndex),
    ("committed_step_count", natural completed.length),
    ("rollback_attempted", Json.bool false), ("rollback_failed", Json.bool false),
    ("source_error", workflowErrorProjection source),
    ("recovery_contract", partialCommitStepsContract)]

def pipeStepError (error : RubError) (stepIndex : Nat) (stepCommand : String)
    (stepLabel : Option String) (completed : List Json) (failureClass : String) : RubError :=
  let source := error.intoEnvelope
  .domain (((ErrorEnvelope.new source.code
    ("pipe step " ++ toString stepIndex ++ " ('" ++ stepCommand ++ "') failed: " ++
      source.message)).withSuggestion source.suggestion).withContext
    (object [
      ("subject", object [("kind", string "pipe"),
        ("source", string "live_execution")]),
      ("transaction", pipeTransaction source stepIndex completed failureClass),
      ("steps", array (completed ++
        [workflowFailedStepProjection stepIndex stepCommand stepLabel none source]))]))

def registrationFault (message : String) (context : List (String × Json)) :
    Except ErrorEnvelope Unit :=
  .error ((ErrorEnvelope.new .ipcProtocolError message).withContext (object context))

def ensureEmbeddedOrchestrationRegistrationCommitted (data : Json) : Except ErrorEnvelope Unit :=
  match data.get "result" with
  | none =>
    registrationFault "Embedded orchestration response did not include result payload"
      [("reason", string "embedded_orchestration_result_missing")]
  | some result =>
    match result.get "rule" with
    | none =>
      registrationFault "Embedded orchestration response did not include registered rule truth"
        [("reason", string "embedded_orchestration_rule_missing"), ("result", result)]
    | some rule =>
      match (rule.get "id").bind asU64 with
      | none =>
        registrationFault "Embedded orchestration response did not include rule.id"
          [("reason", string "embedded_orchestration_rule_id_missing"), ("rule", rule)]
      | some ruleId =>
        match (rule.get "status").bind asStr with
        | none =>
          registrationFault "Embedded orchestration response did not include rule.status"
            [("reason", string "embedded_orchestration_rule_status_missing"),
              ("rule", rule)]
        | some status =>
          if status = "armed" ∨ status = "paused" then .ok ()
          else
            registrationFault
              ("Embedded orchestration step returned unexpected rule status '" ++ status ++
                "' after registration")
              [("reason", string "embedded_orchestration_rule_status_invalid"),
                ("rule_id", natural ruleId), ("rule_status", string status),
                ("rule", rule)]

def responseCarriesDomEpoch (data : Json) : Bool :=
  ((data.get "dom_epoch").bind asU64).isSome

def SecretSource.effectiveName : SecretSource → String
  | .environment => "environment"
  | .secretsFile => "rub_home_secrets_env"

/-- The references that were looked up, by name, without their values. -/
def attachSecretResolutionProjection (payload : Json) (metadata : SecretResolutionMetadata) :
    Json :=
  if metadata.isEmpty then payload
  else
    let items := List.insertionSort (fun left right => left.reference ≤ right.reference)
      metadata.entries
    payload.insert "input_secret_references" (object [("count", natural items.length),
      ("items", array (items.map fun entry =>
        object [("reference", string entry.reference),
          ("effective_source", string entry.source.effectiveName)]))])

/-- The rest of the daemon as a workflow sees it. -/
structure PipeRouter where
  serde : SerdeJson
  /-- The secrets, as they are loaded for a spec. -/
  secrets : Except RubError SecretSources
  /-- What comes back for the last command of those that were executed so far. -/
  execute : List (String × Json) → Except RubError Json
  currentEpoch : Nat

structure PipeProgress where
  executed : List (String × Json)
  completed : List Json
  publishCurrentDomEpoch : Bool

def PipeProgress.initial : PipeProgress :=
  { executed := [], completed := [], publishCurrentDomEpoch := false }

/-- An exit of the workflow, with what had been done. -/
structure PipeFailure where
  progress : PipeProgress
  error : RubError

/-- What had been done when a part of a workflow ended, either way. -/
def outcomeProgress : Except PipeFailure PipeProgress → PipeProgress
  | .ok progress => progress
  | .error failure => failure.progress

def pipeStepAllowed (policy : OrchestrationMetadataInheritancePolicy) (step : PipeStepSpec) :
    Bool :=
  match policy with
  | .triggerAuthoritativeFrame => triggerWorkflowRequestAllowed step.command step.args
  | .preserveChildOverrides => workflowRequestAllowed step.command step.args

def disallowedStepError (policy : OrchestrationMetadataInheritancePolicy) (step : PipeStepSpec)
    (index : Nat) : RubError :=
  let allowedCommands := match policy with
    | .triggerAuthoritativeFrame => triggerWorkflowAllowedStepDescriptions
    | .preserveChildOverrides => workflowAllowedStepDescriptions
  .invalidInputWithContext ("pipe step command '" ++ step.command ++ "' is not allowed")
    (object [("step_index", natural index),
      ("allowed_commands", array (allowedCommands.map string)),
      ("trigger_owned_workflow", Json.bool (policy == .triggerAuthoritativeFrame))])

variable (router : PipeRouter) (metadata : SecretResolutionMetadata)

/-- The execution of one command and its fence. Both loops index by the results so far. -/
def executePipeCommand (fence : Json → Except ErrorEnvelope Unit)
    (executionFailed fenceFailed : String) (progress : PipeProgress) (command : String)
    (label : Option String) (args : Json) : Except PipeFailure PipeProgress :=
  let index := progress.completed.length
  let executed := { progress with executed := progress.executed ++ [(command, args)] }
  let failed := fun error failureClass =>
    .error ⟨executed, pipeStepError (redactRubError error metadata) index command label
      progress.completed failureClass⟩
  match router.execute executed.executed with
  | .error error => failed error executionFailed
  | .ok data =>
    match fence data with
    | .error envelope => failed (.domain envelope) fenceFailed
    | .ok () =>
      .ok { executed with
        completed := progress.completed ++
          [workflowStepProjection index command label none (redactJsonValue data metadata)]
        publishCurrentDomEpoch :=
          progress.publishCurrentDomEpoch || responseCarriesDomEpoch data }

/-- One turn of the loop over the steps. -/
def runPipeStep (policy : OrchestrationMetadataInheritancePolicy) (inherited : Option Json)
    (progress : PipeProgress) (step : PipeStepSpec) : Except PipeFailure PipeProgress :=
  let index := progress.completed.length
  if pipeStepAllowed policy step then
    let args := inheritOrchestrationMetadata step.args inherited policy
    match resolveStepReferences args progress.completed index with
    | .error error =>
      .error ⟨progress, pipeStepError (redactRubError error metadata) index step.command
        step.label progress.completed "reference_resolution_failed"⟩
    | .ok resolvedArgs =>
      executePipeCommand router metadata
        (fun data => ensureCommittedAutomationResult step.command (some data))
        "step_execution_failed" "step_commit_fence_failed" progress step.command step.label
        resolvedArgs
  else .error ⟨progress, disallowedStepError policy step index⟩

/-- One turn of the loop over the embedded orchestrations. -/
def runEmbeddedOrchestration (specSource : Option Json) (progress : PipeProgress)
    (orchestration : PipeEmbeddedOrchestrationSpec) : Except PipeFailure PipeProgress :=
  match buildEmbeddedOrchestrationArgs specSource orchestration progress.completed.length with
  | .error error => .error ⟨progress, error⟩
  | .ok args =>
    executePipeCommand router metadata ensureEmbeddedOrchestrationRegistrationCommitted
      "embedded_orchestration_failed" "embedded_orchestration_registration_fence_failed" progress
      "orchestration" orchestration.label args

def runPipeWorkflow (policy : OrchestrationMetadataInheritancePolicy) (parsedArgs : PipeArgs)
    (workflow : ParsedPipeWorkflowSpec) : Except PipeFailure PipeProgress := do
  let stepped ← workflow.steps.foldlM (runPipeStep router metadata policy parsedArgs.orchestration)
    .initial
  workflow.orchestrations.foldlM (runEmbeddedOrchestration router metadata parsedArgs.specSource)
    stepped

def pipeResult (progress : PipeProgress) : Json :=
  let data := object [("steps", array progress.completed)]
  let published := if progress.publishCurrentDomEpoch then
    data.insert "dom_epoch" (natural router.currentEpoch) else data
  redactJsonValue (attachSecretResolutionProjection published metadata) metadata

/-- A workflow command as a whole: what it did, and what it returned. -/
structure PipeRun where
  progress : PipeProgress
  result : Except RubError Json

def cmdPipeWithPolicy (args : Json) (policy : OrchestrationMetadataInheritancePolicy) : PipeRun :=
  match PipeArgs.decode router.serde args with
  | none =>
    ⟨.initial, .error (.invalidInput ("Invalid pipe payload: " ++
      router.serde.rejection "pipe" args))⟩
  | some parsedArgs =>
    match parsePipeSpec router.serde parsedArgs.spec router.secrets with
    | .error error => ⟨.initial, .error error⟩
    | .ok parsed =>
      match runPipeWorkflow router parsed.metadata policy parsedArgs parsed.value with
      | .error failure => ⟨failure.progress, .error failure.error⟩
      | .ok progress => ⟨progress, .ok (pipeResult router parsed.metadata progress)⟩

def cmdPipe (args : Json) : PipeRun := cmdPipeWithPolicy router args .preserveChildOverrides

def cmdTriggerPipe (args : Json) : PipeRun :=
  cmdPipeWithPolicy router args .triggerAuthoritativeFrame

theorem executed_executePipeCommand (fence : Json → Except ErrorEnvelope Unit)
    (executionFailed fenceFailed : String) (progress : PipeProgress) (command : String)
    (label : Option String) (args : Json) :
    (outcomeProgress (executePipeCommand router metadata fence executionFailed fenceFailed progress
      command label args)).executed = progress.executed ++ [(command, args)] := by
  unfold executePipeCommand
  simp only
  cases router.execute (progress.executed ++ [(command, args)]) with
  | error => rfl
  | ok data =>
    cases checked : fence data with
    | error | ok =>
      simp only [checked]
      rfl

end Rub
