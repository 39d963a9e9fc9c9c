import Rub.PipeExecution
import Rub.TriggerRuntime

/-!
Workflow actions of trigger and orchestration rules: how they are validated when the rule is
registered, and how the workflow is put together when the rule fires. Its text is read from
a file or from the rule, its parameters are bound to texts of the rule and of the page, and
it is run as a pipe of the rule's kind.
-/

namespace Rub

open Json

/-- The members of an object in key order, and none of any other value. -/
def Json.entries (value : Json) : List (String × Json) :=
  value.keys.filterMap fun key => (value.get key).map fun member => (key, member)

def isValidParameterName (key : String) : Bool :=
  match key.toList with
  | [] => false
  | first :: rest => isSecretNameStart first && rest.all isSecretNameChar

/-- The parameter of a text that is exactly one in braces. -/
def parseWorkflowPlaceholder (text : String) : Option String :=
  if openBraces <+: text.toList ∧ closeBraces <:+ text.toList.drop 2 then
    let inner := trim (String.ofList (text.toList.drop 2).dropLast.dropLast)
    if isValidParameterName inner then some inner else none
  else none

structure WorkflowParameterization where
  resolvedSpec : String
  parameterKeys : List String

/-- A parsed object has each key once, so no binding is a duplicate. -/
def parseWorkflowJsonParameterBindings (vars : Json) : Except RubError (List (String × String)) :=
  vars.entries.mapM fun entry =>
    if isValidParameterName entry.1 then
      match entry.2.asStr with
      | some text => .ok (entry.1, text)
      | none =>
        .error (.invalidInput ("Workflow parameter '" ++ entry.1 ++
          "' must resolve to a string value"))
    else
      .error (.invalidInput ("Invalid workflow parameter name '" ++ entry.1 ++
        "'; use letters, digits, and underscores"))

/-- The leaf that a parameter leaf is replaced by. -/
def bindWorkflowText (parameters : List (String × String)) (text : String) : String :=
  match parseWorkflowPlaceholder text with
  | some name => (parameters.lookup name).getD text
  | none => text

/-- The names in increasing order, each once. -/
def sortedNames (names : List String) : List String :=
  List.insertionSort (fun left right => left ≤ right) names.dedup

def jsonText (value : Json) : String := String.ofList (canonicalJson value)

def resolveWorkflowBindingMap (serde : SerdeJson) (rawSpec : String)
    (parameters : List (String × String)) : Except RubError WorkflowParameterization :=
  match serde.fromStr rawSpec with
  | none =>
    .error (.invalidInput ("Invalid workflow JSON for parameterization: " ++
      serde.rejection rawSpec Json.null))
  | some spec =>
    let names := spec.leafTexts.filterMap parseWorkflowPlaceholder
    let missing := sortedNames (names.filter fun name => (parameters.lookup name).isNone)
    if missing ≠ [] then
      .error (.invalidInputWithContext
        ("Unresolved workflow parameter(s): " ++ ", ".intercalate missing)
        (object [("missing", array (missing.map string)),
          ("provided", array (parameters.map fun entry => string entry.1))]))
    else
      .ok { resolvedSpec := jsonText (spec.mapLeaves (bindWorkflowText parameters))
            parameterKeys :=
              sortedNames (names.filter fun name => (parameters.lookup name).isSome) }

inductive TriggerWorkflowSourceVarKind where
  | text | html | value | attr
  deriving DecidableEq

def LocatorParseOptions.liveOnly : LocatorParseOptions :=
  { requireLocator := true, allowIndex := false, allowRef := false }

structure TriggerWorkflowSourceVarSpec where
  kind : TriggerWorkflowSourceVarKind
  locator : CanonicalLocator
  attrName : Option String

def sourceVarPath (name : String) : String := "trigger workflow payload.source_vars." ++ name

def parseSourceVarKind (name : String) (spec : Json) :
    Except RubError TriggerWorkflowSourceVarKind :=
  match trimmedText ((spec.get "kind").bind asStr) with
  | some "text" => .ok .text
  | some "html" => .ok .html
  | some "value" => .ok .value
  | some "attribute" => .ok .attr
  | some other =>
    .error (.invalidInput ("Unsupported " ++ sourceVarPath name ++ ".kind '" ++ other ++
      "'; use 'text', 'html', 'value', or 'attribute'"))
  | none => .error (.invalidInput (sourceVarPath name ++ " requires a non-empty kind field"))

def parseSourceVar (name : String) (spec : Json) :
    Except RubError (String × TriggerWorkflowSourceVarSpec) := do
  if spec.isObject = false then
    throw (.invalidInput (sourceVarPath name ++ " must be a JSON object"))
  let kind ← parseSourceVarKind name spec
  let locator ← (parseCanonicalLocator spec .liveOnly).mapError RubError.domain
  let attrName := trimmedText ((spec.get "attribute").bind asStr)
  match locator with
  | none => throw (.invalidInput (sourceVarPath name ++ " requires a live locator"))
  | some locator =>
    if kind = .attr ∧ attrName = none then
      throw (.invalidInput (sourceVarPath name ++
        " kind='attribute' requires a non-empty attribute field"))
    else if kind ≠ .attr ∧ attrName ≠ none then
      throw (.invalidInput (sourceVarPath name ++
        " only supports the attribute field when kind='attribute'"))
    else pure (name, { kind, locator, attrName })

def parseTriggerWorkflowSourceVars (payload : Json) :
    Except RubError (List (String × TriggerWorkflowSourceVarSpec)) :=
  match payload.get "source_vars" with
  | none => .ok []
  | some sourceVars =>
    if sourceVars.isObject then sourceVars.entries.mapM fun entry => parseSourceVar entry.1 entry.2
    else
      .error (.invalidInput ("trigger workflow payload.source_vars must be a JSON object of " ++
        "source-bound variable specs"))

/-- The texts the rule binds itself. -/
def explicitBindings (payload : Json) : Except RubError (List (String × String)) :=
  match (payload.get "vars").filter isObject with
  | none => .ok []
  | some vars => parseWorkflowJsonParameterBindings vars

def validateTriggerWorkflowBindings (payload : Json) : Except RubError Unit := do
  let explicit ← explicitBindings payload
  let source ← parseTriggerWorkflowSourceVars payload
  let duplicates := (explicit.map Prod.fst).filter fun name => name ∈ source.map Prod.fst
  if duplicates ≠ [] then
    throw (.invalidInputWithContext
      ("trigger workflow payload duplicates variable bindings across " ++
        "payload.vars and payload.source_vars: " ++ ", ".intercalate duplicates)
      (object [("duplicates", array (duplicates.map string))]))

def rejectReservedTriggerMetadataKeys (payload : Json) : Except RubError Unit :=
  ["_trigger", "_orchestration"].forM fun key =>
    if (payload.get key).isSome then
      .error (.invalidInput ("trigger action payload must not include reserved internal " ++
        "metadata key '" ++ key ++ "'"))
    else .ok ()

def validateWorkflowVars (vars : Json) : Except RubError Unit :=
  if vars.isObject then
    vars.entries.forM fun entry =>
      if isValidParameterName entry.1 = false then
        .error (.invalidInput ("Invalid trigger workflow var '" ++ entry.1 ++
          "'; use letters, digits, and underscores"))
      else if entry.2.asStr.isNone then
        .error (.invalidInput ("trigger workflow var '" ++ entry.1 ++ "' must be a string value"))
      else .ok ()
  else
    .error (.invalidInput "trigger workflow payload.vars must be a JSON object of string bindings")

/-- The check of one inline step. A step without a command text is left to the pipe. -/
def validateInlineStep (index : Nat) (step : Json) : Except RubError Unit :=
  match trimmedText ((step.get "command").bind asStr) with
  | none => .ok ()
  | some command =>
    if triggerWorkflowRequestAllowed command (Json.optional (step.get "args")) then .ok ()
    else
      .error (.invalidInputWithContext
        ("trigger workflow step command '" ++ command ++ "' is not supported")
        (object [("reason", string "trigger_workflow_step_not_supported"),
          ("step_index", natural index), ("command", string command),
          ("allowed_commands",
            array (triggerWorkflowAllowedStepDescriptions.map string))]))

def validateInlineTriggerWorkflowSteps (payload : Json) : Except RubError Unit :=
  match (payload.get "steps").bind asArray with
  | none => .ok ()
  | some steps => steps.zipIdx.forM fun step => validateInlineStep step.2 step.1

/-- The path separators and parent links a workflow name must not have. -/
def normalizeWorkflowName (name : String) : Except RubError String :=
  let trimmed := dropSuffixes (trim name).toList.length (trim name).toList
  if trimmed = [] then .error (.invalidInput "Workflow name cannot be empty")
  else if '/' ∈ trimmed ∨ '\\' ∈ trimmed ∨ ['.', '.'] <:+: trimmed then
    .error (.invalidInput ("Invalid workflow name '" ++ name ++ "'"))
  else if trimmed.all fun c => c.isAlphanum || c == '_' || c == '-' then .ok (String.ofList trimmed)
  else
    .error (.invalidInput ("Invalid workflow name '" ++ name ++
      "'; use letters, digits, underscores, and dashes"))
where
  /-- `trim_end_matches(".json")`: the suffix is taken off as often as it is there. -/
  dropSuffixes : Nat → List Char → List Char
    | 0, text => text
    | turns + 1, text =>
      if ".json".toList <:+ text then dropSuffixes turns (text.take (text.length - 5)) else text

def hasWorkflowName (payload : Json) : Bool :=
  (trimmedText ((payload.get "workflow_name").bind asStr)).isSome

def hasInlineSteps (payload : Json) : Bool :=
  match (payload.get "steps").bind asArray with
  | none => false
  | some steps => !steps.isEmpty

def validateGivenVars (payload : Json) : Except RubError Unit :=
  match payload.get "vars" with
  | some vars => validateWorkflowVars vars
  | none => .ok ()

def validateWorkflowPayload (payload : Json) : Except RubError Json := do
  rejectReservedTriggerMetadataKeys payload
  validateGivenVars payload
  validateTriggerWorkflowBindings payload
  validateInlineTriggerWorkflowSteps payload
  match hasWorkflowName payload, hasInlineSteps payload with
  | true, false =>
    let normalized ← normalizeWorkflowName (((payload.get "workflow_name").bind asStr).getD "")
    pure (payload.insert "workflow_name" (string normalized))
  | false, true => pure payload
  | true, true =>
    throw (.invalidInput ("trigger workflow payload must provide exactly one of " ++
      "payload.workflow_name or payload.steps"))
  | false, false =>
    throw (.invalidInput ("trigger workflow payload requires non-empty payload.workflow_name " ++
      "or payload.steps"))

def validateWorkflowTriggerAction (action : TriggerActionSpec) :
    Except RubError TriggerActionSpec := do
  if action.command.isSome then
    throw (.invalidInput ("trigger workflow action must not set action.command; encode workflow " ++
      "source in action.payload"))
  match action.payload with
  | none => throw (.invalidInput "trigger workflow action requires action.payload")
  | some payload =>
    if payload.isObject = false then
      throw (.invalidInput "trigger workflow payload must be a JSON object")
    let validated ← validateWorkflowPayload payload
    pure { action with payload := some validated }

def browserTriggerCommandAllowed (command : String) : Bool :=
  command ∈ ["click", "type", "fill", "open", "reload"]

def validateBrowserCommandTriggerAction (action : TriggerActionSpec) :
    Except RubError TriggerActionSpec :=
  match trimmedText action.command with
  | none => .error (.invalidInput "trigger requires non-empty action.command")
  | some command =>
    if browserTriggerCommandAllowed command then
      match action.payload with
      | none => .ok { action with payload := some (object []) }
      | some payload =>
        if payload.isObject then
          (rejectReservedTriggerMetadataKeys payload).map fun _ => action
        else .error (.invalidInput "trigger browser_command payload must be a JSON object")
    else
      .error (.invalidInput ("trigger browser_command '" ++ command ++
        "' is not supported in V1; use one of: click, type, fill, open, reload"))

def validateTriggerAction (action : TriggerActionSpec) : Except RubError TriggerActionSpec :=
  match action.kind with
  | .browserCommand => validateBrowserCommandTriggerAction action
  | .workflow => validateWorkflowTriggerAction action
  | .provider | .script | .webhook =>
    .error (.invalidInput ("trigger currently supports action.kind='browser_command' or " ++
      "'workflow'; provider/script/webhook remain future slices"))

/-- Whose action a workflow is. -/
inductive WorkflowOwner where
  | trigger | orchestration
  deriving DecidableEq

def WorkflowOwner.label : WorkflowOwner → String
  | .trigger => "trigger"
  | .orchestration => "orchestration"

/-- How the owner names the kinds of its workflow sources. -/
def WorkflowOwner.namedKind : WorkflowOwner → String
  | .trigger => "workflow"
  | .orchestration => "orchestration_workflow"

def WorkflowOwner.inlineKind : WorkflowOwner → String
  | .trigger => "trigger_inline_workflow"
  | .orchestration => "orchestration_inline_workflow"

/-- The daemon around a firing rule: its files, and the page the source variables are read
from. -/
structure WorkflowHost where
  router : PipeRouter
  workflowFile : String → Except RubError String
  workflowPath : String → String
  querySource : TriggerWorkflowSourceVarSpec → Except RubError String

def workflowAssetPathState (owner : WorkflowOwner) : Json :=
  object [("truth_level", string "input_path_reference"),
    ("path_authority", string (owner.label ++ ".workflow.spec_source.path")),
    ("upstream_truth", string (owner.label ++ "_workflow_payload.workflow_name")),
    ("path_kind", string "workflow_asset_reference"),
    ("control_role", string "display_only")]

/-- The text of the workflow and where it comes from. -/
def resolveWorkflowSpec (host : WorkflowHost) (owner : WorkflowOwner) (payload : Json) :
    Except RubError (String × Json) :=
  match (payload.get "workflow_name").bind asStr, payload.get "steps" with
  | some name, none => do
    let normalized ← normalizeWorkflowName name
    let contents ← host.workflowFile normalized
    pure (contents, object [("kind", string owner.namedKind),
      ("name", string normalized), ("path", string (host.workflowPath normalized)),
      ("path_state", workflowAssetPathState owner)])
  | some _, some _ =>
    .error (.invalidInput (owner.label ++ " workflow payload must provide exactly one of " ++
      "payload.workflow_name or payload.steps"))
  | none, steps =>
    match steps.bind asArray with
    | some items =>
      .ok (jsonText (Json.optional steps), object
        [("kind", string owner.inlineKind), ("step_count", natural items.length)])
    | none =>
      .error (.invalidInput (owner.label ++ " workflow payload requires non-empty " ++
        "payload.workflow_name or payload.steps"))

/-- The texts the page binds. -/
def resolveSourceVarBindings (host : WorkflowHost) (payload : Json) :
    Except RubError (List (String × String)) := do
  let sourceVars ← parseTriggerWorkflowSourceVars payload
  sourceVars.mapM fun entry => (host.querySource entry.2).map fun value => (entry.1, value)

def workflowBindings (host : WorkflowHost) (owner : WorkflowOwner) (payload : Json) :
    Except RubError (List (String × String)) := do
  let explicit ← explicitBindings payload
  let source ← resolveSourceVarBindings host payload
  match source.find? fun entry => (explicit.lookup entry.1).isSome with
  | some entry =>
    throw (.invalidInput (owner.label ++ " workflow parameter '" ++ entry.1 ++
      "' is defined by both payload.vars and payload.source_vars"))
  | none => pure (explicit ++ source)

def applyTriggerFrameOverride (args : Json) (frameId : Option String) : Json :=
  match frameId with
  | none => args
  | some frameId =>
    let own := ((args.get "_orchestration").filter isObject).getD (object [])
    args.insert "_orchestration" (own.insert "frame_id" (string frameId))

/-- The rule that fires, as far as its workflow's request carries it. -/
structure FiringRule where
  owner : WorkflowOwner
  requestMeta : Json
  targetFrameId : Option String

/-- The request the workflow is sent as: its arguments, under the owner's policy. A trigger
sends the text of the spec, an orchestration its value. -/
def workflowRequestArgs (host : WorkflowHost) (rule : FiringRule) (payload : Json) :
    Except RubError Json := do
  let (rawSpec, specSource) ← resolveWorkflowSpec host rule.owner payload
  let bindings ← workflowBindings host rule.owner payload
  let parameterized ← resolveWorkflowBindingMap host.router.serde rawSpec bindings
  let specSource := specSource.insert "vars"
    (array (parameterized.parameterKeys.map string))
  match rule.owner with
  | .trigger =>
    pure (applyTriggerFrameOverride (object [
      ("spec", string parameterized.resolvedSpec), ("spec_source", specSource),
      ("_trigger", rule.requestMeta)]) rule.targetFrameId)
  | .orchestration =>
    let sourceKeys := (← resolveSourceVarBindings host payload).map Prod.fst
    let specSource := if sourceKeys = [] then specSource else
      specSource.insert "source_vars" (array (sourceKeys.map string))
    match host.router.serde.fromStr parameterized.resolvedSpec with
    | none =>
      throw (.invalidInput ("Invalid JSON spec for 'pipe': " ++
        host.router.serde.rejection parameterized.resolvedSpec Json.null))
    | some spec =>
      pure (object [("spec", spec), ("spec_source", specSource),
        ("_orchestration", rule.requestMeta)])

def fireWorkflowAction (host : WorkflowHost) (rule : FiringRule) (payload : Json) : PipeRun :=
  match workflowRequestArgs host rule payload with
  | .error error => ⟨.initial, .error error⟩
  | .ok args =>
    match rule.owner with
    | .trigger => cmdTriggerPipe host.router args
    | .orchestration => cmdPipe host.router args

end Rub
