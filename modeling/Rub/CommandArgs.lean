import Rub.Locator

/-!
The argument structs of the commands that have a semantic replay projection, with the
decoders that accept them, and the wait condition that a command may end with.
-/

namespace Rub

open Json Serde

def frameOverrideOf (orchestration : Option Json) : Option String :=
  trimmedText ((orchestration.bind fun value => value.get "frame_id").bind asStr)

def orchestrationFrameOverride (args : Json) : Option String :=
  frameOverrideOf (args.get "_orchestration")

def semanticReplayOrchestrationMetadata (args : Json) : Option Json :=
  (orchestrationFrameOverride args).map fun frameId =>
    object [("frame_id", string frameId)]

inductive LoadStrategy where
  | load | domContentLoaded | networkIdle
  deriving DecidableEq

def LoadStrategy.name : LoadStrategy → String
  | .load => "load"
  | .domContentLoaded => "domcontentloaded"
  | .networkIdle => "networkidle"

inductive ScrollDirection where
  | up | down
  deriving DecidableEq

def ScrollDirection.name : ScrollDirection → String
  | .up => "up"
  | .down => "down"

inductive ClickGesture where
  | single | double | right
  deriving DecidableEq

def ClickGesture.name : ClickGesture → String
  | .single => "single"
  | .double => "double"
  | .right => "right"

/-- The choice of a given name among finitely many. -/
def choiceNamed {α : Type} (choices : List α) (name : α → String) (value : String) : Option α :=
  choices.find? fun choice => name choice == value

/-- An optional argument that names a choice; any other name is refused. -/
def parseChoice {α : Type} (choices : List α) (name : α → String) (fallback : α)
    (refusal : String → String) (value : Option String) : Except ErrorEnvelope α :=
  match value with
  | none => .ok fallback
  | some value =>
    match choiceNamed choices name value with
    | some choice => .ok choice
    | none => .error (invalidInput (refusal value))

def parseOptionalLoadStrategy (value : Option String) (name : String) :
    Except ErrorEnvelope LoadStrategy :=
  parseChoice [.load, .domContentLoaded, .networkIdle] LoadStrategy.name .load
    (fun value => "Invalid " ++ name ++ " '" ++ value ++
      "'; expected one of: load, domcontentloaded, networkidle") value

def parseOptionalScrollDirection (value : Option String) (name : String) :
    Except ErrorEnvelope ScrollDirection :=
  parseChoice [.up, .down] ScrollDirection.name .down
    (fun value => "Invalid " ++ name ++ " '" ++ value ++ "'; expected one of: up, down") value

def requestedClickGesture (gesture : Option String) : Except ErrorEnvelope ClickGesture :=
  parseChoice [.single, .double, .right] ClickGesture.name .single
    (fun other => "Unsupported click gesture: " ++ other) gesture

structure WaitProbeArgs where
  text : Option String
  descriptionContains : Option String
  urlContains : Option String
  titleContains : Option String
  state : Option String
  timeoutMs : Option Nat
  locator : LocatorRequestArgs

inductive WaitState where
  | visible | hidden | attached | detached | interactable
  deriving DecidableEq

def WaitState.name : WaitState → String
  | .visible => "visible"
  | .hidden => "hidden"
  | .attached => "attached"
  | .detached => "detached"
  | .interactable => "interactable"

inductive WaitKind where
  | locator (locator : CanonicalLocator) (state : WaitState)
  | locatorDescriptionContains (locator : CanonicalLocator) (value : String)
  | text (text : String)
  | urlContains (value : String)
  | titleContains (value : String)

structure WaitCondition where
  kind : WaitKind
  timeoutMs : Nat
  frameId : Option String

def waitProbeDecode (args : Json) : Option WaitProbeArgs := do
  let fields ← flatFields
    (["text", "description_contains", "url_contains", "title_contains", "state", "timeout_ms"] ++
      LocatorRequestArgs.fieldNames) args
  let text ← Serde.optional asStr (fields "text")
  let descriptionContains ← Serde.optional asStr (fields "description_contains")
  let urlContains ← Serde.optional asStr (fields "url_contains")
  let titleContains ← Serde.optional asStr (fields "title_contains")
  let state ← Serde.optional asStr (fields "state")
  let timeoutMs ← Serde.optional asU64 (fields "timeout_ms")
  let locator ← LocatorRequestArgs.decode fields
  pure { text, descriptionContains, urlContains, titleContains, state, timeoutMs, locator }

def waitProbeArgs (serde : SerdeJson) (args : Json) : Except ErrorEnvelope WaitProbeArgs :=
  if args.isObject then
    let normalized := match args.get "element_ref", args.get "ref" with
      | none, some value => args.insert "element_ref" value
      | _, _ => args
    match waitProbeDecode normalized with
    | some probe => .ok probe
    | none => .error (invalidInput
        ("Invalid wait payload: " ++ serde.rejection "WaitProbeArgs" normalized))
  else .error (invalidInput "wait expects a JSON object")

def parseWaitState (state : Option String) : Except ErrorEnvelope WaitState :=
  parseChoice [.visible, .hidden, .attached, .detached, .interactable] WaitState.name .visible
    (fun other => "Invalid wait state: '" ++ other ++
      "'. Valid: visible, hidden, attached, detached, interactable") state

def parseWaitCondition (serde : SerdeJson) (args : Json) (defaultTimeoutMs : Nat) :
    Except ErrorEnvelope WaitCondition := do
  let parsed ← waitProbeArgs serde args
  let timeoutMs := parsed.timeoutMs.getD defaultTimeoutMs
  let state ← parseWaitState parsed.state
  let locator ← parseCanonicalLocator parsed.locator.json .optionalWait
  let pageProbeCount := parsed.text.isSome.toNat + parsed.urlContains.isSome.toNat +
    parsed.titleContains.isSome.toNat
  if pageProbeCount > 1 then
    throw (invalidInput ("Wait probe is ambiguous: provide only one of text, url_contains, " ++
      "or title_contains"))
  else if locator.isSome && pageProbeCount > 0 then
    throw (invalidInput ("Wait probe is ambiguous: provide either a page-level probe or a " ++
      "single locator, not both"))
  else if parsed.descriptionContains.isSome && locator.isNone then
    throw (invalidInput ("Wait probe `description_contains` requires exactly one locator such " ++
      "as label or selector"))
  else if locator.isNone && pageProbeCount == 0 then
    throw (invalidInput ("Missing required wait probe: selector, target_text, role, label, " ++
      "testid, text, description_contains, url_contains, or title_contains"))
  else if pageProbeCount > 0 && parsed.locator.hasSelection then
    throw (invalidInput "Match selection is not supported for page-level waits")
  else
    let kind ← match locator, parsed.descriptionContains, parsed.text, parsed.urlContains,
        parsed.titleContains with
      | some locator, some value, _, _, _ =>
        pure (WaitKind.locatorDescriptionContains locator value)
      | some locator, none, _, _, _ => pure (WaitKind.locator locator state)
      | none, _, some text, _, _ => pure (WaitKind.text text)
      | none, _, none, some value, _ => pure (WaitKind.urlContains value)
      | none, _, none, none, some value => pure (WaitKind.titleContains value)
      | none, _, none, none, none => throw (invalidInput "Missing required wait probe")
    pure { kind := kind, timeoutMs := timeoutMs, frameId := none }

def waitKindUsesSelectedFrame : WaitKind → Bool
  | .locator _ _ => true
  | .locatorDescriptionContains _ _ => true
  | _ => false

def defaultWaitAfterTimeoutMs : Nat := 5000

/-- Whether the post-action wait of these arguments runs in the effective frame. -/
def waitAfterUsesFrame (serde : SerdeJson) (args : Json) : Bool :=
  match args.get "wait_after" with
  | none => false
  | some waitAfter =>
    match parseWaitCondition serde waitAfter defaultWaitAfterTimeoutMs with
    | .ok condition => waitKindUsesSelectedFrame condition.kind
    | .error _ => false

def optionalValue (field : Option Json) : Option (Option Json) := Serde.optional some field

/-- The last fields of every command that goes to a page. -/
structure PageArgs where
  waitAfter : Option Json
  trigger : Option Json
  orchestration : Option Json

def PageArgs.fieldNames : List String := ["wait_after", "_trigger", "_orchestration"]

def PageArgs.decode (fields : String → Option Json) : Option PageArgs := do
  let waitAfter ← optionalValue (fields "wait_after")
  let trigger ← optionalValue (fields "_trigger")
  let orchestration ← optionalValue (fields "_orchestration")
  pure { waitAfter, trigger, orchestration }

structure OpenArgs extends PageArgs where
  url : String
  loadStrategy : Option String

def OpenArgs.decode (args : Json) : Option OpenArgs := do
  let fields ← structFields 1 (["url", "load_strategy"] ++ PageArgs.fieldNames) args
  let url ← required asStr (fields "url")
  let loadStrategy ← Serde.optional asStr (fields "load_strategy")
  let page ← PageArgs.decode fields
  pure { page with url, loadStrategy }

structure ReloadArgs extends PageArgs where
  loadStrategy : Option String

def ReloadArgs.decode (args : Json) : Option ReloadArgs := do
  let fields ← structFields 0 ("load_strategy" :: PageArgs.fieldNames) args
  let loadStrategy ← Serde.optional asStr (fields "load_strategy")
  let page ← PageArgs.decode fields
  pure { page with loadStrategy }

structure SwitchArgs extends PageArgs where
  index : Nat

def SwitchArgs.decode (args : Json) : Option SwitchArgs := do
  let fields ← structFields 1 ("index" :: PageArgs.fieldNames) args
  let index ← required u32 (fields "index")
  let page ← PageArgs.decode fields
  pure { page with index }

structure CloseTabArgs where
  index : Option Nat
  orchestration : Option Json

def CloseTabArgs.decode (args : Json) : Option CloseTabArgs := do
  let fields ← structFields 0 ["index", "_orchestration"] args
  let index ← Serde.optional u32 (fields "index")
  let orchestration ← optionalValue (fields "_orchestration")
  pure { index, orchestration }

structure ScrollArgs where
  direction : Option String
  amount : Option Nat
  orchestration : Option Json

def ScrollArgs.decode (args : Json) : Option ScrollArgs := do
  let fields ← structFields 0 ["direction", "amount", "_orchestration"] args
  let direction ← Serde.optional asStr (fields "direction")
  let amount ← Serde.optional u32 (fields "amount")
  let orchestration ← optionalValue (fields "_orchestration")
  pure { direction, amount, orchestration }

structure ScreenshotArgs where
  full : Bool
  highlight : Bool
  path : Option String
  pathState : Option Json
  orchestration : Option Json

def ScreenshotArgs.decode (args : Json) : Option ScreenshotArgs := do
  let fields ← structFields 0
    ["full", "highlight", "path", "path_state", "_orchestration"] args
  let full ← flag (fields "full")
  let highlight ← flag (fields "highlight")
  let path ← Serde.optional asStr (fields "path")
  let pathState ← optionalValue (fields "path_state")
  let orchestration ← optionalValue (fields "_orchestration")
  pure { full, highlight, path, pathState, orchestration }

/-- The observation fields that `state` and `observe` decode and then read raw. -/
def observationFieldNames : List String :=
  ["compact", "depth", "scope", "scope_selector", "scope_role", "scope_label", "scope_testid",
    "scope_first", "scope_last", "scope_nth"]

/-- Whether the observation fields have the types the structs declare. -/
def observationFieldsDecode (fields : String → Option Json) : Option Unit := do
  let _ ← flag (fields "compact")
  let _ ← Serde.optional asU64 (fields "depth")
  let _ ← Serde.optional asStr (fields "scope_selector")
  let _ ← Serde.optional asStr (fields "scope_role")
  let _ ← Serde.optional asStr (fields "scope_label")
  let _ ← Serde.optional asStr (fields "scope_testid")
  let _ ← flag (fields "scope_first")
  let _ ← flag (fields "scope_last")
  let _ ← Serde.optional asU64 (fields "scope_nth")
  pure ()

structure StateArgs where
  limit : Option Nat
  format : Option String
  a11y : Bool
  viewport : Bool
  diff : Option String
  listeners : Bool
  orchestration : Option Json

def StateArgs.decode (args : Json) : Option StateArgs := do
  let fields ← structFields 0
    (["limit", "format", "a11y", "viewport", "diff", "listeners"] ++ observationFieldNames ++
      ["_orchestration"]) args
  let limit ← Serde.optional asU64 (fields "limit")
  let format ← Serde.optional asStr (fields "format")
  let a11y ← flag (fields "a11y")
  let viewport ← flag (fields "viewport")
  let diff ← Serde.optional asStr (fields "diff")
  let listeners ← flag (fields "listeners")
  observationFieldsDecode fields
  let orchestration ← optionalValue (fields "_orchestration")
  pure { limit, format, a11y, viewport, diff, listeners, orchestration }

structure ObserveArgs where
  full : Bool
  path : Option String
  pathState : Option Json
  limit : Option Nat
  orchestration : Option Json

def ObserveArgs.decode (args : Json) : Option ObserveArgs := do
  let fields ← structFields 0
    (["full", "path", "path_state", "limit"] ++ observationFieldNames ++ ["_orchestration"]) args
  let full ← flag (fields "full")
  let path ← Serde.optional asStr (fields "path")
  let pathState ← optionalValue (fields "path_state")
  let limit ← Serde.optional asU64 (fields "limit")
  observationFieldsDecode fields
  let orchestration ← optionalValue (fields "_orchestration")
  pure { full, path, pathState, limit, orchestration }

/-- A JSON number as a binary float. -/
def decodeFloat (serde : SerdeJson) (value : Json) : Option FloatText :=
  match value.tree with
  | .number (.float text) => some text
  | .number (.posInt magnitude) => some (serde.floatOfInt magnitude)
  | .number (.negInt magnitude) => some (serde.floatOfInt (-(magnitude + 1 : Nat)))
  | _ => none

/-- A pair of floats: an array of exactly two numbers. -/
def decodeFloatPair (serde : SerdeJson) (value : Json) : Option (FloatText × FloatText) :=
  match value.asArray with
  | some [x, y] => do
    let x ← decodeFloat serde x
    let y ← decodeFloat serde y
    pure (x, y)
  | _ => none

/-- The fields of every command that is addressed to an element. -/
structure AddressedArgs where
  waitAfter : Option Json
  snapshotId : Option String
  locator : LocatorRequestArgs
  orchestration : Option Json

namespace AddressedArgs

def fieldNames : List String :=
  ["wait_after", "snapshot_id", "_orchestration"] ++ LocatorRequestArgs.fieldNames

def decode (fields : String → Option Json) : Option AddressedArgs := do
  let waitAfter ← optionalValue (fields "wait_after")
  let snapshotId ← Serde.optional asStr (fields "snapshot_id")
  let locator ← LocatorRequestArgs.decode fields
  let orchestration ← optionalValue (fields "_orchestration")
  pure { waitAfter, snapshotId, locator, orchestration }

end AddressedArgs

structure ClickArgs extends AddressedArgs where
  gesture : Option String
  xy : Option (FloatText × FloatText)
  trigger : Option Json

def ClickArgs.decode (serde : SerdeJson) (args : Json) : Option ClickArgs := do
  let fields ← flatFields (["gesture", "xy", "_trigger"] ++ AddressedArgs.fieldNames) args
  let gesture ← Serde.optional asStr (fields "gesture")
  let xy ← Serde.optional (decodeFloatPair serde) (fields "xy")
  let trigger ← optionalValue (fields "_trigger")
  let addressed ← AddressedArgs.decode fields
  pure { addressed with gesture, xy, trigger }

structure KeysArgs where
  keys : String
  waitAfter : Option Json
  orchestration : Option Json

def KeysArgs.decode (args : Json) : Option KeysArgs := do
  let fields ← structFields 1 ["keys", "wait_after", "_orchestration"] args
  let keys ← required asStr (fields "keys")
  let waitAfter ← optionalValue (fields "wait_after")
  let orchestration ← optionalValue (fields "_orchestration")
  pure { keys, waitAfter, orchestration }

structure TextEntryArgs extends AddressedArgs where
  text : String
  clear : Bool
  trigger : Option Json

def TextEntryArgs.decode (args : Json) : Option TextEntryArgs := do
  let fields ← flatFields (["text", "clear", "_trigger"] ++ AddressedArgs.fieldNames) args
  let text ← required asStr (fields "text")
  let clear ← flag (fields "clear")
  let trigger ← optionalValue (fields "_trigger")
  let addressed ← AddressedArgs.decode fields
  pure { addressed with text, clear, trigger }

structure HoverArgs extends AddressedArgs

def HoverArgs.decode (args : Json) : Option HoverArgs := do
  let fields ← flatFields AddressedArgs.fieldNames args
  let addressed ← AddressedArgs.decode fields
  pure { addressed with }

structure UploadArgs extends AddressedArgs where
  path : String
  pathState : Option Json

def UploadArgs.decode (args : Json) : Option UploadArgs := do
  let fields ← flatFields (["path", "path_state"] ++ AddressedArgs.fieldNames) args
  let path ← required asStr (fields "path")
  let pathState ← optionalValue (fields "path_state")
  let addressed ← AddressedArgs.decode fields
  pure { addressed with path, pathState }

structure SelectArgs extends AddressedArgs where
  value : String

def SelectArgs.decode (args : Json) : Option SelectArgs := do
  let fields ← flatFields ("value" :: AddressedArgs.fieldNames) args
  let value ← required asStr (fields "value")
  let addressed ← AddressedArgs.decode fields
  pure { addressed with value }

inductive StorageCommand where
  | get (key : String) (area : Option String)
  | set (key value area : String)
  | remove (key : String) (area : Option String)
  | clear (area : Option String)
  | export (path : Option String)
  | import (path : String)
  deriving DecidableEq

/-- The struct that `get` and `remove` share. -/
def storageKeyDecode (args : Json) : Option (String × Option String) := do
  let fields ← structFields 2 ["sub", "key", "area", "_orchestration"] args
  let _ ← required asStr (fields "sub")
  let key ← required asStr (fields "key")
  let area ← Serde.optional asStr (fields "area")
  pure (key, area)

def storageSetDecode (args : Json) : Option (String × String × String) := do
  let fields ← structFields 4 ["sub", "key", "value", "area", "_orchestration"] args
  let _ ← required asStr (fields "sub")
  let key ← required asStr (fields "key")
  let value ← required asStr (fields "value")
  let area ← required asStr (fields "area")
  pure (key, value, area)

def storageClearDecode (args : Json) : Option (Option String) := do
  let fields ← structFields 1 ["sub", "area", "_orchestration"] args
  let _ ← required asStr (fields "sub")
  Serde.optional asStr (fields "area")

def storageExportDecode (args : Json) : Option (Option String) := do
  let fields ← structFields 1 ["sub", "path", "path_state", "_orchestration"] args
  let _ ← required asStr (fields "sub")
  Serde.optional asStr (fields "path")

def storageImportDecode (args : Json) : Option String := do
  let fields ← structFields 2 ["sub", "path", "path_state", "_orchestration"] args
  let _ ← required asStr (fields "sub")
  required asStr (fields "path")

/-- The subcommand is read from an object only, so an array of fields is an export. -/
def StorageCommand.parse (args : Json) : Option StorageCommand :=
  match (stringArg args "sub").getD "export" with
  | "get" => (storageKeyDecode args).map fun (key, area) => .get key area
  | "set" => (storageSetDecode args).map fun (key, value, area) => .set key value area
  | "remove" => (storageKeyDecode args).map fun (key, area) => .remove key area
  | "clear" => (storageClearDecode args).map .clear
  | "export" => (storageExportDecode args).map .export
  | "import" => (storageImportDecode args).map .import
  | _ => none

/-- A JSON value, or a text that parses to one. -/
def normalizedJsonSpec (serde : SerdeJson) (value : Json) : Option Json :=
  match value.asStr with
  | some text => serde.fromStr text
  | none => some value

structure SubmitLocatorArgs where
  index : Option Nat
  elementRef : Option String
  selector : Option String
  targetText : Option String
  role : Option String
  label : Option String
  testid : Option String
  first : Bool
  last : Bool
  nth : Option Nat
  deriving DecidableEq

namespace SubmitLocatorArgs

def fieldNames : List String :=
  ["submit_index", "submit_ref", "submit_selector", "submit_target_text", "submit_role",
    "submit_label", "submit_testid", "submit_first", "submit_last", "submit_nth"]

def decode (fields : String → Option Json) : Option SubmitLocatorArgs := do
  let index ← Serde.optional u32 (fields "submit_index")
  let elementRef ← Serde.optional asStr (fields "submit_ref")
  let selector ← Serde.optional asStr (fields "submit_selector")
  let targetText ← Serde.optional asStr (fields "submit_target_text")
  let role ← Serde.optional asStr (fields "submit_role")
  let label ← Serde.optional asStr (fields "submit_label")
  let testid ← Serde.optional asStr (fields "submit_testid")
  let first ← flag (fields "submit_first")
  let last ← flag (fields "submit_last")
  let nth ← Serde.optional u32 (fields "submit_nth")
  pure { index, elementRef, selector, targetText, role, label, testid, first, last, nth }

def locatorArgs (args : SubmitLocatorArgs) : LocatorRequestArgs :=
  { index := args.index, elementRef := args.elementRef, selector := args.selector,
    targetText := args.targetText, role := args.role, label := args.label, testid := args.testid,
    visible := false, preferEnabled := false, topmost := false, first := args.first,
    last := args.last, nth := args.nth }

end SubmitLocatorArgs

def LocatorSelection.json : LocatorSelection → String × Option Json
  | .first => ("first", some (Json.bool true))
  | .last => ("last", some (Json.bool true))
  | .nth index => ("nth", some (natural index))

/-- A located member with its match selection attached. -/
def locatedJson (name value : String) (selection : Option LocatorSelection) : Json :=
  present ((name, some (string value)) :: (selection.map LocatorSelection.json).toList)

def canonicalLocatorJson : CanonicalLocator → Json
  | .index index => present [("index", some (natural index))]
  | .ref elementRef => present [("element_ref", some (string elementRef))]
  | .selector css selection => locatedJson "selector" css selection
  | .targetText text selection => locatedJson "target_text" text selection
  | .role role selection => locatedJson "role" role selection
  | .label label selection => locatedJson "label" label selection
  | .testId testid selection => locatedJson "testid" testid selection

/-- The click that submits a filled form; a locator that does not parse is no submit. -/
def submitArgs (args : SubmitLocatorArgs) : Option Json :=
  if args.locatorArgs.isRequested then
    match parseCanonicalLocator args.locatorArgs.json .optionalElementAddress with
    | .ok locator => locator.map canonicalLocatorJson
    | .error _ => none
  else none

structure FillArgs where
  spec : Json
  specSource : Option Json
  atomic : Bool
  snapshotId : Option String
  trigger : Option Json
  orchestration : Option Json
  submit : SubmitLocatorArgs
  waitAfter : Option Json

def FillArgs.decode (serde : SerdeJson) (args : Json) : Option FillArgs := do
  let fields ← flatFields
    (["spec", "spec_source", "atomic", "snapshot_id", "_trigger", "_orchestration",
      "wait_after"] ++ SubmitLocatorArgs.fieldNames) args
  let spec ← required (normalizedJsonSpec serde) (fields "spec")
  let specSource ← optionalValue (fields "spec_source")
  let atomic ← flag (fields "atomic")
  let snapshotId ← Serde.optional asStr (fields "snapshot_id")
  let trigger ← optionalValue (fields "_trigger")
  let orchestration ← optionalValue (fields "_orchestration")
  let submit ← SubmitLocatorArgs.decode fields
  let waitAfter ← optionalValue (fields "wait_after")
  pure { spec, specSource, atomic, snapshotId, trigger, orchestration, submit, waitAfter }

structure PipeArgs where
  spec : Json
  specSource : Option Json
  trigger : Option Json
  orchestration : Option Json
  waitAfter : Option Json

def PipeArgs.decode (serde : SerdeJson) (args : Json) : Option PipeArgs := do
  let fields ← structFields 1
    ["spec", "spec_source", "_trigger", "_orchestration", "wait_after"] args
  let spec ← required (normalizedJsonSpec serde) (fields "spec")
  let specSource ← optionalValue (fields "spec_source")
  let trigger ← optionalValue (fields "_trigger")
  let orchestration ← optionalValue (fields "_orchestration")
  let waitAfter ← optionalValue (fields "wait_after")
  pure { spec, specSource, trigger, orchestration, waitAfter }

end Rub
