import Rub.CanonicalJson
import Rub.CommandArgs

/-!
The replay fingerprint of a request: its command, a separator, and the canonical text of
the arguments that the command's replay projection keeps. A command without a projection,
and arguments its projection refuses, keep all their fields but the deadline ones.
-/

namespace Rub

open Json

variable (serde : SerdeJson)

/-- The raw values of the observation fields, kept where they are given. -/
def observationFields (args : Json) : List (String × Option Json) :=
  observationFieldNames.map fun name => (name, args.get name)

def openReplayArgs (args : Json) : Option Json := do
  let parsed ← OpenArgs.decode args
  let strategy ← (parseOptionalLoadStrategy parsed.loadStrategy "load_strategy").toOption
  pure (present
    [("url", some (string parsed.url)),
      ("load_strategy", some (string strategy.name)),
      ("wait_after", some (Json.optional (args.get "wait_after")))])

def stateReplayArgs (args : Json) : Option Json := do
  let parsed ← StateArgs.decode args
  pure (present
    ([("limit", some (optionalNumber parsed.limit)),
      ("format", some (optionalText parsed.format)),
      ("a11y", some (Json.bool parsed.a11y)),
      ("viewport", some (Json.bool parsed.viewport)),
      ("diff", some (optionalText parsed.diff)),
      ("listeners", some (Json.bool parsed.listeners))] ++ observationFields args ++
      [("_orchestration", semanticReplayOrchestrationMetadata args)]))

def scrollReplayArgs (args : Json) : Option Json := do
  let parsed ← ScrollArgs.decode args
  let direction ← (parseOptionalScrollDirection parsed.direction "direction").toOption
  pure (present
    [("direction", some (string direction.name)),
      ("amount", some (optionalNumber parsed.amount))])

def reloadReplayArgs (args : Json) : Option Json := do
  let parsed ← ReloadArgs.decode args
  let strategy ← (parseOptionalLoadStrategy parsed.loadStrategy "load_strategy").toOption
  pure (present
    [("load_strategy", some (string strategy.name)),
      ("wait_after", some (Json.optional (args.get "wait_after")))])

def screenshotReplayArgs (args : Json) : Option Json := do
  let parsed ← ScreenshotArgs.decode args
  pure (present
    [("full", some (Json.bool parsed.full)), ("highlight", some (Json.bool parsed.highlight)),
      ("path", some (optionalText parsed.path))])

def switchReplayArgs (args : Json) : Option Json := do
  let parsed ← SwitchArgs.decode args
  pure (present
    [("index", some (natural parsed.index)),
      ("wait_after", some (Json.optional (args.get "wait_after")))])

def closeTabReplayArgs (args : Json) : Option Json := do
  let parsed ← CloseTabArgs.decode args
  pure (present [("index", some (optionalNumber parsed.index))])

def navigationReplayArgs (command : String) (args : Json) : Option Json :=
  match command with
  | "open" => openReplayArgs args
  | "state" => stateReplayArgs args
  | "scroll" => scrollReplayArgs args
  | "reload" => reloadReplayArgs args
  | "screenshot" => screenshotReplayArgs args
  | "switch" => switchReplayArgs args
  | "close-tab" => closeTabReplayArgs args
  | _ => none

/-- The members every addressed interaction keeps: its locator, and the raw snapshot id,
frame and wait where they are given. -/
def addressedFields (locator : LocatorRequestArgs) (args : Json) : List (String × Option Json) :=
  locator.jsonFields ++
    [("snapshot_id", args.get "snapshot_id"), ("wait_after", args.get "wait_after"),
      ("_orchestration", semanticReplayOrchestrationMetadata args)]

/-- The names of those members. -/
def addressedNames : List String :=
  ["index", "element_ref", "selector", "target_text", "role", "label", "testid", "visible",
    "prefer_enabled", "topmost", "first", "last", "nth", "snapshot_id", "wait_after",
    "_orchestration"]

def floatPairJson (pair : FloatText × FloatText) : Json :=
  array [number (.float pair.1), number (.float pair.2)]

def clickReplayArgs (args : Json) : Option Json := do
  let parsed ← ClickArgs.decode serde args
  let gesture ← (requestedClickGesture parsed.gesture).toOption
  match parsed.xy with
  | some xy =>
    pure (present
      [("gesture", some (string gesture.name)), ("xy", some (floatPairJson xy)),
        ("wait_after", args.get "wait_after")])
  | none =>
    pure (present
      (("gesture", some (string gesture.name)) :: addressedFields parsed.locator args))

def keysReplayArgs (args : Json) : Option Json := do
  let parsed ← KeysArgs.decode args
  pure (present
    [("keys", some (string parsed.keys)), ("wait_after", args.get "wait_after"),
      ("_orchestration", semanticReplayOrchestrationMetadata args)])

def typeReplayArgs (args : Json) : Option Json := do
  let parsed ← TextEntryArgs.decode args
  pure (present
    (("text", some (string parsed.text)) :: ("clear", some (Json.bool parsed.clear)) ::
      addressedFields parsed.locator args))

def hoverReplayArgs (args : Json) : Option Json := do
  let parsed ← HoverArgs.decode args
  pure (present (addressedFields parsed.locator args))

def uploadReplayArgs (args : Json) : Option Json := do
  let parsed ← UploadArgs.decode args
  pure (present
    (("path", some (string parsed.path)) :: addressedFields parsed.locator args))

def selectReplayArgs (args : Json) : Option Json := do
  let parsed ← SelectArgs.decode args
  pure (present
    (("value", some (string parsed.value)) :: addressedFields parsed.locator args))

def interactionReplayArgs (command : String) (args : Json) : Option Json :=
  match command with
  | "click" => clickReplayArgs serde args
  | "keys" => keysReplayArgs args
  | "type" => typeReplayArgs args
  | "hover" => hoverReplayArgs args
  | "upload" => uploadReplayArgs args
  | "select" => selectReplayArgs args
  | _ => none

def observeReplayArgs (args : Json) : Option Json := do
  let parsed ← ObserveArgs.decode args
  pure (present
    ([("full", some (Json.bool parsed.full)), ("path", some (optionalText parsed.path)),
      ("limit", some (optionalNumber parsed.limit))] ++ observationFields args ++
      [("_orchestration", semanticReplayOrchestrationMetadata args)]))

/-- The subcommand of a storage request with the arguments it takes. -/
def StorageCommand.jsonFields : StorageCommand → List (String × Option Json)
  | .get key area =>
    [("sub", some (string "get")), ("key", some (string key)),
      ("area", some (optionalText area))]
  | .set key value area =>
    [("sub", some (string "set")), ("key", some (string key)),
      ("value", some (string value)), ("area", some (string area))]
  | .remove key area =>
    [("sub", some (string "remove")), ("key", some (string key)),
      ("area", some (optionalText area))]
  | .clear area => [("sub", some (string "clear")), ("area", some (optionalText area))]
  | .export path => [("sub", some (string "export")), ("path", some (optionalText path))]
  | .import path => [("sub", some (string "import")), ("path", some (string path))]

def storageReplayArgs (args : Json) : Option Json := do
  let command ← StorageCommand.parse args
  pure (present
    (command.jsonFields ++ [("_orchestration", semanticReplayOrchestrationMetadata args)]))

def fillReplayArgs (args : Json) : Option Json := do
  let parsed ← FillArgs.decode serde args
  pure (present
    [("spec", some parsed.spec), ("atomic", some (Json.bool parsed.atomic)),
      ("snapshot_id", parsed.snapshotId.map string),
      ("wait_after", args.get "wait_after"), ("submit", submitArgs parsed.submit),
      ("_orchestration", semanticReplayOrchestrationMetadata args)])

def pipeReplayArgs (args : Json) : Option Json := do
  let parsed ← PipeArgs.decode serde args
  pure (present
    [("spec", some parsed.spec), ("wait_after", args.get "wait_after"),
      ("_orchestration", semanticReplayOrchestrationMetadata args)])

def workflowReplayArgs (command : String) (args : Json) : Option Json :=
  match command with
  | "fill" | "_trigger_fill" => fillReplayArgs serde args
  | "pipe" | "_trigger_pipe" => pipeReplayArgs serde args
  | _ => none

def scrubDeadlineProjectedTimeoutAuthority (args : Json) : Json :=
  (args.remove "timeout_ms").remove "wait_timeout_ms"

/-- The projection of a command that carries no request of its own. -/
def directReplayArgs (command : String) (args : Json) : Json :=
  ((navigationReplayArgs command args).or
    ((interactionReplayArgs serde command args).or
      (match command with
        | "observe" => observeReplayArgs args
        | "storage" => storageReplayArgs args
        | "fill" | "_trigger_fill" | "pipe" | "_trigger_pipe" =>
          workflowReplayArgs serde command args
        | _ => none))).getD (scrubDeadlineProjectedTimeoutAuthority args)

def targetDispatchParts (args : Json) : Option (Json × IpcRequest) := do
  let target ← args.get "target"
  let request ← (args.get "request").bind IpcRequest.fromValueStrict
  pure (target, request)

def targetDispatchJson (target : Json) (command : String) (args : Json) : Json :=
  object
    [("target", object
        [("session_id", Json.optional (target.get "session_id")),
          ("tab_target_id", Json.optional (target.get "tab_target_id")),
          ("frame_id", Json.optional (target.get "frame_id"))]),
      ("request", object [("command", string command), ("args", args)])]

/-- The projection with a bound on how deep target dispatches may nest. -/
def semanticReplayArgsWithin : Nat → String → Json → Json
  | 0, command, args => directReplayArgs serde command args
  | fuel + 1, command, args =>
    if command = "_orchestration_target_dispatch" then
      match targetDispatchParts args with
      | some (target, request) =>
        targetDispatchJson target request.command
          (semanticReplayArgsWithin fuel request.command request.args)
      | none => directReplayArgs serde command args
    else directReplayArgs serde command args

/-- A carried request is nested in its arguments, so their depth bounds the recursion. -/
def semanticReplayArgs (command : String) (args : Json) : Json :=
  semanticReplayArgsWithin serde args.depth command args

def replayRequestFingerprint (request : IpcRequest) : String :=
  String.ofList (request.command.toList ++
    '\x1f' :: canonicalJson (semanticReplayArgs serde request.command request.args))

theorem get_scrub {args : Json} {key : String} (first : key ≠ "timeout_ms")
    (second : key ≠ "wait_timeout_ms") :
    (scrubDeadlineProjectedTimeoutAuthority args).get key = args.get key := by
  unfold scrubDeadlineProjectedTimeoutAuthority
  rw [get_remove, if_neg second, get_remove, if_neg first]

variable {serde : SerdeJson}

theorem targetDispatchParts_depth {args target : Json} {request : IpcRequest}
    (parts : targetDispatchParts args = some (target, request)) :
    request.args.depth < args.depth := by
  obtain ⟨_, _, parts⟩ := Option.bind_eq_some_iff.mp parts
  obtain ⟨inner, decoded, parts⟩ := Option.bind_eq_some_iff.mp parts
  obtain ⟨value, found, strict⟩ := Option.bind_eq_some_iff.mp decoded
  cases parts
  exact (IpcRequest.decode_args_depth (Option.filter_eq_some_iff.mp strict).1).trans
    (depth_lt_of_get found)

theorem targetDispatchParts_of_flat {args : Json} (flat : args.depth = 0) :
    targetDispatchParts args = none := by
  cases parts : targetDispatchParts args with
  | none => rfl
  | some =>
    have nested := targetDispatchParts_depth parts
    omega

theorem semanticReplayArgsWithin_stable (fuel other : Nat) (command : String) (args : Json)
    (enough : args.depth ≤ fuel) (otherEnough : args.depth ≤ other) :
    semanticReplayArgsWithin serde fuel command args =
      semanticReplayArgsWithin serde other command args := by
  induction fuel generalizing other command args with
  | zero =>
    have flat := targetDispatchParts_of_flat (Nat.le_zero.mp enough)
    cases other <;> simp [semanticReplayArgsWithin, flat]
  | succ _ ih =>
    cases other with
    | zero =>
      have flat := targetDispatchParts_of_flat (Nat.le_zero.mp otherEnough)
      simp [semanticReplayArgsWithin, flat]
    | succ other =>
      unfold semanticReplayArgsWithin
      cases parts : targetDispatchParts args with
      | none => rfl
      | some pair =>
        obtain ⟨target, request⟩ := pair
        have nested := targetDispatchParts_depth parts
        simp only [ih other request.command request.args (by omega) (by omega)]

theorem semanticReplayArgs_eq (command : String) (args : Json) :
    semanticReplayArgs serde command args = if command = "_orchestration_target_dispatch" then
        match targetDispatchParts args with
        | some (target, request) =>
          targetDispatchJson target request.command
            (semanticReplayArgs serde request.command request.args)
        | none => directReplayArgs serde command args
      else directReplayArgs serde command args := by
  rw [semanticReplayArgs,
    semanticReplayArgsWithin_stable args.depth (args.depth + 1) command args le_rfl (by omega)]
  unfold semanticReplayArgsWithin
  cases parts : targetDispatchParts args with
  | none => rfl
  | some pair =>
    obtain ⟨target, request⟩ := pair
    have nested := targetDispatchParts_depth parts
    have inner : semanticReplayArgsWithin serde args.depth request.command request.args =
        semanticReplayArgsWithin serde request.args.depth request.command request.args :=
      semanticReplayArgsWithin_stable _ _ _ _ (by omega) le_rfl
    simp only [inner, semanticReplayArgs]

theorem replayRequestFingerprint_eq_iff {left right : IpcRequest} :
    replayRequestFingerprint serde left = replayRequestFingerprint serde right ↔
      left.command = right.command ∧ semanticReplayArgs serde left.command left.args =
          semanticReplayArgs serde right.command right.args := by
  constructor
  · intro same
    have texts := String.ofList_inj.mp same
    obtain ⟨commands, args⟩ := append_separator_injective
      (separator_not_mem_canonicalJson _) (separator_not_mem_canonicalJson _) texts
    exact ⟨String.toList_inj.mp commands, canonicalJson_injective args⟩
  · rintro ⟨commands, args⟩
    rw [replayRequestFingerprint, replayRequestFingerprint, args, commands]

def hexDigitValue (c : Char) : Option Nat :=
  if c.isDigit then some (c.toNat - 48)
  else if 'a' ≤ c ∧ c ≤ 'f' then some (c.toNat - 87)
  else if 'A' ≤ c ∧ c ≤ 'F' then some (c.toNat - 55)
  else none

def codeUnit (digits : List Char) : Option Nat :=
  (digits.mapM hexDigitValue).map fun values => values.foldl (16 * · + ·) 0

/-- How the JSON grammar lets a character of a string be written. -/
inductive JsonStringChar : Char → List Char → Prop where
  | unescaped {c : Char} (printable : ¬ c ≤ '\x1f') (quote : c ≠ '"') (backslash : c ≠ '\\') :
      JsonStringChar c [c]
  | short {c mark : Char} (listed : (mark, c) ∈ [('"', '"'), ('\\', '\\'), ('/', '/'),
      ('b', '\x08'), ('f', '\x0c'), ('n', '\n'), ('r', '\r'), ('t', '\t')]) :
      JsonStringChar c ['\\', mark]
  | unit {c : Char} {digits : List Char} (four : digits.length = 4)
      (value : codeUnit digits = some c.toNat) : JsonStringChar c ('\\' :: 'u' :: digits)
  | surrogates {c : Char} {high low : List Char} {first second : Nat} (four : high.length = 4)
      (again : low.length = 4) (leads : codeUnit high = some (0xD800 + first))
      (trails : codeUnit low = some (0xDC00 + second)) (small : first < 0x400 ∧ second < 0x400)
      (value : c.toNat = 0x10000 + 0x400 * first + second) :
      JsonStringChar c ('\\' :: 'u' :: high ++ '\\' :: 'u' :: low)

theorem jsonStringChar_escape (c : Char) : JsonStringChar c (escapeJsonChar c) := by
  by_cases control : c ≤ '\x1f'
  · obtain ⟨n, small, rfl⟩ : ∃ n < 32, c = Char.ofNat n :=
      ⟨c.toNat, Nat.lt_succ_of_le control, by simp⟩
    interval_cases n <;> first | exact .short (by decide) | exact .unit rfl rfl
  · by_cases quote : c = '"'
    · subst quote
      exact .short (by decide)
    by_cases backslash : c = '\\'
    · subst backslash
      exact .short (by decide)
    rw [escapeJsonChar_of_plain control quote backslash]
    exact .unescaped control quote backslash

/-- A decoding library that reads no text and writes every float alike. -/
def plainSerde : SerdeJson :=
  { fromStr := fun _ => none, floatOfInt := fun _ => ⟨['0', '.', '0'], by simp, by simp⟩,
    rejection := fun reason _ => reason }

def floatZero : FloatText := ⟨['0', '.', '0'], by simp, by simp⟩

def negativeZero : FloatText := ⟨['-', '0', '.', '0'], by simp, by simp⟩

mutual

/-- Zeros without their sign. Two values are equal for the JSON library if they are equal so:
it compares floats as numbers, and the negative zero is the only one that prints otherwise. -/
def JsonTree.unsigned : JsonTree → JsonTree
  | .number (.float value) =>
    .number (.float (if value = negativeZero then floatZero else value))
  | .array items => .array (unsignedItems items)
  | .object fields => .object (unsignedFields fields)
  | other => other

def JsonTree.unsignedItems : List JsonTree → List JsonTree
  | [] => []
  | item :: items => item.unsigned :: unsignedItems items

def JsonTree.unsignedFields : List (String × JsonTree) → List (String × JsonTree)
  | [] => []
  | (key, value) :: fields => (key, value.unsigned) :: unsignedFields fields

end

/-- Requests are told apart by their commands and their projected arguments, whose members are
in key order; by no more than their values if no zero has a sign. A string is written as a JSON
string of its characters. -/
theorem fingerprint_identifies_request (serde : SerdeJson) (left right : IpcRequest) :
    let args := fun request : IpcRequest =>
      (semanticReplayArgs serde request.command request.args).tree
    (replayRequestFingerprint serde left = replayRequestFingerprint serde right ↔
      left.command = right.command ∧ args left = args right) ∧
      ((args left).unsigned = args left → (args right).unsigned = args right →
        (replayRequestFingerprint serde left = replayRequestFingerprint serde right ↔
          left.command = right.command ∧ (args left).unsigned = (args right).unsigned)) ∧
      ∀ value : String, ∃ texts, List.Forall₂ JsonStringChar value.toList texts ∧
        jsonStringLiteral value = '"' :: texts.flatten ++ ['"'] := by
  have told : replayRequestFingerprint serde left = replayRequestFingerprint serde right ↔ _ :=
    replayRequestFingerprint_eq_iff
  rw [← tree_injective.eq_iff] at told
  refine ⟨told, fun plain other => by rw [plain, other, told], fun value =>
    ⟨value.toList.map escapeJsonChar, ?_, jsonStringLiteral_eq value⟩⟩
  exact List.forall₂_map_right_iff.mpr (List.forall₂_same.mpr fun c _ => jsonStringChar_escape c)

def execWith (argument : FloatText) : IpcRequest :=
  { ipcProtocolVersion := ipcProtocolVersion, command := "exec", commandId := some "c1",
    daemonSessionId := none, args := object [("argument", number (.float argument))],
    timeoutMs := 1000 }

/-- Two requests with equal arguments, one of them with a negative zero. -/
theorem zero_signs_told_apart :
    (semanticReplayArgs plainSerde "exec" (execWith floatZero).args).tree.unsigned =
        (semanticReplayArgs plainSerde "exec" (execWith negativeZero).args).tree.unsigned ∧
      replayRequestFingerprint plainSerde (execWith floatZero) ≠
        replayRequestFingerprint plainSerde (execWith negativeZero) := by
  refine ⟨rfl, fun same => ?_⟩
  have args := (replayRequestFingerprint_eq_iff.mp same).2
  cases congrArg tree args

end Rub
