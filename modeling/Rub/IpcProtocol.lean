import Rub.Serde

/-!
The request and response messages between the command line client and the
session daemon, with the error envelope a failed response carries.
-/

namespace Rub

open Json Serde

/-- `usize::MAX` on the 64-bit targets the daemon runs on. -/
def usizeMax : Nat := 2 ^ 64 - 1

def saturatingAdd (left right : Nat) : Nat := min (left + right) usizeMax

/-- The characters that `str::trim` removes: the Unicode property `White_Space`. -/
def isWhiteSpace (c : Char) : Bool :=
  (9 ≤ c.toNat && c.toNat ≤ 13) || c.toNat == 0x20 || c.toNat == 0x85 || c.toNat == 0xA0 ||
    c.toNat == 0x1680 || (0x2000 ≤ c.toNat && c.toNat ≤ 0x200A) || c.toNat == 0x2028 ||
    c.toNat == 0x2029 || c.toNat == 0x202F || c.toNat == 0x205F || c.toNat == 0x3000

def trim (text : String) : String :=
  String.ofList ((text.toList.dropWhile isWhiteSpace).reverse.dropWhile isWhiteSpace).reverse

def isBlank (text : String) : Bool := trim text == ""

def ipcProtocolVersion : String := "1.1"

def maxFrameBytes : Nat := 8 * 1024 * 1024

def maxIpcTimeoutMs : Nat := 24 * 60 * 60 * 1000

inductive ErrorCode where
  | navigationFailed | pageLoadTimeout | certError | elementNotFound | elementNotInteractable
  | interactionNotConfirmed | staleSnapshot | staleIndex | waitTimeout | tabNotFound
  | invalidKeyName | invalidInput | noMatchingOption | fileNotFound | jsEvalError | jsTimeout
  | daemonStartFailed | daemonNotRunning | sessionBusy | ipcTimeout | ipcProtocolError
  | ipcVersionMismatch | ioError | jsonError | internalError | browserNotFound | browserCrashed
  | browserLaunchFailed | profileInUse | cdpConnectionFailed | cdpConnectionAmbiguous
  | cdpConnectionLost | profileNotFound | conflictingConnectOptions | stealthPatchFailed
  | humanizeTargetNotFound | automationPaused
  deriving DecidableEq

def ErrorCode.suggestion : ErrorCode → String
  | .navigationFailed => "Check URL spelling and network connectivity"
  | .pageLoadTimeout => "Increase timeout with --timeout or use --load-strategy domcontentloaded"
  | .certError => "Use --ignore-cert-errors for self-signed certificates"
  | .elementNotFound => "Run 'rub state' to refresh element indices (range: 0-N)"
  | .elementNotInteractable =>
    "Element may be behind a modal or not visible. Try scrolling or closing overlays"
  | .interactionNotConfirmed =>
    "The browser-side effect was not confirmed. Inspect confirmation details before " ++
    "retrying, and add an explicit wait if the effect is expected to land " ++
    "asynchronously"
  | .staleSnapshot => "Run 'rub state' to get a fresh snapshot"
  | .staleIndex => "Run 'rub state' to get fresh element indices"
  | .waitTimeout => "Increase timeout or verify the wait condition exists on the page"
  | .tabNotFound => "Run 'rub tabs' to list available tab indices"
  | .invalidKeyName => "Check key name spelling. For plain text, use 'rub type' instead"
  | .invalidInput => "Check the command arguments and locator shape"
  | .noMatchingOption =>
    "Check the option text or value. Run 'rub get html --selector select' to see " ++
    "available options"
  | .fileNotFound => "Check the file path and ensure it exists"
  | .jsEvalError => "Check your JavaScript syntax"
  | .jsTimeout => "Script took too long. Simplify or increase timeout"
  | .daemonStartFailed => "Check permissions on ~/.rub/ and available ports"
  | .daemonNotRunning => "Try 'rub close' then retry, or check 'rub doctor'"
  | .sessionBusy => "Session is restarting. Wait a moment and retry."
  | .ipcTimeout =>
    "This session runs one command at a time. Wait for the earlier command to finish, " ++
    "use a separate RUB_HOME for parallel work, or increase --timeout"
  | .ipcProtocolError => "Internal error. Please report with 'rub doctor' output"
  | .ipcVersionMismatch => "CLI will auto-upgrade daemon. If this persists, reinstall rub."
  | .ioError => "Check filesystem paths, permissions, and local socket availability"
  | .jsonError => "Check JSON structure and field types"
  | .internalError => "Internal error. Please report with 'rub doctor' output"
  | .browserNotFound => "Install Chrome, Chromium, or Edge. Run 'rub doctor' to verify"
  | .browserCrashed => "Browser crashed. Next command will auto-restart it"
  | .browserLaunchFailed =>
    "Check 'rub doctor'. May need --no-sandbox on Linux, or check GPU drivers"
  | .profileInUse =>
    "Another session is using this profile. Use '--session <name>' to target it, or " ++
    "choose a different '--user-data-dir'"
  | .cdpConnectionFailed =>
    "Check the URL and ensure Chrome is running with --remote-debugging-port"
  | .cdpConnectionAmbiguous =>
    "Multiple CDP endpoints found. Use --cdp-url with a specific URL instead of --connect"
  | .cdpConnectionLost => "External browser disconnected. Reconnect with --cdp-url or --connect"
  | .profileNotFound =>
    "Profile not found. Run 'rub doctor' to see available profiles, or use --user-data-dir"
  | .conflictingConnectOptions => "Use only one of --cdp-url, --connect, or --profile per command"
  | .stealthPatchFailed => "Stealth patch injection failed. Try --no-stealth to diagnose"
  | .humanizeTargetNotFound =>
    "Target element not found for humanized interaction. Falling back to direct action"
  | .automationPaused =>
    "Automation is paused for human verification. Complete the handoff or resume the " ++
    "session first"

def ErrorCode.name : ErrorCode → String
  | .navigationFailed => "NAVIGATION_FAILED"
  | .pageLoadTimeout => "PAGE_LOAD_TIMEOUT"
  | .certError => "CERT_ERROR"
  | .elementNotFound => "ELEMENT_NOT_FOUND"
  | .elementNotInteractable => "ELEMENT_NOT_INTERACTABLE"
  | .interactionNotConfirmed => "INTERACTION_NOT_CONFIRMED"
  | .staleSnapshot => "STALE_SNAPSHOT"
  | .staleIndex => "STALE_INDEX"
  | .waitTimeout => "WAIT_TIMEOUT"
  | .tabNotFound => "TAB_NOT_FOUND"
  | .invalidKeyName => "INVALID_KEY_NAME"
  | .invalidInput => "INVALID_INPUT"
  | .noMatchingOption => "NO_MATCHING_OPTION"
  | .fileNotFound => "FILE_NOT_FOUND"
  | .jsEvalError => "JS_EVAL_ERROR"
  | .jsTimeout => "JS_TIMEOUT"
  | .daemonStartFailed => "DAEMON_START_FAILED"
  | .daemonNotRunning => "DAEMON_NOT_RUNNING"
  | .sessionBusy => "SESSION_BUSY"
  | .ipcTimeout => "IPC_TIMEOUT"
  | .ipcProtocolError => "IPC_PROTOCOL_ERROR"
  | .ipcVersionMismatch => "IPC_VERSION_MISMATCH"
  | .ioError => "IO_ERROR"
  | .jsonError => "JSON_ERROR"
  | .internalError => "INTERNAL_ERROR"
  | .browserNotFound => "BROWSER_NOT_FOUND"
  | .browserCrashed => "BROWSER_CRASHED"
  | .browserLaunchFailed => "BROWSER_LAUNCH_FAILED"
  | .profileInUse => "PROFILE_IN_USE"
  | .cdpConnectionFailed => "CDP_CONNECTION_FAILED"
  | .cdpConnectionAmbiguous => "CDP_CONNECTION_AMBIGUOUS"
  | .cdpConnectionLost => "CDP_CONNECTION_LOST"
  | .profileNotFound => "PROFILE_NOT_FOUND"
  | .conflictingConnectOptions => "CONFLICTING_CONNECT_OPTIONS"
  | .stealthPatchFailed => "STEALTH_PATCH_FAILED"
  | .humanizeTargetNotFound => "HUMANIZE_TARGET_NOT_FOUND"
  | .automationPaused => "AUTOMATION_PAUSED"

structure ErrorEnvelope where
  code : ErrorCode
  message : String
  suggestion : String
  context : Option Json

namespace ErrorEnvelope

def new (code : ErrorCode) (message : String) : ErrorEnvelope :=
  { code := code, message := message, suggestion := code.suggestion, context := none }

def withContext (envelope : ErrorEnvelope) (context : Json) : ErrorEnvelope :=
  { envelope with context := some context }

def withSuggestion (envelope : ErrorEnvelope) (suggestion : String) : ErrorEnvelope :=
  { envelope with suggestion := suggestion }

end ErrorEnvelope

structure Timing where
  queueMs : Nat
  execMs : Nat
  totalMs : Nat
  deriving DecidableEq

def Timing.default : Timing := { queueMs := 0, execMs := 0, totalMs := 0 }

inductive ResponseStatus where
  | success | error
  deriving DecidableEq

structure IpcRequest where
  ipcProtocolVersion : String
  command : String
  commandId : Option String
  daemonSessionId : Option String
  args : Json
  timeoutMs : Nat

namespace IpcRequest

def allowsMissingRequestCommandId (command : String) : Bool :=
  command == "_handshake" || command == "_upgrade_check" || command == "_blocker_diagnose"

def contractError (message field : String) (more : List (String × Json)) :
    ErrorEnvelope :=
  (ErrorEnvelope.new .ipcProtocolError message).withContext
    (object ([("reason", string "invalid_ipc_request_contract"),
      ("field", string field)] ++ more))

/-- The first contract a decoded request breaks. -/
def contractErrorEnvelope (request : IpcRequest) : Option ErrorEnvelope :=
  if request.ipcProtocolVersion ≠ Rub.ipcProtocolVersion then
    some (contractError
      ("IPC request protocol mismatch: expected " ++ Rub.ipcProtocolVersion ++ ", got " ++
        request.ipcProtocolVersion) "ipc_protocol_version"
      [("expected_protocol_version", string Rub.ipcProtocolVersion),
        ("actual_protocol_version", string request.ipcProtocolVersion)])
  else if isBlank request.command then
    some (contractError "IPC request command must be non-empty and non-whitespace" "command" [])
  else if request.commandId.isNone && !allowsMissingRequestCommandId request.command then
    some (contractError
      ("IPC request '" ++ request.command ++ "' requires a command_id on the wire") "command_id"
      [("command", string request.command)])
  else if request.commandId.any isBlank then
    some (contractError
      "IPC request command_id must be non-empty and non-whitespace when present" "command_id" [])
  else if request.daemonSessionId.any isBlank then
    some (contractError
      "IPC request daemon_session_id must be non-empty and non-whitespace when present"
      "daemon_session_id" [])
  else if request.timeoutMs = 0 ∨ request.timeoutMs > maxIpcTimeoutMs then
    some (contractError
      ("IPC request timeout_ms must be between 1 and " ++ Nat.repr maxIpcTimeoutMs) "timeout_ms"
      [("max_timeout_ms", natural maxIpcTimeoutMs),
        ("actual_timeout_ms", natural request.timeoutMs)])
  else none

/-- An id field: a string that is not blank, or none. -/
def optionalId (field : Option Json) : Option (Option String) :=
  (Serde.optional asStr field).filter fun id => !id.any isBlank

def fieldNames : List String :=
  ["ipc_protocol_version", "command", "command_id", "daemon_session_id", "args", "timeout_ms"]

/-- The struct decoder alone, before the request contract is checked. -/
def decode (value : Json) : Option IpcRequest := do
  let fields ← structFields 6 fieldNames value
  let version ← required asStr (fields "ipc_protocol_version")
  let command ← required asStr (fields "command")
  let commandId ← optionalId (fields "command_id")
  let daemonSessionId ← optionalId (fields "daemon_session_id")
  let args ← fields "args"
  let timeoutMs ← required asU64 (fields "timeout_ms")
  pure { ipcProtocolVersion := version, command := command, commandId := commandId,
         daemonSessionId := daemonSessionId, args := args, timeoutMs := timeoutMs }

def fromValueStrict (value : Json) : Option IpcRequest :=
  (decode value).filter fun request => request.contractErrorEnvelope.isNone

/-- The serialized request; absent ids are skipped. -/
def toValue (request : IpcRequest) : Json :=
  present
    [("ipc_protocol_version", some (string request.ipcProtocolVersion)),
      ("command", some (string request.command)),
      ("command_id", request.commandId.map string),
      ("daemon_session_id", request.daemonSessionId.map string),
      ("args", some request.args),
      ("timeout_ms", some (natural request.timeoutMs))]

variable {request : IpcRequest}

theorem decode_args_depth {value : Json}
    (decoded : decode value = some request) : request.args.depth < value.depth := by
  simp only [decode, Option.pure_def, Option.bind_eq_bind, Option.bind_eq_some_iff,
    Option.some.injEq] at decoded
  obtain ⟨fields, struct, _, _, _, _, _, _, _, _, args, found, _, _, rfl⟩ := decoded
  exact depth_lt_of_structFields struct found

/-- A check that fails reports, so passing a list of checks is failing none of them. -/
theorem check_eq_none {α : Type} {broken : Prop} [Decidable broken] {report : α}
    {rest : Option α} : (if broken then some report else rest) = none ↔ ¬broken ∧ rest = none := by
  by_cases fails : broken <;> simp [fails]

/-- The contract of a request, read off its checks. -/
theorem contractErrorEnvelope_eq_none : request.contractErrorEnvelope = none ↔
      request.ipcProtocolVersion = Rub.ipcProtocolVersion ∧ isBlank request.command = false ∧
        (request.commandId.isNone && !allowsMissingRequestCommandId request.command) = false ∧
        request.commandId.any isBlank = false ∧ request.daemonSessionId.any isBlank = false ∧
        1 ≤ request.timeoutMs ∧ request.timeoutMs ≤ maxIpcTimeoutMs := by
  unfold contractErrorEnvelope
  rw [check_eq_none, check_eq_none, check_eq_none, check_eq_none, check_eq_none, check_eq_none,
    ne_eq, not_not, Bool.not_eq_true, Bool.not_eq_true, Bool.not_eq_true, Bool.not_eq_true, not_or,
    not_lt, Nat.one_le_iff_ne_zero]
  simp only [and_true]

theorem optionalId_of_map {id : Option String} (valid : id.any isBlank = false) :
    optionalId (id.map string) = some id := by
  cases id with
  | none => rfl
  | some id =>
    have named : isBlank id = false := valid
    simp [optionalId, Serde.optional, nullable, isNull, asStr, string, named, Option.filter]

/-- A request that keeps its contract is read back from its serialized form. -/
theorem fromValueStrict_toValue (valid : request.contractErrorEnvelope = none) :
    fromValueStrict request.toValue = some request := by
  obtain ⟨_, _, _, named, session, _, _⟩ := contractErrorEnvelope_eq_none.mp valid
  have decoded : decode request.toValue = some request := by
    unfold decode toValue
    rw [structFields_present fieldNames rfl (by decide)]
    simp [List.lookup_cons, optionalId_of_map named, optionalId_of_map session, required,
      asStr, string, asU64, natural, number]
  rw [fromValueStrict, decoded]
  simp [Option.filter, valid]

end IpcRequest

structure IpcResponse where
  ipcProtocolVersion : String
  commandId : Option String
  daemonSessionId : Option String
  requestId : String
  status : ResponseStatus
  data : Option Json
  error : Option ErrorEnvelope
  timing : Timing

namespace IpcResponse

def success (requestId : String) (data : Json) : IpcResponse :=
  { ipcProtocolVersion := Rub.ipcProtocolVersion, commandId := none, daemonSessionId := none,
    requestId := requestId, status := .success, data := some data, error := none,
    timing := .default }

def failure (requestId : String) (envelope : ErrorEnvelope) : IpcResponse :=
  { ipcProtocolVersion := Rub.ipcProtocolVersion, commandId := none, daemonSessionId := none,
    requestId := requestId, status := .error, data := none, error := some envelope,
    timing := .default }

/-- The source validates the id here again; a request that was decoded has a valid one. -/
def withCommandId (response : IpcResponse) (id : String) : IpcResponse :=
  { response with commandId := some id }

def withDaemonSessionId (response : IpcResponse) (id : String) : IpcResponse :=
  { response with daemonSessionId := some id }

def withTiming (response : IpcResponse) (timing : Timing) : IpcResponse :=
  { response with timing := timing }

end IpcResponse

end Rub
