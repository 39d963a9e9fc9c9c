import Rub.ReplayFence

/-!
How the client reads a response: the serialized fields are decoded, unknown ones are rejected
unless the command is exempt, and the response contract and the correlation with the request
are checked.
-/

namespace Rub

open Json Serde IpcResponse

/-- The fields of a struct that ignores the keys it does not know. -/
def Serde.openFields (least : Nat) (names : List String) (args : Json) :
    Option (String → Option Json) :=
  match args.asArray with
  | some items => positional least names items
  | none => if args.isObject then some args.get else none

/-- A variant without data: its name, or an object that gives it a null. -/
def Serde.unitVariant {α : Type} (parse : String → Option α) (value : Json) : Option α :=
  match value.asStr, value.keys with
  | some name, _ => parse name
  | none, [name] => if (value.get name).any isNull then parse name else none
  | none, _ => none

def ErrorCode.all : List ErrorCode :=
  [.navigationFailed, .pageLoadTimeout, .certError, .elementNotFound, .elementNotInteractable,
    .interactionNotConfirmed, .staleSnapshot, .staleIndex, .waitTimeout, .tabNotFound,
    .invalidKeyName, .invalidInput, .noMatchingOption, .fileNotFound, .jsEvalError, .jsTimeout,
    .daemonStartFailed, .daemonNotRunning, .sessionBusy, .ipcTimeout, .ipcProtocolError,
    .ipcVersionMismatch, .ioError, .jsonError, .internalError, .browserNotFound, .browserCrashed,
    .browserLaunchFailed, .profileInUse, .cdpConnectionFailed, .cdpConnectionAmbiguous,
    .cdpConnectionLost, .profileNotFound, .conflictingConnectOptions, .stealthPatchFailed,
    .humanizeTargetNotFound, .automationPaused]

def ErrorCode.parse (name : String) : Option ErrorCode :=
  ErrorCode.all.find? fun code => code.name == name

theorem ErrorCode.parse_name (code : ErrorCode) : ErrorCode.parse code.name = some code := by
  cases code <;> rfl

namespace ErrorEnvelope

def fieldNames : List String := ["code", "message", "suggestion", "context"]

def toValue (envelope : ErrorEnvelope) : Json :=
  present
    [("code", some (string envelope.code.name)),
      ("message", some (string envelope.message)),
      ("suggestion", some (string envelope.suggestion)),
      ("context", envelope.context)]

def decode (value : Json) : Option ErrorEnvelope := do
  let fields ← openFields 4 fieldNames value
  let code ← required (unitVariant ErrorCode.parse) (fields "code")
  let message ← required asStr (fields "message")
  let suggestion ←
    match fields "suggestion" with
    | none => some ""
    | some suggestion => suggestion.asStr
  let context ← Serde.optional some (fields "context")
  pure { code, message, suggestion, context }

/-- What is left of an envelope when its context has been written and read. -/
def readBack (envelope : ErrorEnvelope) : ErrorEnvelope :=
  { envelope with context := envelope.context.filter fun context => !context.isNull }

end ErrorEnvelope

namespace Timing

def fieldNames : List String := ["queue_ms", "exec_ms", "total_ms"]

def toValue (timing : Timing) : Json :=
  present
    [("queue_ms", some (natural timing.queueMs)),
      ("exec_ms", some (natural timing.execMs)),
      ("total_ms", some (natural timing.totalMs))]

def decode (value : Json) : Option Timing := do
  let fields ← openFields 3 fieldNames value
  let queueMs ← required asU64 (fields "queue_ms")
  let execMs ← required asU64 (fields "exec_ms")
  let totalMs ← required asU64 (fields "total_ms")
  pure { queueMs, execMs, totalMs }

end Timing

def ResponseStatus.name : ResponseStatus → String
  | .success => "success"
  | .error => "error"

def ResponseStatus.parse : String → Option ResponseStatus
  | "success" => some .success
  | "error" => some .error
  | _ => none

/-- A response as it is decoded, with the names of the fields that are not its own. -/
structure RawIpcResponse where
  response : IpcResponse
  unknownFields : List String

def IpcResponse.fieldNames : List String :=
  ["ipc_protocol_version", "command_id", "daemon_session_id", "request_id", "status", "data",
    "error", "timing"]

def IpcResponse.fields (response : IpcResponse) : List (String × Option Json) :=
  [("ipc_protocol_version", some (string response.ipcProtocolVersion)),
    ("command_id", response.commandId.map string),
    ("daemon_session_id", response.daemonSessionId.map string),
    ("request_id", some (string response.requestId)),
    ("status", some (string response.status.name)),
    ("data", response.data),
    ("error", response.error.map ErrorEnvelope.toValue),
    ("timing", some response.timing.toValue)]

/-- The serialized response; absent fields are skipped. -/
def IpcResponse.toValue (response : IpcResponse) : Json := present response.fields

/-- A request id: a string that is not blank. -/
def requiredId (field : Option Json) : Option String :=
  (required asStr field).filter fun id => !isBlank id

/-- A struct with a flattened part is read from an object only. -/
def RawIpcResponse.decode (value : Json) : Option RawIpcResponse := do
  if value.isObject then
    let version ← required asStr (value.get "ipc_protocol_version")
    let commandId ← IpcRequest.optionalId (value.get "command_id")
    let daemonSessionId ← IpcRequest.optionalId (value.get "daemon_session_id")
    let requestId ← requiredId (value.get "request_id")
    let status ← required (unitVariant ResponseStatus.parse) (value.get "status")
    let data ← Serde.optional some (value.get "data")
    let error ← Serde.optional ErrorEnvelope.decode (value.get "error")
    let timing ← required Timing.decode (value.get "timing")
    pure
      { response :=
          { ipcProtocolVersion := version, commandId, daemonSessionId, requestId, status, data,
            error, timing }
        unknownFields := value.keys.filter fun key => key ∉ fieldNames }
  else none

/-- How the client's texts show what they are given. -/
structure ClientTexts where
  schemaError : Json → String
  debug : Option String → String
  quote : String → String

def allowsTransportProtocolCompatExemption (command : String) : Bool :=
  command == "_handshake" || command == "_upgrade_check" || command == "_blocker_diagnose"

def allowsUnsolicitedResponseDaemonSessionId (command : String) : Bool := command == "_handshake"

def responseSchemaError (message : String) : ErrorEnvelope :=
  (ErrorEnvelope.new .ipcProtocolError message).withContext
    (object [("reason", string "invalid_ipc_response_schema")])

def RawIpcResponse.rejectUnknownFields (raw : RawIpcResponse) : Except ErrorEnvelope Unit :=
  if raw.unknownFields = [] then .ok ()
  else
    .error (responseSchemaError ("IPC response schema error: unknown field(s): " ++
      ", ".intercalate raw.unknownFields))

namespace IpcResponse

def fieldError (message field : String) : ErrorEnvelope :=
  (ErrorEnvelope.new .ipcProtocolError message).withContext
    (object [("reason", string "invalid_ipc_response_contract"),
      ("field", string field)])

def statusError (response : IpcResponse) (message : String) : ErrorEnvelope :=
  (ErrorEnvelope.new .ipcProtocolError message).withContext
    (object [("reason", string "invalid_ipc_response_contract"),
      ("status", string response.status.name),
      ("has_data", Json.bool response.data.isSome),
      ("has_error", Json.bool response.error.isSome)])

/-- The first contract a response breaks, under the transport's policy. -/
def contractErrorEnvelope (response : IpcResponse) (request : Option IpcRequest)
    (allowTransportInternalProtocolMismatch : Bool) : Option ErrorEnvelope :=
  let protocolMismatchAllowed := request.any fun request =>
    allowTransportInternalProtocolMismatch && allowsTransportProtocolCompatExemption request.command
  if response.ipcProtocolVersion ≠ Rub.ipcProtocolVersion ∧ protocolMismatchAllowed = false then
    some ((ErrorEnvelope.new .ipcVersionMismatch
      ("IPC response protocol mismatch: expected " ++ Rub.ipcProtocolVersion ++ ", got " ++
        response.ipcProtocolVersion)).withContext (object [
          ("reason", string "ipc_response_protocol_version_mismatch"),
          ("expected_protocol_version", string Rub.ipcProtocolVersion),
          ("actual_protocol_version", string response.ipcProtocolVersion)]))
  else if isBlank response.requestId then
    some (fieldError "IPC response request_id must be non-empty and non-whitespace" "request_id")
  else if response.commandId.any isBlank then
    some (fieldError "IPC response command_id must be non-empty and non-whitespace when present"
      "command_id")
  else if response.daemonSessionId.any isBlank then
    some (fieldError
      "IPC response daemon_session_id must be non-empty and non-whitespace when present"
      "daemon_session_id")
  else
    match response.status, response.data, response.error with
    | .success, _, some _ =>
      some (statusError response "IPC success response carried an error envelope")
    | .success, none, none =>
      some (statusError response "IPC success response omitted success data")
    | .error, _, none =>
      some (statusError response "IPC error response omitted the error envelope")
    | .error, some _, some _ =>
      some (statusError response "IPC error response carried success data")
    | _, _, _ => none

def correlationError (message reason : String) (more : List (String × Json)) :
    ErrorEnvelope :=
  (ErrorEnvelope.new .ipcProtocolError message).withContext
    (object (("reason", string reason) :: more))

/-- The id that a response echoes is the one that was sent; `unsolicited` ones may be allowed. -/
def echoError (texts : ClientTexts) (command field : String) (unsolicited : Bool) :
    Option String → Option String → Option ErrorEnvelope
  | some expected, some actual =>
    if actual ≠ expected then
      some (correlationError ("IPC response " ++ field ++ " mismatch: expected " ++
          texts.debug (some expected) ++ ", got " ++ texts.debug (some actual))
        ("ipc_response_" ++ field ++ "_mismatch")
        [("expected_" ++ field, string expected), ("actual_" ++ field, string actual)])
    else none
  | some expected, none =>
    some (correlationError ("IPC response for command '" ++ command ++ "' omitted the required " ++
        field ++ " echo") ("ipc_response_missing_" ++ field)
      [("command", string command), ("expected_" ++ field, string expected)])
  | none, some actual =>
    if unsolicited then none
    else
      some (correlationError ("IPC response for command '" ++ command ++
          "' carried an unsolicited " ++ field) ("ipc_response_unsolicited_" ++ field)
        [("command", string command), ("actual_" ++ field, string actual)])
  | none, none => none

def commandEchoError (texts : ClientTexts) (response : IpcResponse) (request : IpcRequest) :
    Option ErrorEnvelope :=
  echoError texts request.command "command_id" false request.commandId response.commandId

def sessionEchoError (texts : ClientTexts) (response : IpcResponse) (request : IpcRequest) :
    Option ErrorEnvelope :=
  echoError texts request.command "daemon_session_id"
    (allowsUnsolicitedResponseDaemonSessionId request.command) request.daemonSessionId
    response.daemonSessionId

/-- The first echo of the request that a response gets wrong. -/
def correlationErrorEnvelope (texts : ClientTexts) (response : IpcResponse) (request : IpcRequest) :
    Option ErrorEnvelope :=
  (response.commandEchoError texts request).or (response.sessionEchoError texts request)

def responseRawFromValue (texts : ClientTexts) (value : Json) :
    Except ErrorEnvelope RawIpcResponse :=
  match RawIpcResponse.decode value with
  | some raw => .ok raw
  | none =>
    .error (responseSchemaError ("IPC response schema error: " ++ texts.schemaError value))

/-- A check that reports what is wrong. -/
def reject (report : Option ErrorEnvelope) : Except ErrorEnvelope Unit :=
  match report with
  | some envelope => .error envelope
  | none => .ok ()

/-- Only the exempt commands may be answered with fields that are not known. -/
def responseFromRaw (raw : RawIpcResponse) (request : IpcRequest) :
    Except ErrorEnvelope IpcResponse :=
  if allowsTransportProtocolCompatExemption request.command then .ok raw.response
  else raw.rejectUnknownFields.map fun _ => raw.response

def fromValueTransport (texts : ClientTexts) (value : Json) (request : IpcRequest) :
    Except ErrorEnvelope IpcResponse := do
  let raw ← responseRawFromValue texts value
  let response ← responseFromRaw raw request
  reject (response.contractErrorEnvelope (some request) true)
  reject (response.correlationErrorEnvelope texts request)
  pure response

end IpcResponse

variable {response : IpcResponse}

theorem Json.isNull_iff {value : Json} : value.isNull = true ↔ value = Json.null := by
  obtain ⟨tree, ordered⟩ := value
  cases tree with
  | null => exact iff_of_true rfl rfl
  | _ => exact iff_of_false Bool.false_ne_true fun same => nomatch congrArg tree same

theorem Serde.openFields_present {least : Nat} {fields : List (String × Option Json)}
    (names : List String) (named : fields.map Prod.fst = names) (distinct : names.Nodup) :
    openFields least names (present fields) = some fun key => (fields.lookup key).join := by
  subst named
  unfold openFields
  cases isArray : (present fields).asArray with
  | some => cases isObject_of_asArray isArray
  | none =>
    show (if _ then some _ else none) = _
    rw [if_pos (isObject_present fields), funext (get_present distinct)]

theorem Serde.optional_some (value : Option Json) :
    Serde.optional some value = some (value.filter fun value => !value.isNull) := by
  cases value with
  | none => rfl
  | some value =>
    unfold Serde.optional nullable
    cases null : value.isNull with
    | true | false => simp [Option.filter, null]

theorem Serde.optional_map {α : Type} {encode : α → Json} {decode : Json → Option α}
    {value : Option α} {shown : α → α} (written : ∀ value, (encode value).isNull = false)
    (read : ∀ value, decode (encode value) = some (shown value)) :
    Serde.optional decode (value.map encode) = some (value.map shown) := by
  cases value with
  | none => rfl
  | some value =>
    show nullable decode (encode value) = _
    rw [nullable, if_neg (by rw [written value]; exact Bool.false_ne_true), read]
    rfl

@[simp] theorem Json.asStr_string (text : String) : (string text).asStr = some text := rfl

@[simp] theorem Json.asU64_natural (value : Nat) : (natural value).asU64 = some value := rfl

theorem ErrorEnvelope.decode_toValue (envelope : ErrorEnvelope) :
    ErrorEnvelope.decode envelope.toValue = some envelope.readBack := by
  unfold ErrorEnvelope.decode ErrorEnvelope.toValue
  rw [openFields_present fieldNames rfl (by decide)]
  simp [List.lookup_cons, required, unitVariant, ErrorCode.parse_name,
    optional_some, ErrorEnvelope.readBack]

theorem Timing.decode_toValue (timing : Timing) : Timing.decode timing.toValue = some timing := by
  unfold Timing.decode Timing.toValue
  rw [openFields_present fieldNames rfl (by decide)]
  simp [List.lookup_cons, required]

theorem ResponseStatus.decode_name (status : ResponseStatus) :
    unitVariant ResponseStatus.parse (string status.name) = some status := by
  cases status <;> rfl

namespace IpcResponse

/-- What is left of a response when it has been written and read. -/
def readBack (response : IpcResponse) : IpcResponse :=
  { response with
    data := response.data.filter fun data => !data.isNull
    error := response.error.map ErrorEnvelope.readBack }

theorem get_toValue (response : IpcResponse) (key : String) :
    response.toValue.get key = (response.fields.lookup key).join :=
  get_present (show (response.fields.map Prod.fst).Nodup from
    (show response.fields.map Prod.fst = fieldNames from rfl) ▸ (by decide)) key

theorem unknownFields_toValue (response : IpcResponse) :
    (response.toValue.keys.filter fun key => key ∉ fieldNames) = [] := by
  rw [List.filter_eq_nil_iff]
  intro key member
  have given := mem_keys_iff.mp member
  rw [get_toValue] at given
  simp only [decide_eq_true_eq, not_not]
  by_contra unknown
  rw [lookup_eq_none_of_not_mem (show key ∉ response.fields.map Prod.fst from unknown)] at given
  exact given rfl

/-- A response with ids that are not blank is decoded to what can be read back of it. -/
theorem raw_toValue (requestNamed : isBlank response.requestId = false)
    (commandNamed : response.commandId.any isBlank = false)
    (sessionNamed : response.daemonSessionId.any isBlank = false) :
    RawIpcResponse.decode response.toValue = some ⟨response.readBack, []⟩ := by
  have object : response.toValue.isObject = true := isObject_present _
  have requestId : requiredId (some (string response.requestId)) = some response.requestId := by
    simp [requiredId, required, Option.filter, requestNamed]
  have error : Serde.optional ErrorEnvelope.decode (response.error.map ErrorEnvelope.toValue) =
      some (response.error.map ErrorEnvelope.readBack) :=
    optional_map (fun _ => rfl) ErrorEnvelope.decode_toValue
  unfold RawIpcResponse.decode
  rw [if_pos object, unknownFields_toValue]
  simp only [get_toValue, fields, List.lookup_cons]
  simp [IpcRequest.optionalId_of_map commandNamed, IpcRequest.optionalId_of_map sessionNamed,
    requestId, error, required, ResponseStatus.decode_name, optional_some,
    Timing.decode_toValue, readBack]

end IpcResponse

/-- The response the daemon builds for a request: data or an error, with the ids that the
request carries. -/
def daemonResponse (request : IpcRequest) (requestId : String)
    (outcome : Except ErrorEnvelope Json) (timing : Timing) : IpcResponse :=
  let response :=
    match outcome with
    | .ok data => IpcResponse.success requestId data
    | .error envelope => IpcResponse.failure requestId envelope
  let correlated := attachRequestCommandId request (response.withTiming timing)
  match request.daemonSessionId with
  | some sessionId => correlated.withDaemonSessionId sessionId
  | none => correlated

theorem daemonResponse_eq (request : IpcRequest) (requestId : String)
    (outcome : Except ErrorEnvelope Json) (timing : Timing) :
    daemonResponse request requestId outcome timing =
      { ipcProtocolVersion := Rub.ipcProtocolVersion
        commandId := request.commandId
        daemonSessionId := request.daemonSessionId
        requestId := requestId
        status := match outcome with
          | .ok _ => .success
          | .error _ => .error
        data := outcome.toOption
        error := match outcome with
          | .ok _ => none
          | .error envelope => some envelope
        timing := timing } := by
  unfold daemonResponse attachRequestCommandId
  cases outcome <;> cases request.commandId <;> cases request.daemonSessionId <;> rfl

variable {texts : ClientTexts} {request : IpcRequest}

theorem correlationErrorEnvelope_of_echo (command : response.commandId = request.commandId)
    (session : response.daemonSessionId = request.daemonSessionId) :
    response.correlationErrorEnvelope texts request = none := by
  unfold correlationErrorEnvelope commandEchoError sessionEchoError echoError
  rw [command, session]
  cases request.commandId <;> cases request.daemonSessionId <;> simp

/-- The contract that is left to check once the ids are named: what the status promises. -/
theorem contractErrorEnvelope_eq_none
    (version : response.ipcProtocolVersion = Rub.ipcProtocolVersion)
    (requestNamed : isBlank response.requestId = false)
    (commandNamed : response.commandId.any isBlank = false)
    (sessionNamed : response.daemonSessionId.any isBlank = false) :
    response.contractErrorEnvelope (some request) true = none ↔
      (response.status = .success ∧ response.data.isSome ∧ response.error = none) ∨
        (response.status = .error ∧ response.data = none ∧ response.error.isSome) := by
  unfold contractErrorEnvelope
  simp only [version, ne_eq, not_true_eq_false, false_and, if_false, requestNamed, commandNamed,
    sessionNamed, Bool.false_eq_true]
  cases response.status <;> cases response.data <;> cases response.error <;> simp

theorem filter_isNull_eq_self_iff (value : Option Json) :
    (value.filter fun value => !value.isNull) = value ↔ value ≠ some Json.null := by
  cases value with
  | none => simp
  | some value =>
    by_cases null : value = Json.null
    · subst null
      exact iff_of_false (fun same => nomatch same) (not_not_intro rfl)
    · have shown : value.isNull = false := by
        rw [← Bool.not_eq_true, isNull_iff]
        exact null
      refine iff_of_true ?_ fun same => null (Option.some.inj same)
      simp [Option.filter, shown]

theorem readBack_eq_iff : response.readBack = response ↔ response.data ≠ some Json.null ∧
        ∀ envelope, response.error = some envelope → envelope.context ≠ some Json.null := by
  rw [← filter_isNull_eq_self_iff]
  constructor
  · intro same
    refine ⟨congrArg data same, ?_⟩
    intro envelope carried
    have read := congrArg error same
    simp only [readBack, carried, Option.map_some, Option.some.injEq] at read
    exact (filter_isNull_eq_self_iff _).mp (congrArg ErrorEnvelope.context read)
  · rintro ⟨data, contexts⟩
    have error : response.error.map ErrorEnvelope.readBack = response.error := by
      cases carried : response.error with
      | none => rfl
      | some envelope =>
        have context := (filter_isNull_eq_self_iff _).mpr (contexts envelope carried)
        rw [Option.map_some, ErrorEnvelope.readBack, context]
    unfold readBack
    rw [data, error]

/-- A response that echoes the ids of its request is read back, if its contract is kept. -/
theorem fromValueTransport_toValue (requestNamed : isBlank response.requestId = false)
    (commandNamed : request.commandId.any isBlank = false)
    (sessionNamed : request.daemonSessionId.any isBlank = false)
    (command : response.commandId = request.commandId)
    (session : response.daemonSessionId = request.daemonSessionId) :
    fromValueTransport texts response.toValue request =
      (reject (response.readBack.contractErrorEnvelope (some request) true)).map
        fun _ => response.readBack := by
  have raw : RawIpcResponse.decode response.toValue = some ⟨response.readBack, []⟩ :=
    raw_toValue requestNamed (command ▸ commandNamed) (session ▸ sessionNamed)
  have correlated : response.readBack.correlationErrorEnvelope texts request = none :=
    correlationErrorEnvelope_of_echo command session
  unfold fromValueTransport responseRawFromValue
  have known : responseFromRaw ⟨response.readBack, []⟩ request = .ok response.readBack := by
    unfold responseFromRaw
    split
    · rfl
    · rfl
  rw [raw]
  show (responseFromRaw ⟨response.readBack, []⟩ request >>= fun response =>
    reject (response.contractErrorEnvelope (some request) true) >>= fun _ =>
      reject (response.correlationErrorEnvelope texts request) >>= fun _ =>
        pure response) = _
  rw [known]
  show (reject (response.readBack.contractErrorEnvelope (some request) true) >>= fun _ =>
    reject (response.readBack.correlationErrorEnvelope texts request) >>= fun _ =>
      pure response.readBack) = _
  rw [correlated]
  rfl

/-- The client accepts the daemon's response and returns it as it was built, unless its data or
the context of its error is null. -/
theorem response_accepted_iff (texts : ClientTexts) (request : IpcRequest)
    (valid : request.contractErrorEnvelope = none) (requestId : String)
    (named : isBlank requestId = false) (outcome : Except ErrorEnvelope Json) (timing : Timing) :
    fromValueTransport texts
        (daemonResponse request requestId outcome timing).toValue request =
        .ok (daemonResponse request requestId outcome timing) ↔
      (daemonResponse request requestId outcome timing).data ≠ some Json.null ∧
        ∀ envelope, (daemonResponse request requestId outcome timing).error = some envelope →
          envelope.context ≠ some Json.null := by
  obtain ⟨-, -, -, commandNamed, sessionNamed, -, -⟩ :=
    IpcRequest.contractErrorEnvelope_eq_none.mp valid
  have built := daemonResponse_eq request requestId outcome timing
  have command :
      (daemonResponse request requestId outcome timing).commandId = request.commandId := by
    rw [built]
  have session : (daemonResponse request requestId outcome timing).daemonSessionId =
      request.daemonSessionId := by
    rw [built]
  have requestNamed :
      isBlank (daemonResponse request requestId outcome timing).requestId = false := by
    rw [built]
    exact named
  have contract : (daemonResponse request requestId outcome timing).contractErrorEnvelope
      (some request) true = none := by
    rw [contractErrorEnvelope_eq_none (by rw [built]) requestNamed (command ▸ commandNamed)
      (session ▸ sessionNamed), built]
    cases outcome with
    | ok => exact .inl ⟨rfl, rfl, rfl⟩
    | error => exact .inr ⟨rfl, rfl, rfl⟩
  rw [← readBack_eq_iff, fromValueTransport_toValue requestNamed commandNamed sessionNamed command
    session]
  constructor
  · intro accepted
    cases rejected : IpcResponse.reject ((daemonResponse request requestId outcome
        timing).readBack.contractErrorEnvelope (some request) true) with
    | error =>
      rw [rejected] at accepted
      cases accepted
    | ok _ =>
      rw [rejected] at accepted
      exact Except.ok.inj accepted
  · intro same
    rw [same, contract]
    rfl

def plainTexts : ClientTexts := ⟨fun _ => "", fun id => id.getD "None", id⟩

def doctorRequest : IpcRequest where
  ipcProtocolVersion := "1.1"
  command := "doctor"
  commandId := some "cmd"
  daemonSessionId := some "sess"
  args := Json.null
  timeoutMs := 1000

theorem doctorRequest_valid : doctorRequest.contractErrorEnvelope = none :=
  IpcRequest.contractErrorEnvelope_eq_none.mpr (by decide)

theorem boolean_data_accepted :
    fromValueTransport plainTexts
        (daemonResponse doctorRequest "req" (.ok (Json.bool true)) ⟨1, 2, 3⟩).toValue
        doctorRequest =
      .ok (daemonResponse doctorRequest "req" (.ok (Json.bool true)) ⟨1, 2, 3⟩) := by
  refine (response_accepted_iff plainTexts doctorRequest doctorRequest_valid "req" (by decide)
    (.ok (Json.bool true)) ⟨1, 2, 3⟩).mpr ⟨?_, ?_⟩
  · intro same
    cases congrArg (Option.map tree) same
  · intro envelope carried
    cases carried

/-- A success with null data is rejected, and a null context is not read back. -/
theorem null_payloads_lost :
    (∃ envelope, fromValueTransport plainTexts
        (daemonResponse doctorRequest "req" (.ok Json.null) ⟨1, 2, 3⟩).toValue doctorRequest =
        .error envelope ∧ envelope.message = "IPC success response omitted success data") ∧
    ∃ response, fromValueTransport plainTexts
        (daemonResponse doctorRequest "req"
          (.error ((ErrorEnvelope.new .jsEvalError "e").withContext Json.null)) ⟨1, 2, 3⟩).toValue
        doctorRequest = .ok response ∧
      response.error.map ErrorEnvelope.context = some none := by
  exact ⟨⟨_, rfl, rfl⟩, _, rfl, rfl⟩

end Rub
