import Rub.JsonLeaves
import Rub.NdJsonCodec
import Rub.ResponseDecoding

/-!
One send of the client: a request is written to a daemon at most once, and what goes wrong
before, while or after it is written is told apart in the error.
-/

namespace Rub

open Json

inductive IoErrorKind where
  | connectionRefused | connectionReset | connectionAborted | timedOut | interrupted | wouldBlock
  | brokenPipe | unexpectedEof | notFound | invalidData | invalidInput | other
  deriving DecidableEq

def IoErrorKind.debugName : IoErrorKind → String
  | .connectionRefused => "ConnectionRefused"
  | .connectionReset => "ConnectionReset"
  | .connectionAborted => "ConnectionAborted"
  | .timedOut => "TimedOut"
  | .interrupted => "Interrupted"
  | .wouldBlock => "WouldBlock"
  | .brokenPipe => "BrokenPipe"
  | .unexpectedEof => "UnexpectedEof"
  | .notFound => "NotFound"
  | .invalidData => "InvalidData"
  | .invalidInput => "InvalidInput"
  | .other => "Other"

/-- An error of the transport; `oversized` marks the one that the frame limit raises. -/
structure IoError where
  kind : IoErrorKind
  oversized : Bool
  text : String

inductive IpcClientError where
  | transport (error : IoError)
  | protocol (envelope : ErrorEnvelope)

def classifyIoTransient (error : IoError) : Option String :=
  match error.kind with
  | .connectionRefused => some "connection_refused"
  | .connectionReset => some "connection_reset"
  | .connectionAborted => some "connection_aborted"
  | .timedOut => some "timed_out"
  | .interrupted => some "interrupted"
  | .wouldBlock => some "would_block"
  | .brokenPipe => some "broken_pipe"
  | .unexpectedEof => some "unexpected_eof"
  | .notFound => some "socket_not_found"
  | .invalidData => none
  | .invalidInput => none
  | .other => none

def ErrorEnvelope.reason (envelope : ErrorEnvelope) : Option String :=
  (envelope.context.bind fun context => context.get "reason").bind asStr

def ipcPossibleCommitRecoveryReasonFromContext : String → Option String
  | "ipc_request_write_transport_failure_after_possible_commit" =>
    some "request_write_transport_failure_after_possible_commit"
  | "ipc_request_write_timeout_after_possible_commit" =>
    some "request_write_timeout_after_possible_commit"
  | "ipc_response_timeout_after_request_commit" => some "response_timeout_after_request_commit"
  | "ipc_response_transport_failure_after_request_commit" =>
    some "response_transport_failure_after_request_commit"
  | _ => none

def replayRecoverableProtocolReason (envelope : ErrorEnvelope) : Option String :=
  envelope.reason.bind ipcPossibleCommitRecoveryReasonFromContext

def replayRecoverableTransportReason : IpcClientError → Option String
  | .transport error => classifyIoTransient error
  | .protocol envelope => replayRecoverableProtocolReason envelope

variable (request : IpcRequest) (timeoutBudgetMs : Nat)

def replaySensitiveTimeoutSuggestion : String :=
  if request.commandId.isSome then
    "Retry only through the same command_id or replay-recovery lane; do not send a fresh command."
  else
    "Treat this request as possibly executed. Do not blindly retry without a command_id."

def sendContext (phase reason : String) (more : List (String × Json)) : Json :=
  object ([("phase", string phase), ("reason", string reason),
      ("command", string request.command), ("timeout_ms", natural timeoutBudgetMs),
      ("command_id_present", bool request.commandId.isSome)] ++ more ++
    (request.commandId.map fun id => ("command_id", string id)).toList)

def sendError (code : ErrorCode) (message phase reason : String)
    (more : List (String × Json)) : IpcClientError :=
  .protocol (((ErrorEnvelope.new code message).withContext
    (sendContext request timeoutBudgetMs phase reason more)).withSuggestion
      (replaySensitiveTimeoutSuggestion request))

def possibleRequestWriteTimeout : IpcClientError :=
  sendError request timeoutBudgetMs .ipcTimeout
    ("IPC request '" ++ request.command ++
      "' exceeded local write timeout after the request frame may already have been committed")
    "ipc_request_write" "ipc_request_write_timeout_after_possible_commit"
    [("request_commit_state", string "possible")]

def possibleRequestWriteTransportFailure (error : IoError) : IpcClientError :=
  sendError request timeoutBudgetMs .ipcProtocolError
    ("IPC request '" ++ request.command ++
      "' failed during local write after the request frame may already have been committed: " ++
      error.text)
    "ipc_request_write" "ipc_request_write_transport_failure_after_possible_commit"
    [("request_commit_state", string "possible"),
      ("transport_error_kind", string error.kind.debugName)]

def committedRequestTimeout : IpcClientError :=
  sendError request timeoutBudgetMs .ipcTimeout
    ("IPC request '" ++ request.command ++
      "' exceeded local response timeout after the request frame was already committed")
    "ipc_response_read" "ipc_response_timeout_after_request_commit"
    [("request_committed", bool true)]

def committedResponseTransportFailure (reason detail : String) : IpcClientError :=
  sendError request timeoutBudgetMs .ipcProtocolError
    ("IPC response transport failed after request '" ++ request.command ++ "' was committed: " ++
      detail)
    "ipc_response_read" "ipc_response_transport_failure_after_request_commit"
    [("transport_reason", string reason), ("request_committed", bool true)]

/-- Adds a member that is not there yet. -/
def Json.insertMissing (value : Json) (key : String) (inserted : Json) : Json :=
  if (value.get key).isSome then value else value.insert key inserted

/-- What a response that cannot be accepted is reported as; the reason it gives is kept. -/
def committedRequestProtocolFailure (envelope : ErrorEnvelope) : IpcClientError :=
  let context := (envelope.context.filter isObject).getD (object [])
  let context := context.insertMissing "phase" (string "ipc_response_read")
  let context := context.insertMissing "reason"
    (string "ipc_response_protocol_failure_after_request_commit")
  let context := context.insert "command" (string request.command)
  let context := context.insert "timeout_ms" (natural timeoutBudgetMs)
  let context := context.insert "request_committed" (bool true)
  let context := context.insert "command_id_present" (bool request.commandId.isSome)
  let context :=
    match request.commandId with
    | some commandId => context.insert "command_id" (string commandId)
    | none => context
  .protocol { envelope with context := some context }

/-- What reading a response frame as JSON fails with. -/
inductive ResponseReadFailure where
  | io (error : IoError)
  | json (text : String)

def responseTransportFailureReason : IoErrorKind → Option String
  | .unexpectedEof => some "partial_ndjson_frame"
  | .connectionReset => some "connection_reset"
  | .connectionAborted => some "connection_aborted"
  | .timedOut => some "response_read_timed_out"
  | .interrupted => some "response_read_interrupted"
  | .wouldBlock => some "response_read_would_block"
  | .brokenPipe => some "broken_pipe"
  | _ => none

def invalidResponse (message reason : String) : ErrorEnvelope :=
  (ErrorEnvelope.new .ipcProtocolError message).withContext
    (object [("phase", string "ipc_response_read"), ("reason", string reason)])

def responseReadError (failure : ResponseReadFailure) : IpcClientError :=
  match failure with
  | .json text =>
    committedRequestProtocolFailure request timeoutBudgetMs
      (invalidResponse ("Invalid JSON response body: " ++ text) "invalid_json_response")
  | .io error =>
    match responseTransportFailureReason error.kind, error.kind with
    | some reason, _ =>
      committedResponseTransportFailure request timeoutBudgetMs reason error.text
    | none, .invalidData =>
      committedRequestProtocolFailure request timeoutBudgetMs
        (invalidResponse ("Invalid IPC response frame: " ++ error.text)
          (if error.oversized then "oversized_ndjson_frame" else "invalid_ndjson_frame"))
    | none, _ => .transport error

structure IpcClient where
  connected : Bool
  deferred : Bool
  boundDaemonSessionId : Option String
  used : Bool

inductive WriteOutcome where
  | written
  | failed (error : IoError)
  | timedOut

inductive ReadOutcome where
  | frame (value : Json)
  | endOfFile
  | failed (failure : ResponseReadFailure)
  | timedOut

structure SendTransport where
  connect : Except IoError Unit
  write : WriteOutcome
  budgetLeft : Bool
  read : ReadOutcome

/-- The result of a send, with the request if it was written to the daemon. -/
structure SendReport where
  result : Except IpcClientError IpcResponse
  written : Option IpcRequest

def ipcClientTimeoutBufferMs : Nat := 1000

def transportError (kind : IoErrorKind) (text : String) : IpcClientError :=
  .transport ⟨kind, false, text⟩

/-- A client that is bound to a daemon sends its requests to that daemon only. -/
def IpcClient.bindRequest (client : IpcClient) (texts : ClientTexts) (request : IpcRequest) :
    Except IpcClientError IpcRequest :=
  match client.boundDaemonSessionId, request.daemonSessionId with
  | some bound, some given =>
    if given ≠ bound then
      .error (transportError .invalidInput
        ("IPC request daemon_session_id mismatch: client is bound to " ++ texts.quote bound ++
          ", request targeted " ++ texts.quote given))
    else .ok request
  | some bound, none =>
    if isBlank bound then
      .error (transportError .other "IPC daemon_session_id must be non-empty and non-whitespace")
    else .ok { request with daemonSessionId := some bound }
  | none, _ => .ok request

/-- The frame of a request has to fit; `payloadLen` is the length of its JSON text. -/
def checkRequestFrame (payloadLen : IpcRequest → Except String Nat) (request : IpcRequest) :
    Except IpcClientError Unit :=
  let report := fun (message reason : String) => IpcClientError.protocol
    ((ErrorEnvelope.new .ipcProtocolError message).withContext
      (object [("phase", string "ipc_request_write"), ("reason", string reason)]))
  match payloadLen request with
  | .error text =>
    .error (report ("Failed to encode IPC request: " ++ text) "invalid_json_request")
  | .ok length =>
    match ensurePayloadWithinLimit length with
    | .ok () => .ok ()
    | .error _ =>
      .error (report
        ("Invalid IPC request frame: NDJSON frame exceeds maximum on-wire size of " ++
          Nat.repr maxFrameBytes ++ " bytes") "oversized_ndjson_request")

def IpcClient.checkUnused (client : IpcClient) : Except IpcClientError Unit :=
  if client.used then
    .error (transportError .brokenPipe
      "IpcClient is single-use; open a new connection for each request")
  else .ok ()

/-- A client that has no stream yet connects now. -/
def IpcClient.takeStream (client : IpcClient) (transport : SendTransport) :
    Except IpcClientError Unit :=
  if client.connected then .ok ()
  else if client.deferred then transport.connect.mapError .transport
  else .error (transportError .brokenPipe "IpcClient has no remaining socket authority")

/-- The request that a client is about to write, once it is connected. -/
def IpcClient.prepare (client : IpcClient) (texts : ClientTexts)
    (payloadLen : IpcRequest → Except String Nat) (transport : SendTransport)
    (request : IpcRequest) : Except IpcClientError IpcRequest := do
  client.checkUnused
  let bound ← client.bindRequest texts request
  (IpcResponse.reject bound.contractErrorEnvelope).mapError .protocol
  checkRequestFrame payloadLen bound
  client.takeStream transport
  pure bound

def awaitResponse (texts : ClientTexts) (transport : SendTransport) (request : IpcRequest) :
    Except IpcClientError IpcResponse :=
  let timeoutBudgetMs := request.timeoutMs + ipcClientTimeoutBufferMs
  match transport.write with
  | .failed error => .error (possibleRequestWriteTransportFailure request timeoutBudgetMs error)
  | .timedOut => .error (possibleRequestWriteTimeout request timeoutBudgetMs)
  | .written =>
    if transport.budgetLeft then
      match transport.read with
      | .frame value =>
        match IpcResponse.fromValueTransport texts value request with
        | .ok response => .ok response
        | .error envelope =>
          .error (committedRequestProtocolFailure request timeoutBudgetMs envelope)
      | .endOfFile =>
        .error (committedResponseTransportFailure request timeoutBudgetMs
          "eof_before_response_frame" "daemon closed connection before response frame")
      | .failed failure => .error (responseReadError request timeoutBudgetMs failure)
      | .timedOut => .error (committedRequestTimeout request timeoutBudgetMs)
    else .error (committedRequestTimeout request timeoutBudgetMs)

def IpcClient.send (client : IpcClient) (texts : ClientTexts)
    (payloadLen : IpcRequest → Except String Nat) (transport : SendTransport)
    (request : IpcRequest) : SendReport :=
  match client.prepare texts payloadLen transport request with
  | .error error => ⟨.error error, none⟩
  | .ok bound => ⟨awaitResponse texts transport bound, some bound⟩

variable {texts : ClientTexts} {payloadLen : IpcRequest → Except String Nat}
  {transport : SendTransport} {client : IpcClient} {request bound : IpcRequest}

/-- What is written is the request, with the id of the daemon that the client is bound to if it
named none. -/
theorem bindRequest_eq_ok (ready : client.bindRequest texts request = .ok bound) :
    bound = { request with daemonSessionId := bound.daemonSessionId } ∧
      (request.daemonSessionId.isSome → bound = request) := by
  unfold IpcClient.bindRequest at ready
  (repeat' split at ready) <;> cases ready
  · exact ⟨rfl, fun _ => rfl⟩
  · simp [*]
  · exact ⟨rfl, fun _ => rfl⟩

theorem written_eq_some
    (sent : (client.send texts payloadLen transport request).written = some bound) :
    client.bindRequest texts request = .ok bound ∧
      (client.send texts payloadLen transport request).result =
        awaitResponse texts transport bound := by
  unfold IpcClient.send at sent ⊢
  split at sent <;> cases sent
  rename_i ready
  refine ⟨?_, rfl⟩
  obtain ⟨-, -, ready⟩ := except_bind_eq_ok.mp ready
  obtain ⟨named, bind, ready⟩ := except_bind_eq_ok.mp ready
  obtain ⟨-, -, ready⟩ := except_bind_eq_ok.mp ready
  obtain ⟨-, -, ready⟩ := except_bind_eq_ok.mp ready
  obtain ⟨-, -, ⟨⟩⟩ := except_bind_eq_ok.mp ready
  exact bind

/-- An envelope that names one of some reasons. -/
def Reported (reasons : List String) (envelope : ErrorEnvelope) : Prop :=
  ∃ entries reason, envelope.context = some (object entries) ∧
    entries.reverse.lookup "reason" = some (string reason) ∧ reason ∈ reasons

def responseReasons : List String :=
  ["invalid_ipc_response_schema", "ipc_response_protocol_version_mismatch",
    "invalid_ipc_response_contract", "ipc_response_command_id_mismatch",
    "ipc_response_missing_command_id", "ipc_response_unsolicited_command_id",
    "ipc_response_daemon_session_id_mismatch", "ipc_response_missing_daemon_session_id",
    "ipc_response_unsolicited_daemon_session_id", "invalid_json_response"]

variable {response : IpcResponse} {envelope : ErrorEnvelope}

theorem reported_responseSchemaError (message : String) :
    Reported responseReasons (responseSchemaError message) :=
  ⟨_, "invalid_ipc_response_schema", rfl, rfl, by decide⟩

open IpcResponse

theorem reported_contract
    (broken : response.contractErrorEnvelope (some request) true = some envelope) :
    Reported responseReasons envelope := by
  have field : ∀ message name, Reported responseReasons (fieldError message name) :=
    fun _ _ => ⟨_, "invalid_ipc_response_contract", rfl, rfl, by decide⟩
  have status : ∀ message, Reported responseReasons (response.statusError message) :=
    fun _ => ⟨_, "invalid_ipc_response_contract", rfl, rfl, by decide⟩
  unfold contractErrorEnvelope at broken
  simp only at broken
  (repeat' split at broken) <;> cases broken
  · exact ⟨_, "ipc_response_protocol_version_mismatch", rfl, rfl, by decide⟩
  iterate 3 exact field _ _
  iterate 4 exact status _

theorem reported_correlation
    (broken : response.correlationErrorEnvelope texts request = some envelope) :
    Reported responseReasons envelope := by
  rcases Option.or_eq_some_iff.mp broken with command | ⟨-, session⟩
  · unfold commandEchoError echoError at command
    (repeat' split at command) <;> cases command
    · exact ⟨_, "ipc_response_command_id_mismatch", rfl, rfl, by decide⟩
    · exact ⟨_, "ipc_response_missing_command_id", rfl, rfl, by decide⟩
    · exact ⟨_, "ipc_response_unsolicited_command_id", rfl, rfl, by decide⟩
  · unfold sessionEchoError echoError at session
    (repeat' split at session) <;> cases session
    · exact ⟨_, "ipc_response_daemon_session_id_mismatch", rfl, rfl, by decide⟩
    · exact ⟨_, "ipc_response_missing_daemon_session_id", rfl, rfl, by decide⟩
    · exact ⟨_, "ipc_response_unsolicited_daemon_session_id", rfl, rfl, by decide⟩

theorem eq_some_of_reject {report : Option ErrorEnvelope}
    (rejected : reject report = .error envelope) : report = some envelope := by
  cases report with
  | none => cases rejected
  | some =>
    cases rejected
    rfl

theorem reported_of_rejected {value : Json}
    (rejected : fromValueTransport texts value request = .error envelope) :
    Reported responseReasons envelope := by
  rcases except_bind_eq_error rejected with schema | ⟨raw, -, rejected⟩
  · unfold responseRawFromValue at schema
    split at schema <;> cases schema
    exact reported_responseSchemaError _
  rcases except_bind_eq_error rejected with unknown | ⟨response, -, rejected⟩
  · unfold responseFromRaw RawIpcResponse.rejectUnknownFields at unknown
    (repeat' split at unknown) <;> cases unknown
    exact reported_responseSchemaError _
  rcases except_bind_eq_error rejected with contract | ⟨-, -, rejected⟩
  · exact reported_contract (eq_some_of_reject contract)
  rcases except_bind_eq_error rejected with correlation | ⟨-, -, rejected⟩
  · exact reported_correlation (eq_some_of_reject correlation)
  · cases rejected

theorem Json.get_insertMissing_of_ne {value inserted : Json} {key name : String}
    (object : value.isObject = true) (other : name ≠ key) :
    (value.insertMissing key inserted).get name = value.get name := by
  unfold insertMissing
  split
  · rfl
  · rw [get_insert object, if_neg other]

theorem Json.insertMissing_of_given {value inserted given : Json} {key : String}
    (found : value.get key = some given) : value.insertMissing key inserted = value := by
  unfold insertMissing
  rw [found]
  rfl

@[simp] theorem Json.isObject_insertMissing (value inserted : Json) (key : String) :
    (value.insertMissing key inserted).isObject = value.isObject := by
  unfold insertMissing
  split
  · rfl
  · exact isObject_insert value key inserted

theorem reason_committedRequestProtocolFailure {context : Json} {reason : String}
    (request : IpcRequest) (timeoutBudgetMs : Nat) (given : envelope.context = some context)
    (object : context.isObject = true) (found : context.get "reason" = some (string reason)) :
    ∃ shown, committedRequestProtocolFailure request timeoutBudgetMs envelope = .protocol shown ∧
      shown.reason = some reason := by
  refine ⟨_, rfl, ?_⟩
  have kept : ((envelope.context.filter isObject).getD (Json.object [])) = context := by
    rw [given]
    simp [Option.filter, object]
  simp only [kept, ErrorEnvelope.reason]
  have phased : (context.insertMissing "phase" (string "ipc_response_read")).get "reason" =
      some (string reason) := by
    rw [get_insertMissing_of_ne object (by decide), found]
  rw [insertMissing_of_given phased]
  cases request.commandId <;> simp only [Option.bind_some]
  all_goals
    iterate rw [get_insert (by simp [object]), if_neg (by decide)]
    rw [phased]
    rfl

theorem not_recoverable_of_reported (reported : Reported responseReasons envelope)
    (timeoutBudgetMs : Nat) :
    replayRecoverableTransportReason
      (committedRequestProtocolFailure request timeoutBudgetMs envelope) = none := by
  obtain ⟨entries, reason, context, found, known⟩ := reported
  obtain ⟨shown, same, kept⟩ := reason_committedRequestProtocolFailure request
    timeoutBudgetMs context (isObject_object entries) ((get_object entries _).trans found)
  rw [same, replayRecoverableTransportReason, replayRecoverableProtocolReason, kept]
  have final : ∀ reason ∈ responseReasons,
      ipcPossibleCommitRecoveryReasonFromContext reason = none := by
    decide
  exact final reason known

/-- A whole response frame has arrived, whether or not it can be accepted. -/
def SendTransport.Completed (transport : SendTransport) : Prop :=
  transport.write = .written ∧ transport.budgetLeft = true ∧
    ((∃ value, transport.read = .frame value) ∨ ∃ text, transport.read = .failed (.json text))

theorem not_recoverable_of_completed {error : IpcClientError} (completed : transport.Completed)
    (failed : awaitResponse texts transport request = .error error) :
    replayRecoverableTransportReason error = none := by
  obtain ⟨written, budget, read⟩ := completed
  unfold awaitResponse at failed
  rw [written, budget] at failed
  rcases read with ⟨value, read⟩ | ⟨text, read⟩
  · simp only [read, if_true] at failed
    split at failed <;> cases failed
    exact not_recoverable_of_reported (reported_of_rejected ‹_›) _
  · simp only [read, if_true] at failed
    cases failed
    exact not_recoverable_of_reported ⟨_, "invalid_json_response", rfl, rfl, by decide⟩ _

end Rub
