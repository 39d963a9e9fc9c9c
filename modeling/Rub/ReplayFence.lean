import Rub.ReplayStore
import Rub.TransitionSystem

/-!
The replay fence of one daemon session. Requests run concurrently; each step below
is what one request does between two points where another may run: one critical
section of the replay tables, or a change of its own local state.
-/

namespace Rub

open Function

/-- What a run does not change: the requests sent to the session, and the
functions and names the session was built with. -/
structure ReplaySession (Id : Type) where
  request : Id → IpcRequest
  fingerprint : IpcRequest → String
  /-- The serialized length of a response, when it can be serialized. -/
  payloadLen : IpcResponse → Option Nat
  sessionId : String

inductive ReplayFinalizeMode where
  | releaseOnly | cacheCommittedResponse
  deriving DecidableEq

structure ReplayFenceOwner where
  commandId : String
  fingerprint : String
  finalize : ReplayFinalizeMode
  deriving DecidableEq

def ReplayFenceOwner.new (commandId fingerprint : String) : ReplayFenceOwner :=
  { commandId := commandId, fingerprint := fingerprint, finalize := .releaseOnly }

def ReplayFenceOwner.markExecutionStarted (owner : ReplayFenceOwner) : ReplayFenceOwner :=
  { owner with finalize := .cacheCommittedResponse }

structure PreparedCommandDispatch where
  requestId : String
  executionStarted : Bool
  replayOwner : Option ReplayFenceOwner

structure PendingResponseCommit where
  request : IpcRequest
  response : IpcResponse
  executionStarted : Bool
  daemonRequestCommitted : Bool
  replayOwner : Option ReplayFenceOwner

def encodedFrameLen (payloadLen : IpcResponse → Option Nat) (response : IpcResponse) :
    Option Nat :=
  (payloadLen response).map (saturatingAdd · 1)

def serializedJsonLen (payloadLen : IpcResponse → Option Nat) (response : IpcResponse) : Nat :=
  (payloadLen response).getD maxFrameBytes

/-- The response sent in place of one that does not fit a frame. -/
def frameOverflowResponse (request : IpcRequest) (response : IpcResponse)
    (daemonRequestCommitted : Bool) (encodedLen : Nat) : IpcResponse :=
  let overflow := (IpcResponse.failure response.requestId
    ((ErrorEnvelope.new .ipcProtocolError
      ("Command '" ++ request.command ++ "' response exceeded the IPC frame limit; " ++
        "reduce payload size or save large artifacts to disk")).withContext
      (Json.object [
        ("reason", .string "response_exceeds_ipc_frame_limit"),
        ("command", .string request.command),
        ("max_frame_bytes", .natural maxFrameBytes),
        ("encoded_frame_bytes", .natural encodedLen),
        ("daemon_request_committed", .bool daemonRequestCommitted),
        ("safe_to_rerun_with_new_command_id", .bool !daemonRequestCommitted),
        ("recovery_authority", .string (if daemonRequestCommitted then
            "replay_same_command_id_or_reduce_response_projection"
          else "request_not_committed"))]))).withTiming response.timing
  { overflow with
    commandId := response.commandId
    daemonSessionId := response.daemonSessionId }

def enforceResponseFrameLimit (payloadLen : IpcResponse → Option Nat) (request : IpcRequest)
    (response : IpcResponse) (daemonRequestCommitted : Bool) : IpcResponse :=
  let encodedLen := (encodedFrameLen payloadLen response).getD usizeMax
  if encodedLen ≤ maxFrameBytes then response
  else frameOverflowResponse request response daemonRequestCommitted encodedLen

def attachRequestCommandId (request : IpcRequest) (response : IpcResponse) : IpcResponse :=
  match request.commandId with
  | some commandId => response.withCommandId commandId
  | none => response

def replayFingerprintConflictResponse (requestId command commandId : String) : IpcResponse :=
  IpcResponse.failure requestId
    ((ErrorEnvelope.new .ipcProtocolError
      ("command_id '" ++ commandId ++ "' was reused for a different request than '" ++
        command ++ "'")).withContext
      (Json.object [
        ("command", .string command),
        ("command_id", .string commandId),
        ("reason", .string "replay_command_id_fingerprint_mismatch")]))

def replaySpentResponseEvictedResponse (request : IpcRequest) (requestId commandId : String) :
    IpcResponse :=
  IpcResponse.failure requestId
    (((ErrorEnvelope.new .ipcProtocolError
      ("command_id '" ++ commandId ++ "' already entered execution for '" ++ request.command ++
        "' but the original response is no longer retained")).withSuggestion
      ("Do not rerun this command with a new command_id unless the action is known to be safe. " ++
        "Inspect command history or doctor if you need the original outcome.")).withContext
      (Json.object [
        ("command", .string request.command),
        ("command_id", .string commandId),
        ("reason", .string "replay_command_id_already_spent_original_response_evicted"),
        ("original_response_retained", .bool false),
        ("safe_to_rerun", .bool false),
        ("recovery_contract", .string "already_executed_response_evicted_do_not_rerun")]))

def replayTimeoutResponse (request : IpcRequest) (requestId commandId : String)
    (timeoutMs elapsedMs : Nat) : IpcResponse :=
  IpcResponse.failure requestId
    ((ErrorEnvelope.new .ipcTimeout
      ("Command '" ++ request.command ++
        "' timed out waiting for an earlier in-flight request with the same command_id")).withContext
      (Json.object [
        ("command", .string request.command),
        ("command_id", .string commandId),
        ("phase", .string "replay_fence"),
        ("transaction_timeout_ms", .natural timeoutMs),
        ("elapsed_ms", .natural elapsedMs),
        ("reason", .string "replay_fence_wait_timeout")]))

namespace PendingResponseCommit

def new (request : IpcRequest) (response : IpcResponse) (executionStarted : Bool)
    (replayOwner : Option ReplayFenceOwner) : PendingResponseCommit :=
  let identified := match replayOwner with
    | some owner => response.withCommandId owner.commandId
    | none => attachRequestCommandId request response
  { request := request, response := identified, executionStarted := executionStarted,
    daemonRequestCommitted := executionStarted, replayOwner := replayOwner }

def withCommittedDaemonRequestAuthority (commit : PendingResponseCommit) :
    PendingResponseCommit :=
  { commit with daemonRequestCommitted := true }

/-- The commit of a request the replay fence answers itself. -/
def answeredByFence (request : IpcRequest) (response : IpcResponse) (committed : Bool) :
    PendingResponseCommit :=
  let pending := new request (attachRequestCommandId request response) false none
  if committed then pending.withCommittedDaemonRequestAuthority else pending

def responseForTransport (payloadLen : IpcResponse → Option Nat) (commit : PendingResponseCommit)
    (daemonSessionId : String) : IpcResponse :=
  enforceResponseFrameLimit payloadLen commit.request
    (commit.response.withDaemonSessionId daemonSessionId) commit.daemonRequestCommitted

end PendingResponseCommit

def PreparedCommandDispatch.markExecutionStarted (dispatch : PreparedCommandDispatch) :
    PreparedCommandDispatch :=
  { dispatch with
    executionStarted := true
    replayOwner := dispatch.replayOwner.map ReplayFenceOwner.markExecutionStarted }

def PreparedCommandDispatch.prepareResponseCommit (dispatch : PreparedCommandDispatch)
    (request : IpcRequest) (response : IpcResponse) : PendingResponseCommit :=
  .new request response dispatch.executionStarted dispatch.replayOwner

inductive FinalizeStage where
  | markSpent | cacheResponse | release
  deriving DecidableEq

inductive RequestPhase where
  | incoming
  | claiming (requestId : String)
  | waiting (requestId : String) (receiver : Nat)
  | dispatched (dispatch : PreparedCommandDispatch)
  | committing (commit : PendingResponseCommit)
  /-- Inside `finalize_replay_fence`, about to take the lock of `stage`. -/
  | finalizing (stage : FinalizeStage) (owner : ReplayFenceOwner) (response : IpcResponse)
  /-- Inside the drop of a started owner: the id is spent, the release is to come. -/
  | dropping (owner : ReplayFenceOwner)
  | finished

/-- The owner a request still has to release. -/
def RequestPhase.owner : RequestPhase → Option ReplayFenceOwner
  | .dispatched dispatch => dispatch.replayOwner
  | .committing commit => commit.replayOwner
  | .finalizing _ owner _ => some owner
  | .dropping owner => some owner
  | _ => none

/-- Which of the commit functions finalizes a response; a local commit caches the
response without the daemon session id the other two attach. -/
inductive CommitRoute where
  | locally | afterDelivery | afterDeliveryFailure
  deriving DecidableEq

structure FenceState (Id : Type) where
  replay : ReplayProtocolState
  phase : Id → RequestPhase
  nextChannel : Nat
  /-- The watch channels on which `Released` was sent. -/
  released : List Nat
  /-- The requests that reached `mark_execution_started`, in that order. -/
  executions : List Id
  /-- The pending commit each request ended in. -/
  commits : Id → Option PendingResponseCommit

inductive FenceAction (Id : Type) where
  | preflight (i : Id) (requestId : String)
  /-- The handshake and the preflight rejections answer before the replay fence. -/
  | turnAway (i : Id) (response : IpcResponse)
  | claim (i : Id)
  | wake (i : Id)
  | waitTimeout (i : Id) (timeoutMs elapsedMs : Nat)
  | markExecutionStarted (i : Id)
  /-- The command result, or the response that gives up before execution. -/
  | respond (i : Id) (response : IpcResponse)
  | beginCommit (i : Id) (route : CommitRoute)
  | finalizeStep (i : Id)
  | dropOwner (i : Id)
  | dropRelease (i : Id)

/-- The request whose step an action is. -/
def FenceAction.actor {Id : Type} : FenceAction Id → Id
  | .preflight i _ => i
  | .turnAway i _ => i
  | .claim i => i
  | .wake i => i
  | .waitTimeout i _ _ => i
  | .markExecutionStarted i => i
  | .respond i _ => i
  | .beginCommit i _ => i
  | .finalizeStep i => i
  | .dropOwner i => i
  | .dropRelease i => i

namespace ReplaySession

variable {Id : Type} [DecidableEq Id] (session : ReplaySession Id)

def initialState : FenceState Id :=
  { replay := .empty, phase := fun _ => .incoming, nextChannel := 0, released := [],
    executions := [], commits := fun _ => none }

variable (state : FenceState Id)

def moveTo (i : Id) (phase : RequestPhase) : FenceState Id :=
  { state with phase := update state.phase i phase }

def commitWith (i : Id) (commit : PendingResponseCommit) : FenceState Id :=
  { moveTo state i (.committing commit) with
    commits := update state.commits i (some commit) }

/-- `release_replay_command`: the entry leaves the table and its waiters are told. -/
def release (i : Id) (commandId : String) : FenceState Id :=
  let (entry, replay) := state.replay.releaseReplayCommand commandId
  { moveTo state i .finished with
    replay := replay
    released := (entry.map ReplayInFlightEntry.sender).toList ++ state.released }

/-- One turn of the loop of `prepare_replay_fence`, given what the claim returned. -/
def afterClaim (i : Id) (requestId commandId : String) :
    ReplayCommandClaim × ReplayProtocolState → FenceState Id
  | (.cached response, _) =>
    commitWith state i (.answeredByFence (session.request i) response true)
  | (.owner, replay) =>
    { moveTo state i (.dispatched
        { requestId := requestId, executionStarted := false,
          replayOwner := some
            (.new commandId (session.fingerprint (session.request i))) }) with
      replay := replay
      nextChannel := state.nextChannel + 1 }
  | (.conflict, _) =>
    commitWith state i (.answeredByFence (session.request i)
      (replayFingerprintConflictResponse requestId (session.request i).command commandId) false)
  | (.spentWithoutCachedResponse, _) =>
    commitWith state i (.answeredByFence (session.request i)
      (replaySpentResponseEvictedResponse (session.request i) requestId commandId) true)
  | (.wait receiver, _) => moveTo state i (.waiting requestId receiver)

def claimCommand (i : Id) (requestId commandId : String) : FenceState Id :=
  session.afterClaim state i requestId commandId
    (state.replay.claimReplayCommand state.nextChannel commandId
      (session.fingerprint (session.request i)))

/-- The response `finalize_replay_fence` is given. -/
def responseToCache (commit : PendingResponseCommit) : CommitRoute → IpcResponse
  | .locally => commit.response
  | .afterDelivery => commit.response.withDaemonSessionId session.sessionId
  | .afterDeliveryFailure => commit.response.withDaemonSessionId session.sessionId

def finalize (i : Id) (owner : ReplayFenceOwner) (response : IpcResponse) :
    FinalizeStage → FenceState Id
  | .markSpent =>
    { moveTo state i (.finalizing .cacheResponse owner response) with
      replay := state.replay.markReplayCommandSpent owner.commandId owner.fingerprint }
  | .cacheResponse =>
    { moveTo state i (.finalizing .release owner response) with
      replay := state.replay.cacheResponse owner.commandId owner.fingerprint response
        (serializedJsonLen session.payloadLen response) }
  | .release => release state i owner.commandId

/-- The drop of an owner that was never finalized. -/
def dropOwned (i : Id) (owner : ReplayFenceOwner) : FenceState Id :=
  match owner.finalize with
  | .cacheCommittedResponse =>
    { moveTo state i (.dropping owner) with
      replay := state.replay.markReplayCommandSpent owner.commandId owner.fingerprint }
  | .releaseOnly => release state i owner.commandId

def step : FenceAction Id → Option (FenceState Id)
  | .preflight i requestId =>
    match state.phase i with
    | .incoming => some (moveTo state i (.claiming requestId))
    | _ => none
  | .turnAway i response =>
    match state.phase i with
    | .incoming => some (commitWith state i (.new (session.request i) response false none))
    | _ => none
  | .claim i =>
    match state.phase i with
    | .claiming requestId =>
      match (session.request i).commandId with
      | none => some (moveTo state i (.dispatched
          { requestId := requestId, executionStarted := false, replayOwner := none }))
      | some commandId => some (session.claimCommand state i requestId commandId)
    | _ => none
  | .wake i =>
    match state.phase i with
    | .waiting requestId receiver =>
      if receiver ∈ state.released then some (moveTo state i (.claiming requestId)) else none
    | _ => none
  | .waitTimeout i timeoutMs elapsedMs =>
    match state.phase i, (session.request i).commandId with
    | .waiting requestId _, some commandId =>
      some (commitWith state i (.answeredByFence (session.request i)
        (replayTimeoutResponse (session.request i) requestId commandId timeoutMs elapsedMs)
        false))
    | _, _ => none
  | .markExecutionStarted i =>
    match state.phase i with
    | .dispatched dispatch =>
      if dispatch.executionStarted then none
      else some { moveTo state i (.dispatched dispatch.markExecutionStarted) with
        executions := state.executions ++ [i] }
    | _ => none
  | .respond i response =>
    match state.phase i with
    | .dispatched dispatch =>
      some (commitWith state i (dispatch.prepareResponseCommit (session.request i) response))
    | _ => none
  | .beginCommit i route =>
    match state.phase i with
    | .committing commit =>
      match commit.replayOwner with
      | none => some (moveTo state i .finished)
      | some owner =>
        let stage := match owner.finalize with
          | .cacheCommittedResponse => .markSpent
          | .releaseOnly => .release
        some (moveTo state i
          (.finalizing stage owner (session.responseToCache commit route)))
    | _ => none
  | .finalizeStep i =>
    match state.phase i with
    | .finalizing stage owner response => some (session.finalize state i owner response stage)
    | _ => none
  | .dropOwner i =>
    match state.phase i with
    | .dropping _ => none
    | .finished => none
    | phase =>
      match phase.owner with
      | some owner => some (dropOwned state i owner)
      | none => some (moveTo state i .finished)
  | .dropRelease i =>
    match state.phase i with
    | .dropping owner => some (release state i owner.commandId)
    | _ => none

@[simp] theorem moveTo_phase_self (i : Id) (phase : RequestPhase) :
    (moveTo state i phase).phase i = phase := update_self ..

variable {i j : Id}

theorem moveTo_phase_of_ne (phase : RequestPhase) (other : j ≠ i) :
    (moveTo state i phase).phase j = state.phase j :=
  update_of_ne other ..

@[simp] theorem commitWith_phase_self (i : Id) (commit : PendingResponseCommit) :
    (commitWith state i commit).phase i = .committing commit :=
  update_self ..

@[simp] theorem release_phase_self (i : Id) (commandId : String) :
    (release state i commandId).phase i = .finished := update_self ..

theorem commitWith_phase_of_ne (commit : PendingResponseCommit) (other : j ≠ i) :
    (commitWith state i commit).phase j = state.phase j :=
  update_of_ne other ..

def fence : TransitionSystem (FenceState Id) (FenceAction Id) :=
  { initial := initialState, step := session.step }

end ReplaySession

end Rub
