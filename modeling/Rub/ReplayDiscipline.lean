import Rub.ClientRetry
import Rub.ClientSend
import Rub.SecretResolution

/-!
When the client sends a request again: once, after a transport error that may be recovered,
with the same command id, and only to the daemon of the first attempt.
-/

namespace Rub

open Json List

/-- Adds members to an object; a later one takes the place of an earlier one. -/
def Json.extend (value : Json) (members : List (String × Json)) : Json :=
  members.foldl (fun value member => value.insert member.1 member.2) value

def ipcErrorFromSource (fallbackCode : ErrorCode) (label : String) (error : IpcClientError)
    (commandId : Option String) (extra : List (String × Json)) : RubError :=
  let named := fun context : Json =>
    match commandId with
    | some commandId => context.insert "command_id" (string commandId)
    | none => context
  match error with
  | .protocol envelope =>
    let context := named ((envelope.context.filter isObject).getD (object []))
    .domain ((ErrorEnvelope.new envelope.code (label ++ ": " ++ envelope.message)).withContext
      (context.extend extra))
  | .transport error =>
    .domain ((ErrorEnvelope.new fallbackCode (label ++ ": " ++ error.text)).withContext
      ((named (object [])).extend extra))

def ipcTransportError (error : IpcClientError) (commandId : Option String)
    (extra : List (String × Json)) : RubError :=
  ipcErrorFromSource .ipcProtocolError "IPC error" error commandId extra

def ipcTimeoutError (error : IpcClientError) (commandId : Option String)
    (extra : List (String × Json)) : RubError :=
  ipcErrorFromSource .ipcTimeout "IPC timeout" error commandId extra

def ipcBudgetExhaustedError (commandId : Option String) (originalTimeoutMs : Nat)
    (phase : String) : RubError :=
  ipcErrorFromSource .ipcTimeout "IPC timeout"
    (.transport ⟨.other, false, "IPC request exhausted the declared timeout budget of " ++
      Nat.repr originalTimeoutMs ++ "ms"⟩) commandId
    [("reason", string "ipc_replay_budget_exhausted"), ("phase", string phase),
      ("original_timeout_ms", natural originalTimeoutMs)]

inductive ReplayReconnectStrategy where
  | existing | bootstrap

/-- What a send is made with: the daemon it goes to, how that daemon is found again, and the
contract that tells how a lost commit can be looked up. -/
structure ReplaySendLifecycle where
  originalDaemonSessionId : Option String
  strategy : ReplayReconnectStrategy
  recoveryContract : String → Json

inductive DaemonConnection where
  | connected (client : IpcClient) (daemonSessionId : Option String)
  | needStart

/-- What happens outside of the client while it sends: the time that is left whenever it is
read, the transport in each attempt, and the daemon that is found when it reconnects. -/
structure ReplayWorld where
  initialMs : Nat
  reconnectMs : Nat
  replayMs : Nat
  elapsedMs : Nat
  first : SendTransport
  second : SendTransport
  existing : Except RubError DaemonConnection
  bootstrap : Except RubError (IpcClient × Option String)

structure ReplayAttempt where
  commandId : String
  retryReason : String
  originalTimeoutMs : Nat

/-- A request that was written to a daemon, with the id that was confirmed for the daemon and
how the attempt ended. -/
structure RequestWrite where
  request : IpcRequest
  daemonSessionId : Option String
  ended : Except IpcClientError IpcResponse

structure ReplaySend where
  result : Except RubError IpcResponse
  writes : List RequestWrite

def bindRequestToDaemonAuthority (request : IpcRequest) (daemonSessionId : Option String) :
    IpcRequest :=
  match request.daemonSessionId, daemonSessionId with
  | none, some daemonSessionId => { request with daemonSessionId := some daemonSessionId }
  | _, _ => request

def replayRetryMatchesDaemonAuthority (original reconnected : Option String) : Bool :=
  match original, reconnected with
  | some original, some reconnected => original == reconnected
  | _, _ => false

namespace ReplaySendLifecycle

variable (lifecycle : ReplaySendLifecycle) (world : ReplayWorld)

def replayRecoveryContext : Json :=
  Json.optional (lifecycle.originalDaemonSessionId.map lifecycle.recoveryContract)

def budgetExhaustedAfterTransport (error : IpcClientError) (attempt : ReplayAttempt)
    (phase : Option String) : RubError :=
  ipcTimeoutError error (some attempt.commandId)
    [("reason", string "ipc_replay_budget_exhausted"),
      ("retry_reason", string attempt.retryReason),
      ("elapsed_ms", natural world.elapsedMs),
      ("original_timeout_ms", natural attempt.originalTimeoutMs),
      ("phase", optionalText phase),
      ("recovery_contract", lifecycle.replayRecoveryContext)]

def identityChangedError (error : IpcClientError) (attempt : ReplayAttempt)
    (reconnected : Option String) : RubError :=
  ipcTransportError error (some attempt.commandId)
    [("reason", string "ipc_replay_daemon_identity_changed"),
      ("retry_reason", string attempt.retryReason),
      ("original_daemon_session_id", optionalText lifecycle.originalDaemonSessionId),
      ("reconnected_daemon_session_id", optionalText reconnected),
      ("recovery_contract", lifecycle.replayRecoveryContext)]

/-- A daemon that cannot be reached again; `more` tells why. -/
def reconnectError (error : IpcClientError) (attempt : ReplayAttempt) (reason : String)
    (more : List (String × Json)) : RubError :=
  ipcTransportError error (some attempt.commandId)
    ([("reason", string reason), ("retry_reason", string attempt.retryReason),
      ("original_daemon_session_id", optionalText lifecycle.originalDaemonSessionId),
      ("elapsed_ms", natural world.elapsedMs)] ++ more ++
      [("recovery_contract", lifecycle.replayRecoveryContext)])

def replayReconnectFailedError (error : IpcClientError) (attempt : ReplayAttempt)
    (reconnect : RubError) : RubError :=
  lifecycle.reconnectError world error attempt "ipc_replay_reconnect_failed"
    [("reconnect_error", reconnect.intoEnvelope.toValue)]

def reconnectClient (error : IpcClientError) (attempt : ReplayAttempt) :
    Except RubError (IpcClient × Option String) :=
  if world.reconnectMs = 0 then
    .error (lifecycle.budgetExhaustedAfterTransport world error attempt none)
  else
    match lifecycle.strategy with
    | .existing =>
      match world.existing with
      | .ok (.connected client daemonSessionId) => .ok (client, daemonSessionId)
      | .ok .needStart =>
        .error (lifecycle.reconnectError world error attempt
          "ipc_replay_existing_daemon_unavailable" [])
      | .error reconnect =>
        .error (lifecycle.replayReconnectFailedError world error attempt reconnect)
    | .bootstrap =>
      world.bootstrap.mapError (lifecycle.replayReconnectFailedError world error attempt)

def projectRetryRequest (error : IpcClientError) (request : IpcRequest)
    (attempt : ReplayAttempt) : Except RubError IpcRequest :=
  match projectRequestOntoDeadline request world.replayMs with
  | none =>
    .error (lifecycle.budgetExhaustedAfterTransport world error attempt (some "replay_send"))
  | some replay =>
    if replay.timeoutMs = 0 then
      .error (lifecycle.budgetExhaustedAfterTransport world error attempt (some "replay_send"))
    else .ok replay

/-- The client of the second attempt, with the id that was confirmed for its daemon, and the
request it sends. -/
def reconnectForReplay (error : IpcClientError) (request : IpcRequest) (attempt : ReplayAttempt) :
    Except RubError ((IpcClient × Option String) × IpcRequest) :=
  match lifecycle.reconnectClient world error attempt with
  | .error error => .error error
  | .ok (client, daemonSessionId) =>
    if replayRetryMatchesDaemonAuthority lifecycle.originalDaemonSessionId daemonSessionId then
      (lifecycle.projectRetryRequest world error request attempt).map fun replay =>
        ((client, daemonSessionId), replay)
    else .error (lifecycle.identityChangedError error attempt daemonSessionId)

variable (texts : ClientTexts) (payloadLen : IpcRequest → Except String Nat)

def retryAfterTransport (error : IpcClientError) (request : IpcRequest)
    (originalTimeoutMs : Nat) : ReplaySend :=
  match request.commandId with
  | none => ⟨.error (ipcTransportError error none []), []⟩
  | some commandId =>
    match replayRecoverableTransportReason error with
    | none => ⟨.error (ipcTransportError error (some commandId) []), []⟩
    | some retryReason =>
      match lifecycle.reconnectForReplay world error request
          { commandId, retryReason, originalTimeoutMs } with
      | .error failure => ⟨.error failure, []⟩
      | .ok ((client, daemonSessionId), replay) =>
        let report := client.send texts payloadLen world.second replay
        { result := report.result.mapError fun replayError =>
            ipcTransportError replayError (some commandId)
              [("reason", string "ipc_replay_retry_failed"),
                ("retry_reason", string retryReason),
                ("daemon_session_id", optionalText lifecycle.originalDaemonSessionId),
                ("elapsed_ms", natural world.elapsedMs),
                ("remaining_timeout_ms", natural replay.timeoutMs),
                ("recovery_contract", lifecycle.replayRecoveryContext)]
          writes := report.written.toList.map fun written =>
            ⟨written, daemonSessionId, report.result⟩ }

def send (client : IpcClient) (request : IpcRequest) : ReplaySend :=
  let request := bindRequestToDaemonAuthority request lifecycle.originalDaemonSessionId
  match projectRequestOntoDeadline request world.initialMs with
  | none =>
    ⟨.error (ipcBudgetExhaustedError request.commandId request.timeoutMs "initial_send"), []⟩
  | some projected =>
    let report := client.send texts payloadLen world.first projected
    let writes := report.written.toList.map fun written =>
      ⟨written, lifecycle.originalDaemonSessionId, report.result⟩
    match report.result with
    | .ok response => ⟨.ok response, writes⟩
    | .error error =>
      let retry :=
        lifecycle.retryAfterTransport world texts payloadLen error projected request.timeoutMs
      ⟨retry.result, writes ++ retry.writes⟩

end ReplaySendLifecycle

variable (request : IpcRequest)

theorem alignEmbeddedTimeoutAuthority_eq : alignEmbeddedTimeoutAuthority request =
      { request with args := (alignEmbeddedTimeoutAuthority request).args } := by
  unfold alignEmbeddedTimeoutAuthority alignWaitAfterTimeoutAuthority overwriteEmbeddedTimeouts
  split <;> split <;> rfl

variable {projected bound : IpcRequest} {write : RequestWrite} {name : String}

theorem get_budget_alignedArgs (budget : name ∈ ["timeout_ms", "wait_timeout_ms"]) :
    (alignEmbeddedTimeoutAuthority request).args.get name =
      match embeddedTimeoutBudgetMs request with
      | some budgetMs => (request.args.get name).map fun _ => natural budgetMs
      | none => request.args.get name := by
  have overwritten : (overwriteEmbeddedTimeouts request).args.get name =
      match embeddedTimeoutBudgetMs request with
      | some budgetMs => (request.args.get name).map fun _ => natural budgetMs
      | none => request.args.get name := by
    unfold overwriteEmbeddedTimeouts
    cases embeddedTimeoutBudgetMs request with
    | none => rfl
    | some =>
      simp only [get_overwrite]
      rcases mem_cons.mp budget with rfl | other
      · simp
      · cases mem_singleton.mp other
        simp
  have other : name ≠ "wait_after" := by
    rintro rfl
    revert budget
    decide
  rw [← overwritten]
  cases waited : waitAfterMember request.args with
  | none => rw [alignedArgs_of_unwaited request waited]
  | some =>
    have object : (overwriteEmbeddedTimeouts request).args.isObject = true :=
      (overwriteEmbeddedTimeouts_args request).object.trans
        (isObject_of_get (waitAfterMember_eq_some waited).1)
    rw [alignedArgs_of_waited request waited, get_insert object, if_neg other]

theorem commandOwns_aligned (timeoutMs : Nat) : commandOwnsEmbeddedTimeoutAuthority
        ((alignEmbeddedTimeoutAuthority request).withTimeout timeoutMs) =
      commandOwnsEmbeddedTimeoutAuthority request := by
  have sub : (alignEmbeddedTimeoutAuthority request).args.get "sub" = request.args.get "sub" :=
    get_alignedArgs request (by decide) (by decide) (by decide)
  have wait : (alignEmbeddedTimeoutAuthority request).args.get "wait" = request.args.get "wait" :=
    get_alignedArgs request (by decide) (by decide) (by decide)
  have listed : ((alignEmbeddedTimeoutAuthority request).args.get "wait_timeout_ms").isSome =
      (request.args.get "wait_timeout_ms").isSome := by
    rw [get_budget_alignedArgs request (by decide)]
    cases embeddedTimeoutBudgetMs request with
    | none => rfl
    | some => simp
  simp only [commandOwnsEmbeddedTimeoutAuthority, requestSubIs, requestSubIsAny,
    IpcRequest.withTimeout, alignEmbeddedTimeoutAuthority_command, sub, wait, listed]
  rfl

/-- A request that differs from another one only in budgets that are cut down to a deadline. -/
structure DeadlineShrunk (first second : IpcRequest) : Prop where
  command : second.command = first.command
  commandId : second.commandId = first.commandId
  daemonSessionId : second.daemonSessionId = first.daemonSessionId
  timeout : second.timeoutMs ≤ first.timeoutMs
  scalar : first.args.isObject = false → second.args = first.args
  members : ∀ name, name ∉ ["timeout_ms", "wait_timeout_ms", "wait_after"] →
    second.args.get name = first.args.get name
  budgets : ∀ name ∈ ["timeout_ms", "wait_timeout_ms"],
    second.args.get name = first.args.get name ∨
      ∃ firstMs secondMs, first.args.get name = some (natural firstMs) ∧
        second.args.get name = some (natural secondMs) ∧ secondMs ≤ firstMs
  waits : second.args.get "wait_after" = first.args.get "wait_after" ∨
    ∃ firstWait secondWait, first.args.get "wait_after" = some firstWait ∧
      second.args.get "wait_after" = some secondWait ∧
      (∀ key, key ≠ "timeout_ms" → secondWait.get key = firstWait.get key) ∧
      requestedWaitAfterMs secondWait ≤ requestedWaitAfterMs firstWait

variable {request first second : IpcRequest} {firstMs secondMs : Nat}

/-- A budget member of a request that was aligned before is overwritten with a smaller one. -/
theorem budget_shrinks (budget : name ∈ ["timeout_ms", "wait_timeout_ms"])
    (aligned : first = alignEmbeddedTimeoutAuthority request)
    (within : secondMs ≤ request.timeoutMs) :
    (alignEmbeddedTimeoutAuthority (first.withTimeout secondMs)).args.get name =
        first.args.get name ∨
      ∃ earlier later, first.args.get name = some (natural earlier) ∧
        (alignEmbeddedTimeoutAuthority (first.withTimeout secondMs)).args.get name =
          some (natural later) ∧ later ≤ earlier := by
  have owns : commandOwnsEmbeddedTimeoutAuthority (first.withTimeout secondMs) =
      commandOwnsEmbeddedTimeoutAuthority request := by
    rw [aligned]
    exact commandOwns_aligned request secondMs
  have second := get_budget_alignedArgs (first.withTimeout secondMs) budget
  have before := get_budget_alignedArgs request budget
  rw [← aligned] at before
  unfold embeddedTimeoutBudgetMs at second before
  rw [owns] at second
  cases owned : commandOwnsEmbeddedTimeoutAuthority request with
  | false =>
    rw [owned] at second
    exact .inl second
  | true =>
    rw [owned] at second before
    cases given : request.args.get name with
    | none =>
      rw [given] at before
      have absent : first.args.get name = none := before
      refine .inl (second.trans ?_)
      show (first.args.get name).map _ = first.args.get name
      rw [absent]
      rfl
    | some =>
      rw [given] at before
      have present : first.args.get name = some (natural (request.timeoutMs - 5000)) := before
      refine .inr ⟨request.timeoutMs - 5000, secondMs - 5000, present, second.trans ?_, ?_⟩
      · show (first.args.get name).map _ = _
        rw [present]
        rfl
      · omega

/-- A post-action wait is given less time, and nothing else of it changes. -/
theorem wait_shrinks (timeoutMs : Nat) :
    (alignEmbeddedTimeoutAuthority (first.withTimeout timeoutMs)).args.get "wait_after" =
        first.args.get "wait_after" ∨
      ∃ earlier later, first.args.get "wait_after" = some earlier ∧
        (alignEmbeddedTimeoutAuthority (first.withTimeout timeoutMs)).args.get "wait_after" =
          some later ∧
        (∀ key, key ≠ "timeout_ms" → later.get key = earlier.get key) ∧
        requestedWaitAfterMs later ≤ requestedWaitAfterMs earlier ∧
        requestedWaitAfterMs later ≤ timeoutMs := by
  cases waited : waitAfterMember first.args with
  | none =>
    left
    rw [alignedArgs_of_unwaited (first.withTimeout timeoutMs) waited,
      (overwriteEmbeddedTimeouts_args _).others (by decide) (by decide)]
    rfl
  | some waitAfter =>
    obtain ⟨given, object⟩ := waitAfterMember_eq_some waited
    refine .inr ⟨waitAfter, alignWaitAfter waitAfter timeoutMs, given, ?_, ?_, ?_⟩
    · rw [get_alignedArgs_of_waited (first.withTimeout timeoutMs) waited (by decide) (by decide),
        if_pos rfl]
      rfl
    · intro key other
      unfold alignWaitAfter
      simp only
      split
      · rw [get_insert object, if_neg other]
      · rfl
    · rw [requestedWaitAfterMs_align object]
      exact ⟨Nat.min_le_left _ _, Nat.min_le_right _ _⟩

/-- Sending a projected request again cuts its budgets down further, and changes nothing else. -/
theorem deadlineShrunk_of_projected
    (firstSent : projectRequestOntoDeadline request firstMs = some first)
    (secondSent : projectRequestOntoDeadline first secondMs = some second) :
    DeadlineShrunk first second := by
  have firstEq := projectRequestOntoDeadline_eq_some request firstSent
  have secondEq := projectRequestOntoDeadline_eq_some first secondSent
  have whole := alignEmbeddedTimeoutAuthority_eq (first.withTimeout (min first.timeoutMs secondMs))
  rw [← secondEq] at whole
  have timeoutMs : first.timeoutMs = min request.timeoutMs firstMs := by
    rw [firstEq, alignEmbeddedTimeoutAuthority_eq]
    rfl
  have within : min first.timeoutMs secondMs ≤ min request.timeoutMs firstMs := by omega
  refine
    { command := by rw [whole]; rfl
      commandId := by rw [whole]; rfl
      daemonSessionId := by rw [whole]; rfl
      timeout := by rw [whole]; exact Nat.min_le_left _ _
      scalar := ?_
      members := ?_
      budgets := ?_
      waits := ?_ }
  · intro scalar
    rw [secondEq]
    exact alignedArgs_of_not_object (first.withTimeout _) scalar
  · intro name other
    simp only [mem_cons, not_mem_nil, or_false, not_or] at other
    rw [secondEq]
    exact get_alignedArgs (first.withTimeout _) other.1 other.2.1 other.2.2
  · intro name budget
    rw [secondEq]
    exact budget_shrinks budget firstEq within
  · rw [secondEq]
    refine (wait_shrinks _).imp_right ?_
    rintro ⟨earlier, later, given, sent, rest, less, -⟩
    exact ⟨earlier, later, given, sent, rest, less⟩

variable {lifecycle : ReplaySendLifecycle} {world : ReplayWorld} {texts : ClientTexts}
  {payloadLen : IpcRequest → Except String Nat} {error : IpcClientError} {originalTimeoutMs : Nat}
  {client : IpcClient}

open ReplaySendLifecycle

theorem reconnectForReplay_eq_ok {attempt : ReplayAttempt} {daemonSessionId : Option String}
    {replay : IpcRequest} (reconnected : lifecycle.reconnectForReplay world error request attempt =
      .ok ((client, daemonSessionId), replay)) :
    lifecycle.originalDaemonSessionId.isSome ∧ daemonSessionId = lifecycle.originalDaemonSessionId ∧
      projectRequestOntoDeadline request world.replayMs = some replay := by
  unfold reconnectForReplay at reconnected
  unfold projectRetryRequest at reconnected
  (repeat' split at reconnected) <;> cases reconnected
  obtain ⟨known, same⟩ := matches_iff.mp ‹replayRetryMatchesDaemonAuthority _ _ = true›
  exact ⟨known, same, ‹_›⟩
where
  matches_iff {original reconnected : Option String} :
      replayRetryMatchesDaemonAuthority original reconnected = true ↔
        original.isSome ∧ reconnected = original := by
    cases original <;> cases reconnected <;> simp [replayRetryMatchesDaemonAuthority]
    exact eq_comm

/-- What a second write goes with: a command id, an error that may be recovered, the daemon of
the first attempt, and the request projected once more. -/
theorem retry_write
    (written : write ∈ (lifecycle.retryAfterTransport world texts payloadLen error request
      originalTimeoutMs).writes) :
    request.commandId.isSome ∧ (replayRecoverableTransportReason error).isSome ∧
      lifecycle.originalDaemonSessionId.isSome ∧
      write.daemonSessionId = lifecycle.originalDaemonSessionId ∧
      ∃ (client : IpcClient) (replay : IpcRequest),
        projectRequestOntoDeadline request world.replayMs = some replay ∧
        client.bindRequest texts replay = .ok write.request := by
  unfold retryAfterTransport at written
  (repeat' split at written) <;> try cases written
  rename_i commandId named _ retryReason recoverable _ client daemonSessionId replay reconnected
  obtain ⟨known, same, projected⟩ := reconnectForReplay_eq_ok reconnected
  obtain ⟨bound, sent, rfl⟩ := mem_map.mp written
  have bind := (written_eq_some (Option.mem_toList.mp sent)).1
  exact ⟨by rw [named]; rfl, by rw [recoverable]; rfl, known, same, client, replay, projected, bind⟩

theorem retry_writes_length : (lifecycle.retryAfterTransport world texts payloadLen error request
      originalTimeoutMs).writes.length ≤ 1 := by
  unfold retryAfterTransport
  (repeat' split) <;> try exact Nat.zero_le _
  rw [length_map]
  exact Option.length_toList_le

/-- What is written after a first attempt that ended with a result. -/
def ReplaySendLifecycle.retryWrites (lifecycle : ReplaySendLifecycle) (world : ReplayWorld)
    (texts : ClientTexts) (payloadLen : IpcRequest → Except String Nat) (request : IpcRequest)
    (originalTimeoutMs : Nat) : Except IpcClientError IpcResponse → List RequestWrite
  | .ok _ => []
  | .error error =>
    (lifecycle.retryAfterTransport world texts payloadLen error request originalTimeoutMs).writes

theorem send_writes {projected : IpcRequest} (projects : projectRequestOntoDeadline
      (bindRequestToDaemonAuthority request lifecycle.originalDaemonSessionId) world.initialMs =
      some projected) :
    ∃ originalTimeoutMs, (lifecycle.send world texts payloadLen client request).writes =
        ((client.send texts payloadLen world.first projected).written.toList.map fun written =>
          ⟨written, lifecycle.originalDaemonSessionId,
            (client.send texts payloadLen world.first projected).result⟩) ++
        lifecycle.retryWrites world texts payloadLen projected originalTimeoutMs
          (client.send texts payloadLen world.first projected).result := by
  refine ⟨(bindRequestToDaemonAuthority request lifecycle.originalDaemonSessionId).timeoutMs, ?_⟩
  unfold send retryWrites
  simp only [projects]
  cases (client.send texts payloadLen world.first projected).result with
  | ok => rw [append_nil]
  | error => rfl

theorem retryWrites_length (result : Except IpcClientError IpcResponse) :
    (lifecycle.retryWrites world texts payloadLen request originalTimeoutMs result).length ≤ 1 := by
  cases result with
  | ok => exact Nat.zero_le _
  | error => exact retry_writes_length

theorem mem_retryWrites {result : Except IpcClientError IpcResponse}
    (written : write ∈ lifecycle.retryWrites world texts payloadLen request originalTimeoutMs
      result) :
    ∃ error, result = .error error ∧
      write ∈ (lifecycle.retryAfterTransport world texts payloadLen error request
        originalTimeoutMs).writes := by
  cases result with
  | ok => cases written
  | error error => exact ⟨error, rfl, written⟩

theorem bindRequestToDaemonAuthority_eq (request : IpcRequest) (sessionId : Option String) :
    bindRequestToDaemonAuthority request sessionId =
      { request with daemonSessionId := request.daemonSessionId.or sessionId } := by
  obtain ⟨version, command, commandId, daemonSessionId, args, timeoutMs⟩ := request
  cases daemonSessionId <;> cases sessionId <;> rfl

theorem retryWrites_of_completed (completed : world.first.Completed)
    (sent : (client.send texts payloadLen world.first projected).written = some bound) :
    lifecycle.retryWrites world texts payloadLen projected originalTimeoutMs
      (client.send texts payloadLen world.first projected).result = [] := by
  refine eq_nil_iff_forall_not_mem.mpr fun write member => ?_
  obtain ⟨error, ended, retried⟩ := mem_retryWrites member
  rw [(written_eq_some sent).2] at ended
  have final := not_recoverable_of_completed completed ended
  have recoverable := (retry_write retried).2.1
  rw [final] at recoverable
  cases recoverable

/-- What is written in a first attempt that is followed by a second write is the request, with
the daemon it is bound to. -/
theorem first_write (known : lifecycle.originalDaemonSessionId.isSome)
    (projects : projectRequestOntoDeadline
      (bindRequestToDaemonAuthority request lifecycle.originalDaemonSessionId) world.initialMs =
      some projected) (bind : client.bindRequest texts projected = .ok bound) :
    bound = projected ∧ projected.command = request.command ∧
      projected.commandId = request.commandId ∧ projected.daemonSessionId.isSome := by
  have whole := alignEmbeddedTimeoutAuthority_eq
    ((bindRequestToDaemonAuthority request lifecycle.originalDaemonSessionId).withTimeout
      (min (bindRequestToDaemonAuthority request lifecycle.originalDaemonSessionId).timeoutMs
        world.initialMs))
  rw [← projectRequestOntoDeadline_eq_some _ projects, bindRequestToDaemonAuthority_eq] at whole
  have sessionId : projected.daemonSessionId.isSome := by
    rw [whole]
    show (request.daemonSessionId.or lifecycle.originalDaemonSessionId).isSome
    rw [Option.isSome_or, known, Bool.or_true]
  refine ⟨(bindRequest_eq_ok bind).2 sessionId, ?_, ?_, sessionId⟩
  · rw [whole]
    rfl
  · rw [whole]
    rfl

/-- A request is written at most twice. It is written again only if it has a command id and the
first attempt ended in an error that may be recovered, with nothing changed but budgets that a
deadline cuts down, to the daemon that was confirmed for the first attempt; and never after a
whole response has arrived. -/
theorem replay_discipline (lifecycle : ReplaySendLifecycle) (world : ReplayWorld)
    (texts : ClientTexts) (payloadLen : IpcRequest → Except String Nat) (client : IpcClient)
    (request : IpcRequest) :
    (lifecycle.send world texts payloadLen client request).writes.length ≤ 2 ∧ (∀ first second,
      (lifecycle.send world texts payloadLen client request).writes = [first, second] →
        request.commandId.isSome ∧
        (∃ error, first.ended = .error error ∧
          (replayRecoverableTransportReason error).isSome) ∧
        first.request.command = request.command ∧
        first.request.commandId = request.commandId ∧
        DeadlineShrunk first.request second.request ∧
        ∃ sessionId, first.daemonSessionId = some sessionId ∧
          second.daemonSessionId = some sessionId) ∧ (world.first.Completed →
      (lifecycle.send world texts payloadLen client request).writes.length ≤ 1) := by
  cases projects : projectRequestOntoDeadline
      (bindRequestToDaemonAuthority request lifecycle.originalDaemonSessionId) world.initialMs with
  | none =>
    unfold ReplaySendLifecycle.send
    simp only [projects]
    exact ⟨Nat.zero_le _, fun _ _ same => (nomatch same), fun _ => Nat.zero_le _⟩
  | some projected =>
    obtain ⟨originalTimeoutMs, writes⟩ : ∃ originalTimeoutMs,
        (lifecycle.send world texts payloadLen client request).writes = _ :=
      send_writes projects
    have retried : (lifecycle.retryWrites world texts payloadLen projected originalTimeoutMs
        (client.send texts payloadLen world.first projected).result).length ≤ 1 :=
      retryWrites_length _
    rw [writes]
    cases sent : (client.send texts payloadLen world.first projected).written with
    | none =>
      rw [Option.toList_none, map_nil, nil_append]
      refine ⟨retried.trans (by decide), ?_, fun _ => retried⟩
      intro first second same
      rw [same] at retried
      cases Nat.not_succ_le_self 1 retried
    | some bound =>
      have bind := (written_eq_some sent).1
      rw [Option.toList_some, map_singleton, singleton_append, length_cons]
      refine ⟨Nat.succ_le_succ retried, ?_, ?_⟩
      · intro first second same
        obtain ⟨rfl, later⟩ := List.cons.inj same
        have member : second ∈ lifecycle.retryWrites world texts payloadLen projected
            originalTimeoutMs (client.send texts payloadLen world.first projected).result := by
          rw [later]
          exact mem_singleton_self second
        obtain ⟨error, ended, retry⟩ := mem_retryWrites member
        obtain ⟨named, recoverable, known, session, replayClient, replay, replayed, replayBind⟩ :=
          retry_write retry
        obtain ⟨rfl, command, commandId, bound⟩ := first_write known projects bind
        have shrunk := deadlineShrunk_of_projected projects replayed
        have resent := (bindRequest_eq_ok replayBind).2
          (by rw [shrunk.daemonSessionId]; exact bound)
        obtain ⟨sessionId, original⟩ := Option.isSome_iff_exists.mp known
        rw [← resent] at shrunk
        exact ⟨commandId ▸ named, ⟨error, ended, recoverable⟩, command, commandId, shrunk,
          sessionId, original, session.trans original⟩
      · intro completed
        rw [retryWrites_of_completed completed sent]
        exact le_rfl

/-- A daemon that closes the connection of the first attempt, and answers to the second. -/
def interruptedWorld : ReplayWorld where
  initialMs := 900
  reconnectMs := 800
  replayMs := 700
  elapsedMs := 100
  first := ⟨.ok (), .written, true, .endOfFile⟩
  second := ⟨.ok (), .written, true, .timedOut⟩
  existing := .ok .needStart
  bootstrap := .ok (⟨true, false, some "sess", false⟩, some "sess")

theorem interrupted_request_resent :
    ∃ first second,
      (ReplaySendLifecycle.send ⟨some "sess", .bootstrap, fun _ => Json.null⟩ interruptedWorld
        plainTexts (fun _ => .ok 100) ⟨true, false, some "sess", false⟩ doctorRequest).writes =
          [first, second] ∧
      DeadlineShrunk first.request second.request ∧ second.request.timeoutMs = 700 := by
  refine ⟨_, _, rfl, ?_, rfl⟩
  exact ((replay_discipline ⟨some "sess", .bootstrap, fun _ => Json.null⟩ interruptedWorld
    plainTexts (fun _ => .ok 100) ⟨true, false, some "sess", false⟩ doctorRequest).2.1 _ _
      rfl).2.2.2.2.1

end Rub
