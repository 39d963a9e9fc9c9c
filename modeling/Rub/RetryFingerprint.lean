import Rub.ClientRetry
import Rub.ReplayStore

/-!
Whether a retry is recognised as the command it repeats. The executor's projections keep the
identity of a request and of the requests nested in it; the client's projection changes it
when it shortens a post-action wait.
-/

namespace Rub

open Json Option IpcRequest

variable {serde : SerdeJson}

theorem alignOrchestrationEmbeddedTimeout_args (request : IpcRequest) :
    DeadlinesOverwritten request.args (alignOrchestrationEmbeddedTimeout request).args := by
  unfold alignOrchestrationEmbeddedTimeout
  split
  · have first := (DeadlinesOverwritten.refl request.args).overwrite (.inl rfl)
      (natural (request.timeoutMs - ipcReplayTimeoutBufferMs))
    simp only
    split
    · exact first.overwrite (.inr rfl) _
    · exact first
  · exact .refl _

variable {request : IpcRequest}

theorem alignOrchestrationEmbeddedTimeout_of_not_owned
    (foreign : commandOwnsEmbeddedTimeoutAuthority request = false) :
    alignOrchestrationEmbeddedTimeout request = request := by
  unfold alignOrchestrationEmbeddedTimeout
  rw [foreign]
  rfl

theorem alignOrchestrationEmbeddedTimeout_eq (request : IpcRequest) :
    ∃ args, alignOrchestrationEmbeddedTimeout request = { request with args := args } := by
  unfold alignOrchestrationEmbeddedTimeout
  split
  · simp only
    split
    · exact ⟨_, rfl⟩
    · exact ⟨_, rfl⟩
  · exact ⟨_, rfl⟩

theorem alignOrchestrationTimeoutWithin_eq (fuel : Nat) (request : IpcRequest) :
    ∃ args, alignOrchestrationTimeoutWithin fuel request = { request with args := args } := by
  obtain ⟨args, embedded⟩ := alignOrchestrationEmbeddedTimeout_eq request
  cases fuel with
  | zero => exact ⟨args, embedded⟩
  | succ =>
    unfold alignOrchestrationTimeoutWithin
    rw [embedded]
    simp only
    split
    · split
      · exact ⟨_, rfl⟩
      · exact ⟨_, rfl⟩
    · exact ⟨_, rfl⟩

theorem dispatch_not_embedded (dispatch : request.command = "_orchestration_target_dispatch") :
    commandOwnsEmbeddedTimeoutAuthority request = false := by
  unfold commandOwnsEmbeddedTimeoutAuthority
  rw [dispatch]
  rfl

variable {inner : IpcRequest} {timeoutMs : Nat}

theorem alignOrchestrationTimeoutWithin_dispatch (fuel : Nat)
    (dispatch : request.command = "_orchestration_target_dispatch")
    (carried : carriedRequest request.args = some inner) :
    alignOrchestrationTimeoutWithin (fuel + 1) request = { request with
        args := request.args.insert "request" (alignOrchestrationTimeoutWithin fuel
            (inner.withTimeout (min inner.timeoutMs request.timeoutMs))).toValue } := by
  unfold alignOrchestrationTimeoutWithin
  rw [alignOrchestrationEmbeddedTimeout_of_not_owned (dispatch_not_embedded dispatch)]
  simp only [if_pos dispatch, carried]
  cases fuel <;> rfl

theorem alignOrchestrationTimeoutWithin_plain (fuel : Nat)
    (plain : request.command ≠ "_orchestration_target_dispatch" ∨
      carriedRequest request.args = none) :
    alignOrchestrationTimeoutWithin fuel request = alignOrchestrationEmbeddedTimeout request := by
  cases fuel with
  | zero => rfl
  | succ =>
    obtain ⟨args, embedded⟩ := alignOrchestrationEmbeddedTimeout_eq request
    by_cases dispatch : request.command = "_orchestration_target_dispatch"
    · have empty := plain.resolve_left (not_not.mpr dispatch)
      have untouched :=
        alignOrchestrationEmbeddedTimeout_of_not_owned (dispatch_not_embedded dispatch)
      simp only [alignOrchestrationTimeoutWithin, untouched, empty, ite_self]
    · have command : (alignOrchestrationEmbeddedTimeout request).command = request.command := by
        rw [embedded]
      simp only [alignOrchestrationTimeoutWithin, command, if_neg dispatch]

/-- Every target dispatch in the request names its target, as the executor writes them. -/
inductive Addressed : IpcRequest → Prop where
  | plain {request : IpcRequest} (other : request.command ≠ "_orchestration_target_dispatch") :
      Addressed request
  | dispatch {request : IpcRequest} (target : (request.args.get "target").isSome)
      (carried : ∀ inner, carriedRequest request.args = some inner → Addressed inner) :
      Addressed request

theorem carried_live {args : Json} (carried : carriedRequest args = some inner) :
    1 ≤ inner.timeoutMs := by
  obtain ⟨value, _, strict⟩ := bind_eq_some_iff.mp carried
  have valid := isNone_iff_eq_none.mp (filter_eq_some_iff.mp strict).2
  exact (contractErrorEnvelope_eq_none.mp valid).2.2.2.2.2.1

/-- A carried request survives the alignment and the serialization that follows it. -/
theorem fromValueStrict_aligned (fuel : Nat) {args : Json}
    (carried : carriedRequest args = some inner) (live : 1 ≤ timeoutMs) :
    fromValueStrict (alignOrchestrationTimeoutWithin fuel
        (inner.withTimeout (min inner.timeoutMs timeoutMs))).toValue =
      some (alignOrchestrationTimeoutWithin fuel
        (inner.withTimeout (min inner.timeoutMs timeoutMs))) := by
  obtain ⟨value, _, strict⟩ := bind_eq_some_iff.mp carried
  have valid := (filter_eq_some_iff.mp strict).2
  obtain ⟨version, command, named, id, session, positive, bounded⟩ :=
    contractErrorEnvelope_eq_none.mp (isNone_iff_eq_none.mp valid)
  apply fromValueStrict_toValue
  obtain ⟨aligned, same⟩ := alignOrchestrationTimeoutWithin_eq fuel
    (inner.withTimeout (min inner.timeoutMs timeoutMs))
  rw [same]
  exact contractErrorEnvelope_eq_none.mpr
    ⟨version, command, named, id, session, le_min positive live,
      (Nat.min_le_left _ _).trans bounded⟩

/-- The sent request is the frozen one with its deadline moved, and with it the deadlines among
its arguments and those of a request that it carries. -/
inductive SameButTimeouts : IpcRequest → IpcRequest → Prop where
  | outer (frozen : IpcRequest) (timeoutMs : Nat) :
      SameButTimeouts frozen (frozen.withTimeout timeoutMs)
  | embedded {frozen : IpcRequest} {args : Json} (timeoutMs : Nat)
      (owned : commandOwnsEmbeddedTimeoutAuthority frozen = true)
      (moved : DeadlinesOverwritten frozen.args args) :
      SameButTimeouts frozen { frozen with timeoutMs := timeoutMs, args := args }
  | carried {frozen inner sent : IpcRequest} (timeoutMs : Nat)
      (dispatch : frozen.command = "_orchestration_target_dispatch")
      (carries : carriedRequest frozen.args = some inner) (same : SameButTimeouts inner sent)
      (valid : fromValueStrict sent.toValue = some sent) :
      SameButTimeouts frozen
        { frozen with timeoutMs := timeoutMs, args := frozen.args.insert "request" sent.toValue }

namespace SameButTimeouts

variable {frozen sent : IpcRequest}

theorem command (same : SameButTimeouts frozen sent) : sent.command = frozen.command := by
  cases same <;> rfl

/-- Deadlines are no part of what a request is recognised by. -/
theorem semanticReplayArgs_eq (same : SameButTimeouts frozen sent) (addressed : Addressed frozen) :
    semanticReplayArgs serde frozen.command sent.args =
      semanticReplayArgs serde frozen.command frozen.args := by
  induction same with
  | outer => rfl
  | embedded _ owned moved =>
    rw [semanticReplayArgs_of_embedded (embedded_command owned),
      semanticReplayArgs_of_embedded (embedded_command owned)]
    cases object : Json.isObject _ with
    | false => exact congrArg _ (moved.scalar object)
    | true => exact scrub_eq_of_get (moved.object.trans object) object fun _ => moved.others
  | @carried frozen inner sent _ dispatch carries same valid ih =>
    cases addressed with
    | plain other => exact absurd dispatch other
    | dispatch target inside =>
      obtain ⟨target, named⟩ := isSome_iff_exists.mp target
      have before : targetDispatchParts frozen.args = some (target, inner) := by
        rw [targetDispatchParts, named, show (frozen.args.get "request").bind _ = _ from carries]
        rfl
      have after : targetDispatchParts (frozen.args.insert "request" sent.toValue) =
          some (target, sent) := by
        have object := isObject_of_get named
        rw [targetDispatchParts, get_insert object, get_insert object, if_neg (by decide),
          if_pos rfl, named, bind_some, valid]
        rfl
      rw [Rub.semanticReplayArgs_eq, Rub.semanticReplayArgs_eq, if_pos dispatch, if_pos dispatch,
        before, after]
      simp only
      rw [same.command, ih (inside inner carries)]

theorem alignEmbedded (same : SameButTimeouts frozen sent) (timeoutMs : Nat) :
    SameButTimeouts frozen (alignOrchestrationEmbeddedTimeout (sent.withTimeout timeoutMs)) := by
  obtain ⟨args, written⟩ := alignOrchestrationEmbeddedTimeout_eq (sent.withTimeout timeoutMs)
  have moved := alignOrchestrationEmbeddedTimeout_args (sent.withTimeout timeoutMs)
  rw [written] at moved
  cases same with
  | outer =>
    cases owned : commandOwnsEmbeddedTimeoutAuthority (frozen.withTimeout timeoutMs) with
    | false =>
      have kept := alignOrchestrationEmbeddedTimeout_of_not_owned owned
      exact kept.symm ▸ .outer frozen timeoutMs
    | true => exact written ▸ .embedded timeoutMs owned moved
  | embedded _ owned first => exact written ▸ .embedded timeoutMs owned (first.trans moved)
  | carried _ dispatch carries same valid =>
    rw [alignOrchestrationEmbeddedTimeout_of_not_owned]
    · exact .carried timeoutMs dispatch carries same valid
    · exact dispatch_not_embedded dispatch

/-- Whatever was moved before, an alignment moves nothing but deadlines. -/
theorem align (fuel : Nat) (same : SameButTimeouts frozen sent) (live : 1 ≤ timeoutMs) :
    SameButTimeouts frozen (alignOrchestrationTimeoutWithin fuel (sent.withTimeout timeoutMs)) := by
  induction fuel generalizing frozen sent timeoutMs with
  | zero => exact same.alignEmbedded timeoutMs
  | succ fuel ih =>
    have plain (none : sent.command ≠ "_orchestration_target_dispatch" ∨
        carriedRequest sent.args = none) :
        alignOrchestrationTimeoutWithin (fuel + 1) (sent.withTimeout timeoutMs) =
          alignOrchestrationEmbeddedTimeout (sent.withTimeout timeoutMs) :=
      alignOrchestrationTimeoutWithin_plain _ none
    by_cases dispatch : sent.command = "_orchestration_target_dispatch"
    · cases carries : carriedRequest sent.args with
      | none =>
        rw [plain (.inr carries)]
        exact same.alignEmbedded timeoutMs
      | some inner =>
        have innerLive := le_min (carried_live carries) live
        have valid := fromValueStrict_aligned fuel carries live
        rw [@alignOrchestrationTimeoutWithin_dispatch (sent.withTimeout timeoutMs) inner fuel
          dispatch carries]
        cases same with
        | outer =>
          exact .carried timeoutMs dispatch carries (ih (.outer inner inner.timeoutMs) innerLive)
            valid
        | embedded _ owned => cases (@dispatch_not_embedded frozen dispatch).symm.trans owned
        | carried _ _ first same written =>
          obtain ⟨_, found, -⟩ := bind_eq_some_iff.mp first
          have object := isObject_of_get found
          rw [carriedRequest, get_insert object, if_pos rfl, bind_some, written] at carries
          cases carries
          dsimp only [withTimeout]
          rw [insert_insert object]
          exact .carried timeoutMs dispatch first (ih same innerLive) valid
    · rw [plain (.inl dispatch)]
      exact same.alignEmbedded timeoutMs

end SameButTimeouts

theorem projectOrchestrationRequestOntoDeadline_eq_some {remainingMs : Nat} {projected : IpcRequest}
    (sent : projectOrchestrationRequestOntoDeadline request remainingMs = some projected) :
    1 ≤ remainingMs ∧ projected = alignOrchestrationTimeoutWithin request.args.depth
        (request.withTimeout (min request.timeoutMs remainingMs)) := by
  unfold projectOrchestrationRequestOntoDeadline at sent
  split at sent
  · cases sent
  · rename_i remains
    exact ⟨Nat.pos_of_ne_zero remains, (some.inj sent).symm⟩

theorem SameButTimeouts.project {frozen sent projected : IpcRequest} {remainingMs : Nat}
    (same : SameButTimeouts frozen sent) (live : 1 ≤ sent.timeoutMs)
    (moved : projectOrchestrationRequestOntoDeadline sent remainingMs = some projected) :
    SameButTimeouts frozen projected ∧ 1 ≤ projected.timeoutMs := by
  obtain ⟨remains, rfl⟩ := projectOrchestrationRequestOntoDeadline_eq_some moved
  refine ⟨same.align _ (le_min live remains), ?_⟩
  obtain ⟨args, aligned⟩ := alignOrchestrationTimeoutWithin_eq sent.args.depth
    (sent.withTimeout (min sent.timeoutMs remainingMs))
  rw [aligned]
  exact le_min live remains

theorem orchestration_fingerprint_eq (addressed : Addressed request) {firstMs secondMs : Nat}
    {first second : IpcRequest}
    (firstSent : projectOrchestrationRequestOntoDeadline request firstMs = some first)
    (secondSent : projectOrchestrationRequestOntoDeadline request secondMs = some second) :
    replayRequestFingerprint serde first = replayRequestFingerprint serde second := by
  rcases Nat.eq_zero_or_pos request.timeoutMs with spent | live
  · -- A request without any time is sent with none at all, whatever remains.
    obtain ⟨-, rfl⟩ := projectOrchestrationRequestOntoDeadline_eq_some firstSent
    obtain ⟨-, rfl⟩ := projectOrchestrationRequestOntoDeadline_eq_some secondSent
    rw [spent, Nat.zero_min, Nat.zero_min]
  · have one := ((SameButTimeouts.outer request request.timeoutMs).project live firstSent).1
    have other := ((SameButTimeouts.outer request request.timeoutMs).project live secondSent).1
    rw [replayRequestFingerprint_eq_iff, one.command, other.command,
      one.semanticReplayArgs_eq addressed, other.semanticReplayArgs_eq addressed]
    exact ⟨rfl, rfl⟩

/-- A claim with the id of a command that an earlier send owns conflicts exactly if its
fingerprint is another one. -/
theorem ReplayProtocolState.claim_conflict_iff_of_owner {replay next : ReplayProtocolState}
    {sender other : Nat} {commandId fingerprint retried : String}
    (owner : replay.claimReplayCommand sender commandId fingerprint = (.owner, next)) :
    (next.claimReplayCommand other commandId retried).1 = .conflict ↔ fingerprint ≠ retried := by
  have spec := claimReplayCommand_spec replay sender commandId fingerprint
  rw [owner] at spec
  cases spec with
  | owner uncached =>
    unfold claimReplayCommand
    simp only [uncached, AList.lookup_insert]
    by_cases same : fingerprint = retried <;> simp [same]

/-- A retry of the client is recognised exactly if the post-action wait keeps its budget, and
a retry of the executor always is. A retry that is not recognised is a conflict. -/
theorem retry_recognised_iff (serde : SerdeJson) (request : IpcRequest) (firstMs secondMs : Nat) :
    (∀ first second, projectRequestOntoDeadline request firstMs = some first →
      projectRequestOntoDeadline request secondMs = some second →
        (replayRequestFingerprint serde first = replayRequestFingerprint serde second ↔
          KeepsWaitAfterBudget request firstMs secondMs)) ∧ (Addressed request → ∀ first second,
      projectOrchestrationRequestOntoDeadline request firstMs = some first →
      projectOrchestrationRequestOntoDeadline request secondMs = some second →
        replayRequestFingerprint serde first = replayRequestFingerprint serde second) ∧
    ∀ (first second : IpcRequest) (replay next : ReplayProtocolState) (sender other : Nat)
      (commandId : String),
      replay.claimReplayCommand sender commandId (replayRequestFingerprint serde first) =
        (.owner, next) →
      ((next.claimReplayCommand other commandId (replayRequestFingerprint serde second)).1 =
          .conflict ↔
        replayRequestFingerprint serde first ≠ replayRequestFingerprint serde second) :=
  ⟨fun _ _ firstSent secondSent => client_fingerprint_eq_iff request firstSent secondSent,
    fun addressed _ _ firstSent secondSent =>
      orchestration_fingerprint_eq addressed firstSent secondSent,
    fun _ _ _ _ _ _ _ owner => ReplayProtocolState.claim_conflict_iff_of_owner owner⟩

/-- The wait of `open --wait-after-selector` with a budget of twenty seconds. -/
def selectorWait : Json :=
  object [("selector", string "#done"), ("timeout_ms", natural 20000)]

/-- An `open` of ten seconds with that wait after it. -/
def openThenWait : IpcRequest :=
  { ipcProtocolVersion := ipcProtocolVersion, command := "open", commandId := some "c1",
    daemonSessionId := none,
    args := object
      [("url", string "https://example.test"), ("load_strategy", string "load"),
        ("wait_after", selectorWait)],
    timeoutMs := 30000 }

/-- A retry that leaves the wait its twenty seconds is recognised. -/
theorem early_retry_recognised :
    ∃ first second, projectRequestOntoDeadline openThenWait 30000 = some first ∧
      projectRequestOntoDeadline openThenWait 25000 = some second ∧
      replayRequestFingerprint plainSerde first = replayRequestFingerprint plainSerde second := by
  refine ⟨_, _, rfl, rfl,
    ((retry_recognised_iff plainSerde openThenWait 30000 25000).1 _ _ rfl rfl).mpr ?_⟩
  intro waitAfter waited
  cases waited
  exact .inr rfl

/-- A retry with twelve seconds left shortens the wait, and the daemon takes it for another
command under the same id. -/
theorem late_retry_conflicts :
    ∃ first second next, projectRequestOntoDeadline openThenWait 30000 = some first ∧
      projectRequestOntoDeadline openThenWait 12000 = some second ∧
      ReplayProtocolState.empty.claimReplayCommand 0 "c1"
        (replayRequestFingerprint plainSerde first) = (.owner, next) ∧
      (next.claimReplayCommand 1 "c1" (replayRequestFingerprint plainSerde second)).1 =
        .conflict := by
  have firstSent : projectRequestOntoDeadline openThenWait 30000 =
      some (alignEmbeddedTimeoutAuthority (openThenWait.withTimeout 30000)) := rfl
  have secondSent : projectRequestOntoDeadline openThenWait 12000 =
      some (alignEmbeddedTimeoutAuthority (openThenWait.withTimeout 12000)) := rfl
  obtain ⟨next, owner⟩ : ∃ next, ReplayProtocolState.empty.claimReplayCommand 0 "c1"
      (replayRequestFingerprint plainSerde
        (alignEmbeddedTimeoutAuthority (openThenWait.withTimeout 30000))) = (.owner, next) :=
    ⟨_, rfl⟩
  refine ⟨_, _, next, firstSent, secondSent, owner,
    (ReplayProtocolState.claim_conflict_iff_of_owner owner).mpr ?_⟩
  rw [ne_eq, client_fingerprint_eq_iff openThenWait firstSent secondSent]
  intro budgets
  rcases budgets selectorWait rfl with dispatch | budget
  · exact absurd dispatch.1 (by decide)
  · exact absurd budget (by decide)

end Rub
