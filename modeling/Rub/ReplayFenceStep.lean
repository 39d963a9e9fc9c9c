import Rub.ReplayFence

namespace Rub.ReplaySession

variable {Id : Type} [DecidableEq Id] (session : ReplaySession Id)

/-- Everything one step of one request can do. -/
inductive FenceStep (state : FenceState Id) : FenceAction Id → FenceState Id → Prop where
  | preflight (i : Id) (requestId : String) (stands : state.phase i = .incoming) :
      FenceStep state (.preflight i requestId) (moveTo state i (.claiming requestId))
  | turnAway (i : Id) (response : IpcResponse) (stands : state.phase i = .incoming) :
      FenceStep state (.turnAway i response)
        (commitWith state i (.new (session.request i) response false none))
  | claimUnfenced (i : Id) (requestId : String) (stands : state.phase i = .claiming requestId)
      (anonymous : (session.request i).commandId = none) :
      FenceStep state (.claim i) (moveTo state i (.dispatched
        { requestId := requestId, executionStarted := false, replayOwner := none }))
  | claimFenced (i : Id) (requestId commandId : String)
      (stands : state.phase i = .claiming requestId)
      (identified : (session.request i).commandId = some commandId) :
      FenceStep state (.claim i) (session.claimCommand state i requestId commandId)
  | wake (i : Id) (requestId : String) (receiver : Nat)
      (stands : state.phase i = .waiting requestId receiver)
      (told : receiver ∈ state.released) :
      FenceStep state (.wake i) (moveTo state i (.claiming requestId))
  | waitTimeout (i : Id) (timeoutMs elapsedMs : Nat) (requestId commandId : String)
      (receiver : Nat) (stands : state.phase i = .waiting requestId receiver)
      (identified : (session.request i).commandId = some commandId) :
      FenceStep state (.waitTimeout i timeoutMs elapsedMs)
        (commitWith state i (.answeredByFence (session.request i)
          (replayTimeoutResponse (session.request i) requestId commandId timeoutMs elapsedMs)
          false))
  | markExecutionStarted (i : Id) (dispatch : PreparedCommandDispatch)
      (stands : state.phase i = .dispatched dispatch)
      (unstarted : dispatch.executionStarted = false) :
      FenceStep state (.markExecutionStarted i)
        { moveTo state i (.dispatched dispatch.markExecutionStarted) with
          executions := state.executions ++ [i] }
  | respond (i : Id) (response : IpcResponse) (dispatch : PreparedCommandDispatch)
      (stands : state.phase i = .dispatched dispatch) :
      FenceStep state (.respond i response)
        (commitWith state i (dispatch.prepareResponseCommit (session.request i) response))
  | commitUnfenced (i : Id) (route : CommitRoute) (commit : PendingResponseCommit)
      (stands : state.phase i = .committing commit) (unowned : commit.replayOwner = none) :
      FenceStep state (.beginCommit i route) (moveTo state i .finished)
  | commitFenced (i : Id) (route : CommitRoute) (commit : PendingResponseCommit)
      (owner : ReplayFenceOwner) (stage : FinalizeStage)
      (stands : state.phase i = .committing commit) (owned : commit.replayOwner = some owner)
      (staged : stage = match owner.finalize with
        | .cacheCommittedResponse => .markSpent
        | .releaseOnly => .release) :
      FenceStep state (.beginCommit i route)
        (moveTo state i (.finalizing stage owner (session.responseToCache commit route)))
  | finalizeStep (i : Id) (stage : FinalizeStage) (owner : ReplayFenceOwner)
      (response : IpcResponse) (stands : state.phase i = .finalizing stage owner response) :
      FenceStep state (.finalizeStep i) (session.finalize state i owner response stage)
  | dropOwned (i : Id) (owner : ReplayFenceOwner) (owned : (state.phase i).owner = some owner) :
      FenceStep state (.dropOwner i) (dropOwned state i owner)
  | dropUnowned (i : Id) (unowned : (state.phase i).owner = none) :
      FenceStep state (.dropOwner i) (moveTo state i .finished)
  | dropRelease (i : Id) (owner : ReplayFenceOwner) (stands : state.phase i = .dropping owner) :
      FenceStep state (.dropRelease i) (release state i owner.commandId)

variable {state next : FenceState Id} {action : FenceAction Id}

theorem step_cases
    (taken : session.step state action = some next) : FenceStep session state action next := by
  cases action <;> simp only [step] at taken <;> (repeat' split at taken) <;> cases taken
  · exact .preflight _ _ ‹_›
  · exact .turnAway _ _ ‹_›
  · exact .claimUnfenced _ _ ‹_› ‹_›
  · exact .claimFenced _ _ _ ‹_› ‹_›
  · exact .wake _ _ _ ‹_› ‹_›
  · exact .waitTimeout _ _ _ _ _ _ ‹_› ‹_›
  · exact .markExecutionStarted _ _ ‹_› (Bool.eq_false_of_not_eq_true ‹_›)
  · exact .respond _ _ _ ‹_›
  · exact .commitUnfenced _ _ _ ‹_› ‹_›
  · exact .commitFenced _ _ _ _ _ ‹_› ‹_› (by simp only [*])
  · exact .commitFenced _ _ _ _ _ ‹_› ‹_› (by simp only [*])
  · exact .finalizeStep _ _ _ _ ‹_›
  · exact .dropOwned _ _ ‹_›
  · exact .dropUnowned _ ‹_›
  · exact .dropRelease _ _ ‹_›

/-- An owner that belongs to the request. -/
def Owns (i : Id) (owner : ReplayFenceOwner) : Prop :=
  (session.request i).commandId = some owner.commandId ∧
    owner.fingerprint = session.fingerprint (session.request i)

/-- What the local state of one request always satisfies. -/
def PhaseValid (i : Id) : RequestPhase → Prop
  | .dispatched dispatch =>
    (∀ owner, dispatch.replayOwner = some owner → session.Owns i owner ∧
      (owner.finalize = .cacheCommittedResponse ↔ dispatch.executionStarted = true)) ∧
    (dispatch.replayOwner = none → (session.request i).commandId = none)
  | .committing commit => ∀ owner, commit.replayOwner = some owner → session.Owns i owner
  | .finalizing stage owner _ =>
    session.Owns i owner ∧ (stage ≠ .release → owner.finalize = .cacheCommittedResponse)
  | .dropping owner => session.Owns i owner ∧ owner.finalize = .cacheCommittedResponse
  | _ => True

variable {owner : ReplayFenceOwner}

omit [DecidableEq Id] in
theorem PhaseValid.owns {i : Id} {phase : RequestPhase} (valid : session.PhaseValid i phase)
    (owned : phase.owner = some owner) :
    session.Owns i owner := by
  cases phase with
  | dispatched => exact (valid.1 owner owned).1
  | committing => exact valid owner owned
  | finalizing | dropping =>
    cases owned
    exact valid.1
  | _ => cases owned

/-- The id a request has already marked spent on its way to releasing it. -/
def tombstone : RequestPhase → Option String
  | .finalizing .markSpent _ _ => none
  | .finalizing _ owner _ =>
    if owner.finalize = .cacheCommittedResponse then some owner.commandId else none
  | .dropping owner => some owner.commandId
  | _ => none

section

variable (state next : FenceState Id) (i : Id)

/-- Request `i` becomes the owner of its command id. -/
structure Acquires (commandId : String) : Prop where
  identified : (session.request i).commandId = some commandId
  landed : state.replay.inFlight.lookup commandId = none
  unspent : state.replay.spent.lookup commandId = none
  tables : next.replay = { state.replay with
    inFlight := state.replay.inFlight.insert commandId
      { fingerprint := session.fingerprint (session.request i), sender := state.nextChannel } }
  same : next.executions = state.executions
  unowned : (state.phase i).owner = none
  owner : (next.phase i).owner = some (.new commandId (session.fingerprint (session.request i)))
  buried : tombstone (next.phase i) = none

structure Starts : Prop where
  tables : next.replay = state.replay
  grown : next.executions = state.executions ++ [i]
  fresh : ∀ owner, (state.phase i).owner = some owner → owner.finalize = .releaseOnly
  anonymous : (state.phase i).owner = none → (session.request i).commandId = none
  owner : (next.phase i).owner = (state.phase i).owner.map ReplayFenceOwner.markExecutionStarted
  buried : tombstone (next.phase i) = none

structure Buries (owner : ReplayFenceOwner) : Prop where
  owned : (state.phase i).owner = some owner
  committed : owner.finalize = .cacheCommittedResponse
  tables : next.replay = state.replay.markReplayCommandSpent owner.commandId owner.fingerprint
  same : next.executions = state.executions
  kept : (next.phase i).owner = some owner
  buried : tombstone (next.phase i) = some owner.commandId

structure Caches (owner : ReplayFenceOwner) (response : IpcResponse) (approxBytes : Nat) :
    Prop where
  stands : state.phase i = .finalizing .cacheResponse owner response
  owned : (state.phase i).owner = some owner
  committed : owner.finalize = .cacheCommittedResponse
  tables : next.replay =
    state.replay.cacheResponse owner.commandId owner.fingerprint response approxBytes
  same : next.executions = state.executions
  kept : (next.phase i).owner = some owner
  buried : tombstone (next.phase i) = tombstone (state.phase i)

structure Releases (owner : ReplayFenceOwner) : Prop where
  owned : (state.phase i).owner = some owner
  settled : owner.finalize = .releaseOnly ∨ tombstone (state.phase i) = some owner.commandId
  tables : next.replay = (state.replay.releaseReplayCommand owner.commandId).2
  same : next.executions = state.executions
  unowned : (next.phase i).owner = none
  buried : tombstone (next.phase i) = none

/-- What a step of request `i` does to the shared tables and to its own ownership. -/
inductive FenceEffect : Prop where
  | quiet (tables : next.replay = state.replay) (same : next.executions = state.executions)
      (owner : (next.phase i).owner = (state.phase i).owner)
      (buried : tombstone (next.phase i) = none)
  | acquire (commandId : String) (effect : session.Acquires state next i commandId)
  | start (effect : session.Starts state next i)
  | bury (owner : ReplayFenceOwner) (effect : Buries state next i owner)
  | cache (owner : ReplayFenceOwner) (response : IpcResponse) (approxBytes : Nat)
      (effect : Caches state next i owner response approxBytes)
  | release (owner : ReplayFenceOwner) (effect : Releases state next i owner)

end

section Effects

variable {session} {state next : FenceState Id} {i : Id}

omit [DecidableEq Id] in
/-- A request without an owner that moves to a phase without one has no effect. -/
theorem quiet_of_unowned {phase : RequestPhase} (before : (state.phase i).owner = none)
    (moved : next.phase i = phase) (unowned : phase.owner = none)
    (tables : next.replay = state.replay)
    (same : next.executions = state.executions) : session.FenceEffect state next i := by
  refine .quiet tables same (by rw [moved, unowned, before]) ?_
  rw [moved]
  cases phase with
  | finalizing | dropping => cases unowned
  | _ => rfl

theorem answered_owner (request : IpcRequest) (response : IpcResponse) (committed : Bool) :
    (PendingResponseCommit.answeredByFence request response committed).replayOwner = none := by
  cases committed <;> rfl

theorem answered_effect (before : (state.phase i).owner = none) (response : IpcResponse)
    (committed : Bool) :
    session.PhaseValid i ((commitWith state i
        (.answeredByFence (session.request i) response committed)).phase i) ∧
      session.FenceEffect state (commitWith state i
        (.answeredByFence (session.request i) response committed)) i := by
  refine ⟨?_, quiet_of_unowned before (commitWith_phase_self ..) (answered_owner ..) rfl rfl⟩
  rw [commitWith_phase_self]
  intro owner owned
  rw [answered_owner] at owned
  cases owned

theorem claim_effect {requestId commandId : String} (stands : state.phase i = .claiming requestId)
    (identified : (session.request i).commandId = some commandId) :
    session.PhaseValid i ((session.claimCommand state i requestId commandId).phase i) ∧
      session.FenceEffect state (session.claimCommand state i requestId commandId) i := by
  have unowned : (state.phase i).owner = none := by rw [stands]; rfl
  unfold claimCommand
  have spec := state.replay.claimReplayCommand_spec state.nextChannel commandId
    (session.fingerprint (session.request i))
  generalize state.replay.claimReplayCommand state.nextChannel commandId
    (session.fingerprint (session.request i)) = outcome at spec ⊢
  cases spec with
  | cached | cacheConflict | inFlightConflict | spent | spentConflict =>
    exact answered_effect unowned _ _
  | wait =>
    refine ⟨?_, quiet_of_unowned unowned (moveTo_phase_self ..) rfl rfl rfl⟩
    rw [afterClaim, moveTo_phase_self]
    trivial
  | owner _ landed unspent =>
    have moved := moveTo_phase_self state i (.dispatched
      { requestId := requestId, executionStarted := false,
        replayOwner := some (.new commandId (session.fingerprint (session.request i))) })
    constructor
    · simp only [afterClaim, moved]
      refine ⟨?_, by rintro ⟨⟩⟩
      rintro owner ⟨⟩
      exact ⟨⟨identified, rfl⟩, by simp [ReplayFenceOwner.new]⟩
    · exact .acquire commandId ⟨identified, landed, unspent, rfl, rfl, unowned,
        congrArg RequestPhase.owner moved, congrArg tombstone moved⟩

theorem release_effect (owned : (state.phase i).owner = some owner)
    (settled : owner.finalize = .releaseOnly ∨ tombstone (state.phase i) = some owner.commandId) :
    session.PhaseValid i ((release state i owner.commandId).phase i) ∧
      session.FenceEffect state (release state i owner.commandId) i := by
  rw [release_phase_self]
  exact ⟨trivial, .release owner ⟨owned, settled, rfl, rfl, by rw [release_phase_self]; rfl,
    by rw [release_phase_self]; rfl⟩⟩

variable (valid : session.PhaseValid i (state.phase i))

include valid

theorem finalize_effect {stage : FinalizeStage} {response : IpcResponse}
    (stands : state.phase i = .finalizing stage owner response) :
    session.PhaseValid i ((session.finalize state i owner response stage).phase i) ∧
      session.FenceEffect state (session.finalize state i owner response stage) i := by
  have owned : (state.phase i).owner = some owner := by rw [stands]; rfl
  rw [stands] at valid
  cases stage with
  | markSpent =>
    have committed := valid.2 (by decide)
    have moved := moveTo_phase_self state i (.finalizing .cacheResponse owner response)
    refine ⟨?_, .bury owner ⟨owned, committed, rfl, rfl, congrArg RequestPhase.owner moved, ?_⟩⟩
    · simp only [finalize, moved]
      exact ⟨valid.1, fun _ => committed⟩
    · simp only [finalize, moved, tombstone, committed, if_true]
  | cacheResponse =>
    have committed := valid.2 (by decide)
    have moved := moveTo_phase_self state i (.finalizing .release owner response)
    refine ⟨?_, .cache owner response _ ⟨stands, owned, committed, rfl, rfl,
      congrArg RequestPhase.owner moved, ?_⟩⟩
    · simp only [finalize, moved]
      exact ⟨valid.1, fun _ => committed⟩
    · simp only [finalize, moved, stands, tombstone]
  | release =>
    refine release_effect owned ?_
    by_cases committed : owner.finalize = .cacheCommittedResponse
    · refine .inr ?_
      simp only [stands, tombstone, committed, if_true]
    · refine .inl ?_
      cases mode : owner.finalize with
      | releaseOnly => rfl
      | cacheCommittedResponse => exact absurd mode committed

theorem drop_effect (owned : (state.phase i).owner = some owner) :
    session.PhaseValid i ((dropOwned state i owner).phase i) ∧
      session.FenceEffect state (dropOwned state i owner) i := by
  unfold dropOwned
  split
  · rename_i committed
    have moved := moveTo_phase_self state i (.dropping owner)
    refine ⟨?_, .bury owner ⟨owned, committed, rfl, rfl, congrArg RequestPhase.owner moved,
      congrArg tombstone moved⟩⟩
    simp only [moved]
    exact ⟨valid.owns session owned, committed⟩
  · rename_i unstarted
    exact release_effect owned (.inl unstarted)

theorem start_effect {dispatch : PreparedCommandDispatch}
    (stands : state.phase i = .dispatched dispatch)
    (unstarted : dispatch.executionStarted = false) :
    let next : FenceState Id := { moveTo state i (.dispatched dispatch.markExecutionStarted) with
      executions := state.executions ++ [i] }
    session.PhaseValid i (next.phase i) ∧ session.FenceEffect state next i := by
  intro next
  have moved : next.phase i = .dispatched dispatch.markExecutionStarted := moveTo_phase_self ..
  have owner : (state.phase i).owner = dispatch.replayOwner := by rw [stands]; rfl
  rw [stands] at valid
  refine ⟨?_, .start ⟨rfl, rfl, ?_, fun unowned => valid.2 (owner ▸ unowned), ?_,
    congrArg tombstone moved⟩⟩
  · rw [moved]
    refine ⟨?_, fun unowned => valid.2 (Option.map_eq_none_iff.mp unowned)⟩
    intro started owned
    obtain ⟨fresh, held, rfl⟩ := Option.map_eq_some_iff.mp owned
    exact ⟨(valid.1 fresh held).1, by simp [ReplayFenceOwner.markExecutionStarted,
      PreparedCommandDispatch.markExecutionStarted]⟩
  · intro fresh held
    have mode := (valid.1 fresh (owner ▸ held)).2
    rw [unstarted] at mode
    cases finalize : fresh.finalize with
    | releaseOnly => rfl
    | cacheCommittedResponse => simp [finalize] at mode
  · rw [moved, owner]
    rfl

end Effects

theorem step_effect (valid : ∀ i, session.PhaseValid i (state.phase i))
    (taken : session.step state action = some next) :
    ∃ i, action.actor = i ∧ (∀ j, j ≠ i → next.phase j = state.phase j) ∧
      session.PhaseValid i (next.phase i) ∧ session.FenceEffect state next i := by
  cases session.step_cases taken with
  | preflight i _ stands | wake i _ _ stands =>
    refine ⟨i, rfl, fun j other => moveTo_phase_of_ne state _ other, ?_,
      quiet_of_unowned (by rw [stands]; rfl) (moveTo_phase_self ..) rfl rfl rfl⟩
    rw [moveTo_phase_self]
    trivial
  | turnAway i _ stands =>
    refine ⟨i, rfl, fun j other => commitWith_phase_of_ne state _ other, ?_,
      quiet_of_unowned (by rw [stands]; rfl) (commitWith_phase_self ..) rfl rfl rfl⟩
    rw [commitWith_phase_self]
    rintro owner ⟨⟩
  | claimUnfenced i _ stands anonymous =>
    refine ⟨i, rfl, fun j other => moveTo_phase_of_ne state _ other, ?_,
      quiet_of_unowned (by rw [stands]; rfl) (moveTo_phase_self ..) rfl rfl rfl⟩
    rw [moveTo_phase_self]
    exact ⟨(by rintro owner ⟨⟩), fun _ => anonymous⟩
  | claimFenced i _ _ stands identified =>
    refine ⟨i, rfl, fun j other => ?_, claim_effect stands identified⟩
    unfold claimCommand afterClaim
    split <;> exact Function.update_of_ne other ..
  | waitTimeout i _ _ _ _ _ stands =>
    exact ⟨i, rfl, fun j other => commitWith_phase_of_ne state _ other,
      answered_effect (by rw [stands]; rfl) _ _⟩
  | markExecutionStarted i _ stands unstarted =>
    exact ⟨i, rfl, fun j other => moveTo_phase_of_ne state _ other,
      start_effect (valid i) stands unstarted⟩
  | respond i response dispatch stands =>
    have held := valid i
    rw [stands] at held
    have moved := commitWith_phase_self state i
      (dispatch.prepareResponseCommit (session.request i) response)
    refine ⟨i, rfl, fun j other => commitWith_phase_of_ne state _ other, ?_,
      .quiet rfl rfl (by rw [moved, stands]; rfl) (by rw [moved]; rfl)⟩
    rw [moved]
    exact fun owner owned => (held.1 owner owned).1
  | commitUnfenced i _ _ stands unowned =>
    refine ⟨i, rfl, fun j other => moveTo_phase_of_ne state _ other, ?_,
      quiet_of_unowned (by rw [stands]; exact unowned) (moveTo_phase_self ..) rfl rfl rfl⟩
    rw [moveTo_phase_self]
    trivial
  | commitFenced i route commit owner stage stands owned staged =>
    have held := valid i
    rw [stands] at held
    have moved := moveTo_phase_self state i
      (.finalizing stage owner (session.responseToCache commit route))
    refine ⟨i, rfl, fun j other => moveTo_phase_of_ne state _ other, ?_,
      .quiet rfl rfl (by rw [moved, stands]; exact owned.symm) ?_⟩
    · rw [moved]
      refine ⟨held owner owned, fun early => ?_⟩
      cases mode : owner.finalize <;> simp_all
    · rw [moved, staged]
      cases mode : owner.finalize <;> simp [tombstone, mode]
  | finalizeStep i stage owner response stands =>
    refine ⟨i, rfl, fun j other => ?_, finalize_effect (valid i) stands⟩
    cases stage <;> exact Function.update_of_ne other ..
  | dropOwned i owner owned =>
    refine ⟨i, rfl, fun j other => ?_, drop_effect (valid i) owned⟩
    unfold dropOwned
    split <;> exact Function.update_of_ne other ..
  | dropUnowned i unowned =>
    refine ⟨i, rfl, fun j other => moveTo_phase_of_ne state _ other, ?_,
      quiet_of_unowned unowned (moveTo_phase_self ..) rfl rfl rfl⟩
    rw [moveTo_phase_self]
    trivial
  | dropRelease i _ stands =>
    exact ⟨i, rfl, fun j other => Function.update_of_ne other ..,
      release_effect (by rw [stands]; rfl) (.inr (by rw [stands]; rfl))⟩

end Rub.ReplaySession
