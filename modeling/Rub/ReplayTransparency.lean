import Rub.ReplayFenceInvariant
import Rub.ReplayFingerprint

/-!
What a retry of an executed command is answered: the response the first request was
answered with while it is retained, and otherwise that the command id is spent.
-/

namespace Rub.ReplaySession

open Function ReplayProtocolState PendingResponseCommit

variable {Id : Type} [DecidableEq Id] (session : ReplaySession Id)

/-- What every pending commit of a request satisfies. -/
structure CommitMade (i : Id) (commit : PendingResponseCommit) : Prop where
  request : commit.request = session.request i
  identified : ∀ commandId, (session.request i).commandId = some commandId →
    commit.response.commandId = some commandId
  committed : ∀ owner, commit.replayOwner = some owner →
    owner.finalize = .cacheCommittedResponse → commit.daemonRequestCommitted = true

/-- How the pending commit of a request goes with the place the request stands at. -/
def CommitPlaced : RequestPhase → Option PendingResponseCommit → Prop
  | .incoming, commit => commit = none
  | .claiming _, commit => commit = none
  | .waiting _ _, commit => commit = none
  | .dispatched _, commit => commit = none
  | .committing pending, commit => commit = some pending
  | .finalizing _ owner response, commit =>
    ∃ pending route, commit = some pending ∧ pending.replayOwner = some owner ∧
      response = session.responseToCache pending route
  | .dropping _, _ => True
  | .finished, _ => True

structure CommitInv (state : FenceState Id) : Prop where
  made : ∀ i commit, state.commits i = some commit → session.CommitMade i commit
  placed : ∀ i, session.CommitPlaced (state.phase i) (state.commits i)

omit [DecidableEq Id] in
theorem commitMade_new {i : Id} (response : IpcResponse) {started : Bool}
    {replayOwner : Option ReplayFenceOwner}
    (owns : ∀ owner, replayOwner = some owner → session.Owns i owner ∧
      (owner.finalize = .cacheCommittedResponse → started = true)) :
    session.CommitMade i (.new (session.request i) response started replayOwner) := by
  refine ⟨rfl, ?_, ?_⟩
  · intro commandId identified
    cases replayOwner with
    | none =>
      simp only [new, attachRequestCommandId, identified]
      rfl
    | some owner =>
      have mine := (owns owner rfl).1.1
      rw [identified] at mine
      exact mine.symm
  · intro owner owned mode
    exact (owns owner owned).2 mode

omit [DecidableEq Id] in
theorem commitMade_answered (i : Id) (response : IpcResponse) (committed : Bool) :
    session.CommitMade i (.answeredByFence (session.request i) response committed) := by
  have made : session.CommitMade i (.new (session.request i)
      (attachRequestCommandId (session.request i) response) false none) :=
    session.commitMade_new _ (by rintro owner ⟨⟩)
  cases committed with
  | false => exact made
  | true => exact ⟨made.request, made.identified, by rintro owner ⟨⟩⟩

omit [DecidableEq Id] in
theorem commitInv_initial : session.CommitInv initialState := by
  refine ⟨?_, fun i => rfl⟩
  rintro i commit ⟨⟩

/-- How a step changes the pending commit of its request: not at all, or from none. -/
inductive CommitEffect (state next : FenceState Id) (i : Id) : Prop where
  | kept (same : next.commits = state.commits)
      (placed : session.CommitPlaced (next.phase i) (state.commits i))
  | made (commit : PendingResponseCommit) (fresh : state.commits i = none)
      (commits : next.commits = Function.update state.commits i (some commit))
      (stands : next.phase i = .committing commit) (valid : session.CommitMade i commit)

variable {commit : PendingResponseCommit} {owner : ReplayFenceOwner} {response : IpcResponse}

section Steps

variable {session} {state next : FenceState Id} {i : Id}

theorem made_of_early (fresh : state.commits i = none) (valid : session.CommitMade i commit) :
    session.CommitEffect state (commitWith state i commit) i :=
  .made commit fresh rfl (commitWith_phase_self ..) valid

theorem kept_of_moveTo {phase : RequestPhase}
    (placed : session.CommitPlaced phase (state.commits i)) :
    session.CommitEffect state (moveTo state i phase) i :=
  .kept rfl (by rw [moveTo_phase_self]; exact placed)

theorem claim_commitEffect {requestId commandId : String} (fresh : state.commits i = none) :
    session.CommitEffect state (session.claimCommand state i requestId commandId) i := by
  unfold claimCommand
  generalize state.replay.claimReplayCommand state.nextChannel commandId
    (session.fingerprint (session.request i)) = outcome
  obtain ⟨claim, replay⟩ := outcome
  cases claim with
  | cached | conflict | spentWithoutCachedResponse =>
    exact made_of_early fresh (session.commitMade_answered i _ _)
  | wait => exact kept_of_moveTo fresh
  | owner =>
    refine .kept rfl ?_
    simp only [afterClaim, moveTo_phase_self]
    exact fresh

theorem finalize_commitEffect {stage : FinalizeStage}
    (placed : session.CommitPlaced (.finalizing stage owner response) (state.commits i)) :
    session.CommitEffect state (session.finalize state i owner response stage) i := by
  cases stage with
  | release => exact .kept rfl (by simp only [finalize, release_phase_self]; trivial)
  | _ => exact .kept rfl (by simp only [finalize, moveTo_phase_self]; exact placed)

end Steps

variable {action : FenceAction Id}

section

variable {state next : FenceState Id} (valid : ∀ i, session.PhaseValid i (state.phase i))
  (inv : session.CommitInv state) (taken : session.step state action = some next)

include valid inv taken

theorem step_commitEffect : session.CommitEffect state next action.actor := by
  cases session.step_cases taken with
  | preflight i _ stands | claimUnfenced i _ stands | wake i _ _ stands =>
    have placed := inv.placed i
    rw [stands] at placed
    exact kept_of_moveTo placed
  | turnAway i _ stands =>
    have placed := inv.placed i
    rw [stands] at placed
    exact made_of_early placed (session.commitMade_new _ (by rintro owner ⟨⟩))
  | claimFenced i _ _ stands =>
    have placed := inv.placed i
    rw [stands] at placed
    exact claim_commitEffect placed
  | waitTimeout i _ _ _ _ _ stands =>
    have placed := inv.placed i
    rw [stands] at placed
    exact made_of_early placed (session.commitMade_answered i _ _)
  | markExecutionStarted i _ stands =>
    have placed := inv.placed i
    rw [stands] at placed
    exact .kept rfl (by
      show session.CommitPlaced ((moveTo state i _).phase i) _
      rw [moveTo_phase_self]
      exact placed)
  | respond i _ _ stands =>
    have placed := inv.placed i
    have held := valid i
    rw [stands] at placed held
    exact made_of_early placed (session.commitMade_new _ fun owner owned =>
      ⟨(held.1 owner owned).1, (held.1 owner owned).2.mp⟩)
  | commitUnfenced | dropUnowned =>
    exact kept_of_moveTo trivial
  | commitFenced i route commit _ _ stands owned =>
    have placed := inv.placed i
    rw [stands] at placed
    exact kept_of_moveTo ⟨commit, route, placed, owned, rfl⟩
  | finalizeStep i _ _ _ stands =>
    have placed := inv.placed i
    rw [stands] at placed
    exact finalize_commitEffect placed
  | dropOwned i owner =>
    refine .kept ?_ ?_
    · unfold dropOwned
      split <;> rfl
    · show session.CommitPlaced ((dropOwned state i owner).phase i) _
      unfold dropOwned
      split
      · simp only [moveTo_phase_self]
        trivial
      · rw [release_phase_self]
        trivial
  | dropRelease i owner =>
    refine .kept rfl ?_
    show session.CommitPlaced ((release state i owner.commandId).phase i) _
    rw [release_phase_self]
    trivial

theorem commitInv_step : session.CommitInv next := by
  obtain ⟨i, actor, others, _, _⟩ := session.step_effect valid taken
  have effect := session.step_commitEffect valid inv taken
  rw [actor] at effect
  cases effect with
  | kept same placed =>
    refine ⟨fun j commit found => inv.made j commit (same ▸ found), fun j => ?_⟩
    rw [same]
    by_cases mine : j = i
    · exact mine ▸ placed
    · exact others j mine ▸ inv.placed j
  | made _ _ commits stands made =>
    constructor
    · intro j other found
      rw [commits] at found
      by_cases mine : j = i
      · subst mine
        rw [update_self] at found
        cases found
        exact made
      · rw [update_of_ne mine] at found
        exact inv.made j other found
    · intro j
      rw [commits]
      by_cases mine : j = i
      · subst mine
        rw [stands, update_self]
        rfl
      · rw [update_of_ne mine, others j mine]
        exact inv.placed j

theorem commits_step {i : Id} (found : state.commits i = some commit)
    : next.commits i = some commit := by
  cases session.step_commitEffect valid inv taken with
  | kept same => rw [same, found]
  | made _ fresh commits =>
    have different : i ≠ action.actor := by
      rintro rfl
      rw [fresh] at found
      cases found
    rw [commits, update_of_ne different, found]

end

/-- The request executed under the command id, or holds the claim of it. -/
def Holds (state : FenceState Id) (i : Id) (commandId : String) : Prop :=
  (i ∈ state.executions ∧ (session.request i).commandId = some commandId) ∨
    ∃ owner, (state.phase i).owner = some owner ∧ owner.commandId = commandId

/-- The cached response is one the request was answered with after it executed. -/
def Retains (state : FenceState Id) (i : Id) (response : IpcResponse) : Prop :=
  ∃ commit route, state.commits i = some commit ∧ commit.daemonRequestCommitted = true ∧
    response = session.responseToCache commit route

/-- Every entry of the tables goes back to a request of its command id. -/
structure RetentionInv (state : FenceState Id) : Prop where
  cached : ∀ commandId entry, state.replay.cache.lookup commandId = some entry →
    ∃ i ∈ state.executions, (session.request i).commandId = some commandId ∧
      entry.fingerprint = session.fingerprint (session.request i) ∧
      session.Retains state i entry.response
  flown : ∀ commandId entry, state.replay.inFlight.lookup commandId = some entry →
    ∃ i owner, (state.phase i).owner = some owner ∧ owner.commandId = commandId
  spent : ∀ commandId entry, state.replay.spent.lookup commandId = some entry →
    ∃ i ∈ state.executions, (session.request i).commandId = some commandId ∧
      entry.fingerprint = session.fingerprint (session.request i)
  started : ∀ i owner, (state.phase i).owner = some owner →
    owner.finalize = .cacheCommittedResponse → i ∈ state.executions

omit [DecidableEq Id] in
theorem retentionInv_initial : session.RetentionInv initialState := by
  constructor
  · rintro commandId entry ⟨⟩
  · rintro commandId entry ⟨⟩
  · rintro commandId entry ⟨⟩
  · rintro i owner ⟨⟩

variable {commandId : String}

section Preservation

variable {session} {state next : FenceState Id} {i : Id}

omit [DecidableEq Id] in
/-- A step that adds no table entry and no started owner keeps what the entries go back to. -/
theorem retention_of_fewer (retention : session.RetentionInv state)
    (cache : next.replay.cache = state.replay.cache)
    (spent : next.replay.spent = state.replay.spent)
    (flown : ∀ commandId entry, next.replay.inFlight.lookup commandId = some entry →
      ∃ j owner, (next.phase j).owner = some owner ∧ owner.commandId = commandId)
    (started : ∀ j owner, (next.phase j).owner = some owner →
      owner.finalize = .cacheCommittedResponse → j ∈ next.executions)
    (grown : ∀ j ∈ state.executions, j ∈ next.executions)
    (kept : ∀ j commit, state.commits j = some commit → next.commits j = some commit) :
    session.RetentionInv next := by
  refine ⟨?_, flown, ?_, started⟩
  · intro commandId entry found
    rw [cache] at found
    obtain ⟨j, executed, identified, same, commit, route, made, rest⟩ :=
      retention.cached commandId entry found
    exact ⟨j, grown j executed, identified, same, commit, route, kept j commit made, rest⟩
  · intro commandId entry found
    rw [spent] at found
    obtain ⟨j, executed, rest⟩ := retention.spent commandId entry found
    exact ⟨j, grown j executed, rest⟩

section

variable (retention : session.RetentionInv state)
  (others : ∀ j, j ≠ i → next.phase j = state.phase j)

include retention others

/-- The in-flight table and the owners as a step leaves them that keeps every owner. -/
theorem owners_of_kept (owner : (next.phase i).owner = (state.phase i).owner)
    (flights : next.replay.inFlight = state.replay.inFlight)
    (same : next.executions = state.executions) :
    (∀ commandId entry, next.replay.inFlight.lookup commandId = some entry →
      ∃ j owner, (next.phase j).owner = some owner ∧ owner.commandId = commandId) ∧
    (∀ j owner, (next.phase j).owner = some owner →
      owner.finalize = .cacheCommittedResponse → j ∈ next.executions) := by
  have owner_eq : ∀ j, (next.phase j).owner = (state.phase j).owner := by
    intro j
    by_cases mine : j = i
    · exact mine ▸ owner
    · rw [others j mine]
  constructor
  · intro commandId entry found
    rw [flights] at found
    obtain ⟨j, held, owned, rest⟩ := retention.flown commandId entry found
    exact ⟨j, held, (owner_eq j).trans owned, rest⟩
  · intro j held owned committed
    rw [owner_eq j] at owned
    exact same ▸ retention.started j held owned committed

variable (kept : ∀ j commit, state.commits j = some commit → next.commits j = some commit)

include kept

omit [DecidableEq Id] in
theorem retention_acquire (effect : session.Acquires state next i commandId) :
    session.RetentionInv next := by
  obtain ⟨_, _, _, tables, same, unowned, owner, _⟩ := effect
  refine retention_of_fewer retention (by rw [tables]) (by rw [tables]) ?_ ?_
    (fun j executed => same ▸ executed) kept
  · intro id entry found
    rw [tables] at found
    by_cases claimed : id = commandId
    · exact ⟨i, _, owner, claimed.symm⟩
    · rw [AList.lookup_insert_ne claimed] at found
      obtain ⟨j, held, owned, rest⟩ := retention.flown id entry found
      have different : j ≠ i := by
        rintro rfl
        rw [unowned] at owned
        cases owned
      exact ⟨j, held, others j different ▸ owned, rest⟩
  · intro j held owned committed
    by_cases mine : j = i
    · subst mine
      rw [owner] at owned
      cases owned
      cases committed
    · rw [others j mine] at owned
      exact same ▸ retention.started j held owned committed

omit [DecidableEq Id] in
theorem retention_start (effect : session.Starts state next i) : session.RetentionInv next := by
  obtain ⟨tables, grown, _, _, owner, _⟩ := effect
  refine retention_of_fewer retention (by rw [tables]) (by rw [tables]) ?_ ?_
    (fun j executed => by rw [grown]; exact List.mem_append_left _ executed) kept
  · intro commandId entry found
    rw [tables] at found
    obtain ⟨j, held, owned, rest⟩ := retention.flown commandId entry found
    by_cases mine : j = i
    · subst mine
      exact ⟨j, held.markExecutionStarted, by rw [owner, owned]; rfl, rest⟩
    · exact ⟨j, held, others j mine ▸ owned, rest⟩
  · intro j held owned committed
    rw [grown]
    by_cases mine : j = i
    · exact List.mem_append_right _ (by simp [mine])
    · rw [others j mine] at owned
      exact List.mem_append_left _ (retention.started j held owned committed)

theorem retention_bury (valid : ∀ j, session.PhaseValid j (state.phase j))
    (effect : Buries state next i owner) : session.RetentionInv next := by
  obtain ⟨owned, committed, tables, same, owns, _⟩ := effect
  obtain ⟨flown, started⟩ := owners_of_kept retention others (owns.trans owned.symm)
    (by rw [tables]; simp) same
  refine ⟨?_, flown, ?_, started⟩
  · intro commandId entry found
    rw [tables, markReplayCommandSpent_cache] at found
    obtain ⟨j, executed, identified, fingerprint, commit, route, made, rest⟩ :=
      retention.cached commandId entry found
    exact ⟨j, same ▸ executed, identified, fingerprint, commit, route, kept j commit made, rest⟩
  · intro commandId entry found
    rw [same]
    rw [tables, markReplayCommandSpent_spent] at found
    split at found
    · rename_i buried
      subst buried
      cases before : state.replay.spent.lookup owner.commandId with
      | some older =>
        rw [before] at found
        cases found
        exact retention.spent owner.commandId older before
      | none =>
        rw [before] at found
        cases found
        have mine := (valid i).owns session owned
        exact ⟨i, retention.started i owner owned committed, mine.1, mine.2⟩
    · exact retention.spent commandId entry found

theorem retention_cache (valid : ∀ j, session.PhaseValid j (state.phase j))
    (commits : session.CommitInv state) {approxBytes : Nat}
    (effect : Caches state next i owner response approxBytes) : session.RetentionInv next := by
  obtain ⟨stands, owned, committed, tables, same, owns, _⟩ := effect
  obtain ⟨flown, started⟩ := owners_of_kept retention others (owns.trans owned.symm)
    (by rw [tables]; simp) same
  refine ⟨?_, flown, ?_, started⟩
  · intro commandId entry found
    rw [same]
    rw [tables] at found
    rcases cacheResponse_cache _ _ _ _ _ found with ⟨rfl, rfl⟩ | ⟨_, older⟩
    · -- What is cached is the response of the pending commit the owner came from.
      have placed := commits.placed i
      rw [stands] at placed
      obtain ⟨commit, route, made, carried, answer⟩ := placed
      have mine := (valid i).owns session owned
      exact ⟨i, retention.started i owner owned committed, mine.1, mine.2, commit, route,
        kept i commit made, (commits.made i commit made).committed owner carried committed,
        answer⟩
    · obtain ⟨j, executed, identified, fingerprint, commit, route, made, rest⟩ :=
        retention.cached commandId entry older
      exact ⟨j, executed, identified, fingerprint, commit, route, kept j commit made, rest⟩
  · intro commandId entry found
    rw [tables, cacheResponse_spent] at found
    exact same ▸ retention.spent commandId entry found

theorem retention_release (effect : Releases state next i owner) : session.RetentionInv next := by
  obtain ⟨owned, _, tables, same, unowned, _⟩ := effect
  refine retention_of_fewer retention (by rw [tables]; rfl) (by rw [tables]; rfl) ?_ ?_
    (fun j executed => same ▸ executed) kept
  · intro commandId entry found
    rw [tables, releaseReplayCommand_inFlight] at found
    split at found
    · cases found
    · rename_i different
      obtain ⟨j, held, heldOwned, rfl⟩ := retention.flown commandId entry found
      have another : j ≠ i := by
        rintro rfl
        rw [owned] at heldOwned
        cases heldOwned
        exact different rfl
      exact ⟨j, held, others j another ▸ heldOwned, rfl⟩
  · intro j held heldOwned committed
    by_cases mine : j = i
    · subst mine
      rw [unowned] at heldOwned
      cases heldOwned
    · rw [others j mine] at heldOwned
      exact same ▸ retention.started j held heldOwned committed

end

end Preservation

variable {state next : FenceState Id}

theorem retentionInv_step (inv : session.FenceInv state)
    (commits : session.CommitInv state) (retention : session.RetentionInv state)
    (taken : session.step state action = some next) :
    session.RetentionInv next := by
  have persist : ∀ j commit, state.commits j = some commit → next.commits j = some commit :=
    fun j commit found => session.commits_step inv.valid commits taken found
  obtain ⟨i, _, others, _, effect⟩ := session.step_effect inv.valid taken
  cases effect with
  | quiet tables same owner =>
    obtain ⟨flown, started⟩ := owners_of_kept retention others owner (by rw [tables]) same
    exact retention_of_fewer retention (by rw [tables]) (by rw [tables]) flown started
      (fun j executed => same ▸ executed) persist
  | acquire _ effect => exact retention_acquire retention others persist effect
  | start effect => exact retention_start retention others persist effect
  | bury _ effect => exact retention_bury retention others persist inv.valid effect
  | cache _ _ _ effect => exact retention_cache retention others persist inv.valid commits effect
  | release _ effect => exact retention_release retention others persist effect

/-- The invariants a retry is answered from. -/
structure ReplayInv (state : FenceState Id) : Prop where
  fence : session.FenceInv state
  commits : session.CommitInv state
  retention : session.RetentionInv state

theorem replayInv_step (inv : session.ReplayInv state)
    (taken : session.step state action = some next) :
    session.ReplayInv next :=
  ⟨session.fenceInv_step inv.fence taken, session.commitInv_step inv.fence.valid inv.commits taken,
    session.retentionInv_step inv.fence inv.commits inv.retention taken⟩

theorem replayInv_reachable {state : FenceState Id} (reached : session.fence.Reachable state) :
    session.ReplayInv state :=
  TransitionSystem.Reachable.invariant session.fence
    ⟨session.fenceInv_initial, session.commitInv_initial, session.retentionInv_initial⟩
    (fun _ _ _ inv taken => session.replayInv_step inv taken) reached

section Holders

variable {session} {state : FenceState Id} (inv : session.ReplayInv state)

include inv

variable {i j : Id}

omit [DecidableEq Id] in
theorem executed_unique (first : i ∈ state.executions)
    (identified : (session.request i).commandId = some commandId) (second : j ∈ state.executions)
    (alike : (session.request j).commandId = some commandId) : i = j := by
  have bound := inv.fence.once commandId
  have firstMem : i ∈ session.executionsOf state commandId :=
    List.mem_filter.mpr ⟨first, by simpa using identified⟩
  have secondMem : j ∈ session.executionsOf state commandId :=
    List.mem_filter.mpr ⟨second, by simpa using alike⟩
  generalize session.executionsOf state commandId = executed at bound firstMem secondMem
  match executed, bound with
  | [], _ => cases firstMem
  | [only], _ => rw [List.mem_singleton.mp firstMem, List.mem_singleton.mp secondMem]

omit [DecidableEq Id] in
theorem executed_eq_owner (executed : i ∈ state.executions)
    (identified : (session.request i).commandId = some owner.commandId)
    (owned : (state.phase j).owner = some owner) : i = j := by
  rcases inv.fence.executed i executed _ identified with ⟨other, held, alike, _⟩ | spent
  · exact inv.fence.exclusive i j other owner held owned alike
  · cases mode : owner.finalize with
    | releaseOnly => exact absurd (inv.fence.fresh j owner owned mode) spent
    | cacheCommittedResponse =>
      exact executed_unique inv executed identified (inv.retention.started j owner owned mode)
        ((inv.fence.valid j).owns session owned).1

omit [DecidableEq Id] in
/-- One request at most executed under a command id or holds the claim of it. -/
theorem ReplayInv.holder_unique
    (first : session.Holds state i commandId) (second : session.Holds state j commandId) :
    i = j := by
  rcases first with ⟨executed, identified⟩ | ⟨owner, owned, rfl⟩ <;>
    rcases second with ⟨executed', identified'⟩ | ⟨owner', owned', same⟩
  · exact executed_unique inv executed identified executed' identified'
  · exact executed_eq_owner inv executed (same ▸ identified) owned'
  · exact (executed_eq_owner inv executed' identified' owned).symm
  · exact inv.fence.exclusive i j owner owner' owned owned' same.symm

variable {i : Id} {commandId : String} (holds : session.Holds state i commandId)

include holds

section

omit [DecidableEq Id]

theorem ReplayInv.cached_of_holder {entry : ReplayCacheEntry}
    (found : state.replay.cache.lookup commandId = some entry) :
    entry.fingerprint = session.fingerprint (session.request i) ∧
      session.Retains state i entry.response := by
  obtain ⟨j, executed, identified, rest⟩ := inv.retention.cached commandId entry found
  obtain rfl := inv.holder_unique holds (.inl ⟨executed, identified⟩)
  exact rest

theorem ReplayInv.inFlight_of_holder {entry : ReplayInFlightEntry}
    (found : state.replay.inFlight.lookup commandId = some entry) :
    entry.fingerprint = session.fingerprint (session.request i) := by
  obtain ⟨j, owner, owned, rfl⟩ := inv.retention.flown commandId entry found
  obtain rfl := inv.holder_unique holds (.inr ⟨owner, owned, rfl⟩)
  obtain ⟨other, present, same⟩ := inv.fence.flying i owner owned
  rw [found] at present
  cases present
  rw [same]
  exact ((inv.fence.valid i).owns session owned).2

theorem ReplayInv.spent_of_holder {entry : ReplaySpentEntry}
    (found : state.replay.spent.lookup commandId = some entry) :
    entry.fingerprint = session.fingerprint (session.request i) := by
  obtain ⟨j, executed, identified, rest⟩ := inv.retention.spent commandId entry found
  obtain rfl := inv.holder_unique holds (.inl ⟨executed, identified⟩)
  exact rest

theorem ReplayInv.spent_of_landed (landed : state.replay.inFlight.lookup commandId = none) :
    state.replay.spent.lookup commandId ≠ none := by
  have unowned : ∀ owner, (state.phase i).owner = some owner → owner.commandId ≠ commandId := by
    rintro owner owned rfl
    obtain ⟨entry, found, _⟩ := inv.fence.flying i owner owned
    rw [landed] at found
    cases found
  rcases holds with ⟨executed, identified⟩ | ⟨owner, owned, same⟩
  · rcases inv.fence.executed i executed commandId identified with ⟨owner, owned, same, _⟩ | spent
    · exact absurd same (unowned owner owned)
    · exact spent
  · exact absurd same (unowned owner owned)

end

end Holders

/-- The response a request is sent. -/
def transported (commit : PendingResponseCommit) : IpcResponse :=
  commit.responseForTransport session.payloadLen session.sessionId

section Transport

variable {session}

omit [DecidableEq Id] in
theorem transported_commandId (commit : PendingResponseCommit) :
    (session.transported commit).commandId = commit.response.commandId := by
  unfold transported responseForTransport enforceResponseFrameLimit
  dsimp only
  split <;> rfl

omit [DecidableEq Id] in
theorem transported_failure (failed : commit.response.status = .error) :
    (session.transported commit).status = .error := by
  unfold transported responseForTransport enforceResponseFrameLimit
  dsimp only
  split
  · exact failed
  · rfl

theorem attachRequestCommandId_of_attached {request : IpcRequest}
    (same : response.commandId = request.commandId) :
    attachRequestCommandId request response = response := by
  unfold attachRequestCommandId
  cases id : request.commandId with
  | none => rfl
  | some =>
    rw [id] at same
    simp only [IpcResponse.withCommandId, ← same]

omit [DecidableEq Id] in
/-- The ids attached again on the way out of the cache are the ones already there. -/
theorem replayed_response {i j : Id} {first : PendingResponseCommit}
    (made : session.CommitMade i first)
    (identified : (session.request i).commandId = some commandId)
    (alike : (session.request j).commandId = some commandId) (route : CommitRoute) :
    (answeredByFence (session.request j)
      (session.responseToCache first route) true).response.withDaemonSessionId session.sessionId =
      first.response.withDaemonSessionId session.sessionId := by
  have id := made.identified commandId identified
  have kept : (session.responseToCache first route).commandId = (session.request j).commandId := by
    rw [alike]
    cases route <;> exact id
  have restored : (session.responseToCache first route).withDaemonSessionId session.sessionId =
      first.response.withDaemonSessionId session.sessionId := by
    cases route <;> rfl
  rw [← restored]
  show ((attachRequestCommandId (session.request j) (attachRequestCommandId (session.request j)
    (session.responseToCache first route))).withDaemonSessionId session.sessionId) = _
  rw [attachRequestCommandId_of_attached kept, attachRequestCommandId_of_attached kept]

end Transport

/-- The request has reached the replay fence and not left it. -/
def AtFence (phase : RequestPhase) : Prop :=
  ∃ requestId, phase = .claiming requestId ∨ ∃ receiver, phase = .waiting requestId receiver

/-- What a retry `j` of the executed request `i` can be answered. -/
inductive RetryAnswer (state : FenceState Id) (i j : Id) (commandId : String)
    (commit : PendingResponseCommit) : Prop where
  | replayed (first : PendingResponseCommit) (made : state.commits i = some first)
      (same : session.transported commit = session.transported first)
  | evicted (requestId : String)
      (answer : commit = .answeredByFence (session.request j)
        (replaySpentResponseEvictedResponse (session.request j) requestId commandId) true)
  | timedOut (requestId : String) (timeoutMs elapsedMs : Nat)
      (answer : commit = .answeredByFence (session.request j)
        (replayTimeoutResponse (session.request j) requestId commandId timeoutMs elapsedMs) false)

/-- What the claim of a retry `j` of `i` leads to. -/
inductive RetryClaim (state next : FenceState Id) (i j : Id) (requestId commandId : String) :
    Prop where
  | replayed (entry : ReplayCacheEntry)
      (retained : state.replay.cache.lookup commandId = some entry)
      (first answer : PendingResponseCommit) (made : state.commits i = some first)
      (answered : next.commits j = some answer)
      (same : session.transported answer = session.transported first)
  | waiting (uncached : state.replay.cache.lookup commandId = none)
      (flying : state.replay.inFlight.lookup commandId ≠ none) (receiver : Nat)
      (stands : next.phase j = .waiting requestId receiver)
      (unanswered : next.commits = state.commits)
  | evicted (uncached : state.replay.cache.lookup commandId = none)
      (landed : state.replay.inFlight.lookup commandId = none)
      (answered : next.commits j = some (.answeredByFence (session.request j)
        (replaySpentResponseEvictedResponse (session.request j) requestId commandId) true))

section Retries

variable {session} {state next : FenceState Id} {i j : Id} {requestId commandId : String}

theorem commitWith_commits_self (commit : PendingResponseCommit) :
    (commitWith state i commit).commits i = some commit := update_self ..

/-- The claim of a request with another fingerprint than the one that holds the id. -/
theorem conflict_of_holder (inv : session.ReplayInv state) (holds : session.Holds state i commandId)
    (fingerprint : session.fingerprint (session.request j) ≠
      session.fingerprint (session.request i)) :
    (session.claimCommand state j requestId commandId).commits j =
      some (.answeredByFence (session.request j)
        (replayFingerprintConflictResponse requestId (session.request j).command commandId)
        false) := by
  unfold claimCommand
  have spec := state.replay.claimReplayCommand_spec state.nextChannel commandId
    (session.fingerprint (session.request j))
  generalize state.replay.claimReplayCommand state.nextChannel commandId
    (session.fingerprint (session.request j)) = outcome at spec ⊢
  cases spec with
  | cached _ found same =>
    exact absurd (same.symm.trans (inv.cached_of_holder holds found).1) fingerprint
  | cacheConflict | inFlightConflict | spentConflict => exact commitWith_commits_self _
  | wait _ _ found same =>
    exact absurd (same.symm.trans (inv.inFlight_of_holder holds found)) fingerprint
  | spent _ _ _ found same =>
    exact absurd (same.symm.trans (inv.spent_of_holder holds found)) fingerprint
  | owner _ landed unspent => exact absurd unspent (inv.spent_of_landed holds landed)

omit [DecidableEq Id] in
theorem RetryAnswer.mono
    (kept : ∀ first, state.commits i = some first → next.commits i = some first)
    (answer : session.RetryAnswer state i j commandId commit) :
    session.RetryAnswer next i j commandId commit := by
  cases answer with
  | replayed first made same => exact .replayed first (kept first made) same
  | evicted requestId answer => exact .evicted requestId answer
  | timedOut requestId timeoutMs elapsedMs answer =>
    exact .timedOut requestId timeoutMs elapsedMs answer

/-- A request that is at the fence or has left it unanswered. -/
def Unanswered (phase : RequestPhase) : Prop := AtFence phase ∨ phase = .finished

/-- A retry of an executed request is unanswered or has one of the answers of a retry. -/
structure RetryInv (session : ReplaySession Id) (state : FenceState Id) (i j : Id)
    (commandId : String) : Prop where
  replay : session.ReplayInv state
  executed : i ∈ state.executions
  unanswered : state.commits j = none → Unanswered (state.phase j)
  answered : ∀ commit, state.commits j = some commit →
    session.RetryAnswer state i j commandId commit

omit [DecidableEq Id] in
theorem retryInv_of_answered (replay : session.ReplayInv state)
    (executed : i ∈ state.executions) (made : state.commits j = some commit)
    (answer : session.RetryAnswer state i j commandId commit) :
    RetryInv session state i j commandId := by
  refine ⟨replay, executed, ?_, ?_⟩
  · intro absent
    rw [made] at absent
    cases absent
  · intro other found
    rw [made] at found
    cases found
    exact answer

section

variable (identified : (session.request i).commandId = some commandId)
  (alike : (session.request j).commandId = some commandId)
  (command : (session.request j).command = (session.request i).command)
  (fingerprint : session.fingerprint (session.request j) = session.fingerprint (session.request i))

include identified alike command fingerprint

/-- The claim of a request with the fingerprint of the one that holds the id. -/
theorem retryClaim_of_holder (inv : session.ReplayInv state)
    (holds : session.Holds state i commandId) :
    session.RetryClaim state (session.claimCommand state j requestId commandId) i j requestId
      commandId := by
  unfold claimCommand
  have spec := state.replay.claimReplayCommand_spec state.nextChannel commandId
    (session.fingerprint (session.request j))
  generalize state.replay.claimReplayCommand state.nextChannel commandId
    (session.fingerprint (session.request j)) = outcome at spec ⊢
  cases spec with
  | cached entry found =>
    obtain ⟨_, first, route, made, committed, answer⟩ := inv.cached_of_holder holds found
    refine .replayed entry found first _ made (commitWith_commits_self _) ?_
    rw [answer]
    have source := inv.commits.made i first made
    unfold transported responseForTransport
    rw [replayed_response source identified alike route, committed, source.request]
    show enforceResponseFrameLimit _ (session.request j) _ _ = _
    unfold enforceResponseFrameLimit frameOverflowResponse
    rw [command]
    rfl
  | cacheConflict _ found differ =>
    exact absurd ((inv.cached_of_holder holds found).1.trans fingerprint.symm) differ
  | wait existing uncached found =>
    exact .waiting uncached (by rw [found]; exact Option.some_ne_none _) existing.sender
      (moveTo_phase_self ..) rfl
  | inFlightConflict _ _ found differ =>
    exact absurd ((inv.inFlight_of_holder holds found).trans fingerprint.symm) differ
  | spent _ uncached landed =>
    exact .evicted uncached landed (commitWith_commits_self _)
  | spentConflict _ _ _ found differ =>
    exact absurd ((inv.spent_of_holder holds found).trans fingerprint.symm) differ
  | owner _ landed unspent => exact absurd unspent (inv.spent_of_landed holds landed)

/-- The step of a retry that has no answer yet leaves it without one or gives it one. -/
theorem retry_step_self (inv : session.ReplayInv state)
    (holds : session.Holds state i commandId) (mine : action.actor = j)
    (waits : Unanswered (state.phase j)) (taken : session.step state action = some next) :
    (Unanswered (next.phase j) ∧ next.commits j = state.commits j) ∨
      ∃ commit, next.commits j = some commit ∧ session.RetryAnswer state i j commandId commit := by
  subst mine
  cases session.step_cases taken with
  | claimFenced k requestId id _ same =>
    have : id = commandId := Option.some.inj (same.symm.trans alike)
    subst this
    have claim : session.RetryClaim state (session.claimCommand state k requestId id) i k
      requestId id := retryClaim_of_holder identified alike command fingerprint inv holds
    cases claim with
    | replayed _ _ first answer made answered same =>
      exact .inr ⟨answer, answered, .replayed first made same⟩
    | waiting _ _ receiver waiting unanswered =>
      exact .inl ⟨.inl ⟨requestId, .inr ⟨receiver, waiting⟩⟩, congrFun unanswered k⟩
    | evicted _ _ answered => exact .inr ⟨_, answered, .evicted requestId rfl⟩
  | wake _ requestId =>
    exact .inl ⟨.inl ⟨requestId, .inl (moveTo_phase_self ..)⟩, rfl⟩
  | waitTimeout _ timeoutMs elapsedMs requestId id _ _ same =>
    have : id = commandId := Option.some.inj (same.symm.trans alike)
    subst this
    exact .inr ⟨_, commitWith_commits_self _, .timedOut requestId timeoutMs elapsedMs rfl⟩
  | claimUnfenced k _ _ anonymous =>
    have : (session.request k).commandId = some commandId := alike
    rw [anonymous] at this
    cases this
  | dropUnowned => exact .inl ⟨.inr (moveTo_phase_self ..), rfl⟩
  | dropOwned k _ owned =>
    have unanswered : Unanswered (state.phase k) := waits
    rcases unanswered with ⟨requestId, stands | ⟨receiver, stands⟩⟩ | stands <;>
      rw [stands] at owned <;> cases owned
  | _ => simp_all [Unanswered, AtFence, FenceAction.actor]

theorem retryInv_step (inv : RetryInv session state i j commandId)
    (taken : session.step state action = some next) : RetryInv session next i j commandId := by
  have valid := inv.replay.fence.valid
  have persist : ∀ k commit, state.commits k = some commit → next.commits k = some commit :=
    fun k commit found => session.commits_step valid inv.replay.commits taken found
  have executed : i ∈ next.executions := by
    obtain ⟨more, grown⟩ := session.executions_step valid taken
    rw [grown]
    exact List.mem_append_left _ inv.executed
  have replay := session.replayInv_step inv.replay taken
  cases answer : state.commits j with
  | some commit =>
    exact retryInv_of_answered replay executed (persist j commit answer)
      ((inv.answered commit answer).mono (persist i))
  | none =>
    have waits := inv.unanswered answer
    obtain ⟨k, actor, others, _⟩ := session.step_effect valid taken
    by_cases mine : k = j
    · subst mine
      rcases retry_step_self identified alike command fingerprint inv.replay
        (.inl ⟨inv.executed, identified⟩) actor waits taken
        with ⟨still, same⟩ | ⟨commit, made, answered⟩
      · refine ⟨replay, executed, fun _ => still, fun commit found => ?_⟩
        rw [same, answer] at found
        cases found
      · exact retryInv_of_answered replay executed made (answered.mono (persist i))
    · have untouched : next.commits j = none := by
        cases session.step_commitEffect valid inv.replay.commits taken with
        | kept same => rw [same, answer]
        | made _ _ commits =>
          rw [commits, actor, update_of_ne (Ne.symm mine), answer]
      refine ⟨replay, executed, fun _ => others j (Ne.symm mine) ▸ waits, fun commit found => ?_⟩
      rw [untouched] at found
      cases found

theorem retryAnswer_of_run (inv : session.ReplayInv state) (executed : i ∈ state.executions)
    (fenced : AtFence (state.phase j)) {actions : List (FenceAction Id)} {final : FenceState Id}
    (run : session.fence.runFrom state actions = some final)
    (answer : final.commits j = some commit) :
    session.RetryAnswer final i j commandId commit := by
  have start : RetryInv session state i j commandId := by
    refine ⟨inv, executed, fun _ => .inl fenced, fun made found => ?_⟩
    have placed := inv.commits.placed j
    obtain ⟨requestId, stands | ⟨receiver, stands⟩⟩ := fenced <;>
    · rw [stands] at placed
      rw [placed] at found
      cases found
  have preserved : ∀ current action next, RetryInv session current i j commandId →
      session.fence.step current action = some next → RetryInv session next i j commandId :=
    fun _ _ _ held taken => retryInv_step identified alike command fingerprint held taken
  exact (session.fence.runFrom_preserves preserved start run).answered commit answer

end

omit [DecidableEq Id] in
/-- A retry is only told of a success when it is the first request's. -/
theorem RetryAnswer.success (answer : session.RetryAnswer state i j commandId commit)
    (succeeded : (session.transported commit).status = .success) :
    ∃ first, state.commits i = some first ∧
      session.transported commit = session.transported first := by
  have failing : commit.response.status ≠ .error := by
    intro failed
    rw [transported_failure failed] at succeeded
    cases succeeded
  cases answer with
  | replayed first made same => exact ⟨first, made, same⟩
  | evicted _ answer | timedOut _ _ _ answer =>
    refine absurd ?_ failing
    rw [answer]
    show (attachRequestCommandId _ (attachRequestCommandId _ _)).status = .error
    unfold attachRequestCommandId
    cases (session.request j).commandId <;> rfl

end Retries

theorem claimCommand_of_flying {state : FenceState Id} {j : Id} {requestId : String}
    {existing : ReplayInFlightEntry} (uncached : state.replay.cache.lookup commandId = none)
    (found : state.replay.inFlight.lookup commandId = some existing)
    (same : existing.fingerprint = session.fingerprint (session.request j)) :
    session.claimCommand state j requestId commandId =
      moveTo state j (.waiting requestId existing.sender) := by
  simp [claimCommand, claimReplayCommand, uncached, found, same, afterClaim]

/-- The session a daemon runs: its fingerprint is the one of the request transaction. -/
def daemonSession (serde : SerdeJson) (request : Id → IpcRequest)
    (payloadLen : IpcResponse → Option Nat) (sessionId : String) : ReplaySession Id :=
  { request := request, fingerprint := replayRequestFingerprint serde, payloadLen := payloadLen,
    sessionId := sessionId }

/-- A retry of an executed command that reaches the fence is answered exactly what the
first request was answered while that answer is retained, and otherwise that the id is
spent; or it gives up waiting. A claim of the id with another fingerprint is a conflict. -/
theorem replay_transparency {serde : SerdeJson} {request : Id → IpcRequest}
    {payloadLen : IpcResponse → Option Nat} {sessionId : String} {state : FenceState Id}
    (reached : (daemonSession serde request payloadLen sessionId).fence.Reachable state)
    {i j : Id} {commandId : String} (identified : (request i).commandId = some commandId)
    (alike : (request j).commandId = some commandId) :
    let session := daemonSession serde request payloadLen sessionId
    (i ∈ state.executions →
      replayRequestFingerprint serde (request j) = replayRequestFingerprint serde (request i) →
      (AtFence (state.phase j) → ∀ actions final commit,
        session.fence.runFrom state actions = some final → final.commits j = some commit →
        session.RetryAnswer final i j commandId commit ∧
        (session.transported commit).commandId = some commandId ∧
        ((session.transported commit).status = .success →
          ∃ first, final.commits i = some first ∧
            session.transported commit = session.transported first)) ∧
      (∀ requestId next, state.phase j = .claiming requestId →
        session.step state (.claim j) = some next →
        session.RetryClaim state next i j requestId commandId)) ∧
    (session.Holds state i commandId →
      replayRequestFingerprint serde (request j) ≠ replayRequestFingerprint serde (request i) →
      ∀ requestId next, state.phase j = .claiming requestId →
        session.step state (.claim j) = some next →
        next.commits j = some (.answeredByFence (request j)
          (replayFingerprintConflictResponse requestId (request j).command commandId) false)) := by
  intro session
  have inv : session.ReplayInv state := session.replayInv_reachable reached
  have claimed : ∀ requestId next, state.phase j = .claiming requestId →
      session.step state (.claim j) = some next →
      next = session.claimCommand state j requestId commandId := by
    intro requestId next stands taken
    have requested : (session.request j).commandId = some commandId := alike
    simp only [step, stands, requested, Option.some.injEq] at taken
    exact taken.symm
  constructor
  · intro executed fingerprint
    have command : (request j).command = (request i).command :=
      (replayRequestFingerprint_eq_iff.mp fingerprint).1
    constructor
    · intro fenced actions final commit run answer
      have answered : session.RetryAnswer final i j commandId commit :=
        retryAnswer_of_run identified alike command fingerprint inv executed fenced run answer
      have reachable := TransitionSystem.Reachable.runFrom session.fence reached run
      have made := (session.replayInv_reachable reachable).commits.made j commit answer
      refine ⟨answered, ?_, answered.success⟩
      rw [transported_commandId]
      exact made.identified commandId alike
    · intro requestId next stands taken
      rw [claimed requestId next stands taken]
      exact retryClaim_of_holder identified alike command fingerprint inv
        (.inl ⟨executed, identified⟩)
  · intro holds fingerprint requestId next stands taken
    rw [claimed requestId next stands taken]
    exact conflict_of_holder inv holds fingerprint

/-- A request and its retry. -/
def reloadSession : ReplaySession Bool :=
  daemonSession plainSerde (fun _ =>
    { ipcProtocolVersion := Rub.ipcProtocolVersion, command := "reload",
      commandId := some "cmd-1", daemonSessionId := none, args := .object [],
      timeoutMs := 1000 }) (fun _ => some 2) "session-1"

/-- The retry comes to claim after the first request was answered and cached. -/
def cachedRun : List (FenceAction Bool) :=
  [.preflight true "req-1", .claim true, .markExecutionStarted true,
    .respond true (.success "req-1" .null), .beginCommit true .afterDelivery, .finalizeStep true,
    .finalizeStep true, .finalizeStep true, .preflight false "req-2"]

def cachedState : FenceState Bool :=
  (reloadSession.fence.runFrom initialState cachedRun).getD initialState

theorem replay_transparency_cached :
    true ∈ cachedState.executions ∧ cachedState.phase false = .claiming "req-2" ∧
      ∃ next, reloadSession.step cachedState (.claim false) = some next ∧
        reloadSession.RetryClaim cachedState next true false "req-2" "cmd-1" := by
  have executed : true ∈ cachedState.executions := by decide
  have reached : reloadSession.fence.Reachable cachedState := ⟨cachedRun, rfl⟩
  have retried : (reloadSession.request false).commandId = some "cmd-1" := rfl
  refine ⟨executed, rfl, _, rfl, ?_⟩
  exact ((replay_transparency reached rfl retried).1 executed rfl).2 "req-2" _ rfl rfl

/-- The first request starts to execute and the retry comes to claim. -/
def overtakenRun : List (FenceAction Bool) :=
  [.preflight true "req-1", .claim true, .markExecutionStarted true, .preflight false "req-2"]

def overtakenState : FenceState Bool :=
  (reloadSession.fence.runFrom initialState overtakenRun).getD initialState

/-- The retry gives up waiting; the first request then succeeds and is cached. -/
def impatientRun : List (FenceAction Bool) :=
  [.waitTimeout false 1000 1000, .respond true (.success "req-1" .null),
    .beginCommit true .afterDelivery, .finalizeStep true, .finalizeStep true, .finalizeStep true]

/-- A retry whose own deadline passes while the first request still executes is told
neither the first response nor that the id is spent. -/
theorem impatient_retry_not_transparent :
    ∃ final first answer,
      reloadSession.fence.runFrom initialState (overtakenRun ++ .claim false :: impatientRun) =
        some final ∧
      true ∈ overtakenState.executions ∧
      (reloadSession.request false).commandId = (reloadSession.request true).commandId ∧
      reloadSession.fingerprint (reloadSession.request false) =
        reloadSession.fingerprint (reloadSession.request true) ∧
      final.commits true = some first ∧ final.commits false = some answer ∧
      reloadSession.transported answer ≠ reloadSession.transported first ∧
      answer.daemonRequestCommitted = false := by
  have waits : reloadSession.fence.step overtakenState (.claim false) =
      some (moveTo overtakenState false (.waiting "req-2" 0)) :=
    congrArg some (reloadSession.claimCommand_of_flying rfl
      (show overtakenState.replay.inFlight.lookup "cmd-1" = some ⟨_, 0⟩ from rfl) rfl)
  have run : reloadSession.fence.runFrom initialState
      (overtakenRun ++ .claim false :: impatientRun) =
      reloadSession.fence.runFrom (moveTo overtakenState false (.waiting "req-2" 0))
        impatientRun := by
    rw [TransitionSystem.runFrom_append]
    show reloadSession.fence.runFrom overtakenState _ = _
    rw [TransitionSystem.runFrom_cons, waits]
    rfl
  refine ⟨_, _, _, run.trans rfl, ?_, rfl, rfl, rfl, rfl, ?_, rfl⟩
  · decide
  · intro same
    have statuses := congrArg IpcResponse.status same
    cases statuses

/-- A command id is in flight exactly while one unfinished request holds it: none is left behind
by a cancelled request, and whoever waits for the id waits for a request that can end. -/
theorem in_flight_iff_held {state : FenceState Id} (reached : session.fence.Reachable state)
    (commandId : String) : (state.replay.inFlight.lookup commandId).isSome = true ↔
      ∃! i, ∃ owner, (state.phase i).owner = some owner ∧ owner.commandId = commandId := by
  have inv := session.replayInv_reachable reached
  constructor
  · intro flying
    obtain ⟨entry, found⟩ := Option.isSome_iff_exists.mp flying
    obtain ⟨i, owner, owned, same⟩ := inv.retention.flown commandId entry found
    refine ⟨i, ⟨owner, owned, same⟩, ?_⟩
    rintro j ⟨other, otherOwned, alike⟩
    exact inv.fence.exclusive j i other owner otherOwned owned (alike.trans same.symm)
  · rintro ⟨i, ⟨owner, owned, rfl⟩, -⟩
    obtain ⟨entry, found, -⟩ := inv.fence.flying i owner owned
    rw [found]
    rfl

theorem in_flight_while_held : ∃! i, ∃ owner,
    (overtakenState.phase i).owner = some owner ∧ owner.commandId = "cmd-1" :=
  (reloadSession.in_flight_iff_held ⟨overtakenRun, rfl⟩ "cmd-1").mp rfl

/-- A command id is spent, or held by a request that will spend it, exactly if some request of
the id has started to execute. -/
theorem spent_iff_executed {state : FenceState Id} (reached : session.fence.Reachable state)
    (commandId : String) :
    (state.replay.spent.lookup commandId ≠ none ∨ ∃ i owner,
        (state.phase i).owner = some owner ∧ owner.commandId = commandId ∧
          owner.finalize = .cacheCommittedResponse) ↔
      ∃ i ∈ state.executions, (session.request i).commandId = some commandId := by
  have inv := session.replayInv_reachable reached
  constructor
  · rintro (spent | ⟨i, owner, owned, rfl, committed⟩)
    · obtain ⟨entry, found⟩ := Option.ne_none_iff_exists'.mp spent
      obtain ⟨i, executed, identified, -⟩ := inv.retention.spent commandId entry found
      exact ⟨i, executed, identified⟩
    · refine ⟨i, inv.retention.started i owner owned committed, ?_⟩
      exact ((inv.fence.valid i).owns session owned).1
  · rintro ⟨i, executed, identified⟩
    rcases inv.fence.executed i executed commandId identified with
      ⟨owner, owned, same, committed⟩ | spent
    · exact .inr ⟨i, owner, owned, same, committed⟩
    · exact .inl spent

theorem spent_after_answer : cachedState.replay.spent.lookup "cmd-1" ≠ none ∨ ∃ i owner,
    (cachedState.phase i).owner = some owner ∧ owner.commandId = "cmd-1" ∧
      owner.finalize = .cacheCommittedResponse :=
  (reloadSession.spent_iff_executed ⟨cachedRun, rfl⟩ "cmd-1").mpr ⟨true, by decide, rfl⟩

end Rub.ReplaySession
