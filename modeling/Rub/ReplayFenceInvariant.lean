import Rub.ReplayFenceStep

namespace Rub.ReplaySession

variable {Id : Type} [DecidableEq Id] (session : ReplaySession Id)

/-- The requests among `executions` that carry the command id. -/
def executionsOf (state : FenceState Id) (commandId : String) : List Id :=
  state.executions.filter fun i => (session.request i).commandId = some commandId

/-- What holds between the tables and the owners in every reachable state. -/
structure FenceInv (state : FenceState Id) : Prop where
  valid : ∀ i, session.PhaseValid i (state.phase i)
  flying : ∀ i owner, (state.phase i).owner = some owner →
    ∃ entry, state.replay.inFlight.lookup owner.commandId = some entry ∧
      entry.fingerprint = owner.fingerprint
  exclusive : ∀ i j owner other, (state.phase i).owner = some owner →
    (state.phase j).owner = some other → owner.commandId = other.commandId → i = j
  fresh : ∀ i owner, (state.phase i).owner = some owner → owner.finalize = .releaseOnly →
    state.replay.spent.lookup owner.commandId = none
  buried : ∀ i commandId, tombstone (state.phase i) = some commandId →
    state.replay.spent.lookup commandId ≠ none
  executed : ∀ i ∈ state.executions, ∀ commandId,
    (session.request i).commandId = some commandId →
      (∃ owner, (state.phase i).owner = some owner ∧ owner.commandId = commandId ∧
        owner.finalize = .cacheCommittedResponse) ∨
      state.replay.spent.lookup commandId ≠ none
  once : ∀ commandId, (session.executionsOf state commandId).length ≤ 1

omit [DecidableEq Id] in
theorem fenceInv_initial : session.FenceInv initialState := by
  constructor
  · intro i
    trivial
  · rintro i owner ⟨⟩
  · rintro i j owner other ⟨⟩
  · rintro i owner ⟨⟩
  · rintro i commandId ⟨⟩
  · rintro i ⟨⟩
  · intro commandId
    exact Nat.zero_le 1

section Preservation

variable {session} {state next : FenceState Id} {i : Id} {owner : ReplayFenceOwner}

theorem owner_after (others : ∀ j, j ≠ i → next.phase j = state.phase j) {j : Id}
    (owned : (next.phase j).owner = some owner) :
    (j = i ∧ (next.phase i).owner = some owner) ∨ (j ≠ i ∧ (state.phase j).owner = some owner) := by
  by_cases same : j = i
  · subst same
    exact .inl ⟨rfl, owned⟩
  · exact .inr ⟨same, others j same ▸ owned⟩

variable {commandId : String}

theorem tombstone_after (others : ∀ j, j ≠ i → next.phase j = state.phase j) {j : Id}
    (buried : tombstone (next.phase j) = some commandId) :
    tombstone (next.phase i) = some commandId ∨ tombstone (state.phase j) = some commandId := by
  by_cases same : j = i
  · subst same
    exact .inl buried
  · exact .inr (others j same ▸ buried)

variable (inv : session.FenceInv state) (others : ∀ j, j ≠ i → next.phase j = state.phase j)
  (valid : session.PhaseValid i (next.phase i))

include inv others valid

theorem valid_after (j : Id) : session.PhaseValid j (next.phase j) := by
  by_cases equal : j = i
  · exact equal ▸ valid
  · exact others j equal ▸ inv.valid j

omit valid in
theorem buried_after (spent : next.replay.spent = state.replay.spent)
    (unburied : tombstone (next.phase i) = none) (j : Id) (commandId : String)
    (stone : tombstone (next.phase j) = some commandId) :
    next.replay.spent.lookup commandId ≠ none := by
  rw [spent]
  rcases tombstone_after others stone with mine | older
  · rw [unburied] at mine
    cases mine
  · exact inv.buried j commandId older

/-- Steps that keep every owner: the part of the invariant about owners alone. -/
theorem inv_of_kept (owners : (next.phase i).owner = (state.phase i).owner)
    (flights : next.replay.inFlight = state.replay.inFlight)
    (fresh : ∀ j owner, (state.phase j).owner = some owner → owner.finalize = .releaseOnly →
      state.replay.spent.lookup owner.commandId = none →
      next.replay.spent.lookup owner.commandId = none)
    (lasting : ∀ commandId, state.replay.spent.lookup commandId ≠ none →
      next.replay.spent.lookup commandId ≠ none)
    (buried : ∀ commandId, tombstone (next.phase i) = some commandId →
      next.replay.spent.lookup commandId ≠ none) (same : next.executions = state.executions)
    : session.FenceInv next := by
  have owner_eq : ∀ j, (next.phase j).owner = (state.phase j).owner := by
    intro j
    by_cases equal : j = i
    · exact equal ▸ owners
    · rw [others j equal]
  constructor
  · exact valid_after inv others valid
  · intro j owner owned
    rw [flights]
    exact inv.flying j owner (owner_eq j ▸ owned)
  · intro j k owner other owned otherOwned
    exact inv.exclusive j k owner other (owner_eq j ▸ owned) (owner_eq k ▸ otherOwned)
  · intro j owner owned unstarted
    have before := owner_eq j ▸ owned
    exact fresh j owner before unstarted (inv.fresh j owner before unstarted)
  · intro j commandId stone
    rcases tombstone_after others stone with mine | older
    · exact buried commandId mine
    · exact lasting commandId (inv.buried j commandId older)
  · intro j started commandId identified
    rcases inv.executed j (same ▸ started) commandId identified with ⟨owner, owned, rest⟩ | spent
    · exact .inl ⟨owner, (owner_eq j).trans owned, rest⟩
    · exact .inr (lasting commandId spent)
  · intro commandId
    simpa only [executionsOf, same] using inv.once commandId

theorem inv_bury (effect : Buries state next i owner) : session.FenceInv next := by
  obtain ⟨owned, committed, tables, same, kept, buried⟩ := effect
  have spent : ∀ commandId, next.replay.spent.lookup commandId = if commandId = owner.commandId then
        some ((state.replay.spent.lookup owner.commandId).getD ⟨owner.fingerprint⟩)
      else state.replay.spent.lookup commandId := by
    intro commandId
    rw [tables, ReplayProtocolState.markReplayCommandSpent_spent]
  refine inv_of_kept inv others valid (kept.trans owned.symm) (by rw [tables]; simp) ?_ ?_ ?_ same
  · intro j other otherOwned unstarted absent
    -- Only the exclusive owner of an id buries it, and that owner has started.
    have different : other.commandId ≠ owner.commandId := by
      intro equal
      have := inv.exclusive j i other owner otherOwned owned equal
      subst this
      rw [otherOwned] at owned
      cases owned
      rw [unstarted] at committed
      cases committed
    rw [spent, if_neg different]
    exact absent
  · intro commandId present
    rw [spent]
    split
    · exact Option.some_ne_none _
    · exact present
  · intro commandId stone
    rw [buried] at stone
    cases stone
    rw [spent, if_pos rfl]
    exact Option.some_ne_none _

theorem inv_acquire (effect : session.Acquires state next i commandId) : session.FenceInv next := by
  obtain ⟨_, landed, unspent, tables, same, unowned, owner, buried⟩ := effect
  -- No other request owns the id, or its entry would be in flight.
  have unclaimed : ∀ j other, (state.phase j).owner = some other → other.commandId ≠ commandId := by
    rintro j other owned rfl
    obtain ⟨entry, found, _⟩ := inv.flying j other owned
    rw [landed] at found
    cases found
  constructor
  · exact valid_after inv others valid
  · intro j other owned
    rw [tables]
    rcases owner_after others owned with ⟨rfl, mine⟩ | ⟨_, older⟩
    · rw [owner] at mine
      cases mine
      exact ⟨_, AList.lookup_insert _, rfl⟩
    · obtain ⟨entry, found, fingerprint⟩ := inv.flying j other older
      refine ⟨entry, ?_, fingerprint⟩
      rw [AList.lookup_insert_ne (unclaimed j other older)]
      exact found
  · intro j k first second firstOwned secondOwned equal
    rcases owner_after others firstOwned with ⟨rfl, mine⟩ | ⟨_, older⟩ <;>
      rcases owner_after others secondOwned with ⟨rfl, mine'⟩ | ⟨_, older'⟩
    · rfl
    · rw [owner] at mine
      cases mine
      exact absurd equal.symm (unclaimed k second older')
    · rw [owner] at mine'
      cases mine'
      exact absurd equal (unclaimed j first older)
    · exact inv.exclusive j k first second older older' equal
  · intro j other owned unstarted
    rw [tables]
    rcases owner_after others owned with ⟨rfl, mine⟩ | ⟨_, older⟩
    · rw [owner] at mine
      cases mine
      exact unspent
    · exact inv.fresh j other older unstarted
  · exact buried_after inv others (by rw [tables]) buried
  · intro j started stoned identified
    rw [tables]
    rcases inv.executed j (same ▸ started) stoned identified with ⟨other, owned, rest⟩ | spent
    · refine .inl ⟨other, ?_, rest⟩
      have different : j ≠ i := by
        rintro rfl
        rw [unowned] at owned
        cases owned
      rw [others j different]
      exact owned
    · exact .inr spent
  · intro stoned
    simpa only [executionsOf, same] using inv.once stoned

theorem inv_start (effect : session.Starts state next i) : session.FenceInv next := by
  obtain ⟨tables, grown, fresh, anonymous, owner, buried⟩ := effect
  -- An owner after the step is the owner before it, up to its finalize mode.
  have before : ∀ j started, (next.phase j).owner = some started →
      ∃ held, (state.phase j).owner = some held ∧ held.commandId = started.commandId ∧
        held.fingerprint = started.fingerprint ∧ (j ≠ i → held = started) := by
    intro j started owned
    rcases owner_after others owned with ⟨rfl, mine⟩ | ⟨different, older⟩
    · rw [owner] at mine
      obtain ⟨held, found, rfl⟩ := Option.map_eq_some_iff.mp mine
      exact ⟨held, found, rfl, rfl, fun different => absurd rfl different⟩
    · exact ⟨started, older, rfl, rfl, fun _ => rfl⟩
  constructor
  · exact valid_after inv others valid
  · intro j started owned
    obtain ⟨held, found, id, fingerprint, _⟩ := before j started owned
    rw [tables, ← id, ← fingerprint]
    exact inv.flying j held found
  · intro j k first second firstOwned secondOwned equal
    obtain ⟨held, found, id, _⟩ := before j first firstOwned
    obtain ⟨other, otherFound, otherId, _⟩ := before k second secondOwned
    exact inv.exclusive j k held other found otherFound (by rw [id, otherId, equal])
  · intro j started owned unstarted
    rw [tables]
    rcases owner_after others owned with ⟨rfl, mine⟩ | ⟨_, older⟩
    · rw [owner] at mine
      obtain ⟨held, _, rfl⟩ := Option.map_eq_some_iff.mp mine
      cases unstarted
    · exact inv.fresh j started older unstarted
  · exact buried_after inv others (by rw [tables]) buried
  · intro j started stoned identified
    rw [tables]
    by_cases equal : j = i
    · subst equal
      cases held : (state.phase j).owner with
      | none =>
        rw [anonymous held] at identified
        cases identified
      | some holder =>
        rw [((inv.valid j).owns session held).1] at identified
        cases identified
        exact .inl ⟨holder.markExecutionStarted, by rw [owner, held]; rfl, rfl, rfl⟩
    · rw [grown] at started
      have older : j ∈ state.executions := by simpa [equal] using started
      rw [others j equal]
      exact inv.executed j older stoned identified
  · intro stoned
    have bound := inv.once stoned
    by_cases mine : (session.request i).commandId = some stoned
    · -- A fresh owner of the id excludes every earlier execution of it.
      have none_before : session.executionsOf state stoned = [] := by
        refine List.filter_eq_nil_iff.mpr fun j started identified => ?_
        have identified : (session.request j).commandId = some stoned := by
          simpa using identified
        cases held : (state.phase i).owner with
        | none => simp [anonymous held] at mine
        | some holder =>
          have same := ((inv.valid i).owns session held).1
          rw [mine] at same
          cases same
          have unspent := inv.fresh i holder held (fresh holder held)
          rcases inv.executed j started _ identified with ⟨other, owned, id, committed⟩ | spent
          · have := inv.exclusive j i other holder owned held id
            subst this
            rw [held] at owned
            cases owned
            rw [fresh holder held] at committed
            cases committed
          · exact spent unspent
      simp only [executionsOf] at none_before ⊢
      rw [grown, List.filter_append, none_before]
      simpa using List.length_filter_le _ [i]
    · simpa [executionsOf, grown, mine] using bound

theorem inv_release (effect : Releases state next i owner) : session.FenceInv next := by
  obtain ⟨owned, settled, tables, same, unowned, buried⟩ := effect
  have spent : next.replay.spent = state.replay.spent := by rw [tables]; rfl
  have before : ∀ j held, (next.phase j).owner = some held →
      j ≠ i ∧ (state.phase j).owner = some held := by
    intro j held found
    rcases owner_after others found with ⟨rfl, mine⟩ | older
    · rw [unowned] at mine
      cases mine
    · exact older
  constructor
  · exact valid_after inv others valid
  · intro j held found
    obtain ⟨different, older⟩ := before j held found
    obtain ⟨entry, present, fingerprint⟩ := inv.flying j held older
    refine ⟨entry, ?_, fingerprint⟩
    rw [tables, ReplayProtocolState.releaseReplayCommand_inFlight, if_neg]
    · exact present
    · exact fun equal => different (inv.exclusive j i held owner older owned equal)
  · intro j k first second firstOwned secondOwned
    exact inv.exclusive j k first second (before j first firstOwned).2
      (before k second secondOwned).2
  · intro j held found unstarted
    rw [spent]
    exact inv.fresh j held (before j held found).2 unstarted
  · exact buried_after inv others spent buried
  · intro j started stoned identified
    rw [spent]
    rcases inv.executed j (same ▸ started) stoned identified with ⟨held, found, id, mode⟩ | done
    · by_cases equal : j = i
      · -- The request that released had left its tombstone first.
        subst equal
        rw [owned] at found
        cases found
        rcases settled with unstarted | stone
        · rw [unstarted] at mode
          cases mode
        · exact .inr (id ▸ inv.buried j _ stone)
      · exact .inl ⟨held, others j equal ▸ found, id, mode⟩
    · exact .inr done
  · intro stoned
    simpa only [executionsOf, same] using inv.once stoned

end Preservation

variable {state next : FenceState Id} {action : FenceAction Id}

theorem fenceInv_step
    (inv : session.FenceInv state) (taken : session.step state action = some next) :
    session.FenceInv next := by
  obtain ⟨i, _, others, valid, effect⟩ := session.step_effect inv.valid taken
  cases effect with
  | quiet tables same owner buried =>
    exact inv_of_kept inv others valid owner (by rw [tables])
      (fun _ _ _ _ absent => tables ▸ absent) (fun _ present => tables ▸ present)
      (fun _ stone => by rw [buried] at stone; cases stone) same
  | acquire _ effect => exact inv_acquire inv others valid effect
  | start effect => exact inv_start inv others valid effect
  | bury _ effect => exact inv_bury inv others valid effect
  | cache _ _ _ effect =>
    obtain ⟨_, owned, _, tables, same, kept, buried⟩ := effect
    have spent : next.replay.spent = state.replay.spent := by rw [tables]; simp
    exact inv_of_kept inv others valid (kept.trans owned.symm) (by rw [tables]; simp)
      (fun _ _ _ _ absent => spent ▸ absent) (fun _ present => spent ▸ present)
      (fun commandId stone => by
        rw [spent]
        exact inv.buried _ commandId (buried ▸ stone))
      same
  | release _ effect => exact inv_release inv others valid effect

theorem fenceInv_reachable {state : FenceState Id} (reached : session.fence.Reachable state) :
    session.FenceInv state :=
  TransitionSystem.Reachable.invariant session.fence session.fenceInv_initial
    (fun _ _ _ inv taken => session.fenceInv_step inv taken) reached

omit [DecidableEq Id] in
/-- An executed command id stays in flight or spent, so no claim of it becomes the owner. -/
theorem FenceInv.claim_ne_owner {state : FenceState Id} (inv : session.FenceInv state)
    {commandId : String} (executed : session.executionsOf state commandId ≠ [])
    (sender : Nat) (fingerprint : String) :
    (state.replay.claimReplayCommand sender commandId fingerprint).1 ≠ .owner := by
  obtain ⟨i, member⟩ := List.exists_mem_of_ne_nil _ executed
  obtain ⟨started, identified⟩ := List.mem_filter.mp member
  have spec := state.replay.claimReplayCommand_spec sender commandId fingerprint
  generalize state.replay.claimReplayCommand sender commandId fingerprint = outcome at spec ⊢
  cases spec with
  | owner _ landed unspent =>
    rcases inv.executed i started commandId (by simpa using identified) with
      ⟨owner, owned, rfl, _⟩ | spent
    · obtain ⟨entry, found, _⟩ := inv.flying i owner owned
      rw [landed] at found
      cases found
    · exact absurd unspent spent
  | _ => rintro ⟨⟩

theorem executions_step (valid : ∀ i, session.PhaseValid i (state.phase i))
    (taken : session.step state action = some next) :
    ∃ more, next.executions = state.executions ++ more := by
  obtain ⟨i, _, _, _, effect⟩ := session.step_effect valid taken
  cases effect with
  | start effect => exact ⟨[i], effect.grown⟩
  | quiet _ same => exact ⟨[], by simp [same]⟩
  | acquire _ effect | bury _ effect | cache _ _ _ effect | release _ effect =>
    exact ⟨[], by simp [effect.same]⟩

/-- Over the whole life of a session at most one request of a command id reaches
execution, and once one has, no later claim of the id becomes its owner. -/
theorem at_most_one_execution {state : FenceState Id} (reached : session.fence.Reachable state)
    (commandId : String) :
    (session.executionsOf state commandId).length ≤ 1 ∧
      (session.executionsOf state commandId ≠ [] →
        ∀ actions later, session.fence.runFrom state actions = some later →
          ∀ sender fingerprint,
            (later.replay.claimReplayCommand sender commandId fingerprint).1 ≠ .owner) := by
  have inv := session.fenceInv_reachable reached
  refine ⟨inv.once commandId, fun executed actions later run sender fingerprint => ?_⟩
  let Executed : FenceState Id → Prop := fun current =>
    session.FenceInv current ∧ session.executionsOf current commandId ≠ []
  have preserved : ∀ current action next, Executed current →
      session.fence.step current action = some next → Executed next := by
    rintro current action next ⟨held, nonempty⟩ taken
    refine ⟨session.fenceInv_step held taken, ?_⟩
    obtain ⟨more, grown⟩ := session.executions_step held.valid taken
    rw [executionsOf, grown, List.filter_append]
    exact List.append_ne_nil_of_left_ne_nil nonempty _
  obtain ⟨held, nonempty⟩ := session.fence.runFrom_preserves preserved ⟨inv, executed⟩ run
  exact held.claim_ne_owner session nonempty sender fingerprint

/-- Two requests that reuse one command id. -/
def retriedSession : ReplaySession Bool :=
  { request := fun _ =>
      { ipcProtocolVersion := Rub.ipcProtocolVersion, command := "click",
        commandId := some "cmd-1", daemonSessionId := none, args := .object [],
        timeoutMs := 1000 },
    fingerprint := fun request => request.command,
    payloadLen := fun _ => some 2,
    sessionId := "session-1" }

/-- The first request executes and is cancelled while the second waits for it. -/
def cancelledRun : List (FenceAction Bool) :=
  [.preflight true "req-1", .claim true, .preflight false "req-2", .markExecutionStarted true,
    .claim false, .dropOwner true, .dropRelease true, .wake false]

theorem at_most_one_execution_cancelled :
    ∃ state, retriedSession.fence.runFrom initialState cancelledRun = some state ∧
      retriedSession.executionsOf state "cmd-1" = [true] ∧
      ∀ sender fingerprint,
        (state.replay.claimReplayCommand sender "cmd-1" fingerprint).1 ≠ .owner := by
  refine ⟨_, rfl, rfl, ?_⟩
  exact (retriedSession.at_most_one_execution ⟨cancelledRun, rfl⟩ "cmd-1").2
    (by decide) [] _ rfl

end Rub.ReplaySession
