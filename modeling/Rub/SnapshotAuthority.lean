import Rub.SnapshotFence

/-!
A snapshot that the authority check accepts is not stale. The invariant says who still
owes a cached snapshot the news of a change: as long as its epoch is the current one,
every change that concerns it sits in the pending scope or in the hands of the
transaction that took it.
-/

namespace Rub

open List PendingExternalDomChangeState

namespace SnapshotFenceState

/-- The scope the exclusive transaction has taken and not given back. -/
def heldScope : Option TransactionPhase → PendingExternalDomChangeState
  | some (.capturing _ scope) => scope
  | some (.captured _ scope _) => scope
  | some (.publishing scope _ _) => scope
  | some (.settling _ scope) => scope
  | some (.committing scope) => scope
  | _ => .empty

/-- A change on the target is pending or held by the transaction. -/
def Unpublished (state : SnapshotFenceState) (targetId : Option String) : Prop :=
  state.pending.affectsTarget targetId = true ∨
    (heldScope state.exclusive).affectsTarget targetId = true

/-- The observed changes that concern a snapshot and began after it had settled. -/
def ChangedSince (state : SnapshotFenceState) (targetId : Option String) (settledAt : Nat)
    (change : ObservedChange) : Prop :=
  change ∈ state.history.observed ∧ Concerns change.targetId targetId ∧
    settledAt < change.began

/-- As long as its epoch is current, a snapshot's later changes are not lost. -/
structure Vouched (state : SnapshotFenceState) (snapshot : PublishedSnapshot) : Prop where
  epoch_le : snapshot.domEpoch ≤ state.domEpoch
  changes : snapshot.domEpoch = state.domEpoch → ∀ change,
    state.ChangedSince snapshot.frameContext.targetId snapshot.settledAt change →
      state.Unpublished snapshot.frameContext.targetId
  bumps : snapshot.domEpoch = state.domEpoch →
    ∀ bump ∈ state.history.bumps, bump < snapshot.settledAt

/-- Between the empty take and the commit of the epoch. A callback that saw no transaction
began before this one, so it may still add an epoch without being news. -/
structure Publishing (state : SnapshotFenceState) (snapshot : Snapshot) (settledAt : Nat) :
    Prop where
  epoch_le : snapshot.domEpoch ≤ state.domEpoch
  late : ∀ seen ∈ state.observers, seen.sawInFlight = false → seen.began < settledAt
  changes : ∀ change, state.ChangedSince snapshot.frameContext.targetId settledAt change →
    state.pending.affectsTarget snapshot.frameContext.targetId = true
  bumps : ∀ bump ∈ state.history.bumps, bump < settledAt

/-- Between the two reads of a check. -/
structure EpochChecked (state : SnapshotFenceState) (snapshot : PublishedSnapshot)
    (epochReadAt : Nat) : Prop where
  read_le : epochReadAt ≤ state.clock
  changes : ∀ change,
    state.ChangedSince snapshot.frameContext.targetId snapshot.settledAt change →
      (change.marked = true ∨ change.ended < epochReadAt) →
        state.pending.affectsTarget snapshot.frameContext.targetId = true
  bumps : ∀ bump ∈ state.history.bumps, bump < snapshot.settledAt

/-- Whatever change concerns the snapshot was written after the check had read its cell. -/
structure Current (state : SnapshotFenceState) (check : AcceptedCheck) : Prop where
  epoch_read_le : check.epochReadAt ≤ state.clock
  pending_read_le : check.pendingReadAt ≤ state.clock
  accepted_le : check.acceptedAt ≤ state.clock
  changes : ∀ change,
    state.ChangedSince check.snapshot.frameContext.targetId check.snapshot.settledAt change →
      check.readAt change.marked ≤ change.ended
  bumps : ∀ bump ∈ state.history.bumps,
    bump < check.snapshot.settledAt ∨ check.acceptedAt ≤ bump

/-- What the exclusive transaction knows in a phase. -/
def PhaseInv (state : SnapshotFenceState) : Option TransactionPhase → Prop
  | some (.captured _ _ snapshot) => snapshot.domEpoch ≤ state.domEpoch
  | some (.publishing _ snapshot settledAt) => state.Publishing snapshot settledAt
  | some (.built snapshot) => state.Vouched snapshot
  | some .fencing => ∀ id, state.cache.getSnapshot id = none
  | some (.settling _ _) => ∀ id, state.cache.getSnapshot id = none
  | some (.checking snapshot) => state.Vouched snapshot
  | some (.epochChecked snapshot epochReadAt) => state.EpochChecked snapshot epochReadAt
  | some (.pendingChecked snapshot epochReadAt pendingReadAt) =>
    -- accepting now would be sound
    state.Current { snapshot, epochReadAt, pendingReadAt, acceptedAt := state.clock }
  | _ => True

/-- How often the exclusive transaction is counted as in flight. -/
def exclusiveCount : Option TransactionPhase → Nat
  | none => 0
  | some .entered => 0
  | some .leaving => 0
  | some _ => 1

/-- Everything recorded happened before now. -/
structure Timely (state : SnapshotFenceState) : Prop where
  observers : ∀ seen ∈ state.observers, seen.began < state.clock
  observed : ∀ change ∈ state.history.observed, change.began < state.clock
  bumps : ∀ bump ∈ state.history.bumps, bump < state.clock

structure FenceInv (state : SnapshotFenceState) : Prop where
  counted : state.inFlight = state.sharedCounted + exclusiveCount state.exclusive
  timely : state.Timely
  cached : ∀ id snapshot, state.cache.getSnapshot id = some snapshot → state.Vouched snapshot
  phase : state.PhaseInv state.exclusive
  accepted : ∀ check ∈ state.history.accepted, state.Current check

theorem fenceInv_initial : FenceInv initial where
  counted := rfl
  timely := by constructor <;> simp [initial]
  cached := fun _ _ held => nomatch held
  phase := trivial
  accepted := by simp [initial]

/-- What every step does to the records. -/
structure Recorded (state next : SnapshotFenceState) : Prop where
  clock : next.clock = state.clock
  observers : ∀ seen ∈ next.observers, seen ∈ state.observers ∨ seen.began = state.clock
  observed : ∀ change ∈ next.history.observed, change ∈ state.history.observed ∨
    change.began ≤ state.clock ∧ change.ended = state.clock
  bumps : ∀ bump ∈ next.history.bumps, bump ∈ state.history.bumps ∨ bump = state.clock

/-- What a step has to keep for the snapshots that were vouched for. -/
structure Carries (state next : SnapshotFenceState) : Prop where
  epoch_le : state.domEpoch ≤ next.domEpoch
  unpublished : next.domEpoch = state.domEpoch → ∀ targetId,
    state.Unpublished targetId → next.Unpublished targetId
  observed : next.domEpoch = state.domEpoch → ∀ change ∈ next.history.observed,
    change ∈ state.history.observed ∨
      ∀ targetId, Concerns change.targetId targetId → next.Unpublished targetId
  bumps : next.domEpoch = state.domEpoch →
    ∀ bump ∈ next.history.bumps, bump ∈ state.history.bumps

variable {state next : SnapshotFenceState} {snapshot : PublishedSnapshot}

theorem Vouched.carry (vouched : state.Vouched snapshot) (carries : Carries state next) :
    next.Vouched snapshot := by
  have still (current : snapshot.domEpoch = next.domEpoch) :
      next.domEpoch = state.domEpoch ∧ snapshot.domEpoch = state.domEpoch := by
    have before := vouched.epoch_le
    have after := carries.epoch_le
    omega
  refine ⟨vouched.epoch_le.trans carries.epoch_le, ?_, ?_⟩
  · intro current change ⟨member, concerns, later⟩
    obtain ⟨sameEpoch, was⟩ := still current
    rcases carries.observed sameEpoch change member with known | news
    · exact carries.unpublished sameEpoch _ (vouched.changes was change ⟨known, concerns, later⟩)
    · exact news _ concerns
  · intro current bump member
    obtain ⟨sameEpoch, was⟩ := still current
    exact vouched.bumps was bump (carries.bumps sameEpoch bump member)

theorem Timely.tick (timely : state.Timely) (recorded : Recorded state next) :
    Timely { next with clock := state.clock + 1 } := by
  refine ⟨fun seen member => ?_, fun change member => ?_, fun bump member => ?_⟩
  · rcases recorded.observers seen member with known | fresh
    · exact Nat.lt_succ_of_lt (timely.observers seen known)
    · exact Nat.lt_succ_of_le fresh.le
  · rcases recorded.observed change member with known | ⟨fresh, _⟩
    · exact Nat.lt_succ_of_lt (timely.observed change known)
    · exact Nat.lt_succ_of_le fresh
  · rcases recorded.bumps bump member with known | fresh
    · exact Nat.lt_succ_of_lt (timely.bumps bump known)
    · exact Nat.lt_succ_of_le fresh.le

/-- What is recorded later does not touch a check that was made. -/
theorem Current.tick {check : AcceptedCheck} (current : state.Current check)
    (recorded : Recorded state next) :
    Current { next with clock := state.clock + 1 } check := by
  refine ⟨Nat.le_succ_of_le current.epoch_read_le, Nat.le_succ_of_le current.pending_read_le,
    Nat.le_succ_of_le current.accepted_le, ?_, fun bump member => ?_⟩
  · intro change ⟨member, concerns, later⟩
    rcases recorded.observed change member with known | ⟨_, fresh⟩
    · exact current.changes change ⟨known, concerns, later⟩
    · rw [fresh]
      unfold AcceptedCheck.readAt
      split
      · exact current.pending_read_le
      · exact current.epoch_read_le
  · rcases recorded.bumps bump member with known | fresh
    · exact current.bumps bump known
    · exact .inr (fresh ▸ current.accepted_le)

/-- The parts of the invariant that a step has to show, the rest following from what it
records. -/
theorem FenceInv.tick (inv : state.FenceInv) (recorded : Recorded state next)
    (counted : next.inFlight = next.sharedCounted + exclusiveCount next.exclusive)
    (cached : ∀ id snapshot, next.cache.getSnapshot id = some snapshot → next.Vouched snapshot)
    (phase : PhaseInv { next with clock := state.clock + 1 } next.exclusive)
    (accepted : ∀ check ∈ next.history.accepted, check ∈ state.history.accepted ∨
      Current { next with clock := state.clock + 1 } check) :
    FenceInv { next with clock := state.clock + 1 } where
  counted := counted
  timely := inv.timely.tick recorded
  cached := fun id snapshot held =>
    have vouched := cached id snapshot held
    ⟨vouched.epoch_le, vouched.changes, vouched.bumps⟩
  phase := phase
  accepted := fun check member =>
    (accepted check member).elim (fun known => (inv.accepted check known).tick recorded) id

/-- A step that only moves the transaction, the scopes and the cache. -/
structure Quiet (state next : SnapshotFenceState) : Prop where
  clock : next.clock = state.clock
  domEpoch : next.domEpoch = state.domEpoch
  observers : next.observers = state.observers
  history : next.history = state.history

theorem Quiet.recorded (quiet : Quiet state next) : Recorded state next where
  clock := quiet.clock
  observers := fun _ member => .inl (quiet.observers ▸ member)
  observed := fun _ member => .inl (quiet.history ▸ member)
  bumps := fun _ member => .inl (quiet.history ▸ member)

theorem Quiet.carries (quiet : Quiet state next)
    (unpublished : ∀ targetId, state.Unpublished targetId → next.Unpublished targetId) :
    Carries state next where
  epoch_le := quiet.domEpoch.ge
  unpublished := fun _ => unpublished
  observed := fun _ _ member => .inl (quiet.history ▸ member)
  bumps := fun _ _ member => quiet.history ▸ member

theorem FenceInv.quiet (inv : state.FenceInv) (next : SnapshotFenceState) (quiet : Quiet state next)
    (counted : next.inFlight = next.sharedCounted + exclusiveCount next.exclusive)
    (kept : ∀ id snapshot, next.cache.getSnapshot id = some snapshot → state.Vouched snapshot ∧
        ∀ targetId, state.Unpublished targetId → next.Unpublished targetId)
    (phase : PhaseInv { next with clock := state.clock + 1 } next.exclusive) :
    FenceInv { next with clock := state.clock + 1 } := by
  refine inv.tick quiet.recorded counted (fun id snapshot held => ?_) phase ?_
  · obtain ⟨vouched, unpublished⟩ := kept id snapshot held
    exact vouched.carry (quiet.carries unpublished)
  · intro check member
    exact .inl (quiet.history ▸ member)

variable {action : SnapshotFenceAction} {targetId : Option String}

theorem Unpublished.pending (nothing : heldScope state.exclusive = .empty)
    (unpublished : state.Unpublished targetId) :
    state.pending.affectsTarget targetId = true := by
  refine unpublished.resolve_right fun held => ?_
  rw [nothing, not_affectsTarget_empty] at held
  cases held

variable {before : TransactionPhase}

/-- The transaction moves on, is counted as it should be and loses no pending change. -/
theorem FenceInv.move (inv : state.FenceInv) (stands : state.exclusive = some before)
    (after : Option TransactionPhase) (inFlight : Nat) (pending : PendingExternalDomChangeState)
    (count : inFlight + exclusiveCount (some before) = state.inFlight + exclusiveCount after)
    (covers : ∀ targetId, state.pending.affectsTarget targetId = true ∨
      (heldScope (some before)).affectsTarget targetId = true →
        pending.affectsTarget targetId = true ∨ (heldScope after).affectsTarget targetId = true)
    (phase : PhaseInv
      { state with exclusive := after, inFlight := inFlight, pending := pending,
                   clock := state.clock + 1 } after) :
    FenceInv
      { state with exclusive := after, inFlight := inFlight, pending := pending,
                   clock := state.clock + 1 } := by
  refine inv.quiet { state with exclusive := after, inFlight := inFlight, pending := pending }
    ⟨rfl, rfl, rfl, rfl⟩ ?_ (fun id snapshot held => ?_) phase
  · have counted := inv.counted
    rw [stands] at counted
    show inFlight = state.sharedCounted + exclusiveCount after
    omega
  · refine ⟨inv.cached id snapshot held, fun targetId unpublished => covers targetId ?_⟩
    rw [← stands]
    exact unpublished

theorem FenceInv.rescope (inv : state.FenceInv) (stands : state.exclusive = some before)
    (pending : PendingExternalDomChangeState) (after : TransactionPhase)
    (same : exclusiveCount (some before) = exclusiveCount (some after))
    (covers : ∀ targetId, state.pending.affectsTarget targetId = true ∨
      (heldScope (some before)).affectsTarget targetId = true →
        pending.affectsTarget targetId = true ∨
      (heldScope (some after)).affectsTarget targetId = true) (phase : PhaseInv
      { state with pending := pending, exclusive := some after, clock := state.clock + 1 }
      (some after)) :
    FenceInv { state with pending := pending, exclusive := some after, clock := state.clock + 1 } :=
  inv.move stands (some after) state.inFlight pending (by rw [same]) covers phase

theorem covers_of_nothing {after : Option TransactionPhase}
    (nothing : heldScope (some before) = .empty) (targetId : Option String)
    (affected : state.pending.affectsTarget targetId = true ∨
      (heldScope (some before)).affectsTarget targetId = true) :
    state.pending.affectsTarget targetId = true ∨
      (heldScope after).affectsTarget targetId = true := by
  rw [nothing, not_affectsTarget_empty] at affected
  exact .inl (affected.resolve_right Bool.false_ne_true)

/-- A move of a transaction that holds no scope. -/
theorem FenceInv.enter (inv : state.FenceInv) (stands : state.exclusive = some before)
    (nothing : heldScope (some before) = .empty) (after : TransactionPhase)
    (same : exclusiveCount (some before) = exclusiveCount (some after))
    (phase : PhaseInv { state.enter after with clock := state.clock + 1 } (some after)) :
    FenceInv { state.enter after with clock := state.clock + 1 } :=
  inv.rescope stands state.pending after same (covers_of_nothing nothing) phase

theorem FenceInv.resume (inv : state.FenceInv) (stands : state.exclusive = some before)
    (nothing : heldScope (some before) = .empty) (counted : exclusiveCount (some before) = 1) :
    FenceInv { state.resume with clock := state.clock + 1 } :=
  inv.enter stands nothing (.running .clear) counted trivial

theorem mergePendingScope_covers (state : SnapshotFenceState)
    (scope : PendingExternalDomChangeState) (targetId : Option String)
    (affected : state.pending.affectsTarget targetId = true ∨ scope.affectsTarget targetId = true) :
    (state.mergePendingScope scope).pending.affectsTarget targetId = true := by
  show (if scope.isEmpty then state.pending else state.pending.merge scope).affectsTarget
    targetId = true
  split
  · rename_i none
    rw [eq_empty_of_isEmpty none, not_affectsTarget_empty] at affected
    exact affected.resolve_right Bool.false_ne_true
  · rcases affected with own | other
    · exact affectsTarget_of_within (within_merge_left _ _) own
    · exact affectsTarget_of_within (within_merge_right _ _) other

/-- A guard that is dropped gives its scope back. -/
theorem FenceInv.giveBack (inv : state.FenceInv) (stands : state.exclusive = some before)
    (counted : exclusiveCount (some before) = 1) (after : TransactionPhase)
    (running : exclusiveCount (some after) = 1) (phase : ∀ other, PhaseInv other (some after)) :
    FenceInv { (state.mergePendingScope (heldScope (some before))).enter after with
      clock := state.clock + 1 } :=
  inv.rescope stands _ after (counted.trans running.symm)
    (fun targetId affected => .inl (mergePendingScope_covers _ _ targetId affected)) (phase _)

theorem merge_covers (scope : PendingExternalDomChangeState) (targetId : Option String)
    (affected : state.pending.affectsTarget targetId = true ∨ scope.affectsTarget targetId = true) :
    (scope.merge state.pending).affectsTarget targetId = true := by
  rcases affected with own | other
  · exact affectsTarget_of_within (within_merge_right _ _) own
  · exact affectsTarget_of_within (within_merge_left _ _) other

variable {scope : PendingExternalDomChangeState}

theorem FenceInv.settleWindow (inv : state.FenceInv) {attempt : Nat} {snapshot : Snapshot}
    (stands : state.exclusive = some (.captured attempt scope snapshot)) :
    FenceInv { state.settleWindow attempt scope snapshot with clock := state.clock + 1 } := by
  unfold SnapshotFenceState.settleWindow
  split
  · -- nothing recorded so far is later than this take
    have captured := inv.phase
    rw [stands] at captured
    refine inv.rescope stands state.pending (.publishing scope snapshot state.clock) rfl
      (fun _ => id) ⟨captured, ?_, ?_, inv.timely.bumps⟩
    · exact fun seen member _ => inv.timely.observers seen member
    · intro change ⟨member, _, later⟩
      exact absurd (inv.timely.observed change member) (Nat.lt_asymm later)
  · split
    · refine inv.rescope stands _ (.running .clear) rfl (fun targetId affected => .inl ?_) trivial
      exact mergePendingScope_covers state.takePendingScope _ targetId
        (.inr (merge_covers scope targetId affected))
    · exact inv.rescope stands .empty (.capturing (attempt + 1) (scope.merge state.pending)) rfl
        (fun targetId affected => .inr (merge_covers scope targetId affected)) trivial

theorem Carries.of_lt (advanced : state.domEpoch < next.domEpoch) : Carries state next where
  epoch_le := advanced.le
  unpublished := fun same => absurd same advanced.ne'
  observed := fun same => absurd same advanced.ne'
  bumps := fun same => absurd same advanced.ne'

section

variable (inv : state.FenceInv)

include inv

theorem FenceInv.publish {snapshot : Snapshot} {settledAt : Nat}
    (stands : state.exclusive = some (.publishing scope snapshot settledAt)) :
    FenceInv { state.publish scope snapshot settledAt with clock := state.clock + 1 } := by
  have publishing : state.Publishing snapshot settledAt := by
    have phase := inv.phase
    rwa [stands] at phase
  have counted := inv.counted
  rw [stands] at counted
  unfold SnapshotFenceState.publish
  split
  · rename_i none
    have nothing := eq_empty_of_isEmpty none
    exact inv.enter stands nothing _ rfl ⟨publishing.epoch_le,
      fun _ change since => .inl (publishing.changes change since), fun _ => publishing.bumps⟩
  · refine inv.tick ⟨rfl, fun _ => .inl, fun _ => .inl, fun _ => .inl⟩ counted ?_ ?_ (fun _ => .inl)
    · intro id cached held
      exact (inv.cached id cached held).carry (Carries.of_lt (Nat.lt_succ_self _))
    · exact ⟨Nat.le_refl _, fun _ change since => .inl (publishing.changes change since),
        fun _ => publishing.bumps⟩

theorem FenceInv.cache (stands : state.exclusive = some (.built snapshot)) :
    FenceInv { state.resume with
      cache := state.cache.cacheSnapshot snapshot, clock := state.clock + 1 } := by
  have vouched : state.Vouched snapshot := by
    have phase := inv.phase
    rwa [stands] at phase
  have counted := inv.counted
  rw [stands] at counted
  refine inv.quiet { state.resume with cache := state.cache.cacheSnapshot snapshot }
    ⟨rfl, rfl, rfl, rfl⟩ counted (fun id cached held => ⟨?_, fun targetId unpublished => ?_⟩)
    trivial
  · rcases SnapshotCache.getSnapshot_cacheSnapshot held with rfl | older
    · exact vouched
    · exact inv.cached id cached older
  · have nothing : heldScope state.exclusive = .empty := by rw [stands]; rfl
    have affected := unpublished.pending nothing
    exact .inl affected

theorem FenceInv.clear (cache : SnapshotCache)
    (kept : ∀ id snapshot, cache.getSnapshot id = some snapshot →
      state.cache.getSnapshot id = some snapshot) {before : PendingExternalDomCommit}
    (stands : state.exclusive = some (.running before)) :
    FenceInv { state with cache := cache, clock := state.clock + 1 } := by
  refine inv.quiet { state with cache := cache } ⟨rfl, rfl, rfl, rfl⟩ inv.counted ?_ ?_
  · exact fun snapshotId snapshot held =>
      ⟨inv.cached snapshotId snapshot (kept snapshotId snapshot held), fun _ => id⟩
  · show PhaseInv _ state.exclusive
    rw [stands]
    trivial

/-- During a navigation settle nothing is cached, so no scope is owed to anyone. -/
theorem FenceInv.unowed (cleared : ∀ id, state.cache.getSnapshot id = none)
    (stands : state.exclusive = some before) (pending : PendingExternalDomChangeState)
    (after : TransactionPhase) (same : exclusiveCount (some before) = exclusiveCount (some after))
    (phase : PhaseInv
      { state with pending := pending, exclusive := some after, clock := state.clock + 1 }
      (some after)) :
    FenceInv
      { state with pending := pending, exclusive := some after, clock := state.clock + 1 } := by
  refine inv.quiet { state with pending := pending, exclusive := some after }
    ⟨rfl, rfl, rfl, rfl⟩ ?_ (fun id snapshot held => ?_) phase
  · show state.inFlight = state.sharedCounted + exclusiveCount (some after)
    rw [← same, ← stands]
    exact inv.counted
  · cases (cleared id).symm.trans held

theorem FenceInv.startSettle {before : PendingExternalDomCommit}
    (stands : state.exclusive = some (.running before)) :
    FenceInv { state.enter .fencing with
      cache := state.cache.clearAllSnapshots, clock := state.clock + 1 } := by
  have counted := inv.counted
  rw [stands] at counted
  exact inv.quiet { state.enter .fencing with cache := state.cache.clearAllSnapshots }
    ⟨rfl, rfl, rfl, rfl⟩ counted (fun _ _ held => nomatch held) fun _ => rfl

theorem FenceInv.fenceWindow {attempt : Nat} (covered : Bool)
    (stands : state.exclusive = some (.settling attempt scope)) :
    FenceInv { state.fenceWindow attempt scope covered with clock := state.clock + 1 } := by
  have cleared : ∀ id, state.cache.getSnapshot id = none := by
    have phase := inv.phase
    rwa [stands] at phase
  unfold SnapshotFenceState.fenceWindow
  split
  · exact inv.unowed cleared stands _ (.running .preserve) rfl trivial
  · split
    · exact inv.unowed cleared stands state.pending (.running .clear) rfl trivial
    · split
      · exact inv.unowed cleared stands _ (.running .preserve) rfl trivial
      · exact inv.unowed cleared stands .empty (.settling (attempt + 1) _) rfl cleared

theorem FenceInv.take (stands : state.exclusive = some before)
    (nothing : heldScope (some before) = .empty) (after : TransactionPhase)
    (takes : heldScope (some after) = state.pending)
    (same : exclusiveCount (some before) = exclusiveCount (some after))
    (phase : PhaseInv { state.takePendingScope.enter after with clock := state.clock + 1 }
      (some after)) :
    FenceInv { state.takePendingScope.enter after with clock := state.clock + 1 } := by
  refine inv.rescope stands .empty after same (fun targetId affected => .inr ?_) phase
  rw [nothing, not_affectsTarget_empty] at affected
  rw [takes]
  exact affected.resolve_right Bool.false_ne_true

theorem FenceInv.startCommit {commit : PendingExternalDomCommit}
    (stands : state.exclusive = some (.running commit)) :
    FenceInv { state.startCommit commit with clock := state.clock + 1 } := by
  cases commit with
  | preserve => exact inv.enter stands rfl (.committing .empty) rfl trivial
  | clear => exact inv.take stands rfl (.committing state.pending) rfl rfl trivial

theorem FenceInv.bump {cleared : PendingExternalDomChangeState}
    (stands : state.exclusive = some (.committing cleared)) :
    FenceInv { state.bumpEpoch.resume with clock := state.clock + 1 } := by
  have counted := inv.counted
  rw [stands] at counted
  refine inv.tick ⟨rfl, fun _ => .inl, fun _ => .inl, fun bump member => ?_⟩ counted ?_ trivial
    (fun _ => .inl)
  · exact (mem_append.mp member).imp id mem_singleton.mp
  · intro id snapshot held
    exact (inv.cached id snapshot held).carry (Carries.of_lt (Nat.lt_succ_self _))

theorem FenceInv.load {before : PendingExternalDomCommit}
    (stands : state.exclusive = some (.running before)) (snapshotId : String) :
    FenceInv { state.load snapshotId with clock := state.clock + 1 } := by
  unfold SnapshotFenceState.load
  split
  · exact inv.resume stands rfl rfl
  · rename_i snapshot found
    have vouched := inv.cached snapshotId snapshot found
    refine inv.enter stands rfl (.checking snapshot) rfl
      ⟨vouched.epoch_le, fun current change since => ?_, vouched.bumps⟩
    have nothing : heldScope state.exclusive = .empty := by rw [stands]; rfl
    have affected := (vouched.changes current change since).pending nothing
    exact .inl affected

theorem FenceInv.readEpoch (stands : state.exclusive = some (.checking snapshot)) :
    FenceInv { state.readEpoch snapshot with clock := state.clock + 1 } := by
  have vouched : state.Vouched snapshot := by
    have phase := inv.phase
    rwa [stands] at phase
  have nothing : heldScope state.exclusive = .empty := by rw [stands]; rfl
  unfold SnapshotFenceState.readEpoch
  split
  · exact inv.resume stands rfl rfl
  · rename_i passed
    have current : snapshot.domEpoch = state.domEpoch := by
      by_contra drifted
      simp [Snapshot.ensureEpoch, drifted] at passed
    refine inv.enter stands rfl (.epochChecked snapshot state.clock) rfl
      ⟨Nat.le_succ _, fun change since _ => ?_, vouched.bumps current⟩
    have affected := (vouched.changes current change since).pending nothing
    exact affected

theorem FenceInv.readPending {epochReadAt : Nat}
    (stands : state.exclusive = some (.epochChecked snapshot epochReadAt)) :
    FenceInv { state.readPending snapshot epochReadAt with clock := state.clock + 1 } := by
  have checked : state.EpochChecked snapshot epochReadAt := by
    have phase := inv.phase
    rwa [stands] at phase
  unfold SnapshotFenceState.readPending
  split
  · exact inv.resume stands rfl rfl
  · rename_i passed
    have clean : ¬ state.pending.affectsTarget snapshot.frameContext.targetId = true := by
      intro affected
      simp [Snapshot.ensureNoPendingChange, affected] at passed
    refine inv.enter stands rfl (.pendingChecked snapshot epochReadAt state.clock) rfl
      ⟨Nat.le_succ_of_le checked.read_le, Nat.le_succ _, Nat.le_refl _, ?_,
        fun bump member => .inl (checked.bumps bump member)⟩
    intro change since
    have missed := mt (checked.changes change since) clean
    rw [not_or, Nat.not_lt] at missed
    unfold AcceptedCheck.readAt
    rw [if_neg missed.1]
    exact missed.2

theorem FenceInv.readFrame {epochReadAt pendingReadAt : Nat} (requestedFrameId : Option String)
    (frameRuntime : FrameRuntimeInfo)
    (stands : state.exclusive = some (.pendingChecked snapshot epochReadAt pendingReadAt)) :
    FenceInv { state.readFrame snapshot epochReadAt pendingReadAt requestedFrameId frameRuntime with
        clock := state.clock + 1 } := by
  have current : state.Current
      { snapshot, epochReadAt, pendingReadAt, acceptedAt := state.clock } := by
    have phase := inv.phase
    rwa [stands] at phase
  have counted := inv.counted
  rw [stands] at counted
  unfold SnapshotFenceState.readFrame
  split
  · exact inv.resume stands rfl rfl
  · have recorded : Recorded state state := ⟨rfl, fun _ => .inl, fun _ => .inl, fun _ => .inl⟩
    have after := current.tick recorded
    refine inv.tick ⟨rfl, fun _ => .inl, fun _ => .inl, fun _ => .inl⟩ counted ?_ trivial ?_
    · intro id cached held
      have vouched := inv.cached id cached held
      refine ⟨vouched.epoch_le, fun same change since => ?_, vouched.bumps⟩
      have nothing : heldScope state.exclusive = .empty := by rw [stands]; rfl
      have affected := (vouched.changes same change since).pending nothing
      exact .inl affected
    · intro check member
      rcases mem_append.mp member with known | fresh
      · exact .inl known
      · rw [mem_singleton.mp fresh]
        exact .inr ⟨after.1, after.2, after.3, after.4, after.5⟩

end

theorem Unpublished.mono (sameExclusive : next.exclusive = state.exclusive)
    (grows : state.pending.affectsTarget targetId = true →
      next.pending.affectsTarget targetId = true)
    (unpublished : state.Unpublished targetId) : next.Unpublished targetId := by
  unfold Unpublished
  rw [sameExclusive]
  exact unpublished.imp_left grows

/-- What a callback or a shared transaction does beside the exclusive one: it removes
nothing, and news either reaches the pending scope or comes from a callback that saw no
transaction and adds an epoch. -/
structure Beside (state next : SnapshotFenceState) : Prop where
  recorded : Recorded state next
  cache : next.cache = state.cache
  exclusive : next.exclusive = state.exclusive
  accepted : next.history.accepted = state.history.accepted
  bumps : next.history.bumps = state.history.bumps
  epoch_le : state.domEpoch ≤ next.domEpoch
  grows : ∀ targetId, state.pending.affectsTarget targetId = true →
    next.pending.affectsTarget targetId = true
  late : ∀ seen ∈ next.observers, seen.sawInFlight = false →
    seen ∈ state.observers ∨ state.inFlight = 0
  news : ∀ change ∈ next.history.observed, change ∈ state.history.observed ∨
    (change.marked = true ∧ ∀ targetId, Concerns change.targetId targetId →
      next.pending.affectsTarget targetId = true) ∨
    (change.marked = false ∧ state.domEpoch < next.domEpoch ∧
      ∃ seen ∈ state.observers, seen.sawInFlight = false ∧ seen.began = change.began)

theorem Beside.carries (beside : Beside state next) : Carries state next where
  epoch_le := beside.epoch_le
  unpublished := fun _ targetId => Unpublished.mono beside.exclusive (beside.grows targetId)
  observed := fun same change member => by
    rcases beside.news change member with known | ⟨_, marked⟩ | ⟨_, advanced, _⟩
    · exact .inl known
    · exact .inr fun targetId concerns => .inl (marked targetId concerns)
    · exact absurd same advanced.ne'
  bumps := fun _ _ member => beside.bumps ▸ member

theorem Vouched.beside (vouched : state.Vouched snapshot) (beside : Beside state next) :
    Vouched { next with clock := state.clock + 1 } snapshot :=
  have carried := vouched.carry beside.carries
  ⟨carried.epoch_le, carried.changes, carried.bumps⟩

theorem Publishing.beside {snapshot : Snapshot} {settledAt : Nat}
    (publishing : state.Publishing snapshot settledAt) (counted : state.inFlight ≠ 0)
    (beside : Beside state next) :
    Publishing { next with clock := state.clock + 1 } snapshot settledAt := by
  refine ⟨publishing.epoch_le.trans beside.epoch_le, ?_, ?_, ?_⟩
  · intro seen member idle
    have known := (beside.late seen member idle).resolve_right counted
    exact publishing.late seen known idle
  · intro change ⟨member, concerns, later⟩
    rcases beside.news change member with known | ⟨_, marked⟩ | ⟨_, _, seen, known, idle, same⟩
    · exact beside.grows _ (publishing.changes change ⟨known, concerns, later⟩)
    · exact marked _ concerns
    · have early := publishing.late seen known idle
      omega
  · intro bump member
    exact publishing.bumps bump (beside.bumps ▸ member)

theorem EpochChecked.beside {epochReadAt : Nat} (checked : state.EpochChecked snapshot epochReadAt)
    (beside : Beside state next) :
    EpochChecked { next with clock := state.clock + 1 } snapshot epochReadAt := by
  refine ⟨Nat.le_succ_of_le checked.read_le, ?_, ?_⟩
  · intro change ⟨member, concerns, later⟩ early
    rcases beside.recorded.observed change member with known | ⟨_, now⟩
    · exact beside.grows _ (checked.changes change ⟨known, concerns, later⟩ early)
    · have written : change.marked = true := by
        refine early.resolve_right fun before => ?_
        have read := checked.read_le
        omega
      rcases beside.news change member with known | ⟨_, marked⟩ | ⟨unmarked, _⟩
      · exact beside.grows _ (checked.changes change ⟨known, concerns, later⟩ early)
      · exact marked _ concerns
      · cases unmarked.symm.trans written
  · intro bump member
    exact checked.bumps bump (beside.bumps ▸ member)

theorem PhaseInv.beside (inv : state.FenceInv) (beside : Beside state next) :
    PhaseInv { next with clock := state.clock + 1 } state.exclusive := by
  have phase := inv.phase
  have counted := inv.counted
  cases stands : state.exclusive with
  | none => trivial
  | some standing =>
    rw [stands] at phase counted
    cases standing with
    | captured => exact Nat.le_trans phase beside.epoch_le
    | publishing =>
      have positive : state.inFlight ≠ 0 := by
        rw [counted]
        exact Nat.succ_ne_zero _
      exact Publishing.beside phase positive beside
    | built | checking => exact Vouched.beside phase beside
    | fencing | settling =>
      intro id
      rw [← phase id, ← beside.cache]
    | epochChecked => exact EpochChecked.beside phase beside
    | pendingChecked =>
      have ticked := Current.tick phase beside.recorded
      refine ⟨ticked.1, ticked.2, Nat.le_refl _, ticked.4, fun bump member => ?_⟩
      refine (ticked.bumps bump member).imp_right fun late => ?_
      have known := inv.timely.bumps bump (beside.bumps ▸ member)
      exact absurd known (Nat.not_lt.mpr late)
    | entered => trivial
    | running => trivial
    | capturing => trivial
    | committing => trivial
    | leaving => trivial

theorem FenceInv.beside (inv : state.FenceInv) (beside : Beside state next)
    (counted : next.inFlight = next.sharedCounted + exclusiveCount state.exclusive) :
    FenceInv { next with clock := state.clock + 1 } := by
  refine inv.tick beside.recorded ?_ (fun id snapshot held => ?_) ?_ fun check member => ?_
  · rw [beside.exclusive]
    exact counted
  · rw [beside.cache] at held
    exact (inv.cached id snapshot held).carry beside.carries
  · have phase := PhaseInv.beside inv beside
    rw [← beside.exclusive] at phase
    exact phase
  · exact .inl (beside.accepted ▸ member)

theorem beside_beginObservation (state : SnapshotFenceState) (targetId : Option String) :
    Beside state { state with
        observers := state.observers ++
          [{ targetId, sawInFlight := state.inFlight ≠ 0, began := state.clock }] } where
  recorded := by
    refine ⟨rfl, fun seen member => ?_, fun _ => .inl, fun _ => .inl⟩
    refine (mem_append.mp member).imp_right fun fresh => ?_
    rw [mem_singleton.mp fresh]
  cache := rfl
  exclusive := rfl
  accepted := rfl
  bumps := rfl
  epoch_le := Nat.le_refl _
  grows := fun _ => id
  late := fun seen member idle => by
    refine (mem_append.mp member).imp_right fun fresh => ?_
    rw [mem_singleton.mp fresh] at idle
    simpa using idle
  news := fun _ => .inl

theorem mem_recordChange {change added : ObservedChange}
    (member : change ∈ (state.recordChange added).history.observed) :
    change ∈ state.history.observed ∨ change = added :=
  (mem_append.mp member).imp_right mem_singleton.mp

theorem beside_observe (timely : state.Timely) {index : Nat} {seen : PendingObservation}
    (found : state.observers[index]? = some seen) :
    Beside state { state.observeExternalDomChange seen with
      observers := state.observers.eraseIdx index } := by
  have known : seen ∈ state.observers := mem_of_getElem? found
  have began := timely.observers seen known
  have rest {other : PendingObservation} (member : other ∈ state.observers.eraseIdx index) :
      other ∈ state.observers := mem_of_mem_eraseIdx member
  unfold observeExternalDomChange
  cases inFlight : seen.sawInFlight with
  | true =>
    refine ⟨⟨rfl, fun _ member => .inl (rest member), fun change member => ?_, fun _ => .inl⟩,
      rfl, rfl, rfl, rfl, Nat.le_refl _, fun targetId => ?_, fun _ member _ => .inl (rest member),
      fun change member => ?_⟩
    · refine (mem_recordChange member).imp_right fun added => ?_
      rw [added]
      exact ⟨began.le, rfl⟩
    · exact affectsTarget_of_within (within_mark _ _)
    · refine (mem_recordChange member).imp_right fun added => .inl ?_
      rw [added]
      exact ⟨rfl, fun _ => affectsTarget_mark _⟩
  | false =>
    refine ⟨⟨rfl, fun _ member => .inl (rest member), fun change member => ?_, fun _ => .inl⟩,
      rfl, rfl, rfl, rfl, Nat.le_succ _, fun _ => id, fun _ member _ => .inl (rest member),
      fun change member => ?_⟩
    · refine (mem_recordChange member).imp_right fun added => ?_
      rw [added]
      exact ⟨began.le, rfl⟩
    · refine (mem_recordChange member).imp_right fun added => .inr ?_
      rw [added]
      exact ⟨rfl, Nat.lt_succ_self _, seen, known, inFlight, rfl⟩

theorem beside_markPending (state : SnapshotFenceState) :
    Beside state state.markPendingExternalDomChange where
  recorded := by
    refine ⟨rfl, fun _ => .inl, fun change member => ?_, fun _ => .inl⟩
    refine (mem_recordChange member).imp_right fun added => ?_
    rw [added]
    exact ⟨Nat.le_refl _, rfl⟩
  cache := rfl
  exclusive := rfl
  accepted := rfl
  bumps := rfl
  epoch_le := Nat.le_refl _
  grows := fun _ => affectsTarget_of_within (within_mark _ _)
  late := fun _ member _ => .inl member
  news := fun change member => by
    refine (mem_recordChange member).imp_right fun added => .inl ?_
    rw [added]
    exact ⟨rfl, fun _ => affectsTarget_mark _⟩

/-- Shared transactions only count themselves. -/
theorem beside_shared (state : SnapshotFenceState) (sharedHeld sharedCounted inFlight : Nat) :
    Beside state { state with
        sharedHeld := sharedHeld, sharedCounted := sharedCounted, inFlight := inFlight } where
  recorded := ⟨rfl, fun _ => .inl, fun _ => .inl, fun _ => .inl⟩
  cache := rfl
  exclusive := rfl
  accepted := rfl
  bumps := rfl
  epoch_le := Nat.le_refl _
  grows := fun _ => id
  late := fun _ member _ => .inl member
  news := fun _ => .inl

theorem fenceInv_transactionStep (inv : state.FenceInv) {phase : TransactionPhase}
    {action : TransactionAction} (stands : state.exclusive = some phase)
    (taken : state.transactionStep phase action = some next) :
    FenceInv { next with clock := state.clock + 1 } := by
  have counted := inv.counted
  have known := inv.phase
  rw [stands] at counted known
  unfold transactionStep at taken
  split at taken <;> try cases taken
  · -- begin
    exact inv.move stands (some (.running .clear)) (state.inFlight + 1) state.pending rfl
      (covers_of_nothing rfl) trivial
  · exact inv.move stands none state.inFlight state.pending rfl (covers_of_nothing rfl) trivial
  · -- finish
    refine inv.move stands (some .leaving) (state.inFlight - 1) state.pending ?_
      (covers_of_nothing rfl) trivial
    simp only [exclusiveCount] at counted ⊢
    omega
  · exact inv.move stands none state.inFlight state.pending rfl (covers_of_nothing rfl) trivial
  · exact inv.resume stands rfl rfl
  · -- a build takes the scope into its guard, and every way out of it gives it back
    exact inv.take stands rfl (.capturing 0 state.pending) rfl rfl trivial
  · exact inv.rescope stands state.pending (.captured ..) rfl (fun _ => id) (Nat.le_refl _)
  · exact inv.giveBack stands rfl (.running .clear) rfl fun _ => trivial
  · exact inv.giveBack stands rfl (.running .clear) rfl fun _ => trivial
  · exact inv.settleWindow stands
  · exact inv.publish stands
  · exact inv.cache stands
  · exact inv.resume stands rfl rfl
  · -- a settle clears the cache first, so it may lose what it takes
    exact inv.startSettle stands
  · exact inv.unowed known stands .empty (.settling 0 state.pending) rfl known
  · exact inv.resume stands rfl rfl
  · exact inv.fenceWindow _ stands
  · exact inv.unowed known stands state.pending (.running .clear) rfl trivial
  · exact inv.startCommit stands
  · exact inv.bump stands
  · refine inv.beside (beside_markPending state) ?_
    rw [stands]
    exact counted
  · exact inv.clear .empty (fun _ _ held => nomatch held) stands
  · exact inv.clear _ (fun _ _ held => (Option.filter_eq_some_iff.mp held).1) stands
  · exact inv.load stands _
  · exact inv.readEpoch stands
  · exact inv.readPending stands
  · exact inv.readFrame _ _ stands
  · exact inv.resume stands rfl rfl

theorem fenceInv_transition (inv : state.FenceInv) (taken : state.transition action = some next) :
    FenceInv { next with clock := state.clock + 1 } := by
  cases action with
  | beginObservation targetId =>
    cases taken
    exact inv.beside (beside_beginObservation state targetId) inv.counted
  | endObservation =>
    obtain ⟨seen, found, done⟩ := Option.bind_eq_some_iff.mp taken
    cases done
    refine inv.beside (beside_observe inv.timely found) ?_
    unfold observeExternalDomChange
    split <;> exact inv.counted
  | acquireShared | releaseShared =>
    simp only [transition] at taken
    split at taken <;> cases taken
    exact inv.beside (beside_shared state ..) inv.counted
  | beginShared =>
    simp only [transition] at taken
    split at taken <;> cases taken
    refine inv.beside (beside_shared state ..) ?_
    have counted := inv.counted
    show state.inFlight + 1 = state.sharedCounted + 1 + exclusiveCount state.exclusive
    omega
  | finishShared =>
    simp only [transition] at taken
    split at taken <;> cases taken
    refine inv.beside (beside_shared state ..) ?_
    have counted := inv.counted
    show state.inFlight - 1 = state.sharedCounted - 1 + exclusiveCount state.exclusive
    omega
  | acquireExclusive =>
    simp only [transition] at taken
    split at taken <;> cases taken
    rename_i free
    have idle : state.exclusive = none := by
      cases stands : state.exclusive with
      | none => rfl
      | some => simp [stands] at free
    refine inv.quiet (state.enter .entered) ⟨rfl, rfl, rfl, rfl⟩ ?_ ?_ trivial
    · have counted := inv.counted
      rw [idle] at counted
      exact counted
    · intro id snapshot held
      refine ⟨inv.cached id snapshot held, fun targetId unpublished => ?_⟩
      have nothing : heldScope state.exclusive = .empty := by rw [idle]; rfl
      have affected := unpublished.pending nothing
      exact .inl affected
  | within =>
    obtain ⟨phase, stands, moved⟩ := Option.bind_eq_some_iff.mp taken
    exact fenceInv_transactionStep inv stands moved

theorem fenceInv_step (inv : state.FenceInv)
    (taken : state.step action = some next) : next.FenceInv := by
  obtain ⟨moved, transitioned, rfl⟩ := Option.map_eq_some_iff.mp taken
  exact fenceInv_transition inv transitioned

theorem fenceInv_reachable (reached : snapshotFenceSystem.Reachable state) : state.FenceInv :=
  reached.invariant snapshotFenceSystem fenceInv_initial fun _ _ _ inv taken =>
    fenceInv_step inv taken

end SnapshotFenceState

/-- An accepted snapshot is not stale, in any interleaving. Of the changes that concern it
and whose observation began after the take its publication found empty, none had been
written when the check read the cell it is written to; and no command has committed an
epoch of its own between that take and the acceptance. -/
theorem accepted_snapshot_not_stale {state : SnapshotFenceState}
    (reached : snapshotFenceSystem.Reachable state) {check : AcceptedCheck}
    (accepted : check ∈ state.history.accepted) :
    (∀ change ∈ state.history.observed,
      Concerns change.targetId check.snapshot.frameContext.targetId →
        check.snapshot.settledAt < change.began →
          check.readAt change.marked ≤ change.ended) ∧
    ∀ bump ∈ state.history.bumps,
      bump < check.snapshot.settledAt ∨ check.acceptedAt ≤ bump := by
  have current := (SnapshotFenceState.fenceInv_reachable reached).accepted check accepted
  refine ⟨fun change member concerns later => ?_, current.bumps⟩
  exact current.changes change ⟨member, concerns, later⟩

/-- A snapshot of one tab is built, a change of another tab is observed, and the snapshot is
reused; a change of its own tab comes after the transaction. -/
def reuseRun : List SnapshotFenceAction :=
  let frame : FrameContextInfo := { frameId := "main", targetId := some "tab" }
  [.acquireExclusive, .within .begin, .within .startBuild, .within (.capture "snap-1" frame),
    .within .settleWindow, .within .publish, .within .cache,
    .beginObservation (some "other-tab"), .endObservation 0,
    .within (.load "snap-1"), .within .readEpoch, .within .readPending,
    .within (.readFrame none { status := .top, currentFrame := some frame }),
    .within .finish, .within .release,
    .beginObservation (some "tab"), .endObservation 0]

theorem reused_snapshot_not_stale :
    ∃ state check, snapshotFenceSystem.runFrom .initial reuseRun = some state ∧
      check ∈ state.history.accepted ∧ state.history.observed.length = 2 ∧
      (∀ change ∈ state.history.observed,
        Concerns change.targetId check.snapshot.frameContext.targetId →
          check.snapshot.settledAt < change.began →
            check.readAt change.marked ≤ change.ended) ∧
      ∀ bump ∈ state.history.bumps,
        bump < check.snapshot.settledAt ∨ check.acceptedAt ≤ bump :=
  ⟨_, _, rfl, mem_singleton.mpr rfl, rfl,
    accepted_snapshot_not_stale ⟨reuseRun, rfl⟩ (mem_singleton.mpr rfl)⟩

end Rub
