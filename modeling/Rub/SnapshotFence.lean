import Rub.SnapshotCache
import Rub.TransitionSystem

/-!
The DOM epoch, the pending change scope and the snapshot cache of one session, under the
transactions of its router and the browser callbacks that run beside them. A step is one
access to a shared cell, so two calls interleave wherever the code lets them.
-/

namespace Rub

def snapshotSettleRetries : Nat := 6

/-- What a command does with the pending scope when it commits its own epoch. -/
inductive PendingExternalDomCommit where
  | clear | preserve
deriving DecidableEq

/-- Where the transaction that holds the exclusive permit stands. -/
inductive TransactionPhase where
  /-- The permit is held and the transaction is not counted yet. -/
  | entered
  | running (commit : PendingExternalDomCommit)
  /-- A build whose publication guard holds `scope`, before it asks the browser. -/
  | capturing (attempt : Nat) (scope : PendingExternalDomChangeState)
  /-- The browser was asked and the settle window runs. -/
  | captured (attempt : Nat) (scope : PendingExternalDomChangeState) (snapshot : Snapshot)
  /-- The take at `settledAt` found nothing; the epoch is not committed yet. -/
  | publishing (scope : PendingExternalDomChangeState) (snapshot : Snapshot) (settledAt : Nat)
  | built (snapshot : PublishedSnapshot)
  /-- A navigation settle has cleared the cache. -/
  | fencing
  | settling (attempt : Nat) (scope : PendingExternalDomChangeState)
  /-- The pending scope is dealt with and the epoch is not incremented yet; `cleared` is
  what was dropped (a history variable). -/
  | committing (cleared : PendingExternalDomChangeState)
  | checking (snapshot : PublishedSnapshot)
  | epochChecked (snapshot : PublishedSnapshot) (epochReadAt : Nat)
  | pendingChecked (snapshot : PublishedSnapshot) (epochReadAt pendingReadAt : Nat)
  /-- No longer counted, the permit still held. -/
  | leaving

/-- A call of `observe_external_dom_change` that has read the in-flight count. -/
structure PendingObservation where
  targetId : Option String
  sawInFlight : Bool
  began : Nat
deriving DecidableEq

/-- An observation that took effect: by marking the pending scope or by an epoch. -/
structure ObservedChange where
  targetId : Option String
  marked : Bool
  began : Nat
  ended : Nat
deriving DecidableEq

/-- A check that accepted its snapshot, with the moments of its reads. -/
structure AcceptedCheck where
  snapshot : PublishedSnapshot
  epochReadAt : Nat
  pendingReadAt : Nat
  acceptedAt : Nat
deriving DecidableEq

/-- When the check read the cell that an observation of that kind writes. -/
def AcceptedCheck.readAt (check : AcceptedCheck) (marked : Bool) : Nat :=
  if marked then check.pendingReadAt else check.epochReadAt

/-- What has happened, for stating what never does. -/
structure SnapshotFenceHistory where
  observed : List ObservedChange
  /-- The command-owned epoch increments. -/
  bumps : List Nat
  accepted : List AcceptedCheck

structure SnapshotFenceState where
  domEpoch : Nat
  pending : PendingExternalDomChangeState
  inFlight : Nat
  cache : SnapshotCache
  /-- Shared permits whose transaction is not counted, and those whose is. -/
  sharedHeld : Nat
  sharedCounted : Nat
  exclusive : Option TransactionPhase
  observers : List PendingObservation
  clock : Nat
  history : SnapshotFenceHistory

/-- What the transaction with the exclusive permit does next. -/
inductive TransactionAction where
  | begin | finish | release | startCommand | startBuild
  | capture (snapshotId : String) (frameContext : FrameContextInfo)
  | settleWindow | publish | cache | startSettle | takeFence
  | fenceWindow (covered : Bool)
  | commit | bump | markPending | clearAll
  | clearTarget (targetId : String)
  | load (snapshotId : String)
  | readEpoch | readPending
  | readFrame (requestedFrameId : Option String) (frameRuntime : FrameRuntimeInfo)
  /-- The operation under way fails, or its future is dropped at an await. -/
  | abort
deriving DecidableEq

inductive SnapshotFenceAction where
  | beginObservation (targetId : Option String)
  | endObservation (index : Nat)
  | acquireShared | beginShared | finishShared | releaseShared | acquireExclusive
  | within (action : TransactionAction)
deriving DecidableEq

namespace SnapshotFenceState

def initial : SnapshotFenceState where
  domEpoch := 0
  pending := .empty
  inFlight := 0
  cache := .empty
  sharedHeld := 0
  sharedCounted := 0
  exclusive := none
  observers := []
  clock := 0
  history := { observed := [], bumps := [], accepted := [] }

variable (state : SnapshotFenceState)

def enter (phase : TransactionPhase) : SnapshotFenceState :=
  { state with exclusive := some phase }

/-- The transaction goes on with its command, or with the next one. -/
def resume : SnapshotFenceState := state.enter (.running .clear)

def takePendingScope : SnapshotFenceState :=
  { state with pending := .empty }

def mergePendingScope (scope : PendingExternalDomChangeState) : SnapshotFenceState :=
  { state with pending := if scope.isEmpty then state.pending else state.pending.merge scope }

def recordChange (change : ObservedChange) : SnapshotFenceState :=
  { state with
    history := { state.history with observed := state.history.observed ++ [change] } }

/-- The second half of `observe_external_dom_change`. -/
def observeExternalDomChange (seen : PendingObservation) : SnapshotFenceState :=
  let change : ObservedChange :=
    { targetId := seen.targetId, marked := seen.sawInFlight, began := seen.began
      ended := state.clock }
  if seen.sawInFlight then
    { state.recordChange change with pending := state.pending.mark seen.targetId }
  else { state.recordChange change with domEpoch := state.domEpoch + 1 }

def markPendingExternalDomChange : SnapshotFenceState :=
  { state.recordChange
      { targetId := none, marked := true, began := state.clock, ended := state.clock } with
    pending := state.pending.mark none }

/-- The take that ends a settle window of a build. -/
def settleWindow (attempt : Nat) (scope : PendingExternalDomChangeState) (snapshot : Snapshot) :
    SnapshotFenceState :=
  if state.pending.isEmpty then state.enter (.publishing scope snapshot state.clock)
  else if attempt + 1 = snapshotSettleRetries then
    -- the error drops the guard, which merges what it holds back
    (state.takePendingScope.mergePendingScope (scope.merge state.pending)).resume
  else state.takePendingScope.enter (.capturing (attempt + 1) (scope.merge state.pending))

/-- `commit_snapshot_publication_epoch_for_pending_scope`, after which the guard holds
nothing any more. -/
def publish (scope : PendingExternalDomChangeState) (snapshot : Snapshot) (settledAt : Nat) :
    SnapshotFenceState :=
  if scope.isEmpty then
    state.enter (.built { toSnapshot := snapshot, settledAt := settledAt })
  else
    { state with domEpoch := state.domEpoch + 1 }.enter
      (.built
        { toSnapshot := { snapshot with domEpoch := state.domEpoch + 1 }
          settledAt := settledAt })

/-- One window of `settle_external_dom_fence`; `covered` says whether the deadline covers it. -/
def fenceWindow (attempt : Nat) (scope : PendingExternalDomChangeState) (covered : Bool) :
    SnapshotFenceState :=
  if !covered then (state.mergePendingScope scope).enter (.running .preserve)
  else if state.pending.isEmpty then state.enter (.running .clear)
  else if attempt + 1 = snapshotSettleRetries then
    (state.takePendingScope.mergePendingScope (scope.merge state.pending)).enter
      (.running .preserve)
  else state.takePendingScope.enter (.settling (attempt + 1) (scope.merge state.pending))

def startCommit : PendingExternalDomCommit → SnapshotFenceState
  | .clear => state.takePendingScope.enter (.committing state.pending)
  | .preserve => state.enter (.committing .empty)

def bumpEpoch : SnapshotFenceState :=
  { state with
    domEpoch := state.domEpoch + 1
    history := { state.history with bumps := state.history.bumps ++ [state.clock] } }

def load (snapshotId : String) : SnapshotFenceState :=
  match state.cache.getSnapshot snapshotId with
  | none => state.resume
  | some snapshot => state.enter (.checking snapshot)

def readEpoch (snapshot : PublishedSnapshot) : SnapshotFenceState :=
  match snapshot.ensureEpoch state.domEpoch with
  | .error _ => state.resume
  | .ok () => state.enter (.epochChecked snapshot state.clock)

def readPending (snapshot : PublishedSnapshot) (epochReadAt : Nat) : SnapshotFenceState :=
  match snapshot.ensureNoPendingChange state.pending with
  | .error _ => state.resume
  | .ok () => state.enter (.pendingChecked snapshot epochReadAt state.clock)

def readFrame (snapshot : PublishedSnapshot) (epochReadAt pendingReadAt : Nat)
    (requestedFrameId : Option String) (frameRuntime : FrameRuntimeInfo) : SnapshotFenceState :=
  match snapshot.ensureFrame requestedFrameId frameRuntime with
  | .error _ => state.resume
  | .ok () =>
    let check : AcceptedCheck :=
      { snapshot, epochReadAt, pendingReadAt, acceptedAt := state.clock }
    { state.resume with
      history := { state.history with accepted := state.history.accepted ++ [check] } }

/-- What the transaction's task does in a phase. -/
def transactionStep : TransactionPhase → TransactionAction → Option SnapshotFenceState
  | .entered, .begin => some { state.resume with inFlight := state.inFlight + 1 }
  -- shutdown or a handoff refuses the request after its wait for the permit
  | .entered, .release => some { state with exclusive := none }
  | .running _, .finish =>
    some { state.enter .leaving with inFlight := state.inFlight - 1 }
  | .leaving, .release => some { state with exclusive := none }
  | .running _, .startCommand => some state.resume
  | .running _, .startBuild =>
    some (state.takePendingScope.enter (.capturing 0 state.pending))
  -- the adapter loads the epoch before the page is read
  | .capturing attempt scope, .capture snapshotId frameContext =>
    some (state.enter (.captured attempt scope
      { snapshotId, domEpoch := state.domEpoch, frameContext }))
  | .capturing _ scope, .abort => some (state.mergePendingScope scope).resume
  | .captured _ scope _, .abort => some (state.mergePendingScope scope).resume
  | .captured attempt scope snapshot, .settleWindow =>
    some (state.settleWindow attempt scope snapshot)
  | .publishing scope snapshot settledAt, .publish =>
    some (state.publish scope snapshot settledAt)
  | .built snapshot, .cache =>
    some { state.resume with cache := state.cache.cacheSnapshot snapshot }
  | .built _, .abort => some state.resume
  | .running _, .startSettle =>
    some { state.enter .fencing with cache := state.cache.clearAllSnapshots }
  | .fencing, .takeFence =>
    some (state.takePendingScope.enter (.settling 0 state.pending))
  | .fencing, .abort => some state.resume
  | .settling attempt scope, .fenceWindow covered =>
    some (state.fenceWindow attempt scope covered)
  -- no guard holds the scope of a settle, so a dropped future loses it
  | .settling _ _, .abort => some state.resume
  | .running commit, .commit => some (state.startCommit commit)
  | .committing _, .bump => some state.bumpEpoch.resume
  | .running _, .markPending => some state.markPendingExternalDomChange
  | .running _, .clearAll => some { state with cache := state.cache.clearAllSnapshots }
  | .running _, .clearTarget targetId =>
    some { state with cache := state.cache.clearSnapshotsForTarget targetId }
  | .running _, .load snapshotId => some (state.load snapshotId)
  | .checking snapshot, .readEpoch => some (state.readEpoch snapshot)
  | .epochChecked snapshot epochReadAt, .readPending =>
    some (state.readPending snapshot epochReadAt)
  | .pendingChecked snapshot epochReadAt pendingReadAt, .readFrame requested runtime =>
    some (state.readFrame snapshot epochReadAt pendingReadAt requested runtime)
  | .pendingChecked _ _ _, .abort => some state.resume
  | _, _ => none

def transition : SnapshotFenceAction → Option SnapshotFenceState
  | .beginObservation targetId =>
    let seen : PendingObservation :=
      { targetId, sawInFlight := state.inFlight ≠ 0, began := state.clock }
    some { state with observers := state.observers ++ [seen] }
  | .endObservation index => do
    let seen ← state.observers[index]?
    some { state.observeExternalDomChange seen with
      observers := state.observers.eraseIdx index }
  | .acquireShared =>
    if state.exclusive.isSome then none
    else some { state with sharedHeld := state.sharedHeld + 1 }
  | .beginShared =>
    if state.sharedHeld = 0 then none
    else some
      { state with
        sharedHeld := state.sharedHeld - 1
        sharedCounted := state.sharedCounted + 1
        inFlight := state.inFlight + 1 }
  | .finishShared =>
    if state.sharedCounted = 0 then none
    else some
      { state with
        sharedHeld := state.sharedHeld + 1
        sharedCounted := state.sharedCounted - 1
        inFlight := state.inFlight - 1 }
  | .releaseShared =>
    if state.sharedHeld = 0 then none
    else some { state with sharedHeld := state.sharedHeld - 1 }
  | .acquireExclusive =>
    if state.exclusive.isSome || state.sharedHeld + state.sharedCounted ≠ 0 then none
    else some (state.enter .entered)
  | .within action => state.exclusive.bind fun phase => state.transactionStep phase action

def step (action : SnapshotFenceAction) : Option SnapshotFenceState :=
  (state.transition action).map fun next => { next with clock := state.clock + 1 }

end SnapshotFenceState

def snapshotFenceSystem : TransitionSystem SnapshotFenceState SnapshotFenceAction where
  initial := .initial
  step := SnapshotFenceState.step

namespace SnapshotFenceState

/-- The steps of `load_cached_snapshot` with nothing in between. -/
def loadActions (snapshotId : String) (requestedFrameId : Option String)
    (frameRuntime : FrameRuntimeInfo) : List SnapshotFenceAction :=
  [.within (.load snapshotId), .within .readEpoch, .within .readPending,
    .within (.readFrame requestedFrameId frameRuntime)]

variable {requestedFrameId : Option String} {frameRuntime : FrameRuntimeInfo}

theorem ensure_ok {snapshot : Snapshot} {currentEpoch : Nat}
    {pending : PendingExternalDomChangeState}
    (passed : snapshot.ensureCachedSnapshotAuthority currentEpoch pending requestedFrameId
      frameRuntime = .ok ()) :
    snapshot.ensureEpoch currentEpoch = .ok () ∧ snapshot.ensureNoPendingChange pending = .ok () ∧
      snapshot.ensureFrame requestedFrameId frameRuntime = .ok () := by
  unfold Snapshot.ensureCachedSnapshotAuthority at passed
  cases epoch : snapshot.ensureEpoch currentEpoch <;> rw [epoch] at passed <;> try cases passed
  cases change : snapshot.ensureNoPendingChange pending <;> rw [change] at passed <;>
    try cases passed
  exact ⟨rfl, rfl, passed⟩

/-- A load that nothing disturbs accepts what the sequential function returns. -/
theorem load_accepts {state : SnapshotFenceState} {commit : PendingExternalDomCommit}
    (stands : state.exclusive = some (.running commit)) {snapshotId : String}
    {snapshot : PublishedSnapshot}
    (loaded : state.cache.loadCachedSnapshot snapshotId state.domEpoch state.pending
      requestedFrameId frameRuntime = .ok snapshot) :
    ∃ next, snapshotFenceSystem.runFrom state
        (loadActions snapshotId requestedFrameId frameRuntime) = some next ∧
      next.history.accepted = state.history.accepted ++
        [{ snapshot, epochReadAt := state.clock + 1, pendingReadAt := state.clock + 2,
           acceptedAt := state.clock + 3 }] := by
  unfold SnapshotCache.loadCachedSnapshot at loaded
  split at loaded
  · cases loaded
  · rename_i found held
    split at loaded
    · cases loaded
    · rename_i passed
      cases loaded
      obtain ⟨epoch, change, frame⟩ := ensure_ok passed
      simp [loadActions, TransitionSystem.runFrom_cons, snapshotFenceSystem, step, transition,
        stands, transactionStep, load, held, enter, readEpoch, epoch, readPending, change,
        readFrame, frame, resume]

end SnapshotFenceState

end Rub
