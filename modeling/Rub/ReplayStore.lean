import Mathlib.Data.List.AList
import Rub.IpcProtocol

/-!
The replay tables of one session: the cached responses, the commands in flight
and the spent command ids, all behind one mutex. Each function below is one
critical section of that mutex.
-/

namespace Rub

def replayCacheLimit : Nat := 1000

def replayCacheLimitBytes : Nat := maxFrameBytes * 8

structure ReplayCacheEntry where
  fingerprint : String
  response : IpcResponse
  approxBytes : Nat

structure ReplayInFlightEntry where
  fingerprint : String
  /-- The watch channel on which the release of the entry is published. -/
  sender : Nat
  deriving DecidableEq

structure ReplaySpentEntry where
  fingerprint : String
  deriving DecidableEq

structure ReplayProtocolState where
  cache : AList fun _ : String => ReplayCacheEntry
  order : List String
  inFlight : AList fun _ : String => ReplayInFlightEntry
  spent : AList fun _ : String => ReplaySpentEntry
  spentOrder : List String
  totalBytes : Nat

inductive ReplayCommandClaim where
  | cached (response : IpcResponse)
  | owner | conflict | spentWithoutCachedResponse
  | wait (receiver : Nat)

namespace ReplayProtocolState

def empty : ReplayProtocolState :=
  { cache := ∅, order := [], inFlight := ∅, spent := ∅, spentOrder := [], totalBytes := 0 }

/-- `sender` is the fresh watch channel the claim creates when it becomes the owner. -/
def claimReplayCommand (replay : ReplayProtocolState) (sender : Nat)
    (commandId fingerprint : String) : ReplayCommandClaim × ReplayProtocolState :=
  match replay.cache.lookup commandId with
  | some entry =>
    if entry.fingerprint = fingerprint then (.cached entry.response, replay)
    else (.conflict, replay)
  | none =>
    match replay.inFlight.lookup commandId with
    | some existing =>
      if existing.fingerprint ≠ fingerprint then (.conflict, replay)
      else (.wait existing.sender, replay)
    | none =>
      match replay.spent.lookup commandId with
      | some existing =>
        if existing.fingerprint ≠ fingerprint then (.conflict, replay)
        else (.spentWithoutCachedResponse, replay)
      | none =>
        (.owner, { replay with
          inFlight := replay.inFlight.insert commandId
            { fingerprint := fingerprint, sender := sender } })

/-- The entry removed, when there was one, is the channel `Released` is sent on. -/
def releaseReplayCommand (replay : ReplayProtocolState) (commandId : String) :
    Option ReplayInFlightEntry × ReplayProtocolState :=
  (replay.inFlight.lookup commandId,
    { replay with inFlight := replay.inFlight.erase commandId })

def trimReplaySpentFrom (maxEntries : Nat) (replay : ReplayProtocolState) :
    List String → ReplayProtocolState
  | [] => { replay with spentOrder := [] }
  | oldest :: order =>
    if replay.spent.keys.length > maxEntries then
      trimReplaySpentFrom maxEntries { replay with spent := replay.spent.erase oldest } order
    else { replay with spentOrder := oldest :: order }

def trimReplaySpentWithLimit (maxEntries : Nat) (replay : ReplayProtocolState) :
    ReplayProtocolState :=
  if maxEntries = usizeMax then replay
  else trimReplaySpentFrom maxEntries replay replay.spentOrder

def trimReplaySpent (replay : ReplayProtocolState) : ReplayProtocolState :=
  trimReplaySpentWithLimit usizeMax replay

def markReplayCommandSpent (replay : ReplayProtocolState) (commandId fingerprint : String) :
    ReplayProtocolState :=
  match replay.spent.lookup commandId with
  | some _ => replay
  | none =>
    trimReplaySpent { replay with
      spent := replay.spent.insert commandId { fingerprint := fingerprint }
      spentOrder := replay.spentOrder ++ [commandId] }

/-- One turn of the trimming loop: the oldest entry leaves the cache. -/
def evictReplayResponse (replay : ReplayProtocolState) (oldest : String) :
    ReplayProtocolState :=
  match replay.cache.lookup oldest with
  | some evicted =>
    { replay with
      cache := replay.cache.erase oldest
      totalBytes := replay.totalBytes - evicted.approxBytes }
  | none => replay

def trimReplayCacheFrom (maxEntries maxBytes : Nat) (replay : ReplayProtocolState) :
    List String → ReplayProtocolState
  | [] => { replay with order := [] }
  | oldest :: order =>
    if replay.cache.keys.length > maxEntries ∨
        (replay.totalBytes > maxBytes ∧ (oldest :: order).length > 1) then
      trimReplayCacheFrom maxEntries maxBytes (replay.evictReplayResponse oldest) order
    else { replay with order := oldest :: order }

def trimReplayCacheWithLimits (maxEntries maxBytes : Nat) (replay : ReplayProtocolState) :
    ReplayProtocolState :=
  trimReplayCacheFrom maxEntries maxBytes replay replay.order

def trimReplayCache (replay : ReplayProtocolState) : ReplayProtocolState :=
  trimReplayCacheWithLimits replayCacheLimit replayCacheLimitBytes replay

/-- `approxBytes` is the serialized length of `response`. -/
def cacheResponse (replay : ReplayProtocolState) (commandId fingerprint : String)
    (response : IpcResponse) (approxBytes : Nat) : ReplayProtocolState :=
  let withoutPrevious := replay.evictReplayResponse commandId
  trimReplayCache { withoutPrevious with
    cache := withoutPrevious.cache.insert commandId
      { fingerprint := fingerprint, response := response, approxBytes := approxBytes }
    totalBytes := saturatingAdd withoutPrevious.totalBytes approxBytes
    order := withoutPrevious.order.filter (· ≠ commandId) ++ [commandId] }

/-- Everything one claim can do. Only an owner claim changes the tables. -/
inductive ClaimSpec (replay : ReplayProtocolState) (sender : Nat)
    (commandId fingerprint : String) : ReplayCommandClaim × ReplayProtocolState → Prop where
  | cached (entry : ReplayCacheEntry) (found : replay.cache.lookup commandId = some entry)
      (same : entry.fingerprint = fingerprint) :
      ClaimSpec replay sender commandId fingerprint (.cached entry.response, replay)
  | cacheConflict (entry : ReplayCacheEntry) (found : replay.cache.lookup commandId = some entry)
      (differ : entry.fingerprint ≠ fingerprint) :
      ClaimSpec replay sender commandId fingerprint (.conflict, replay)
  | wait (existing : ReplayInFlightEntry) (uncached : replay.cache.lookup commandId = none)
      (found : replay.inFlight.lookup commandId = some existing)
      (same : existing.fingerprint = fingerprint) :
      ClaimSpec replay sender commandId fingerprint (.wait existing.sender, replay)
  | inFlightConflict (existing : ReplayInFlightEntry)
      (uncached : replay.cache.lookup commandId = none)
      (found : replay.inFlight.lookup commandId = some existing)
      (differ : existing.fingerprint ≠ fingerprint) :
      ClaimSpec replay sender commandId fingerprint (.conflict, replay)
  | spent (existing : ReplaySpentEntry) (uncached : replay.cache.lookup commandId = none)
      (landed : replay.inFlight.lookup commandId = none)
      (found : replay.spent.lookup commandId = some existing)
      (same : existing.fingerprint = fingerprint) :
      ClaimSpec replay sender commandId fingerprint (.spentWithoutCachedResponse, replay)
  | spentConflict (existing : ReplaySpentEntry) (uncached : replay.cache.lookup commandId = none)
      (landed : replay.inFlight.lookup commandId = none)
      (found : replay.spent.lookup commandId = some existing)
      (differ : existing.fingerprint ≠ fingerprint) :
      ClaimSpec replay sender commandId fingerprint (.conflict, replay)
  | owner (uncached : replay.cache.lookup commandId = none)
      (landed : replay.inFlight.lookup commandId = none)
      (unspent : replay.spent.lookup commandId = none) :
      ClaimSpec replay sender commandId fingerprint
        (.owner, { replay with
          inFlight := replay.inFlight.insert commandId
            { fingerprint := fingerprint, sender := sender } })

theorem claimReplayCommand_spec (replay : ReplayProtocolState) (sender : Nat)
    (commandId fingerprint : String) :
    ClaimSpec replay sender commandId fingerprint
      (replay.claimReplayCommand sender commandId fingerprint) := by
  unfold claimReplayCommand
  split
  · rename_i entry found
    split
    · rename_i same
      exact .cached entry found same
    · rename_i differ
      exact .cacheConflict entry found differ
  · rename_i uncached
    split
    · rename_i existing found
      split
      · rename_i differ
        exact .inFlightConflict existing uncached found differ
      · rename_i same
        exact .wait existing uncached found (not_not.mp same)
    · rename_i landed
      split
      · rename_i existing found
        split
        · rename_i differ
          exact .spentConflict existing uncached landed found differ
        · rename_i same
          exact .spent existing uncached landed found (not_not.mp same)
      · rename_i unspent
        exact .owner uncached landed unspent

variable (replay : ReplayProtocolState) (commandId fingerprint : String)

/-- A spent id is never forgotten: the session lifetime is the limit of the tombstones. -/
theorem trimReplaySpent_eq : replay.trimReplaySpent = replay := by
  rw [trimReplaySpent, trimReplaySpentWithLimit, if_pos rfl]

@[simp] theorem markReplayCommandSpent_cache :
    (replay.markReplayCommandSpent commandId fingerprint).cache = replay.cache := by
  unfold markReplayCommandSpent
  split
  · rfl
  · rw [trimReplaySpent_eq]

@[simp] theorem markReplayCommandSpent_inFlight :
    (replay.markReplayCommandSpent commandId fingerprint).inFlight = replay.inFlight := by
  unfold markReplayCommandSpent
  split
  · rfl
  · rw [trimReplaySpent_eq]

theorem markReplayCommandSpent_spent (id : String) :
    (replay.markReplayCommandSpent commandId fingerprint).spent.lookup id = if id = commandId then
        some ((replay.spent.lookup commandId).getD { fingerprint := fingerprint })
      else replay.spent.lookup id := by
  unfold markReplayCommandSpent
  split
  · rename_i existing found
    by_cases same : id = commandId
    · subst same
      simp [found]
    · simp [same]
  · rename_i unspent
    rw [trimReplaySpent_eq]
    by_cases same : id = commandId
    · subst same
      simp [unspent]
    · simp [same, AList.lookup_insert_ne same]

@[simp] theorem evictReplayResponse_inFlight :
    (replay.evictReplayResponse commandId).inFlight = replay.inFlight := by
  unfold evictReplayResponse
  split <;> rfl

@[simp] theorem evictReplayResponse_spent :
    (replay.evictReplayResponse commandId).spent = replay.spent := by
  unfold evictReplayResponse
  split <;> rfl

theorem evictReplayResponse_cache (id : String) :
    (replay.evictReplayResponse commandId).cache.lookup id =
      if id = commandId then none else replay.cache.lookup id := by
  unfold evictReplayResponse
  split
  · by_cases same : id = commandId
    · subst same
      simp
    · simp [same, AList.lookup_erase_ne same]
  · rename_i uncached
    by_cases same : id = commandId
    · subst same
      simp [uncached]
    · simp [same]

theorem trimReplayCacheFrom_others (maxEntries maxBytes : Nat) (order : List String) :
    (trimReplayCacheFrom maxEntries maxBytes replay order).inFlight = replay.inFlight ∧
      (trimReplayCacheFrom maxEntries maxBytes replay order).spent = replay.spent := by
  induction order generalizing replay with
  | nil => exact ⟨rfl, rfl⟩
  | cons _ _ ih =>
    rw [trimReplayCacheFrom]
    split
    · rw [(ih _).1, (ih _).2, evictReplayResponse_inFlight, evictReplayResponse_spent]
      exact ⟨rfl, rfl⟩
    · exact ⟨rfl, rfl⟩

theorem trimReplayCacheFrom_cache {maxEntries maxBytes : Nat} {order : List String} {id : String}
    {entry : ReplayCacheEntry}
    (found : (trimReplayCacheFrom maxEntries maxBytes replay order).cache.lookup id = some entry) :
    replay.cache.lookup id = some entry := by
  induction order generalizing replay with
  | nil => exact found
  | cons _ _ ih =>
    rw [trimReplayCacheFrom] at found
    split at found
    · have kept := ih _ found
      rw [evictReplayResponse_cache] at kept
      split at kept
      · cases kept
      · exact kept
    · exact found

variable (response : IpcResponse) (approxBytes : Nat)

@[simp] theorem cacheResponse_inFlight :
    (replay.cacheResponse commandId fingerprint response approxBytes).inFlight =
      replay.inFlight := by
  unfold cacheResponse trimReplayCache trimReplayCacheWithLimits
  rw [(trimReplayCacheFrom_others ..).1]
  exact evictReplayResponse_inFlight replay commandId

@[simp] theorem cacheResponse_spent :
    (replay.cacheResponse commandId fingerprint response approxBytes).spent = replay.spent := by
  unfold cacheResponse trimReplayCache trimReplayCacheWithLimits
  rw [(trimReplayCacheFrom_others ..).2]
  exact evictReplayResponse_spent replay commandId

theorem cacheResponse_cache {id : String} {entry : ReplayCacheEntry}
    (found : (replay.cacheResponse commandId fingerprint response approxBytes).cache.lookup id =
      some entry) :
    (id = commandId ∧ entry = ⟨fingerprint, response, approxBytes⟩) ∨
      (id ≠ commandId ∧ replay.cache.lookup id = some entry) := by
  have kept := trimReplayCacheFrom_cache _ found
  by_cases same : id = commandId
  · subst same
    rw [AList.lookup_insert] at kept
    exact .inl ⟨rfl, (Option.some.inj kept).symm⟩
  · rw [AList.lookup_insert_ne same, evictReplayResponse_cache, if_neg same] at kept
    exact .inr ⟨same, kept⟩

theorem releaseReplayCommand_inFlight (id : String) :
    (replay.releaseReplayCommand commandId).2.inFlight.lookup id =
      if id = commandId then none else replay.inFlight.lookup id := by
  unfold releaseReplayCommand
  by_cases same : id = commandId
  · subst same
    simp
  · simp [same, AList.lookup_erase_ne same]

end ReplayProtocolState

end Rub
