import Mathlib.Algebra.GroupWithZero.Nat
import Rub.ReplayStore

/-!
The replay tables after any sequence of operations: the eviction order, the byte count and the
cached responses stay in step, and a tombstone lasts.
-/

namespace Rub

/-- The longest byte vector there can be. -/
def isizeMax : Nat := 2 ^ 63 - 1

/-- The critical sections of the replay mutex. A response is serialized to a byte vector. -/
inductive ReplayOperation where
  | claim (sender : Nat) (commandId fingerprint : String)
  | release (commandId : String)
  | markSpent (commandId fingerprint : String)
  | cacheResponse (commandId fingerprint : String) (response : IpcResponse)
      (approxBytes : Fin (isizeMax + 1))

namespace ReplayProtocolState

def operate (replay : ReplayProtocolState) : ReplayOperation → ReplayProtocolState
  | .claim sender commandId fingerprint =>
    (replay.claimReplayCommand sender commandId fingerprint).2
  | .release commandId => (replay.releaseReplayCommand commandId).2
  | .markSpent commandId fingerprint => replay.markReplayCommandSpent commandId fingerprint
  | .cacheResponse commandId fingerprint response approxBytes =>
    replay.cacheResponse commandId fingerprint response approxBytes

def cachedBytes (replay : ReplayProtocolState) : Nat :=
  (replay.cache.entries.map fun held => held.2.approxBytes).sum

/-- What eviction works on: the count is exact, and every entry has a possible length. -/
structure Counted (replay : ReplayProtocolState) : Prop where
  total : replay.totalBytes = replay.cachedBytes
  sizes : ∀ held ∈ replay.cache.entries, held.2.approxBytes ≤ isizeMax

structure StoreInv (replay : ReplayProtocolState) : Prop extends Counted replay where
  listed : replay.order.Perm replay.cache.keys
  entries : replay.cache.keys.length ≤ replayCacheLimit
  bytes : replay.totalBytes ≤ replayCacheLimitBytes ∨ replay.cache.keys.length ≤ 1

variable {replay : ReplayProtocolState} {commandId : String} {entry : ReplayCacheEntry}
  {order : List String}

theorem evictReplayResponse_keys (oldest : String) :
    (replay.evictReplayResponse oldest).cache.keys = replay.cache.keys.erase oldest := by
  unfold evictReplayResponse
  split
  · exact AList.keys_erase oldest replay.cache
  · rename_i absent
    rw [List.erase_of_not_mem]
    exact fun member => AList.lookup_eq_none.mp absent (AList.mem_keys.mpr member)

theorem cachedBytes_erase (found : replay.cache.lookup commandId = some entry) :
    ((replay.cache.erase commandId).entries.map fun held => held.2.approxBytes).sum +
      entry.approxBytes = replay.cachedBytes := by
  have present : commandId ∈ replay.cache.entries.keys :=
    List.dlookup_isSome.mp (Option.isSome_iff_exists.mpr ⟨entry, found⟩)
  obtain ⟨held, front, back, -, whole, kept⟩ := List.exists_of_kerase present
  have same : entry = held := by
    have member : ⟨commandId, held⟩ ∈ replay.cache.entries := by simp [whole]
    exact Option.some.inj
      (found.symm.trans ((List.mem_dlookup_iff replay.cache.nodupKeys).mpr member))
  show ((replay.cache.entries.kerase commandId).map fun held => held.2.approxBytes).sum + _ = _
  rw [cachedBytes, kept, whole, same]
  simp only [List.map_append, List.sum_append, List.map_cons, List.sum_cons]
  omega

theorem Counted.evict (counted : Counted replay) (oldest : String) :
    Counted (replay.evictReplayResponse oldest) ∧
      (replay.evictReplayResponse oldest).totalBytes ≤ replay.totalBytes ∧
      (replay.evictReplayResponse oldest).order = replay.order := by
  unfold evictReplayResponse
  split
  · rename_i evicted found
    have bytes := cachedBytes_erase found
    refine ⟨⟨?_, fun held member => counted.sizes held ?_⟩, Nat.sub_le _ _, rfl⟩
    · show replay.totalBytes - evicted.approxBytes =
        ((replay.cache.erase oldest).entries.map fun held => held.2.approxBytes).sum
      rw [counted.total]
      omega
    · exact (List.kerase_sublist _ _).subset member
  · exact ⟨counted, le_rfl, rfl⟩

theorem Counted.trim (counted : Counted replay) (listed : order.Perm replay.cache.keys) :
    StoreInv (trimReplayCacheFrom replayCacheLimit replayCacheLimitBytes replay order) := by
  induction order generalizing replay with
  | nil =>
    have empty : replay.cache.keys.length = 0 := listed.length_eq.symm
    refine ⟨⟨counted.total, counted.sizes⟩, listed, ?_, .inr ?_⟩ <;>
      show replay.cache.keys.length ≤ _ <;> omega
  | cons oldest order ih =>
    rw [trimReplayCacheFrom]
    split
    · refine ih (counted.evict oldest).1 ?_
      rw [evictReplayResponse_keys]
      simpa using listed.erase oldest
    · rename_i within
      rw [not_or, not_and_or, Nat.not_lt, Nat.not_lt, Nat.not_lt, listed.length_eq] at within
      exact ⟨⟨counted.total, counted.sizes⟩, listed, within.1, within.2⟩

theorem trimReplayCacheFrom_youngest (listed : (order ++ [commandId]).Perm replay.cache.keys)
    (found : replay.cache.lookup commandId = some entry) :
    (trimReplayCacheFrom replayCacheLimit replayCacheLimitBytes replay
      (order ++ [commandId])).cache.lookup commandId = some entry := by
  induction order generalizing replay with
  | nil =>
    have one : replay.cache.keys.length = 1 := listed.length_eq.symm
    rw [List.nil_append, trimReplayCacheFrom, if_neg (by rw [one]; simp [replayCacheLimit])]
    exact found
  | cons oldest order ih =>
    rw [List.cons_append, trimReplayCacheFrom]
    split
    · have apart : commandId ≠ oldest := by
        have distinct := listed.nodup_iff.mpr replay.cache.keys_nodup
        rw [List.cons_append, List.nodup_cons] at distinct
        rintro rfl
        exact distinct.1 (by simp)
      refine ih ?_ (by rw [evictReplayResponse_cache, if_neg apart, found])
      rw [evictReplayResponse_keys]
      simpa using listed.erase oldest
    · exact found

theorem StoreInv.totalBytes_le (inv : StoreInv replay) : replay.totalBytes ≤ isizeMax := by
  rcases inv.bytes with few | single
  · exact few.trans (by decide)
  · rw [inv.total, cachedBytes]
    rw [AList.keys, List.keys, List.length_map] at single
    have sizes := inv.sizes
    match held : replay.cache.entries with
    | [] => simp
    | [entry] => simpa [held] using sizes
    | _ :: _ :: _ => simp [held] at single

/-- Caching a response keeps the tables in step, and the response in them. -/
theorem cacheResponse_inv (inv : StoreInv replay) (commandId fingerprint : String)
    (response : IpcResponse) (approxBytes : Fin (isizeMax + 1)) :
    StoreInv (replay.cacheResponse commandId fingerprint response approxBytes) ∧
      (replay.cacheResponse commandId fingerprint response approxBytes).cache.lookup commandId =
        some ⟨fingerprint, response, approxBytes⟩ := by
  obtain ⟨counted, lower, order⟩ := inv.toCounted.evict commandId
  have small := lower.trans inv.totalBytes_le
  have absent : commandId ∉ (replay.evictReplayResponse commandId).cache := by
    rw [← AList.lookup_eq_none, evictReplayResponse_cache, if_pos rfl]
  have listed : (replay.order.filter (· ≠ commandId)).Perm
      (replay.evictReplayResponse commandId).cache.keys := by
    rw [evictReplayResponse_keys, replay.cache.keys_nodup.erase_eq_filter]
    simpa [bne, beq_eq_decide] using inv.listed.filter (· ≠ commandId)
  rw [cacheResponse, trimReplayCache, trimReplayCacheWithLimits, order]
  generalize replay.evictReplayResponse commandId = evicted at counted small absent listed
  have fits := approxBytes.isLt
  have room : evicted.totalBytes + approxBytes ≤ usizeMax := by
    have double : isizeMax + isizeMax ≤ usizeMax := by decide
    omega
  have entries : (evicted.cache.insert commandId ⟨fingerprint, response, approxBytes⟩).entries =
      ⟨commandId, fingerprint, response, approxBytes⟩ :: evicted.cache.entries :=
    AList.entries_insert_of_notMem absent
  have listedAll : (replay.order.filter (· ≠ commandId) ++ [commandId]).Perm
      (evicted.cache.insert commandId ⟨fingerprint, response, approxBytes⟩).keys := by
    rw [AList.keys_insert, List.erase_of_not_mem absent]
    exact (List.perm_append_singleton _ _).trans (listed.cons _)
  refine ⟨Counted.trim ⟨?_, ?_⟩ listedAll,
    trimReplayCacheFrom_youngest listedAll (AList.lookup_insert _)⟩
  · show min _ _ = (List.map _ (evicted.cache.insert commandId _).entries).sum
    rw [entries, List.map_cons, List.sum_cons, ← cachedBytes, ← counted.total,
      Nat.min_eq_left room, Nat.add_comm]
  · rw [entries]
    exact List.forall_mem_cons.mpr ⟨Nat.lt_succ_iff.mp fits, counted.sizes⟩

/-- No operation takes a tombstone away, and only caching a response touches the cache. -/
theorem operate_frame (replay : ReplayProtocolState) (operation : ReplayOperation) :
    (∀ id tombstone, replay.spent.lookup id = some tombstone →
      (replay.operate operation).spent.lookup id = some tombstone) ∧
      ((∃ commandId fingerprint response approxBytes,
        operation = .cacheResponse commandId fingerprint response approxBytes) ∨
        ∃ inFlight spent spentOrder, replay.operate operation =
          { replay with inFlight := inFlight, spent := spent, spentOrder := spentOrder }) := by
  cases operation with
  | claim sender commandId fingerprint =>
    have spec := replay.claimReplayCommand_spec sender commandId fingerprint
    rw [operate]
    generalize replay.claimReplayCommand sender commandId fingerprint = result at spec
    cases spec <;> exact ⟨fun _ _ => id, .inr ⟨_, _, _, rfl⟩⟩
  | release commandId => exact ⟨fun _ _ => id, .inr ⟨_, _, _, rfl⟩⟩
  | markSpent commandId fingerprint =>
    rw [operate]
    refine ⟨fun id tombstone spent => ?_, .inr ?_⟩
    · rw [markReplayCommandSpent_spent]
      split
      · rename_i same
        rw [← same, spent, Option.getD_some]
      · exact spent
    · rw [markReplayCommandSpent]
      split
      · exact ⟨_, _, _, rfl⟩
      · exact ⟨_, _, _, trimReplaySpent_eq _⟩
  | cacheResponse commandId fingerprint response approxBytes =>
    exact ⟨fun _ _ spent => by rwa [operate, cacheResponse_spent], .inl ⟨_, _, _, _, rfl⟩⟩

theorem operate_inv (inv : StoreInv replay) (operation : ReplayOperation) :
    StoreInv (replay.operate operation) := by
  rcases (replay.operate_frame operation).2 with ⟨_, _, _, _, rfl⟩ | ⟨_, _, _, same⟩
  · exact (cacheResponse_inv inv ..).1
  · rw [same]
    exact ⟨⟨inv.total, inv.sizes⟩, inv.listed, inv.entries, inv.bytes⟩

theorem claim_spent_not_owner {tombstone : ReplaySpentEntry}
    (spent : replay.spent.lookup commandId = some tombstone) (sender : Nat) (fingerprint : String) :
    (replay.claimReplayCommand sender commandId fingerprint).1 ≠ .owner := by
  have spec := replay.claimReplayCommand_spec sender commandId fingerprint
  generalize replay.claimReplayCommand sender commandId fingerprint = result at spec
  cases spec with
  | owner _ _ unspent =>
    rw [spent] at unspent
    cases unspent
  | _ => exact nofun

/-- The replay tables after any operations. What is cached stays until a response is cached
again, and that response is then among them; a tombstone stands for good. -/
theorem replay_store_consistent (operations : List ReplayOperation) :
    let replay := operations.foldl operate empty
    (replay.order.Nodup ∧ ∀ id, id ∈ replay.order ↔ id ∈ replay.cache) ∧
      replay.totalBytes = replay.cachedBytes ∧
      replay.cache.keys.length ≤ replayCacheLimit ∧
      (replay.totalBytes ≤ replayCacheLimitBytes ∨ replay.cache.keys.length = 1) ∧
      (∀ operation : ReplayOperation, match operation with
        | .cacheResponse commandId fingerprint response approxBytes =>
          (replay.operate operation).cache.lookup commandId =
            some ⟨fingerprint, response, approxBytes⟩
        | _ => (replay.operate operation).cache = replay.cache) ∧
      (∀ id fingerprint, (replay.operate (.markSpent id fingerprint)).spent.lookup id =
        some ((replay.spent.lookup id).getD ⟨fingerprint⟩)) ∧
      ∀ id tombstone, replay.spent.lookup id = some tombstone →
        ∀ later : List ReplayOperation,
          (later.foldl operate replay).spent.lookup id = some tombstone ∧
            ∀ sender fingerprint,
              ((later.foldl operate replay).claimReplayCommand sender id fingerprint).1 ≠
                .owner := by
  intro replay
  have inv : StoreInv replay := List.foldlRecOn operations operate
    ⟨⟨rfl, by simp [empty]⟩, .refl _, by decide, .inr (by decide)⟩
    fun _ inv operation _ => operate_inv inv operation
  refine ⟨⟨inv.listed.nodup_iff.mpr replay.cache.keys_nodup, fun id => ?_⟩,
    inv.total, inv.entries, ?_, fun operation => ?_, fun id fingerprint => ?_,
    fun id tombstone spent later => ?_⟩
  · exact inv.listed.mem_iff.trans AList.mem_keys.symm
  · rcases inv.bytes with few | single
    · exact .inl few
    · rcases Nat.le_one_iff_eq_zero_or_eq_one.mp single with none | one
      · rw [AList.keys, List.keys, List.length_map, List.length_eq_zero_iff] at none
        left
        simp [inv.total, cachedBytes, none]
      · exact .inr one
  · rcases (replay.operate_frame operation).2 with ⟨_, _, _, _, rfl⟩ | ⟨_, _, _, same⟩
    · exact (cacheResponse_inv inv _ _ _ _).2
    · split
      · exact (cacheResponse_inv inv _ _ _ _).2
      · rw [same]
  · rw [operate, markReplayCommandSpent_spent, if_pos rfl]
  · have lasting : (later.foldl operate replay).spent.lookup id = some tombstone :=
      List.foldlRecOn later operate spent
        fun replay spent operation _ => (replay.operate_frame operation).1 id tombstone spent
    exact ⟨lasting, claim_spent_not_owner lasting⟩

end ReplayProtocolState

end Rub
