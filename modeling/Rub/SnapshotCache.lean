import Mathlib.Data.Finset.Insert
import Mathlib.Data.Finset.Lattice.Basic

/-!
What a session keeps to decide whether a snapshot may be reused: the scope of the
external DOM changes it has not published yet, the bounded snapshot cache, and the
authority check a cached snapshot has to pass.
-/

namespace Rub

open Function List

/-- External DOM changes seen while a transaction was in flight. -/
@[ext]
structure PendingExternalDomChangeState where
  unknownGlobal : Bool
  targetIds : Finset String
deriving DecidableEq

/-- A target id that names no target is as good as none. -/
def namedTarget (targetId : Option String) : Option String :=
  targetId.filter (· ≠ "")

namespace PendingExternalDomChangeState

def empty : PendingExternalDomChangeState := { unknownGlobal := false, targetIds := ∅ }

def isEmpty (scope : PendingExternalDomChangeState) : Bool :=
  !scope.unknownGlobal && scope.targetIds = ∅

def mark (scope : PendingExternalDomChangeState) (targetId : Option String) :
    PendingExternalDomChangeState :=
  match namedTarget targetId with
  | some target => { scope with targetIds := insert target scope.targetIds }
  | none => { scope with unknownGlobal := true }

def merge (scope other : PendingExternalDomChangeState) : PendingExternalDomChangeState :=
  { unknownGlobal := scope.unknownGlobal || other.unknownGlobal
    targetIds := scope.targetIds ∪ other.targetIds }

def affectsTarget (scope : PendingExternalDomChangeState) (targetId : Option String) : Bool :=
  scope.unknownGlobal ||
    match namedTarget targetId with
    | some target => target ∈ scope.targetIds
    | none => scope.targetIds ≠ ∅

/-- What a scope says about a target is monotone in the scope. -/
def Within (scope other : PendingExternalDomChangeState) : Prop :=
  (scope.unknownGlobal = true → other.unknownGlobal = true) ∧ scope.targetIds ⊆ other.targetIds

theorem affectsTarget_of_within {scope other : PendingExternalDomChangeState}
    (within : scope.Within other) {targetId : Option String}
    (affected : scope.affectsTarget targetId = true) : other.affectsTarget targetId = true := by
  unfold affectsTarget at affected ⊢
  rw [Bool.or_eq_true] at affected ⊢
  refine affected.imp within.1 fun listed => ?_
  cases named : namedTarget targetId with
  | some =>
    rw [named] at listed
    exact decide_eq_true (within.2 (of_decide_eq_true listed))
  | none =>
    rw [named] at listed
    have nonempty : scope.targetIds ≠ ∅ := of_decide_eq_true listed
    refine decide_eq_true fun none => nonempty ?_
    exact Finset.subset_empty.mp (none ▸ within.2)

theorem within_mark (scope : PendingExternalDomChangeState) (targetId : Option String) :
    scope.Within (scope.mark targetId) := by
  unfold mark
  split
  · exact ⟨id, Finset.subset_insert _ _⟩
  · exact ⟨fun _ => rfl, fun _ => id⟩

theorem within_merge_left (scope other : PendingExternalDomChangeState) :
    scope.Within (scope.merge other) := by
  refine ⟨fun unknown => ?_, Finset.subset_union_left⟩
  simp [merge, unknown]

theorem within_merge_right (scope other : PendingExternalDomChangeState) :
    other.Within (scope.merge other) := by
  refine ⟨fun unknown => ?_, Finset.subset_union_right⟩
  simp [merge, unknown]

theorem eq_empty_of_isEmpty {scope : PendingExternalDomChangeState}
    (none : scope.isEmpty = true) : scope = empty := by
  unfold isEmpty at none
  rw [Bool.and_eq_true, Bool.not_eq_true', decide_eq_true_iff] at none
  exact PendingExternalDomChangeState.ext none.1 none.2

theorem not_affectsTarget_empty (targetId : Option String) :
    empty.affectsTarget targetId = false := by
  unfold affectsTarget
  cases namedTarget targetId <;> rfl

end PendingExternalDomChangeState

/-- A change on `observed` concerns a snapshot of `target`: one of the two names no
target, or both name the same one. -/
def Concerns (observed target : Option String) : Prop :=
  namedTarget observed = none ∨ namedTarget target = none ∨
    namedTarget observed = namedTarget target

instance (observed target : Option String) : Decidable (Concerns observed target) :=
  inferInstanceAs (Decidable (_ ∨ _ ∨ _))

theorem PendingExternalDomChangeState.affectsTarget_mark
    (scope : PendingExternalDomChangeState) {observed target : Option String}
    (concerns : Concerns observed target) :
    (scope.mark observed).affectsTarget target = true := by
  unfold mark affectsTarget
  cases seen : namedTarget observed with
  | none => rfl
  | some changed =>
    rw [Bool.or_eq_true]
    right
    cases held : namedTarget target with
    | none => exact decide_eq_true (Finset.insert_ne_empty changed scope.targetIds)
    | some =>
      rcases concerns with unknown | unknown | same
      · cases seen.symm.trans unknown
      · cases held.symm.trans unknown
      · cases seen.symm.trans (same.trans held)
        exact decide_eq_true (Finset.mem_insert_self _ _)

inductive FrameContextStatus where
  | unknown | top | child | stale | degraded
deriving DecidableEq

/-- The metadata of a frame that the reuse of a snapshot depends on. -/
structure FrameContextInfo where
  frameId : String
  targetId : Option String
deriving DecidableEq

structure FrameRuntimeInfo where
  status : FrameContextStatus
  currentFrame : Option FrameContextInfo
deriving DecidableEq

structure Snapshot where
  snapshotId : String
  domEpoch : Nat
  frameContext : FrameContextInfo
deriving DecidableEq

/-- A snapshot that was published, with the moment of the pending-scope take its
publication found empty (a history variable). -/
structure PublishedSnapshot extends Snapshot where
  settledAt : Nat
deriving DecidableEq

def snapshotCacheLimit : Nat := 128

/-- The cached snapshots and the order they are evicted in. -/
structure SnapshotCache where
  map : String → Option PublishedSnapshot
  order : List String
  listed : ∀ id, id ∈ order ↔ (map id).isSome = true
  nodup : order.Nodup
  bounded : order.length ≤ snapshotCacheLimit

namespace SnapshotCache

def empty : SnapshotCache where
  map := fun _ => none
  order := []
  listed := fun _ => by simp
  nodup := nodup_nil
  bounded := Nat.zero_le _

/-- The loop that pops the oldest ids until the order fits. -/
def evictOldest (map : String → Option PublishedSnapshot) :
    List String → (String → Option PublishedSnapshot) × List String
  | [] => (map, [])
  | oldest :: rest =>
    if snapshotCacheLimit < (oldest :: rest).length then
      evictOldest (update map oldest none) rest
    else (map, oldest :: rest)

theorem evictOldest_bounded (map : String → Option PublishedSnapshot) (order : List String) :
    (evictOldest map order).2.length ≤ snapshotCacheLimit := by
  induction order generalizing map with
  | nil => exact Nat.zero_le _
  | cons _ _ ih =>
    unfold evictOldest
    split
    · exact ih _
    · rename_i fits
      exact Nat.le_of_not_lt fits

variable {order : List String} {map : String → Option PublishedSnapshot}

theorem evictOldest_nodup (map : String → Option PublishedSnapshot)
    (nodup : order.Nodup) : (evictOldest map order).2.Nodup := by
  induction order generalizing map with
  | nil => exact nodup
  | cons _ _ ih =>
    unfold evictOldest
    split
    · exact ih _ (nodup_cons.mp nodup).2
    · exact nodup

theorem evictOldest_listed
    (nodup : order.Nodup) (listed : ∀ id, id ∈ order ↔ (map id).isSome = true) (id : String) :
    id ∈ (evictOldest map order).2 ↔ ((evictOldest map order).1 id).isSome = true := by
  induction order generalizing map with
  | nil => exact listed id
  | cons oldest _ ih =>
    obtain ⟨fresh, tail⟩ := nodup_cons.mp nodup
    unfold evictOldest
    split
    · apply ih tail
      intro other
      by_cases same : other = oldest
      · subst same
        simp [fresh]
      · rw [update_of_ne same, ← listed other, mem_cons]
        simp [same]
    · exact listed id

theorem map_of_evictOldest {id : String} {snapshot : PublishedSnapshot}
    (kept : (evictOldest map order).1 id = some snapshot) : map id = some snapshot := by
  induction order generalizing map with
  | nil => exact kept
  | cons oldest _ ih =>
    unfold evictOldest at kept
    split at kept
    · have held := ih kept
      by_cases same : id = oldest
      · subst same
        rw [update_self] at held
        cases held
      · rwa [update_of_ne same] at held
    · exact kept

theorem appended_listed (cache : SnapshotCache) (snapshot : PublishedSnapshot) (id : String) :
    id ∈ cache.order.filter (· ≠ snapshot.snapshotId) ++ [snapshot.snapshotId] ↔
      (update cache.map snapshot.snapshotId (some snapshot) id).isSome = true := by
  by_cases same : id = snapshot.snapshotId
  · simp [same]
  · rw [update_of_ne same, ← cache.listed id]
    simp [same]

theorem appended_nodup (cache : SnapshotCache) (snapshot : PublishedSnapshot) :
    (cache.order.filter (· ≠ snapshot.snapshotId) ++ [snapshot.snapshotId]).Nodup := by
  refine List.Nodup.append (cache.nodup.filter _) (nodup_singleton _) ?_
  intro id kept last
  have other : id ≠ snapshot.snapshotId := of_decide_eq_true (mem_filter.mp kept).2
  exact other (mem_singleton.mp last)

def cacheSnapshot (cache : SnapshotCache) (snapshot : PublishedSnapshot) : SnapshotCache where
  map := (evictOldest (update cache.map snapshot.snapshotId (some snapshot))
    (cache.order.filter (· ≠ snapshot.snapshotId) ++ [snapshot.snapshotId])).1
  order := (evictOldest (update cache.map snapshot.snapshotId (some snapshot))
    (cache.order.filter (· ≠ snapshot.snapshotId) ++ [snapshot.snapshotId])).2
  listed := evictOldest_listed (appended_nodup cache snapshot) (appended_listed cache snapshot)
  nodup := evictOldest_nodup _ (appended_nodup cache snapshot)
  bounded := evictOldest_bounded _ _

def getSnapshot (cache : SnapshotCache) (snapshotId : String) : Option PublishedSnapshot :=
  cache.map snapshotId

def clearAllSnapshots (_cache : SnapshotCache) : SnapshotCache := empty

/-- Whether a cached snapshot belongs to a tab target. -/
def ofTarget (targetId : String) (snapshot : PublishedSnapshot) : Bool :=
  snapshot.frameContext.targetId = some targetId

def clearSnapshotsForTarget (cache : SnapshotCache) (targetId : String) : SnapshotCache where
  map := fun id => (cache.map id).filter fun snapshot => !ofTarget targetId snapshot
  order := cache.order.filter fun id => !(cache.map id).any (ofTarget targetId)
  listed := fun id => by
    rw [mem_filter, cache.listed id]
    cases cache.map id with
    | none => simp
    | some snapshot => simp
  nodup := cache.nodup.filter _
  bounded := (length_filter_le _ _).trans cache.bounded

theorem getSnapshot_cacheSnapshot {cache : SnapshotCache} {snapshot cached : PublishedSnapshot}
    {id : String} (held : (cache.cacheSnapshot snapshot).getSnapshot id = some cached) :
    cached = snapshot ∨ cache.getSnapshot id = some cached := by
  have inserted := map_of_evictOldest held
  by_cases same : id = snapshot.snapshotId
  · subst same
    rw [update_self] at inserted
    exact .inl (Option.some.inj inserted).symm
  · rw [update_of_ne same] at inserted
    exact .inr inserted

end SnapshotCache

/-- Why the authority check refuses to reuse a snapshot. -/
inductive StaleSnapshot where
  | epochDrift (snapshotEpoch currentEpoch : Nat)
  | pendingExternalDomChange (targetId : Option String)
  | explicitFrameScopeMismatch | selectedFrameContextStale | selectedFrameContextDrifted
deriving DecidableEq

def StaleSnapshot.message (snapshotId : String) : StaleSnapshot → String
  | .epochDrift snapshotEpoch currentEpoch =>
    s!"Snapshot {snapshotId} is stale: snapshot epoch {snapshotEpoch} != current epoch " ++
      s!"{currentEpoch}"
  | .pendingExternalDomChange _ =>
    s!"Snapshot {snapshotId} cannot be reused because external DOM drift is pending for " ++
      "its authority target"
  | .explicitFrameScopeMismatch =>
    s!"Snapshot {snapshotId} cannot satisfy the explicit frame-scoped request"
  | .selectedFrameContextStale =>
    s!"Snapshot {snapshotId} cannot be used because the selected frame context is stale"
  | .selectedFrameContextDrifted =>
    s!"Snapshot {snapshotId} cannot be used because the selected frame context changed " ++
      "after the snapshot was captured"

def Snapshot.ensureEpoch (snapshot : Snapshot) (currentEpoch : Nat) : Except StaleSnapshot Unit :=
  if snapshot.domEpoch ≠ currentEpoch then
    .error (.epochDrift snapshot.domEpoch currentEpoch)
  else .ok ()

def Snapshot.ensureNoPendingChange (snapshot : Snapshot)
    (pending : PendingExternalDomChangeState) : Except StaleSnapshot Unit :=
  if pending.affectsTarget snapshot.frameContext.targetId then
    .error (.pendingExternalDomChange snapshot.frameContext.targetId)
  else .ok ()

def Snapshot.ensureFrame (snapshot : Snapshot) (requestedFrameId : Option String)
    (frameRuntime : FrameRuntimeInfo) : Except StaleSnapshot Unit :=
  match requestedFrameId with
  | some requested =>
    if snapshot.frameContext.frameId = requested then .ok ()
    else .error .explicitFrameScopeMismatch
  | none =>
    if frameRuntime.status = .stale then .error .selectedFrameContextStale
    else if frameRuntime.currentFrame.map (·.frameId) ≠ some snapshot.frameContext.frameId then
      .error .selectedFrameContextDrifted
    else .ok ()

/-- The whole check, on the values its three reads returned. -/
def Snapshot.ensureCachedSnapshotAuthority (snapshot : Snapshot) (currentEpoch : Nat)
    (pending : PendingExternalDomChangeState) (requestedFrameId : Option String)
    (frameRuntime : FrameRuntimeInfo) : Except StaleSnapshot Unit := do
  snapshot.ensureEpoch currentEpoch
  snapshot.ensureNoPendingChange pending
  snapshot.ensureFrame requestedFrameId frameRuntime

/-- Loading a snapshot by its id, undisturbed by anything else in the session. -/
def SnapshotCache.loadCachedSnapshot (cache : SnapshotCache) (snapshotId : String)
    (currentEpoch : Nat) (pending : PendingExternalDomChangeState)
    (requestedFrameId : Option String) (frameRuntime : FrameRuntimeInfo) :
    Except String PublishedSnapshot :=
  match cache.getSnapshot snapshotId with
  | none => .error s!"Snapshot {snapshotId} is unknown or evicted"
  | some snapshot =>
    match snapshot.ensureCachedSnapshotAuthority currentEpoch pending requestedFrameId
        frameRuntime with
    | .error stale => .error (stale.message snapshotId)
    | .ok () => .ok snapshot

end Rub
