import Rub.DeadlineProjection
import Rub.ReplayIdentity

/-!
When two sends of the client have the same replay fingerprint: the deadline fields are not
part of a request's identity, the budget of its post-action wait is.
-/

namespace Rub

open Json

variable {serde : SerdeJson} (request : IpcRequest)

theorem waitAfterMember_eq_some {args waitAfter : Json}
    (member : waitAfterMember args = some waitAfter) :
    args.get "wait_after" = some waitAfter ∧ waitAfter.isObject = true := by
  obtain ⟨given, shape⟩ := Option.filter_eq_some_iff.mp member
  simp only [Bool.and_eq_true] at shape
  exact ⟨given, shape.1⟩

variable {waitAfter : Json}

theorem requestedWaitAfterMs_align (object : waitAfter.isObject = true) (timeoutMs : Nat) :
    requestedWaitAfterMs (alignWaitAfter waitAfter timeoutMs) =
      min (requestedWaitAfterMs waitAfter) timeoutMs := by
  by_cases written : (waitAfter.get "timeout_ms").isSome ∨
      min (requestedWaitAfterMs waitAfter) timeoutMs < requestedWaitAfterMs waitAfter
  · rw [alignWaitAfter, if_pos written, requestedWaitAfterMs, get_insert object, if_pos rfl]
    rfl
  · rw [alignWaitAfter, if_neg written]
    have fits := not_lt.mp (not_or.mp written).2
    exact (le_antisymm (Nat.min_le_left _ _) fits).symm

theorem overwriteEmbeddedTimeouts_args :
    DeadlinesOverwritten request.args (overwriteEmbeddedTimeouts request).args := by
  unfold overwriteEmbeddedTimeouts
  split
  · exact ((DeadlinesOverwritten.refl _).overwrite (.inl rfl) _).overwrite (.inr rfl) _
  · exact .refl _

@[simp] theorem overwriteEmbeddedTimeouts_command :
    (overwriteEmbeddedTimeouts request).command = request.command := by
  unfold overwriteEmbeddedTimeouts
  split <;> rfl

@[simp] theorem overwriteEmbeddedTimeouts_timeoutMs :
    (overwriteEmbeddedTimeouts request).timeoutMs = request.timeoutMs := by
  unfold overwriteEmbeddedTimeouts
  split <;> rfl

@[simp] theorem alignEmbeddedTimeoutAuthority_command :
    (alignEmbeddedTimeoutAuthority request).command = request.command := by
  unfold alignEmbeddedTimeoutAuthority alignWaitAfterTimeoutAuthority
  split <;> simp

theorem waitAfterMember_overwriteEmbeddedTimeouts :
    waitAfterMember (overwriteEmbeddedTimeouts request).args = waitAfterMember request.args := by
  unfold waitAfterMember
  rw [(overwriteEmbeddedTimeouts_args request).others (by decide) (by decide)]

theorem alignedArgs_of_unwaited (unwaited : waitAfterMember request.args = none) :
    (alignEmbeddedTimeoutAuthority request).args = (overwriteEmbeddedTimeouts request).args := by
  unfold alignEmbeddedTimeoutAuthority alignWaitAfterTimeoutAuthority
  rw [waitAfterMember_overwriteEmbeddedTimeouts, unwaited]

theorem alignedArgs_of_waited (waited : waitAfterMember request.args = some waitAfter) :
    (alignEmbeddedTimeoutAuthority request).args =
      (overwriteEmbeddedTimeouts request).args.insert "wait_after"
        (alignWaitAfter waitAfter request.timeoutMs) := by
  unfold alignEmbeddedTimeoutAuthority alignWaitAfterTimeoutAuthority
  rw [waitAfterMember_overwriteEmbeddedTimeouts, waited]
  show insert _ _ (alignWaitAfter waitAfter (overwriteEmbeddedTimeouts request).timeoutMs) = _
  rw [overwriteEmbeddedTimeouts_timeoutMs]

theorem get_alignedArgs_of_waited {name : String}
    (waited : waitAfterMember request.args = some waitAfter) (first : name ≠ "timeout_ms")
    (second : name ≠ "wait_timeout_ms") :
    (alignEmbeddedTimeoutAuthority request).args.get name =
      if name = "wait_after" then some (alignWaitAfter waitAfter request.timeoutMs)
      else request.args.get name := by
  have overwritten := overwriteEmbeddedTimeouts_args request
  have object := isObject_of_get (waitAfterMember_eq_some waited).1
  rw [alignedArgs_of_waited request waited, get_insert (overwritten.object.trans object),
    overwritten.others first second]

theorem get_alignedArgs_of_unwaited {name : String}
    (unwaited : waitAfterMember request.args = none) (first : name ≠ "timeout_ms")
    (second : name ≠ "wait_timeout_ms") :
    (alignEmbeddedTimeoutAuthority request).args.get name = request.args.get name := by
  rw [alignedArgs_of_unwaited request unwaited,
    (overwriteEmbeddedTimeouts_args request).others first second]

/-- Apart from the deadline fields and the post-action wait the arguments are the request's. -/
theorem get_alignedArgs {name : String} (first : name ≠ "timeout_ms")
    (second : name ≠ "wait_timeout_ms") (third : name ≠ "wait_after") :
    (alignEmbeddedTimeoutAuthority request).args.get name = request.args.get name := by
  cases waited : waitAfterMember request.args with
  | none => exact get_alignedArgs_of_unwaited request waited first second
  | some => rw [get_alignedArgs_of_waited request waited first second, if_neg third]

theorem isObject_alignedArgs :
    (alignEmbeddedTimeoutAuthority request).args.isObject = request.args.isObject := by
  have overwritten := (overwriteEmbeddedTimeouts_args request).object
  cases waited : waitAfterMember request.args with
  | none => rw [alignedArgs_of_unwaited request waited, overwritten]
  | some => rw [alignedArgs_of_waited request waited, isObject_insert, overwritten]

theorem alignedArgs_of_not_object (scalar : request.args.isObject = false) :
    (alignEmbeddedTimeoutAuthority request).args = request.args := by
  have unwaited : waitAfterMember request.args = none := by
    unfold waitAfterMember
    rw [get_of_not_object scalar]
    rfl
  rw [alignedArgs_of_unwaited request unwaited,
    (overwriteEmbeddedTimeouts_args request).scalar scalar]

/-- The request with the budget of one send. -/
def IpcRequest.withTimeout (request : IpcRequest) (timeoutMs : Nat) : IpcRequest :=
  { request with timeoutMs := timeoutMs }

section SameWait

variable {first second : Nat}
  (sameWait : ∀ waitAfter, waitAfterMember request.args = some waitAfter →
    alignWaitAfter waitAfter first = alignWaitAfter waitAfter second)
include sameWait

theorem alignedArgs_eq_of_not_owned
    (foreign : commandOwnsEmbeddedTimeoutAuthority request = false) :
    (alignEmbeddedTimeoutAuthority (request.withTimeout first)).args =
      (alignEmbeddedTimeoutAuthority (request.withTimeout second)).args := by
  have untouched : ∀ timeoutMs,
      (overwriteEmbeddedTimeouts (request.withTimeout timeoutMs)).args = request.args := by
    intro timeoutMs
    rw [overwriteEmbeddedTimeouts, embeddedTimeoutBudgetMs,
      show commandOwnsEmbeddedTimeoutAuthority (request.withTimeout timeoutMs) = false from foreign]
    rfl
  cases waited : waitAfterMember request.args with
  | none =>
    have sent timeoutMs := alignedArgs_of_unwaited (request.withTimeout timeoutMs) waited
    rw [sent, sent, untouched, untouched]
  | some waitAfter =>
    have sent timeoutMs := alignedArgs_of_waited (request.withTimeout timeoutMs) waited
    rw [sent, sent, untouched, untouched]
    exact congrArg (request.args.insert "wait_after") (sameWait waitAfter waited)

theorem get_alignedArgs_eq {name : String} (notTimeout : name ≠ "timeout_ms")
    (notWaitTimeout : name ≠ "wait_timeout_ms") :
    (alignEmbeddedTimeoutAuthority (request.withTimeout first)).args.get name =
      (alignEmbeddedTimeoutAuthority (request.withTimeout second)).args.get name := by
  by_cases wait : name = "wait_after"
  · cases waited : waitAfterMember request.args with
    | none =>
      have sent timeoutMs := get_alignedArgs_of_unwaited (request.withTimeout timeoutMs) waited
        notTimeout notWaitTimeout
      exact (sent first).trans (sent second).symm
    | some waitAfter =>
      have sent timeoutMs := get_alignedArgs_of_waited (request.withTimeout timeoutMs) waited
        notTimeout notWaitTimeout
      rw [sent, sent, if_pos wait, if_pos wait]
      exact congrArg some (sameWait waitAfter waited)
  · have sent timeoutMs := get_alignedArgs (request.withTimeout timeoutMs) notTimeout
      notWaitTimeout wait
    exact (sent first).trans (sent second).symm

theorem semanticReplayArgs_aligned_eq : semanticReplayArgs serde request.command
        (alignEmbeddedTimeoutAuthority (request.withTimeout first)).args =
      semanticReplayArgs serde request.command
        (alignEmbeddedTimeoutAuthority (request.withTimeout second)).args := by
  cases owned : commandOwnsEmbeddedTimeoutAuthority request with
  | false => rw [alignedArgs_eq_of_not_owned request sameWait owned]
  | true =>
    rw [semanticReplayArgs_of_embedded (embedded_command owned),
      semanticReplayArgs_of_embedded (embedded_command owned)]
    cases object : request.args.isObject with
    | false =>
      have sent timeoutMs := alignedArgs_of_not_object (request.withTimeout timeoutMs) object
      rw [(sent first).trans (sent second).symm]
    | true =>
      exact scrub_eq_of_get ((isObject_alignedArgs _).trans object)
        ((isObject_alignedArgs _).trans object) fun name => get_alignedArgs_eq request sameWait

end SameWait

theorem targetDispatchParts_aligned :
    targetDispatchParts (alignEmbeddedTimeoutAuthority request).args =
      targetDispatchParts request.args := by
  unfold targetDispatchParts
  rw [get_alignedArgs request (by decide) (by decide) (by decide),
    get_alignedArgs request (by decide) (by decide) (by decide)]

theorem requestedWaitAfter_eq_of_semanticReplayArgs_eq {first second : Nat}
    (waited : waitAfterMember request.args = some waitAfter)
    (direct : ¬ IsTargetDispatch request.command request.args)
    (same : semanticReplayArgs serde request.command
      (alignEmbeddedTimeoutAuthority (request.withTimeout first)).args =
      semanticReplayArgs serde request.command
      (alignEmbeddedTimeoutAuthority (request.withTimeout second)).args) :
    min (requestedWaitAfterMs waitAfter) first = min (requestedWaitAfterMs waitAfter) second := by
  have member : ∀ timeoutMs,
      (alignEmbeddedTimeoutAuthority (request.withTimeout timeoutMs)).args.get "wait_after" =
        some (alignWaitAfter waitAfter timeoutMs) := by
    intro timeoutMs
    exact (get_alignedArgs_of_waited (request.withTimeout timeoutMs) waited (by decide)
      (by decide)).trans (if_pos rfl)
  have shown : ∀ timeoutMs, (semanticReplayArgs serde request.command
        (alignEmbeddedTimeoutAuthority (request.withTimeout timeoutMs)).args).get "wait_after" =
        some (alignWaitAfter waitAfter timeoutMs) := by
    intro timeoutMs
    have stillDirect : ¬ IsTargetDispatch request.command
        (alignEmbeddedTimeoutAuthority (request.withTimeout timeoutMs)).args := by
      rw [IsTargetDispatch, targetDispatchParts_aligned]
      exact direct
    have given := member timeoutMs
    rw [semanticReplayArgs_of_direct stillDirect, directReplayArgs_waitAfter (given ▸ rfl), given]
  have object := (waitAfterMember_eq_some waited).2
  have aligned : alignWaitAfter waitAfter first = alignWaitAfter waitAfter second := by
    have members := congrArg (fun value => value.get "wait_after") same
    simpa only [shown, Option.some.injEq] using members
  rw [← requestedWaitAfterMs_align object, ← requestedWaitAfterMs_align object, aligned]

theorem projectRequestOntoDeadline_eq_some {remainingMs : Nat} {projected : IpcRequest}
    (sent : projectRequestOntoDeadline request remainingMs = some projected) :
    projected =
      alignEmbeddedTimeoutAuthority (request.withTimeout (min request.timeoutMs remainingMs)) := by
  unfold projectRequestOntoDeadline at sent
  split at sent
  · cases sent
  · simp only at sent
    split at sent
    · cases sent
    · exact (Option.some.inj sent).symm

/-- The post-action wait of the request, if its identity shows one, gets the same budget from
both deadlines. -/
def KeepsWaitAfterBudget (request : IpcRequest) (firstMs secondMs : Nat) : Prop :=
  ∀ waitAfter, waitAfterMember request.args = some waitAfter →
    IsTargetDispatch request.command request.args ∨
      min (requestedWaitAfterMs waitAfter) (min request.timeoutMs firstMs) =
        min (requestedWaitAfterMs waitAfter) (min request.timeoutMs secondMs)

/-- Two sends of the client have the same fingerprint exactly if the post-action wait they
carry was given the same budget; a request carried to a target shows no such wait. -/
theorem client_fingerprint_eq_iff {firstMs secondMs : Nat} {first second : IpcRequest}
    (firstSent : projectRequestOntoDeadline request firstMs = some first)
    (secondSent : projectRequestOntoDeadline request secondMs = some second) :
    replayRequestFingerprint serde first = replayRequestFingerprint serde second ↔
      KeepsWaitAfterBudget request firstMs secondMs := by
  cases projectRequestOntoDeadline_eq_some request firstSent
  cases projectRequestOntoDeadline_eq_some request secondSent
  rw [replayRequestFingerprint_eq_iff]
  simp only [alignEmbeddedTimeoutAuthority_command, IpcRequest.withTimeout, true_and]
  constructor
  · intro same waitAfter waited
    by_cases dispatch : IsTargetDispatch request.command request.args
    · exact .inl dispatch
    · exact .inr (requestedWaitAfter_eq_of_semanticReplayArgs_eq request waited dispatch same)
  · intro budgets
    by_cases dispatch : IsTargetDispatch request.command request.args
    · have parts : ∀ timeoutMs, targetDispatchParts
          (alignEmbeddedTimeoutAuthority (request.withTimeout timeoutMs)).args =
            targetDispatchParts request.args := fun timeoutMs =>
          targetDispatchParts_aligned (request.withTimeout timeoutMs)
      exact semanticReplayArgs_of_dispatch ⟨dispatch.1, (parts _).symm ▸ dispatch.2⟩
        ((parts _).trans (parts _).symm)
    · refine semanticReplayArgs_aligned_eq request fun waitAfter waited => ?_
      simp only [alignWaitAfter, (budgets waitAfter waited).resolve_left dispatch]

end Rub
