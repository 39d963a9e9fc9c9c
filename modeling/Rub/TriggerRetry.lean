import Rub.AutomationFence
import Rub.PartialMap
import Rub.ReplayTransparency
import Rub.TriggerWorker

/-!
The trigger worker in front of the replay fence. An action is sent as a request of the same
daemon, under a command id made of the rule and of the evidence it fires on; whether it
executes is decided by the fence, next to the requests of every client.
-/

namespace Rub

open Json

def missingErrorEnvelope : ErrorEnvelope :=
  ErrorEnvelope.new .ipcProtocolError
    "trigger action returned an error response without an error envelope"

def augmentTriggerErrorContext (error : ErrorEnvelope) (trigger : TriggerInfo) (phase : String) :
    ErrorEnvelope :=
  mergeTriggerErrorContext error
    [("trigger_id", natural trigger.id), ("phase", string phase),
      ("source_tab_target_id", string trigger.sourceTab.targetId),
      ("source_frame_id", optionalText trigger.sourceTab.frameId),
      ("target_tab_target_id", string trigger.targetTab.targetId),
      ("target_frame_id", optionalText trigger.targetTab.frameId),
      ("action_kind", string trigger.action.kind.name),
      ("action_command", optionalText trigger.action.command)]

def ensureTriggerResponseSuccess (response : IpcResponse) (trigger : TriggerInfo)
    (phase : String) : Except ErrorEnvelope (Option Json) :=
  match response.status with
  | .success => .ok response.data
  | .error =>
    .error (augmentTriggerErrorContext (response.error.getD missingErrorEnvelope) trigger phase)

def triggerActionCommand (trigger : TriggerInfo) : Option String :=
  match trigger.action.kind with
  | .browserCommand =>
    trigger.action.command.map fun command =>
      if command = "fill" then "_trigger_fill" else command
  | .workflow => some "_trigger_pipe"
  | _ => none

/-- What `fire_trigger` makes of the response to its request. -/
def triggerActionResult (trigger : TriggerInfo) (response : IpcResponse) :
    Except ErrorEnvelope (Option Json) :=
  (ensureTriggerResponseSuccess response trigger "action").bind fun data =>
    match trigger.action.kind, trigger.action.command with
    | .browserCommand, some command =>
      (ensureCommittedAutomationResult command data).map fun _ => data
    | _, _ => .ok data

theorem digitChar_injective {left right : Nat} (small : left < 16) (other : right < 16)
    (same : Nat.digitChar left = Nat.digitChar right) : left = right := by
  have all : ∀ first second : Fin 16,
      Nat.digitChar first = Nat.digitChar second → first = second := by decide
  exact congrArg Fin.val (all ⟨left, small⟩ ⟨right, other⟩ same)

theorem byte_eq_of_halves {left right : UInt8}
    (high : Nat.digitChar (left.toNat / 16) = Nat.digitChar (right.toNat / 16))
    (low : Nat.digitChar (left.toNat % 16) = Nat.digitChar (right.toNat % 16)) :
    left = right := by
  have leftBound : left.toNat < 256 := left.toNat_lt
  have rightBound : right.toNat < 256 := right.toNat_lt
  have quotients := digitChar_injective (by omega) (by omega) high
  have remainders := digitChar_injective (by omega) (by omega) low
  refine UInt8.toNat_inj.mp ?_
  omega

theorem hexEncode_injective {left right : List UInt8} (same : hexEncode left = hexEncode right) :
    left = right := by
  have digits := String.ofList_injective same
  clear same
  induction left generalizing right with
  | nil =>
    cases right with
    | nil => rfl
    | cons => simp at digits
  | cons _ _ ih =>
    cases right with
    | nil => simp at digits
    | cons =>
      simp only [List.flatMap_cons, List.cons_append, List.nil_append, List.cons.injEq] at digits
      rw [byte_eq_of_halves digits.1 digits.2.1, ih digits.2.2]

theorem colon_notMem_repr (number : Nat) : ':' ∉ Nat.toDigits 10 number := by
  intro member
  have digit := Nat.isDigit_of_mem_toDigits (by decide) (by decide) member
  exact absurd digit (by decide)

theorem triggerActionCommandId_inj {first later : TriggerInfo}
    {evidence others : TriggerEvidenceInfo} :
    triggerActionCommandId first evidence = triggerActionCommandId later others ↔
      first.id = later.id ∧
        triggerEvidenceConsumptionKey evidence = triggerEvidenceConsumptionKey others := by
  constructor
  · intro same
    have texts := congrArg String.toList same
    simp only [triggerActionCommandId, String.toList_append, Nat.repr, String.toList_ofList,
      List.append_assoc, List.append_cancel_left_eq] at texts
    obtain ⟨numbers, keys⟩ := append_separator_inj (colon_notMem_repr first.id)
      (colon_notMem_repr later.id) texts
    refine ⟨toDigits_ten_injective numbers, ?_⟩
    have bytes := hexEncode_injective (String.toList_injective keys)
    have arrays : (triggerEvidenceConsumptionKey evidence).toUTF8 =
        (triggerEvidenceConsumptionKey others).toUTF8 :=
      ByteArray.ext (Array.toList_inj.mp bytes)
    exact String.toByteArray_inj.mp arrays
  · rintro ⟨number, key⟩
    simp only [triggerActionCommandId, number, key]

/-- The worker, the fence its actions go through, and the action that is under way. -/
structure TriggerDaemon (Id : Type) where
  session : TriggerSession
  fence : FenceState Id
  awaited : Option Id
  /-- History: what each request of an action was fired for. -/
  firings : Id → Option ReservedTriggerExecution
  /-- History: how the actions ended that were answered. -/
  results : Id → Option (Except ErrorEnvelope (Option Json))

inductive TriggerDaemonAction (Id : Type) where
  | worker (action : TriggerSessionAction)
  | request (action : FenceAction Id)
  | fire (i : Id)
  | settle

/-- The steps of the worker that send an action or read its answer. -/
def TriggerSessionAction.reachesFence : TriggerSessionAction → Bool
  | .dispatch | .actionFailed _ | .actionSucceeded _ => true
  | _ => false

def answerAction : Except ErrorEnvelope (Option Json) → TriggerSessionAction
  | .error error => .actionFailed error
  | .ok result => .actionSucceeded result

/-- The execution that the worker is about to send. -/
def TriggerSession.awaitingDispatch (state : TriggerSession) : Option ReservedTriggerExecution :=
  state.handling.bind fun handling =>
    match handling.phase with
    | .reserved execution => some execution
    | _ => none

def RequestPhase.isIncoming : RequestPhase → Bool
  | .incoming => true
  | _ => false

def RequestPhase.isFinished : RequestPhase → Bool
  | .finished => true
  | _ => false

namespace ReplaySession

variable {Id : Type} [DecidableEq Id] (replay : ReplaySession Id)

/-- The request is the one `fire_trigger` sends for the execution. Its arguments and its
timeout come from the payload and from the page. -/
def sendsAction (i : Id) (execution : ReservedTriggerExecution) : Bool :=
  triggerActionCommand execution.trigger == some (replay.request i).command &&
    (replay.request i).commandId ==
      some (triggerActionCommandId execution.trigger execution.evidence)

def stepDaemon (state : TriggerDaemon Id) : TriggerDaemonAction Id → Option (TriggerDaemon Id)
  | .worker action =>
    if action.reachesFence then none
    else (state.session.step action).map fun session => { state with session := session }
  | .request action =>
    (replay.step state.fence action).map fun fence => { state with fence := fence }
  | .fire i =>
    match state.session.awaitingDispatch with
    | some execution =>
      if (state.fence.phase i).isIncoming && replay.sendsAction i execution then
        (state.session.step .dispatch).map fun session =>
          { state with
            session := session
            awaited := some i
            firings := Function.update state.firings i (some execution) }
      else none
    | none => none
  -- the worker goes on once the response of its request is committed
  | .settle =>
    match state.awaited with
    | some i =>
      match state.firings i, state.fence.commits i with
      | some execution, some commit =>
        if (state.fence.phase i).isFinished then
          let result := triggerActionResult execution.trigger commit.response
          (state.session.step (answerAction result)).map fun session =>
            { state with
              session := session
              awaited := none
              results := Function.update state.results i (some result) }
        else none
      | _, _ => none
    | none => none

def initialDaemon : TriggerDaemon Id :=
  { session := .initial, fence := initialState, awaited := none, firings := fun _ => none,
    results := fun _ => none }

def triggerDaemon : TransitionSystem (TriggerDaemon Id) (TriggerDaemonAction Id) :=
  { initial := initialDaemon, step := replay.stepDaemon }

/-- The request can go on to execute: its claim makes it the owner of its command id. -/
def entersExecution (fence : FenceState Id) (i : Id) : Bool :=
  ((replay.step fence (.claim i)).bind fun claimed =>
    replay.step claimed (.markExecutionStarted i)).isSome

variable {replay} {fence : FenceState Id}

omit [DecidableEq Id] in
theorem ReplayInv.claim_eq_owner_iff (inv : replay.ReplayInv fence) (sender : Nat)
    (commandId fingerprint : String) :
    (fence.replay.claimReplayCommand sender commandId fingerprint).1 = .owner ↔
      ∀ j, ¬ replay.Holds fence j commandId := by
  have spec := fence.replay.claimReplayCommand_spec sender commandId fingerprint
  generalize fence.replay.claimReplayCommand sender commandId fingerprint = outcome at spec ⊢
  -- what the tables hold of an id goes back to a request that holds it
  have ofCache : ∀ entry, fence.replay.cache.lookup commandId = some entry →
      ∃ j, replay.Holds fence j commandId := by
    intro entry found
    obtain ⟨j, executed, identified, _⟩ := inv.retention.cached commandId entry found
    exact ⟨j, .inl ⟨executed, identified⟩⟩
  have ofFlight : ∀ entry, fence.replay.inFlight.lookup commandId = some entry →
      ∃ j, replay.Holds fence j commandId := by
    intro entry found
    obtain ⟨j, owner, owned, same⟩ := inv.retention.flown commandId entry found
    exact ⟨j, .inr ⟨owner, owned, same⟩⟩
  have ofSpent : ∀ entry, fence.replay.spent.lookup commandId = some entry →
      ∃ j, replay.Holds fence j commandId := by
    intro entry found
    obtain ⟨j, executed, identified, _⟩ := inv.retention.spent commandId entry found
    exact ⟨j, .inl ⟨executed, identified⟩⟩
  have refused : ∀ {claim : ReplayCommandClaim}, claim ≠ .owner →
      (∃ j, replay.Holds fence j commandId) →
        (claim = .owner ↔ ∀ j, ¬ replay.Holds fence j commandId) := by
    rintro claim other ⟨j, holds⟩
    exact ⟨fun same => absurd same other, fun free => absurd holds (free j)⟩
  cases spec with
  | cached entry found | cacheConflict entry found =>
    exact refused (by simp) (ofCache entry found)
  | wait existing _ found | inFlightConflict existing _ found =>
    exact refused (by simp) (ofFlight existing found)
  | spent existing _ _ found | spentConflict existing _ _ found =>
    exact refused (by simp) (ofSpent existing found)
  | owner _ landed unspent =>
    refine ⟨fun _ j holds => ?_, fun _ => rfl⟩
    exact (inv.spent_of_landed holds landed) unspent

/-- After a claim the request is dispatched, and not yet started, exactly as the owner. -/
theorem entersExecution_iff {i : Id} {requestId commandId : String}
    (claiming : fence.phase i = .claiming requestId)
    (identified : (replay.request i).commandId = some commandId) :
    replay.entersExecution fence i = true ↔
      (fence.replay.claimReplayCommand fence.nextChannel commandId
        (replay.fingerprint (replay.request i))).1 = .owner := by
  have claimed : replay.step fence (.claim i) =
      some (replay.claimCommand fence i requestId commandId) := by
    simp only [step, claiming, identified]
  have spec := fence.replay.claimReplayCommand_spec fence.nextChannel commandId
    (replay.fingerprint (replay.request i))
  rw [entersExecution, claimed, Option.bind_some]
  unfold claimCommand
  generalize fence.replay.claimReplayCommand fence.nextChannel commandId
    (replay.fingerprint (replay.request i)) = outcome at spec ⊢
  cases spec with
  | owner | wait => simp [afterClaim, step]
  | _ => simp [afterClaim, step]

variable {state next : TriggerDaemon Id} {action : TriggerDaemonAction Id}

/-- The fence as a run of the daemon leaves it, and what a fired request carries. -/
structure DaemonInv (replay : ReplaySession Id) (state : TriggerDaemon Id) : Prop where
  fence : replay.ReplayInv state.fence
  carried : ∀ i execution, state.firings i = some execution →
    (replay.request i).commandId =
      some (triggerActionCommandId execution.trigger execution.evidence)

theorem DaemonInv.step (inv : DaemonInv replay state)
    (taken : replay.stepDaemon state action = some next) : DaemonInv replay next := by
  cases action with
  | worker =>
    simp only [stepDaemon] at taken
    split at taken
    · cases taken
    · obtain ⟨session, -, rfl⟩ := Option.map_eq_some_iff.mp taken
      exact ⟨inv.fence, inv.carried⟩
  | request =>
    obtain ⟨fence, moved, rfl⟩ := Option.map_eq_some_iff.mp taken
    exact ⟨replay.replayInv_step inv.fence moved, inv.carried⟩
  | fire i =>
    simp only [stepDaemon] at taken
    (repeat' split at taken) <;> try cases taken
    rename_i ready
    obtain ⟨session, -, rfl⟩ := Option.map_eq_some_iff.mp taken
    refine ⟨inv.fence, fun j fired found => ?_⟩
    rcases update_eq_some found with ⟨rfl, written⟩ | ⟨_, older⟩
    · cases written
      simp only [sendsAction, Bool.and_eq_true, beq_iff_eq] at ready
      exact ready.2.2
    · exact inv.carried j fired older
  | settle =>
    simp only [stepDaemon] at taken
    (repeat' split at taken) <;> try cases taken
    obtain ⟨session, -, rfl⟩ := Option.map_eq_some_iff.mp taken
    exact ⟨inv.fence, inv.carried⟩

theorem daemonInv_of_reachable (reached : replay.triggerDaemon.Reachable state) :
    DaemonInv replay state :=
  TransitionSystem.Reachable.invariant replay.triggerDaemon
    ⟨⟨replay.fenceInv_initial, replay.commitInv_initial, replay.retentionInv_initial⟩,
      by rintro i execution ⟨⟩⟩
    (fun _ _ _ inv taken => inv.step taken) reached

/-- A fired action executes exactly when no request of its command id has executed and none
holds the id. An action of the same rule on evidence with the same key has that id, so once
such an action has executed, no later one does; an action on evidence with another key has
another id. -/
theorem fired_action_executes_iff (reached : replay.triggerDaemon.Reachable state) {i : Id}
    {requestId : String} {later : ReservedTriggerExecution} (fired : state.firings i = some later)
    (claiming : state.fence.phase i = .claiming requestId) :
    (replay.entersExecution state.fence i = true ↔
      ∀ j, ¬ replay.Holds state.fence j
        (triggerActionCommandId later.trigger later.evidence)) ∧
    (∀ j first, state.firings j = some first →
      ((replay.request j).commandId = (replay.request i).commandId ↔
        first.trigger.id = later.trigger.id ∧
          triggerEvidenceConsumptionKey first.evidence =
            triggerEvidenceConsumptionKey later.evidence)) ∧
    ∀ j first, state.firings j = some first → j ∈ state.fence.executions →
      first.trigger.id = later.trigger.id →
      triggerEvidenceConsumptionKey first.evidence =
        triggerEvidenceConsumptionKey later.evidence →
      replay.entersExecution state.fence i = false := by
  have inv := daemonInv_of_reachable reached
  have identified := inv.carried i later fired
  have enters : replay.entersExecution state.fence i = true ↔
      ∀ j, ¬ replay.Holds state.fence j (triggerActionCommandId later.trigger later.evidence) :=
    (entersExecution_iff claiming identified).trans (inv.fence.claim_eq_owner_iff _ _ _)
  refine ⟨enters, fun j first earlier => ?_, fun j first earlier executed rule key => ?_⟩
  · rw [identified, inv.carried j first earlier, Option.some_inj]
    exact triggerActionCommandId_inj
  · have sameId := triggerActionCommandId_inj.mpr ⟨rule, key⟩
    have carried := inv.carried j first earlier
    rw [sameId] at carried
    refine Bool.eq_false_iff.mpr fun entered => ?_
    exact enters.mp entered j (.inl ⟨executed, carried⟩)

def clickTrigger : TriggerInfo := .onFirstTab 0 .textPresent none "click"

def readyText : TriggerEvidenceInfo := { summary := "seen", fingerprint := none }

/-- The daemon of one trigger; both requests are clicks that the trigger sends. -/
def clickReplay : ReplaySession Bool :=
  { request := fun _ =>
      { ipcProtocolVersion := Rub.ipcProtocolVersion, command := "click",
        commandId := some "trigger:1:7365656e", daemonSessionId := none, args := .object [],
        timeoutMs := 1000 }
    fingerprint := fun request => request.command
    payloadLen := fun _ => some 2
    sessionId := "session-1" }

/-- A cycle that finds the text, and the reservation of its action. -/
def reservingRun (attemptId : Nat) : List TriggerSessionAction :=
  [.list, .refresh true, .reconcile, .next, .evaluate (.present readyText), .decide,
    .deliver { ruleId := 1, attemptId := attemptId, aborted := false } (.ok ()), .receive false,
    .readLive, .refreshTabs true, .revalidate (.present readyText)]

/-- The rule is registered and its action comes to the fence. -/
def firstFiringRun : List (TriggerDaemonAction Bool) :=
  [.worker (.begin (.add clickTrigger)), .worker .choose, .worker .commit, .worker .endCommand] ++
    (reservingRun 1).map .worker ++ [.fire true, .request (.preflight true "req-1")]

/-- The click fails because the element is not there yet, and a later cycle fires again. -/
def failedClickRun : List (TriggerDaemonAction Bool) :=
  firstFiringRun ++
    [.request (.claim true), .request (.markExecutionStarted true),
      .request (.respond true (.failure "req-1"
        (ErrorEnvelope.new .elementNotFound "Element not found"))),
      .request (.beginCommit true .locally), .request (.finalizeStep true),
      .request (.finalizeStep true), .request (.finalizeStep true), .settle, .worker .next] ++
    (reservingRun 2).map .worker ++ [.fire false, .request (.preflight false "req-2")]

def daemonAfter (actions : List (TriggerDaemonAction Bool)) : TriggerDaemon Bool :=
  (clickReplay.triggerDaemon.runFrom initialDaemon actions).getD initialDaemon

/-- The evidence of a click that found no element is kept, the rule is armed and fires again
on it, and the fence answers with the first failure. -/
theorem preserved_failure_not_retried :
    ∃ state first later error answered answer,
      clickReplay.triggerDaemon.runFrom initialDaemon failedClickRun = some state ∧
      state.firings true = some first ∧ state.firings false = some later ∧
      first.evidence = later.evidence ∧ first.trigger.id = later.trigger.id ∧
      true ∈ state.fence.executions ∧ state.results true = some (.error error) ∧
      error.code = .elementNotFound ∧
      triggerFailureConsumesEvidence error (classifyTriggerErrorStatus error.code)
        .consumeOnPermanentActionFailure = false ∧
      later.trigger.status = .armed ∧ state.fence.phase false = .claiming "req-2" ∧
      clickReplay.entersExecution state.fence false = false ∧
      clickReplay.step state.fence (.claim false) = some answered ∧
      answered.commits false = some answer ∧
      answer.response.error.map (·.code) = some .elementNotFound := by
  refine ⟨daemonAfter failedClickRun, _, _, _, _, _, by rfl, by rfl, by rfl, by rfl, by rfl, ?_,
    by rfl, by rfl, by rfl, by rfl, by rfl, by rfl, by rfl, by rfl, by rfl⟩
  exact List.mem_singleton.mpr rfl

theorem first_click_executes_second_does_not :
    (clickReplay.entersExecution (daemonAfter firstFiringRun).fence true = true ∧
      ∀ j, ¬ clickReplay.Holds (daemonAfter firstFiringRun).fence j "trigger:1:7365656e") ∧
    clickReplay.entersExecution (daemonAfter failedClickRun).fence false = false := by
  have first : clickReplay.triggerDaemon.Reachable (daemonAfter firstFiringRun) :=
    ⟨firstFiringRun, by rfl⟩
  have second : clickReplay.triggerDaemon.Reachable (daemonAfter failedClickRun) :=
    ⟨failedClickRun, by rfl⟩
  have enters : clickReplay.entersExecution (daemonAfter firstFiringRun).fence true = true := by
    rfl
  have free := ((fired_action_executes_iff first
    (show (daemonAfter firstFiringRun).firings true = some _ by rfl)
    (show (daemonAfter firstFiringRun).fence.phase true = .claiming "req-1" by rfl)).1).mp enters
  refine ⟨⟨enters, free⟩, ?_⟩
  exact (fired_action_executes_iff second
    (show (daemonAfter failedClickRun).firings false = some _ by rfl)
    (show (daemonAfter failedClickRun).fence.phase false = .claiming "req-2" by rfl)).2.2
      true _ (by rfl) (List.mem_singleton.mpr rfl) (by rfl) (by rfl)

end ReplaySession

end Rub
