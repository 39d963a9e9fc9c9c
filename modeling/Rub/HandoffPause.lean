import Rub.TakeoverResume
import Rub.TransitionSystem

/-!
The pause while a human is in control. A command is refused before it queues for the exec gate
and again when it has the gate. The commands that a pipe or a fill executes are below that check,
and the refresh after an interaction may begin the pause while one of them is running.
-/

namespace Rub

open List

def transportExposedInternalCommands : List String :=
  ["_handshake", "_upgrade_check", "_blocker_diagnose", "_interactability_probe",
    "_fill_validate", "_orchestration_probe", "_orchestration_tab_frames",
    "_orchestration_target_dispatch", "_orchestration_workflow_source_vars"]

def commandAllowedDuringHandoff (command : String) : Bool :=
  command ∈ transportExposedInternalCommands ||
    command ∈ ["doctor", "runtime", "frames", "history", "downloads", "download", "handoff",
      "takeover", "dialog", "state", "observe", "inspect", "trigger", "tabs", "get", "screenshot",
      "close"]

def handoffBlocks (handoff : HumanVerificationHandoffInfo) (command : String) : Bool :=
  handoff.automationPaused && !commandAllowedDuringHandoff command

inductive InterferenceRefreshIntent where
  | readOnly | policyDriven
  deriving DecidableEq

inductive InterferenceKind where
  | interstitialNavigation | popupHijack | overlayInterference | thirdPartyNoise
  | humanVerificationRequired | unknownNavigationDrift
  deriving DecidableEq

structure InterferenceRuntimeInfo where
  currentInterference : Option InterferenceKind
  activePolicies : List String

def appliesPolicyDrivenHandoff (intent : InterferenceRefreshIntent)
    (runtime : InterferenceRuntimeInfo) (handoff : HumanVerificationHandoffInfo) : Bool :=
  intent == .policyDriven &&
    (runtime.currentInterference == some .humanVerificationRequired &&
      runtime.activePolicies.contains "handoff_escalation") &&
    match handoff.status with
    | .available | .completed => true
    | .active | .unavailable => false

/-- What a command that is executing does to the handoff: `handoff` and `takeover` start,
`handoff` complete and `takeover` resume, `takeover` elevate. -/
inductive HandoffCall where
  | activate | complete | setAvailable

def HandoffCall.apply (handoff : HumanVerificationHandoffInfo) :
    HandoffCall → HumanVerificationHandoffInfo
  | .activate => handoff.activate
  | .complete => .complete
  | .setAvailable => ⟨.available, false, true, none⟩

/-- How a running command has another one executed: `fenced` steps of a pipe and of a fill are
executed in place, `dispatched` ones are prepared like a request of their own. -/
inductive NestedRoute where
  | fenced | dispatched
  deriving DecidableEq

/-- The commands that a running one has executed, each with those that it has executed in turn. -/
inductive NestedCommands where
  | done
  | next (route : NestedRoute) (command : String) (nested rest : NestedCommands)

namespace NestedCommands

def append : NestedCommands → NestedCommands → NestedCommands
  | .done, later => later
  | .next route command nested rest, later => .next route command nested (rest.append later)

/-- Only a pipe and a fill execute commands in place. -/
def nestedIn (parent : String) : NestedCommands → Bool
  | .done => true
  | .next route command nested rest =>
    (route == .dispatched || ["pipe", "fill", "_trigger_pipe", "_trigger_fill"].contains parent) &&
      nested.nestedIn command && rest.nestedIn parent

/-- Whether no command that is not allowed starts here while a human is in control. -/
def heldBack : NestedCommands → Bool
  | .done => true
  | .next route command nested rest =>
    (if commandAllowedDuringHandoff command then nested.heldBack else route == .dispatched) &&
      rest.heldBack

theorem heldBack_append (first later : NestedCommands) :
    (first.append later).heldBack = (first.heldBack && later.heldBack) := by
  induction first with
  | done => simp [append, heldBack]
  | next _ _ _ _ _ ih => simp [append, heldBack, ih, Bool.and_assoc]

theorem heldBack_of_nestedIn {parent : String} {commands : NestedCommands}
    (allowed : commandAllowedDuringHandoff parent = true)
    (nests : commands.nestedIn parent = true) : commands.heldBack = true := by
  induction commands generalizing parent with
  | done => rfl
  | next route _ _ _ nestedIh restIh =>
    simp only [nestedIn, Bool.and_eq_true, Bool.or_eq_true, contains_iff_mem] at nests
    obtain ⟨⟨inPlace, inner⟩, later⟩ := nests
    have dispatched : (route == .dispatched) = true := by
      refine inPlace.resolve_right fun workflow => ?_
      simp only [mem_cons, not_mem_nil, or_false] at workflow
      rcases workflow with rfl | rfl | rfl | rfl <;> revert allowed <;> decide
    simp only [heldBack, restIh allowed later, Bool.and_true, dispatched]
    split
    · exact nestedIh ‹_› inner
    · rfl

end NestedCommands

inductive TaskSource where
  | request | worker
  deriving DecidableEq

/-- A request, or a worker that takes the gate to have its actions dispatched. -/
structure GatedTask where
  source : TaskSource
  command : String
  readOnly : Bool
  nested : NestedCommands
  nests : nested.nestedIn command = true

def GatedTask.allowsSharedRead (task : GatedTask) : Bool :=
  task.source == .request && task.readOnly && ["history", "downloads"].contains task.command

theorem GatedTask.allowed_of_sharedRead {task : GatedTask} (shared : task.allowsSharedRead = true) :
    commandAllowedDuringHandoff task.command = true := by
  simp only [allowsSharedRead, Bool.and_eq_true, contains_iff_mem, mem_cons,
    not_mem_nil, or_false] at shared
  rcases shared.2 with same | same <;> rw [same] <;> rfl

inductive TaskPhase where
  | idle | prepared | admitted
  | executing (remaining : NestedCommands)
  | finished

def TaskPhase.remaining : TaskPhase → NestedCommands
  | .executing remaining => remaining
  | _ => .done

def TaskPhase.holdsGate : TaskPhase → Bool
  | .admitted | .executing _ => true
  | _ => false

/-- `humanInControl` and `started` are kept to state what the session did: whether a call began a
pause that no call has ended, and every command that began, with whether it began in a pause. -/
structure PauseState (Task : Type) where
  handoff : HumanVerificationHandoffInfo
  holders : List Task
  phase : Task → TaskPhase
  humanInControl : Bool
  started : List (String × Bool)

inductive PauseAction (Task : Type) where
  | prepare (i : Task)
  | acquire (i : Task)
  | start (i : Task)
  | nested (i : Task)
  | skip (i : Task)
  | call (i : Task) (call : HandoffCall)
  | refresh (i : Task) (intent : InterferenceRefreshIntent) (runtime : InterferenceRuntimeInfo)
  | finish (i : Task)

namespace PauseState

variable {Task : Type} [DecidableEq Task]

def moveTo (state : PauseState Task) (i : Task) (phase : TaskPhase) : PauseState Task :=
  { state with phase := Function.update state.phase i phase }

/-- The check when the gate was given; a worker goes on with the actions of its rule. -/
def letIn (state : PauseState Task) (i : Task) (task : GatedTask) : PauseState Task :=
  if handoffBlocks state.handoff task.command then state.moveTo i .finished
  else
    { state with holders := i :: state.holders }.moveTo i
      (match task.source with
      | .request => .admitted
      | .worker => .executing task.nested)

def begin (state : PauseState Task) (i : Task) (command : String)
    (remaining : NestedCommands) : PauseState Task :=
  { state.moveTo i (.executing remaining) with
    started := state.started ++ [(command, state.humanInControl)] }

def called (state : PauseState Task) (call : HandoffCall) : PauseState Task :=
  { state with
    handoff := call.apply state.handoff
    humanInControl := call matches .activate }

def step (tasks : Task → GatedTask) (state : PauseState Task) :
    PauseAction Task → Option (PauseState Task)
  | .prepare i =>
    match (tasks i).source, state.phase i with
    | .request, .idle =>
      some (state.moveTo i
        (if handoffBlocks state.handoff (tasks i).command then .finished else .prepared))
    | _, _ => none
  -- a writer waits for every holder of the gate, a reader for a writer
  | .acquire i =>
    match (tasks i).source, state.phase i with
    | .request, .prepared | .worker, .idle =>
      if state.holders.all fun j => (tasks i).allowsSharedRead && (tasks j).allowsSharedRead then
        some (state.letIn i (tasks i))
      else none
    | _, _ => none
  | .start i =>
    match state.phase i with
    | .admitted => some (state.begin i (tasks i).command (tasks i).nested)
    | _ => none
  | .nested i =>
    match state.phase i with
    | .executing (.next route command nested rest) =>
      if route = .dispatched ∧ handoffBlocks state.handoff command then
        some (state.moveTo i (.executing rest))
      else some (state.begin i command (nested.append rest))
    | _ => none
  -- a workflow stops at a command that failed
  | .skip i =>
    match state.phase i with
    | .executing (.next _ _ _ rest) => some (state.moveTo i (.executing rest))
    | _ => none
  | .call i call =>
    match state.phase i with
    | .executing _ => some (state.called call)
    | _ => none
  | .refresh i intent runtime =>
    match state.phase i with
    | .executing _ =>
      some (if appliesPolicyDrivenHandoff intent runtime state.handoff then state.called .activate
        else state)
    | _ => none
  | .finish i => some { state.moveTo i .finished with holders := state.holders.filter (· ≠ i) }

def initial (userAccessible : Bool) : PauseState Task where
  handoff :=
    if userAccessible then HandoffCall.setAvailable.apply ⟨.unavailable, false, false, none⟩
    else ⟨.unavailable, false, false, none⟩
  holders := []
  phase := fun _ => .idle
  humanInControl := false
  started := []

def system (tasks : Task → GatedTask) (userAccessible : Bool) :
    TransitionSystem (PauseState Task) (PauseAction Task) :=
  ⟨initial userAccessible, step tasks⟩

def activates (state : PauseState Task) : PauseAction Task → Bool
  | .call _ .activate => true
  | .refresh _ intent runtime => appliesPolicyDrivenHandoff intent runtime state.handoff
  | _ => false

/-- The handoff is activated only when what is executing has no further command to execute in
place that is not allowed while a human is in control. -/
def Undisturbed (state : PauseState Task) (action : PauseAction Task) : Prop :=
  state.activates action = true →
    ∀ j ∈ state.holders, (state.phase j).remaining.heldBack = true

instance (state : PauseState Task) (action : PauseAction Task) :
    Decidable (Undisturbed state action) :=
  inferInstanceAs (Decidable (_ → _))

variable {tasks : Task → GatedTask} {state : PauseState Task} {i : Task}

structure PauseInv (tasks : Task → GatedTask) (state : PauseState Task) : Prop where
  paused : state.handoff.automationPaused = state.humanInControl
  held : ∀ i, (state.phase i).holdsGate = true → i ∈ state.holders
  apart : ∀ i ∈ state.holders, ∀ j ∈ state.holders, i ≠ j → (tasks j).allowsSharedRead = true
  admitted : state.humanInControl = true → ∀ i, state.phase i = .admitted →
    commandAllowedDuringHandoff (tasks i).command = true
  executing : state.humanInControl = true → ∀ i, (state.phase i).remaining.heldBack = true
  logged : ∀ start ∈ state.started, start.2 = true → commandAllowedDuringHandoff start.1 = true

theorem PauseInv.moveTo (inv : PauseInv tasks state) {phase : TaskPhase}
    (held : phase.holdsGate = true → i ∈ state.holders)
    (admitted : state.humanInControl = true → phase = .admitted →
      commandAllowedDuringHandoff (tasks i).command = true)
    (executing : state.humanInControl = true → phase.remaining.heldBack = true) :
    PauseInv tasks (state.moveTo i phase) := by
  have split : ∀ j, (state.moveTo i phase).phase j = phase ∧ j = i ∨
      (state.moveTo i phase).phase j = state.phase j := by
    intro j
    by_cases same : j = i
    · exact .inl ⟨by simp [PauseState.moveTo, same], same⟩
    · exact .inr (by simp [PauseState.moveTo, same])
  refine ⟨inv.paused, fun j holds => ?_, inv.apart, fun human j stands => ?_, fun human j => ?_,
    inv.logged⟩
  · rcases split j with ⟨moved, rfl⟩ | kept
    · exact held (moved ▸ holds)
    · exact inv.held j (kept ▸ holds)
  · rcases split j with ⟨moved, rfl⟩ | kept
    · exact admitted human (moved ▸ stands)
    · exact inv.admitted human j (kept ▸ stands)
  · rcases split j with ⟨moved, -⟩ | kept
    · rw [moved]
      exact executing human
    · rw [kept]
      exact inv.executing human j

variable {command : String}

theorem PauseInv.begin (inv : PauseInv tasks state)
    {remaining : NestedCommands} (held : i ∈ state.holders) (free : state.humanInControl = true →
      commandAllowedDuringHandoff command = true ∧ remaining.heldBack = true) :
    PauseInv tasks (state.begin i command remaining) := by
  have moved : PauseInv tasks (state.moveTo i (.executing remaining)) :=
    inv.moveTo (fun _ => held) (fun _ => nofun) fun human => (free human).2
  refine ⟨moved.paused, moved.held, moved.apart, moved.admitted, moved.executing, ?_⟩
  intro start member human
  rcases mem_append.mp member with older | new
  · exact inv.logged start older human
  · obtain rfl := mem_singleton.mp new
    exact (free human).1

omit [DecidableEq Task] in
/-- Whoever executes and activates has the gate alone, or shares it with readers. -/
theorem PauseInv.activate (inv : PauseInv tasks state) {remaining : NestedCommands}
    (stands : state.phase i = .executing remaining)
    (quiet : ∀ j ∈ state.holders, (state.phase j).remaining.heldBack = true) :
    PauseInv tasks (state.called .activate) := by
  refine ⟨rfl, inv.held, inv.apart, fun _ j waits => ?_, fun _ j => ?_, inv.logged⟩
  · refine GatedTask.allowed_of_sharedRead (inv.apart i (inv.held i (by rw [stands]; rfl)) j
      (inv.held j ?_) ?_)
    · rw [show state.phase j = .admitted from waits]
      rfl
    · rintro rfl
      cases stands.symm.trans waits
  · show (state.phase j).remaining.heldBack = true
    cases phase : state.phase j with
    | executing => exact phase ▸ quiet j (inv.held j (by rw [phase]; rfl))
    | _ => rfl

section

variable (inv : PauseInv tasks state)

include inv

omit [DecidableEq Task] in
theorem PauseInv.not_blocked (human : state.humanInControl = true)
    (free : ¬ handoffBlocks state.handoff command = true) :
    commandAllowedDuringHandoff command = true := by
  simpa [handoffBlocks, inv.paused, human] using free

theorem PauseInv.letIn (free : ∀ j ∈ state.holders,
      (tasks i).allowsSharedRead = true ∧ (tasks j).allowsSharedRead = true) :
    PauseInv tasks (state.letIn i (tasks i)) := by
  unfold PauseState.letIn
  split
  · exact inv.moveTo nofun (fun _ => nofun) fun _ => rfl
  · rename_i unblocked
    have taken : PauseInv tasks { state with holders := i :: state.holders } := by
      refine ⟨inv.paused, fun j holds => mem_cons_of_mem _ (inv.held j holds), ?_,
        inv.admitted, inv.executing, inv.logged⟩
      intro j first k second different
      rcases mem_cons.mp second with rfl | older
      · exact (free j (mem_of_ne_of_mem different first)).1
      · exact (free k older).2
    have allowed := fun human => inv.not_blocked human unblocked
    refine taken.moveTo (fun _ => mem_cons_self) (fun human _ => allowed human) fun human => ?_
    split
    · rfl
    · exact NestedCommands.heldBack_of_nestedIn (allowed human) (tasks i).nests

theorem PauseInv.nested {route : NestedRoute} {nested rest : NestedCommands}
    (stands : state.phase i = .executing (.next route command nested rest))
    (free : ¬ (route = .dispatched ∧ handoffBlocks state.handoff command = true)) :
    PauseInv tasks (state.begin i command (nested.append rest)) := by
  refine inv.begin (inv.held i (by rw [stands]; rfl)) fun human => ?_
  have left := inv.executing human i
  rw [stands] at left
  simp only [TaskPhase.remaining, NestedCommands.heldBack, Bool.and_eq_true] at left
  have allowed : commandAllowedDuringHandoff command = true := by
    by_contra refused
    rw [if_neg refused, beq_iff_eq] at left
    exact refused (inv.not_blocked human fun blocked => free ⟨left.1, blocked⟩)
  rw [if_pos allowed] at left
  exact ⟨allowed, by rw [NestedCommands.heldBack_append, left.1, left.2]; rfl⟩

theorem PauseInv.later {route : NestedRoute} {nested rest : NestedCommands}
    (stands : state.phase i = .executing (.next route command nested rest)) :
    PauseInv tasks (state.moveTo i (.executing rest)) := by
  refine inv.moveTo (fun _ => inv.held i (by rw [stands]; rfl)) (fun _ => nofun) fun human => ?_
  have left := inv.executing human i
  rw [stands] at left
  exact (Bool.and_eq_true_iff.mp left).2

theorem PauseInv.finish (i : Task) :
    PauseInv tasks { state.moveTo i .finished with holders := state.holders.filter (· ≠ i) } := by
  have moved : PauseInv tasks (state.moveTo i .finished) :=
    inv.moveTo nofun (fun _ => nofun) fun _ => rfl
  refine ⟨moved.paused, fun j holds => ?_, ?_, moved.admitted, moved.executing, moved.logged⟩
  · refine mem_filter.mpr ⟨moved.held j holds, decide_eq_true ?_⟩
    rintro rfl
    simp [PauseState.moveTo, TaskPhase.holdsGate] at holds
  · intro j first k second
    exact inv.apart j (mem_of_mem_filter first) k (mem_of_mem_filter second)

theorem PauseInv.step {action : PauseAction Task} {next : PauseState Task}
    (undisturbed : Undisturbed state action)
    (taken : state.step tasks action = some next) : PauseInv tasks next := by
  cases action <;> simp only [PauseState.step] at taken
  case prepare i =>
    split at taken <;> cases taken
    split <;> exact inv.moveTo nofun (fun _ => nofun) fun _ => rfl
  case acquire i =>
    (repeat' split at taken) <;> cases taken
    all_goals
      rename_i shared
      exact inv.letIn (by simpa only [all_eq_true, Bool.and_eq_true] using shared)
  case start i =>
    split at taken <;> cases taken
    rename_i stands
    refine inv.begin (inv.held i (by rw [stands]; rfl)) fun human => ?_
    have allowed := inv.admitted human i stands
    exact ⟨allowed, NestedCommands.heldBack_of_nestedIn allowed (tasks i).nests⟩
  case nested i =>
    (repeat' split at taken) <;> cases taken
    · exact inv.later ‹_›
    · exact inv.nested ‹_› ‹_›
  case skip i =>
    split at taken <;> cases taken
    exact inv.later ‹_›
  case call i call =>
    split at taken <;> cases taken
    cases call with
    | activate => exact inv.activate ‹_› (undisturbed rfl)
    | _ => exact ⟨rfl, inv.held, inv.apart, nofun, nofun, inv.logged⟩
  case refresh i intent runtime =>
    split at taken <;> cases taken
    split
    · exact inv.activate ‹_› (undisturbed ‹_›)
    · exact inv
  case finish i =>
    cases taken
    exact inv.finish i

end

omit [DecidableEq Task] in
theorem pauseInv_initial (userAccessible : Bool) :
    PauseInv tasks (initial userAccessible : PauseState Task) := by
  refine ⟨?_, nofun, nofun, nofun, nofun, nofun⟩
  cases userAccessible <;> rfl

/-- In a run in which the handoff is activated at such moments only, no command starts while a
human is in control unless it is allowed then. -/
theorem no_automation_during_handoff (tasks : Task → GatedTask) (userAccessible : Bool)
    (actions : List (PauseAction Task)) {final : PauseState Task}
    (undisturbed : (system tasks userAccessible).Along Undisturbed (initial userAccessible) actions)
    (run : (system tasks userAccessible).runFrom (initial userAccessible) actions = some final) :
    ∀ start ∈ final.started, start.2 = true → commandAllowedDuringHandoff start.1 = true :=
  ((system tasks userAccessible).runFrom_preserves_along
    (fun _ _ _ inv calm taken => PauseInv.step inv calm taken)
    (pauseInv_initial userAccessible) undisturbed run).logged

/-- A click, and a pipe of two. -/
def clickTask : GatedTask := ⟨.request, "click", false, .done, rfl⟩

def pipeTask : GatedTask :=
  ⟨.request, "pipe", false,
    .next .fenced "click" .done (.next .fenced "click" .done .done), rfl⟩

def verificationShown : InterferenceRuntimeInfo :=
  ⟨some .humanVerificationRequired, ["safe_recovery", "handoff_escalation"]⟩

def clickThenPipe (second : Bool) : GatedTask := if second then pipeTask else clickTask

/-- The refresh after the first click of a pipe begins the pause, and the pipe clicks again. -/
theorem pipe_clicks_during_handoff :
    ∃ final, (system clickThenPipe true).runFrom (initial true)
        [.prepare true, .acquire true, .start true, .nested true,
          .refresh true .policyDriven verificationShown, .nested true] = some final ∧
      final.started = [("pipe", false), ("click", false), ("click", true)] ∧
      commandAllowedDuringHandoff "click" = false :=
  ⟨_, rfl, rfl, rfl⟩

/-- After a click that begins the pause, a pipe that waited for the gate is refused. -/
def refusedPipe : List (PauseAction Bool) :=
  [.prepare false, .prepare true, .acquire false, .start false,
    .refresh false .policyDriven verificationShown, .finish false, .acquire true]

theorem pipe_refused_during_handoff :
    ∃ final, (system clickThenPipe true).runFrom (initial true) refusedPipe = some final ∧
      final.humanInControl = true ∧ final.started = [("click", false)] ∧
      ∀ start ∈ final.started, start.2 = true → commandAllowedDuringHandoff start.1 = true :=
  ⟨_, rfl, rfl, rfl,
    no_automation_during_handoff clickThenPipe true refusedPipe (by decide) rfl⟩

end PauseState

end Rub
