import Rub.SnapshotCache
import Rub.TriggerRuntime

/-!
The `takeover resume` command. The handoff and the takeover runtime stand behind locks of their
own, and the command changes them in steps that it can be cut off between. A run is kept as the
list of these steps: a command that was cancelled has taken some first ones of them.
-/

namespace Rub

inductive HumanVerificationHandoffStatus where
  | available | active | completed | unavailable

structure HumanVerificationHandoffInfo where
  status : HumanVerificationHandoffStatus
  automationPaused : Bool
  resumeSupported : Bool
  unavailableReason : Option String

namespace HumanVerificationHandoffInfo

def activate (handoff : HumanVerificationHandoffInfo) : HumanVerificationHandoffInfo :=
  { handoff with status := .active, automationPaused := true, unavailableReason := none }

def complete : HumanVerificationHandoffInfo :=
  { status := .completed, automationPaused := false, resumeSupported := true,
    unavailableReason := none }

end HumanVerificationHandoffInfo

inductive ConnectionTarget where
  | cdpUrl | autoDiscovered | profile | managed

structure LaunchPolicyInfo where
  headless : Bool
  connectionTarget : Option ConnectionTarget

def LaunchPolicyInfo.isExternal (policy : LaunchPolicyInfo) : Bool :=
  match policy.connectionTarget with
  | some .cdpUrl | some .autoDiscovered => true
  | _ => false

def sessionIsUserAccessible (policy : LaunchPolicyInfo) : Bool :=
  policy.isExternal || !policy.headless

def sessionSupportsElevation (policy : LaunchPolicyInfo) : Bool :=
  !sessionIsUserAccessible policy && !policy.isExternal

inductive TakeoverRuntimeStatus where
  | unavailable | available | active | degraded

inductive TakeoverTransitionKind where
  | start | resume | elevate

inductive TakeoverTransitionResult where
  | succeeded | rejected

structure TakeoverTransitionInfo where
  kind : TakeoverTransitionKind
  result : TakeoverTransitionResult
  reason : Option String

structure TakeoverRuntimeInfo where
  status : TakeoverRuntimeStatus
  resumeSupported : Bool
  automationPaused : Bool
  unavailableReason : Option String
  lastTransition : Option TakeoverTransitionInfo

structure TakeoverRuntimeState where
  projection : TakeoverRuntimeInfo
  degradedReason : Option String

namespace TakeoverRuntimeState

def liveStatus (policy : LaunchPolicyInfo) (handoff : HumanVerificationHandoffInfo) :
    TakeoverRuntimeStatus × Option String :=
  if sessionIsUserAccessible policy then
    match handoff.status with
    | .active => (.active, none)
    | .available | .completed => (.available, none)
    | .unavailable => (.degraded, some "handoff_unavailable")
  else
    (.unavailable, some (if sessionSupportsElevation policy then "elevation_required"
      else "automation_only_session"))

/-- A reason to be degraded overrides the status that the handoff and the launch policy give. -/
def refresh (takeover : TakeoverRuntimeState) (policy : LaunchPolicyInfo)
    (handoff : HumanVerificationHandoffInfo) : TakeoverRuntimeState :=
  let live := liveStatus policy handoff
  { takeover with
    projection :=
      { status := if takeover.degradedReason.isSome then .degraded else live.1
        resumeSupported := handoff.resumeSupported && sessionIsUserAccessible policy
        automationPaused := handoff.automationPaused
        unavailableReason := takeover.degradedReason.or live.2
        lastTransition := takeover.projection.lastTransition } }

def recordTransition (takeover : TakeoverRuntimeState) (transition : TakeoverTransitionInfo) :
    TakeoverRuntimeState :=
  { takeover with projection := { takeover.projection with lastTransition := some transition } }

def markDegraded (takeover : TakeoverRuntimeState) (reason : String) : TakeoverRuntimeState :=
  { degradedReason := some reason
    projection :=
      { takeover.projection with status := .degraded, unavailableReason := some reason } }

def clearDegraded (takeover : TakeoverRuntimeState) : TakeoverRuntimeState :=
  { takeover with degradedReason := none }

end TakeoverRuntimeState

structure TakeoverSession where
  handoff : HumanVerificationHandoffInfo
  takeover : TakeoverRuntimeState

/-- A change of one of the two runtimes, under its lock. -/
inductive ResumeStep where
  | completeHandoff | activateHandoff
  | refreshTakeoverRuntime (policy : LaunchPolicyInfo)
  | recordTransition (result : TakeoverTransitionResult) (reason : Option String)
  | markDegraded (reason : String)
  | clearDegraded

namespace TakeoverSession

def apply (session : TakeoverSession) : ResumeStep → TakeoverSession
  | .completeHandoff => { session with handoff := .complete }
  | .activateHandoff => { session with handoff := session.handoff.activate }
  | .refreshTakeoverRuntime policy =>
    { session with takeover := session.takeover.refresh policy session.handoff }
  | .recordTransition result reason =>
    { session with takeover := session.takeover.recordTransition ⟨.resume, result, reason⟩ }
  | .markDegraded reason => { session with takeover := session.takeover.markDegraded reason }
  | .clearDegraded => { session with takeover := session.takeover.clearDegraded }

def after (session : TakeoverSession) (steps : List ResumeStep) : TakeoverSession :=
  steps.foldl apply session

/-- The takeover runtime says, now and after every refresh, that it cannot be relied on. -/
structure MarkedDegraded (session : TakeoverSession) : Prop where
  overridden : session.takeover.degradedReason.isSome = true
  shown : session.takeover.projection.status = .degraded

end TakeoverSession

inductive ReadinessStatus where
  | inactive | active | degraded

inductive IntegrationRuntimeStatus where
  | inactive | active | degraded | unsupported

inductive IntegrationSurface where
  | requestRules | runtimeObservatory | stateInspector | readiness | humanVerificationHandoff

structure IntegrationRuntimeInfo where
  status : IntegrationRuntimeStatus
  degradedSurfaces : List IntegrationSurface

/-- What the command is told from outside: the tabs or an error, the runtimes that the refresh
leaves behind, and the launch policy each time it is asked for. -/
structure ResumeProbes where
  tabs : Except String (List TabInfo)
  frameRuntime : FrameRuntimeInfo
  readiness : ReadinessStatus
  integration : IntegrationRuntimeInfo
  resumedPolicy : LaunchPolicyInfo
  probedPolicy : LaunchPolicyInfo
  confirmedPolicy : LaunchPolicyInfo
  repausedPolicy : LaunchPolicyInfo

def FrameRuntimeInfo.isUnavailable (runtime : FrameRuntimeInfo) : Bool :=
  runtime.currentFrame.isNone ||
    match runtime.status with
    | .unknown | .stale | .degraded => true
    | .top | .child => false

def IntegrationSurface.isRequiredForTakeover : IntegrationSurface → Bool
  | .requestRules | .runtimeObservatory => true
  | _ => false

def IntegrationRuntimeInfo.isUnavailable (runtime : IntegrationRuntimeInfo) : Bool :=
  match runtime.status with
  | .degraded => runtime.degradedSurfaces.any (·.isRequiredForTakeover)
  | _ => false

/-- The reason and the message of a failed check. -/
def takeoverContinuityFailure (activeTab : Bool) (frameRuntime : FrameRuntimeInfo)
    (readiness : ReadinessStatus) (integration : IntegrationRuntimeInfo) :
    Option (String × String) :=
  if !activeTab then
    some ("continuity_no_active_tab", "No active tab remained after takeover transition")
  else if frameRuntime.isUnavailable then
    some ("continuity_frame_unavailable",
      "Frame context became unavailable after takeover transition")
  else if readiness matches .degraded then
    some ("continuity_readiness_degraded", "Readiness surface degraded after takeover transition")
  else if integration.isUnavailable then
    some ("continuity_runtime_degraded", "Integration runtime degraded after takeover transition")
  else none

def ResumeProbes.continuityFailure (probes : ResumeProbes) : Option (String × String) :=
  match probes.tabs with
  | .error _ => some ("continuity_runtime_refresh_unavailable",
      "Takeover continuity fence failed because runtime refresh authority is currently unavailable")
  | .ok tabs => takeoverContinuityFailure (tabs.any (·.active)) probes.frameRuntime
      probes.readiness probes.integration

def verifyTakeoverContinuity (probes : ResumeProbes) : List ResumeStep :=
  .refreshTakeoverRuntime probes.probedPolicy ::
    match probes.continuityFailure with
    | some (reason, _) => [.markDegraded reason]
    | none => [.clearDegraded, .refreshTakeoverRuntime probes.confirmedPolicy]

structure ResumeRun where
  steps : List ResumeStep
  result : Except ErrorEnvelope Unit

def ResumeAdmitted (session : TakeoverSession) : Prop :=
  session.takeover.projection.automationPaused = true ∧
    session.takeover.projection.resumeSupported = true

instance (session : TakeoverSession) : Decidable (ResumeAdmitted session) :=
  inferInstanceAs (Decidable (_ ∧ _))

def resumeRefusal (current : TakeoverRuntimeInfo) : Option String :=
  if current.resumeSupported then some "takeover_not_active"
  else current.unavailableReason.or (some "resume_not_supported")

def takeoverResumeRepausedError (session : TakeoverSession) : Option ErrorEnvelope :=
  if !session.takeover.projection.automationPaused && !session.handoff.automationPaused then none
  else some (ErrorEnvelope.new .automationPaused
    ("Session takeover resumed briefly but policy-driven handoff immediately " ++
      "re-paused automation"))

/-- The steps until the check has answered. -/
def resumeSteps (probes : ResumeProbes) : List ResumeStep :=
  [.markDegraded "resume_continuity_unconfirmed", .completeHandoff,
    .recordTransition .succeeded none, .refreshTakeoverRuntime probes.resumedPolicy] ++
      verifyTakeoverContinuity probes

def executeResume (probes : ResumeProbes) (session : TakeoverSession) : ResumeRun :=
  if ResumeAdmitted session then
    match probes.continuityFailure with
    | some (_, message) =>
      { steps := resumeSteps probes ++
          [.activateHandoff, .refreshTakeoverRuntime probes.repausedPolicy,
            .recordTransition .rejected (some "continuity_fence_failed")]
        result := .error (ErrorEnvelope.new .sessionBusy message) }
    | none =>
      match takeoverResumeRepausedError (session.after (resumeSteps probes)) with
      | some error =>
        { steps := resumeSteps probes ++
            [.recordTransition .rejected (some "automation_repaused_by_policy")]
          result := .error error }
      | none => { steps := resumeSteps probes, result := .ok () }
  else
    { steps := [.recordTransition .rejected (resumeRefusal session.takeover.projection)]
      result := .error (ErrorEnvelope.new .invalidInput
        "Session takeover resume is unavailable for this session") }

variable {probes : ResumeProbes} {session : TakeoverSession}

theorem TakeoverSession.MarkedDegraded.apply (marked : session.MarkedDegraded) {step : ResumeStep}
    (kept : step ≠ .clearDegraded) : (session.apply step).MarkedDegraded := by
  cases step with
  | completeHandoff | activateHandoff | recordTransition => exact ⟨marked.overridden, marked.shown⟩
  | refreshTakeoverRuntime => exact ⟨marked.overridden, if_pos marked.overridden⟩
  | markDegraded => exact ⟨rfl, rfl⟩
  | clearDegraded => exact absurd rfl kept

theorem TakeoverSession.MarkedDegraded.after {steps : List ResumeStep}
    (marked : session.MarkedDegraded) (kept : .clearDegraded ∉ steps) :
    (session.after steps).MarkedDegraded := by
  induction steps generalizing session with
  | nil => exact marked
  | cons _ _ ih =>
    rw [List.mem_cons, not_or] at kept
    exact ih (marked.apply (Ne.symm kept.1)) kept.2

/-- An admitted command marks the runtime before it does anything else. -/
theorem executeResume_marks_first (admitted : ResumeAdmitted session) :
    ∃ later, (executeResume probes session).steps =
      .markDegraded "resume_continuity_unconfirmed" :: later := by
  unfold executeResume
  rw [if_pos admitted]
  split
  · exact ⟨_, rfl⟩
  · split <;> exact ⟨_, rfl⟩

theorem markedDegraded_of_cut (admitted : ResumeAdmitted session) {cut : List ResumeStep}
    (taken : cut <+: (executeResume probes session).steps) (unpaused : .completeHandoff ∈ cut) :
    (session.after cut).MarkedDegraded ∨
      probes.continuityFailure = none ∧ .clearDegraded ∈ cut := by
  by_cases cleared : .clearDegraded ∈ cut
  · cases checked : probes.continuityFailure with
    | none => exact .inr ⟨rfl, cleared⟩
    | some =>
      have marked := taken.subset cleared
      unfold executeResume at marked
      split at marked <;> simp [checked, resumeSteps, verifyTakeoverContinuity] at marked
  · obtain ⟨later, marks⟩ := executeResume_marks_first admitted
    rw [marks] at taken
    obtain ⟨first, rest, rfl⟩ := List.exists_cons_of_ne_nil (List.ne_nil_of_mem unpaused)
    obtain ⟨rfl, _⟩ := List.cons_prefix_cons.mp taken
    have marked : (session.apply (.markDegraded "resume_continuity_unconfirmed")).MarkedDegraded :=
      ⟨rfl, rfl⟩
    exact .inl (marked.after fun member => cleared (List.mem_cons_of_mem _ member))

theorem unpaused_of_success (succeeded : (executeResume probes session).result = .ok ()) :
    probes.continuityFailure = none ∧ (executeResume probes session).steps = resumeSteps probes ∧
      takeoverResumeRepausedError (session.after (resumeSteps probes)) = none := by
  unfold executeResume at succeeded ⊢
  by_cases admitted : ResumeAdmitted session
  · cases checked : probes.continuityFailure with
    | some => simp [admitted, checked] at succeeded
    | none =>
      cases repaused : takeoverResumeRepausedError (session.after (resumeSteps probes)) with
      | some => simp [admitted, checked, repaused] at succeeded
      | none => simp [admitted]
  · simp [admitted] at succeeded

/-- An unconfirmed resume is never taken for a confirmed one, wherever the command is cut off. -/
theorem takeover_resume_confirmed (admitted : ResumeAdmitted session) :
    let run := executeResume probes session
    let final := session.after run.steps
    (∀ cut, cut <+: run.steps → .completeHandoff ∈ cut →
      (session.after cut).MarkedDegraded ∨
        probes.continuityFailure = none ∧ .clearDegraded ∈ cut) ∧
    (probes.continuityFailure.isSome = true →
      final.handoff.automationPaused = true ∧
        final.takeover.projection.automationPaused = true ∧
          ∃ reason, final.takeover.projection.lastTransition =
            some ⟨.resume, .rejected, reason⟩) ∧
    (run.result = .ok () → probes.continuityFailure = none ∧
      final.handoff.automationPaused = false ∧
        final.takeover.projection.automationPaused = false) ∧
    (probes.continuityFailure = none → final.takeover.degradedReason = none) := by
  refine ⟨fun cut taken unpaused => markedDegraded_of_cut admitted taken unpaused, ?_, ?_, ?_⟩
  · intro failed
    obtain ⟨failure, checked⟩ := Option.isSome_iff_exists.mp failed
    simp only [executeResume, if_pos admitted, checked, TakeoverSession.after, List.foldl_append]
    exact ⟨rfl, rfl, _, rfl⟩
  · intro succeeded
    obtain ⟨checked, steps, quiet⟩ := unpaused_of_success succeeded
    simp only [takeoverResumeRepausedError, ite_eq_left_iff, Bool.and_eq_true, Bool.not_eq_true',
      reduceCtorEq, imp_false, not_not] at quiet
    rw [steps]
    exact ⟨checked, quiet.2, quiet.1⟩
  · intro checked
    simp only [executeResume, if_pos admitted, checked]
    split <;> simp only [resumeSteps, verifyTakeoverContinuity, checked] <;> rfl

/-- The human is done and the page is as it was. -/
theorem quiet_resume_confirmed :
    ∃ (probes : ResumeProbes) (session : TakeoverSession), ResumeAdmitted session ∧
      (executeResume probes session).result = .ok () ∧
        (session.after (executeResume probes session).steps).handoff.automationPaused = false := by
  let policy : LaunchPolicyInfo := ⟨false, some .managed⟩
  let handoff : HumanVerificationHandoffInfo := HumanVerificationHandoffInfo.complete.activate
  let session : TakeoverSession :=
    ⟨handoff, TakeoverRuntimeState.refresh ⟨⟨.available, true, false, none, none⟩, none⟩ policy
      handoff⟩
  let probes : ResumeProbes :=
    ⟨.ok [⟨0, "tab", "", "", true, none⟩], ⟨.top, some ⟨"main", none⟩⟩, .active, ⟨.active, []⟩,
      policy, policy, policy, policy⟩
  have admitted : ResumeAdmitted session := ⟨rfl, rfl⟩
  exact ⟨probes, session, admitted, rfl,
    ((takeover_resume_confirmed admitted).2.2.1 rfl).2.1⟩

end Rub
