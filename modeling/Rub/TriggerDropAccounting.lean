import Rub.TransitionSystem
import Rub.TriggerCondition

/-!
The ingress drops as one armed network trigger accounts for them. An evaluation reads the
request window and then the drop counter again, and the second reading is what is committed;
drops and requests come at any point in between.
-/

namespace Rub

/-- One finished evaluation: the drop count it started from, the one it leaves to be
committed, and whether it was reported authoritative. -/
structure DropEvaluation where
  before : Nat
  observed : Nat
  authoritative : Bool
deriving DecidableEq

inductive EvaluationPhase where
  | waiting
  | counting (window : NetworkRequestWindow)
  | judged (condition : Except ErrorEnvelope TriggerConditionState)

def EvaluationPhase.betweenReads : EvaluationPhase → Bool
  | .counting _ => true
  | _ => false

structure NetworkTriggerWatch where
  observatory : RuntimeObservatoryState
  ingressDropCount : Nat
  entry : TriggerWorkerEntry
  phase : EvaluationPhase
  /-- History: the evaluations, in order. -/
  evaluations : List DropEvaluation

inductive NetworkTriggerAction where
  | observe (action : ObservatoryAction)
  | dropIngress | readWindow | judgeWindow | commitProgress

namespace NetworkTriggerWatch

/-- The worker's entry of a trigger that was armed with the baseline. -/
def armed (trigger : TriggerInfo) (baseline : NetworkRequestBaseline)
    (observatory : RuntimeObservatoryState) (ingressDropCount : Nat) : NetworkTriggerWatch :=
  { observatory := observatory, ingressDropCount := ingressDropCount,
    entry := .create trigger (some baseline), phase := .waiting, evaluations := [] }

/-- An evaluation whose baseline is missing fails before its first read. -/
def begin (state : NetworkTriggerWatch) : NetworkTriggerWatch :=
  if state.entry.networkCursorPrimed then
    { state with
      phase := .counting
        (readNetworkWindow state.observatory state.ingressDropCount state.entry) }
  else
    { state with
      phase := .judged (.error (baselineMissingError state.entry))
      evaluations := state.evaluations ++
        [⟨state.entry.observatoryDropCount, state.entry.observatoryDropCount, false⟩] }

def judge (trigger : TriggerInfo) (state : NetworkTriggerWatch) (window : NetworkRequestWindow) :
    NetworkTriggerWatch :=
  let judged := judgeNetworkWindow trigger window state.ingressDropCount state.entry
  { state with
    entry := judged.2
    phase := .judged judged.1
    evaluations := state.evaluations ++
      [⟨state.entry.observatoryDropCount, state.ingressDropCount, judged.1.isOk⟩] }

def commit (state : NetworkTriggerWatch) :
    Except ErrorEnvelope TriggerConditionState → NetworkTriggerWatch
  | .ok condition =>
    { state with
      entry := commitTriggerNetworkProgress state.entry condition.networkProgress
      phase := .waiting }
  | .error _ => { state with phase := .waiting }

def step (trigger : TriggerInfo) (state : NetworkTriggerWatch) :
    NetworkTriggerAction → Option NetworkTriggerWatch
  | .observe action => some { state with observatory := state.observatory.act action }
  | .dropIngress => some { state with ingressDropCount := state.ingressDropCount + 1 }
  | .readWindow =>
    match state.phase with
    | .waiting => some state.begin
    | _ => none
  | .judgeWindow =>
    match state.phase with
    | .counting window => some (state.judge trigger window)
    | _ => none
  | .commitProgress =>
    match state.phase with
    | .judged condition => some (state.commit condition)
    | _ => none

def system (trigger : TriggerInfo) (start : NetworkTriggerWatch) :
    TransitionSystem NetworkTriggerWatch NetworkTriggerAction :=
  { initial := start, step := step trigger }

def dropsBetweenReads (state : NetworkTriggerWatch) : NetworkTriggerAction → Bool
  | .dropIngress => state.phase.betweenReads
  | _ => false

/-- No drop falls between the two reads of an evaluation. -/
def QuietRead (state : NetworkTriggerWatch) (action : NetworkTriggerAction) : Prop :=
  state.dropsBetweenReads action = false

instance (state : NetworkTriggerWatch) (action : NetworkTriggerAction) :
    Decidable (QuietRead state action) :=
  inferInstanceAs (Decidable (_ = _))

variable (trigger : TriggerInfo) (window : NetworkRequestWindow) (ingressDropCount : Nat)
  (entry : TriggerWorkerEntry)

variable {ingressDropCount entry} in
/-- A window read behind an uncounted drop is not authoritative. -/
theorem readNetworkWindow_of_dropped (observatory : RuntimeObservatoryState)
    (uncounted : entry.observatoryDropCount < ingressDropCount) :
    (readNetworkWindow observatory ingressDropCount entry).authoritative = false := by
  show (observatory.requestWindowDegradedReason ..).isNone = false
  unfold RuntimeObservatoryState.requestWindowDegradedReason
  by_cases evicted : entry.networkCursor < observatory.lastEvictedRequestSequence
  · rw [if_pos evicted]
    rfl
  · rw [if_neg evicted, if_pos uncounted]
    rfl

/-- What an evaluation leaves: an authoritative one its progress, which carries the second
reading of the counter, another one that reading in the entry itself. -/
theorem judgeNetworkWindow_counts : (window.authoritative = true ∧
      ∃ condition, judgeNetworkWindow trigger window ingressDropCount entry =
          (.ok condition, entry) ∧
        condition.networkProgress = some ⟨window.nextCursor, ingressDropCount⟩) ∨
    (window.authoritative = false ∧
      ∃ error moved, judgeNetworkWindow trigger window ingressDropCount entry =
          (.error error, moved) ∧
        moved.observatoryDropCount = ingressDropCount) := by
  unfold judgeNetworkWindow
  cases window.authoritative with
  | false => exact .inr ⟨rfl, _, _, rfl, rfl⟩
  | true =>
    refine .inl ⟨rfl, _, rfl, ?_⟩
    unfold triggerConditionState
    split <;> rfl

/-- The drop is among those that an evaluation reported. -/
def Reported (evaluations : List DropEvaluation) (drop : Nat) : Prop :=
  ∃ evaluation ∈ evaluations, evaluation.authoritative = false ∧ evaluation.before < drop ∧
    drop ≤ evaluation.observed

variable {evaluations : List DropEvaluation}

theorem Reported.append {drop : Nat}
    (reported : Reported evaluations drop) (evaluation : DropEvaluation) :
    Reported (evaluations ++ [evaluation]) drop := by
  obtain ⟨earlier, member, rest⟩ := reported
  exact ⟨earlier, List.mem_append_left _ member, rest⟩

/-- What an evaluation under way still owes to the count of the entry. -/
def Settled (state : NetworkTriggerWatch) : EvaluationPhase → Prop
  | .waiting => True
  | .counting window =>
    window.authoritative = true → state.ingressDropCount = state.entry.observatoryDropCount
  | .judged (.ok condition) =>
    ∀ progress, condition.networkProgress = some progress →
      progress.observedDropCount = state.entry.observatoryDropCount
  | .judged (.error _) => True

structure Accounted (armedCount : Nat) (state : NetworkTriggerWatch) : Prop where
  bounded : state.entry.observatoryDropCount ≤ state.ingressDropCount
  settled : state.Settled state.phase
  unabsorbed : ∀ evaluation ∈ state.evaluations, evaluation.authoritative = true →
    evaluation.observed = evaluation.before
  reported : ∀ drop, armedCount < drop → drop ≤ state.entry.observatoryDropCount →
    Reported state.evaluations drop

variable {trigger : TriggerInfo} {armedCount : Nat} {state next : NetworkTriggerWatch}
  {action : NetworkTriggerAction}

theorem unabsorbed_append {latest : DropEvaluation}
    (earlier : ∀ evaluation ∈ evaluations, evaluation.authoritative = true →
      evaluation.observed = evaluation.before)
    (last : latest.authoritative = true → latest.observed = latest.before) :
    ∀ evaluation ∈ evaluations ++ [latest], evaluation.authoritative = true →
      evaluation.observed = evaluation.before := by
  intro evaluation member authoritative
  rcases List.mem_append.mp member with older | new
  · exact earlier evaluation older authoritative
  · obtain rfl := List.mem_singleton.mp new
    exact last authoritative

section

variable (accounted : Accounted armedCount state)

include accounted

open NetworkTriggerWatch

theorem Accounted.begin : Accounted armedCount state.begin := by
  unfold NetworkTriggerWatch.begin
  split
  · refine ⟨accounted.bounded, fun authoritative => ?_, accounted.unabsorbed, accounted.reported⟩
    -- an uncounted drop would have spoiled the window
    have counted : ¬ state.entry.observatoryDropCount < state.ingressDropCount := by
      intro uncounted
      rw [readNetworkWindow_of_dropped state.observatory uncounted] at authoritative
      cases authoritative
    have bounded := accounted.bounded
    show state.ingressDropCount = state.entry.observatoryDropCount
    omega
  · exact ⟨accounted.bounded, trivial, unabsorbed_append accounted.unabsorbed (fun _ => rfl),
      fun drop fresh counted => (accounted.reported drop fresh counted).append _⟩

theorem Accounted.judge
    {window : NetworkRequestWindow} (counting : state.phase = .counting window) :
    Accounted armedCount (state.judge trigger window) := by
  have owed := accounted.settled
  rw [counting] at owed
  unfold NetworkTriggerWatch.judge
  rcases judgeNetworkWindow_counts trigger window state.ingressDropCount state.entry with
    ⟨authoritative, condition, judged, progress⟩ | ⟨dropped, error, moved, judged, counts⟩
  · -- the second reading is the one the window was read under
    have same := owed authoritative
    rw [judged]
    refine ⟨accounted.bounded, fun left found => ?_,
      unabsorbed_append accounted.unabsorbed (fun _ => same),
      fun drop fresh counted => (accounted.reported drop fresh counted).append _⟩
    rw [progress] at found
    cases found
    exact same
  · rw [judged]
    refine ⟨Nat.le_of_eq counts, trivial,
      unabsorbed_append accounted.unabsorbed (fun reported => nomatch reported),
      fun drop fresh counted => ?_⟩
    by_cases old : drop ≤ state.entry.observatoryDropCount
    · exact (accounted.reported drop fresh old).append _
    · have seen : drop ≤ state.ingressDropCount := counts ▸ counted
      exact ⟨_, List.mem_append_right _ (List.mem_singleton_self _), rfl, Nat.lt_of_not_le old,
        seen⟩

theorem Accounted.commit {condition : Except ErrorEnvelope TriggerConditionState}
    (judged : state.phase = .judged condition) :
    Accounted armedCount (state.commit condition) := by
  have owed := accounted.settled
  rw [judged] at owed
  cases condition with
  | error =>
    exact ⟨accounted.bounded, trivial, accounted.unabsorbed, accounted.reported⟩
  | ok condition =>
    have kept : (commitTriggerNetworkProgress state.entry
        condition.networkProgress).observatoryDropCount = state.entry.observatoryDropCount := by
      cases left : condition.networkProgress with
      | none => rfl
      | some progress => exact owed progress left
    refine ⟨?_, trivial, accounted.unabsorbed, fun drop fresh counted => ?_⟩
    · show (commitTriggerNetworkProgress state.entry _).observatoryDropCount ≤ _
      rw [kept]
      exact accounted.bounded
    · exact accounted.reported drop fresh (kept ▸ counted)

theorem Accounted.step
    (quiet : QuietRead state action) (taken : state.step trigger action = some next) :
    Accounted armedCount next := by
  cases action with
  | observe =>
    cases taken
    exact ⟨accounted.bounded, accounted.settled, accounted.unabsorbed, accounted.reported⟩
  | dropIngress =>
    cases taken
    refine ⟨Nat.le_succ_of_le accounted.bounded, ?_, accounted.unabsorbed, accounted.reported⟩
    -- an evaluation between its reads is excluded, and no other one depends on the counter
    have owed := accounted.settled
    show NetworkTriggerWatch.Settled _ state.phase
    cases phase : state.phase with
    | waiting => trivial
    | counting =>
      simp [QuietRead, dropsBetweenReads, phase, EvaluationPhase.betweenReads] at quiet
    | judged condition =>
      rw [phase] at owed
      cases condition with
      | error => trivial
      | ok => exact owed
  | readWindow =>
    simp only [step] at taken
    split at taken <;> cases taken
    exact accounted.begin
  | judgeWindow =>
    simp only [step] at taken
    split at taken <;> cases taken
    exact accounted.judge ‹_›
  | commitProgress =>
    simp only [step] at taken
    split at taken <;> cases taken
    exact accounted.commit ‹_›

end

theorem accounted_armed (trigger : TriggerInfo) (baseline : NetworkRequestBaseline)
    (observatory : RuntimeObservatoryState) {ingressDropCount : Nat}
    (counted : baseline.observedIngressDropCount ≤ ingressDropCount) :
    Accounted baseline.observedIngressDropCount
      (armed trigger baseline observatory ingressDropCount) := by
  refine ⟨counted, trivial, (fun _ member => nomatch member), fun drop fresh counted => ?_⟩
  have older : drop ≤ baseline.observedIngressDropCount := counted
  omega

/-- Over a run in which no drop falls between the two reads of an evaluation, every drop since
the arming that is counted by now was counted by an evaluation reported as not authoritative;
no authoritative evaluation counted one; and a drop that is not counted yet spoils the next
evaluation. -/
theorem lost_network_evidence_noticed {baseline : NetworkRequestBaseline}
    {observatory : RuntimeObservatoryState} {ingressDropCount : Nat}
    {actions : List NetworkTriggerAction}
    (counted : baseline.observedIngressDropCount ≤ ingressDropCount)
    (quiet : (system trigger (armed trigger baseline observatory ingressDropCount)).Along QuietRead
      (armed trigger baseline observatory ingressDropCount) actions)
    (run : (system trigger (armed trigger baseline observatory ingressDropCount)).runFrom
      (armed trigger baseline observatory ingressDropCount) actions = some state) :
    (∀ drop, baseline.observedIngressDropCount < drop →
      drop ≤ state.entry.observatoryDropCount → Reported state.evaluations drop) ∧
    (∀ evaluation ∈ state.evaluations, evaluation.authoritative = true →
      evaluation.observed = evaluation.before) ∧
    (state.entry.observatoryDropCount < state.ingressDropCount →
      (readNetworkWindow state.observatory state.ingressDropCount state.entry).authoritative =
        false) := by
  have accounted : Accounted baseline.observedIngressDropCount state :=
    (system trigger (armed trigger baseline observatory ingressDropCount)).runFrom_preserves_along
      (fun _ _ _ accounted quiet taken => accounted.step quiet taken)
      (accounted_armed trigger baseline observatory counted) quiet run
  exact ⟨accounted.reported, accounted.unabsorbed,
    fun uncounted => readNetworkWindow_of_dropped state.observatory uncounted⟩

def requestTrigger : TriggerInfo :=
  .onFirstTab 1 .networkRequest (some "/api") "reload"

def freshBaseline : NetworkRequestBaseline :=
  { cursor := 0, observedIngressDropCount := 0, primed := true }

def freshWatch : NetworkTriggerWatch := armed requestTrigger freshBaseline .default 0

def watchAfter (actions : List NetworkTriggerAction) : NetworkTriggerWatch :=
  ((system requestTrigger freshWatch).runFrom freshWatch actions).getD freshWatch

/-- A drop before an evaluation, and one between that evaluation and its commit. -/
def quietRun : List NetworkTriggerAction :=
  [.dropIngress, .readWindow, .judgeWindow, .dropIngress, .commitProgress]

theorem quiet_drop_reported :
    (watchAfter quietRun).entry.observatoryDropCount = 1 ∧
      Reported (watchAfter quietRun).evaluations 1 ∧
      (readNetworkWindow (watchAfter quietRun).observatory
        (watchAfter quietRun).ingressDropCount (watchAfter quietRun).entry).authoritative =
          false := by
  have noticed := lost_network_evidence_noticed (Nat.le_refl 0)
    (show (system requestTrigger freshWatch).Along QuietRead freshWatch quietRun by decide)
    (show (system requestTrigger freshWatch).runFrom freshWatch quietRun =
      some (watchAfter quietRun) by rfl)
  exact ⟨by rfl, noticed.1 1 (by decide) (by decide), noticed.2.2 (by decide)⟩

/-- A drop between the two reads of an evaluation is committed by that evaluation, which was
reported authoritative; the next one is authoritative again. -/
theorem drop_between_reads_absorbed :
    ∃ state, (system requestTrigger freshWatch).runFrom freshWatch
        [.readWindow, .dropIngress, .judgeWindow, .commitProgress] = some state ∧
      state.ingressDropCount = 1 ∧ state.entry.observatoryDropCount = 1 ∧
      state.evaluations = [⟨0, 1, true⟩] ∧ ¬ Reported state.evaluations 1 ∧
      (readNetworkWindow state.observatory state.ingressDropCount state.entry).authoritative =
        true := by
  refine ⟨_, rfl, rfl, rfl, rfl, ?_, rfl⟩
  rintro ⟨evaluation, member, reported, -⟩
  obtain rfl := List.mem_singleton.mp member
  cases reported

end NetworkTriggerWatch

end Rub
