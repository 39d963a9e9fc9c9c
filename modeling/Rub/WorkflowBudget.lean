import Mathlib.Algebra.Order.BigOperators.Group.List
import Rub.DeadlineProjection

/-!
The time the command line client adds to a request for a fill or a pipe workflow, against the
time that the workflow declares. All sums stay below the largest number of milliseconds, so
the additions that saturate there are additions.
-/

namespace Rub

open Json List

inductive HumanizeSpeed where
  | fast | normal | slow
  deriving DecidableEq

namespace HumanizeSpeed

/-- `lower` is the lowercase form of a text. -/
def fromStrOpt (lower : String → String) (text : String) : Option HumanizeSpeed :=
  match lower text with
  | "fast" => some .fast
  | "normal" => some .normal
  | "slow" => some .slow
  | _ => none

def typingDelayMax : HumanizeSpeed → Nat
  | fast => 80
  | normal => 150
  | slow => 300

def mouseMoveDuration : HumanizeSpeed → Nat
  | fast => 100
  | normal => 250
  | slow => 500

def scrollDelayMax : HumanizeSpeed → Nat
  | fast => 50
  | normal => 100
  | slow => 200

end HumanizeSpeed

/-- The magnitude of a signed number of 64 bits. -/
def Json.unsignedAbs : Json → Option Nat
  | ⟨.number (.posInt value), _⟩ => if value < 2 ^ 63 then some value else none
  | ⟨.number (.negInt value), _⟩ => some (value + 1)
  | _ => none

/-- What a client is set to: whether interactions are humanized, and how fast. -/
structure HumanizeSetting where
  humanize : Bool
  humanizeSpeed : String

variable (lower : String → String) (setting : HumanizeSetting)

def humanizeBudgetMsForCommandArgs (command : String) (args : Json) : Nat :=
  if setting.humanize = false then 0
  else
    let speed := (HumanizeSpeed.fromStrOpt lower setting.humanizeSpeed).getD .normal
    match command with
    | "click" =>
      if (args.get "gesture").bind asStr = some "double" then speed.mouseMoveDuration + 800
      else speed.mouseMoveDuration + 500
    | "hover" => speed.mouseMoveDuration + 500
    | "scroll" =>
      let pixels :=
        (((args.get "amount").bind asU64).or ((args.get "y").bind unsignedAbs)).getD 600
      max (pixels / 80) 1 * speed.scrollDelayMax
    | "type" =>
      let textLen := (((args.get "text").bind asStr).map String.length).getD 0
      max speed.typingDelayMax 50 + textLen * speed.typingDelayMax
    | _ => 0

def waitAfterBudgetMsForArgs (args : Json) : Nat :=
  ((waitAfterMember args).map requestedWaitAfterMs).getD 0

def hasSubmit (args : Json) : Bool :=
  ["submit_index", "submit_selector", "submit_target_text", "submit_ref", "submit_role",
    "submit_label", "submit_testid"].any fun key => (args.get key).any fun value => !value.isNull

def fillWorkflowAdditionalTimeoutMs (spec : Json) (hasSubmit : Bool) : Nat :=
  match spec.asArray with
  | none => if hasSubmit then defaultWaitAfterTimeoutMs else 0
  | some steps =>
    (steps.map waitAfterBudgetMsForArgs).sum + if hasSubmit then defaultWaitAfterTimeoutMs else 0

/-- `nestedMs` is the time that a pipe in the arguments declares. -/
def commandAdditionalTimeoutMs (command : String) (args : Json) (nestedMs : Nat) : Nat :=
  waitAfterBudgetMsForArgs args +
    match command with
    | "wait" => ((args.get "timeout_ms").bind asU64).getD 0
    | "fill" =>
      ((args.get "spec").map fun spec =>
        fillWorkflowAdditionalTimeoutMs spec (hasSubmit args)).getD 0
    | "pipe" => nestedMs
    | _ => 0

def workflowSteps (spec : Json) : Option (List Json) :=
  spec.asArray.or ((spec.get "steps").bind asArray)

def stepCommand (step : Json) : String := ((step.get "command").bind asStr).getD ""

def stepArgs (step : Json) : Json := (step.get "args").getD null

theorem depth_of_step {spec step nested : Json} (member : step ∈ (workflowSteps spec).getD [])
    (found : (stepArgs step).get "spec" = some nested) : nested.depth < spec.depth := by
  have within : step.depth < spec.depth := by
    cases listed : workflowSteps spec with
    | none =>
      rw [listed] at member
      cases member
    | some steps =>
      rw [listed] at member
      rcases Option.or_eq_some_iff.mp listed with items | ⟨-, items⟩
      · exact depth_lt_of_mem items member
      · obtain ⟨held, under, items⟩ := Option.bind_eq_some_iff.mp items
        exact Nat.lt_trans (depth_lt_of_mem items member) (depth_lt_of_get under)
  unfold stepArgs at found
  cases args : step.get "args" with
  | none =>
    rw [args] at found
    cases found
  | some =>
    rw [args] at found
    exact Nat.lt_trans (Nat.lt_trans (depth_lt_of_get found) (depth_lt_of_get args)) within

def pipeWorkflowAdditionalTimeoutMs (spec : Json) : Nat :=
  (((workflowSteps spec).getD []).attach.map fun step =>
    commandAdditionalTimeoutMs (stepCommand step.1) (stepArgs step.1)
      (match _found : (stepArgs step.1).get "spec" with
      | some nested => pipeWorkflowAdditionalTimeoutMs nested
      | none => 0)).sum
termination_by spec.depth
decreasing_by exact depth_of_step step.2 _found

def atomicFillRollbackBudgetMs (spec : Json) : Nat :=
  ((spec.asArray.map List.length).filter fun count => 0 < count).getD 1 * 1000

/-- The humanized interaction of one step of a fill. -/
def fillStepHumanizeMs (step : Json) : Nat :=
  match (step.get "value").bind asStr with
  | some value =>
    humanizeBudgetMsForCommandArgs lower setting "type" (object [("text", string value)])
  | none =>
    if boolArg step "activate" then humanizeBudgetMsForCommandArgs lower setting "click" (object [])
    else 0

def fillWorkflowBudgetMs (spec : Json) (hasSubmit atomic : Bool) : Nat :=
  let click := humanizeBudgetMsForCommandArgs lower setting "click" (object [])
  match spec.asArray with
  | none =>
    humanizeBudgetMsForCommandArgs lower
      { setting with humanize := setting.humanize && hasSubmit } "click" (object [])
  | some steps =>
    let extra := fillWorkflowAdditionalTimeoutMs spec hasSubmit +
      (steps.map (fillStepHumanizeMs lower setting)).sum
    let extra := if hasSubmit then extra + click else extra
    if atomic then extra + atomicFillRollbackBudgetMs spec else extra

/-- The fill of a step, whether it submits and whether it is atomic. -/
def stepFill (step : Json) : Option (Json × Bool × Bool) :=
  (if stepCommand step = "fill" then (stepArgs step).get "spec" else none).map fun spec =>
    (spec, hasSubmit (stepArgs step), boolArg (stepArgs step) "atomic")

/-- One turn of the loop over the steps of a pipe. -/
def pipeStepBudgetMs (extra : Nat) (step : Json) : Nat :=
  let extra := extra +
    humanizeBudgetMsForCommandArgs lower setting (stepCommand step) (stepArgs step)
  match stepFill step with
  | some (spec, hasSubmit, atomic) =>
    extra + fillWorkflowBudgetMs lower setting spec hasSubmit atomic -
      fillWorkflowAdditionalTimeoutMs spec hasSubmit
  | none => extra

def pipeWorkflowBudgetMs (spec : Json) : Nat :=
  match workflowSteps spec with
  | none => 0
  | some steps =>
    steps.foldl (pipeStepBudgetMs lower setting) (pipeWorkflowAdditionalTimeoutMs spec)

/-- What a fill that does not list its steps declares, and is not budgeted for. -/
def lostFillMs (spec : Json) (hasSubmit : Bool) : Nat :=
  if spec.asArray.isSome then 0 else fillWorkflowAdditionalTimeoutMs spec hasSubmit

def lostMs (step : Json) : Nat :=
  match stepFill step with
  | some (spec, hasSubmit, _) => lostFillMs spec hasSubmit
  | none => 0

/-- What is added for a fill beyond the time it declares: the humanized click on what submits
it, and if it lists its steps, their humanized interactions and the time to roll them back. -/
def gainedFillMs (spec : Json) (hasSubmit atomic : Bool) : Nat :=
  (if hasSubmit then humanizeBudgetMsForCommandArgs lower setting "click" (object []) else 0) +
    match spec.asArray with
    | none => 0
    | some steps => (steps.map (fillStepHumanizeMs lower setting)).sum +
        if atomic then atomicFillRollbackBudgetMs spec else 0

def gainedMs (step : Json) : Nat :=
  humanizeBudgetMsForCommandArgs lower setting (stepCommand step) (stepArgs step) +
    match stepFill step with
    | some (spec, hasSubmit, atomic) => gainedFillMs lower setting spec hasSubmit atomic
    | none => 0

variable {lower setting}

theorem click_lt_default {humanized : HumanizeSetting} :
    humanizeBudgetMsForCommandArgs lower humanized "click" (object []) <
      defaultWaitAfterTimeoutMs := by
  unfold humanizeBudgetMsForCommandArgs
  split
  · decide
  · simp only
    generalize (HumanizeSpeed.fromStrOpt lower humanized.humanizeSpeed).getD .normal = speed
    cases speed <;> decide

theorem fillWorkflowBudgetMs_eq (spec : Json) (hasSubmit atomic : Bool) :
    fillWorkflowBudgetMs lower setting spec hasSubmit atomic + lostFillMs spec hasSubmit =
      fillWorkflowAdditionalTimeoutMs spec hasSubmit +
        gainedFillMs lower setting spec hasSubmit atomic := by
  unfold fillWorkflowBudgetMs lostFillMs gainedFillMs
  cases listed : spec.asArray with
  | some steps =>
    simp only [Option.isSome_some, if_true]
    split <;> split <;> omega
  | none => cases hasSubmit <;> simp [humanizeBudgetMsForCommandArgs, Nat.add_comm]

theorem fillBudget_of_listed {spec : Json} {steps : List Json} (listed : spec.asArray = some steps)
    (hasSubmit atomic : Bool) :
    fillWorkflowAdditionalTimeoutMs spec hasSubmit + (if atomic then 1000 * steps.length else 0) ≤
      fillWorkflowBudgetMs lower setting spec hasSubmit atomic := by
  have rollback : 1000 * steps.length ≤ atomicFillRollbackBudgetMs spec := by
    rw [atomicFillRollbackBudgetMs, listed, Option.map_some, Option.filter_some]
    split
    · rw [Option.getD_some, Nat.mul_comm]
    · simp_all
  have balance := @fillWorkflowBudgetMs_eq lower setting spec hasSubmit atomic
  simp only [lostFillMs, gainedFillMs, listed, Option.isSome_some, if_true] at balance
  cases atomic <;> simp only [Bool.false_eq_true, if_true, if_false] at balance ⊢ <;> omega

theorem pipeStepBudgetMs_eq {extra : Nat} {step : Json} (declared : lostMs step ≤ extra) :
    pipeStepBudgetMs lower setting extra step + lostMs step =
      extra + gainedMs lower setting step := by
  unfold lostMs at declared ⊢
  unfold pipeStepBudgetMs gainedMs
  cases fill : stepFill step with
  | none => simp
  | some found =>
    obtain ⟨spec, hasSubmit, atomic⟩ := found
    have balance := @fillWorkflowBudgetMs_eq lower setting spec hasSubmit atomic
    simp only [fill] at declared ⊢
    omega

theorem foldl_pipeStepBudgetMs {steps : List Json} {extra : Nat}
    (declared : (steps.map lostMs).sum ≤ extra) :
    steps.foldl (pipeStepBudgetMs lower setting) extra + (steps.map lostMs).sum =
      extra + (steps.map (gainedMs lower setting)).sum := by
  induction steps generalizing extra with
  | nil => rfl
  | cons step steps ih =>
    rw [map_cons, sum_cons] at declared
    have turn := @pipeStepBudgetMs_eq lower setting extra step (by omega)
    have rest := @ih (pipeStepBudgetMs lower setting extra step) (by omega)
    simp only [foldl_cons, map_cons, sum_cons]
    omega

theorem lostMs_le_additional (step : Json) (nestedMs : Nat) :
    lostMs step ≤ commandAdditionalTimeoutMs (stepCommand step) (stepArgs step) nestedMs := by
  unfold lostMs stepFill
  by_cases fill : stepCommand step = "fill"
  · cases found : (stepArgs step).get "spec" with
    | none => simp
    | some spec =>
      simp only [fill, if_true, found, commandAdditionalTimeoutMs, lostFillMs, Option.map_some,
        Option.getD_some]
      split <;> omega
  · simp [fill]

theorem lost_le_pipeAdditional (spec : Json) :
    (((workflowSteps spec).getD []).map lostMs).sum ≤ pipeWorkflowAdditionalTimeoutMs spec := by
  rw [pipeWorkflowAdditionalTimeoutMs]
  calc (((workflowSteps spec).getD []).map lostMs).sum
      = (((workflowSteps spec).getD []).attach.map fun step => lostMs step.1).sum := by
        rw [attach_map_val]
    _ ≤ _ := sum_le_sum fun step _ => lostMs_le_additional step.1 _

/-- A fill is given the time it declares, and a second for each step if it is atomic, exactly
if it lists its steps or submits nothing. A pipe is given the time it declares exactly if what
its fills lose that way is made up for by what is added elsewhere. -/
theorem workflow_budget_covers_iff (spec : Json) (hasSubmit atomic : Bool) :
    (fillWorkflowAdditionalTimeoutMs spec hasSubmit +
          (if atomic then 1000 * (spec.asArray.map List.length).getD 0 else 0) ≤
        fillWorkflowBudgetMs lower setting spec hasSubmit atomic ↔
      spec.asArray.isSome = true ∨ hasSubmit = false) ∧
    (pipeWorkflowAdditionalTimeoutMs spec ≤ pipeWorkflowBudgetMs lower setting spec ↔
      (((workflowSteps spec).getD []).map lostMs).sum ≤
        (((workflowSteps spec).getD []).map (gainedMs lower setting)).sum) := by
  constructor
  · cases listed : spec.asArray with
    | some steps =>
      have covered := @fillBudget_of_listed lower setting spec steps listed hasSubmit atomic
      simpa using covered
    | none =>
      have short := @click_lt_default lower
        { setting with humanize := setting.humanize && hasSubmit }
      unfold fillWorkflowAdditionalTimeoutMs fillWorkflowBudgetMs
      simp only [listed]
      cases hasSubmit with
      | false => simp
      | true => simpa using short
  · unfold pipeWorkflowBudgetMs
    cases listed : workflowSteps spec with
    | none =>
      have nothing : pipeWorkflowAdditionalTimeoutMs spec = 0 := by
        rw [pipeWorkflowAdditionalTimeoutMs, listed]
        rfl
      simp [nothing]
    | some steps =>
      have declared := lost_le_pipeAdditional spec
      rw [listed] at declared
      have balance := @foldl_pipeStepBudgetMs lower setting steps _ declared
      simp only [Option.getD_some]
      omega

/-- A fill whose spec is given as an object, alone and as the step of a pipe. -/
theorem unlisted_fill_budget_lost :
    let plain : HumanizeSetting := ⟨false, "normal"⟩
    let fill := object [("command", string "fill"),
      ("args", object [("spec", object []), ("submit_index", natural 0)])]
    fillWorkflowAdditionalTimeoutMs (object []) true = 5000 ∧
      fillWorkflowBudgetMs id plain (object []) true false = 0 ∧
      pipeWorkflowAdditionalTimeoutMs (array [fill]) = 5000 ∧
      pipeWorkflowBudgetMs id plain (array [fill]) = 0 := by
  refine ⟨rfl, rfl, ?_, ?_⟩
  · rw [pipeWorkflowAdditionalTimeoutMs]
    rfl
  · rw [pipeWorkflowBudgetMs, pipeWorkflowAdditionalTimeoutMs]
    rfl

end Rub
