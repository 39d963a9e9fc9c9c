import Mathlib.Init

/-!
The dialog runtime of one session, as far as browser events change it.
-/

namespace Rub

inductive DialogRuntimeStatus where
  | inactive | active | degraded
  deriving DecidableEq

inductive DialogKind where
  | alert | confirm | prompt | beforeunload
  deriving DecidableEq

structure PendingDialogInfo where
  kind : DialogKind
  message : String
  url : String
  tabTargetId : Option String
  frameId : Option String
  defaultPrompt : Option String
  hasBrowserHandler : Bool
  openedAt : String
  deriving DecidableEq

structure DialogResolutionInfo where
  accepted : Bool
  userInput : Option String
  closedAt : String
  deriving DecidableEq

structure DialogRuntimeInfo where
  status : DialogRuntimeStatus
  pendingDialog : Option PendingDialogInfo
  lastDialog : Option PendingDialogInfo
  lastResult : Option DialogResolutionInfo
  degradedReason : Option String
  deriving DecidableEq

def DialogRuntimeInfo.default : DialogRuntimeInfo :=
  { status := .inactive, pendingDialog := none, lastDialog := none, lastResult := none,
    degradedReason := none }

structure DialogRuntimeState where
  projection : DialogRuntimeInfo
  lastEventSequence : Nat
  currentGeneration : Nat
  deriving DecidableEq

namespace DialogRuntimeState

def default : DialogRuntimeState :=
  { projection := .default, lastEventSequence := 0, currentGeneration := 0 }

def effectiveGeneration (state : DialogRuntimeState) (generation : Nat) : Nat :=
  if generation = 0 then state.currentGeneration else generation

/-- None for an older generation; a newer one starts the runtime over. -/
def prepareGeneration (state : DialogRuntimeState) (generation : Nat) :
    Option DialogRuntimeState :=
  let generation := state.effectiveGeneration generation
  if generation < state.currentGeneration then none
  else if generation > state.currentGeneration then
    some { DialogRuntimeState.default with currentGeneration := generation }
  else some state

def replaceProjection (state : DialogRuntimeState) (generation : Nat)
    (projection : DialogRuntimeInfo) : DialogRuntimeState :=
  match state.prepareGeneration generation with
  | none => state
  | some prepared => { prepared with projection := projection }

/-- A runtime with a degraded reason stays degraded. -/
def applyRuntimeStatus (projection : DialogRuntimeInfo) (status : DialogRuntimeStatus) :
    DialogRuntimeInfo :=
  { projection with status := if projection.degradedReason.isSome then .degraded else status }

def recordOpened (state : DialogRuntimeState) (generation sequence : Nat)
    (pending : PendingDialogInfo) : DialogRuntimeState :=
  match state.prepareGeneration generation with
  | none => state
  | some prepared =>
    if sequence ≤ prepared.lastEventSequence then prepared
    else
      { prepared with
        lastEventSequence := sequence
        projection := { applyRuntimeStatus prepared.projection .active with
          lastResult := none
          lastDialog := some pending
          pendingDialog := some pending } }

/-- `now` is the time the clock is read at. -/
def recordClosed (state : DialogRuntimeState) (now : String) (generation sequence : Nat)
    (accepted : Bool) (userInput : String) : DialogRuntimeState :=
  match state.prepareGeneration generation with
  | none => state
  | some prepared =>
    if sequence ≤ prepared.lastEventSequence then prepared
    else
      let promptInput := (prepared.projection.lastDialog.filter fun dialog =>
        dialog.kind = .prompt).map fun _ => userInput
      { prepared with
        lastEventSequence := sequence
        projection := { applyRuntimeStatus prepared.projection .inactive with
          pendingDialog := none
          lastResult := some
            { accepted := accepted, userInput := promptInput, closedAt := now } } }

end DialogRuntimeState

end Rub
