import Mathlib.Logic.Basic

/-!
Labelled transition systems with partial, deterministic steps. All the
nondeterminism of a modelled program is in the labels, so a run is the list of
labels an interleaving chose and replaying the list is computable.
-/

namespace Rub

structure TransitionSystem (State Action : Type) where
  initial : State
  step : State → Action → Option State

namespace TransitionSystem

variable {State Action : Type} (system : TransitionSystem State Action)

/-- The state a list of labels leads to, when every one of them is enabled. -/
def runFrom (state : State) : List Action → Option State
  | [] => some state
  | action :: actions => (system.step state action).bind fun next => runFrom next actions

/-- Every step of the run meets `allowed` in the state it is taken from. -/
def Along (allowed : State → Action → Prop) (state : State) : List Action → Prop
  | [] => True
  | action :: actions =>
    allowed state action ∧
      ∀ next, system.step state action = some next → Along allowed next actions

instance decidableAlong (allowed : State → Action → Prop)
    [∀ state action, Decidable (allowed state action)] :
    ∀ (state : State) (actions : List Action), Decidable (system.Along allowed state actions)
  | _, [] => isTrue trivial
  | state, action :: actions =>
    have : Decidable (∀ next, system.step state action = some next →
        system.Along allowed next actions) :=
      match system.step state action with
      | none => isTrue fun _ taken => nomatch taken
      | some next =>
        have := decidableAlong allowed next actions
        decidable_of_iff (system.Along allowed next actions)
          ⟨fun along _ taken => Option.some.inj taken ▸ along, fun all => all next rfl⟩
    inferInstanceAs (Decidable (_ ∧ _))

@[simp] theorem runFrom_nil (state : State) : system.runFrom state [] = some state := rfl

theorem runFrom_cons (state : State) (action : Action) (actions : List Action) :
    system.runFrom state (action :: actions) =
      (system.step state action).bind fun next => system.runFrom next actions := rfl

variable {state middle final : State} {action : Action} {actions before after : List Action}
  {allowed weaker : State → Action → Prop} {Inv : State → Prop}

theorem runFrom_cons_eq_some :
    system.runFrom state (action :: actions) = some final ↔
      ∃ next, system.step state action = some next ∧ system.runFrom next actions = some final := by
  rw [runFrom_cons, Option.bind_eq_some_iff]

theorem runFrom_append (state : State) (before after : List Action) :
    system.runFrom state (before ++ after) =
      (system.runFrom state before).bind fun middle => system.runFrom middle after := by
  induction before generalizing state with
  | nil => rfl
  | cons action actions ih =>
    rw [List.cons_append, runFrom_cons, runFrom_cons]
    cases system.step state action with
    | none => rfl
    | some next => exact ih next

theorem runFrom_trans (first : system.runFrom state before = some middle)
    (second : system.runFrom middle after = some final) :
    system.runFrom state (before ++ after) = some final := by
  rw [runFrom_append, first]
  exact second

/-- A state some run from the initial state ends in. -/
def Reachable (state : State) : Prop :=
  ∃ actions, system.runFrom system.initial actions = some state

/-- What one allowed step preserves, every run of allowed steps preserves. -/
theorem runFrom_preserves_along (preserved : ∀ state action next, Inv state → allowed state action →
      system.step state action = some next → Inv next)
    {state final : State} {actions : List Action} (holds : Inv state)
    (along : system.Along allowed state actions)
    (run : system.runFrom state actions = some final) : Inv final := by
  induction actions generalizing state with
  | nil =>
    cases run
    exact holds
  | cons action actions ih =>
    obtain ⟨next, taken, rest⟩ := (runFrom_cons_eq_some system).mp run
    exact ih (preserved state action next holds along.1 taken) (along.2 next taken) rest

theorem along_of_mem (always : ∀ action ∈ actions, ∀ state, allowed state action) (state : State) :
    system.Along allowed state actions := by
  induction actions generalizing state with
  | nil => trivial
  | cons action actions ih =>
    exact ⟨always action List.mem_cons_self state, fun next _ =>
      ih (fun other member => always other (List.mem_cons_of_mem _ member)) next⟩

theorem along_mono (implies : ∀ state action, allowed state action → weaker state action)
    (along : system.Along allowed state actions) : system.Along weaker state actions := by
  induction actions generalizing state with
  | nil => trivial
  | cons action actions ih =>
    exact ⟨implies state action along.1, fun next taken => ih (along.2 next taken)⟩

theorem along_append (first : system.Along allowed state before)
    (second : ∀ middle, system.runFrom state before = some middle →
      system.Along allowed middle after) : system.Along allowed state (before ++ after) := by
  induction before generalizing state with
  | nil => exact second state rfl
  | cons action actions ih =>
    refine ⟨first.1, fun next taken => ih (first.2 next taken) fun middle run => ?_⟩
    exact second middle ((runFrom_cons_eq_some system).mpr ⟨next, taken, run⟩)

/-- What one step preserves, every run preserves. -/
theorem runFrom_preserves
    (preserved : ∀ state action next, Inv state → system.step state action = some next → Inv next)
    {state final : State} {actions : List Action} (holds : Inv state)
    (run : system.runFrom state actions = some final) : Inv final :=
  system.runFrom_preserves_along
    (fun current action next inv (_ : True) taken => preserved current action next inv taken)
    holds (system.along_of_mem (fun _ _ _ => trivial) state) run

theorem Reachable.runFrom (reached : system.Reachable state)
    (run : system.runFrom state actions = some final) : system.Reachable final := by
  obtain ⟨before, start⟩ := reached
  exact ⟨before ++ actions, system.runFrom_trans start run⟩

/-- An invariant of the initial state and of every step holds in every reachable state. -/
theorem Reachable.invariant (start : Inv system.initial)
    (preserved : ∀ state action next, Inv state → system.step state action = some next → Inv next)
    (reached : system.Reachable state) : Inv state := by
  obtain ⟨actions, run⟩ := reached
  exact system.runFrom_preserves preserved start run

end TransitionSystem

end Rub
