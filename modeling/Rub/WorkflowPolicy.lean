import Rub.Json

/-! Which commands a workflow may run, and how the history of a session classifies them. -/

namespace Rub

inductive WorkflowCaptureClass where
  | workflow | observation | administrative
  deriving DecidableEq

structure WorkflowStepPolicy where
  command : String
  captureClass : WorkflowCaptureClass
  workflowAllowed : Bool
  deriving DecidableEq

def policies : List WorkflowStepPolicy :=
  [⟨"open", .workflow, true⟩,
    ⟨"state", .observation, true⟩,
    ⟨"observe", .observation, true⟩,
    ⟨"click", .workflow, true⟩,
    ⟨"exec", .workflow, true⟩,
    ⟨"scroll", .workflow, true⟩,
    ⟨"back", .workflow, true⟩,
    ⟨"keys", .workflow, true⟩,
    ⟨"type", .workflow, true⟩,
    ⟨"wait", .workflow, true⟩,
    ⟨"tabs", .workflow, true⟩,
    ⟨"switch", .workflow, true⟩,
    ⟨"close-tab", .workflow, true⟩,
    ⟨"get", .observation, true⟩,
    ⟨"hover", .workflow, true⟩,
    ⟨"upload", .workflow, true⟩,
    ⟨"select", .workflow, true⟩,
    ⟨"fill", .workflow, true⟩,
    ⟨"extract", .workflow, true⟩,
    ⟨"screenshot", .observation, true⟩,
    ⟨"find", .observation, false⟩,
    ⟨"history", .observation, false⟩,
    ⟨"doctor", .observation, false⟩,
    ⟨"runtime", .observation, false⟩,
    ⟨"downloads", .observation, false⟩,
    ⟨"inspect", .observation, false⟩,
    ⟨"frames", .observation, false⟩,
    ⟨"close", .administrative, false⟩,
    ⟨"cleanup", .administrative, false⟩,
    ⟨"sessions", .administrative, false⟩,
    ⟨"handoff", .administrative, false⟩,
    ⟨"dialog", .administrative, false⟩,
    ⟨"intercept", .administrative, false⟩,
    ⟨"interference", .administrative, false⟩,
    ⟨"storage", .administrative, false⟩,
    ⟨"download", .administrative, false⟩,
    ⟨"frame", .administrative, false⟩,
    ⟨"cookies", .administrative, false⟩,
    ⟨"pipe", .administrative, false⟩]

def workflowStepPolicy (command : String) : Option WorkflowStepPolicy :=
  policies.find? fun policy => policy.command == command

def orchestrationRequestPolicy (args : Json) : WorkflowStepPolicy :=
  match ((args.get "sub").bind Json.asStr).getD "list" with
  | "add" | "pause" | "resume" | "remove" | "execute" => ⟨"orchestration", .workflow, true⟩
  | "list" | "trace" => ⟨"orchestration", .observation, false⟩
  | _ => ⟨"orchestration", .administrative, false⟩

def workflowRequestPolicy (command : String) (args : Json) : WorkflowStepPolicy :=
  if command = "orchestration" then orchestrationRequestPolicy args
  else (workflowStepPolicy command).getD ⟨"", .administrative, false⟩

def workflowRequestAllowed (command : String) (args : Json) : Bool :=
  (workflowRequestPolicy command args).workflowAllowed

def triggerWorkflowRequestAllowed (command : String) (args : Json) : Bool :=
  command ≠ "exec" && workflowRequestAllowed command args

def workflowAllowedStepDescriptions : List String :=
  (policies.filter WorkflowStepPolicy.workflowAllowed).map WorkflowStepPolicy.command ++
    ["orchestration:add|pause|resume|remove|execute"]

def triggerWorkflowAllowedStepDescriptions : List String :=
  workflowAllowedStepDescriptions.filter fun command => command ≠ "exec"

def workflowCommands : List String :=
  "orchestration" :: (policies.filter WorkflowStepPolicy.workflowAllowed).map
    WorkflowStepPolicy.command

theorem mem_workflowCommands_of_allowed {command : String} {args : Json}
    (allowed : workflowRequestAllowed command args = true) : command ∈ workflowCommands := by
  unfold workflowRequestAllowed workflowRequestPolicy at allowed
  split at allowed
  · rename_i orchestration
    rw [orchestration]
    exact List.mem_cons_self
  · cases found : workflowStepPolicy command <;> rw [found] at allowed
    · cases allowed
    · have same := by simpa using List.find?_some found
      refine List.mem_cons_of_mem _ (List.mem_map.mpr ⟨_, ?_, same⟩)
      exact List.mem_filter.mpr ⟨List.mem_of_find?_eq_some found, allowed⟩

end Rub
