import Rub.IpcProtocol

/-! When the result of an automation step counts as committed. -/

namespace Rub

open Json

def projectedWaitAfterFallbackMatched (data : Option Json) : Bool :=
  (((data.bind (·.get "wait_after")).bind (·.get "matched")).bind asBool).getD false

def projectedInteraction (data : Option Json) : Option Json :=
  (data.bind (·.get "interaction")).filter isObject

def projectedInteractionEffectSuccess (attemptSuccess : Bool) (data : Option Json) : Bool :=
  attemptSuccess &&
    match projectedInteraction data with
    | none => true
    | some interaction =>
      match (interaction.get "confirmation_status").bind asStr with
      | some "confirmed" => true
      | some "unconfirmed" | some "contradicted" | some "degraded" =>
        projectedWaitAfterFallbackMatched data
      | _ => false

/-- An interaction that was projected without being confirmed did not happen. -/
def ensureCommittedAutomationResult (command : String) (data : Option Json) :
    Except ErrorEnvelope Unit :=
  match (data.bind (·.get "interaction")).filter isObject with
  | none => .ok ()
  | some interaction =>
    match (interaction.get "confirmation_status").bind asStr with
    | none => .ok ()
    | some status =>
      if status == "confirmed" || projectedWaitAfterFallbackMatched data then .ok ()
      else
        .error ((ErrorEnvelope.new .waitTimeout
          ("Automation step '" ++ command ++
            "' did not reach a committed interaction confirmation fence")).withContext
          (object
            [("reason", string "automation_interaction_confirmation_not_committed"),
              ("command", string command),
              ("confirmation_status", string status),
              ("confirmation_kind", optionalText
                ((interaction.get "confirmation_kind").bind asStr)),
              ("confirmation_details",
                Json.optional (interaction.get "confirmation_details"))]))

end Rub
