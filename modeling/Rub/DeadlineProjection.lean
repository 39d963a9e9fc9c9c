import Rub.ReplayFingerprint

/-!
The projection of a request onto the time that remains until its deadline, as the command
line client and the orchestration executor make it before every send. A deadline enters as
the milliseconds that remain when it is read.
-/

namespace Rub

open Json

def requestSubIs (request : IpcRequest) (expected : String) : Bool :=
  (request.args.get "sub").bind asStr == some expected

def requestSubIsAny (request : IpcRequest) (expected : List String) : Bool :=
  expected.any fun sub => requestSubIs request sub

/-- The commands whose arguments carry a wait budget of their own. -/
def commandOwnsEmbeddedTimeoutAuthority (request : IpcRequest) : Bool :=
  match request.command with
  | "wait" => true
  | "inspect" =>
    if requestSubIs request "network" then
      ((request.args.get "wait").bind asBool).getD false
    else requestSubIs request "list" && (request.args.get "wait_timeout_ms").isSome
  | "download" => requestSubIsAny request ["wait", "save"]
  | _ => false

def Json.overwrite (value : Json) (key : String) (written : Json) : Json :=
  if (value.get key).isSome then value.insert key written else value

theorem Json.get_overwrite (value written : Json) (key name : String) :
    (value.overwrite key written).get name =
      if name = key then (value.get key).map fun _ => written else value.get name := by
  unfold overwrite
  cases found : value.get key with
  | none => by_cases same : name = key <;> simp [same, found]
  | some => simp [get_insert (isObject_of_get found)]

@[simp] theorem Json.isObject_overwrite (value : Json) (key : String) (written : Json) :
    (value.overwrite key written).isObject = value.isObject := by
  unfold overwrite
  split
  · exact isObject_insert value key written
  · rfl

theorem Json.overwrite_of_not_object {value : Json} (scalar : value.isObject = false)
    (key : String) (written : Json) : value.overwrite key written = value := by
  unfold overwrite
  rw [get_of_not_object scalar]
  rfl

/-- Arguments in which at most the deadline members were overwritten. -/
structure DeadlinesOverwritten (before after : Json) : Prop where
  object : after.isObject = before.isObject
  scalar : before.isObject = false → after = before
  others : ∀ {name}, name ≠ "timeout_ms" → name ≠ "wait_timeout_ms" →
    after.get name = before.get name

theorem DeadlinesOverwritten.refl (args : Json) : DeadlinesOverwritten args args :=
  ⟨rfl, fun _ => rfl, fun _ _ => rfl⟩

theorem DeadlinesOverwritten.trans {before between after : Json}
    (first : DeadlinesOverwritten before between) (second : DeadlinesOverwritten between after) :
    DeadlinesOverwritten before after where
  object := second.object.trans first.object
  scalar scalar := (second.scalar (first.object.trans scalar)).trans (first.scalar scalar)
  others timeout wait := (second.others timeout wait).trans (first.others timeout wait)

theorem DeadlinesOverwritten.overwrite {before after : Json}
    (overwritten : DeadlinesOverwritten before after) {key : String}
    (deadline : key = "timeout_ms" ∨ key = "wait_timeout_ms") (written : Json) :
    DeadlinesOverwritten before (after.overwrite key written) where
  object := by rw [isObject_overwrite, overwritten.object]
  scalar scalar := by
    rw [overwrite_of_not_object (overwritten.object.trans scalar), overwritten.scalar scalar]
  others first second := by
    rw [get_overwrite, overwritten.others first second, if_neg]
    rintro rfl
    exact deadline.elim first second

theorem embedded_command {request : IpcRequest}
    (owns : commandOwnsEmbeddedTimeoutAuthority request = true) :
    request.command = "wait" ∨ request.command = "inspect" ∨ request.command = "download" := by
  unfold commandOwnsEmbeddedTimeoutAuthority at owns
  split at owns
  · exact .inl ‹_›
  · exact .inr (.inl ‹_›)
  · exact .inr (.inr ‹_›)
  · cases owns

def waitIpcBufferMs : Nat := 5000

/-- The client lists the same commands as the executor. -/
def embeddedTimeoutBudgetMs (request : IpcRequest) : Option Nat :=
  if commandOwnsEmbeddedTimeoutAuthority request then some (request.timeoutMs - waitIpcBufferMs)
  else none

/-- The post-action wait of the arguments: an object with at least one member. -/
def waitAfterMember (args : Json) : Option Json :=
  (args.get "wait_after").filter fun waitAfter => waitAfter.isObject && !waitAfter.keys.isEmpty

def requestedWaitAfterMs (waitAfter : Json) : Nat :=
  ((waitAfter.get "timeout_ms").bind asU64).getD defaultWaitAfterTimeoutMs

def alignWaitAfter (waitAfter : Json) (timeoutMs : Nat) : Json :=
  let requested := requestedWaitAfterMs waitAfter
  let effective := min requested timeoutMs
  if (waitAfter.get "timeout_ms").isSome ∨ effective < requested then
    waitAfter.insert "timeout_ms" (natural effective)
  else waitAfter

def alignWaitAfterTimeoutAuthority (request : IpcRequest) : IpcRequest :=
  match waitAfterMember request.args with
  | some waitAfter =>
    { request with
      args := request.args.insert "wait_after" (alignWaitAfter waitAfter request.timeoutMs) }
  | none => request

def overwriteEmbeddedTimeouts (request : IpcRequest) : IpcRequest :=
  match embeddedTimeoutBudgetMs request with
  | some timeoutMs =>
    { request with
      args := (request.args.overwrite "timeout_ms" (natural timeoutMs)).overwrite
        "wait_timeout_ms" (natural timeoutMs) }
  | none => request

def alignEmbeddedTimeoutAuthority (request : IpcRequest) : IpcRequest :=
  alignWaitAfterTimeoutAuthority (overwriteEmbeddedTimeouts request)

def projectRequestOntoDeadline (request : IpcRequest) (remainingMs : Nat) : Option IpcRequest :=
  if remainingMs = 0 then none
  else
    let projected := { request with timeoutMs := min request.timeoutMs remainingMs }
    if (embeddedTimeoutBudgetMs projected).any (· == 0) then none
    else some (alignEmbeddedTimeoutAuthority projected)

def ipcReplayTimeoutBufferMs : Nat := 1000

def alignOrchestrationEmbeddedTimeout (request : IpcRequest) : IpcRequest :=
  if commandOwnsEmbeddedTimeoutAuthority request then
    let timeoutMs := natural (request.timeoutMs - ipcReplayTimeoutBufferMs)
    let args := request.args.overwrite "timeout_ms" timeoutMs
    if request.command = "inspect" ∧ requestSubIs request "list" then
      { request with args := args.overwrite "wait_timeout_ms" timeoutMs }
    else { request with args := args }
  else request

def carriedRequest (args : Json) : Option IpcRequest :=
  (args.get "request").bind IpcRequest.fromValueStrict

/-- The alignment with a bound on how deep target dispatches may nest. A request always
serializes again, so the error branch of the source is never taken. -/
def alignOrchestrationTimeoutWithin : Nat → IpcRequest → IpcRequest
  | 0, request => alignOrchestrationEmbeddedTimeout request
  | fuel + 1, request =>
    let aligned := alignOrchestrationEmbeddedTimeout request
    if aligned.command = "_orchestration_target_dispatch" then
      match carriedRequest aligned.args with
      | some inner =>
        { aligned with
          args := aligned.args.insert "request"
            (alignOrchestrationTimeoutWithin fuel
              { inner with timeoutMs := min inner.timeoutMs aligned.timeoutMs }).toValue }
      | none => aligned
    else aligned

/-- A carried request is nested in its arguments, so their depth bounds the recursion. -/
def alignOrchestrationTimeoutAuthority (request : IpcRequest) : IpcRequest :=
  alignOrchestrationTimeoutWithin request.args.depth request

def projectOrchestrationRequestOntoDeadline (request : IpcRequest) (remainingMs : Nat) :
    Option IpcRequest :=
  if remainingMs = 0 then none
  else
    some (alignOrchestrationTimeoutAuthority
      { request with timeoutMs := min request.timeoutMs remainingMs })

end Rub
