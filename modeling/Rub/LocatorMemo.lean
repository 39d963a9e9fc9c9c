import Rub.CanonicalJson
import Rub.ElementAddressing
import Rub.PartialMap
import Rub.TransitionSystem

/-!
The memo of resolved text locators. What a request resolved to is stored as references to the
elements, under a key made of the locator and of what identifies the snapshot; a later request
with the same key takes them as its candidates.
-/

namespace Rub

open Json

inductive LocatorMemoTarget where
  | elementRef (ref : String)
  | index (index : Nat)
  deriving DecidableEq

def locatorMemoLimit : Nat := 128

structure LocatorMemoRegistry where
  entries : String → Option (List LocatorMemoTarget)
  order : List String

namespace LocatorMemoRegistry

def empty : LocatorMemoRegistry := ⟨fun _ => none, []⟩

def remove (memo : LocatorMemoRegistry) (key : String) : LocatorMemoRegistry :=
  { memo with entries := Function.update memo.entries key none }

/-- The oldest keys are taken out until the limit is kept. -/
def evict (memo : LocatorMemoRegistry) : LocatorMemoRegistry :=
  let excess := memo.order.length - locatorMemoLimit
  { (memo.order.take excess).foldl remove memo with order := memo.order.drop excess }

def insert (memo : LocatorMemoRegistry) (key : String) (targets : List LocatorMemoTarget) :
    LocatorMemoRegistry :=
  if targets = [] then memo
  else
    evict ⟨Function.update memo.entries key (some targets),
      memo.order.filter (fun existing => existing ≠ key) ++ [key]⟩

end LocatorMemoRegistry

variable (lower : String → String)

def snapshotSupportsLocatorMemo (snapshot : PageSnapshot) : Bool :=
  snapshot.projection.verified && !snapshot.truncated

def memoKeyFields (snapshot : PageSnapshot) (value : String)
    (selection : Option LocatorSelection) (ranking : LocatorRankingPolicy) :
    List (String × Json) :=
  [("url", string snapshot.url), ("dom_epoch", natural snapshot.domEpoch),
    ("scroll", snapshot.scroll), ("frame_id", string snapshot.frameId),
    ("frame_lineage", array (snapshot.frameLineage.map string)),
    ("total_count", natural snapshot.totalCount),
    ("truncated", Json.bool snapshot.truncated),
    ("projection_verified", Json.bool snapshot.projection.verified),
    ("js_traversal_count", natural snapshot.projection.jsTraversalCount),
    ("backend_traversal_count", natural snapshot.projection.backendTraversalCount),
    ("kind", string "target_text"), ("value", string value),
    ("selection", Json.optional (selection.map selectionContext)),
    ("ranking", rankingContext ranking)]

/-- Only text locators are kept, and only where no hit test is asked for. -/
def ParsedLocator.memoKey (parsed : ParsedLocator) (snapshot : PageSnapshot) : Option String :=
  if parsed.ranking.topmost || !snapshotSupportsLocatorMemo snapshot then none
  else
    match parsed.locator with
    | .targetText text selection =>
      some (String.ofList (canonicalJson (object (memoKeyFields snapshot
        (normalizeLocatorText lower text) selection parsed.ranking))))
    | _ => none

def memoTarget (element : Element) : LocatorMemoTarget :=
  match element.elementRef with
  | some ref => .elementRef ref
  | none => .index element.index

def memoTargets (elements : List Element) : List LocatorMemoTarget := elements.map memoTarget

/-- A map from the references, in which a later element takes the place of an earlier one. -/
def findElementByRef (snapshot : PageSnapshot) (ref : String) : Option Element :=
  snapshot.elements.reverse.find? fun element => element.elementRef == some ref

def findTarget (snapshot : PageSnapshot) : LocatorMemoTarget → Option Element
  | .elementRef ref => findElementByRef snapshot ref
  | .index index => (snapshot.elements[index]?).filter fun element => element.index == index

def validateMemoizedElements (locator : CanonicalLocator) (elements : List Element) : Bool :=
  match locator with
  | .index index =>
    match elements with
    | [element] => element.index == index
    | _ => false
  | .ref elementRef =>
    match elements with
    | [element] => element.elementRef == some elementRef
    | _ => false
  | .selector _ _ => false
  | .targetText text _ =>
    let query := normalizeLocatorText lower text
    elements.all (fun element => elementMatchesText lower element query true) ||
      elements.all fun element => elementMatchesText lower element query false
  | .role role _ =>
    let query := normalizeLocatorText lower role
    elements.all fun element => normalizeLocatorText lower element.semanticRole == query
  | .label label _ =>
    let query := normalizeLocatorText lower label
    elements.all fun element => labelContains lower element query
  | .testId testid _ =>
    let query := normalizeLocatorText lower testid
    elements.all fun element => testIdIs lower element query

/-- The elements that stored targets stand for, if each is still there once and they still
match the locator. -/
def rehydrateMemoizedElements (snapshot : PageSnapshot) (locator : CanonicalLocator)
    (targets : List LocatorMemoTarget) : Option (List Element) := do
  if targets = [] then none
  let elements ← targets.mapM (findTarget snapshot)
  if (elements.map Element.index).Nodup then
    if validateMemoizedElements lower locator (sortByIndex elements) then
      some (sortByIndex elements)
    else none
  else none

def restoreMemoizedElements (memo : LocatorMemoRegistry) (snapshot : PageSnapshot)
    (locator : ParsedLocator) : Option (List Element) := do
  let key ← locator.memoKey lower snapshot
  let targets ← memo.entries key
  rehydrateMemoizedElements lower snapshot locator.locator targets

def recordMemoizedElements (memo : LocatorMemoRegistry) (snapshot : PageSnapshot)
    (locator : ParsedLocator) (elements : List Element) : LocatorMemoRegistry :=
  match locator.memoKey lower snapshot with
  | none => memo
  | some key => memo.insert key (memoTargets elements)

/-- One request: its arguments, the snapshot it was given, and what the page answers. -/
structure ResolveCall where
  args : Json
  commandName : String
  snapshot : PageSnapshot
  probe : PageProbe

/-- The elements a request takes from the memo. -/
def ResolveCall.restored (call : ResolveCall) (memo : LocatorMemoRegistry) :
    Option (List Element) :=
  (parseLocator call.args).toOption.bind fun locator =>
    restoreMemoizedElements lower memo call.snapshot locator

/-- A request resolved with the memo, and the memo it leaves. -/
def resolveElements (memo : LocatorMemoRegistry) (call : ResolveCall) :
    Except RubError (List Element) × LocatorMemoRegistry :=
  match parseLocator call.args with
  | .error error => (.error error, memo)
  | .ok locator =>
    let candidates : Except RubError (List Element) :=
      match restoreMemoizedElements lower memo call.snapshot locator with
      | some elements => .ok elements
      | none => resolveElementsAgainstLocator lower call.probe call.snapshot locator.locator
    match candidates.bind (resolveCandidates call.probe call.snapshot locator call.args
        call.commandName) with
    | .error error => (.error error, memo)
    | .ok elements =>
      (.ok elements, recordMemoizedElements lower memo call.snapshot locator elements)

/-- The same request resolved on its snapshot alone. -/
def ResolveCall.direct (call : ResolveCall) : Except RubError (List Element) :=
  resolveElementsAgainstSnapshot lower call.probe call.snapshot call.args call.commandName

/-- The memo of a session, with the request that each entry was stored by. -/
structure MemoSession where
  memo : LocatorMemoRegistry
  origin : String → Option ResolveCall

inductive MemoAction where
  | resolve (call : ResolveCall)
  | evict (key : String)

def ResolveCall.memoKey (call : ResolveCall) : Option String :=
  (parseLocator call.args).toOption.bind fun locator => locator.memoKey lower call.snapshot

def MemoSession.step (session : MemoSession) : MemoAction → Option MemoSession
  | .resolve call =>
    let (outcome, memo) := resolveElements lower session.memo call
    some
      { memo
        origin :=
          match outcome, call.memoKey lower with
          | .ok _, some key => Function.update session.origin key (some call)
          | _, _ => session.origin }
  | .evict key => some { session with memo := session.memo.remove key }

def memoSystem : TransitionSystem MemoSession MemoAction where
  initial := ⟨.empty, fun _ => none⟩
  step := MemoSession.step lower

end Rub
