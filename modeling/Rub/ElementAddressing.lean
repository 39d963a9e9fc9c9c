import Rub.Locator
import Rub.SecretResolution

/-!
How a locator is resolved to elements of a snapshot: the elements that match it are found,
ranked, and one of them is selected if the request asks for that.
-/

namespace Rub

open Json

inductive ElementTag where
  | button | link | input | textArea | select | checkbox | radio | option | other
  deriving DecidableEq

structure BoundingBox where
  width : Rat
  height : Rat
  deriving DecidableEq

structure AxInfo where
  role : Option String
  accessibleName : Option String
  deriving DecidableEq

/-- An element of a snapshot, as far as addressing reads it. -/
structure Element where
  index : Nat
  tag : ElementTag
  text : String
  attributes : List (String × String)
  elementRef : Option String
  boundingBox : Option BoundingBox
  axInfo : Option AxInfo
  deriving DecidableEq

structure SnapshotProjection where
  verified : Bool
  jsTraversalCount : Nat
  backendTraversalCount : Nat
  warning : Option String
  deriving DecidableEq

/-- A snapshot of the page. The scroll position is kept as the JSON it is written as. -/
structure PageSnapshot where
  snapshotId : String
  domEpoch : Nat
  frameId : String
  frameLineage : List String
  url : String
  elements : List Element
  totalCount : Nat
  truncated : Bool
  scroll : Json
  projection : SnapshotProjection

namespace Element

def nonEmpty (value : String) : Option String :=
  if trim value = "" then none else some (trim value)

variable (element : Element)

def attr (key : String) : Option String :=
  (element.attributes.lookup key).bind nonEmpty

def eqIgnoreAsciiCase (left right : String) : Bool :=
  left.toList.map Char.toLower == right.toList.map Char.toLower

def attrIs (key expected : String) : Bool :=
  ((element.attributes.lookup key).map fun value => eqIgnoreAsciiCase value expected).getD false

def isContentEditable : Bool :=
  ((element.attributes.lookup "contenteditable").map fun value =>
    !eqIgnoreAsciiCase value "false").getD false

def fallbackRole : String :=
  match element.tag with
  | .button => "button"
  | .link => "link"
  | .input | .textArea => "textbox"
  | .select => "combobox"
  | .checkbox => "checkbox"
  | .radio => "radio"
  | .option => "option"
  | .other => if element.isContentEditable then "textbox" else "generic"

def semanticRole : String :=
  trim (((element.axInfo.bind AxInfo.role).or (element.attr "role")).getD element.fallbackRole)

def accessibleLabel : String :=
  trim (((((((((element.axInfo.bind AxInfo.accessibleName).or (nonEmpty element.text)).or
    (element.attr "aria-label")).or (element.attr "placeholder")).or (element.attr "name")).or
    (element.attr "value")).or (element.attr "title")).or (element.attr "alt")).getD "")

def testId : Option String :=
  ((element.attr "data-testid").or (element.attr "data-test-id")).or (element.attr "data-test")

/-- An element that takes text, of which kind is not read here. -/
def isEditorSafeTextTarget : Bool :=
  match element.tag with
  | .input | .textArea => true
  | .other => element.isContentEditable
  | _ => false

def hasSnapshotVisibleBbox : Bool :=
  element.boundingBox.any fun box => 0 < box.width && 0 < box.height

def isDisabledInSnapshot : Bool :=
  (element.attributes.lookup "disabled").isSome || element.attrIs "aria-disabled" "true"

def isReadonlyInSnapshot : Bool :=
  element.isEditorSafeTextTarget &&
    ((element.attributes.lookup "readonly").isSome || element.attrIs "aria-readonly" "true")

def isPreferEnabledBlockedInSnapshot : Bool :=
  element.isDisabledInSnapshot || element.isReadonlyInSnapshot

end Element

/-- The words of a text. -/
def splitWhitespace (text : List Char) : List (List Char) :=
  (text.splitOnP isWhiteSpace).filter fun word => word ≠ []

variable (lower : String → String)

def normalizeLocatorText (value : String) : String :=
  lower (String.ofList ([' '].intercalate (splitWhitespace value.toList)))

def elementMatchesText (element : Element) (query : String) (exact : Bool) : Bool :=
  let shown := if isBlank element.text then [] else [element.text]
  let named := ["aria-label", "placeholder", "title", "alt", "value", "name"].filterMap fun key =>
    element.attributes.lookup key
  (shown ++ named).any fun candidate =>
    let normalized := normalizeLocatorText lower candidate
    if exact then normalized == query else query.toList <:+: normalized.toList

/-- A stable sort by the position in the snapshot. -/
def sortByIndex (elements : List Element) : List Element :=
  List.insertionSort (fun left right => left.index ≤ right.index) elements

def textMatches (snapshot : PageSnapshot) (query : String) (exact : Bool) : List Element :=
  sortByIndex (snapshot.elements.filter fun element => elementMatchesText lower element query exact)

def notFound (message : String) (context : Json) (suggestion : String) : RubError :=
  .domain (((ErrorEnvelope.new .elementNotFound message).withContext context).withSuggestion
    suggestion)

/-- The exact matches of a text, or those that contain it. -/
def textCandidates (snapshot : PageSnapshot) (query : String) : List Element :=
  let exact := textMatches lower snapshot query true
  if exact = [] then textMatches lower snapshot query false else exact

/-- A locator that matches nothing is refused. -/
def requireMatches (noun key query suggestion : String) :
    List Element → Except RubError (List Element)
  | [] =>
    .error (notFound ("No interactive snapshot element matched " ++ noun ++ " '" ++ query ++ "'")
      (object [(key, string query)]) suggestion)
  | candidates => .ok candidates

def resolveElementsByText (snapshot : PageSnapshot) (query : String) :
    Except RubError (List Element) :=
  requireMatches "text" "target_text" query
    ("Run 'rub observe' to see all interactive elements, " ++
      "or use --selector for content-level matching")
    (textCandidates lower snapshot (normalizeLocatorText lower query))

def resolveElementsByRole (snapshot : PageSnapshot) (query : String) :
    Except RubError (List Element) :=
  let normalizedQuery := normalizeLocatorText lower query
  requireMatches "role" "role" query
    "Run 'rub observe' to see all interactive elements and their roles"
    (sortByIndex (snapshot.elements.filter fun element =>
      normalizeLocatorText lower element.semanticRole == normalizedQuery))

def labelContains (element : Element) (query : String) : Bool :=
  element.accessibleLabel ≠ "" &&
    query.toList <:+: (normalizeLocatorText lower element.accessibleLabel).toList

def resolveElementsByLabel (snapshot : PageSnapshot) (query : String) :
    Except RubError (List Element) :=
  let normalizedQuery := normalizeLocatorText lower query
  let exact := sortByIndex (snapshot.elements.filter fun element =>
    normalizeLocatorText lower element.accessibleLabel == normalizedQuery)
  requireMatches "label" "label" query
    "Run 'rub observe' to see all interactive elements and their labels"
    (if exact = [] then
      sortByIndex
        (snapshot.elements.filter fun element => labelContains lower element normalizedQuery)
    else exact)

def testIdIs (element : Element) (query : String) : Bool :=
  (element.testId.map (normalizeLocatorText lower)).any fun value => value == query

def resolveElementsByTestid (snapshot : PageSnapshot) (query : String) :
    Except RubError (List Element) :=
  let normalizedQuery := normalizeLocatorText lower query
  requireMatches "test id" "testid" query
    "Run 'rub observe' to see all interactive elements and their test IDs"
    (sortByIndex (snapshot.elements.filter fun element => testIdIs lower element normalizedQuery))

/-- What the page is asked when a locator is resolved. -/
structure PageProbe where
  findBySelector : PageSnapshot → String → Except RubError (List Element)
  filterByHitTest : PageSnapshot → List Element → Except RubError (List Element)

structure ParsedLocator where
  locator : CanonicalLocator
  ranking : LocatorRankingPolicy

def CanonicalLocator.selection : CanonicalLocator → Option LocatorSelection
  | .index _ => none
  | .ref _ => none
  | .selector _ selection => selection
  | .targetText _ selection => selection
  | .role _ selection => selection
  | .label _ selection => selection
  | .testId _ selection => selection

def parseLocator (args : Json) : Except RubError ParsedLocator :=
  match parseCanonicalLocator args .elementAddress with
  | .error envelope => .error (.domain envelope)
  | .ok none => .error (.invalidInput "Failed to parse element locator")
  | .ok (some locator) => .ok { locator, ranking := locatorRankingPolicy args }

def ensureSnapshotRefAuthority (snapshot : PageSnapshot) (elementRef : String) :
    Except RubError Unit :=
  if snapshot.projection.verified then .ok ()
  else
    .error (.domain ((ErrorEnvelope.new .staleSnapshot
      ("Snapshot ref addressing requires verified ref authority from the current snapshot " ++
        "projection")).withContext (object [
          ("reason", string "snapshot_ref_authority_unavailable"),
          ("snapshot_id", string snapshot.snapshotId),
          ("element_ref", string elementRef),
          ("projection_verified", Json.bool snapshot.projection.verified),
          ("projection_warning", optionalText snapshot.projection.warning)])))

variable (probe : PageProbe)

def resolveElementsAgainstLocator (snapshot : PageSnapshot) :
    CanonicalLocator → Except RubError (List Element)
  | .index index =>
    match snapshot.elements.find? fun element => element.index == index with
    | some element => .ok [element]
    | none =>
      .error (.domain (ErrorEnvelope.new .elementNotFound
        ("Element at index " ++ toString index ++ " not found")))
  | .ref elementRef => do
    ensureSnapshotRefAuthority snapshot elementRef
    pure (snapshot.elements.filter fun element => element.elementRef == some elementRef)
  | .selector css _ => probe.findBySelector snapshot css
  | .targetText text _ => resolveElementsByText lower snapshot text
  | .role role _ => resolveElementsByRole lower snapshot role
  | .label label _ => resolveElementsByLabel lower snapshot label
  | .testId testid _ => resolveElementsByTestid lower snapshot testid

def applyPreHitTestRanking (locator : ParsedLocator) (elements : List Element) : List Element :=
  if locator.ranking.visible then elements.filter Element.hasSnapshotVisibleBbox else elements

def applyLiveRanking (snapshot : PageSnapshot) (locator : ParsedLocator)
    (elements : List Element) : Except RubError (List Element) :=
  let elements := applyPreHitTestRanking locator elements
  if locator.ranking.topmost then probe.filterByHitTest snapshot elements else .ok elements

/-- The order of two elements, where the blocked ones may come last. -/
def rankedBefore (preferEnabled : Bool) (left right : Element) : Prop :=
  let blocked := fun element : Element => preferEnabled && element.isPreferEnabledBlockedInSnapshot
  (blocked left = false ∧ blocked right = true) ∨
    (blocked left = blocked right ∧ left.index ≤ right.index)

instance (preferEnabled : Bool) : DecidableRel (rankedBefore preferEnabled) :=
  fun _ _ => inferInstanceAs (Decidable (_ ∨ _))

def sortByRank (preferEnabled : Bool) (elements : List Element) : List Element :=
  List.insertionSort (rankedBefore preferEnabled) elements

def locatorContext (args : Json) : Json :=
  let named := [("element_ref", "ref"), ("ref", "ref"), ("selector", "selector"),
    ("target_text", "target_text"), ("role", "role"), ("label", "label"),
    ("testid", "testid")].findSome? fun entry =>
      (stringArg args entry.1).map fun value => object [(entry.2, string value)]
  named.getD (object [("index", Json.optional (args.get "index"))])

def selectionContext : LocatorSelection → Json
  | .first => object [("first", Json.bool true)]
  | .last => object [("last", Json.bool true)]
  | .nth nth => object [("nth", natural nth)]

def rankingContext (ranking : LocatorRankingPolicy) : Json :=
  object [("visible", Json.bool ranking.visible),
    ("prefer_enabled", Json.bool ranking.preferEnabled), ("topmost", Json.bool ranking.topmost)]

def LocatorSelection.pick (selection : LocatorSelection) (elements : List Element) :
    Option Element :=
  match selection with
  | .first => elements.head?
  | .last => elements.getLast?
  | .nth position => elements[position]?

def applyDisambiguation (elements : List Element) (locator : ParsedLocator) (args : Json) :
    Except RubError (List Element) :=
  let elements := if locator.ranking.visible then elements.filter Element.hasSnapshotVisibleBbox
    else elements
  match locator.locator.selection with
  | none =>
    .ok (if locator.ranking.preferEnabled then sortByRank true elements else elements)
  | some selection =>
    if elements = [] then .ok []
    else
      match selection.pick (sortByRank locator.ranking.preferEnabled elements) with
      | some element => .ok [element]
      | none =>
        .error (.domain ((ErrorEnvelope.new .elementNotFound
          "Locator disambiguation selected an out-of-range match").withContext
          (object [("locator", locatorContext args),
            ("ranking_policy", rankingContext locator.ranking),
            ("selection", selectionContext selection)])))

/-- What a request resolves to, from the elements that match its locator. -/
def resolveCandidates (snapshot : PageSnapshot) (locator : ParsedLocator) (args : Json)
    (commandName : String) (candidates : List Element) : Except RubError (List Element) := do
  let ranked ← applyLiveRanking probe snapshot locator candidates
  let elements ← applyDisambiguation ranked locator args
  if elements = [] then
    .error (.domain (ErrorEnvelope.new .elementNotFound
      (commandName ++ " did not resolve to any interactive snapshot element")))
  else .ok elements

def resolveElementsAgainstSnapshot (snapshot : PageSnapshot) (args : Json) (commandName : String) :
    Except RubError (List Element) := do
  let locator ← parseLocator args
  let candidates ← resolveElementsAgainstLocator lower probe snapshot locator.locator
  resolveCandidates probe snapshot locator args commandName candidates

end Rub
