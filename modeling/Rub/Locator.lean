import Rub.IpcProtocol

/-!
The element locators of a request: the struct that carries them, the raw reads that
address resolution makes of the same arguments, and the canonical locator chosen.
-/

namespace Rub

open Json Serde Option

/-- `str::trim` of a text, unless nothing is left. -/
def trimmedText (text : Option String) : Option String :=
  (text.map trim).filter fun text => text ≠ ""

def invalidInput (message : String) : ErrorEnvelope := ErrorEnvelope.new .invalidInput message

def parseOptionalU32Arg (args : Json) (name : String) : Except ErrorEnvelope (Option Nat) :=
  match (args.get name).bind asU64 with
  | none => .ok none
  | some value =>
    if value < u32Limit then .ok (some value)
    else .error (invalidInput
      ("Argument '" ++ name ++ "' is too large; expected a 32-bit unsigned integer"))

def boolArg (args : Json) (name : String) : Bool := ((args.get name).bind asBool).getD false

def stringArg (args : Json) (name : String) : Option String := (args.get name).bind asStr

structure LocatorRequestArgs where
  index : Option Nat
  elementRef : Option String
  selector : Option String
  targetText : Option String
  role : Option String
  label : Option String
  testid : Option String
  visible : Bool
  preferEnabled : Bool
  topmost : Bool
  first : Bool
  last : Bool
  nth : Option Nat
  deriving DecidableEq

inductive LocatorSelection where
  | first | last
  | nth (index : Nat)
  deriving DecidableEq

inductive CanonicalLocator where
  | index (index : Nat)
  | ref (elementRef : String)
  | selector (css : String) (selection : Option LocatorSelection)
  | targetText (text : String) (selection : Option LocatorSelection)
  | role (role : String) (selection : Option LocatorSelection)
  | label (label : String) (selection : Option LocatorSelection)
  | testId (testid : String) (selection : Option LocatorSelection)
  deriving DecidableEq

structure LocatorParseOptions where
  requireLocator : Bool
  allowIndex : Bool
  allowRef : Bool

namespace LocatorParseOptions

def elementAddress : LocatorParseOptions :=
  { requireLocator := true, allowIndex := true, allowRef := true }

def optionalWait : LocatorParseOptions :=
  { requireLocator := false, allowIndex := false, allowRef := false }

def optionalElementAddress : LocatorParseOptions :=
  { requireLocator := false, allowIndex := true, allowRef := true }

def missingMessage (options : LocatorParseOptions) : String :=
  if options.allowIndex && options.allowRef then
    "Exactly one locator is required: index, --ref, --selector, --target-text, --role, " ++
      "--label, or --testid"
  else
    "Exactly one locator is required: --selector, --target-text, --role, --label, or --testid"

def ambiguousMessage (options : LocatorParseOptions) : String :=
  if options.allowIndex && options.allowRef then
    "Locator is ambiguous: provide exactly one of index, --ref, --selector, --target-text, " ++
      "--role, --label, or --testid"
  else
    "Locator is ambiguous: provide exactly one of --selector, --target-text, --role, --label, " ++
      "or --testid"

def disallowedMessage (options : LocatorParseOptions) : String :=
  if !options.allowIndex && !options.allowRef then
    "This command only supports semantic locators: --selector, --target-text, --role, " ++
      "--label, or --testid"
  else if !options.allowIndex then "This command does not support index-based addressing"
  else "This command does not support ref-based addressing"

end LocatorParseOptions

/-- What the locator parser reads of its arguments. -/
structure RawLocator where
  index : Except ErrorEnvelope (Option Nat)
  elementRef : Option String
  selector : Option String
  targetText : Option String
  role : Option String
  label : Option String
  testid : Option String
  first : Bool
  last : Bool
  nth : Except ErrorEnvelope (Option Nat)

def rawLocator (args : Json) : RawLocator :=
  { index := parseOptionalU32Arg args "index"
    elementRef := trimmedText (((args.get "element_ref").or (args.get "ref")).bind asStr)
    selector := trimmedText (stringArg args "selector")
    targetText := trimmedText (stringArg args "target_text")
    role := trimmedText (stringArg args "role")
    label := trimmedText (stringArg args "label")
    testid := trimmedText (stringArg args "testid")
    first := boolArg args "first"
    last := boolArg args "last"
    nth := parseOptionalU32Arg args "nth" }

namespace RawLocator

def selection (raw : RawLocator) : Except ErrorEnvelope (Option LocatorSelection) := do
  let nth ← raw.nth
  if raw.first.toNat + raw.last.toNat + nth.isSome.toNat > 1 then
    throw (invalidInput
      "Match selection is ambiguous: provide at most one of --first, --last, or --nth")
  else if raw.first then pure (some .first)
  else if raw.last then pure (some .last)
  else pure (nth.map .nth)

/-- How many of the semantic locators are given. -/
def semanticCount (raw : RawLocator) : Nat :=
  raw.selector.isSome.toNat + raw.targetText.isSome.toNat + raw.role.isSome.toNat +
    raw.label.isSome.toNat + raw.testid.isSome.toNat

/-- The locator that is given, in the order in which the parser looks for one. -/
def choose (raw : RawLocator) (index : Option Nat) (selection : Option LocatorSelection)
    (options : LocatorParseOptions) : Except ErrorEnvelope CanonicalLocator :=
  match index, raw.elementRef, raw.selector, raw.targetText, raw.role, raw.label, raw.testid with
  | some index, _, _, _, _, _, _ =>
    if selection.isSome then
      throw (invalidInput "Match selection cannot be combined with index addressing")
    else pure (.index index)
  | none, some elementRef, _, _, _, _, _ =>
    if selection.isSome then
      throw (invalidInput "Match selection cannot be combined with ref addressing")
    else pure (.ref elementRef)
  | none, none, some css, _, _, _, _ => pure (.selector css selection)
  | none, none, none, some text, _, _, _ => pure (.targetText text selection)
  | none, none, none, none, some role, _, _ => pure (.role role selection)
  | none, none, none, none, none, some label, _ => pure (.label label selection)
  | none, none, none, none, none, none, some testid => pure (.testId testid selection)
  | none, none, none, none, none, none, none => throw (invalidInput options.missingMessage)

def canonical (raw : RawLocator) (options : LocatorParseOptions) :
    Except ErrorEnvelope (Option CanonicalLocator) := do
  let index ← raw.index
  let selection ← raw.selection
  let rawConfigured := index.isSome.toNat + raw.elementRef.isSome.toNat + raw.semanticCount
  let configured := (index.isSome && options.allowIndex).toNat +
    (raw.elementRef.isSome && options.allowRef).toNat + raw.semanticCount
  if rawConfigured > 0 && rawConfigured != configured then
    throw (invalidInput options.disallowedMessage)
  else if configured = 0 then
    if options.requireLocator then throw (invalidInput options.missingMessage) else pure none
  else if configured > 1 then throw (invalidInput options.ambiguousMessage)
  else return some (← raw.choose index selection options)

end RawLocator

def parseCanonicalLocator (args : Json) (options : LocatorParseOptions) :
    Except ErrorEnvelope (Option CanonicalLocator) :=
  (rawLocator args).canonical options

structure LocatorRankingPolicy where
  visible : Bool
  preferEnabled : Bool
  topmost : Bool
  deriving DecidableEq

def locatorRankingPolicy (args : Json) : LocatorRankingPolicy :=
  { visible := boolArg args "visible", preferEnabled := boolArg args "prefer_enabled",
    topmost := boolArg args "topmost" }

namespace LocatorRequestArgs

def fieldNames : List String :=
  ["index", "element_ref", "ref", "selector", "target_text", "role", "label", "testid", "visible",
    "prefer_enabled", "topmost", "first", "last", "nth"]

/-- The flattened part of a command's arguments. -/
def decode (fields : String → Option Json) : Option LocatorRequestArgs := do
  let index ← Serde.optional u32 (fields "index")
  let elementRefField ← aliased (fields "element_ref") (fields "ref")
  let elementRef ← Serde.optional asStr elementRefField
  let selector ← Serde.optional asStr (fields "selector")
  let targetText ← Serde.optional asStr (fields "target_text")
  let role ← Serde.optional asStr (fields "role")
  let label ← Serde.optional asStr (fields "label")
  let testid ← Serde.optional asStr (fields "testid")
  let visible ← flag (fields "visible")
  let preferEnabled ← flag (fields "prefer_enabled")
  let topmost ← flag (fields "topmost")
  let first ← flag (fields "first")
  let last ← flag (fields "last")
  let nth ← Serde.optional u32 (fields "nth")
  pure { index, elementRef, selector, targetText, role, label, testid, visible, preferEnabled,
         topmost, first, last, nth }

def isRequested (locator : LocatorRequestArgs) : Bool :=
  locator.index.isSome || locator.elementRef.any (!isBlank ·) ||
    locator.selector.any (!isBlank ·) ||
    locator.targetText.any (!isBlank ·) || locator.role.any (!isBlank ·) ||
    locator.label.any (!isBlank ·) || locator.testid.any (!isBlank ·)

def hasSelection (locator : LocatorRequestArgs) : Bool :=
  locator.first || locator.last || locator.nth.isSome

def jsonFields (locator : LocatorRequestArgs) : List (String × Option Json) :=
  [("index", some (optionalNumber locator.index)),
    ("element_ref", some (optionalText locator.elementRef)),
    ("selector", some (optionalText locator.selector)),
    ("target_text", some (optionalText locator.targetText)),
    ("role", some (optionalText locator.role)),
    ("label", some (optionalText locator.label)),
    ("testid", some (optionalText locator.testid)),
    ("visible", some (Json.bool locator.visible)),
    ("prefer_enabled", some (Json.bool locator.preferEnabled)),
    ("topmost", some (Json.bool locator.topmost)),
    ("first", some (Json.bool locator.first)),
    ("last", some (Json.bool locator.last)),
    ("nth", some (optionalNumber locator.nth))]

def json (locator : LocatorRequestArgs) : Json := present locator.jsonFields

/-- What the locator parser reads of arguments that decode to this struct. -/
def raw (locator : LocatorRequestArgs) : RawLocator :=
  { index := .ok locator.index
    elementRef := trimmedText locator.elementRef
    selector := trimmedText locator.selector
    targetText := trimmedText locator.targetText
    role := trimmedText locator.role
    label := trimmedText locator.label
    testid := trimmedText locator.testid
    first := locator.first
    last := locator.last
    nth := .ok locator.nth }

end LocatorRequestArgs

theorem parseOptionalU32Arg_of_optional {args : Json} {name : String} {value : Option Nat}
    (decoded : Serde.optional u32 (args.get name) = some value) :
    parseOptionalU32Arg args name = .ok value := by
  obtain ⟨read, small⟩ := bind_asU64_of_optional decoded
  unfold parseOptionalU32Arg
  rw [read]
  cases value with
  | none => rfl
  | some number => simp [small number rfl]

theorem bind_asStr_of_aliased {field other found : Option Json} {value : Option String}
    (known : aliased field other = some found) (decoded : Serde.optional asStr found = some value) :
    (field.or other).bind asStr = value := by
  have same : field.or other = found := by
    cases field <;> cases other <;> simp_all [aliased]
  rw [same]
  exact bind_asStr_of_optional decoded

/-- Address resolution reads the arguments themselves, and reads what the struct holds. -/
theorem rawLocator_of_decode {args : Json} {locator : LocatorRequestArgs}
    (decoded : LocatorRequestArgs.decode args.get = some locator) :
    rawLocator args = locator.raw ∧ locatorRankingPolicy args =
        ⟨locator.visible, locator.preferEnabled, locator.topmost⟩ := by
  obtain ⟨index, readIndex, decoded⟩ := bind_eq_some_iff.mp decoded
  obtain ⟨field, known, decoded⟩ := bind_eq_some_iff.mp decoded
  obtain ⟨elementRef, readRef, decoded⟩ := bind_eq_some_iff.mp decoded
  obtain ⟨selector, readSelector, decoded⟩ := bind_eq_some_iff.mp decoded
  obtain ⟨targetText, readText, decoded⟩ := bind_eq_some_iff.mp decoded
  obtain ⟨role, readRole, decoded⟩ := bind_eq_some_iff.mp decoded
  obtain ⟨label, readLabel, decoded⟩ := bind_eq_some_iff.mp decoded
  obtain ⟨testid, readTestid, decoded⟩ := bind_eq_some_iff.mp decoded
  obtain ⟨visible, readVisible, decoded⟩ := bind_eq_some_iff.mp decoded
  obtain ⟨preferEnabled, readPrefer, decoded⟩ := bind_eq_some_iff.mp decoded
  obtain ⟨topmost, readTopmost, decoded⟩ := bind_eq_some_iff.mp decoded
  obtain ⟨first, readFirst, decoded⟩ := bind_eq_some_iff.mp decoded
  obtain ⟨last, readLast, decoded⟩ := bind_eq_some_iff.mp decoded
  obtain ⟨nth, readNth, decoded⟩ := bind_eq_some_iff.mp decoded
  cases decoded
  constructor
  · simp only [rawLocator, LocatorRequestArgs.raw, stringArg, boolArg,
      parseOptionalU32Arg_of_optional readIndex, parseOptionalU32Arg_of_optional readNth,
      bind_asStr_of_aliased known readRef, bind_asStr_of_optional readSelector,
      bind_asStr_of_optional readText, bind_asStr_of_optional readRole,
      bind_asStr_of_optional readLabel, bind_asStr_of_optional readTestid,
      bind_asBool_of_flag readFirst, bind_asBool_of_flag readLast]
  · simp only [locatorRankingPolicy, boolArg, bind_asBool_of_flag readVisible,
      bind_asBool_of_flag readPrefer, bind_asBool_of_flag readTopmost]

namespace LocatorRequestArgs

theorem jsonFields_injective : Function.Injective jsonFields := by
  intro left right same
  cases left
  cases right
  simpa only [jsonFields, List.cons.injEq, Prod.mk.injEq, some.injEq, true_and, and_true,
    optionalText_injective.eq_iff, optionalNumber_injective.eq_iff, bool_injective.eq_iff,
    LocatorRequestArgs.mk.injEq] using same

end LocatorRequestArgs

end Rub
