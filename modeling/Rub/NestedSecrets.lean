import Rub.PipeExecution

/-!
The specs that a workflow step brings along itself. A `fill` and an `extract` read a spec from
their arguments and resolve its secret references once more, after the workflow's own
references were resolved and the results of earlier steps were put in.
-/

namespace Rub

open Json List JsonTree

structure ExtractQueryArgs where
  spec : Json
  specSource : Option Json
  snapshotId : Option String

structure ExtractScanArgs where
  scanUntil : Option Nat
  scanKey : Option String
  maxScrolls : Option Nat
  scrollAmount : Option Nat
  settleMs : Option Nat
  stallLimit : Option Nat

structure ExtractWaitArgs where
  waitField : Option String
  waitContains : Option String
  waitTimeoutMs : Option Nat

structure ExtractListArgs where
  query : ExtractQueryArgs
  scan : ExtractScanArgs
  wait : ExtractWaitArgs

inductive ExtractCommand where
  | query (args : ExtractQueryArgs)
  | list (args : ExtractListArgs)

def ExtractCommand.spec : ExtractCommand → Json
  | .query args => args.spec
  | .list args => args.query.spec

def ExtractQueryArgs.ofFields (serde : SerdeJson) (fields : String → Option Json) :
    Option ExtractQueryArgs := do
  let spec ← Serde.required (normalizedJsonSpec serde) (fields "spec")
  let specSource ← optionalValue (fields "spec_source")
  let snapshotId ← Serde.optional asStr (fields "snapshot_id")
  pure { spec, specSource, snapshotId }

def ExtractScanArgs.ofFields (fields : String → Option Json) : Option ExtractScanArgs := do
  let scanUntil ← Serde.optional asU64 (fields "scan_until")
  let scanKey ← Serde.optional asStr (fields "scan_key")
  let maxScrolls ← Serde.optional asU64 (fields "max_scrolls")
  let scrollAmount ← Serde.optional asU64 (fields "scroll_amount")
  let settleMs ← Serde.optional asU64 (fields "settle_ms")
  let stallLimit ← Serde.optional asU64 (fields "stall_limit")
  pure { scanUntil, scanKey, maxScrolls, scrollAmount, settleMs, stallLimit }

def ExtractWaitArgs.ofFields (fields : String → Option Json) : Option ExtractWaitArgs := do
  let waitField ← Serde.optional asStr (fields "wait_field")
  let waitContains ← Serde.optional asStr (fields "wait_contains")
  let waitTimeoutMs ← Serde.optional asU64 (fields "wait_timeout_ms")
  pure { waitField, waitContains, waitTimeoutMs }

def extractQueryNames : List String := ["spec", "spec_source", "snapshot_id"]

def extractListNames : List String :=
  extractQueryNames ++ ["scan_until", "scan_key", "max_scrolls", "scroll_amount", "settle_ms",
    "stall_limit", "wait_field", "wait_contains", "wait_timeout_ms"]

/-- The arguments behind the tag `sub`, which is `extract` in an object that has none. An
array gives the tag first; a list command has a flattened part and cannot be given so. -/
def ExtractCommand.parse (serde : SerdeJson) (args : Json) : Option ExtractCommand :=
  match args.asArray with
  | some [] => none
  | some (tag :: items) =>
    if tag.asStr = some "extract" then do
      let fields ← Serde.structFields 1 extractQueryNames (array items)
      (ExtractQueryArgs.ofFields serde fields).map .query
    else none
  | none =>
    match ((args.get "sub").getD (string "extract")).asStr with
    | some "extract" => do
      let fields ← Serde.flatFields ("sub" :: extractQueryNames) args
      (ExtractQueryArgs.ofFields serde fields).map .query
    | some "list" => do
      let fields ← Serde.flatFields ("sub" :: extractListNames) args
      let query ← ExtractQueryArgs.ofFields serde fields
      let scan ← ExtractScanArgs.ofFields fields
      let wait ← ExtractWaitArgs.ofFields fields
      pure (.list { query, scan, wait })
    | _ => none

def extractFieldFault (message path name : String) : RubError :=
  .invalidInputWithContext ("Invalid JSON spec for 'extract': " ++ message)
    (object [("path", string path), ("field", string name),
      ("surface", string "extract_field_map")])

mutual

/-- A field of an extract spec. A text is short for its selector. -/
def normalizeExtractEntry (path name : String) : JsonTree → Except RubError JsonTree
  | .string selector => .ok (.object [("kind", .string "text"), ("selector", .string selector)])
  | .object members => (normalizeExtractMembers path name members).map .object
  | .null | .bool _ | .number _ | .array _ =>
    .error (extractFieldFault ("field entry at '" ++ path ++
      "' must be an object or selector string shorthand") path name)

/-- The members of a field, of which `fields` is a map of fields itself. -/
def normalizeExtractMembers (path name : String) :
    List (String × JsonTree) → Except RubError (List (String × JsonTree))
  | [] => .ok []
  | ("fields", .object nested) :: members =>
    (normalizeExtractFieldMap (path ++ ".fields") nested).map fun fields =>
      ("fields", .object fields) :: members
  | (key, value) :: members =>
    if key = "fields" then
      .error (extractFieldFault ("collection fields at '" ++ path ++
        ".fields' must be an object") (path ++ ".fields") name)
    else (normalizeExtractMembers path name members).map fun rest => (key, value) :: rest

def normalizeExtractFieldMap (path : String) :
    List (String × JsonTree) → Except RubError (List (String × JsonTree))
  | [] => .ok []
  | (name, value) :: fields => do
    let entry ← normalizeExtractEntry (path ++ "." ++ name) name value
    let rest ← normalizeExtractFieldMap path fields
    pure ((name, entry) :: rest)

end

/-- What normalizing keeps of a tree: the order of its keys, and its leaves but for the kind
that a shorthand stands for. -/
structure NormalizedFrom (tree result : JsonTree) : Prop where
  ordered : tree.Ordered → result.Ordered
  leaves : ∀ text ∈ result.leafTexts, text = "text" ∨ text ∈ tree.leafTexts

theorem NormalizedFrom.refl (tree : JsonTree) : NormalizedFrom tree tree :=
  ⟨id, fun _ member => .inr member⟩

variable {fields results : List (String × JsonTree)}

theorem NormalizedFrom.object (each : List.Forall₂ (fun field result => field.1 = result.1 ∧
      NormalizedFrom field.2 result.2) fields results) :
    NormalizedFrom (.object fields) (.object results) := by
  have keys : fields.map Prod.fst = results.map Prod.fst := by
    induction each with
    | nil => rfl
    | cons first _ ih => rw [map_cons, map_cons, first.1, ih]
  constructor
  · intro ordered
    obtain ⟨sorted, values⟩ := (ordered_object fields).mp ordered
    refine (ordered_object results).mpr ⟨?_, ?_⟩
    · have listed : (fields.map Prod.fst).Pairwise (· < ·) := pairwise_map.mpr sorted
      rw [keys] at listed
      exact pairwise_map.mp listed
    · clear keys sorted ordered
      induction each with
      | nil => exact fun _ member => nomatch member
      | cons first _ ih =>
        obtain ⟨valid, others⟩ := forall_mem_cons.mp values
        exact forall_mem_cons.mpr ⟨first.2.ordered valid, ih others⟩
  · clear keys
    induction each with
    | nil => exact fun _ member => nomatch member
    | cons first _ ih =>
      intro text member
      rw [leafTexts_object, flatMap_cons] at member ⊢
      rcases mem_append.mp member with head | tail
      · exact (first.2.leaves text head).imp_right fun inside => mem_append_left _ inside
      · rw [← leafTexts_object] at tail
        refine (ih text tail).imp_right fun inside => mem_append_right _ ?_
        rwa [leafTexts_object] at inside

theorem normalizeExtractFieldMap_eq_ok {path : String}
    (done : normalizeExtractFieldMap path fields = .ok results) :
    List.Forall₂ (fun field result => field.1 = result.1 ∧
      ∃ path name, normalizeExtractEntry path name field.2 = .ok result.2) fields results := by
  induction fields generalizing results with
  | nil =>
    cases done
    exact .nil
  | cons _ _ ih =>
    obtain ⟨entry, first, done⟩ := except_bind_eq_ok.mp done
    obtain ⟨rest, others, done⟩ := except_bind_eq_ok.mp done
    cases done
    exact .cons ⟨rfl, _, _, first⟩ (ih others)

theorem normalizeExtractMembers_eq_ok {path name : String}
    {members results : List (String × JsonTree)}
    (done : normalizeExtractMembers path name members = .ok results) :
    List.Forall₂ (fun member result => member.1 = result.1 ∧ (member.2 = result.2 ∨
      ∃ path nested fields, member.2 = .object nested ∧ result.2 = .object fields ∧
        normalizeExtractFieldMap path nested = .ok fields)) members results := by
  induction members generalizing results with
  | nil =>
    cases done
    exact .nil
  | cons _ _ ih =>
    unfold normalizeExtractMembers at done
    split at done
    · rename_i shape
      cases shape
    · rename_i nested rest shape
      cases shape
      obtain ⟨fields, inner, rfl⟩ := except_map_eq_ok.mp done
      exact .cons ⟨rfl, .inr ⟨_, nested, fields, rfl, rfl, inner⟩⟩
        (forall₂_same.mpr fun _ _ => ⟨rfl, .inl rfl⟩)
    · rename_i key value rest _ shape
      cases shape
      split at done
      · cases done
      · obtain ⟨rest, others, rfl⟩ := except_map_eq_ok.mp done
        exact .cons ⟨rfl, .inl rfl⟩ (ih others)

/-- Both readings of a tree, as a field and as a map of fields, keep what normalizing keeps. -/
theorem normalizedFrom_of_eq_ok (tree : JsonTree) :
    (∀ path name result, normalizeExtractEntry path name tree = .ok result →
      NormalizedFrom tree result) ∧
    ∀ fields, tree = .object fields → ∀ path results,
      normalizeExtractFieldMap path fields = .ok results →
      NormalizedFrom (.object fields) (.object results) := by
  induction tree using walk with
  | null | bool | number | array =>
    refine ⟨fun path name result done => ?_, fun fields shape => nomatch shape⟩
    cases done
  | string selector =>
    refine ⟨fun path name result done => ?_, fun fields shape => nomatch shape⟩
    cases done
    refine ⟨fun _ => ?_, ?_⟩
    · rw [ordered_object]
      refine ⟨?_, by simp [JsonTree.Ordered]⟩
      have sorted : "kind" < "selector" := by decide
      simpa [OrderedKeys] using sorted
    · intro text member
      rw [leafTexts_object] at member
      simpa [JsonTree.leafTexts] using member
  | object fields ih =>
    constructor
    · intro path name result done
      obtain ⟨results, inner, rfl⟩ := except_map_eq_ok.mp done
      apply NormalizedFrom.object
      have members := normalizeExtractMembers_eq_ok inner
      refine ((forall₂_and_left _ _).mpr ⟨ih, members⟩).imp ?_
      rintro member result ⟨kept, key, same | ⟨path, nested, fields, old, new, inside⟩⟩
      · exact ⟨key, same ▸ .refl member.2⟩
      · refine ⟨key, ?_⟩
        rw [new, old]
        exact kept.2 nested old path fields inside
    · intro members shape path results done
      cases shape
      apply NormalizedFrom.object
      have entries := normalizeExtractFieldMap_eq_ok done
      refine ((forall₂_and_left _ _).mpr ⟨ih, entries⟩).imp ?_
      rintro field result ⟨kept, key, path, name, entry⟩
      exact ⟨key, kept.1 path name result.2 entry⟩

def normalizeExtractSpecShorthands (spec : Json) : Except RubError Json :=
  match spec with
  | ⟨.object fields, ordered⟩ =>
    match done : normalizeExtractFieldMap "$" fields with
    | .error error => .error error
    | .ok results =>
      .ok ⟨.object results,
        ((normalizedFrom_of_eq_ok (.object fields)).2 fields rfl "$" results done).ordered
          ordered⟩
  | other => .ok other

/-- The leaves of a normalized spec are those of the spec, but for the kind of a shorthand. -/
theorem leafTexts_normalizeExtract {spec normalized : Json}
    (done : normalizeExtractSpecShorthands spec = .ok normalized) :
    ∀ text ∈ normalized.leafTexts, text = "text" ∨ text ∈ spec.leafTexts := by
  obtain ⟨tree, ordered⟩ := spec
  cases tree with
  | object fields =>
    unfold normalizeExtractSpecShorthands at done
    split at done
    · rename_i fields _ shape
      cases shape
      split at done <;> cases done
      exact ((normalizedFrom_of_eq_ok _).2 _ rfl "$" _ ‹_›).leaves
    · rename_i impossible
      exact absurd rfl (impossible _ _)
  | _ =>
    cases done
    exact fun text member => .inr member

/-- The names that a secret pass over a spec looks up. -/
def secretNames (spec : Json) : List String := spec.leafTexts.filterMap parseSecretPlaceholder

/-- The spec a step is given, before anything is done to it. -/
def givenSpec (serde : SerdeJson) (command : String) (args : Json) : Option Json :=
  if command = "fill" then (FillArgs.decode serde args).map FillArgs.spec
  else if command = "extract" then (ExtractCommand.parse serde args).map ExtractCommand.spec
  else none

/-- The spec whose secret references a step resolves. No other command has one. -/
def nestedSpec (serde : SerdeJson) (command : String) (args : Json) : Option Json :=
  (givenSpec serde command args).bind fun spec =>
    if command = "extract" then (normalizeExtractSpecShorthands spec).toOption else some spec

/-- The names a step looks up itself. -/
def nestedNames (serde : SerdeJson) (command : String) (args : Json) : List String :=
  ((nestedSpec serde command args).map secretNames).getD []

/-- What a step looks up is referred to by a leaf of the spec it was given. -/
theorem reference_of_mem_nestedNames {serde : SerdeJson} {command name : String} {args : Json}
    (looked : name ∈ nestedNames serde command args) :
    ∃ spec, givenSpec serde command args = some spec ∧ secretReference name ∈ spec.leafTexts := by
  unfold nestedNames nestedSpec at looked
  cases given : givenSpec serde command args with
  | none =>
    rw [given] at looked
    cases looked
  | some spec =>
    refine ⟨spec, rfl, ?_⟩
    rw [given, Option.bind_some] at looked
    split at looked
    · cases normalized : normalizeExtractSpecShorthands spec <;> rw [normalized] at looked
      · cases looked
      · obtain ⟨text, inside, parsed⟩ := mem_filterMap.mp looked
        rcases leafTexts_normalizeExtract normalized text inside with rfl | kept
        · cases parsed
        · rwa [← parseSecretPlaceholder_eq_some parsed]
    · obtain ⟨text, inside, parsed⟩ := mem_filterMap.mp looked
      rwa [← parseSecretPlaceholder_eq_some parsed]

variable {command : String} {spec : Json} {sources other : SecretSources}

theorem resolveSecretPlaceholders_congr
    (same : ∀ name ∈ secretNames spec, other.resolve name = sources.resolve name)
    (metadata : SecretResolutionMetadata) :
    resolveSecretPlaceholders spec command other metadata =
      resolveSecretPlaceholders spec command sources metadata := by
  have texts : ∀ text ∈ spec.leafTexts,
      resolveSecretText command other text = resolveSecretText command sources text := by
    intro text member
    unfold resolveSecretText
    cases parsed : parseSecretPlaceholder text with
    | none => rfl
    | some name => simp only [same name (mem_filterMap.mpr ⟨text, member, parsed⟩)]
  have records : ∀ text ∈ spec.leafTexts, ∀ known,
      recordSecretText other known text = recordSecretText sources known text := by
    intro text member known
    unfold recordSecretText
    cases parsed : parseSecretPlaceholder text with
    | none => rfl
    | some name => simp only [same name (mem_filterMap.mpr ⟨text, member, parsed⟩)]
  have recorded : spec.leafTexts.foldl (recordSecretText other) metadata =
      spec.leafTexts.foldl (recordSecretText sources) metadata :=
    foldl_ext _ _ _ fun known text member => records text member known
  unfold resolveSecretPlaceholders
  rw [tryLeaves_congr texts, recorded]

end Rub
