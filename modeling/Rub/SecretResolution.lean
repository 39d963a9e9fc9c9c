import Rub.IpcProtocol
import Rub.JsonLeaves
import Rub.TextSubstitution

/-!
Secret references in command specs. A string leaf that is exactly `$NAME` is replaced by a
secret from the process environment or the secrets file; what was looked up is recorded, and
recorded values are taken out of results and errors again.
-/

namespace Rub

open Json

/-- An error of the domain logic. An I/O or JSON error is kept as its text. -/
inductive RubError where
  | domain (envelope : ErrorEnvelope)
  | io (message : String)
  | json (message : String)
  | internal (message : String)

namespace RubError

def intoEnvelope : RubError → ErrorEnvelope
  | .domain envelope => envelope
  | .io message => ErrorEnvelope.new .ioError message
  | .json message => ErrorEnvelope.new .jsonError message
  | .internal message => ErrorEnvelope.new .internalError message

def invalidInput (message : String) : RubError :=
  .domain (ErrorEnvelope.new .invalidInput message)

def invalidInputWithContext (message : String) (context : Json) : RubError :=
  .domain ((ErrorEnvelope.new .invalidInput message).withContext context)

end RubError

def isSecretNameStart (c : Char) : Bool := c.isAlpha || c == '_'

def isSecretNameChar (c : Char) : Bool := c.isAlphanum || c == '_'

/-- The name of a text that is exactly a dollar sign and a name. -/
def parseSecretPlaceholder (text : String) : Option String :=
  match text.toList with
  | '$' :: first :: rest =>
    if isSecretNameStart first && rest.all isSecretNameChar then
      some (String.ofList (first :: rest))
    else none
  | _ => none

def secretReference (name : String) : String := "$" ++ name

def isValidSecretName (name : String) : Bool :=
  (parseSecretPlaceholder (secretReference name)).isSome

theorem parseSecretPlaceholder_eq_some {text name : String}
    (parsed : parseSecretPlaceholder text = some name) : text = secretReference name := by
  unfold parseSecretPlaceholder at parsed
  split at parsed
  · rename_i first rest shape
    split at parsed
    · cases parsed
      apply String.toList_injective
      simp [shape, secretReference]
    · cases parsed
  · cases parsed

inductive SecretSource where
  | environment | secretsFile
  deriving DecidableEq

structure SecretResolutionEntry where
  reference : String
  value : String
  source : SecretSource
  deriving DecidableEq

/-- What a spec looked up, the longest values first. -/
structure SecretResolutionMetadata where
  entries : List SecretResolutionEntry
  deriving DecidableEq

namespace SecretResolutionMetadata

def empty : SecretResolutionMetadata := ⟨[]⟩

def isEmpty (metadata : SecretResolutionMetadata) : Bool := metadata.entries.isEmpty

/-- Records a lookup once. The sort is stable: equally long values stay in order. -/
def record (metadata : SecretResolutionMetadata) (reference value : String)
    (source : SecretSource) : SecretResolutionMetadata :=
  if metadata.entries.any fun entry => entry.reference == reference && entry.value == value then
    metadata
  else
    ⟨List.insertionSort (fun left right => right.value.utf8ByteSize ≤ left.value.utf8ByteSize)
      (metadata.entries ++ [⟨reference, value, source⟩])⟩

end SecretResolutionMetadata

/-- The process environment and the secrets file, each an ordered map. The file is rejected
when one of its names is not a secret name. -/
structure SecretSources where
  processEnv : List (String × String)
  fileEnv : List (String × String)
  processOrdered : OrderedKeys processEnv
  fileOrdered : OrderedKeys fileEnv
  fileNamed : ∀ entry ∈ fileEnv, isValidSecretName entry.1 = true

namespace SecretSources

theorem named_nil : ∀ entry ∈ ([] : List (String × String)), isValidSecretName entry.1 = true := by
  simp

def resolve (sources : SecretSources) (key : String) : Option (String × SecretSource) :=
  match sources.processEnv.lookup key with
  | some value => some (value, .environment)
  | none => (sources.fileEnv.lookup key).map fun value => (value, .secretsFile)

def referenceForValue (sources : SecretSources) (value : String) :
    Option (String × SecretSource) :=
  if value = "" then none
  else
    match sources.processEnv.find? fun entry => entry.2 == value with
    | some entry => some (secretReference entry.1, .environment)
    | none =>
      (sources.fileEnv.find? fun entry => entry.2 == value).map fun entry =>
        (secretReference entry.1, .secretsFile)

end SecretSources

def unresolvedSecret (command name : String) : RubError :=
  .invalidInputWithContext
    ("Unresolved secret reference '" ++ secretReference name ++ "' in '" ++ command ++ "' spec")
    (object [("command", string command),
      ("reference", string (secretReference name)),
      ("sources", array [string "environment", string "RUB_HOME/secrets.env"])])

/-- What a string leaf is replaced by. -/
def resolveSecretText (command : String) (sources : SecretSources) (text : String) :
    Except RubError Json :=
  match parseSecretPlaceholder text with
  | none => .ok (string text)
  | some name =>
    match sources.resolve name with
    | none => .error (unresolvedSecret command name)
    | some (value, _) => .ok (string value)

/-- The lookup of a string leaf, recorded. -/
def recordSecretText (sources : SecretSources) (metadata : SecretResolutionMetadata)
    (text : String) : SecretResolutionMetadata :=
  match parseSecretPlaceholder text with
  | none => metadata
  | some name =>
    match sources.resolve name with
    | none => metadata
    | some (value, source) => metadata.record (secretReference name) value source

def resolveSecretPlaceholders (spec : Json) (command : String) (sources : SecretSources)
    (metadata : SecretResolutionMetadata) : Except RubError (Json × SecretResolutionMetadata) := do
  let resolved ← spec.tryLeaves (resolveSecretText command sources)
  pure (resolved, spec.leafTexts.foldl (recordSecretText sources) metadata)

structure ResolvedJsonSpec (α : Type) where
  value : α
  metadata : SecretResolutionMetadata

/-- The spec with its secrets, decoded. The secrets are loaded anew for each spec. -/
def resolveJsonValueWithSecretResolution {α : Type} (serde : SerdeJson)
    (decode : Json → Option α) (spec : Json) (command : String)
    (loaded : Except RubError SecretSources) : Except RubError (ResolvedJsonSpec α) := do
  let sources ← loaded
  let (resolved, metadata) ← resolveSecretPlaceholders spec command sources .empty
  match decode resolved with
  | some value => pure { value, metadata }
  | none =>
    .error (.invalidInput ("Invalid JSON spec for '" ++ command ++ "': " ++
      serde.rejection command resolved))

/-- What the secret pass makes of a leaf it does not fail on. -/
def secretText (sources : SecretSources) (text : String) : String :=
  match parseSecretPlaceholder text with
  | none => text
  | some name => ((sources.resolve name).map Prod.fst).getD text

variable {metadata : SecretResolutionMetadata} {entry : SecretResolutionEntry}
  {sources : SecretSources} {command : String}

theorem resolveSecretText_eq_ok {command text : String} {put : Json}
    (resolved : resolveSecretText command sources text = .ok put) :
    put = string (secretText sources text) := by
  unfold resolveSecretText at resolved
  unfold secretText
  (repeat' split at resolved) <;> cases resolved <;> simp [*]

theorem resolveSecretPlaceholders_eq_ok {spec resolved : Json}
    {metadata known : SecretResolutionMetadata}
    (done : resolveSecretPlaceholders spec command sources metadata = .ok (resolved, known)) :
    resolved = spec.mapLeaves (secretText sources) := by
  obtain ⟨result, tried, ⟨⟩⟩ := except_map_eq_ok.mp done
  obtain ⟨succeeds, rfl⟩ := tryLeaves_eq_ok_iff.mp tried
  refine substLeaves_eq_iff.mpr fun text member => ?_
  obtain ⟨put, found⟩ := succeeds text member
  rw [found, resolveSecretText_eq_ok found]
  rfl

theorem resolveJsonValue_eq_ok {α : Type} {serde : SerdeJson} {decode : Json → Option α}
    {spec : Json} {loaded : Except RubError SecretSources} {parsed : ResolvedJsonSpec α}
    (done : resolveJsonValueWithSecretResolution serde decode spec command loaded = .ok parsed) :
    ∃ sources, loaded = .ok sources ∧
      decode (spec.mapLeaves (secretText sources)) = some parsed.value := by
  obtain ⟨sources, ready, done⟩ := except_bind_eq_ok.mp done
  obtain ⟨⟨resolved, known⟩, resolution, done⟩ := except_bind_eq_ok.mp done
  refine ⟨sources, ready, ?_⟩
  rw [← resolveSecretPlaceholders_eq_ok resolution]
  dsimp only at done
  split at done <;> cases done
  assumption

/-- One recorded value taken out of a text. -/
def redactEntry (redacted : List Char) (entry : SecretResolutionEntry) : List Char :=
  if entry.value = "" then redacted
  else if entry.value.toList <:+: redacted then
    replaceAll entry.value.toList entry.reference.toList redacted
  else redacted

def redactString (text : String) (metadata : SecretResolutionMetadata) : String :=
  if text = "" then text
  else String.ofList (metadata.entries.foldl redactEntry text.toList)

def redactJsonValue (value : Json) (metadata : SecretResolutionMetadata) : Json :=
  if metadata.isEmpty then value else value.mapLeaves fun text => redactString text metadata

def redactRubError (error : RubError) (metadata : SecretResolutionMetadata) : RubError :=
  if metadata.isEmpty then error
  else
    match error with
    | .domain envelope =>
      .domain { envelope with
        message := redactString envelope.message metadata
        suggestion := redactString envelope.suggestion metadata
        context := envelope.context.map fun context => redactJsonValue context metadata }
    | .internal message => .internal (redactString message metadata)
    | .io message => .io message
    | .json message => .json message

/-- The reference that takes the place of a leaf which is exactly a secret's value. -/
def redactExactLeaf (sources : SecretSources) (text : String) : String :=
  match sources.referenceForValue text with
  | some (reference, _) => reference
  | none => text

def collectSecretMatch (sources : SecretSources) (metadata : SecretResolutionMetadata)
    (text : String) : SecretResolutionMetadata :=
  match sources.referenceForValue text with
  | some (reference, source) => metadata.record reference text source
  | none => metadata

/-- Leaves that are exactly a secret's value become references; the matches are recorded. -/
def collectSecretMatchesAndRedactExactLeaves (value : Json) (sources : SecretSources)
    (metadata : SecretResolutionMetadata) : Json × SecretResolutionMetadata :=
  (value.mapLeaves (redactExactLeaf sources),
    value.leafTexts.foldl (collectSecretMatch sources) metadata)

def redactJsonValueFromSecretSources (value : Json) (loaded : Except RubError SecretSources) :
    Except RubError (Json × SecretResolutionMetadata) :=
  loaded.map fun sources => collectSecretMatchesAndRedactExactLeaves value sources .empty

open SecretResolutionMetadata

theorem mem_record {reference value : String} {source : SecretSource} :
    entry ∈ (metadata.record reference value source).entries →
      entry ∈ metadata.entries ∨ entry = ⟨reference, value, source⟩ := by
  unfold record
  split
  · exact .inl
  · intro member
    simpa using (List.perm_insertionSort _ _).mem_iff.mp member

theorem mem_record_of_mem
    (member : entry ∈ metadata.entries) (reference value : String) (source : SecretSource) :
    entry ∈ (metadata.record reference value source).entries := by
  unfold record
  split
  · exact member
  · exact (List.perm_insertionSort _ _).mem_iff.mpr (List.mem_append_left _ member)

theorem value_mem_record (metadata : SecretResolutionMetadata) (reference value : String)
    (source : SecretSource) :
    ∃ entry ∈ (metadata.record reference value source).entries, entry.value = value := by
  unfold record
  split
  · rename_i known
    obtain ⟨entry, member, same⟩ := List.any_eq_true.mp known
    exact ⟨entry, member, by simp_all⟩
  · exact ⟨_, (List.perm_insertionSort _ _).mem_iff.mpr (List.mem_append_right _
      (List.mem_singleton_self _)), rfl⟩

end Rub
