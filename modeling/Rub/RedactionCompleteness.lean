import Rub.SecretResolution

/-!
What redaction leaves of the recorded secrets. Every text it rewrites is free of them; the
keys of objects and the texts of I/O and JSON errors are not rewritten.
-/

namespace Rub

open List

/-- A secret as it was looked up; it is recorded under the reference of its name. -/
structure RecordedSecret where
  name : String
  value : String
  source : SecretSource

def recordSecrets (secrets : List RecordedSecret) : SecretResolutionMetadata :=
  secrets.foldl (fun metadata secret =>
    metadata.record (secretReference secret.name) secret.value secret.source) .empty

/-- No value has a character of a recorded reference. -/
def Unmixed (secrets : List RecordedSecret) : Prop :=
  ∀ secret ∈ secrets, ∀ other ∈ secrets,
    ∀ c ∈ (secretReference other.name).toList, c ∉ secret.value.toList

/-- The text contains a non-empty secret value. -/
def Exposes (secrets : List RecordedSecret) (text : String) : Prop :=
  ∃ secret ∈ secrets, secret.value ≠ "" ∧ secret.value.toList <:+: text.toList

/-- The strings inside a value, leaves and keys at any depth. -/
def Json.texts (value : Json) : List String := value.leafTexts ++ value.keyTexts

def RubError.texts : RubError → List String
  | .domain envelope =>
    envelope.message :: envelope.suggestion :: (envelope.context.elim [] Json.texts)
  | .io message => [message]
  | .json message => [message]
  | .internal message => [message]

/-- The strings of an error that redaction does not rewrite. -/
def RubError.unredactedTexts : RubError → List String
  | .domain envelope => envelope.context.elim [] Json.keyTexts
  | .io message => [message]
  | .json message => [message]
  | .internal _ => []

variable {entries : List SecretResolutionEntry}

/-- Each reference has a character, and none of a value. -/
def EntriesUnmixed (entries : List SecretResolutionEntry) : Prop :=
  ∀ entry ∈ entries, ∀ other ∈ entries,
    other.reference.toList ≠ [] ∧ ∀ c ∈ other.reference.toList, c ∉ entry.value.toList

theorem toList_ne_nil {text : String} (nonempty : text ≠ "") : text.toList ≠ [] := by
  intro empty
  exact nonempty (String.toList_injective empty)

variable {entry : SecretResolutionEntry}

/-- Taking one recorded value out makes no occurrence of a word apart from its reference. -/
theorem not_infix_redactEntry {word text : List Char}
    (nonempty : word ≠ []) (reference : entry.reference.toList ≠ [])
    (apart : ∀ c ∈ entry.reference.toList, c ∉ word) (absent : ¬ word <:+: text) :
    ¬ word <:+: redactEntry text entry := by
  unfold redactEntry
  split
  · exact absent
  · rename_i valued
    split
    · exact not_infix_replaceAll (toList_ne_nil valued) reference nonempty apart absent
    · exact absent

theorem value_not_infix_redactEntry {text : List Char}
    (valued : entry.value ≠ "") (reference : entry.reference.toList ≠ [])
    (apart : ∀ c ∈ entry.reference.toList, c ∉ entry.value.toList) :
    ¬ entry.value.toList <:+: redactEntry text entry := by
  unfold redactEntry
  rw [if_neg valued]
  split
  · exact pattern_not_infix_replaceAll (toList_ne_nil valued) reference apart
  · assumption

theorem not_infix_foldl_redactEntry {word : List Char} (nonempty : word ≠ [])
    (apart : ∀ entry ∈ entries,
      entry.reference.toList ≠ [] ∧ ∀ c ∈ entry.reference.toList, c ∉ word)
    {text : List Char} (absent : ¬ word <:+: text) :
    ¬ word <:+: entries.foldl redactEntry text := by
  induction entries generalizing text with
  | nil => exact absent
  | cons _ _ ih =>
    obtain ⟨⟨reference, letters⟩, rest⟩ := forall_mem_cons.mp apart
    exact ih rest (not_infix_redactEntry nonempty reference letters absent)

/-- After all recorded values were taken out in turn, none of them is left: a later turn
brings no earlier value back. -/
theorem value_not_infix_foldl_redactEntry (unmixed : EntriesUnmixed entries)
    (member : entry ∈ entries) (valued : entry.value ≠ "")
    (text : List Char) : ¬ entry.value.toList <:+: entries.foldl redactEntry text := by
  obtain ⟨before, after, rfl⟩ := append_of_mem member
  have apart := unmixed entry member
  rw [foldl_append, foldl_cons]
  apply not_infix_foldl_redactEntry (toList_ne_nil valued)
  · intro later inside
    exact apart later (mem_append_right _ (mem_cons_of_mem _ inside))
  · obtain ⟨reference, letters⟩ := apart entry member
    exact value_not_infix_redactEntry valued reference letters

variable {secrets : List RecordedSecret}

/-- The recorded entries are those of the secrets, and no secret's value is missing. -/
theorem recordSecrets_entries (secrets : List RecordedSecret) :
    (∀ entry ∈ (recordSecrets secrets).entries, ∃ secret ∈ secrets,
      entry.reference = secretReference secret.name ∧ entry.value = secret.value) ∧
    ∀ secret ∈ secrets, ∃ entry ∈ (recordSecrets secrets).entries, entry.value = secret.value := by
  unfold recordSecrets
  induction secrets using List.reverseRecOn with
  | nil => simp [SecretResolutionMetadata.empty]
  | append_singleton _ secret ih =>
    obtain ⟨origin, present⟩ := ih
    rw [foldl_append, foldl_cons, foldl_nil]
    constructor
    · intro entry member
      rcases mem_record member with older | rfl
      · obtain ⟨source, inside, same⟩ := origin entry older
        exact ⟨source, mem_append_left _ inside, same⟩
      · exact ⟨secret, by simp, rfl, rfl⟩
    · intro other member
      rcases mem_append.mp member with older | new
      · obtain ⟨entry, inside, same⟩ := present other older
        exact ⟨entry, mem_record_of_mem inside .., same⟩
      · obtain rfl := mem_singleton.mp new
        exact value_mem_record ..

theorem entriesUnmixed_recordSecrets (unmixed : Unmixed secrets) :
    EntriesUnmixed (recordSecrets secrets).entries := by
  intro entry member other otherMember
  obtain ⟨secret, inside, -, value⟩ := (recordSecrets_entries secrets).1 entry member
  obtain ⟨referred, referredInside, reference, -⟩ :=
    (recordSecrets_entries secrets).1 other otherMember
  rw [reference, value]
  refine ⟨?_, unmixed secret inside referred referredInside⟩
  simp [secretReference]

theorem not_exposes_empty (secrets : List RecordedSecret) : ¬ Exposes secrets "" := by
  rintro ⟨secret, -, valued, occurs⟩
  exact toList_ne_nil valued (eq_nil_of_infix_nil occurs)

theorem not_exposes_redactString (unmixed : Unmixed secrets) (text : String) :
    ¬ Exposes secrets (redactString text (recordSecrets secrets)) := by
  unfold redactString
  split
  · rename_i empty
    rw [empty]
    exact not_exposes_empty secrets
  · rintro ⟨secret, member, valued, occurs⟩
    obtain ⟨entry, inside, same⟩ := (recordSecrets_entries secrets).2 secret member
    rw [String.toList_ofList, ← same] at occurs
    rw [← same] at valued
    exact value_not_infix_foldl_redactEntry (entriesUnmixed_recordSecrets unmixed) inside valued _
      occurs

theorem not_exposes_of_isEmpty (none : (recordSecrets secrets).isEmpty = true) (text : String) :
    ¬ Exposes secrets text := by
  rintro ⟨secret, member, -, -⟩
  obtain ⟨entry, inside, -⟩ := (recordSecrets_entries secrets).2 secret member
  rw [List.isEmpty_iff.mp none] at inside
  cases inside

theorem redactJsonValue_clean_iff (unmixed : Unmixed secrets) (value : Json) :
    (∀ text ∈ (redactJsonValue value (recordSecrets secrets)).texts, ¬ Exposes secrets text) ↔
      ∀ key ∈ value.keyTexts, ¬ Exposes secrets key := by
  cases none : (recordSecrets secrets).isEmpty with
  | true => simp [not_exposes_of_isEmpty none]
  | false =>
    simp only [redactJsonValue, none, Bool.false_eq_true, if_false, Json.texts,
      Json.leafTexts_mapLeaves, Json.keyTexts_mapLeaves, forall_mem_append]
    refine and_iff_right fun text member => ?_
    obtain ⟨leaf, -, rfl⟩ := mem_map.mp member
    exact not_exposes_redactString unmixed leaf

theorem redactRubError_clean_iff (unmixed : Unmixed secrets) (error : RubError) :
    (∀ text ∈ (redactRubError error (recordSecrets secrets)).texts, ¬ Exposes secrets text) ↔
      ∀ text ∈ error.unredactedTexts, ¬ Exposes secrets text := by
  have rewritten := not_exposes_redactString unmixed
  cases none : (recordSecrets secrets).isEmpty with
  | true => simp [not_exposes_of_isEmpty none]
  | false =>
    simp only [redactRubError, none, Bool.false_eq_true, if_false]
    cases error with
    | domain envelope =>
      simp only [RubError.texts, RubError.unredactedTexts, forall_mem_cons, rewritten,
        not_false_eq_true, true_and]
      cases envelope.context with
      | none => simp
      | some context => exact redactJsonValue_clean_iff unmixed context
    | io => rfl
    | json => rfl
    | internal => simp [RubError.texts, RubError.unredactedTexts, rewritten]

/-- Redaction clears everything of secrets exactly when no secret is in an object key, nor in
the text of an I/O or JSON error. -/
theorem redaction_complete_iff (secrets : List RecordedSecret) (unmixed : Unmixed secrets)
    (value : Json) (error : RubError) :
    ((∀ text ∈ (redactJsonValue value (recordSecrets secrets)).texts, ¬ Exposes secrets text) ↔
      ∀ key ∈ value.keyTexts, ¬ Exposes secrets key) ∧
    ((∀ text ∈ (redactRubError error (recordSecrets secrets)).texts, ¬ Exposes secrets text) ↔
      ∀ text ∈ error.unredactedTexts, ¬ Exposes secrets text) :=
  ⟨redactJsonValue_clean_iff unmixed value, redactRubError_clean_iff unmixed error⟩

/-- A password and a longer value that contains it. -/
def overlappingSecrets : List RecordedSecret :=
  [⟨"RUB_PASSWORD", "hunter", .secretsFile⟩, ⟨"RUB_TOKEN", "hunter2hunter", .environment⟩]

theorem overlappingSecrets_unmixed : Unmixed overlappingSecrets := by
  have checked : (overlappingSecrets.all fun secret => overlappingSecrets.all fun other =>
      (secretReference other.name).toList.all fun c => !secret.value.toList.contains c) = true := by
    decide
  simpa [Unmixed] using checked

theorem redaction_complete_overlapping :
    Unmixed overlappingSecrets ∧
      (redactString "a hunter2hunter2 z" (recordSecrets overlappingSecrets) =
        "a $RUB_TOKEN2 z") ∧
      ∀ text ∈ (redactJsonValue (Json.array [Json.string "a hunter2hunter2 z"])
        (recordSecrets overlappingSecrets)).texts, ¬ Exposes overlappingSecrets text := by
  refine ⟨overlappingSecrets_unmixed, by decide, ?_⟩
  have complete := (redaction_complete_iff overlappingSecrets overlappingSecrets_unmixed
    (Json.array [Json.string "a hunter2hunter2 z"]) (.internal "")).1
  exact complete.mpr fun key member => nomatch member

/-- A page that names a field after the password gets it back in the clear. -/
theorem redaction_misses_object_key :
    Unmixed overlappingSecrets ∧
      "hunter" ∈ (redactJsonValue (Json.object [("hunter", Json.string "hunter")])
        (recordSecrets overlappingSecrets)).texts ∧
      Exposes overlappingSecrets "hunter" := by
  refine ⟨overlappingSecrets_unmixed, by decide, ?_⟩
  exact ⟨_, mem_cons_self, by decide, infix_refl _⟩

end Rub
