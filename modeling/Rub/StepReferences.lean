import Rub.CanonicalJson
import Rub.SecretResolution

/-!
References of a workflow step to the results of earlier steps. A string leaf that is one
`{{reference}}` becomes the value it refers to; otherwise the text of each reference inside
it is spliced in. A `{{` that is never closed stands for itself.
-/

namespace Rub

open Json List

def openBraces : List Char := ['{', '{']

def closeBraces : List Char := ['}', '}']

def parseUsize (text : List Char) : Option Nat :=
  let digits := if ['+'] <+: text then text.drop 1 else text
  if digits ≠ [] ∧ digits.all Char.isDigit then
    let value := digits.foldl (fun value c => value * 10 + (c.toNat - '0'.toNat)) 0
    if value ≤ usizeMax then some value else none
  else none

def bracedReference (reference : List Char) : String :=
  String.ofList (openBraces ++ reference ++ closeBraces)

def Json.member (value : Json) (key : List Char) : Option Json := value.get (String.ofList key)

def Json.item (value : Json) (index : Nat) : Option Json :=
  value.asArray.bind fun items => items[index]?

def pathSegmentMissing (key : List Char) : RubError :=
  .invalidInput ("Path segment '" ++ String.ofList key ++ "' not found in step result")

/-- One segment of a path: a member, an item, or an item of a member. -/
def navigateSegment (current : Json) (segment : List Char) : Except RubError Json :=
  match splitFirst ['['] segment with
  | none =>
    match current.member segment with
    | some value => .ok value
    | none => .error (pathSegmentMissing segment)
  | some (key, bracketContent) => do
    let current ← if key = [] then pure current else
      match current.member key with
      | some value => pure value
      | none => .error (pathSegmentMissing key)
    let indexText := if [']'] <:+ bracketContent then bracketContent.dropLast else bracketContent
    match parseUsize indexText with
    | none =>
      .error (.invalidInput ("Invalid array index '" ++ String.ofList indexText ++ "' in path"))
    | some index =>
      match current.item index with
      | some value => .ok value
      | none =>
        .error (.invalidInput ("Array index " ++ toString index ++
          " out of bounds in step result"))

def navigateJsonPath (value : Json) (path : List Char) : Except RubError Json :=
  if path = [] then .ok value else (path.splitOn '.').foldlM navigateSegment value

def completedLabel (step : Json) : Option String :=
  ((step.get "action").bind fun action => action.get "label").bind asStr

/-- The completed step a reference is about, and the path into it. In a pipe the number of
completed steps is the index of the step. -/
def resolveReferenceTarget (reference : List Char) (completed : List Json) (stepIndex : Nat) :
    Except RubError (Json × List Char) :=
  if "prev.".toList <+: reference then
    if stepIndex = 0 then
      .error (.invalidInputWithContext
        "\x7b\x7bprev.*\x7d\x7d reference used in step 0, but there is no previous step"
        (object [("reference", string (bracedReference reference)),
          ("step_index", natural stepIndex)]))
    else .ok (completed.getD (stepIndex - 1) Json.null, reference.drop 5)
  else if "steps[".toList <+: reference then
    match splitFirst [']'] (reference.drop 6) with
    | none =>
      .error (.invalidInput ("Malformed step reference: missing ']' in '" ++
        bracedReference reference ++ "'"))
    | some (indexOrLabel, rest) =>
      let path := if ['.'] <+: rest then rest.drop 1 else []
      match parseUsize indexOrLabel with
      | some index =>
        if stepIndex ≤ index then
          .error (.invalidInputWithContext
            ("Step reference '" ++ bracedReference ("steps[".toList ++ (toString index).toList
              ++ [']']) ++ "' at step " ++ toString stepIndex ++
              " references a non-completed step")
            (object [("reference", string (bracedReference reference)),
              ("step_index", natural stepIndex),
              ("requested_index", natural index)]))
        else .ok (completed.getD index Json.null, path)
      | none =>
        match completed.find? fun step =>
            completedLabel step == some (String.ofList indexOrLabel) with
        | some step => .ok (step, path)
        | none =>
          .error (.invalidInputWithContext
            ("Step label '" ++ String.ofList indexOrLabel ++ "' not found in completed steps")
            (object [("reference", string (bracedReference reference)),
              ("label", string (String.ofList indexOrLabel)),
              ("step_index", natural stepIndex)]))
  else
    .error (.invalidInput ("Unknown reference '" ++ bracedReference reference ++
      "': must start with 'prev.' or 'steps['"))

def resolveReference (reference : List Char) (completed : List Json) (stepIndex : Nat) :
    Except RubError Json := do
  let (stepValue, path) ← resolveReferenceTarget reference completed stepIndex
  navigateJsonPath stepValue path

/-- The text of a value inside a longer text: a string without quotes, else its JSON. -/
def splicedText (value : Json) : List Char :=
  match value.asStr with
  | some text => text.toList
  | none => canonicalJson value

def resolveSingleReference (reference : List Char) (completed : List Json) (stepIndex : Nat) :
    Except RubError (List Char) :=
  (resolveReference reference completed stepIndex).map splicedText

/-- The reference of a text that is nothing but one, between blanks. -/
def wholePlaceholder (text : String) : Option (List Char) :=
  let trimmed := (trim text).toList
  if openBraces <+: trimmed ∧ closeBraces <:+ trimmed then
    let inner := (trimmed.drop 2).dropLast.dropLast
    if openBraces <:+: inner ∨ closeBraces <:+: inner then none
    else some (trim (String.ofList inner)).toList
  else none

/-- The loop over the references in a text. Each turn takes two characters at least. -/
def resolveTemplateFrom (completed : List Json) (stepIndex : Nat) :
    Nat → List Char → List Char → Except RubError (List Char)
  | 0, result, remaining => .ok (result ++ remaining)
  | fuel + 1, result, remaining =>
    match splitFirst openBraces remaining with
    | none => .ok (result ++ remaining)
    | some (before, afterOpen) =>
      match splitFirst closeBraces afterOpen with
      | none =>
        resolveTemplateFrom completed stepIndex fuel (result ++ before ++ openBraces) afterOpen
      | some (inside, rest) => do
        let resolved ← resolveSingleReference (trim (String.ofList inside)).toList completed
          stepIndex
        resolveTemplateFrom completed stepIndex fuel (result ++ before ++ resolved) rest

def resolveTemplateString (text : String) (completed : List Json) (stepIndex : Nat) :
    Except RubError String :=
  (resolveTemplateFrom completed stepIndex text.toList.length [] text.toList).map String.ofList

def resolveStepText (completed : List Json) (stepIndex : Nat) (text : String) :
    Except RubError Json :=
  match wholePlaceholder text with
  | some reference => resolveReference reference completed stepIndex
  | none => (resolveTemplateString text completed stepIndex).map string

def resolveStepReferences (args : Json) (completed : List Json) (stepIndex : Nat) :
    Except RubError Json :=
  args.tryLeaves (resolveStepText completed stepIndex)

variable {completed : List Json} {stepIndex : Nat} {text : String}

/-- A reference is opened and closed again in the text. -/
def HasReference (text : List Char) : Prop :=
  ∃ before inside after, text = before ++ openBraces ++ inside ++ closeBraces ++ after

theorem HasReference.mono {text whole : List Char} (inside : HasReference text)
    (occurs : text <:+: whole) : HasReference whole := by
  obtain ⟨before, middle, after, rfl⟩ := inside
  obtain ⟨front, back, rfl⟩ := occurs
  exact ⟨front ++ before, middle, after ++ back, by simp⟩

theorem resolveTemplateFrom_inert (fuel : Nat) (result : List Char) {remaining : List Char}
    (inert : ¬ HasReference remaining) :
    resolveTemplateFrom completed stepIndex fuel result remaining = .ok (result ++ remaining) := by
  induction fuel generalizing result remaining with
  | zero => rfl
  | succ _ ih =>
    unfold resolveTemplateFrom
    cases opened : splitFirst openBraces remaining with
    | none => rfl
    | some parts =>
      obtain ⟨before, afterOpen⟩ := parts
      have whole := splitFirst_eq_some opened
      cases closed : splitFirst closeBraces afterOpen with
      | some parts =>
        refine absurd ⟨before, parts.1, parts.2, ?_⟩ inert
        rw [whole, splitFirst_eq_some closed]
        simp
      | none =>
        have later : ¬ HasReference afterOpen := by
          intro inside
          refine inert (inside.mono ?_)
          rw [whole]
          exact (suffix_append _ _).isInfix
        simp only [closed]
        rw [ih _ later, whole]
        simp

theorem trim_isInfix (text : String) : (trim text).toList <:+: text.toList := by
  unfold trim
  rw [String.toList_ofList]
  have front := dropWhile_suffix (l := text.toList) isWhiteSpace
  have back := dropWhile_suffix (l := (text.toList.dropWhile isWhiteSpace).reverse) isWhiteSpace
  have forward := reverse_prefix.mpr back
  rw [reverse_reverse] at forward
  exact forward.isInfix.trans front.isInfix

/-- Braces that open a text and braces that close it do not overlap. -/
theorem hasReference_of_braced {text : List Char} (opened : openBraces <+: text)
    (closed : closeBraces <:+ text) : HasReference text := by
  obtain ⟨tail, rfl⟩ := opened
  obtain ⟨front, same⟩ := closed
  rcases append_eq_append_iff.mp same with ⟨inside, braces, rest⟩ | ⟨inside, -, rest⟩
  · cases inside with
    | nil =>
      rw [nil_append] at rest
      exact ⟨[], [], [], by simp [← rest]⟩
    | cons symbol =>
      have first : symbol ∈ openBraces := by simp [braces]
      have second : symbol ∈ closeBraces := by simp [rest]
      simp only [openBraces, closeBraces, mem_cons, not_mem_nil, or_false, or_self] at first second
      subst first
      exact absurd second (by decide)
  · exact ⟨[], inside, [], by simp [rest]⟩

theorem hasReference_of_whole {reference : List Char}
    (whole : wholePlaceholder text = some reference) : HasReference text.toList := by
  unfold wholePlaceholder at whole
  simp only at whole
  split at whole
  · rename_i braced
    exact (hasReference_of_braced braced.1 braced.2).mono (trim_isInfix text)
  · cases whole

theorem resolveStepText_inert (inert : ¬ HasReference text.toList) :
    resolveStepText completed stepIndex text = .ok (string text) := by
  unfold resolveStepText
  cases whole : wholePlaceholder text with
  | some => exact absurd (hasReference_of_whole whole) inert
  | none =>
    simp only [resolveTemplateString, resolveTemplateFrom_inert _ _ inert, nil_append]
    simp [Except.map]

theorem resolveReference_first (reference : List Char) :
    ∃ error, resolveReference reference [] 0 = .error error := by
  unfold resolveReference resolveReferenceTarget
  split
  · exact ⟨_, rfl⟩
  · split
    · cases splitFirst [']'] (reference.drop 6) with
      | none => exact ⟨_, rfl⟩
      | some parts =>
        obtain ⟨indexOrLabel, rest⟩ := parts
        cases found : parseUsize indexOrLabel with
        | none =>
          simp only [found]
          exact ⟨_, rfl⟩
        | some =>
          simp only [found, Nat.zero_le, if_true]
          exact ⟨_, rfl⟩
    · exact ⟨_, rfl⟩

/-- The first opening is no later than that of any reference, so it is closed behind it. -/
theorem splits_of_hasReference {text : List Char} (reference : HasReference text) :
    ∃ before afterOpen inside rest, splitFirst openBraces text = some (before, afterOpen) ∧
      splitFirst closeBraces afterOpen = some (inside, rest) := by
  obtain ⟨before, inside, after, split⟩ := reference
  rw [append_assoc, append_assoc] at split
  obtain ⟨front, afterOpen, opened, skipped, rest⟩ := splitFirst_of_occurrence split
  rw [← append_assoc, ← append_assoc] at rest
  obtain ⟨name, remaining, closed, -⟩ := splitFirst_of_occurrence rest.symm
  exact ⟨front, afterOpen, name, remaining, opened, closed⟩

theorem resolveStepText_first (reference : HasReference text.toList) :
    ∃ error, resolveStepText [] 0 text = .error error := by
  unfold resolveStepText
  cases whole : wholePlaceholder text with
  | some inner => exact resolveReference_first inner
  | none =>
    obtain ⟨before, afterOpen, name, rest, opened, closed⟩ := splits_of_hasReference reference
    have whole := splitFirst_eq_some opened
    obtain ⟨fuel, turns⟩ : ∃ fuel, text.toList.length = fuel + 1 := by
      refine Nat.exists_eq_succ_of_ne_zero ?_
      simp [whole, openBraces]
    obtain ⟨error, failed⟩ := resolveReference_first (trim (String.ofList name)).toList
    refine ⟨error, ?_⟩
    simp only [resolveTemplateString, turns, resolveTemplateFrom, opened, closed,
      resolveSingleReference, failed]
    rfl

end Rub
