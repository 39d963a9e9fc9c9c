import Rub.NetworkRequests
import Rub.SecretResolution
import Rub.ShellWords

/-!
The curl command that a recorded network request is exported as. Texts of harmless characters
are written as they are, all others in single quotes.
-/

namespace Rub

open List ShellLine

structure CurlExport where
  command : String
  bodyComplete : Bool
  bodyOmittedReason : Option String

/-- The characters that are believed to mean nothing to a shell. -/
def isUnquotedChar (c : Char) : Bool := c.isAlphanum || "-._~/:?&=%@".toList.contains c

/-- A quote is written outside of the single quotes, in double ones. -/
def shellQuoteChar (c : Char) : List Char :=
  if c = '\'' then ['\'', '"', '\'', '"', '\''] else [c]

def shellQuoteText (input : List Char) : List Char :=
  if input.isEmpty then ['\'', '\'']
  else if input.all isUnquotedChar then input
  else '\'' :: input.flatMap shellQuoteChar ++ ['\'']

def shellQuote (input : String) : String := String.ofList (shellQuoteText input.toList)

def asciiCaseEqual (left right : String) : Bool :=
  left.toList.map Char.toLower == right.toList.map Char.toLower

/-- Curl writes these headers itself. -/
def isExportedHeader (header : String × String) : Bool :=
  !(asciiCaseEqual header.1 "content-length" || asciiCaseEqual header.1 "host")

def headerText (header : String × String) : String := header.1 ++ ": " ++ header.2

/-- The body that is exported: none, or a text; and whether something is left out. -/
def exportedBody (body : Option NetworkBodyPreview) :
    Option String × Bool × Option String :=
  match body with
  | none => (none, true, none)
  | some body =>
    if body.available then
      let isTruncated := body.truncated.getD false
      if body.encoding = some "text" ∧ isTruncated = false then
        (some (body.preview.getD ""), true, none)
      else if body.encoding = some "base64" then (none, false, some "request_body_base64")
      else if isTruncated then (none, false, some "request_body_truncated")
      else (none, true, none)
    else (none, false, body.omittedReason)

def buildCurlExport (request : NetworkRequestRecord) : Except RubError CurlExport :=
  if isBlank request.method then
    .error (.domain ((ErrorEnvelope.new .sessionBusy
      "inspect curl requires an authoritative recorded request method").withContext
        (Json.object [("kind", Json.string "network_request"),
          ("id", Json.string request.requestId),
          ("reason", Json.string "request_method_missing")])))
  else
    let headers := (request.requestHeaders.filter isExportedHeader).flatMap fun header =>
      ["-H", shellQuote (headerText header)]
    let body := exportedBody request.requestBody
    let data :=
      match body.1 with
      | some body => ["--data-raw", shellQuote body]
      | none => []
    let parts := ["curl", "-X", shellQuote request.method] ++ headers ++ data ++
      [shellQuote request.url]
    .ok { command := String.ofList (blankSeparated (parts.map String.toList))
          bodyComplete := body.2.1
          bodyOmittedReason := body.2.2 }

/-- The words that the exported command is meant to have. -/
def curlWords (request : NetworkRequestRecord) : List String :=
  ["curl", "-X", request.method] ++
    ((request.requestHeaders.filter isExportedHeader).flatMap fun header =>
      ["-H", headerText header]) ++
    (match (exportedBody request.requestBody).1 with
      | some body => ["--data-raw", body]
      | none => []) ++
    [request.url]

/-- A text that is written as it is, although the shell reads it otherwise. -/
def Exposed (text : List Char) : Prop :=
  text.all isUnquotedChar = true ∧ ('&' ∈ text ∨ '?' ∈ text)

instance (text : List Char) : Decidable (Exposed text) := inferInstanceAs (Decidable (_ ∧ _))

/-- The characters that are left unquoted stand for themselves, but for two of them. -/
theorem plain_or_special {c : Char} (unquoted : isUnquotedChar c = true) :
    isShellPlain c = true ∨ isShellSpecial c = true := by
  by_contra neither
  simp only [isShellPlain, not_or, Bool.not_eq_true, Bool.not_eq_false', Bool.or_eq_true] at neither
  obtain ⟨meant, special⟩ := neither
  have marks : c ∈ ['\'', '"', ' ', '\t'] := by
    simpa [isShellBlank, special, or_assoc] using meant
  have quoted : ∀ d ∈ ['\'', '"', ' ', '\t'], isUnquotedChar d = false := by simp [isUnquotedChar]
  rw [quoted c marks] at unquoted
  cases unquoted

theorem special_of_unquoted {c : Char} (unquoted : isUnquotedChar c = true)
    (special : isShellSpecial c = true) : c = '&' ∨ c = '?' := by
  have others : ∀ d ∈ shellSpecials, isUnquotedChar d = true → d = '&' ∨ d = '?' := by
    simp [shellSpecials, isUnquotedChar]
  exact others c (contains_iff_mem.mp special) unquoted

variable {ended : List (List Char)} {text : List Char}

theorem read_shellQuoteChar {begun : List Char} (c : Char) :
    (⟨ended, some begun, .single⟩ : ShellLine).read (shellQuoteChar c) =
      some ⟨ended, some (begun ++ [c]), .single⟩ := by
  by_cases quote : c = '\''
  · subst quote
    rfl
  · unfold shellQuoteChar
    rw [if_neg quote, read_cons]
    simp [ShellLine.step, quote, ShellLine.add]

theorem read_quotedText {begun text : List Char} :
    (⟨ended, some begun, .single⟩ : ShellLine).read (text.flatMap shellQuoteChar) =
      some ⟨ended, some (begun ++ text), .single⟩ := by
  induction text generalizing begun with
  | nil => simp
  | cons _ _ ih =>
    rw [flatMap_cons, read_append, read_shellQuoteChar]
    show ShellLine.read _ _ = _
    rw [ih, append_assoc, singleton_append]

theorem readsAs_shellQuoteText (covered : ¬Exposed text) : ReadsAs (shellQuoteText text) text := by
  intro ended
  unfold shellQuoteText
  cases text with
  | nil => rfl
  | cons c text =>
    rw [if_neg (by simp)]
    by_cases unquoted : (c :: text).all isUnquotedChar = true
    · rw [if_pos unquoted]
      have plain : ∀ d ∈ c :: text, isShellPlain d = true := by
        intro d member
        have bare := all_eq_true.mp unquoted d member
        refine (plain_or_special bare).resolve_right fun special => covered ⟨unquoted, ?_⟩
        rcases special_of_unquoted bare special with rfl | rfl
        · exact .inl member
        · exact .inr member
      rw [read_cons, step_plain rfl (plain c mem_cons_self)]
      exact read_plain fun d member => plain d (mem_cons_of_mem _ member)
    · rw [if_neg unquoted, cons_append, read_cons]
      show ShellLine.read ⟨ended, some [], .single⟩ _ = _
      rw [read_append, read_quotedText]
      rfl

theorem readsAsNone_of_exposed (exposed : Exposed text) : ReadsAsNone (shellQuoteText text) := by
  intro ended
  obtain ⟨unquoted, found⟩ := exposed
  have filled : text.isEmpty = false := by
    rcases found with member | member
    · exact isEmpty_eq_false_iff.mpr (ne_nil_of_mem member)
    · exact isEmpty_eq_false_iff.mpr (ne_nil_of_mem member)
  unfold shellQuoteText
  rw [filled, unquoted]
  refine read_special rfl ?_ ?_
  · intro c member
    exact plain_or_special (all_eq_true.mp unquoted c member)
  · rcases found with member | member
    · exact ⟨'&', member, by decide⟩
    · exact ⟨'?', member, by decide⟩

/-- A line of quoted words has these words exactly if none of them is exposed. -/
theorem shellWords_quoted_iff {words : List (List Char)} (filled : words ≠ []) :
    shellWords (blankSeparated (words.map shellQuoteText)) = some words ↔
      ∀ word ∈ words, ¬Exposed word := by
  constructor
  · intro read word member exposed
    have spoiled := shellWords_of_readsAsNone member (readsAsNone_of_exposed exposed)
      fun each _ => by
        by_cases covered : Exposed each
        · exact .inr (readsAsNone_of_exposed covered)
        · exact .inl (readsAs_shellQuoteText covered)
    rw [spoiled] at read
    cases read
  · intro covered
    exact shellWords_blankSeparated filled fun each member =>
      readsAs_shellQuoteText (covered each member)

/-- The parts of the command are the quoted words: its own options quote to themselves. -/
theorem command_eq {request : NetworkRequestRecord} {exported : CurlExport}
    (built : buildCurlExport request = .ok exported) :
    exported.command.toList =
      blankSeparated (((curlWords request).map String.toList).map shellQuoteText) := by
  unfold buildCurlExport at built
  split at built
  · cases built
  · cases built
    have header : ∀ headers : List (String × String),
        (headers.flatMap fun header => ["-H", shellQuote (headerText header)]).map String.toList =
          ((headers.flatMap fun header => ["-H", headerText header]).map String.toList).map
            shellQuoteText := by
      intro headers
      induction headers with
      | nil => rfl
      | cons _ _ ih =>
        simp only [flatMap_cons, map_append, ih]
        refine congrArg (· ++ _) ?_
        simp only [map_cons, map_nil, shellQuote, String.toList_ofList]
        rfl
    simp only [String.toList_ofList]
    refine congrArg blankSeparated ?_
    unfold curlWords
    simp only [map_append, header]
    refine congrArg₂ (· ++ ·) (congrArg₂ (· ++ ·) (congrArg (· ++ _) ?_) ?_) ?_
    · simp only [map_cons, map_nil, shellQuote, String.toList_ofList]
      rfl
    · cases (exportedBody request.requestBody).1 with
      | none => rfl
      | some =>
        simp only [map_cons, map_nil, shellQuote, String.toList_ofList]
        rfl
    · simp only [map_cons, map_nil, shellQuote, String.toList_ofList]

/--
The exported command has the words it is meant to have, each as it was recorded, exactly if no
word is exposed: one of unquoted characters only, with an ampersand or a question mark.
-/
theorem curl_command_words_iff (request : NetworkRequestRecord) (exported : CurlExport)
    (built : buildCurlExport request = .ok exported) :
    (shellWords exported.command.toList).map (List.map String.ofList) = some (curlWords request) ↔
      ∀ text ∈ curlWords request, ¬Exposed text.toList := by
  have filled : (curlWords request).map String.toList ≠ [] := by
    unfold curlWords
    simp
  have quoted := shellWords_quoted_iff filled
  rw [← command_eq built] at quoted
  have covered : (∀ word ∈ (curlWords request).map String.toList, ¬Exposed word) ↔
      ∀ text ∈ curlWords request, ¬Exposed text.toList := by
    simp
  rw [← covered, ← quoted]
  constructor
  · intro read
    obtain ⟨words, found, same⟩ := Option.map_eq_some_iff.mp read
    rw [found, ← same, map_map]
    simp
  · intro read
    rw [read, Option.map_some, map_map]
    simp

def recordedRequest (method url : String) (headers : List (String × String))
    (body : Option NetworkBodyPreview) : NetworkRequestRecord where
  requestId := "1"
  lifecycle := .completed
  url := url
  method := method
  tabTargetId := none
  status := some 200
  requestHeaders := headers
  responseHeaders := []
  requestBody := body
  responseBody := none
  originalUrl := none
  rewrittenUrl := none
  appliedRuleEffects := []
  errorText := none
  frameId := none
  resourceType := none
  mimeType := none
  sequence := 1

def quotedPost : NetworkRequestRecord :=
  recordedRequest "POST" "https://h/?q='a b'" [("Host", "h"), ("Accept", "*/*")]
    (some ⟨true, some "it's; ls", some "text", none, none⟩)

/-- Texts with blanks and quotes are read as they were recorded. -/
theorem quoted_post_words : ∃ exported,
    buildCurlExport quotedPost = .ok exported ∧
      (shellWords exported.command.toList).map (List.map String.ofList) =
        some ["curl", "-X", "POST", "-H", "Accept: */*", "--data-raw", "it's; ls",
          "https://h/?q='a b'"] := by
  refine ⟨_, rfl, ?_⟩
  exact (curl_command_words_iff quotedPost _ rfl).mpr (by decide)

/-- With two query parameters the command ends at the ampersand between them. -/
theorem second_query_parameter_detached : ∃ request exported,
    request = recordedRequest "GET" "https://h/?a=1&b=2" [] none ∧
      buildCurlExport request = .ok exported ∧
      exported.command = "curl -X GET https://h/?a=1&b=2" ∧
      shellWords exported.command.toList = none := by
  refine ⟨_, _, rfl, rfl, ?_, ?_⟩ <;> decide

end Rub
