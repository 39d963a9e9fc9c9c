import Rub.CanonicalJson
import Rub.FreshName
import Rub.SecretResolution

/-!
The output paths of a batch of saved assets. A file name is made from the URL and the name of
a source, and the repeats of a name are numbered. When the download starts, the extension may
change with the content, and the path is reserved among those of the batch.
-/

namespace Rub

open Function List

/-- The stem and the extension of a file name: what stands before and behind the last dot,
unless nothing stands before it. -/
def rsplitFileAtDot (file : String) : Option (String × String) :=
  let after := (file.toList.reverse.takeWhile fun c => c ≠ '.').reverse
  let before := (file.toList.reverse.dropWhile fun c => c ≠ '.').reverse.dropLast
  if file = ".." ∨ '.' ∉ file.toList ∨ before = [] then none
  else some (String.ofList before, String.ofList after)

def hasFileName (name : String) : Bool := name ≠ "" && name ≠ "." && name ≠ ".."

def fileStem (name : String) : Option String :=
  if hasFileName name then some (((rsplitFileAtDot name).map Prod.fst).getD name) else none

def fileExtension (name : String) : Option String :=
  if hasFileName name then (rsplitFileAtDot name).map Prod.snd else none

def withExtension (name extension : String) : String :=
  match fileStem name with
  | none => name
  | some stem => if extension = "" then stem else stem ++ "." ++ extension

def withNumericSuffix (fileName : String) (sequence : Nat) : String :=
  let stem := (fileStem fileName).getD "asset"
  match fileExtension fileName with
  | some extension => stem ++ "-" ++ toString sequence ++ "." ++ extension
  | none => stem ++ "-" ++ toString sequence

/-- What the text and URL libraries do: the classes of characters, the last path segment of a
URL that is not empty, and the URL a link leads to from a base. -/
structure AssetHost where
  alphabetic : Char → Bool
  alphanumeric : Char → Bool
  lastPathSegment : String → Option String
  joinUrl : String → String → Except RubError String

variable (host : AssetHost)

def trimMatches (strip : Char → Bool) (text : List Char) : List Char :=
  ((text.dropWhile strip).reverse.dropWhile strip).reverse

def sanitizeFilename (raw : String) : String :=
  String.ofList (trimMatches (fun c => c = '_' ∨ c = '.') (raw.toList.map fun c =>
    if host.alphanumeric c then c
    else if c = '.' ∨ c = '_' ∨ c = '-' then c
    else '_'))

def toAsciiLowercase (text : String) : String := String.ofList (text.toList.map Char.toLower)

def normalizeKnownExtension (extension : String) : Option String :=
  match toAsciiLowercase extension with
  | "jpg" | "jpeg" => some "jpg"
  | "png" => some "png"
  | "gif" => some "gif"
  | "webp" => some "webp"
  | "avif" => some "avif"
  | "heic" => some "heic"
  | "heif" => some "heif"
  | "svg" => some "svg"
  | "json" => some "json"
  | "txt" => some "txt"
  | "html" | "htm" => some "html"
  | "bin" => some "bin"
  | _ => none

def splitKnownExtension (value : String) : String × Option String :=
  match fileStem value, (fileExtension value).bind normalizeKnownExtension with
  | some stem, some extension => if stem ≠ "" then (stem, some extension) else (value, none)
  | _, _ => (value, none)

def isMeaningfulFilenameStem (value : String) : Bool :=
  let letters := value.toList.countP host.alphabetic
  let digits := value.toList.countP fun c => !host.alphabetic c && c.isDigit
  value ≠ "" && (0 < letters || 3 ≤ digits)

def buildBaseFilename (url : String) (sourceName : Option String) : String :=
  let urlSegment := sanitizeFilename host ((host.lastPathSegment url).getD "asset")
  let urlExtension := (fileExtension urlSegment).filter fun extension => extension ≠ ""
  let urlStem := ((fileStem urlSegment).map (sanitizeFilename host)).filter fun stem => stem ≠ ""
  let (sourceStem, sourceExtension) :=
    ((((sourceName.map (sanitizeFilename host)).filter fun value => value ≠ "").map
      splitKnownExtension).getD ("", none))
  let base := if isMeaningfulFilenameStem host sourceStem then sourceStem
    else urlStem.getD "asset"
  let extension := (urlExtension.or sourceExtension).getD "bin"
  base ++ "." ++ extension

structure OutputPath where
  dir : String
  fileName : String
  deriving DecidableEq

/-- A header value, as far as it is visible text. -/
structure HeaderValue where
  text : Option String

def contentTypeExtension (contentType : HeaderValue) : Option String :=
  contentType.text.bind fun value =>
    let media := trim (String.ofList (value.toList.takeWhile fun c => c ≠ ';'))
    match toAsciiLowercase media with
    | "image/jpeg" => some "jpg"
    | "image/png" => some "png"
    | "image/gif" => some "gif"
    | "image/webp" => some "webp"
    | "image/avif" => some "avif"
    | "image/heic" => some "heic"
    | "image/heif" => some "heif"
    | "image/svg+xml" => some "svg"
    | "application/json" => some "json"
    | "text/plain" => some "txt"
    | "text/html" => some "html"
    | _ => none

def asciiBytes (text : String) : List UInt8 :=
  text.toList.map fun c => UInt8.ofNat c.toNat

def sniffContentExtension (bytes : List UInt8) : Option String :=
  if [0xFF, 0xD8, 0xFF] <+: bytes then some "jpg"
  else if [0x89, 0x50, 0x4E, 0x47, 0x0D, 0x0A, 0x1A, 0x0A] <+: bytes then some "png"
  else if asciiBytes "GIF87a" <+: bytes ∨ asciiBytes "GIF89a" <+: bytes then some "gif"
  else if asciiBytes "RIFF" <+: bytes ∧ asciiBytes "WEBP" <+: bytes.drop 8 then some "webp"
  else if asciiBytes "ftypavif" <+: bytes.drop 4 then some "avif"
  else if asciiBytes "ftypheic" <+: bytes.drop 4 then some "heic"
  else if asciiBytes "ftypheif" <+: bytes.drop 4 then some "heif"
  else none

def reconcileOutputPath (path : OutputPath) (contentType : Option HeaderValue) : OutputPath :=
  if fileExtension path.fileName = some "bin" then
    match contentType.bind contentTypeExtension with
    | none => path
    | some extension => { path with fileName := withExtension path.fileName extension }
  else path

def reconcileOutputPathWithBytes (path : OutputPath) (contentType : Option HeaderValue)
    (firstChunk : Option (List UInt8)) : OutputPath :=
  let reconciled := reconcileOutputPath path contentType
  if fileExtension reconciled.fileName = some "bin" then
    match firstChunk.bind sniffContentExtension with
    | none => reconciled
    | some extension => { reconciled with fileName := withExtension reconciled.fileName extension }
  else reconciled

/-- The candidates for a path that is taken. -/
def numberedPath (path : OutputPath) (sequence : Nat) : OutputPath :=
  let fileName := if hasFileName path.fileName then path.fileName else "asset"
  { path with fileName := withNumericSuffix fileName sequence }

/-- The search runs until it finds a path; that there are more candidates than reserved paths
bounds it. -/
def reserveUniqueOutputPath (path : OutputPath) (reservedPaths : Finset OutputPath) : OutputPath :=
  if path ∉ reservedPaths then path
  else (firstFree reservedPaths (numberedPath path) (reservedPaths.card + 1) 2).getD path

/-- The path of a download that starts, and the paths that are reserved then. -/
def reserveReconciledOutputPath (plannedPath : OutputPath) (contentType : Option HeaderValue)
    (firstChunk : Option (List UInt8)) (reservedPaths : Finset OutputPath) :
    OutputPath × Finset OutputPath :=
  let reconciled := reconcileOutputPathWithBytes plannedPath contentType firstChunk
  let reservedPaths := reservedPaths.erase plannedPath
  if reconciled ∉ reservedPaths then (reconciled, insert reconciled reservedPaths)
  else
    let unique := reserveUniqueOutputPath reconciled reservedPaths
    (unique, insert unique reservedPaths)

/-- The path a source is planned for. The map counts how often a name was planned. -/
def plannedOutputPath (outputDir url : String) (sourceName : Option String)
    (reservedNames : String → Option Nat) : OutputPath × (String → Option Nat) :=
  let fileName := buildBaseFilename host url sourceName
  match reservedNames fileName with
  | some existing =>
    (⟨outputDir, withNumericSuffix fileName (existing + 1)⟩,
      update reservedNames fileName (some (existing + 1)))
  | none => (⟨outputDir, fileName⟩, update reservedNames fileName (some 1))

structure AssetSource where
  index : Nat
  url : String
  sourceName : Option String
  outputPath : OutputPath
  deriving DecidableEq

/-- The request, as far as the planning and the saving of its sources read it. -/
structure DownloadSaveRequest where
  outputDir : String
  baseUrl : Option String
  limit : Option Nat
  overwrite : Bool

def resolveAssetUrl (url : String) (baseUrl : Option String) : Except RubError String :=
  if "http://".toList <+: url.toList ∨ "https://".toList <+: url.toList then .ok url
  else
    match baseUrl with
    | none =>
      .error (.invalidInputWithContext
        "download save encountered a relative URL; provide --base-url to resolve it"
        (Json.object [("url", Json.string url)]))
    | some base => host.joinUrl base url

def planAssetSources (request : DownloadSaveRequest) (index : Nat)
    (reservedNames : String → Option Nat) :
    List (String × Option String) → Except RubError (List AssetSource)
  | [] => .ok []
  | (url, sourceName) :: rows => do
    let resolvedUrl ← resolveAssetUrl host url request.baseUrl
    let (outputPath, reservedNames) :=
      plannedOutputPath host request.outputDir resolvedUrl sourceName reservedNames
    let sources ← planAssetSources request (index + 1) reservedNames rows
    pure ({ index, url := resolvedUrl, sourceName, outputPath } :: sources)

/-- The sources of a batch, from the URLs and names that its file lists. -/
def loadAssetSources (request : DownloadSaveRequest) (rows : List (String × Option String)) :
    Except RubError (List AssetSource) :=
  if rows = [] then
    .error (.invalidInput "download save source did not contain any asset URLs")
  else planAssetSources host request 0 (fun _ => none) ((request.limit.map rows.take).getD rows)

theorem around_last {c : Char} (before : List Char) {after : List Char} (absent : c ∉ after) :
    ((before ++ c :: after).reverse.takeWhile fun d => d ≠ c).reverse = after ∧
      ((before ++ c :: after).reverse.dropWhile fun d => d ≠ c).reverse = before ++ [c] := by
  have other : ∀ d ∈ after.reverse, decide (d ≠ c) = true := by
    intro d member
    refine decide_eq_true fun same => absent ?_
    rw [← same]
    exact mem_reverse.mp member
  have shape : (before ++ c :: after).reverse = after.reverse ++ c :: before.reverse := by simp
  rw [shape, takeWhile_append_of_pos other, dropWhile_append_of_pos other,
    takeWhile_cons_of_neg (by simp), dropWhile_cons_of_neg (by simp)]
  simp

theorem toList_toString_nat (value : Nat) : (toString value).toList = Nat.toDigits 10 value := by
  rw [Nat.toString_eq_ofList_toDigits, String.toList_ofList]

/-- A file name with a stem and an extension. -/
def HasParts (name : String) (stem extension : List Char) : Prop :=
  name.toList = stem ++ '.' :: extension ∧ stem ≠ [] ∧ extension ≠ [] ∧ '.' ∉ extension

variable {stem extension : List Char}

theorem HasParts.hasFileName {name : String} (parts : HasParts name stem extension) :
    hasFileName name = true := by
  obtain ⟨shape, filled, ends, -⟩ := parts
  have long : 3 ≤ name.toList.length := by
    have before := length_pos_iff.mpr filled
    have after := length_pos_iff.mpr ends
    rw [shape, length_append, length_cons]
    omega
  have different : ∀ short : String, short.toList.length < 3 → name ≠ short := by
    rintro short less rfl
    omega
  simp [Rub.hasFileName, different "" (by decide), different "." (by decide),
    different ".." (by decide)]

theorem HasParts.rsplit {name : String} (parts : HasParts name stem extension) :
    rsplitFileAtDot name = some (String.ofList stem, String.ofList extension) := by
  have named := parts.hasFileName
  obtain ⟨shape, filled, ends, absent⟩ := parts
  obtain ⟨after, before⟩ := around_last stem absent
  have link : name ≠ ".." := by
    rintro rfl
    cases named
  unfold rsplitFileAtDot
  simp only [shape, after, before, dropLast_concat]
  rw [if_neg (by simp [link, filled])]

theorem HasParts.toList_withNumericSuffix {name : String} (parts : HasParts name stem extension)
    (sequence : Nat) :
    (withNumericSuffix name sequence).toList =
      (stem ++ '-' :: Nat.toDigits 10 sequence) ++ '.' :: extension := by
  unfold withNumericSuffix fileStem fileExtension
  simp only [parts.hasFileName, if_true, parts.rsplit, Option.map_some, Option.getD_some]
  simp

theorem withNumericSuffix_inj {left right : String} {other ending : List Char}
    (leftParts : HasParts left stem extension) (rightParts : HasParts right other ending)
    {turn next : Nat} (same : withNumericSuffix left turn = withNumericSuffix right next) :
    left = right ∧ turn = next := by
  have texts := congrArg String.toList same
  rw [leftParts.toList_withNumericSuffix, rightParts.toList_withNumericSuffix] at texts
  obtain ⟨numbered, rfl⟩ := append_separator_injective leftParts.2.2.2 rightParts.2.2.2 texts
  obtain ⟨rfl, digits⟩ := append_separator_injective (not_mem_toDigits rfl turn)
    (not_mem_toDigits rfl next) numbered
  refine ⟨String.toList_injective ?_, toDigits_ten_injective digits⟩
  rw [leftParts.1, rightParts.1]

theorem numberedPath_injective (path : OutputPath) : Injective (numberedPath path) := by
  intro turn next same
  have names := congrArg OutputPath.fileName same
  simp only [numberedPath] at names
  generalize (if hasFileName path.fileName then path.fileName else "asset") = name at names
  unfold withNumericSuffix at names
  have texts := congrArg String.toList names
  apply toDigits_ten_injective
  cases extended : fileExtension name with
  | none =>
    simp only [extended, String.toList_append, toList_toString_nat] at texts
    exact append_cancel_left texts
  | some =>
    simp only [extended, String.toList_append, toList_toString_nat] at texts
    exact append_cancel_left (append_cancel_right (append_cancel_right texts))

theorem reserveUniqueOutputPath_not_mem (path : OutputPath) (reserved : Finset OutputPath) :
    reserveUniqueOutputPath path reserved ∉ reserved := by
  unfold reserveUniqueOutputPath
  split
  · assumption
  · obtain ⟨found, search⟩ : ∃ found, firstFree reserved (numberedPath path)
        (reserved.card + 1) 2 = some found := exists_firstFree (numberedPath_injective path) 2
    rw [search]
    exact (firstFree_eq_some search).1

/-- A reconciled path is free once the planned one is given back, and takes its place. -/
theorem reserveReconciledOutputPath_spec (planned : OutputPath) (contentType : Option HeaderValue)
    (firstChunk : Option (List UInt8)) (reserved : Finset OutputPath) :
    let reservation := reserveReconciledOutputPath planned contentType firstChunk reserved
    reservation.1 ∉ reserved.erase planned ∧
      reservation.2 = insert reservation.1 (reserved.erase planned) := by
  unfold reserveReconciledOutputPath
  simp only
  split
  · exact ⟨‹_›, rfl⟩
  · exact ⟨reserveUniqueOutputPath_not_mem _ _, rfl⟩

theorem reserveReconciledOutputPath_plain (planned : OutputPath) (reserved : Finset OutputPath) :
    reserveReconciledOutputPath planned none none reserved =
      (planned, insert planned (reserved.erase planned)) := by
  have kept : reconcileOutputPathWithBytes planned none none = planned := by
    simp [reconcileOutputPathWithBytes, reconcileOutputPath]
  unfold reserveReconciledOutputPath
  rw [kept]
  exact if_pos (Finset.notMem_erase _ _)

variable {host : AssetHost}

theorem mem_of_rsplitFileAtDot {name stem extension : String}
    (split : rsplitFileAtDot name = some (stem, extension)) :
    (∀ c ∈ stem.toList, c ∈ name.toList) ∧ (∀ c ∈ extension.toList, c ∈ name.toList) ∧
      '.' ∉ extension.toList := by
  unfold rsplitFileAtDot at split
  simp only at split
  split at split <;> cases split
  simp only [String.toList_ofList, mem_reverse]
  refine ⟨fun c member => ?_, fun c member => ?_, fun member => ?_⟩
  · have kept := mem_reverse.mp (mem_of_mem_dropLast member)
    exact mem_reverse.mp ((dropWhile_sublist _).mem kept)
  · exact mem_reverse.mp ((takeWhile_sublist _).mem member)
  · have passed := all_eq_true.mp all_takeWhile '.' member
    simp at passed

theorem mem_of_fileStem {name stem : String} (found : fileStem name = some stem) :
    ∀ c ∈ stem.toList, c ∈ name.toList := by
  unfold fileStem at found
  split at found <;> cases found
  cases split : rsplitFileAtDot name with
  | none => exact fun _ member => member
  | some => exact (mem_of_rsplitFileAtDot split).1

theorem mem_of_fileExtension {name extension : String}
    (found : fileExtension name = some extension) :
    (∀ c ∈ extension.toList, c ∈ name.toList) ∧ '.' ∉ extension.toList := by
  unfold fileExtension at found
  split at found
  · obtain ⟨_, split, rfl⟩ := Option.map_eq_some_iff.mp found
    exact (mem_of_rsplitFileAtDot split).2
  · cases found

/-- A path separator is no letter or digit. -/
def AssetHost.Separates (host : AssetHost) : Prop := host.alphanumeric '/' = false

theorem slash_not_mem_sanitizeFilename (separates : host.Separates) (raw : String) :
    '/' ∉ (sanitizeFilename host raw).toList := by
  rw [sanitizeFilename, String.toList_ofList]
  intro member
  have kept := (dropWhile_sublist _).mem
    (mem_reverse.mp ((dropWhile_sublist _).mem (mem_reverse.mp member)))
  obtain ⟨c, -, mapped⟩ := mem_map.mp kept
  split at mapped
  · rename_i letter
    rw [mapped, separates] at letter
    cases letter
  · split at mapped
    · subst mapped
      simp_all
    · cases mapped

/-- An extension that ends a file name: not empty, without dot and, where the host tells the
separators, without one. -/
def EndsName (host : AssetHost) (extension : String) : Prop :=
  extension ≠ "" ∧ '.' ∉ extension.toList ∧ (host.Separates → '/' ∉ extension.toList)

theorem endsName_of_known {value stem extension : String}
    (split : splitKnownExtension value = (stem, some extension)) : EndsName host extension := by
  unfold splitKnownExtension at split
  (repeat' split at split) <;> cases split
  obtain ⟨given, -, known⟩ := Option.bind_eq_some_iff.mp ‹_›
  unfold normalizeKnownExtension at known
  split at known
  all_goals cases known
  all_goals exact ⟨by decide, by decide, fun _ => by decide⟩

theorem mem_of_splitKnownExtension (value : String) :
    ∀ c ∈ (splitKnownExtension value).1.toList, c ∈ value.toList := by
  unfold splitKnownExtension
  split
  · split
    · exact mem_of_fileStem ‹_›
    · exact fun _ member => member
  · exact fun _ member => member

theorem buildBaseFilename_parts (url : String) (sourceName : Option String) :
    ∃ stem extension, HasParts (buildBaseFilename host url sourceName) stem extension ∧
      (host.Separates → '/' ∉ stem ∧ '/' ∉ extension) := by
  unfold buildBaseFilename
  simp only
  generalize sourced : (Option.map splitKnownExtension _).getD ("", none) = source
  obtain ⟨sourceStem, sourceExtension⟩ := source
  generalize based : (if isMeaningfulFilenameStem host sourceStem then sourceStem else _) = base
  generalize extended : (Option.or _ sourceExtension).getD "bin" = extension
  have filled : base ≠ "" ∧ (host.Separates → '/' ∉ base.toList) := by
    rw [← based]
    split
    · rename_i meaningful
      refine ⟨?_, fun separates member => ?_⟩
      · rintro rfl
        simp [isMeaningfulFilenameStem] at meaningful
      · cases given : Option.filter (fun value => decide (value ≠ ""))
            (sourceName.map (sanitizeFilename host)) with
        | none =>
          rw [given] at sourced
          cases sourced
          cases member
        | some value =>
          rw [given] at sourced
          have split : splitKnownExtension value = (sourceStem, sourceExtension) := sourced
          have whole := mem_of_splitKnownExtension value '/' (by rw [split]; exact member)
          obtain ⟨raw, -, rfl⟩ := Option.map_eq_some_iff.mp (Option.filter_eq_some_iff.mp given).1
          exact slash_not_mem_sanitizeFilename separates raw whole
    · cases stem : Option.filter (fun stem => decide (stem ≠ ""))
          ((fileStem (sanitizeFilename host ((host.lastPathSegment url).getD "asset"))).map
            (sanitizeFilename host)) with
      | none => exact ⟨by decide, fun _ => by decide⟩
      | some =>
        have kept := Option.filter_eq_some_iff.mp stem
        obtain ⟨raw, -, rfl⟩ := Option.map_eq_some_iff.mp kept.1
        exact ⟨by simpa using kept.2, fun separates => slash_not_mem_sanitizeFilename separates raw⟩
  have ending : EndsName host extension := by
    rw [← extended]
    cases own : Option.filter (fun extension => decide (extension ≠ ""))
        (fileExtension (sanitizeFilename host ((host.lastPathSegment url).getD "asset"))) with
    | some =>
      have kept := Option.filter_eq_some_iff.mp own
      obtain ⟨within, single⟩ := mem_of_fileExtension kept.1
      exact ⟨by simpa using kept.2, single, fun separates member =>
        slash_not_mem_sanitizeFilename separates _ (within '/' member)⟩
    | none =>
      cases sourceExtension with
      | none => exact ⟨by decide, by decide, fun _ => by decide⟩
      | some =>
        cases given : Option.filter (fun value => decide (value ≠ ""))
            (sourceName.map (sanitizeFilename host)) with
        | none =>
          rw [given] at sourced
          cases sourced
        | some =>
          rw [given] at sourced
          exact endsName_of_known sourced
  refine ⟨base.toList, extension.toList, ⟨?_, ?_, ?_, ending.2.1⟩,
    fun separates => ⟨filled.2 separates, ending.2.2 separates⟩⟩
  · simp
  · exact fun empty => filled.1 (String.toList_eq_nil_iff.mp empty)
  · exact fun empty => ending.1 (String.toList_eq_nil_iff.mp empty)

/-- The names of the sources before they are told apart. -/
def baseNames (host : AssetHost) (sources : List AssetSource) : List String :=
  sources.map fun source => buildBaseFilename host source.url source.sourceName

variable {rows : List (String × Option String)} {request : DownloadSaveRequest}
  {sources : List AssetSource}

theorem planAssetSources_paths {index : Nat} {reservedNames : String → Option Nat}
    (seen : List String) (counted : ∀ name, reservedNames name =
      if seen.count name = 0 then none else some (seen.count name))
    (planned : planAssetSources host request index reservedNames rows = .ok sources) :
    sources.map AssetSource.outputPath = (occurrences seen (baseNames host sources)).map
      fun occurrence => ⟨request.outputDir, numberedName withNumericSuffix occurrence⟩ := by
  induction rows generalizing index reservedNames seen sources with
  | nil =>
    cases planned
    rfl
  | cons row _ ih =>
    obtain ⟨url, sourceName⟩ := row
    obtain ⟨resolvedUrl, -, planned⟩ := except_bind_eq_ok.mp planned
    obtain ⟨rest, others, planned⟩ := except_bind_eq_ok.mp planned
    cases planned
    have given := counted (buildBaseFilename host resolvedUrl sourceName)
    by_cases fresh : seen.count (buildBaseFilename host resolvedUrl sourceName) = 0
    · rw [if_pos fresh] at given
      simp only [given] at others ⊢
      refine cons_eq_cons.mpr ⟨?_, ih _ (fun name => ?_) others⟩
      · simp [numberedName, fresh]
      · exact counted_cons counted (by rw [fresh])
    · rw [if_neg fresh] at given
      simp only [given] at others ⊢
      refine cons_eq_cons.mpr ⟨?_, ih _ (fun name => ?_) others⟩
      · simp [numberedName, fresh]
      · exact counted_cons counted rfl
where
  counted_cons {reservedNames : String → Option Nat} {seen : List String} {name other : String}
      {next : Nat} (counted : ∀ name, reservedNames name =
        if seen.count name = 0 then none else some (seen.count name))
      (turn : next = seen.count name + 1) :
      update reservedNames name (some next) other =
        if (name :: seen).count other = 0 then none else some ((name :: seen).count other) := by
    by_cases same : other = name
    · subst same
      rw [update_self, count_cons_self, if_neg (by omega), turn]
    · rw [update_of_ne same, count_cons_of_ne (fun again => same again.symm), counted]

theorem loadAssetSources_paths (loaded : loadAssetSources host request rows = .ok sources) :
    sources.map AssetSource.outputPath = (numberRepeats withNumericSuffix
      (baseNames host sources)).map fun fileName => ⟨request.outputDir, fileName⟩ := by
  unfold loadAssetSources at loaded
  split at loaded
  · cases loaded
  · rw [planAssetSources_paths [] (fun _ => rfl) loaded, numberRepeats, map_map]
    rfl

/-- The sources of a batch are planned for distinct paths exactly when no repeat of a base name
is numbered to a base name of the batch. -/
theorem planned_nodup_iff (loaded : loadAssetSources host request rows = .ok sources) :
    (sources.map AssetSource.outputPath).Nodup ↔ ∀ name ∈ baseNames host sources, ∀ turn, 2 ≤ turn →
        turn ≤ (baseNames host sources).count name →
        withNumericSuffix name turn ∉ baseNames host sources := by
  have parts : ∀ name ∈ baseNames host sources, ∃ stem extension, HasParts name stem extension := by
    intro name member
    obtain ⟨source, -, rfl⟩ := mem_map.mp member
    obtain ⟨stem, extension, parts, -⟩ := buildBaseFilename_parts source.url source.sourceName
    exact ⟨stem, extension, parts⟩
  rw [loadAssetSources_paths loaded, nodup_map_iff
    (fun left right same => congrArg OutputPath.fileName same)]
  apply numberRepeats_nodup_iff
  intro left leftMember right rightMember turn other same
  obtain ⟨stem, extension, leftParts⟩ := parts left leftMember
  obtain ⟨otherStem, ending, rightParts⟩ := parts right rightMember
  exact withNumericSuffix_inj leftParts rightParts same

end Rub
