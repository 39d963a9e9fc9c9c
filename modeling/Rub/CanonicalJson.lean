import Mathlib.Data.List.Lemmas
import Mathlib.Tactic.IntervalCases
import Rub.Json

/-!
The canonical JSON text of a value: no blanks, object members in key order, and a
string literal that escapes the quote, the backslash and the control characters.
The text is built as a list of characters; every `push` of the source appends.
-/

namespace Rub

open List

def JsonNumber.text : JsonNumber → List Char
  | .posInt value => Nat.toDigits 10 value
  | .negInt value => '-' :: Nat.toDigits 10 (value + 1)
  | .float value => value.text

def escapeJsonChar (c : Char) : List Char :=
  if c = '"' then ['\\', '"']
  else if c = '\\' then ['\\', '\\']
  else if c = '\x08' then ['\\', 'b']
  else if c = '\x0c' then ['\\', 'f']
  else if c = '\n' then ['\\', 'n']
  else if c = '\r' then ['\\', 'r']
  else if c = '\t' then ['\\', 't']
  else if c ≤ '\x1f' then
    ['\\', 'u', '0', '0', Nat.digitChar (c.toNat / 16 % 16), Nat.digitChar (c.toNat % 16)]
  else [c]

def requiresJsonStringEscaping (value : List Char) : Bool :=
  value.any fun c => c ≤ '\x1f' || c == '"' || c == '\\'

def jsonStringLiteral (value : String) : List Char :=
  if requiresJsonStringEscaping value.toList then
    '"' :: value.toList.flatMap escapeJsonChar ++ ['"']
  else '"' :: value.toList ++ ['"']

/-- Texts with a comma before each but the first. -/
def commaSeparated : List (List Char) → List Char
  | [] => []
  | first :: rest => first ++ rest.flatMap fun text => ',' :: text

def memberText (member : String × List Char) : List Char :=
  jsonStringLiteral member.1 ++ ':' :: member.2

mutual

def canonicalJsonText : JsonTree → List Char
  | .null => ['n', 'u', 'l', 'l']
  | .bool true => ['t', 'r', 'u', 'e']
  | .bool false => ['f', 'a', 'l', 's', 'e']
  | .number value => value.text
  | .string value => jsonStringLiteral value
  | .array items => '[' :: commaSeparated (canonicalItemTexts items) ++ [']']
  | .object fields =>
    let entries := (canonicalFieldTexts fields).mergeSort fun left right => left.1 ≤ right.1
    '{' :: commaSeparated (entries.map memberText) ++ ['}']

def canonicalItemTexts : List JsonTree → List (List Char)
  | [] => []
  | item :: items => canonicalJsonText item :: canonicalItemTexts items

def canonicalFieldTexts : List (String × JsonTree) → List (String × List Char)
  | [] => []
  | (key, value) :: fields => (key, canonicalJsonText value) :: canonicalFieldTexts fields

end

def canonicalJson (value : Json) : List Char := canonicalJsonText value.tree

variable {rest tail : List Char}

/-- What follows the backslash of an escape. -/
def unescapeAfterBackslash : List Char → Option (Char × List Char)
  | 'b' :: rest => some ('\x08', rest)
  | 'f' :: rest => some ('\x0c', rest)
  | 'n' :: rest => some ('\n', rest)
  | 'r' :: rest => some ('\r', rest)
  | 't' :: rest => some ('\t', rest)
  | 'u' :: '0' :: '0' :: high :: low :: rest =>
    let lowDigit := if low.isDigit then low.toNat - 48 else low.toNat - 87
    some (Char.ofNat (16 * (high.toNat - 48) + lowDigit), rest)
  | c :: rest => some (c, rest)
  | [] => none

/-- Reads the first character of an escaped literal back. -/
def unescapeJsonChar : List Char → Option (Char × List Char)
  | [] => none
  | c :: rest => if c = '\\' then unescapeAfterBackslash rest else some (c, rest)

theorem unescapeJsonChar_control (n : Nat) (small : n < 32) (rest : List Char) :
    unescapeJsonChar (escapeJsonChar (Char.ofNat n) ++ rest) = some (Char.ofNat n, rest) := by
  interval_cases n <;> rfl

variable {fields : List (String × JsonTree)} {c : Char} {left right : JsonNumber} {separator : Char}

theorem escapeJsonChar_of_plain (printable : ¬ c ≤ '\x1f') (quote : c ≠ '"')
    (backslash : c ≠ '\\') : escapeJsonChar c = [c] := by
  have control : ∀ d : Char, d ≤ '\x1f' → c ≠ d := fun d low same => printable (same ▸ low)
  simp only [escapeJsonChar, quote, backslash, control '\x08' (by decide),
    control '\x0c' (by decide), control '\n' (by decide), control '\r' (by decide),
    control '\t' (by decide), printable, if_false]

theorem unescapeJsonChar_escape (c : Char) (rest : List Char) :
    unescapeJsonChar (escapeJsonChar c ++ rest) = some (c, rest) := by
  by_cases control : c ≤ '\x1f'
  · have small : c.toNat < 32 := Nat.lt_succ_of_le control
    simpa using unescapeJsonChar_control c.toNat small rest
  · by_cases quote : c = '"'
    · subst quote
      rfl
    by_cases backslash : c = '\\'
    · subst backslash
      rfl
    rw [escapeJsonChar_of_plain control quote backslash]
    simp only [singleton_append, unescapeJsonChar, backslash, if_false]

/-- An escaped character never reads as the closing quote of its literal. -/
theorem escapeJsonChar_head_ne_quote (c : Char) (rest tail : List Char) :
    escapeJsonChar c ++ rest ≠ '"' :: tail := by
  intro same
  have read := unescapeJsonChar_escape c rest
  rw [same] at read
  obtain ⟨rfl, rfl⟩ := Prod.mk.inj (Option.some.inj read)
  cases same

theorem flatMap_escape_of_plain {value : List Char}
    (plain : requiresJsonStringEscaping value = false) :
    value.flatMap escapeJsonChar = value := by
  induction value with
  | nil => rfl
  | cons _ _ ih =>
    simp only [requiresJsonStringEscaping, any_cons, Bool.or_eq_false_iff,
      decide_eq_false_iff_not, beq_eq_false_iff_ne] at plain
    obtain ⟨⟨⟨printable, quote⟩, backslash⟩, others⟩ := plain
    rw [flatMap_cons, escapeJsonChar_of_plain printable quote backslash, ih others]
    rfl

/-- The unescaped form of a literal is only a shortcut. -/
theorem jsonStringLiteral_eq (value : String) :
    jsonStringLiteral value = '"' :: value.toList.flatMap escapeJsonChar ++ ['"'] := by
  unfold jsonStringLiteral
  split
  · rfl
  · rename_i plain
    rw [flatMap_escape_of_plain (by simpa using plain)]

theorem escaped_read {left right : List Char} (same : left.flatMap escapeJsonChar ++ '"' :: rest =
      right.flatMap escapeJsonChar ++ '"' :: tail) :
    left = right ∧ rest = tail := by
  induction left generalizing right with
  | nil =>
    cases right with
    | nil => exact ⟨rfl, tail_eq_of_cons_eq same⟩
    | cons d =>
      rw [flatMap_cons, append_assoc] at same
      exact absurd same.symm (escapeJsonChar_head_ne_quote d _ _)
  | cons c _ ih =>
    rw [flatMap_cons, append_assoc] at same
    cases right with
    | nil => exact absurd same (escapeJsonChar_head_ne_quote c _ _)
    | cons =>
      rw [flatMap_cons, append_assoc] at same
      have read := congrArg unescapeJsonChar same
      rw [unescapeJsonChar_escape, unescapeJsonChar_escape] at read
      obtain ⟨rfl, others⟩ := Prod.mk.inj (Option.some.inj read)
      obtain ⟨rfl, tails⟩ := ih others
      exact ⟨rfl, tails⟩

theorem jsonStringLiteral_read {left right : String}
    (same : jsonStringLiteral left ++ rest = jsonStringLiteral right ++ tail) :
    left = right ∧ rest = tail := by
  simp only [jsonStringLiteral_eq, cons_append, append_assoc, nil_append,
    cons.injEq, true_and] at same
  obtain ⟨chars, tails⟩ := escaped_read same
  exact ⟨String.toList_inj.mp chars, tails⟩

def isNumberChar (c : Char) : Bool :=
  c.isDigit || c == '-' || c == '+' || c == '.' || c == 'e'

/-- What may follow a value inside a text: nothing, a comma or a closing bracket. -/
def Stops (text : List Char) : Prop :=
  ∀ c rest, text = c :: rest → c = ',' ∨ c = ']' ∨ c = '}'

theorem stops_nil : Stops [] := by
  intro c rest same
  cases same

theorem stops_comma (rest : List Char) : Stops (',' :: rest) := by
  intro c tail same
  cases same
  exact .inl rfl

theorem isNumberChar_text (number : JsonNumber) : ∀ c ∈ number.text, isNumberChar c = true := by
  intro c member
  cases number with
  | posInt =>
    have digit := Nat.isDigit_of_mem_toDigits (by decide) (by decide) member
    simp [isNumberChar, digit]
  | negInt =>
    rcases mem_cons.mp member with rfl | digits
    · rfl
    · have digit := Nat.isDigit_of_mem_toDigits (by decide) (by decide) digits
      simp [isNumberChar, digit]
  | float value =>
    rcases value.alphabet c member with digit | rfl | rfl | rfl | rfl
    · simp [isNumberChar, digit]
    all_goals rfl

theorem takeWhile_number_text (number : JsonNumber) (stops : Stops rest) :
    (number.text ++ rest).takeWhile isNumberChar = number.text := by
  rw [takeWhile_append_of_pos (isNumberChar_text number)]
  cases rest with
  | nil => simp
  | cons c tail =>
    have other : isNumberChar c = false := by
      rcases stops c tail rfl with rfl | rfl | rfl <;> rfl
    rw [takeWhile_cons_of_neg (by simp [other]), append_nil]

theorem toDigits_ten_injective {left right : Nat}
    (same : Nat.toDigits 10 left = Nat.toDigits 10 right) : left = right := by
  have read := congrArg (Nat.ofDigitChars 10 · 0) same
  simpa only [Nat.ofDigitChars_toDigits (by decide : 1 < 10) (by decide : 10 ≤ 10)] using read

theorem not_mem_toDigits (mark : c.isDigit = false) (value : Nat) : c ∉ Nat.toDigits 10 value := by
  intro member
  rw [Nat.isDigit_of_mem_toDigits (by decide) (by decide) member] at mark
  cases mark

theorem toDigits_ten_ne_float (value : Nat) (float : FloatText) :
    Nat.toDigits 10 value ≠ float.text := by
  intro same
  rcases float.fractional with member | member
  all_goals
    rw [← same] at member
    exact not_mem_toDigits (by decide) value member

theorem negative_ne_float (value : Nat) (float : FloatText) :
    '-' :: Nat.toDigits 10 value ≠ float.text := by
  intro same
  rcases float.fractional with member | member
  all_goals
    rw [← same] at member
    rcases mem_cons.mp member with bad | digits
    · revert bad
      decide
    · exact not_mem_toDigits (by decide) value digits

theorem toDigits_ten_ne_negative (value : Nat) (rest : List Char) :
    Nat.toDigits 10 value ≠ '-' :: rest := by
  intro same
  exact not_mem_toDigits (c := '-') (by decide) value (same ▸ mem_cons_self)

theorem JsonNumber.text_injective (same : left.text = right.text) : left = right := by
  cases left with
  | posInt value =>
    cases right with
    | posInt => exact congrArg _ (toDigits_ten_injective same)
    | negInt => exact absurd same (toDigits_ten_ne_negative value _)
    | float other => exact absurd same (toDigits_ten_ne_float value other)
  | negInt =>
    cases right with
    | posInt other => exact absurd same.symm (toDigits_ten_ne_negative other _)
    | negInt =>
      have magnitudes := toDigits_ten_injective (tail_eq_of_cons_eq same)
      exact congrArg _ (Nat.succ_injective magnitudes)
    | float other => exact absurd same (negative_ne_float _ other)
  | float value =>
    cases right with
    | posInt other => exact absurd same.symm (toDigits_ten_ne_float other value)
    | negInt => exact absurd same.symm (negative_ne_float _ value)
    | float other =>
      cases value
      cases other
      cases same
      rfl

theorem JsonNumber.text_ne_nil (number : JsonNumber) : number.text ≠ [] := by
  cases number with
  | posInt => exact Nat.toDigits_ne_nil
  | negInt => exact cons_ne_nil _ _
  | float value =>
    rcases value.fractional with member | member
    all_goals exact ne_nil_of_mem member

theorem JsonNumber.text_read (stops : Stops rest) (tailStops : Stops tail)
    (same : left.text ++ rest = right.text ++ tail) : left = right ∧ rest = tail := by
  have texts := congrArg (takeWhile isNumberChar) same
  rw [takeWhile_number_text left stops, takeWhile_number_text right tailStops] at texts
  rw [texts] at same
  exact ⟨JsonNumber.text_injective texts, append_cancel_left same⟩

variable {α : Type} {text : α → List Char} {close : Char}

/-- `text` can be read back at `item`, against every member of `others`. -/
def ReadsAgainst (text : α → List Char) (item : α) (others : List α) : Prop :=
  ∀ other ∈ others, ∀ rest tail, Stops rest → Stops tail →
    text item ++ rest = text other ++ tail → item = other ∧ rest = tail

theorem stops_separated (closes : close = ']' ∨ close = '}') (items : List α)
    (rest : List Char) : Stops (items.flatMap (fun item => ',' :: text item) ++ close :: rest) := by
  cases items with
  | nil =>
    intro c tail same
    cases same
    exact .inr closes
  | cons => exact stops_comma _

theorem separated_read (closes : close = ']' ∨ close = '}') {items others : List α}
    (readable : ∀ item ∈ items, ReadsAgainst text item others)
    (same : items.flatMap (fun item => ',' :: text item) ++ close :: rest =
      others.flatMap (fun item => ',' :: text item) ++ close :: tail) :
    items = others ∧ rest = tail := by
  have distinct : ',' ≠ close := by rcases closes with rfl | rfl <;> decide
  induction items generalizing others with
  | nil =>
    cases others with
    | nil => exact ⟨rfl, tail_eq_of_cons_eq same⟩
    | cons => exact absurd (head_eq_of_cons_eq same).symm distinct
  | cons item items ih =>
    cases others with
    | nil => exact absurd (head_eq_of_cons_eq same) distinct
    | cons other others =>
      simp only [flatMap_cons, cons_append, append_assoc, cons.injEq, true_and] at same
      obtain ⟨rfl, remaining⟩ := readable item mem_cons_self other mem_cons_self _ _
        (stops_separated closes items rest) (stops_separated closes others tail) same
      obtain ⟨rfl, tails⟩ := ih (fun item member other inside =>
          readable item (mem_cons_of_mem _ member) other (mem_cons_of_mem _ inside))
        remaining
      exact ⟨rfl, tails⟩

theorem commaSeparated_read (text : α → List Char) (closes : close = ']' ∨ close = '}')
    {items others : List α} (readable : ∀ item ∈ items, ReadsAgainst text item others)
    (opens : ∀ item, ∃ c more, text item = c :: more ∧ c ≠ close)
    (same : commaSeparated (items.map text) ++ close :: rest =
      commaSeparated (others.map text) ++ close :: tail) :
    items = others ∧ rest = tail := by
  cases items with
  | nil =>
    cases others with
    | nil => exact ⟨rfl, tail_eq_of_cons_eq same⟩
    | cons other =>
      obtain ⟨c, more, start, different⟩ := opens other
      simp only [map_cons, commaSeparated, start] at same
      exact absurd (head_eq_of_cons_eq same).symm different
  | cons item items =>
    cases others with
    | nil =>
      obtain ⟨c, more, start, different⟩ := opens item
      simp only [map_cons, commaSeparated, start] at same
      exact absurd (head_eq_of_cons_eq same) different
    | cons other others =>
      simp only [map_cons, commaSeparated, flatMap_map, append_assoc] at same
      obtain ⟨rfl, remaining⟩ := readable item mem_cons_self other mem_cons_self _ _
        (stops_separated closes items rest) (stops_separated closes others tail) same
      obtain ⟨rfl, tails⟩ := separated_read closes (fun item member other inside =>
          readable item (mem_cons_of_mem _ member) other (mem_cons_of_mem _ inside))
        remaining
      exact ⟨rfl, tails⟩

theorem canonicalItemTexts_eq (items : List JsonTree) :
    canonicalItemTexts items = items.map canonicalJsonText := by
  induction items with
  | nil => rfl
  | cons _ _ ih => rw [canonicalItemTexts, map_cons, ih]

theorem canonicalFieldTexts_eq (fields : List (String × JsonTree)) :
    canonicalFieldTexts fields = fields.map fun field => (field.1, canonicalJsonText field.2) := by
  induction fields with
  | nil => rfl
  | cons _ _ ih => rw [canonicalFieldTexts, map_cons, ih]

/-- The text of one member of an object. -/
def fieldText (field : String × JsonTree) : List Char :=
  jsonStringLiteral field.1 ++ ':' :: canonicalJsonText field.2

theorem canonicalJsonText_object (ordered : OrderedKeys fields) :
    canonicalJsonText (.object fields) = '{' :: commaSeparated (fields.map fieldText) ++ ['}'] := by
  have sorted : ((canonicalFieldTexts fields).mergeSort fun left right => left.1 ≤ right.1) =
      canonicalFieldTexts fields := by
    refine mergeSort_of_pairwise ?_
    rw [canonicalFieldTexts_eq, pairwise_map]
    exact ordered.imp fun before => by simpa using before.le
  rw [canonicalJsonText, sorted, canonicalFieldTexts_eq, map_map]
  rfl

inductive JsonKind where
  | null | true | false | number | string | array | object
  deriving DecidableEq

def JsonTree.kind : JsonTree → JsonKind
  | .null => .null
  | .bool true => .true
  | .bool false => .false
  | .number _ => .number
  | .string _ => .string
  | .array _ => .array
  | .object _ => .object

/-- The kind of value a text starts, from its first character. -/
def kindOfLead (c : Char) : JsonKind :=
  if c = 'n' then .null
  else if c = 't' then .true
  else if c = 'f' then .false
  else if c = '"' then .string
  else if c = '[' then .array
  else if c = '{' then .object
  else .number

theorem kindOfLead_number (number : isNumberChar c = true) : kindOfLead c = .number := by
  have different : ∀ d : Char, isNumberChar d = false → c ≠ d := by
    rintro d other rfl
    simp [number] at other
  simp only [kindOfLead, different 'n' rfl, different 't' rfl, different 'f' rfl,
    different '"' rfl, different '[' rfl, different '{' rfl, if_false]

theorem canonicalJsonText_lead (tree : JsonTree) :
    ∃ c rest, canonicalJsonText tree = c :: rest ∧ kindOfLead c = tree.kind ∧
      c ≠ ']' ∧ c ≠ '}' := by
  cases tree with
  | null => exact ⟨_, _, rfl, rfl, by decide, by decide⟩
  | bool value => cases value <;> exact ⟨_, _, rfl, rfl, by decide, by decide⟩
  | string =>
    exact ⟨_, _, (by rw [canonicalJsonText, jsonStringLiteral_eq]; rfl), rfl, by decide, by decide⟩
  | array | object =>
    exact ⟨_, _, (by rw [canonicalJsonText]; rfl), rfl, by decide, by decide⟩
  | number value =>
    cases start : value.text with
    | nil => exact absurd start value.text_ne_nil
    | cons c rest =>
      have number := isNumberChar_text value c (start ▸ mem_cons_self)
      refine ⟨c, rest, by rw [canonicalJsonText, start], kindOfLead_number number, ?_, ?_⟩
      all_goals
        rintro rfl
        revert number
        decide

theorem kind_eq_of_text {tree other : JsonTree}
    (same : canonicalJsonText tree ++ rest = canonicalJsonText other ++ tail) :
    tree.kind = other.kind := by
  obtain ⟨c, more, start, kind, _⟩ := canonicalJsonText_lead tree
  obtain ⟨d, others, otherStart, otherKind, _⟩ := canonicalJsonText_lead other
  rw [start, otherStart] at same
  rw [← kind, ← otherKind, head_eq_of_cons_eq same]

/-- The text of `tree` can be read back from the start of a text. -/
def Reads (tree : JsonTree) : Prop :=
  ∀ other rest tail, other.Ordered → Stops rest → Stops tail →
    canonicalJsonText tree ++ rest = canonicalJsonText other ++ tail → tree = other ∧ rest = tail

theorem reads_of_kind {tree : JsonTree}
    (reads : ∀ other rest tail, other.Ordered → Stops rest → Stops tail →
      tree.kind = other.kind → canonicalJsonText tree ++ rest = canonicalJsonText other ++ tail →
      tree = other ∧ rest = tail) : Reads tree :=
  fun other rest tail ordered stops tailStops same =>
    reads other rest tail ordered stops tailStops (kind_eq_of_text same) same

theorem reads_bool (value : Bool) : Reads (.bool value) := by
  refine reads_of_kind fun other rest tail ordered stops tailStops kinds same => ?_
  cases other with
  | bool otherValue =>
    have values : value = otherValue := by
      cases value <;> cases otherValue <;> first | rfl | cases kinds
    subst values
    exact ⟨rfl, append_cancel_left same⟩
  | _ => cases value <;> cases kinds

theorem reads_array {items : List JsonTree} (readable : ∀ item ∈ items, Reads item) :
    Reads (.array items) := by
  refine reads_of_kind fun other rest tail ordered stops tailStops kinds same => ?_
  cases other with
  | array others =>
    simp only [canonicalJsonText, canonicalItemTexts_eq, cons_append, append_assoc,
      nil_append, cons.injEq, true_and] at same
    obtain ⟨rfl, tails⟩ := commaSeparated_read canonicalJsonText (.inl rfl)
      (fun item member other inside rest tail stops tailStops =>
        readable item member other rest tail
          ((JsonTree.ordered_array others).mp ordered other inside) stops tailStops)
      (fun item => by
        obtain ⟨c, more, start, _, different, _⟩ := canonicalJsonText_lead item
        exact ⟨c, more, start, different⟩)
      same
    exact ⟨rfl, tails⟩
  | bool value => cases value <;> cases kinds
  | _ => cases kinds

theorem reads_object (keys : OrderedKeys fields)
    (readable : ∀ field ∈ fields, Reads field.2) : Reads (.object fields) := by
  refine reads_of_kind fun other rest tail ordered stops tailStops kinds same => ?_
  cases other with
  | object others =>
    obtain ⟨otherKeys, otherValues⟩ := (JsonTree.ordered_object others).mp ordered
    simp only [canonicalJsonText_object keys, canonicalJsonText_object otherKeys,
      cons_append, append_assoc, nil_append, cons.injEq, true_and] at same
    obtain ⟨rfl, tails⟩ := commaSeparated_read fieldText (.inr rfl)
      (fun field member other inside rest tail stops tailStops same => by
        simp only [fieldText, append_assoc, cons_append] at same
        obtain ⟨key, remaining⟩ := jsonStringLiteral_read same
        obtain ⟨value, tails⟩ := readable field member other.2 rest tail
          (otherValues other inside) stops tailStops (tail_eq_of_cons_eq remaining)
        exact ⟨Prod.ext key value, tails⟩)
      (fun field => ⟨'"', _, (by rw [fieldText, jsonStringLiteral_eq]; rfl), by decide⟩)
      same
    exact ⟨rfl, tails⟩
  | bool value => cases value <;> cases kinds
  | _ => cases kinds

mutual

theorem canonicalJsonText_reads : (tree : JsonTree) → tree.Ordered → Reads tree
  | .null, _ => reads_of_kind fun other rest tail _ _ _ kinds same => by
    cases other with
    | null => exact ⟨rfl, append_cancel_left same⟩
    | bool value => cases value <;> cases kinds
    | _ => cases kinds
  | .bool value, _ => reads_bool value
  | .number value, _ => reads_of_kind fun other rest tail _ stops tailStops kinds same => by
    cases other with
    | number =>
      obtain ⟨rfl, tails⟩ := JsonNumber.text_read stops tailStops same
      exact ⟨rfl, tails⟩
    | bool value => cases value <;> cases kinds
    | _ => cases kinds
  | .string value, _ => reads_of_kind fun other rest tail _ _ _ kinds same => by
    cases other with
    | string =>
      obtain ⟨rfl, tails⟩ := jsonStringLiteral_read same
      exact ⟨rfl, tails⟩
    | bool value => cases value <;> cases kinds
    | _ => cases kinds
  | .array items, ordered => reads_array (canonicalItemTexts_read items ordered)
  | .object fields, ordered => reads_object ordered.1 (canonicalFieldTexts_read fields ordered.2)

theorem canonicalItemTexts_read : (items : List JsonTree) → JsonTree.OrderedItems items →
    ∀ item ∈ items, Reads item
  | [], _ => by simp
  | item :: items, ordered => forall_mem_cons.mpr
      ⟨canonicalJsonText_reads item ordered.1, canonicalItemTexts_read items ordered.2⟩

theorem canonicalFieldTexts_read : (fields : List (String × JsonTree)) →
    JsonTree.OrderedValues fields → ∀ field ∈ fields, Reads field.2
  | [], _ => by simp
  | (_, value) :: fields, ordered => forall_mem_cons.mpr
      ⟨canonicalJsonText_reads value ordered.1, canonicalFieldTexts_read fields ordered.2⟩

end

theorem canonicalJson_injective : Function.Injective canonicalJson := by
  intro left right same
  apply Json.ext
  refine (canonicalJsonText_reads left.tree left.ordered right.tree [] [] right.ordered
    stops_nil stops_nil ?_).1
  simpa only [canonicalJson, append_nil] using same

/-- No character of the text is a control character. -/
def Printable (text : List Char) : Prop := ∀ c ∈ text, ¬ c ≤ '\x1f'

theorem printable_append {left right : List Char} (first : Printable left)
    (second : Printable right) : Printable (left ++ right) := by
  intro c member
  exact (mem_append.mp member).elim (first c) (second c)

theorem printable_cons {text : List Char} (head : ¬ c ≤ '\x1f')
    (tail : Printable text) : Printable (c :: text) :=
  forall_mem_cons.mpr ⟨head, tail⟩

theorem printable_of_all {text : List Char}
    (all : text.all (fun c => !decide (c ≤ '\x1f')) = true) : Printable text := by
  intro c member
  simpa using all_eq_true.mp all c member

theorem printable_escape_control (n : Nat) (small : n < 32) :
    Printable (escapeJsonChar (Char.ofNat n)) := by
  apply printable_of_all
  interval_cases n <;> decide

theorem printable_escapeJsonChar (c : Char) : Printable (escapeJsonChar c) := by
  by_cases control : c ≤ '\x1f'
  · have small : c.toNat < 32 := Nat.lt_succ_of_le control
    simpa using printable_escape_control c.toNat small
  · by_cases quote : c = '"'
    · subst quote
      exact printable_of_all (by decide)
    by_cases backslash : c = '\\'
    · subst backslash
      exact printable_of_all (by decide)
    rw [escapeJsonChar_of_plain control quote backslash]
    simpa [Printable] using control

theorem printable_jsonStringLiteral (value : String) : Printable (jsonStringLiteral value) := by
  rw [jsonStringLiteral_eq]
  refine printable_cons (by decide) (printable_append ?_ (printable_of_all (by decide)))
  intro c member
  obtain ⟨d, _, inside⟩ := mem_flatMap.mp member
  exact printable_escapeJsonChar d c inside

theorem printable_number (number : JsonNumber) : Printable number.text := by
  intro c member control
  have small : c.toNat ≤ 31 := control
  have numeric := isNumberChar_text number c member
  simp only [isNumberChar, Char.isDigit, Bool.or_eq_true, Bool.and_eq_true, decide_eq_true_eq,
    beq_iff_eq] at numeric
  rcases numeric with (((⟨low, _⟩ | rfl) | rfl) | rfl) | rfl
  · have digit : 48 ≤ c.toNat := low
    omega
  all_goals
    revert small
    decide

theorem printable_commaSeparated {texts : List (List Char)}
    (each : ∀ text ∈ texts, Printable text) : Printable (commaSeparated texts) := by
  cases texts with
  | nil => simp [commaSeparated, Printable]
  | cons first =>
    refine printable_append (each first mem_cons_self) fun c member => ?_
    obtain ⟨text, inside, member⟩ := mem_flatMap.mp member
    exact printable_cons (by decide) (each text (mem_cons_of_mem _ inside)) c member

mutual

theorem printable_canonicalJsonText : (tree : JsonTree) → Printable (canonicalJsonText tree)
  | .null => by rw [canonicalJsonText]; exact printable_of_all (by decide)
  | .bool true => by rw [canonicalJsonText]; exact printable_of_all (by decide)
  | .bool false => by rw [canonicalJsonText]; exact printable_of_all (by decide)
  | .number value => by rw [canonicalJsonText]; exact printable_number value
  | .string value => by rw [canonicalJsonText]; exact printable_jsonStringLiteral value
  | .array items => by
    rw [canonicalJsonText]
    exact printable_cons (by decide) (printable_append
      (printable_commaSeparated (printable_canonicalItemTexts items))
      (printable_of_all (by decide)))
  | .object fields => by
    rw [canonicalJsonText]
    refine printable_cons (by decide) (printable_append
      (printable_commaSeparated fun text member => ?_) (printable_of_all (by decide)))
    obtain ⟨entry, sorted, rfl⟩ := mem_map.mp member
    exact printable_append (printable_jsonStringLiteral entry.1) (printable_cons (by decide)
      (printable_canonicalFieldTexts fields entry (mem_mergeSort.mp sorted)))

theorem printable_canonicalItemTexts : (items : List JsonTree) →
    ∀ text ∈ canonicalItemTexts items, Printable text
  | [] => by simp [canonicalItemTexts]
  | item :: items => by
    rw [canonicalItemTexts]
    exact forall_mem_cons.mpr ⟨printable_canonicalJsonText item, printable_canonicalItemTexts items⟩

theorem printable_canonicalFieldTexts : (fields : List (String × JsonTree)) →
    ∀ entry ∈ canonicalFieldTexts fields, Printable entry.2
  | [] => by simp [canonicalFieldTexts]
  | (key, value) :: fields => by
    rw [canonicalFieldTexts]
    exact forall_mem_cons.mpr
      ⟨printable_canonicalJsonText value, printable_canonicalFieldTexts fields⟩

end

/-- Texts that do not hold the separator are told by the first one behind them. -/
theorem append_separator_inj {left right others : List Char}
    (absent : separator ∉ left) (missing : separator ∉ right)
    (same : left ++ separator :: rest = right ++ separator :: others) :
    left = right ∧ rest = others := by
  induction left generalizing right with
  | nil =>
    cases right with
    | nil => exact ⟨rfl, (cons.inj same).2⟩
    | cons =>
      obtain ⟨rfl, -⟩ := cons.inj same
      exact absurd mem_cons_self missing
  | cons _ _ ih =>
    cases right with
    | nil =>
      obtain ⟨rfl, -⟩ := cons.inj same
      exact absurd mem_cons_self absent
    | cons =>
      obtain ⟨rfl, rests⟩ := cons.inj same
      obtain ⟨rfl, tails⟩ := ih (fun inside => absent (mem_cons_of_mem _ inside))
        (fun inside => missing (mem_cons_of_mem _ inside)) rests
      exact ⟨rfl, tails⟩

/-- The last separator splits a text whose second part does not contain it. -/
theorem append_separator_injective {left right leftRest rightRest : List Char}
    (leftFree : separator ∉ leftRest) (rightFree : separator ∉ rightRest)
    (same : left ++ separator :: leftRest = right ++ separator :: rightRest) :
    left = right ∧ leftRest = rightRest := by
  have reversed := congrArg reverse same
  simp only [reverse_append, reverse_cons, append_assoc, singleton_append] at reversed
  obtain ⟨rests, fronts⟩ := append_separator_inj (by simpa using leftFree)
    (by simpa using rightFree) reversed
  exact ⟨reverse_injective fronts, reverse_injective rests⟩

theorem separator_not_mem_canonicalJson (value : Json) : '\x1f' ∉ canonicalJson value :=
  fun member => printable_canonicalJsonText value.tree _ member le_rfl

end Rub
