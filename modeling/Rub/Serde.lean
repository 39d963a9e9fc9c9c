import Rub.Json

/-!
Decoding of JSON values as derived struct decoders do it. A struct reads its fields
from an object, or by position from an array when it has no flattened part; it
denies keys it does not know. A missing optional field is absent, and so is a null.
-/

namespace Rub

open Json List

namespace JsonTree

mutual

def depth : JsonTree → Nat
  | .null => 0
  | .bool _ => 0
  | .number _ => 0
  | .string _ => 0
  | .array items => depthOfItems items + 1
  | .object fields => depthOfFields fields + 1

def depthOfItems : List JsonTree → Nat
  | [] => 0
  | item :: items => max (depth item) (depthOfItems items)

def depthOfFields : List (String × JsonTree) → Nat
  | [] => 0
  | (_, value) :: fields => max (depth value) (depthOfFields fields)

end

theorem depth_le_depthOfItems {item : JsonTree} {items : List JsonTree} (member : item ∈ items) :
    item.depth ≤ depthOfItems items := by
  induction items with
  | nil => cases member
  | cons _ _ ih =>
    rcases mem_cons.mp member with rfl | later
    · exact Nat.le_max_left _ _
    · exact (ih later).trans (Nat.le_max_right _ _)

theorem depth_le_depthOfFields {field : String × JsonTree} {fields : List (String × JsonTree)}
    (member : field ∈ fields) : field.2.depth ≤ depthOfFields fields := by
  induction fields with
  | nil => cases member
  | cons _ _ ih =>
    rcases mem_cons.mp member with rfl | later
    · exact Nat.le_max_left _ _
    · exact (ih later).trans (Nat.le_max_right _ _)

end JsonTree

def Json.depth (value : Json) : Nat := value.tree.depth

theorem Json.depth_lt_of_get {value field : Json} {key : String}
    (found : value.get key = some field) : field.depth < value.depth := by
  have lookup := map_tree_get value key
  rw [found] at lookup
  obtain ⟨tree, ordered⟩ := value
  cases tree with
  | object =>
    have member := mem_of_lookup_eq_some lookup.symm
    exact Nat.lt_succ_of_le (JsonTree.depth_le_depthOfFields member)
  | _ => cases lookup

theorem Json.depth_lt_of_mem {value item : Json} {items : List Json}
    (isArray : value.asArray = some items) (member : item ∈ items) :
    item.depth < value.depth := by
  obtain ⟨tree, ordered⟩ := value
  cases tree with
  | array =>
    cases isArray
    obtain ⟨tree, inside, rfl⟩ := mem_pmap.mp member
    exact Nat.lt_succ_of_le (JsonTree.depth_le_depthOfItems inside)
  | _ => cases isArray

open Prod (fst)

theorem lookup_eq_none_of_not_mem {α : Type} {key : String} {fields : List (String × α)}
    (absent : key ∉ fields.map fst) : fields.lookup key = none := by
  rw [lookup_eq_none_iff]
  intro field member
  have different : key ≠ field.1 := by
    rintro rfl
    exact absent (mem_map_of_mem member)
  simpa using different

theorem lookup_reverse_of_nodup {α : Type} (key : String) {fields : List (String × α)}
    (distinct : (fields.map fst).Nodup) : fields.reverse.lookup key = fields.lookup key := by
  induction fields with
  | nil => rfl
  | cons field _ ih =>
    obtain ⟨name, value⟩ := field
    obtain ⟨fresh, rest⟩ := nodup_cons.mp distinct
    rw [reverse_cons, lookup_append, ih rest]
    by_cases hit : key = name
    · subst hit
      rw [lookup_eq_none_of_not_mem fresh]
      simp
    · simp [lookup_cons, beq_false_of_ne hit]

def presentEntries (fields : List (String × Option Json)) : List (String × Json) :=
  fields.filterMap fun field => field.2.map fun value => (field.1, value)

/-- The object of those fields that have a value. -/
def Json.present (fields : List (String × Option Json)) : Json :=
  object (presentEntries fields)

@[simp] theorem Json.isObject_present (fields : List (String × Option Json)) :
    (present fields).isObject = true := rfl

theorem presentEntries_names (fields : List (String × Option Json)) :
    ((presentEntries fields).map fst).Sublist (fields.map fst) := by
  induction fields with
  | nil => exact .slnil
  | cons field _ ih =>
    obtain ⟨name, value⟩ := field
    cases value with
    | none => exact ih.cons name
    | some => exact ih.cons_cons name

variable {fields : List (String × Option Json)}

theorem lookup_presentEntries (distinct : (fields.map fst).Nodup) (key : String) :
    (presentEntries fields).lookup key = (fields.lookup key).join := by
  induction fields with
  | nil => rfl
  | cons field fields ih =>
    obtain ⟨name, value⟩ := field
    obtain ⟨fresh, rest⟩ := nodup_cons.mp distinct
    by_cases hit : key = name
    · subst hit
      cases value with
      | none =>
        have absent : (presentEntries fields).lookup key = none :=
          lookup_eq_none_of_not_mem fun member =>
            fresh ((presentEntries_names fields).subset member)
        show (presentEntries fields).lookup key = _
        rw [absent, lookup_cons, beq_self_eq_true]
        rfl
      | some => simp [presentEntries]
    · have later := ih rest
      cases value <;> simpa [presentEntries, lookup_cons, beq_false_of_ne hit] using later

theorem Json.get_present (distinct : (fields.map fst).Nodup) (key : String) :
    (present fields).get key = (fields.lookup key).join := by
  have entries : ((presentEntries fields).map fst).Nodup :=
    distinct.sublist (presentEntries_names fields)
  rw [present, get_object, lookup_reverse_of_nodup key entries, lookup_presentEntries distinct]

/-- Objects of present fields over the same distinct names have the same fields. -/
theorem Json.present_injective {left right : List (String × Option Json)}
    (same : present left = present right)
    (names : left.map fst = right.map fst) (distinct : (left.map fst).Nodup) :
    left = right := by
  have values : ∀ key, (left.lookup key).join = (right.lookup key).join := by
    intro key
    rw [← get_present distinct, ← get_present (names ▸ distinct), same]
  clear same
  induction left generalizing right with
  | nil =>
    cases right with
    | nil => rfl
    | cons => cases names
  | cons field fields ih =>
    cases right with
    | nil => cases names
    | cons other others =>
      obtain ⟨name, value⟩ := field
      obtain ⟨otherName, otherValue⟩ := other
      simp only [map_cons, List.cons.injEq] at names
      obtain ⟨rfl, names⟩ := names
      obtain ⟨fresh, rest⟩ := nodup_cons.mp distinct
      have head : value = otherValue := by simpa [lookup_cons] using values name
      subst head
      have tail : fields = others := by
        refine ih names rest fun key => ?_
        by_cases hit : key = name
        · subst hit
          rw [lookup_eq_none_of_not_mem fresh, lookup_eq_none_of_not_mem (names ▸ fresh)]
        · have later := values key
          rwa [lookup_cons, lookup_cons, beq_false_of_ne hit] at later
      rw [tail]

/-- What the JSON library does beyond decoding structs: parsing a text, converting an
integer to the nearest binary float, and wording a rejected payload. -/
structure SerdeJson where
  fromStr : String → Option Json
  floatOfInt : Int → FloatText
  rejection : String → Json → String

variable {α : Type}

namespace Serde

def u32Limit : Nat := 2 ^ 32

def u32 (value : Json) : Option Nat := value.asU64.filter fun number => number < u32Limit

/-- An optional value: null stands for none. -/
def nullable (decode : Json → Option α) (value : Json) : Option (Option α) :=
  if value.isNull then some none else (decode value).map some

def required (decode : Json → Option α) (field : Option Json) : Option α := field.bind decode

/-- An optional field with a default: none when it is missing or null. -/
def optional (decode : Json → Option α) (field : Option Json) : Option (Option α) :=
  match field with
  | none => some none
  | some value => nullable decode value

/-- A Boolean field with the default `false`; a null is not a Boolean. -/
def flag (field : Option Json) : Option Bool :=
  match field with
  | none => some false
  | some value => value.asBool

/-- A field known under a second name; giving both is a duplicate field. -/
def aliased (field other : Option Json) : Option (Option Json) :=
  match field, other with
  | some _, some _ => none
  | some value, none => some (some value)
  | none, other => some other

/-- The fields of an object that has no keys but the named ones. -/
def flatFields (names : List String) (args : Json) : Option (String → Option Json) :=
  if args.isObject ∧ ∀ key ∈ args.keys, key ∈ names then some args.get else none

/-- The fields that an array gives by position. Only fields with a default may be missing at its
end, so the first `least` ones must be there. -/
def positional (least : Nat) (names : List String) (items : List Json) :
    Option (String → Option Json) :=
  if least ≤ items.length ∧ items.length ≤ names.length then
    some fun name => (names.zip items).lookup name
  else none

/-- The fields of a struct without a flattened part, which an array may also give by position. -/
def structFields (least : Nat) (names : List String) (args : Json) :
    Option (String → Option Json) :=
  match args.asArray with
  | some items => positional least names items
  | none => flatFields names args

variable {fields : String → Option Json} {least : Nat} {names : List String}
  {field : Option Json} {args : Json}

theorem flatFields_eq_some (decoded : flatFields names args = some fields) :
    args.isObject = true ∧ (∀ key ∈ args.keys, key ∈ names) ∧ fields = args.get := by
  unfold flatFields at decoded
  split at decoded
  · rename_i known
    exact ⟨known.1, known.2, (Option.some.inj decoded).symm⟩
  · cases decoded

theorem isObject_of_asArray {value : Json} {items : List Json}
    (isArray : value.asArray = some items) : value.isObject = false := by
  obtain ⟨tree, ordered⟩ := value
  cases tree with
  | array => rfl
  | _ => cases isArray

theorem structFields_of_isObject (isObject : args.isObject = true)
    (decoded : structFields least names args = some fields) :
    (∀ key ∈ args.keys, key ∈ names) ∧ fields = args.get := by
  unfold structFields at decoded
  split at decoded
  · rename_i items isArray
    rw [isObject_of_asArray isArray] at isObject
    cases isObject
  · exact (flatFields_eq_some decoded).2

theorem known_of_structFields (decoded : structFields least names args = some fields) :
    ∀ key ∈ args.keys, key ∈ names := by
  cases object : args.isObject with
  | true => exact (structFields_of_isObject object decoded).1
  | false =>
    intro key member
    exact absurd (get_of_not_object object key) (mem_keys_iff.mp member)

theorem structFields_object {entries : List (String × Json)}
    (known : ∀ entry ∈ entries, entry.1 ∈ names) :
    structFields least names (object entries) = some (object entries).get := by
  have named : ∀ key ∈ (object entries).keys, key ∈ names := by
    intro key member
    have given := mem_keys_iff.mp member
    rw [get_object] at given
    obtain ⟨value, found⟩ := Option.ne_none_iff_exists'.mp given
    exact known _ (mem_reverse.mp (mem_of_lookup_eq_some found))
  cases isArray : (object entries).asArray with
  | some => cases isObject_of_asArray isArray
  | none => exact if_pos ⟨rfl, named⟩

theorem structFields_present {fields : List (String × Option Json)} (names : List String)
    (named : fields.map fst = names) (distinct : names.Nodup) :
    structFields least names (present fields) = some fun key => (fields.lookup key).join := by
  subst named
  have members : (present fields).get = fun key => (fields.lookup key).join :=
    funext (get_present distinct)
  have known : ∀ key ∈ (present fields).keys, key ∈ fields.map fst := by
    intro key member
    have given := mem_keys_iff.mp member
    rw [get_present distinct] at given
    by_contra unknown
    rw [lookup_eq_none_of_not_mem unknown] at given
    exact given rfl
  cases isArray : (present fields).asArray with
  | some => cases isObject_of_asArray isArray
  | none =>
    show flatFields _ _ = _
    rw [flatFields, if_pos ⟨rfl, known⟩, members]

theorem depth_lt_of_structFields {args value : Json} {name : String}
    (decoded : structFields least names args = some fields) (found : fields name = some value) :
    value.depth < args.depth := by
  unfold structFields positional at decoded
  split at decoded
  · rename_i items isArray
    split at decoded
    · cases decoded
      have member := mem_of_lookup_eq_some found
      exact depth_lt_of_mem isArray (of_mem_zip member).2
    · cases decoded
  · obtain ⟨_, _, rfl⟩ := flatFields_eq_some decoded
    exact depth_lt_of_get found

theorem bind_asStr_of_optional {value : Option String}
    (decoded : optional asStr field = some value) : field.bind asStr = value := by
  cases field with
  | none => exact Option.some.inj decoded
  | some json =>
    obtain ⟨tree, ordered⟩ := json
    cases tree <;> simp_all [optional, nullable, isNull, asStr]

theorem bind_asU64_of_optional {value : Option Nat} (decoded : optional u32 field = some value) :
    field.bind asU64 = value ∧ ∀ number ∈ value, number < u32Limit := by
  cases field with
  | none => cases decoded; simp
  | some json =>
    obtain ⟨tree, ordered⟩ := json
    cases tree with
    | number number =>
      cases number with
      | posInt magnitude =>
        by_cases small : magnitude < u32Limit
        · simp [optional, nullable, isNull, u32, asU64, Option.filter, small] at decoded
          simp [asU64, ← decoded, small]
        · simp [optional, nullable, isNull, u32, asU64, Option.filter, small] at decoded
      | _ => simp [optional, nullable, isNull, u32, asU64] at decoded
    | null => simp [optional, nullable, isNull] at decoded; simp [asU64, ← decoded]
    | _ => simp [optional, nullable, isNull, u32, asU64] at decoded

theorem bind_asBool_of_flag {value : Bool}
    (decoded : flag field = some value) : (field.bind asBool).getD false = value := by
  cases field with
  | none => exact Option.some.inj decoded
  | some json =>
    have read : json.asBool = some value := decoded
    simp [read]

end Serde

end Rub
