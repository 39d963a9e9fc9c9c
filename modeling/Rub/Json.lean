import Mathlib.Data.String.Basic
import Mathlib.Data.List.Induction
import Mathlib.Data.List.Sort

/-!
JSON values whose objects are ordered maps: the keys of every object, at every
depth, are strictly increasing. An integer is kept as its magnitude and a finite
binary float as the shortest decimal text that reads back to it.
-/

namespace Rub

open Function Option

variable {key : String} {α : Type}

def insertField (key : String) (value : α) : List (String × α) → List (String × α)
  | [] => [(key, value)]
  | (name, current) :: rest =>
    if key < name then (key, value) :: (name, current) :: rest
    else if key = name then (key, value) :: rest
    else (name, current) :: insertField key value rest

def removeField (key : String) (fields : List (String × α)) : List (String × α) :=
  fields.filter fun field => field.1 ≠ key

/-- The ordered map that a list of insertions builds; a later insertion wins. -/
def fieldsOf (entries : List (String × α)) : List (String × α) :=
  entries.foldl (fun fields entry => insertField entry.1 entry.2 fields) []

def OrderedKeys (fields : List (String × α)) : Prop :=
  fields.Pairwise fun left right => left.1 < right.1

@[simp] theorem orderedKeys_nil : OrderedKeys ([] : List (String × α)) := List.Pairwise.nil

variable {fields entries : List (String × α)} {field : String × α}

theorem mem_insertField {value : α} (member : field ∈ insertField key value fields) :
    field = (key, value) ∨ field ∈ fields := by
  induction fields with
  | nil => simpa [insertField] using member
  | cons _ _ ih =>
    unfold insertField at member
    split at member
    · simpa using member
    · split at member
      · rcases List.mem_cons.mp member with same | older
        · exact .inl same
        · exact .inr (List.mem_cons_of_mem _ older)
      · rcases List.mem_cons.mp member with same | older
        · exact .inr (same ▸ List.mem_cons_self)
        · exact (ih older).imp_right (List.mem_cons_of_mem _)

theorem orderedKeys_insertField (key : String) (value : α) (ordered : OrderedKeys fields) :
    OrderedKeys (insertField key value fields) := by
  induction fields with
  | nil => exact List.pairwise_singleton _ _
  | cons _ _ ih =>
    obtain ⟨below, tail⟩ := List.pairwise_cons.mp ordered
    unfold insertField
    split
    · rename_i before
      refine List.pairwise_cons.mpr ⟨?_, ordered⟩
      intro field member
      rcases List.mem_cons.mp member with rfl | older
      · exact before
      · exact before.trans (below field older)
    · rename_i notBefore
      split
      · rename_i same
        exact List.pairwise_cons.mpr ⟨fun field member => same ▸ below field member, tail⟩
      · rename_i different
        refine List.pairwise_cons.mpr ⟨?_, ih tail⟩
        intro field member
        rcases mem_insertField member with rfl | older
        · exact lt_of_le_of_ne (not_lt.mp notBefore) (Ne.symm different)
        · exact below field older

open List (foldl_append lookup_cons map_cons reverseRecOn)

theorem lookup_insertField (key name : String) (value : α) (fields : List (String × α)) :
    (insertField key value fields).lookup name =
      if name = key then some value else fields.lookup name := by
  induction fields with
  | nil => simp [insertField, lookup_cons, beq_eq_decide]; split <;> simp_all
  | cons head _ ih =>
    obtain ⟨current, old⟩ := head
    unfold insertField
    split
    · simp only [lookup_cons, beq_eq_decide]
      by_cases same : name = key <;> simp [same]
    · split
      · rename_i same
        subst same
        simp only [lookup_cons, beq_eq_decide]
        by_cases hit : name = key <;> simp [hit]
      · rename_i different
        simp only [lookup_cons, beq_eq_decide, ih]
        by_cases hit : name = current
        · have : name ≠ key := fun same => different (same ▸ hit)
          simp [hit, hit ▸ this]
        · simp [hit]

theorem lookup_removeField (key name : String) (fields : List (String × α)) :
    (removeField key fields).lookup name = if name = key then none else fields.lookup name := by
  induction fields with
  | nil => simp [removeField]
  | cons head _ ih =>
    obtain ⟨current, old⟩ := head
    unfold removeField at ih ⊢
    by_cases dropped : current = key
    · subst dropped
      simp only [ne_eq, not_true_eq_false, decide_false, Bool.false_eq_true,
        not_false_eq_true, List.filter_cons_of_neg, ih, lookup_cons, beq_eq_decide]
      by_cases hit : name = current <;> simp [hit]
    · rw [List.filter_cons_of_pos (by simpa using dropped)]
      simp only [lookup_cons, beq_eq_decide, ih]
      by_cases hit : name = current
      · simp [hit, dropped]
      · simp [hit]

theorem lookup_foldl_insertField (name : String) (entries : List (String × α))
    (fields : List (String × α)) :
    (entries.foldl (fun fields entry => insertField entry.1 entry.2 fields) fields).lookup name =
      (entries.reverse.lookup name).or (fields.lookup name) := by
  induction entries using reverseRecOn with
  | nil => rfl
  | append_singleton _ entry ih =>
    obtain ⟨key, value⟩ := entry
    rw [foldl_append, List.foldl_cons, List.foldl_nil, lookup_insertField,
      List.reverse_append, List.reverse_singleton, List.singleton_append, lookup_cons,
      beq_eq_decide, ih]
    by_cases hit : name = key <;> simp [hit]

theorem lookup_fieldsOf (name : String) (entries : List (String × α)) :
    (fieldsOf entries).lookup name = entries.reverse.lookup name := by
  rw [fieldsOf, lookup_foldl_insertField, List.lookup_nil, or_none]

/-- The shape shared by every property of the fields that insertion keeps. -/
theorem fieldsOf_induction {P : List (String × α) → Prop} (empty : P [])
    (step : ∀ fields entry, entry ∈ entries → P fields → P (insertField entry.1 entry.2 fields)) :
    P (fieldsOf entries) := by
  unfold fieldsOf
  induction entries using reverseRecOn with
  | nil => exact empty
  | append_singleton _ entry ih =>
    rw [foldl_append]
    exact step _ entry (by simp)
      (ih fun fields entry member => step fields entry (List.mem_append_left _ member))

theorem insertField_map {β : Type} (change : α → β) (key : String) (value : α)
    (fields : List (String × α)) :
    (insertField key value fields).map (fun field => (field.1, change field.2)) =
      insertField key (change value) (fields.map fun field => (field.1, change field.2)) := by
  induction fields with
  | nil => rfl
  | cons _ _ ih =>
    simp only [insertField, map_cons]
    split
    · rfl
    · split
      · rfl
      · rw [map_cons, ih]

theorem fieldsOf_map {β : Type} (change : α → β) (entries : List (String × α)) :
    (fieldsOf entries).map (fun field => (field.1, change field.2)) =
      fieldsOf (entries.map fun entry => (entry.1, change entry.2)) := by
  unfold fieldsOf
  induction entries using reverseRecOn with
  | nil => rfl
  | append_singleton _ _ ih =>
    simp only [foldl_append, List.map_append, List.foldl_cons, List.foldl_nil,
      map_cons, List.map_nil, insertField_map, ih]

theorem orderedKeys_fieldsOf (entries : List (String × α)) : OrderedKeys (fieldsOf entries) :=
  fieldsOf_induction orderedKeys_nil fun _ _ _ => orderedKeys_insertField _ _

theorem mem_fieldsOf (member : field ∈ fieldsOf entries) : field ∈ entries := by
  refine fieldsOf_induction (P := fun fields => ∀ field ∈ fields, field ∈ entries)
    (by simp) ?_ field member
  intro fields entry inserted older field member
  rcases mem_insertField member with rfl | kept
  · exact inserted
  · exact older field kept

theorem mem_of_lookup_eq_some {value : α} (found : fields.lookup key = some value) :
    (key, value) ∈ fields := by
  obtain ⟨before, after, rfl, _⟩ := List.lookup_eq_some_iff.mp found
  simp

theorem lookup_eq_none_of_lt (below : ∀ field ∈ fields, key < field.1) :
    fields.lookup key = none := by
  rw [List.lookup_eq_none_iff]
  intro field member
  simpa using (below field member).ne

theorem orderedKeys_ext {left right : List (String × α)} (leftOrdered : OrderedKeys left)
    (rightOrdered : OrderedKeys right) (same : ∀ key, left.lookup key = right.lookup key) :
    left = right := by
  induction left generalizing right with
  | nil =>
    cases right with
    | nil => rfl
    | cons head =>
      have missing := same head.1
      rw [List.lookup_nil, lookup_cons, beq_self_eq_true] at missing
      cases missing
  | cons head rest ih =>
    obtain ⟨name, value⟩ := head
    obtain ⟨below, ordered⟩ := List.pairwise_cons.mp leftOrdered
    cases right with
    | nil => simpa [lookup_cons] using same name
    | cons other others =>
      obtain ⟨otherName, otherValue⟩ := other
      obtain ⟨otherBelow, otherOrdered⟩ := List.pairwise_cons.mp rightOrdered
      have sameName : name = otherName := by
        rcases lt_trichotomy name otherName with before | equal | after
        · have missing : ((otherName, otherValue) :: others).lookup name = none := by
            refine lookup_eq_none_of_lt fun field member => ?_
            rcases List.mem_cons.mp member with rfl | older
            · exact before
            · exact before.trans (otherBelow field older)
          rw [← same name] at missing
          simp at missing
        · exact equal
        · have missing : ((name, value) :: rest).lookup otherName = none := by
            refine lookup_eq_none_of_lt fun field member => ?_
            rcases List.mem_cons.mp member with rfl | older
            · exact after
            · exact after.trans (below field older)
          rw [same otherName] at missing
          simp at missing
      subst sameName
      have sameValue : value = otherValue := by
        simpa [lookup_cons] using same name
      subst sameValue
      congr 1
      refine ih ordered otherOrdered fun key => ?_
      by_cases hit : key = name
      · subst hit
        rw [lookup_eq_none_of_lt below, lookup_eq_none_of_lt otherBelow]
      · have rest := same key
        rwa [lookup_cons, lookup_cons, beq_false_of_ne hit] at rest

/-- The shortest decimal text of a finite binary float. It always has a fraction
or an exponent, so it is never the text of an integer. -/
structure FloatText where
  text : List Char
  alphabet : ∀ c ∈ text, c.isDigit ∨ c = '-' ∨ c = '+' ∨ c = '.' ∨ c = 'e'
  fractional : '.' ∈ text ∨ 'e' ∈ text
  deriving DecidableEq

inductive JsonNumber where
  | posInt (value : Nat)
  /-- The negative integer `-(value + 1)`. -/
  | negInt (value : Nat)
  | float (value : FloatText)
  deriving DecidableEq

inductive JsonTree where
  | null
  | bool (value : Bool)
  | number (value : JsonNumber)
  | string (value : String)
  | array (items : List JsonTree)
  | object (fields : List (String × JsonTree))

namespace JsonTree

mutual

def Ordered : JsonTree → Prop
  | .null => True
  | .bool _ => True
  | .number _ => True
  | .string _ => True
  | .array items => OrderedItems items
  | .object fields => OrderedKeys fields ∧ OrderedValues fields

def OrderedItems : List JsonTree → Prop
  | [] => True
  | item :: items => Ordered item ∧ OrderedItems items

def OrderedValues : List (String × JsonTree) → Prop
  | [] => True
  | (_, value) :: fields => Ordered value ∧ OrderedValues fields

end

theorem orderedItems_iff (items : List JsonTree) :
    OrderedItems items ↔ ∀ item ∈ items, Ordered item := by
  induction items with
  | nil => simp [OrderedItems]
  | cons _ _ ih => simp [OrderedItems, ih]

theorem orderedValues_iff (fields : List (String × JsonTree)) :
    OrderedValues fields ↔ ∀ field ∈ fields, Ordered field.2 := by
  induction fields with
  | nil => simp [OrderedValues]
  | cons _ _ ih => simp [OrderedValues, ih]

@[simp] theorem ordered_array (items : List JsonTree) :
    (JsonTree.array items).Ordered ↔ ∀ item ∈ items, Ordered item := by
  rw [Ordered, orderedItems_iff]

@[simp] theorem ordered_object (fields : List (String × JsonTree)) :
    (JsonTree.object fields).Ordered ↔ OrderedKeys fields ∧ ∀ field ∈ fields, Ordered field.2 := by
  rw [Ordered, orderedValues_iff]

end JsonTree

/-- A JSON value: a tree all of whose objects are ordered maps. -/
@[ext]
structure Json where
  tree : JsonTree
  ordered : tree.Ordered

namespace Json

theorem tree_injective : Injective Json.tree := fun _ _ => Json.ext

def null : Json := ⟨.null, trivial⟩

def bool (value : Bool) : Json := ⟨.bool value, trivial⟩

def number (value : JsonNumber) : Json := ⟨.number value, trivial⟩

def string (value : String) : Json := ⟨.string value, trivial⟩

def natural (value : Nat) : Json := number (.posInt value)

def array (items : List Json) : Json :=
  ⟨.array (items.map Json.tree), by
    refine (JsonTree.ordered_array _).mpr fun tree member => ?_
    obtain ⟨item, _, rfl⟩ := List.mem_map.mp member
    exact item.ordered⟩

/-- The object that the listed insertions build; a later insertion wins. -/
def object (entries : List (String × Json)) : Json :=
  ⟨.object (fieldsOf (entries.map fun entry => (entry.1, entry.2.tree))), by
    refine (JsonTree.ordered_object _).mpr ⟨orderedKeys_fieldsOf _, ?_⟩
    intro field member
    obtain ⟨entry, _, rfl⟩ := List.mem_map.mp (mem_fieldsOf member)
    exact entry.2.ordered⟩

def optional (value : Option Json) : Json := value.getD null

def optionalText (text : Option String) : Json := optional (text.map string)

def optionalNumber (value : Option Nat) : Json := optional (value.map natural)

def asStr : Json → Option String
  | ⟨.string value, _⟩ => some value
  | _ => none

def asBool : Json → Option Bool
  | ⟨.bool value, _⟩ => some value
  | _ => none

def asU64 : Json → Option Nat
  | ⟨.number (.posInt value), _⟩ => some value
  | _ => none

def asArray : Json → Option (List Json)
  | ⟨.array items, ordered⟩ =>
    some (items.pmap (fun item valid => ⟨item, valid⟩) ((JsonTree.ordered_array items).mp ordered))
  | _ => none

def isNull : Json → Bool
  | ⟨.null, _⟩ => true
  | _ => false

/-- The tree fields of an object, and none of any other value. -/
def treeFields : Json → Option (List (String × JsonTree))
  | ⟨.object fields, _⟩ => some fields
  | _ => none

def isObject (value : Json) : Bool := value.treeFields.isSome

/-- The keys of an object in increasing order, and no key of any other value. -/
def keys (value : Json) : List String := (value.treeFields.getD []).map Prod.fst

/-- The value of a key of an object; any other value has no keys. -/
def get (value : Json) (key : String) : Option Json :=
  match value with
  | ⟨.object fields, ordered⟩ =>
    Option.pmap (fun tree valid => ⟨tree, valid⟩) (fields.lookup key) fun _ found =>
      ((JsonTree.ordered_object fields).mp ordered).2 _ (mem_of_lookup_eq_some found)
  | _ => none

/-- Insertion into an object; any other value is left alone. -/
def insert (value : Json) (key : String) (inserted : Json) : Json :=
  match value with
  | ⟨.object fields, ordered⟩ =>
    ⟨.object (insertField key inserted.tree fields), by
      obtain ⟨keys, values⟩ := (JsonTree.ordered_object fields).mp ordered
      refine (JsonTree.ordered_object _).mpr ⟨orderedKeys_insertField _ _ keys, ?_⟩
      intro field member
      rcases mem_insertField member with rfl | kept
      · exact inserted.ordered
      · exact values field kept⟩
  | other => other

def remove (value : Json) (key : String) : Json :=
  match value with
  | ⟨.object fields, ordered⟩ =>
    ⟨.object (removeField key fields), by
      obtain ⟨keys, values⟩ := (JsonTree.ordered_object fields).mp ordered
      exact (JsonTree.ordered_object _).mpr
        ⟨keys.filter _, fun field member =>
          values field (List.mem_of_mem_filter member)⟩⟩
  | other => other

theorem map_tree_get (value : Json) (key : String) :
    (value.get key).map Json.tree = (value.treeFields.getD []).lookup key := by
  obtain ⟨tree, ordered⟩ := value
  cases tree with
  | object =>
    simp only [get, treeFields, getD_some, map_pmap, pmap_eq_map, map_id']
  | _ => rfl

variable {value : Json}

theorem get_of_not_object (scalar : value.isObject = false) (key : String) :
    value.get key = none := by
  obtain ⟨tree, ordered⟩ := value
  cases tree with
  | object => cases scalar
  | _ => rfl

theorem isObject_of_get {value member : Json} {key : String} (found : value.get key = some member) :
    value.isObject = true := by
  by_contra scalar
  rw [get_of_not_object (Bool.eq_false_of_not_eq_true scalar)] at found
  cases found

theorem lookup_map_tree (key : String) (entries : List (String × Json)) :
    (entries.map fun entry => (entry.1, entry.2.tree)).lookup key =
      (entries.lookup key).map Json.tree := by
  induction entries with
  | nil => rfl
  | cons entry _ ih =>
    obtain ⟨name, value⟩ := entry
    simp only [map_cons, lookup_cons, beq_eq_decide, ih]
    by_cases hit : key = name <;> simp [hit]

theorem get_object (entries : List (String × Json)) (key : String) :
    (object entries).get key = entries.reverse.lookup key := by
  apply map_injective tree_injective
  rw [map_tree_get, ← lookup_map_tree, List.map_reverse]
  exact lookup_fieldsOf key _

@[simp] theorem isObject_object (entries : List (String × Json)) :
    (object entries).isObject = true := rfl

theorem get_insert (isObject : value.isObject = true) (key name : String) (inserted : Json) :
    (value.insert key inserted).get name =
      if name = key then some inserted else value.get name := by
  obtain ⟨tree, ordered⟩ := value
  cases tree with
  | object fields =>
    apply map_injective tree_injective
    rw [map_tree_get]
    refine (lookup_insertField key name inserted.tree fields).trans ?_
    by_cases hit : name = key
    · simp [hit]
    · simp only [hit, if_false]
      exact (map_tree_get ⟨.object fields, ordered⟩ name).symm
  | _ => cases isObject

theorem get_remove (value : Json) (key name : String) :
    (value.remove key).get name = if name = key then none else value.get name := by
  obtain ⟨tree, ordered⟩ := value
  cases tree with
  | object fields =>
    apply map_injective tree_injective
    rw [map_tree_get]
    refine (lookup_removeField key name fields).trans ?_
    by_cases hit : name = key
    · simp [hit]
    · simp only [hit, if_false]
      exact (map_tree_get ⟨.object fields, ordered⟩ name).symm
  | _ => simp [remove, get]

@[simp] theorem isObject_insert (value : Json) (key : String) (inserted : Json) :
    (value.insert key inserted).isObject = value.isObject := by
  obtain ⟨tree, ordered⟩ := value
  cases tree <;> rfl

@[simp] theorem isObject_remove (value : Json) (key : String) :
    (value.remove key).isObject = value.isObject := by
  obtain ⟨tree, ordered⟩ := value
  cases tree <;> rfl

theorem object_ext {left right : Json} (leftObject : left.isObject = true)
    (rightObject : right.isObject = true) (same : ∀ key, left.get key = right.get key) :
    left = right := by
  obtain ⟨leftTree, leftOrdered⟩ := left
  obtain ⟨rightTree, rightOrdered⟩ := right
  cases leftTree with
  | object leftFields =>
    cases rightTree with
    | object rightFields =>
      have equal : leftFields = rightFields := by
        refine orderedKeys_ext ((JsonTree.ordered_object _).mp leftOrdered).1
          ((JsonTree.ordered_object _).mp rightOrdered).1 fun key => ?_
        have lookups := congrArg (Option.map Json.tree) (same key)
        rwa [map_tree_get, map_tree_get] at lookups
      subst equal
      rfl
    | _ => cases rightObject
  | _ => cases leftObject

theorem insert_insert (object : value.isObject = true) (key : String) (first second : Json) :
    (value.insert key first).insert key second = value.insert key second := by
  refine object_ext (by simpa) (by simpa) fun name => ?_
  rw [get_insert (by simpa), get_insert object, get_insert object]
  split <;> rfl

theorem mem_keys_iff : key ∈ value.keys ↔ value.get key ≠ none := by
  have looked := map_tree_get value key
  have absent : value.get key = none ↔ key ∉ value.keys := by
    rw [← map_eq_none_iff, looked, List.lookup_eq_none_iff, keys, List.mem_map]
    constructor
    · rintro distinct ⟨field, member, rfl⟩
      simpa using distinct field member
    · intro missing field member
      have differ : key ≠ field.1 := fun hit => missing ⟨field, member, hit.symm⟩
      simpa using differ
  rw [ne_eq, absent, not_not]

theorem remove_of_get_none (absent : value.get key = none) : value.remove key = value := by
  cases object : value.isObject with
  | true =>
    refine object_ext ((isObject_remove value key).trans object) object fun name => ?_
    rw [get_remove]
    split
    · rename_i hit
      rw [hit, absent]
    · rfl
  | false =>
    obtain ⟨tree, ordered⟩ := value
    cases tree with
    | object => cases object
    | _ => rfl

theorem string_injective : Injective string := by
  intro left right same
  have trees := congrArg Json.tree same
  simpa [string] using trees

theorem natural_injective : Injective natural := by
  intro left right same
  have trees := congrArg Json.tree same
  simpa [natural, number] using trees

theorem bool_injective : Injective bool := by
  intro left right same
  have trees := congrArg Json.tree same
  simpa [bool] using trees

/-- An optional value can be read back when its encoding is never null. -/
theorem optional_map_injective {encode : α → Json}
    (injective : Injective encode) (nonNull : ∀ value, encode value ≠ null) :
    Injective fun value : Option α => optional (value.map encode) := by
  intro left right same
  cases left with
  | none =>
    cases right with
    | none => rfl
    | some right => exact absurd same.symm (nonNull right)
  | some left =>
    cases right with
    | none => exact absurd same (nonNull left)
    | some => exact congrArg some (injective same)

theorem optionalText_injective : Injective optionalText :=
  optional_map_injective string_injective fun _ same => nomatch congrArg Json.tree same

theorem optionalNumber_injective : Injective optionalNumber :=
  optional_map_injective natural_injective fun _ same => nomatch congrArg Json.tree same

end Json

end Rub
