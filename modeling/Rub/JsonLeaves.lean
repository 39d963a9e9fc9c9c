import Mathlib.Data.List.Infix
import Rub.Serde

/-!
The string leaves of a JSON value. A pass that walks a value in place visits its leaves in
order, may fail or keep a state, and puts a value in the place of each leaf; it never
touches an object's keys.
-/

namespace Rub

open List JsonTree

variable {Failure α β : Type} {first : Except Failure α} {next : α → Except Failure β}

theorem except_bind_eq_ok {result : β} :
    (first >>= next) = .ok result ↔ ∃ value, first = .ok value ∧ next value = .ok result := by
  cases first with
  | error | ok => simp [bind, Except.bind]

theorem except_map_eq_ok {build : α → β} {result : β} :
    first.map build = .ok result ↔ ∃ value, first = .ok value ∧ build value = result := by
  cases first <;> simp [Except.map]

theorem except_toOption_eq_some {Failure α : Type} {result : Except Failure α} {value : α} :
    result.toOption = some value ↔ result = .ok value := by
  cases result <;> simp [Except.toOption]

theorem except_bind_eq_error {failure : Failure} (failed : (first >>= next) = .error failure) :
    first = .error failure ∨ ∃ value, first = .ok value ∧ next value = .error failure := by
  cases first with
  | error =>
    cases failed
    exact .inl rfl
  | ok value => exact .inr ⟨value, rfl, failed⟩

namespace JsonTree

@[elab_as_elim]
theorem walk {P : JsonTree → Prop} (null : P .null) (bool : ∀ flag, P (.bool flag))
    (number : ∀ value, P (.number value)) (string : ∀ text, P (.string text))
    (array : ∀ items, (∀ item ∈ items, P item) → P (.array items))
    (object : ∀ fields, (∀ field ∈ fields, P field.2) → P (.object fields))
    (tree : JsonTree) : P tree := by
  refine @rec P (fun items => ∀ item ∈ items, P item)
    (fun fields => ∀ field ∈ fields, P field.2) (fun field => P field.2)
    null bool number string array object ?_ ?_ ?_ ?_ ?_ tree
  · intro item member
    cases member
  · intro item items first rest
    exact forall_mem_cons.mpr ⟨first, rest⟩
  · intro field member
    cases member
  · intro field fields first rest
    exact forall_mem_cons.mpr ⟨first, rest⟩
  · intro key value inside
    exact inside

mutual

/-- The string leaves in the order of a traversal. -/
def leafTexts : JsonTree → List String
  | .null => []
  | .bool _ => []
  | .number _ => []
  | .string text => [text]
  | .array items => leafTextsOfItems items
  | .object fields => leafTextsOfFields fields

def leafTextsOfItems : List JsonTree → List String
  | [] => []
  | item :: items => leafTexts item ++ leafTextsOfItems items

def leafTextsOfFields : List (String × JsonTree) → List String
  | [] => []
  | (_, value) :: fields => leafTexts value ++ leafTextsOfFields fields

end

mutual

/-- The object keys at every depth. -/
def keyTexts : JsonTree → List String
  | .null => []
  | .bool _ => []
  | .number _ => []
  | .string _ => []
  | .array items => keyTextsOfItems items
  | .object fields => keyTextsOfFields fields

def keyTextsOfItems : List JsonTree → List String
  | [] => []
  | item :: items => keyTexts item ++ keyTextsOfItems items

def keyTextsOfFields : List (String × JsonTree) → List String
  | [] => []
  | (key, value) :: fields => key :: keyTexts value ++ keyTextsOfFields fields

end

mutual

/-- The tree with a value put in the place of each leaf. -/
def substLeaves (value : String → Json) : JsonTree → JsonTree
  | .null => .null
  | .bool flag => .bool flag
  | .number magnitude => .number magnitude
  | .string text => (value text).tree
  | .array items => .array (substLeavesOfItems value items)
  | .object fields => .object (substLeavesOfFields value fields)

def substLeavesOfItems (value : String → Json) : List JsonTree → List JsonTree
  | [] => []
  | item :: items => substLeaves value item :: substLeavesOfItems value items

def substLeavesOfFields (value : String → Json) :
    List (String × JsonTree) → List (String × JsonTree)
  | [] => []
  | (key, field) :: fields => (key, substLeaves value field) :: substLeavesOfFields value fields

end

@[simp] theorem leafTexts_array (items : List JsonTree) :
    (array items).leafTexts = items.flatMap leafTexts := by
  rw [leafTexts]
  induction items with
  | nil => rfl
  | cons item items ih => rw [leafTextsOfItems, ih, flatMap_cons]

@[simp] theorem leafTexts_object (fields : List (String × JsonTree)) :
    (object fields).leafTexts = fields.flatMap fun field => field.2.leafTexts := by
  rw [leafTexts]
  induction fields with
  | nil => rfl
  | cons field fields ih => rw [leafTextsOfFields, ih, flatMap_cons]

@[simp] theorem keyTexts_array (items : List JsonTree) :
    (array items).keyTexts = items.flatMap keyTexts := by
  rw [keyTexts]
  induction items with
  | nil => rfl
  | cons item items ih => rw [keyTextsOfItems, ih, flatMap_cons]

@[simp] theorem keyTexts_object (fields : List (String × JsonTree)) : (object fields).keyTexts =
      fields.flatMap fun field => field.1 :: field.2.keyTexts := by
  rw [keyTexts]
  induction fields with
  | nil => rfl
  | cons field fields ih => rw [keyTextsOfFields, ih, flatMap_cons]

@[simp] theorem substLeaves_array (value : String → Json) (items : List JsonTree) :
    (array items).substLeaves value = .array (items.map (substLeaves value)) := by
  rw [substLeaves]
  congr 1
  induction items with
  | nil => rfl
  | cons item items ih => rw [substLeavesOfItems, ih, map_cons]

@[simp] theorem substLeaves_object (value : String → Json) (fields : List (String × JsonTree)) :
    (object fields).substLeaves value =
      .object (fields.map fun field => (field.1, field.2.substLeaves value)) := by
  rw [substLeaves]
  congr 1
  induction fields with
  | nil => rfl
  | cons field fields ih => rw [substLeavesOfFields, ih, map_cons]

variable {tree : JsonTree}

theorem ordered_substLeaves (value : String → Json) (ordered : tree.Ordered) :
    (tree.substLeaves value).Ordered := by
  induction tree using walk with
  | null => trivial
  | bool => trivial
  | number => trivial
  | string text => exact (value text).ordered
  | array items ih =>
    rw [substLeaves_array, ordered_array]
    intro item member
    obtain ⟨old, inside, rfl⟩ := mem_map.mp member
    exact ih old inside ((ordered_array items).mp ordered old inside)
  | object fields ih =>
    obtain ⟨keys, values⟩ := (ordered_object fields).mp ordered
    rw [substLeaves_object, ordered_object]
    refine ⟨pairwise_map.mpr keys, ?_⟩
    intro field member
    obtain ⟨old, inside, rfl⟩ := mem_map.mp member
    exact ih old inside (values old inside)

theorem leafTexts_substLeaves (value : String → Json) (tree : JsonTree) :
    (tree.substLeaves value).leafTexts =
      tree.leafTexts.flatMap fun text => (value text).tree.leafTexts := by
  induction tree using walk with
  | null => rfl
  | bool => rfl
  | number => rfl
  | string => simp [substLeaves, leafTexts]
  | array _ ih =>
    rw [substLeaves_array, leafTexts_array, leafTexts_array, flatMap_map, flatMap_assoc]
    exact flatMap_congr ih
  | object _ ih =>
    rw [substLeaves_object, leafTexts_object, leafTexts_object, flatMap_map, flatMap_assoc]
    exact flatMap_congr ih

theorem keyTexts_substLeaves (change : String → String) (tree : JsonTree) :
    (tree.substLeaves fun text => Json.string (change text)).keyTexts = tree.keyTexts := by
  induction tree using walk with
  | null => rfl
  | bool => rfl
  | number => rfl
  | string => rfl
  | array _ ih =>
    rw [substLeaves_array, keyTexts_array, keyTexts_array, flatMap_map]
    exact flatMap_congr ih
  | object _ ih =>
    rw [substLeaves_object, keyTexts_object, keyTexts_object, flatMap_map]
    refine flatMap_congr fun field member => ?_
    rw [ih field member]

/-- Two substitutions make the same tree exactly when they agree on its leaves. -/
theorem substLeaves_eq_iff {value other : String → Json} :
    tree.substLeaves value = tree.substLeaves other ↔
      ∀ text ∈ tree.leafTexts, value text = other text := by
  induction tree using walk with
  | null | bool | number => simp [leafTexts, substLeaves]
  | string =>
    simp only [substLeaves, leafTexts, mem_singleton, forall_eq]
    exact ⟨Json.ext, congrArg Json.tree⟩
  | array _ ih =>
    rw [substLeaves_array, substLeaves_array, array.injEq, map_inj_left, leafTexts_array]
    simp only [mem_flatMap, forall_exists_index, and_imp]
    constructor
    · intro same text item member inside
      exact (ih item member).mp (same item member) text inside
    · intro same item member
      exact (ih item member).mpr fun text inside => same text item member inside
  | object _ ih =>
    rw [substLeaves_object, substLeaves_object, object.injEq, map_inj_left, leafTexts_object]
    simp only [Prod.mk.injEq, true_and, mem_flatMap, forall_exists_index, and_imp]
    constructor
    · intro same text field member inside
      exact (ih field member).mp (same field member) text inside
    · intro same field member
      exact (ih field member).mpr fun text inside => same text field member inside

theorem substLeaves_string (tree : JsonTree) : tree.substLeaves Json.string = tree := by
  induction tree using walk with
  | null => rfl
  | bool => rfl
  | number => rfl
  | string => rfl
  | array _ ih =>
    rw [substLeaves_array, map_congr_left ih, map_id']
  | object fields ih =>
    have same : ∀ field ∈ fields, (field.1, field.2.substLeaves Json.string) = field :=
      fun field member => Prod.ext rfl (ih field member)
    rw [substLeaves_object, map_congr_left same, map_id']

end JsonTree

namespace Json

def leafTexts (value : Json) : List String := value.tree.leafTexts

def keyTexts (value : Json) : List String := value.tree.keyTexts

/-- The value with another value put in the place of each string leaf. -/
def substLeaves (value : Json) (leaf : String → Json) : Json :=
  ⟨value.tree.substLeaves leaf, JsonTree.ordered_substLeaves leaf value.ordered⟩

/-- The value with each string leaf changed. -/
def mapLeaves (value : Json) (change : String → String) : Json :=
  value.substLeaves fun text => string (change text)

/-- A pass over the leaves in order that stops at the first leaf it fails on. -/
def tryLeaves {Failure : Type} (value : Json) (leaf : String → Except Failure Json) :
    Except Failure Json := do
  let _ ← value.leafTexts.mapM leaf
  pure (value.substLeaves fun text => (leaf text).toOption.getD (string text))

variable {Failure : Type} {value : Json}

theorem leafTexts_mapLeaves (value : Json) (change : String → String) :
    (value.mapLeaves change).leafTexts = value.leafTexts.map change := by
  refine (leafTexts_substLeaves _ _).trans ?_
  exact map_eq_flatMap.symm

theorem keyTexts_mapLeaves (value : Json) (change : String → String) :
    (value.mapLeaves change).keyTexts = value.keyTexts :=
  keyTexts_substLeaves change value.tree

theorem substLeaves_eq_iff {leaf other : String → Json} :
    value.substLeaves leaf = value.substLeaves other ↔
      ∀ text ∈ value.leafTexts, leaf text = other text := by
  rw [Json.ext_iff]
  exact JsonTree.substLeaves_eq_iff

@[simp] theorem substLeaves_leaf (value : Json) : value.substLeaves string = value :=
  Json.ext (substLeaves_string value.tree)

theorem mapLeaves_eq_self_iff {change : String → String} :
    value.mapLeaves change = value ↔ ∀ text ∈ value.leafTexts, change text = text := by
  have same : value.mapLeaves change = value.mapLeaves id ↔
      ∀ text ∈ value.leafTexts, change text = text :=
    substLeaves_eq_iff.trans (forall₂_congr fun _ _ => string_injective.eq_iff)
  rwa [show value.mapLeaves id = value from substLeaves_leaf value] at same

theorem mapLeaves_mapLeaves (value : Json) (first second : String → String) :
    (value.mapLeaves first).mapLeaves second = value.mapLeaves fun text => second (first text) := by
  refine Json.ext ?_
  show (value.tree.substLeaves _).substLeaves _ = value.tree.substLeaves _
  induction value.tree using walk with
  | null => rfl
  | bool => rfl
  | number => rfl
  | string => rfl
  | array _ ih =>
    simp only [substLeaves_array, map_map]
    exact congrArg JsonTree.array (map_congr_left ih)
  | object _ ih =>
    simp only [substLeaves_object, map_map]
    refine congrArg JsonTree.object (map_congr_left fun field member => ?_)
    exact Prod.ext rfl (ih field member)

@[simp] theorem asArray_array (items : List Json) : (array items).asArray = some items := by
  refine congrArg some ?_
  rw [pmap_map]
  exact (pmap_eq_map _).trans (map_id' items)

theorem asArray_substLeaves {items : List Json} (isArray : value.asArray = some items)
    (leaf : String → Json) :
    (value.substLeaves leaf).asArray = some (items.map fun item => item.substLeaves leaf) := by
  obtain ⟨tree, ordered⟩ := value
  cases tree with
  | array =>
    cases isArray
    rw [← asArray_array]
    refine congrArg asArray (Json.ext ?_)
    simp [substLeaves, array, map_pmap]
  | _ => cases isArray

theorem lookup_map_values {α β : Type} (change : α → β) (fields : List (String × α))
    (key : String) :
    (fields.map fun field => (field.1, change field.2)).lookup key =
      (fields.lookup key).map change := by
  induction fields with
  | nil => rfl
  | cons field _ ih =>
    rw [map_cons, lookup_cons, lookup_cons, ih]
    cases key == field.1 <;> rfl

theorem get_substLeaves (isObject : value.isObject = true) (leaf : String → Json) (key : String) :
    (value.substLeaves leaf).get key =
      (value.get key).map fun member => member.substLeaves leaf := by
  apply Option.map_injective tree_injective
  have member := map_tree_get value key
  obtain ⟨tree, ordered⟩ := value
  cases tree with
  | object fields =>
    have shape : substLeaves ⟨.object fields, ordered⟩ leaf =
        ⟨.object (fields.map fun field => (field.1, field.2.substLeaves leaf)),
          substLeaves_object leaf fields ▸ ordered_substLeaves leaf ordered⟩ :=
      Json.ext (substLeaves_object leaf fields)
    rw [map_tree_get, shape]
    refine (lookup_map_values _ fields key).trans ?_
    rw [show fields.lookup key = _ from member.symm, Option.map_map, Option.map_map]
    rfl
  | _ => cases isObject

theorem mem_leafTexts_asStr {text : String} (isText : value.asStr = some text) :
    text ∈ value.leafTexts := by
  obtain ⟨tree, ordered⟩ := value
  cases tree with
  | string =>
    cases isText
    exact mem_singleton_self _
  | _ => cases isText

theorem mem_leafTexts_of_get {key text : String} {member : Json}
    (found : value.get key = some member) (inside : text ∈ member.leafTexts) :
    text ∈ value.leafTexts := by
  obtain ⟨tree, ordered⟩ := value
  cases tree with
  | object fields =>
    have looked : fields.lookup key = some member.tree := by
      have trees := map_tree_get ⟨.object fields, ordered⟩ key
      rw [found] at trees
      exact trees.symm
    rw [leafTexts, leafTexts_object]
    exact mem_flatMap.mpr ⟨_, mem_of_lookup_eq_some looked, inside⟩
  | _ => cases found

theorem mapLeaves_object (entries : List (String × Json)) (change : String → String) :
    (object entries).mapLeaves change =
      object (entries.map fun entry => (entry.1, entry.2.mapLeaves change)) := by
  apply Json.ext
  simp only [mapLeaves, substLeaves, object, substLeaves_object, fieldsOf_map, map_map]
  rfl

theorem mapLeaves_array (items : List Json) (change : String → String) :
    (array items).mapLeaves change = array (items.map fun item => item.mapLeaves change) := by
  apply Json.ext
  simp [mapLeaves, substLeaves, array]

theorem leafTexts_array (items : List Json) :
    (array items).leafTexts = items.flatMap leafTexts := by
  simp only [leafTexts, array, JsonTree.leafTexts_array, flatMap_map]
  rfl

@[simp] theorem isObject_mapLeaves (value : Json) (change : String → String) :
    (value.mapLeaves change).isObject = value.isObject := by
  obtain ⟨tree, ordered⟩ := value
  cases tree <;> rfl

theorem asStr_mapLeaves (value : Json) (change : String → String) :
    (value.mapLeaves change).asStr = value.asStr.map change := by
  obtain ⟨tree, ordered⟩ := value
  cases tree <;> rfl

theorem bind_asStr_mapLeaves (member : Option Json) (change : String → String) :
    (member.map (mapLeaves · change)).bind asStr = (member.bind asStr).map change := by
  cases member with
  | none => rfl
  | some value => exact asStr_mapLeaves value change

theorem asArray_mapLeaves (value : Json) (change : String → String) :
    (value.mapLeaves change).asArray = value.asArray.map (map (mapLeaves · change)) := by
  cases isArray : value.asArray with
  | some => exact asArray_substLeaves isArray _
  | none =>
    obtain ⟨tree, ordered⟩ := value
    cases tree <;> first | rfl | cases isArray

theorem get_mapLeaves (value : Json) (change : String → String) (key : String) :
    (value.mapLeaves change).get key = (value.get key).map (mapLeaves · change) := by
  cases isObject : value.isObject with
  | true => exact get_substLeaves isObject _ key
  | false =>
    rw [get_of_not_object isObject, get_of_not_object ((isObject_mapLeaves _ _).trans isObject)]
    rfl

variable {leaf : String → Except Failure Json}

theorem mapM_ok_iff {texts : List String} :
    (∃ values, texts.mapM leaf = .ok values) ↔ ∀ text ∈ texts, ∃ value, leaf text = .ok value := by
  induction texts with
  | nil => exact iff_of_true ⟨[], rfl⟩ (by simp)
  | cons text texts ih =>
    rw [forall_mem_cons, ← ih, mapM_cons]
    cases first : leaf text with
    | error => simp [bind, Except.bind]
    | ok =>
      cases rest : texts.mapM leaf with
      | error => simp [bind, Except.bind]
      | ok => simp [bind, Except.bind, pure, Except.pure]

/-- A pass succeeds when it does on every leaf, and then it has put each result in place. -/
theorem tryLeaves_eq_ok_iff {result : Json} : value.tryLeaves leaf = .ok result ↔
      (∀ text ∈ value.leafTexts, ∃ put, leaf text = .ok put) ∧
        value.substLeaves (fun text => (leaf text).toOption.getD (string text)) = result := by
  rw [← mapM_ok_iff, tryLeaves]
  cases value.leafTexts.mapM leaf with
  | error => simp [bind, Except.bind]
  | ok => simp [bind, Except.bind, pure, Except.pure]

theorem tryLeaves_of_ok {put : String → Json}
    (succeeds : ∀ text ∈ value.leafTexts, leaf text = .ok (put text)) :
    value.tryLeaves leaf = .ok (value.substLeaves put) := by
  refine tryLeaves_eq_ok_iff.mpr ⟨fun text member => ⟨_, succeeds text member⟩, ?_⟩
  refine substLeaves_eq_iff.mpr fun text member => ?_
  rw [succeeds text member]
  rfl

/-- A pass gives the value back exactly when it gives every leaf back. -/
theorem tryLeaves_eq_self_iff :
    value.tryLeaves leaf = .ok value ↔ ∀ text ∈ value.leafTexts, leaf text = .ok (string text) := by
  constructor
  · intro same text member
    obtain ⟨succeeds, put⟩ := tryLeaves_eq_ok_iff.mp same
    obtain ⟨result, found⟩ := succeeds text member
    have kept : value.substLeaves _ = value.substLeaves string :=
      put.trans (substLeaves_leaf value).symm
    have leaves := substLeaves_eq_iff.mp kept text member
    rw [found] at leaves ⊢
    exact congrArg Except.ok leaves
  · intro same
    rw [tryLeaves_of_ok same, substLeaves_leaf]

theorem tryLeaves_congr {other : String → Except Failure Json}
    (same : ∀ text ∈ value.leafTexts, other text = leaf text) :
    value.tryLeaves other = value.tryLeaves leaf := by
  have put : (value.substLeaves fun text => (other text).toOption.getD (string text)) =
      value.substLeaves fun text => (leaf text).toOption.getD (string text) :=
    substLeaves_eq_iff.mpr fun text member => by rw [same text member]
  have visited : value.leafTexts.mapM other = value.leafTexts.mapM leaf := by
    clear put
    revert same
    induction value.leafTexts with
    | nil => exact fun _ => rfl
    | cons _ _ ih =>
      intro same
      obtain ⟨first, rest⟩ := forall_mem_cons.mp same
      rw [mapM_cons, mapM_cons, first, ih rest]
  unfold tryLeaves
  rw [put, visited]

end Json

end Rub
