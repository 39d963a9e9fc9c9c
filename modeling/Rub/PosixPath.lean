import Mathlib.Data.List.Basic

/-!
Paths as texts, and the components they are compared by. Empty segments and inner dots are no
components, so a path has many spellings.
-/

namespace Rub

open List

inductive PathComponent where
  | rootDir | curDir | parentDir
  | normal (name : List Char)
  deriving DecidableEq

structure PathBuf where
  text : List Char
  deriving DecidableEq

/-- Puts a character before the first text. -/
def growFirst (c : Char) : List (List Char) → List (List Char)
  | [] => [[c]]
  | first :: rest => (c :: first) :: rest

/-- The texts between the slashes. -/
def segments : List Char → List (List Char)
  | [] => [[]]
  | c :: text => if c = '/' then [] :: segments text else growFirst c (segments text)

theorem segments_cons_slash (text : List Char) : segments ('/' :: text) = [] :: segments text := rfl

theorem segments_cons {c : Char} (text : List Char) (other : c ≠ '/') :
    segments (c :: text) = growFirst c (segments text) :=
  if_neg other

theorem segments_ne_nil (text : List Char) : segments text ≠ [] := by
  cases text with
  | nil => simp [segments]
  | cons c text =>
    by_cases slash : c = '/'
    · rw [slash, segments_cons_slash]
      simp
    · rw [segments_cons text slash]
      cases segments text <;> simp [growFirst]

theorem segments_append_slash (front back : List Char) :
    segments (front ++ '/' :: back) = segments front ++ segments back := by
  induction front with
  | nil => rfl
  | cons c front ih =>
    rw [cons_append]
    by_cases slash : c = '/'
    · rw [slash, segments_cons_slash, segments_cons_slash, ih, cons_append]
    · rw [segments_cons _ slash, segments_cons _ slash, ih]
      obtain ⟨first, rest, shape⟩ := exists_cons_of_ne_nil (segments_ne_nil front)
      rw [shape]
      rfl

theorem segments_of_not_mem {text : List Char} (single : '/' ∉ text) : segments text = [text] := by
  induction text with
  | nil => rfl
  | cons c text ih =>
    have other : c ≠ '/' := fun same => single (same ▸ mem_cons_self)
    rw [segments_cons text other, ih fun member => single (mem_cons_of_mem _ member)]
    rfl

variable {name : List Char}

/-- A segment as a component; the empty one and a dot are none. -/
def segmentComponent (segment : List Char) : Option PathComponent :=
  if segment = [] ∨ segment = ['.'] then none
  else if segment = ['.', '.'] then some .parentDir
  else some (.normal segment)

/-- What a path starts with: the root, or the directory it is in. -/
def leadingComponent (text : List Char) : List PathComponent :=
  if text.head? = some '/' then [.rootDir]
  else if (segments text).head? = some ['.'] then [.curDir]
  else []

def PathBuf.components (path : PathBuf) : List PathComponent :=
  leadingComponent path.text ++ (segments path.text).filterMap segmentComponent

/-- Paths are equal by their components. -/
def PathBuf.same (left right : PathBuf) : Bool := left.components = right.components

def PathBuf.isAbsolute (path : PathBuf) : Bool := path.text.head? = some '/'

def PathBuf.fileName (path : PathBuf) : Option (List Char) :=
  match path.components.getLast? with
  | some (.normal name) => some name
  | _ => none

/-- A segment that is a name: not empty, without slash and no link to a directory. -/
structure IsFileName (name : List Char) : Prop where
  filled : name ≠ []
  single : '/' ∉ name
  notCurrent : name ≠ ['.']
  notParent : name ≠ ['.', '.']

instance (name : List Char) : Decidable (IsFileName name) :=
  decidable_of_iff (name ≠ [] ∧ '/' ∉ name ∧ name ≠ ['.'] ∧ name ≠ ['.', '.'])
    ⟨fun ⟨filled, single, current, parent⟩ => ⟨filled, single, current, parent⟩,
      fun ⟨filled, single, current, parent⟩ => ⟨filled, single, current, parent⟩⟩

theorem IsFileName.segmentComponent (named : IsFileName name) :
    segmentComponent name = some (.normal name) := by
  unfold Rub.segmentComponent
  rw [if_neg (not_or.mpr ⟨named.filled, named.notCurrent⟩), if_neg named.notParent]

theorem IsFileName.not_absolute (named : IsFileName name) : name.head? ≠ some '/' := by
  intro absolute
  exact named.single (mem_of_head? absolute)

theorem IsFileName.components (named : IsFileName name) :
    (PathBuf.mk name).components = [.normal name] := by
  have first : [name].head? ≠ some ['.'] := by
    simpa using named.notCurrent
  simp only [PathBuf.components, leadingComponent, named.not_absolute, first, if_false,
    segments_of_not_mem named.single, filterMap_cons, named.segmentComponent,
    filterMap_nil, nil_append]

theorem IsFileName.of_components {text : List Char} (single : '/' ∉ text)
    (whole : (PathBuf.mk text).components = [.normal name]) : IsFileName text := by
  refine ⟨?_, single, ?_, ?_⟩
  · rintro rfl
    cases whole
  · rintro rfl
    cases whole
  · rintro rfl
    cases whole

/-- Pushes a path onto another; an absolute one replaces it. -/
def PathBuf.join (base : PathBuf) (name : List Char) : PathBuf :=
  if name.head? = some '/' then ⟨name⟩
  else if base.text = [] ∨ base.text.getLast? = some '/' then ⟨base.text ++ name⟩
  else ⟨base.text ++ '/' :: name⟩

theorem leadingComponent_append_slash {front : List Char} (back : List Char) (filled : front ≠ []) :
    leadingComponent (front ++ '/' :: back) = leadingComponent front := by
  unfold leadingComponent
  obtain ⟨c, rest, shape⟩ := exists_cons_of_ne_nil filled
  obtain ⟨first, others, split⟩ := exists_cons_of_ne_nil (segments_ne_nil front)
  rw [segments_append_slash, split, shape]
  rfl

theorem PathBuf.components_join (base : PathBuf) (named : IsFileName name) :
    (base.join name).components = base.components ++ [.normal name] := by
  obtain ⟨text⟩ := base
  unfold PathBuf.join
  rw [if_neg named.not_absolute]
  split
  · rename_i bare
    rcases bare with empty | slashed
    · have empty : text = [] := empty
      subst empty
      exact named.components
    · obtain ⟨front, shape⟩ := List.getLast?_eq_some_iff.mp slashed
      have shape : text = front ++ ['/'] := shape
      subst shape
      have joined : segments (front ++ ['/'] ++ name) = segments front ++ [name] := by
        rw [append_assoc, singleton_append, segments_append_slash, segments_of_not_mem named.single]
      have lead : leadingComponent (front ++ ['/'] ++ name) =
          leadingComponent (front ++ ['/']) := by
        rw [append_assoc, singleton_append]
        cases front with
        | nil => rfl
        | cons =>
          rw [leadingComponent_append_slash name (by simp),
            leadingComponent_append_slash [] (by simp)]
      simp only [PathBuf.components, joined, lead, segments_append_slash, filterMap_append,
        filterMap_cons, filterMap_nil, named.segmentComponent, segments]
      simp [segmentComponent]
  · rename_i open_
    rw [not_or] at open_
    simp only [PathBuf.components, segments_append_slash, segments_of_not_mem named.single,
      leadingComponent_append_slash name open_.1, filterMap_append, filterMap_cons,
      filterMap_nil, named.segmentComponent, append_assoc]

/-- The path is an ancestor of the other, or the same. -/
def PathBuf.Contains (base path : PathBuf) : Prop := base.components <+: path.components

def PathBuf.StrictlyContains (base path : PathBuf) : Prop :=
  base.Contains path ∧ base.components ≠ path.components

instance (base path : PathBuf) : Decidable (base.Contains path) :=
  inferInstanceAs (Decidable (_ <+: _))

theorem PathBuf.strictlyContains_of_append {base path : PathBuf} {below : List PathComponent}
    (shape : path.components = base.components ++ below) (filled : below ≠ []) :
    base.StrictlyContains path := by
  refine ⟨⟨below, shape.symm⟩, ?_⟩
  intro same
  rw [shape] at same
  exact filled (self_eq_append_right.mp same)

/-- Component lists of which none continues the other. -/
def Apart (left right : List PathComponent) : Prop := ¬left <+: right ∧ ¬right <+: left

/-- What lies below directories that are apart is apart. -/
theorem Apart.not_contains {base leftDir rightDir leftRest rightRest : List PathComponent}
    {left right : PathBuf} (apart : Apart leftDir rightDir)
    (leftShape : left.components = base ++ (leftDir ++ leftRest))
    (rightShape : right.components = base ++ (rightDir ++ rightRest)) : ¬left.Contains right := by
  intro contained
  unfold PathBuf.Contains at contained
  rw [leftShape, rightShape, prefix_append_right_inj] at contained
  have front : leftDir <+: rightDir ++ rightRest := (prefix_append _ _).trans contained
  rcases prefix_or_prefix_of_prefix front (prefix_append rightDir rightRest) with
    before | after
  · exact apart.1 before
  · exact apart.2 after

theorem Apart.symm {left right : List PathComponent} (apart : Apart left right) :
    Apart right left :=
  ⟨apart.2, apart.1⟩

end Rub
