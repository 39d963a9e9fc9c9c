import Mathlib.Data.List.Basic

/-!
The words of a shell line that is one simple command. Blanks separate words; a text in single
quotes is literal, one in double quotes too unless it has a dollar sign, a backquote or a
backslash; a character that means something to the shell outside of quotes makes the line more
than a command of literal words.
-/

namespace Rub

open List

inductive ShellQuoting where
  | none | single | double
  deriving DecidableEq

/-- What has been read of a line: the words that have ended, and the one that has begun. -/
structure ShellLine where
  ended : List (List Char)
  begun : Option (List Char)
  quoting : ShellQuoting
  deriving DecidableEq

def isShellBlank (c : Char) : Bool := c == ' ' || c == '\t'

/-- The characters with a meaning of their own outside of quotes. -/
def shellSpecials : List Char :=
  ['&', ';', '|', '<', '>', '(', ')', '$', '`', '\\', '*', '?', '[', ']', '\n']

def isShellSpecial (c : Char) : Bool := shellSpecials.contains c

namespace ShellLine

def start : ShellLine := ⟨[], none, .none⟩

/-- The line with a word ended, if one had begun. -/
def endWord (line : ShellLine) : ShellLine :=
  ⟨line.ended ++ line.begun.toList, none, .none⟩

def add (line : ShellLine) (c : Char) : ShellLine :=
  { line with begun := some (line.begun.getD [] ++ [c]) }

def quote (line : ShellLine) (quoting : ShellQuoting) : ShellLine :=
  ⟨line.ended, some (line.begun.getD []), quoting⟩

def step (line : ShellLine) (c : Char) : Option ShellLine :=
  match line.quoting with
  | .single => some (if c = '\'' then line.quote .none else line.add c)
  | .double =>
    if c = '"' then some (line.quote .none)
    else if c = '$' ∨ c = '`' ∨ c = '\\' then none
    else some (line.add c)
  | .none =>
    if c = '\'' then some (line.quote .single)
    else if c = '"' then some (line.quote .double)
    else if isShellBlank c then some line.endWord
    else if isShellSpecial c then none
    else some (line.add c)

/-- Reads a text. -/
def read (line : ShellLine) (text : List Char) : Option ShellLine := text.foldlM step line

@[simp] theorem read_nil (line : ShellLine) : line.read [] = some line := rfl

theorem read_cons (line : ShellLine) (c : Char) (text : List Char) :
    line.read (c :: text) = (line.step c).bind fun next => next.read text := by
  rfl

theorem read_append (line : ShellLine) (first second : List Char) :
    line.read (first ++ second) = (line.read first).bind fun next => next.read second := by
  unfold read
  rw [foldlM_append]
  rfl

end ShellLine

def shellWords (text : List Char) : Option (List (List Char)) :=
  (ShellLine.start.read text).bind fun line =>
    if line.quoting = .none then some line.endWord.ended else none

/-- A character that stands for itself outside of quotes. -/
def isShellPlain (c : Char) : Bool :=
  !(c == '\'' || c == '"' || isShellBlank c || isShellSpecial c)

variable {line : ShellLine}

open ShellLine

theorem ShellLine.step_plain {c : Char} (open_ : line.quoting = .none)
    (plain : isShellPlain c = true) : line.step c = some (line.add c) := by
  simp only [isShellPlain, Bool.not_eq_true', Bool.or_eq_false_iff, beq_eq_false_iff_ne] at plain
  obtain ⟨⟨⟨single, double⟩, blank⟩, special⟩ := plain
  simp only [step, open_, single, double, blank, special, if_false, Bool.false_eq_true]

theorem ShellLine.step_special {c : Char} (open_ : line.quoting = .none)
    (special : isShellSpecial c = true) : line.step c = none := by
  have meaning : ∀ d ∈ shellSpecials, d ≠ '\'' ∧ d ≠ '"' ∧ isShellBlank d = false := by
    simp [shellSpecials, isShellBlank]
  obtain ⟨single, double, blank⟩ := meaning c (contains_iff_mem.mp special)
  simp only [step, open_, single, double, blank, special, if_false, if_true,
    Bool.false_eq_true]

theorem ShellLine.read_plain {ended : List (List Char)} {begun text : List Char}
    (plain : ∀ c ∈ text, isShellPlain c = true) :
    (⟨ended, some begun, .none⟩ : ShellLine).read text =
      some ⟨ended, some (begun ++ text), .none⟩ := by
  induction text generalizing begun with
  | nil => simp
  | cons c text ih =>
    rw [read_cons, step_plain rfl (plain c mem_cons_self)]
    have later : (⟨ended, some (begun ++ [c]), .none⟩ : ShellLine).read text = _ :=
      ih fun d member => plain d (mem_cons_of_mem _ member)
    rw [append_assoc, singleton_append] at later
    exact later

theorem ShellLine.read_special {text : List Char} (open_ : line.quoting = .none)
    (each : ∀ c ∈ text, isShellPlain c = true ∨ isShellSpecial c = true)
    (spoiled : ∃ c ∈ text, isShellSpecial c = true) : line.read text = none := by
  induction text generalizing line with
  | nil =>
    obtain ⟨c, member, -⟩ := spoiled
    cases member
  | cons c _ ih =>
    rw [read_cons]
    by_cases special : isShellSpecial c = true
    · rw [step_special open_ special]
      rfl
    · have plain := (each c mem_cons_self).resolve_right special
      rw [step_plain open_ plain]
      refine ih open_ (fun d member => each d (mem_cons_of_mem _ member)) ?_
      obtain ⟨d, member, found⟩ := spoiled
      rcases mem_cons.mp member with rfl | later
      · exact absurd found special
      · exact ⟨d, later, found⟩

/-- Texts with a blank before each but the first. -/
def blankSeparated : List (List Char) → List Char
  | [] => []
  | [text] => text
  | text :: rest => text ++ ' ' :: blankSeparated rest

/-- A text that reads as one word. -/
def ReadsAs (text word : List Char) : Prop :=
  ∀ ended, (⟨ended, none, .none⟩ : ShellLine).read text = some ⟨ended, some word, .none⟩

/-- A text that is not read as literal words. -/
def ReadsAsNone (text : List Char) : Prop :=
  ∀ ended, (⟨ended, none, .none⟩ : ShellLine).read text = none

variable {write : List Char → List Char} {words : List (List Char)}

theorem read_blankSeparated (word : List Char)
    (reads : ∀ each ∈ word :: words, ReadsAs (write each) each) (ended : List (List Char)) :
    ∃ init last, init ++ [last] = word :: words ∧
      (⟨ended, none, .none⟩ : ShellLine).read (blankSeparated ((word :: words).map write)) =
        some ⟨ended ++ init, some last, .none⟩ := by
  induction words generalizing word ended with
  | nil =>
    refine ⟨[], word, rfl, ?_⟩
    rw [append_nil]
    exact reads word mem_cons_self ended
  | cons next words ih =>
    obtain ⟨init, last, joined, rest⟩ := ih next
      (fun each member => reads each (mem_cons_of_mem _ member)) (ended ++ [word])
    refine ⟨word :: init, last, by rw [cons_append, joined], ?_⟩
    show read _ (write word ++ ' ' :: blankSeparated ((next :: words).map write)) = _
    rw [read_append, reads word mem_cons_self ended]
    show read _ (' ' :: blankSeparated ((next :: words).map write)) = _
    show read ⟨ended ++ [word], none, .none⟩ _ = _
    rw [rest, append_assoc, singleton_append]

/-- Words that are written so that each reads as itself are the words of the line. -/
theorem shellWords_blankSeparated (filled : words ≠ [])
    (reads : ∀ each ∈ words, ReadsAs (write each) each) :
    shellWords (blankSeparated (words.map write)) = some words := by
  cases words with
  | nil => exact absurd rfl filled
  | cons word =>
    obtain ⟨init, last, joined, read⟩ := read_blankSeparated word reads []
    unfold shellWords start
    rw [read, ← joined]
    rfl

/-- A text that is not read as literal words spoils the line. -/
theorem shellWords_of_readsAsNone {spoiled : List Char}
    (member : spoiled ∈ words) (spoils : ReadsAsNone (write spoiled))
    (reads : ∀ each ∈ words, ReadsAs (write each) each ∨ ReadsAsNone (write each)) :
    shellWords (blankSeparated (words.map write)) = none := by
  have fails : ∀ ended, (⟨ended, none, .none⟩ : ShellLine).read
      (blankSeparated (words.map write)) = none := by
    induction words with
    | nil => cases member
    | cons word words ih =>
      intro ended
      cases words with
      | nil =>
        cases mem_singleton.mp member
        exact spoils ended
      | cons next words =>
        show read _ (write word ++ ' ' :: blankSeparated ((next :: words).map write)) = _
        rw [read_append]
        rcases reads word mem_cons_self with whole | broken
        · rw [whole ended]
          show read _ (' ' :: blankSeparated ((next :: words).map write)) = _
          rcases mem_cons.mp member with rfl | later
          · have contradiction := (whole ended).symm.trans (spoils ended)
            cases contradiction
          · exact ih later (fun each inside => reads each (mem_cons_of_mem _ inside)) _
        · rw [broken ended]
          rfl
  unfold shellWords start
  rw [fails]
  rfl

end Rub
