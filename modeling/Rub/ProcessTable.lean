import Rub.GraphWalk
import Rub.IpcProtocol
import Rub.PosixPath

/-!
A snapshot of the running processes. What a process is, is read from its command line; its
descendants and ancestors are found along the parent ids, which may lead in a circle.
-/

namespace Rub

structure ProcessInfo where
  pid : Nat
  ppid : Nat
  command : String
  deriving DecidableEq

structure CommandTokenizer where
  parts : List (List Char)
  current : List Char
  inSingleQuotes : Bool
  inDoubleQuotes : Bool
  escaping : Bool

namespace CommandTokenizer

def start : CommandTokenizer := ⟨[], [], false, false, false⟩

def push (state : CommandTokenizer) (c : Char) : CommandTokenizer :=
  { state with current := state.current ++ [c] }

def finishPart (state : CommandTokenizer) : CommandTokenizer :=
  if state.current = [] then state
  else { state with parts := state.parts ++ [state.current], current := [] }

def step (state : CommandTokenizer) (c : Char) : CommandTokenizer :=
  if state.escaping then { state.push c with escaping := false }
  else if c = '\\' ∧ state.inSingleQuotes = false then { state with escaping := true }
  else if c = '\'' ∧ state.inDoubleQuotes = false then
    { state with inSingleQuotes := !state.inSingleQuotes }
  else if c = '"' ∧ state.inSingleQuotes = false then
    { state with inDoubleQuotes := !state.inDoubleQuotes }
  else if isWhiteSpace c ∧ state.inSingleQuotes = false ∧ state.inDoubleQuotes = false then
    state.finishPart
  else state.push c

end CommandTokenizer

def tokenizeCommand (command : String) : List String :=
  let state := command.toList.foldl CommandTokenizer.step .start
  let state := if state.escaping then state.push '\\' else state
  state.finishPart.parts.map String.ofList

/-- The value of a flag: the next part, or what follows the equals sign. -/
def flagValueIn (flag : String) : List String → Option String
  | [] => none
  | part :: parts =>
    if part = flag then parts.head?
    else if (flag ++ "=").toList.isPrefixOf part.toList then
      some (String.ofList (part.toList.drop (flag ++ "=").toList.length))
    else flagValueIn flag parts

def extractFlagValue (command flag : String) : Option String :=
  flagValueIn flag (tokenizeCommand command)

/-- The path without the double quotes around it. -/
def unquotedPath (program : String) : PathBuf :=
  let front := program.toList.dropWhile fun c => c = '"'
  ⟨(front.reverse.dropWhile fun c => c = '"').reverse⟩

def isRubDaemonCommand (command : String) : Bool :=
  match tokenizeCommand command with
  | program :: subcommand :: _ =>
    subcommand = "__daemon" &&
      ((unquotedPath program).fileName = some "rub".toList ||
        (unquotedPath program).fileName = some "rub.exe".toList)
  | _ => false

def parentEdges (snapshot : List ProcessInfo) : List (Nat × Nat) :=
  snapshot.map fun process => (process.ppid, process.pid)

def processTree (snapshot : List ProcessInfo) (rootPid : Nat) : List Nat :=
  reachable (parentEdges snapshot) rootPid

/-- A process that descends from another, or is the same. -/
def DescendsFrom (snapshot : List ProcessInfo) (rootPid pid : Nat) : Prop :=
  Relation.ReflTransGen (fun parent child => ∃ process ∈ snapshot,
    process.ppid = parent ∧ process.pid = child) rootPid pid

theorem leads_parentEdges {snapshot : List ProcessInfo} :
    Leads (parentEdges snapshot) = fun parent child => ∃ process ∈ snapshot,
      process.ppid = parent ∧ process.pid = child := by
  funext parent child
  simp [Leads, parentEdges]

theorem mem_processTree {snapshot : List ProcessInfo} {rootPid pid : Nat} :
    pid ∈ processTree snapshot rootPid ↔ DescendsFrom snapshot rootPid pid := by
  unfold processTree DescendsFrom
  rw [mem_reachable, leads_parentEdges]

end Rub
