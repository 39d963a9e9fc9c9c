import Rub.ProcessTable

/-!
The release of a temporary daemon. Its process is looked up by pid, session name, session id
and home, its tree is signalled, and the same lookup in later snapshots tells what is left.
-/

namespace Rub

open List

structure TempDaemonProcess where
  pid : Nat
  sessionName : String
  sessionId : String
  rubHome : PathBuf

def daemonProcessMatchesAuthority (process : ProcessInfo) (daemon : TempDaemonProcess) : Bool :=
  process.pid = daemon.pid && isRubDaemonCommand process.command &&
    extractFlagValue process.command "--session" = some daemon.sessionName &&
    extractFlagValue process.command "--session-id" = some daemon.sessionId &&
    (extractFlagValue process.command "--rub-home").any fun home =>
      PathBuf.same ⟨home.toList⟩ daemon.rubHome

def revalidatedTempDaemonTree (snapshot : List ProcessInfo) (daemon : TempDaemonProcess) :
    Option (List Nat) :=
  (snapshot.find? fun process => daemonProcessMatchesAuthority process daemon).map
    fun process => processTree snapshot process.pid

def revalidatedTempDaemonSigkillTree (snapshot : List ProcessInfo) (daemon : TempDaemonProcess) :
    Option (List Nat) :=
  revalidatedTempDaemonTree snapshot daemon

inductive TempDaemonReleaseOutcome where
  | released | stillLive | authorityLost
  deriving DecidableEq

inductive ProcessSignal where
  | term | kill
  deriving DecidableEq

/-- What the release does: it reads snapshots, which may fail, and sends signals. -/
inductive ReleaseEvent where
  | read (snapshot : Option (List ProcessInfo))
  | signalled (pids : List Nat) (signal : ProcessSignal)

/-- The system answers a read by a snapshot that depends on all that was done before. -/
abbrev ReleaseWorld := List ReleaseEvent → Option (List ProcessInfo)

structure ReleaseRun where
  outcome : TempDaemonReleaseOutcome
  events : List ReleaseEvent

def classifyTempDaemonRelease (survivingPids : List Nat) : TempDaemonReleaseOutcome :=
  if survivingPids.isEmpty then .released else .stillLive

/-- The part after the second signal. -/
def finalRelease (world : ReleaseWorld) (daemon : TempDaemonProcess) (events : List ReleaseEvent) :
    ReleaseRun :=
  match world events with
  | none => ⟨.stillLive, events ++ [.read none]⟩
  | some finalSnapshot =>
    let events := events ++ [.read (some finalSnapshot)]
    match revalidatedTempDaemonSigkillTree finalSnapshot daemon with
    | none => ⟨.authorityLost, events⟩
    | some finalSurvivors => ⟨classifyTempDaemonRelease finalSurvivors, events⟩

/-- The part after the first signal. -/
def killSurvivors (world : ReleaseWorld) (daemon : TempDaemonProcess)
    (events : List ReleaseEvent) : ReleaseRun :=
  match world events with
  | none => ⟨.stillLive, events ++ [.read none]⟩
  | some currentSnapshot =>
    let events := events ++ [.read (some currentSnapshot)]
    match revalidatedTempDaemonSigkillTree currentSnapshot daemon with
    | none => ⟨.authorityLost, events⟩
    | some survivors =>
      if survivors.isEmpty then ⟨.released, events⟩
      else finalRelease world daemon (events ++ [.signalled survivors .kill])

def terminateRevalidatedTempDaemon (world : ReleaseWorld) (daemon : TempDaemonProcess) :
    ReleaseRun :=
  match world [] with
  | none => ⟨.stillLive, [.read none]⟩
  | some snapshot =>
    match revalidatedTempDaemonTree snapshot daemon with
    | none => ⟨.released, [.read (some snapshot)]⟩
    | some tree => killSurvivors world daemon [.read (some snapshot), .signalled tree .term]

variable {snapshot : List ProcessInfo} {events : List ReleaseEvent} {tree : List Nat}

def lastSnapshot (events : List ReleaseEvent) : Option (List ProcessInfo) :=
  events.foldl (fun last event =>
    match event with
    | .read (some snapshot) => some snapshot
    | _ => last) none

def signalledPids (events : List ReleaseEvent) : List Nat :=
  events.flatMap fun event =>
    match event with
    | .read _ => []
    | .signalled pids _ => pids

/-- The last snapshot has neither the daemon nor a process that was signalled. -/
def DaemonGone (daemon : TempDaemonProcess) (events : List ReleaseEvent) : Prop :=
  ∃ snapshot, lastSnapshot events = some snapshot ∧ ∀ process ∈ snapshot,
    daemonProcessMatchesAuthority process daemon = false ∧ process.pid ∉ signalledPids events

/-- Each signal goes to descendants of a process that was the daemon when it was last looked. -/
def SignalsWithinTree (daemon : TempDaemonProcess) (events : List ReleaseEvent) : Prop :=
  ∀ before pids signal after, events = before ++ .signalled pids signal :: after →
    ∃ snapshot, lastSnapshot before = some snapshot ∧ ∃ process ∈ snapshot,
      daemonProcessMatchesAuthority process daemon = true ∧
        ∀ pid ∈ pids, DescendsFrom snapshot process.pid pid

theorem lastSnapshot_read (events : List ReleaseEvent) (snapshot : List ProcessInfo) :
    lastSnapshot (events ++ [.read (some snapshot)]) = some snapshot := by
  unfold lastSnapshot
  rw [foldl_append]
  rfl

theorem lastSnapshot_unread (events : List ReleaseEvent) :
    lastSnapshot (events ++ [.read none]) = lastSnapshot events := by
  unfold lastSnapshot
  rw [foldl_append]
  rfl

variable {daemon : TempDaemonProcess}

theorem revalidatedTempDaemonTree_eq_some
    (found : revalidatedTempDaemonTree snapshot daemon = some tree) :
    tree ≠ [] ∧ ∃ process ∈ snapshot, daemonProcessMatchesAuthority process daemon = true ∧
      ∀ pid ∈ tree, DescendsFrom snapshot process.pid pid := by
  obtain ⟨process, first, rfl⟩ := Option.map_eq_some_iff.mp found
  constructor
  · exact ne_nil_of_mem (mem_processTree.mpr .refl)
  · have matched : daemonProcessMatchesAuthority process daemon = true :=
      List.find?_eq_some_iff_append.mp first |>.1
    refine ⟨process, mem_of_find?_eq_some first, matched, ?_⟩
    intro pid member
    exact mem_processTree.mp member

theorem revalidatedTempDaemonTree_eq_none
    (missing : revalidatedTempDaemonTree snapshot daemon = none) :
    ∀ process ∈ snapshot, daemonProcessMatchesAuthority process daemon = false := by
  intro process member
  have unfound := List.find?_eq_none.mp (Option.map_eq_none_iff.mp missing) process member
  simpa using unfound

theorem not_daemonGone (last : lastSnapshot events = some snapshot)
    (found : revalidatedTempDaemonTree snapshot daemon = some tree) :
    ¬DaemonGone daemon events := by
  rintro ⟨other, same, gone⟩
  rw [last] at same
  cases same
  obtain ⟨-, process, member, matched, -⟩ := revalidatedTempDaemonTree_eq_some found
  rw [(gone process member).1] at matched
  cases matched

variable {world : ReleaseWorld}

theorem SignalsWithinTree.read {snapshot : Option (List ProcessInfo)}
    (within : SignalsWithinTree daemon events) :
    SignalsWithinTree daemon (events ++ [.read snapshot]) := by
  intro before pids signal after shape
  rcases eq_nil_or_concat after with rfl | ⟨front, last, rfl⟩
  · obtain ⟨-, same⟩ := append_inj' shape rfl
    cases same
  · rw [concat_eq_append, ← cons_append, ← append_assoc] at shape
    obtain ⟨same, -⟩ := append_inj' shape rfl
    exact within before pids signal front same

theorem SignalsWithinTree.signalled {kind : ProcessSignal}
    (within : SignalsWithinTree daemon events) (last : lastSnapshot events = some snapshot)
    (found : revalidatedTempDaemonTree snapshot daemon = some tree) :
    SignalsWithinTree daemon (events ++ [.signalled tree kind]) := by
  intro before pids signal after shape
  rcases eq_nil_or_concat after with rfl | ⟨front, final, rfl⟩
  · obtain ⟨rfl, same⟩ := append_inj' shape rfl
    cases same
    exact ⟨snapshot, last, (revalidatedTempDaemonTree_eq_some found).2⟩
  · rw [concat_eq_append, ← cons_append, ← append_assoc] at shape
    obtain ⟨same, -⟩ := append_inj' shape rfl
    exact within before pids signal front same

/-- What a run gives once a tree was signalled: it is never told as released. -/
structure Unreleased (daemon : TempDaemonProcess) (run : ReleaseRun) : Prop where
  within : SignalsWithinTree daemon run.events
  outcome : run.outcome ≠ .released
  lost : DaemonGone daemon run.events → run.outcome = .authorityLost

/-- After a signal to the tree of the last snapshot, the first look at what is left. -/
theorem Unreleased.look (next : List Nat → List ReleaseEvent → ReleaseRun)
    (within : SignalsWithinTree daemon events) (last : lastSnapshot events = some snapshot)
    (found : revalidatedTempDaemonTree snapshot daemon = some tree)
    (later : ∀ current survivors, revalidatedTempDaemonTree current daemon = some survivors →
      Unreleased daemon (next survivors (events ++ [.read (some current)]))) :
    Unreleased daemon (match world events with
        | none => ⟨.stillLive, events ++ [.read none]⟩
        | some current =>
          match revalidatedTempDaemonSigkillTree current daemon with
          | none => ⟨.authorityLost, events ++ [.read (some current)]⟩
          | some survivors => next survivors (events ++ [.read (some current)])) := by
  cases world events with
  | none =>
    refine ⟨within.read, nofun, ?_⟩
    intro gone
    exact absurd gone (not_daemonGone ((lastSnapshot_unread events).trans last) found)
  | some current =>
    show Unreleased daemon (match revalidatedTempDaemonTree current daemon with
      | none => ⟨.authorityLost, events ++ [.read (some current)]⟩
      | some survivors => next survivors (events ++ [.read (some current)]))
    cases left : revalidatedTempDaemonTree current daemon with
    | none => exact ⟨within.read, nofun, fun _ => rfl⟩
    | some survivors => exact later current survivors left

section

variable (within : SignalsWithinTree daemon events) (last : lastSnapshot events = some snapshot)
  (found : revalidatedTempDaemonTree snapshot daemon = some tree)

include within last found

theorem unreleased_finalRelease : Unreleased daemon (finalRelease world daemon events) := by
  refine Unreleased.look (fun survivors events =>
    ⟨classifyTempDaemonRelease survivors, events⟩) within last found ?_
  intro current survivors left
  have filled := (revalidatedTempDaemonTree_eq_some left).1
  have outcome : classifyTempDaemonRelease survivors = .stillLive := if_neg (by simpa using filled)
  refine ⟨within.read, ?_, ?_⟩
  · rw [outcome]
    nofun
  · intro gone
    exact absurd gone (not_daemonGone (lastSnapshot_read events current) left)

theorem unreleased_killSurvivors : Unreleased daemon (killSurvivors world daemon events) := by
  refine Unreleased.look (fun survivors events =>
    if survivors.isEmpty then ⟨.released, events⟩
    else finalRelease world daemon (events ++ [.signalled survivors .kill])) within last found ?_
  intro current survivors left
  have filled := (revalidatedTempDaemonTree_eq_some left).1
  rw [if_neg (by simpa using filled)]
  have read := lastSnapshot_read events current
  refine unreleased_finalRelease (within.read.signalled read left) ?_ left
  rw [lastSnapshot, foldl_append]
  exact read

end

theorem signalsWithinTree_nil : SignalsWithinTree daemon [] := by
  intro before pids signal after shape
  simp at shape

theorem unreleased_of_found (read : world [] = some snapshot)
    (found : revalidatedTempDaemonTree snapshot daemon = some tree) :
    Unreleased daemon (terminateRevalidatedTempDaemon world daemon) := by
  have started : SignalsWithinTree daemon [.read (some snapshot), .signalled tree .term] :=
    signalsWithinTree_nil.read.signalled rfl found
  simp only [terminateRevalidatedTempDaemon, read, found]
  exact unreleased_killSurvivors started rfl found

/--
Signals only reach the tree of the daemon. The report is truthful exactly if the first snapshot
does not have the daemon or the last one has something left of it: a daemon that was there, and
has left with all its tree, is reported as lost.
-/
theorem temp_daemon_release_truthful_iff (world : ReleaseWorld) (daemon : TempDaemonProcess) :
    let run := terminateRevalidatedTempDaemon world daemon
    SignalsWithinTree daemon run.events ∧
      ((run.outcome = .released ↔ DaemonGone daemon run.events) ↔
        (∃ first, world [] = some first ∧ ∀ process ∈ first,
          daemonProcessMatchesAuthority process daemon = false) ∨
            ¬DaemonGone daemon run.events) ∧
      (DaemonGone daemon run.events → signalledPids run.events ≠ [] →
        run.outcome = .authorityLost) := by
  intro run
  cases read : world [] with
  | none =>
    have whole : run = ⟨.stillLive, [.read none]⟩ := by
      simp only [run, terminateRevalidatedTempDaemon, read]
    rw [whole]
    have there : ¬DaemonGone daemon [.read none] := by
      rintro ⟨snapshot, last, -⟩
      cases last
    refine ⟨signalsWithinTree_nil.read, ?_, fun gone => absurd gone there⟩
    simp [there]
  | some first =>
    cases found : revalidatedTempDaemonTree first daemon with
    | none =>
      have whole : run = ⟨.released, [.read (some first)]⟩ := by
        simp only [run, terminateRevalidatedTempDaemon, read, found]
      rw [whole]
      have missing := revalidatedTempDaemonTree_eq_none found
      have gone : DaemonGone daemon [.read (some first)] :=
        ⟨first, rfl, fun process member => ⟨missing process member, not_mem_nil⟩⟩
      refine ⟨signalsWithinTree_nil.read, ?_, fun _ signalled => absurd rfl signalled⟩
      exact iff_of_true (iff_of_true rfl gone) (.inl ⟨first, rfl, missing⟩)
    | some =>
      have unreleased : Unreleased daemon run := unreleased_of_found read found
      obtain ⟨-, process, member, matched, -⟩ := revalidatedTempDaemonTree_eq_some found
      have present : ¬∀ process ∈ first, daemonProcessMatchesAuthority process daemon = false :=
        fun missing => by simp [missing process member] at matched
      refine ⟨unreleased.within, ?_, fun gone _ => unreleased.lost gone⟩
      simp [unreleased.outcome, present]

def sampleDaemon : TempDaemonProcess where
  pid := 42
  sessionName := "default"
  sessionId := "s1"
  rubHome := ⟨"/tmp/h".toList⟩

def sampleDaemonProcess : ProcessInfo where
  pid := 42
  ppid := 1
  command := "rub __daemon --session default --session-id s1 --rub-home /tmp/h"

/-- The daemon is there, and gone when it is looked for again. -/
def exitsAtOnce : ReleaseWorld := fun events =>
  if events.isEmpty then some [sampleDaemonProcess] else some []

theorem exited_daemon_not_released : ∃ world daemon,
    let run := terminateRevalidatedTempDaemon world daemon
    signalledPids run.events = [42] ∧ DaemonGone daemon run.events ∧
      run.outcome = .authorityLost := by
  refine ⟨exitsAtOnce, sampleDaemon, by decide +kernel, ⟨[], by decide +kernel, ?_⟩,
    by decide +kernel⟩
  intro process member
  cases member

end Rub
