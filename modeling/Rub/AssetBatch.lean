import Rub.AssetPaths
import Rub.PartialMap
import Rub.TransitionSystem

/-!
A batch of asset downloads that run next to each other. Each of them reserves its output path
when its content starts to arrive, and publishes the file when it is complete. Other programs
may create and remove files at any time.
-/

namespace Rub

open Function List AssetSource

/-- Who wrote a file: a download of the batch, or some other program. -/
inductive FileOwner where
  | asset (index : Nat)
  | other
  deriving DecidableEq

inductive AssetProgress where
  | waiting
  | prepared (path : OutputPath)
  | finished (path : Option OutputPath)
  deriving DecidableEq

def AssetProgress.outputPath : AssetProgress → Option OutputPath
  | .waiting => none
  | .prepared path => some path
  | .finished path => path

/-- The batch and the files. Which download wrote over whose file and whose file made a
download skip is recorded. -/
structure SaveState where
  reservedOutputPaths : Finset OutputPath
  progress : Nat → AssetProgress
  files : OutputPath → Option FileOwner
  overwritten : List (Nat × FileOwner)
  skipped : List (Nat × FileOwner)

inductive SaveAction where
  /-- The content of a source starts to arrive. -/
  | reserve (index : Nat) (contentType : Option HeaderValue) (firstChunk : Option (List UInt8))
  /-- A download fails or times out. -/
  | fail (index : Nat)
  /-- A complete file is published. -/
  | commit (index : Nat)
  /-- Another program writes or removes a file. -/
  | disk (path : OutputPath) (present : Bool)

variable (overwrite : Bool) (sources : List AssetSource)

def SaveState.finish (state : SaveState) (index : Nat) (path : Option OutputPath) : SaveState :=
  { state with progress := update state.progress index (.finished path) }

/-- A file is in the way and stays. -/
def SaveState.skip (state : SaveState) (index : Nat) (path : OutputPath) (owner : FileOwner) :
    SaveState :=
  { state.finish index (some path) with skipped := state.skipped ++ [(index, owner)] }

/-- The reserved path is checked before anything is written. -/
def SaveState.reserve (state : SaveState) (index : Nat) (source : AssetSource)
    (contentType : Option HeaderValue) (firstChunk : Option (List UInt8)) : SaveState :=
  let (path, reserved) := reserveReconciledOutputPath source.outputPath contentType firstChunk
    state.reservedOutputPaths
  let state := { state with reservedOutputPaths := reserved }
  match overwrite, state.files path with
  | false, some owner => state.skip index path owner
  | _, _ => { state with progress := update state.progress index (.prepared path) }

def SaveState.publish (state : SaveState) (index : Nat) (path : OutputPath) : SaveState :=
  { state.finish index (some path) with
    files := update state.files path (some (.asset index)) }

def SaveState.commit (state : SaveState) (index : Nat) (path : OutputPath) : SaveState :=
  match state.files path, overwrite with
  | none, _ => state.publish index path
  | some owner, true =>
    { state.publish index path with overwritten := state.overwritten ++ [(index, owner)] }
  | some owner, false => state.skip index path owner

def SaveState.step (state : SaveState) : SaveAction → Option SaveState
  | .reserve index contentType firstChunk =>
    match sources[index]?, state.progress index with
    | some source, .waiting => some (state.reserve overwrite index source contentType firstChunk)
    | _, _ => none
  | .fail index =>
    match state.progress index with
    | .finished _ => none
    | progress => some (state.finish index progress.outputPath)
  | .commit index =>
    match state.progress index with
    | .prepared path => some (state.commit overwrite index path)
    | _ => none
  | .disk path present =>
    some { state with
      files := update state.files path (if present then some .other else none) }

def saveSystem : TransitionSystem SaveState SaveAction where
  initial :=
    { reservedOutputPaths := (sources.map AssetSource.outputPath).toFinset
      progress := fun _ => .waiting
      files := fun _ => none
      overwritten := []
      skipped := [] }
  step := SaveState.step overwrite sources

variable {overwrite : Bool} {sources : List AssetSource} {state next : SaveState}

def SaveState.outputPath (state : SaveState) (index : Nat) : Option OutputPath :=
  (state.progress index).outputPath

/-- No two downloads got one path, and none wrote over or skipped for the file of another. -/
structure Separate (state : SaveState) : Prop where
  distinct : ∀ first second path, state.outputPath first = some path →
    state.outputPath second = some path → first = second
  overwritten : ∀ entry ∈ state.overwritten, entry.2 = .other
  skipped : ∀ entry ∈ state.skipped, entry.2 = .other

/-- What one step does to a batch. -/
inductive SaveStep (overwrite : Bool) (sources : List AssetSource) (state : SaveState) :
    SaveState → Prop where
  | reserve (index : Nat) (source : AssetSource) (contentType : Option HeaderValue)
      (firstChunk : Option (List UInt8)) (listed : sources[index]? = some source)
      (waiting : state.progress index = .waiting) :
      SaveStep overwrite sources state
        (state.reserve overwrite index source contentType firstChunk)
  | fail (index : Nat) (running : ∀ path, state.progress index ≠ .finished path) :
      SaveStep overwrite sources state (state.finish index (state.progress index).outputPath)
  | commit (index : Nat) (path : OutputPath) (prepared : state.progress index = .prepared path) :
      SaveStep overwrite sources state (state.commit overwrite index path)
  | disk (path : OutputPath) (present : Option FileOwner)
      (foreign : ∀ owner, present = some owner → owner = .other) :
      SaveStep overwrite sources state
        { state with files := update state.files path present }

theorem saveStep_of_step {action : SaveAction}
    (taken : (saveSystem overwrite sources).step state action = some next) :
    SaveStep overwrite sources state next := by
  cases action with
  | reserve index contentType firstChunk =>
    simp only [saveSystem, SaveState.step] at taken
    split at taken <;> cases taken
    exact .reserve index _ contentType firstChunk ‹_› ‹_›
  | fail index =>
    simp only [saveSystem, SaveState.step] at taken
    split at taken <;> cases taken
    exact .fail index ‹_›
  | commit index =>
    simp only [saveSystem, SaveState.step] at taken
    split at taken <;> cases taken
    exact .commit index _ ‹_›
  | disk path present =>
    cases taken
    refine .disk path _ fun owner found => ?_
    cases present with
    | true =>
      cases found
      rfl
    | false => cases found

/-- Every path a download got and every path a waiting download is planned for is reserved,
and no two of them are the same. -/
structure PathsApart (sources : List AssetSource) (reserved : Finset OutputPath)
    (progress : Nat → AssetProgress) : Prop where
  held : ∀ index path, (progress index).outputPath = some path → path ∈ reserved
  planned : ∀ index source, sources[index]? = some source → progress index = .waiting →
    source.outputPath ∈ reserved
  clear : ∀ index path other source, (progress index).outputPath = some path →
    sources[other]? = some source → progress other = .waiting → path ≠ source.outputPath
  distinct : ∀ first second path, (progress first).outputPath = some path →
    (progress second).outputPath = some path → first = second

variable {index : Nat} {source : AssetSource} {path : OutputPath}

namespace PathsApart

variable {reserved : Finset OutputPath} {progress later : Nat → AssetProgress}

theorem initial (sources : List AssetSource) :
    PathsApart sources (sources.map outputPath).toFinset fun _ => .waiting where
  held _ _ given := nomatch given
  planned index source listed _ := by
    rw [mem_toFinset]
    exact mem_map_of_mem (mem_of_getElem? listed)
  clear _ _ _ _ given := nomatch given
  distinct _ _ _ given := nomatch given

variable (apart : PathsApart sources reserved progress)

include apart

theorem of_same (same : ∀ index, (later index).outputPath = (progress index).outputPath)
    (waits : ∀ index, later index = .waiting → progress index = .waiting) :
    PathsApart sources reserved later where
  held index path given := apart.held index path (same index ▸ given)
  planned index source listed waiting := apart.planned index source listed (waits index waiting)
  clear index path other source given listed waiting :=
    apart.clear index path other source (same index ▸ given) listed (waits other waiting)
  distinct first second path given again :=
    apart.distinct first second path (same first ▸ given) (same second ▸ again)

theorem finish (index : Nat) : PathsApart sources reserved
      (update progress index (.finished (progress index).outputPath)) := by
  refine apart.of_same (fun other => ?_) (fun other waiting => ?_)
  · by_cases same : other = index
    · subst same
      rw [update_self]
      rfl
    · rw [update_of_ne same]
  · by_cases same : other = index
    · subst same
      rw [update_self] at waiting
      cases waiting
    · rwa [update_of_ne same] at waiting

/-- The path of a download is reserved beside the one a waiting download gives back. -/
theorem held_erase {other : Nat} (listed : sources[index]? = some source)
    (waiting : progress index = .waiting) (got : (progress other).outputPath = some path) :
    path ∈ reserved.erase source.outputPath :=
  Finset.mem_erase.mpr ⟨apart.clear other path index source got listed waiting,
    apart.held other path got⟩

/-- A path that was free when the planned one was given back joins the others. -/
theorem reserve (nodup : (sources.map outputPath).Nodup) {arrived : AssetProgress}
    (listed : sources[index]? = some source) (waiting : progress index = .waiting)
    (given : arrived.outputPath = some path) (free : path ∉ reserved.erase source.outputPath) :
    PathsApart sources (insert path (reserved.erase source.outputPath))
      (update progress index arrived) := by
  -- The planned paths of the others are reserved and are not the one given back.
  have waiters : ∀ other planned, other ≠ index → sources[other]? = some planned →
      progress other = .waiting → planned.outputPath ∈ reserved.erase source.outputPath := by
    intro other planned different found idle
    refine Finset.mem_erase.mpr ⟨fun same => different ?_, apart.planned other planned found idle⟩
    have paths : (sources.map outputPath)[other]? = (sources.map outputPath)[index]? := by
      rw [List.getElem?_map, List.getElem?_map, found, listed, Option.map_some, Option.map_some,
        same]
    refine (List.getElem?_inj ?_ nodup).mp paths
    rw [length_map]
    exact (List.getElem?_eq_some_iff.mp found).1
  have busy : arrived ≠ .waiting := by
    rintro rfl
    cases given
  constructor
  · intro other old got
    by_cases same : other = index
    · subst same
      rw [update_self, given] at got
      cases got
      exact Finset.mem_insert_self _ _
    · rw [update_of_ne same] at got
      exact Finset.mem_insert_of_mem (apart.held_erase listed waiting got)
  · intro other planned found idle
    by_cases same : other = index
    · subst same
      rw [update_self] at idle
      exact absurd idle busy
    · rw [update_of_ne same] at idle
      exact Finset.mem_insert_of_mem (waiters other planned same found idle)
  · intro first old other planned got found idle clash
    by_cases waits : other = index
    · subst waits
      rw [update_self] at idle
      exact busy idle
    · rw [update_of_ne waits] at idle
      by_cases same : first = index
      · subst same
        rw [update_self, given] at got
        cases got
        exact free (clash ▸ waiters other planned waits found idle)
      · rw [update_of_ne same] at got
        exact apart.clear first old other planned got found idle clash
  · intro first second old got again
    by_cases same : first = index
    · by_cases also : second = index
      · rw [same, also]
      · subst same
        rw [update_self, given] at got
        rw [update_of_ne also] at again
        cases got
        exact absurd (apart.held_erase listed waiting again) free
    · rw [update_of_ne same] at got
      by_cases also : second = index
      · subst also
        rw [update_self, given] at again
        cases again
        exact absurd (apart.held_erase listed waiting got) free
      · rw [update_of_ne also] at again
        exact apart.distinct first second old got again

end PathsApart

/-- The files of the batch are those of finished downloads, and no file of the batch was in
the way of another one. -/
structure FilesOwned (state : SaveState) : Prop where
  written : ∀ path index, state.files path = some (.asset index) →
    state.progress index = .finished (some path)
  overwritten : ∀ entry ∈ state.overwritten, entry.2 = .other
  skipped : ∀ entry ∈ state.skipped, entry.2 = .other

section

variable (owned : FilesOwned state) (running : ∀ path, state.progress index ≠ .finished path)

include owned running

theorem FilesOwned.update_progress (arrived : AssetProgress) (reserved : Finset OutputPath) :
    FilesOwned { state with
      reservedOutputPaths := reserved
      progress := update state.progress index arrived } where
  written path writer found := by
    have finished := owned.written path writer found
    have different : writer ≠ index := by
      rintro rfl
      exact running _ finished
    exact (update_of_ne different _ _).trans finished
  overwritten := owned.overwritten
  skipped := owned.skipped

theorem FilesOwned.skip (path : OutputPath) : FilesOwned (state.skip index path .other) := by
  have finished := owned.update_progress running (.finished (some path)) state.reservedOutputPaths
  refine ⟨finished.written, finished.overwritten, ?_⟩
  intro entry member
  rcases mem_append.mp member with older | new
  · exact owned.skipped entry older
  · obtain rfl := mem_singleton.mp new
    rfl

theorem FilesOwned.publish (path : OutputPath) : FilesOwned (state.publish index path) := by
  have finished := owned.update_progress running (.finished (some path)) state.reservedOutputPaths
  refine ⟨?_, finished.overwritten, finished.skipped⟩
  intro other writer found
  rcases update_eq_some found with ⟨rfl, written⟩ | ⟨-, kept⟩
  · cases written
    exact update_self ..
  · exact finished.written other writer kept

end

structure BatchInvariant (sources : List AssetSource) (state : SaveState) : Prop where
  apart : PathsApart sources state.reservedOutputPaths state.progress
  owned : FilesOwned state

section

variable (holds : BatchInvariant sources state)

include holds

/-- A file in the way of a download that got a path is not of the batch. -/
theorem BatchInvariant.foreign_of_prepared
    {owner : FileOwner} (prepared : state.progress index = .prepared path)
    (found : state.files path = some owner) : owner = .other := by
  cases owner with
  | other => rfl
  | asset writer =>
    have finished := holds.owned.written path writer found
    have same := holds.apart.distinct index writer path (by rw [prepared]; rfl)
      (by rw [finished]; rfl)
    rw [← same, prepared] at finished
    cases finished

theorem BatchInvariant.commit (prepared : state.progress index = .prepared path) :
    BatchInvariant sources (state.commit overwrite index path) := by
  have running : ∀ path, state.progress index ≠ .finished path := by
    rw [prepared]
    exact fun _ => nofun
  have apart := holds.apart.finish index
  rw [prepared] at apart
  unfold SaveState.commit
  split
  · exact ⟨apart, holds.owned.publish running path⟩
  · rename_i owner found
    have published := holds.owned.publish running path
    refine ⟨apart, published.written, ?_, published.skipped⟩
    intro entry member
    rcases mem_append.mp member with older | new
    · exact holds.owned.overwritten entry older
    · obtain rfl := mem_singleton.mp new
      exact holds.foreign_of_prepared prepared found
  · rename_i owner found
    obtain rfl := holds.foreign_of_prepared prepared found
    exact ⟨apart, holds.owned.skip running path⟩

theorem BatchInvariant.reserve
    (nodup : (sources.map outputPath).Nodup) (listed : sources[index]? = some source)
    (waiting : state.progress index = .waiting) (contentType : Option HeaderValue)
    (firstChunk : Option (List UInt8)) :
    BatchInvariant sources (state.reserve overwrite index source contentType firstChunk) := by
  have running : ∀ path, state.progress index ≠ .finished path := by
    rw [waiting]
    exact fun _ => nofun
  obtain ⟨free, kept⟩ := reserveReconciledOutputPath_spec source.outputPath contentType firstChunk
    state.reservedOutputPaths
  unfold SaveState.reserve
  generalize reserveReconciledOutputPath source.outputPath contentType firstChunk
    state.reservedOutputPaths = reservation at free kept
  obtain ⟨path, reserved⟩ := reservation
  simp only at free kept ⊢
  subst kept
  split
  · rename_i owner found
    -- The file of another download would be under a path that is reserved.
    have foreign : owner = .other := by
      cases owner with
      | other => rfl
      | asset writer =>
        have finished := holds.owned.written path writer found
        exact absurd (holds.apart.held_erase listed waiting (by rw [finished]; rfl)) free
    subst foreign
    have moved : FilesOwned { state with
        reservedOutputPaths := insert path (state.reservedOutputPaths.erase source.outputPath) } :=
      ⟨holds.owned.written, holds.owned.overwritten, holds.owned.skipped⟩
    exact ⟨holds.apart.reserve nodup listed waiting rfl free, moved.skip running path⟩
  · exact ⟨holds.apart.reserve nodup listed waiting rfl free,
      holds.owned.update_progress running (.prepared path) _⟩

end

theorem BatchInvariant.step (nodup : (sources.map outputPath).Nodup)
    (holds : BatchInvariant sources state) (moved : SaveStep overwrite sources state next) :
    BatchInvariant sources next := by
  cases moved with
  | reserve _ _ contentType firstChunk listed waiting =>
    exact holds.reserve nodup listed waiting contentType firstChunk
  | fail index running =>
    exact ⟨holds.apart.finish index, holds.owned.update_progress running _ _⟩
  | commit _ _ prepared => exact holds.commit prepared
  | disk _ _ foreign =>
    refine ⟨holds.apart, ?_, holds.owned.overwritten, holds.owned.skipped⟩
    intro other writer found
    rcases update_eq_some found with ⟨rfl, written⟩ | ⟨-, kept⟩
    · cases foreign _ written
    · exact holds.owned.written other writer kept

theorem separate_of_nodup (nodup : (sources.map outputPath).Nodup) {actions : List SaveAction}
    (run : (saveSystem overwrite sources).runFrom (saveSystem overwrite sources).initial actions =
      some state) : Separate state := by
  have start : BatchInvariant sources (saveSystem overwrite sources).initial :=
    ⟨.initial sources, ⟨fun _ _ found => (nomatch found), fun _ member => (nomatch member),
      fun _ member => (nomatch member)⟩⟩
  have holds := (saveSystem overwrite sources).runFrom_preserves
    (fun state action next holds taken => BatchInvariant.step nodup holds (saveStep_of_step taken))
    start run
  exact ⟨holds.apart.distinct, holds.owned.overwritten, holds.owned.skipped⟩

/-- A download whose content says nothing gets the path it was planned for, where no file is. -/
theorem step_reserve_plain (listed : sources[index]? = some source)
    (waiting : state.progress index = .waiting) (absent : state.files source.outputPath = none) :
    ∃ next, (saveSystem overwrite sources).step state (.reserve index none none) = some next ∧
      next.progress = update state.progress index (.prepared source.outputPath) ∧
      next.files = state.files := by
  refine ⟨{ state with
    reservedOutputPaths :=
      insert source.outputPath (state.reservedOutputPaths.erase source.outputPath)
    progress := update state.progress index (.prepared source.outputPath) }, ?_, rfl, rfl⟩
  simp only [saveSystem, SaveState.step, listed, waiting, SaveState.reserve,
    reserveReconciledOutputPath_plain, absent]

/-- Two downloads planned for one path both get it when their content says nothing. -/
theorem shared_of_planned {first second : Nat} {one two : AssetSource} (different : first ≠ second)
    (firstListed : sources[first]? = some one) (secondListed : sources[second]? = some two)
    (same : one.outputPath = two.outputPath) :
    ∃ actions state, (saveSystem overwrite sources).runFrom (saveSystem overwrite sources).initial
      actions = some state ∧ state.outputPath first = some one.outputPath ∧
        state.outputPath second = some one.outputPath := by
  obtain ⟨middle, firstStep, progress, files⟩ :=
    @step_reserve_plain overwrite sources (saveSystem overwrite sources).initial first one
      firstListed rfl rfl
  have waits : middle.progress second = .waiting := by
    rw [progress, update_of_ne different.symm]
    rfl
  have absent : middle.files two.outputPath = none := by
    rw [files]
    rfl
  obtain ⟨final, secondStep, reached, -⟩ :=
    @step_reserve_plain overwrite sources middle second two secondListed waits absent
  refine ⟨[.reserve first none none, .reserve second none none], final, ?_, ?_, ?_⟩
  · exact (TransitionSystem.runFrom_cons_eq_some _).mpr ⟨middle, firstStep,
      (TransitionSystem.runFrom_cons_eq_some _).mpr ⟨final, secondStep, rfl⟩⟩
  · rw [SaveState.outputPath, reached, update_of_ne different, progress, update_self]
    rfl
  · rw [SaveState.outputPath, reached, update_self, same]
    rfl

/-- The downloads of a batch never share an output path, and none of them writes over or skips
for the file of another, exactly when no repeat of a base name is numbered to a base name of
the batch. -/
theorem batch_separate_iff (host : AssetHost) (request : DownloadSaveRequest)
    (rows : List (String × Option String)) (sources : List AssetSource)
    (loaded : loadAssetSources host request rows = .ok sources) :
    (∀ actions state, (saveSystem request.overwrite sources).runFrom
        (saveSystem request.overwrite sources).initial actions = some state → Separate state) ↔
      ∀ name ∈ baseNames host sources, ∀ turn, 2 ≤ turn →
        turn ≤ (baseNames host sources).count name →
        withNumericSuffix name turn ∉ baseNames host sources := by
  rw [← planned_nodup_iff loaded]
  constructor
  · intro separate
    rw [nodup_iff_getElem?_ne_getElem?]
    intro first second less bound clash
    rw [length_map] at bound
    obtain ⟨one, firstListed⟩ : ∃ one, sources[first]? = some one :=
      ⟨_, List.getElem?_eq_getElem (by omega)⟩
    obtain ⟨two, secondListed⟩ : ∃ two, sources[second]? = some two :=
      ⟨_, List.getElem?_eq_getElem bound⟩
    rw [List.getElem?_map, List.getElem?_map, firstListed, secondListed, Option.map_some,
      Option.map_some, Option.some.injEq] at clash
    obtain ⟨actions, state, run, got, again⟩ :=
      shared_of_planned (Nat.ne_of_lt less) firstListed secondListed clash
    exact absurd ((separate actions state run).distinct first second _ got again)
      (Nat.ne_of_lt less)
  · intro nodup actions state run
    exact separate_of_nodup nodup run

/-- A host whose URLs end in the name of their file. -/
def plainAssetHost : AssetHost where
  alphabetic := Char.isAlpha
  alphanumeric := Char.isAlphanum
  lastPathSegment := fun url => (url.toList.reverse.takeWhile fun c => c ≠ '/').reverse |>
    fun segment => if segment = [] then none else some (String.ofList segment)
  joinUrl := fun base url => .ok (base ++ url)

def assetRequest (overwrite : Bool) : DownloadSaveRequest := ⟨"out", none, none, overwrite⟩

/-- A name that is repeated, and the name its repeat is numbered to. -/
def numberedRows : List (String × Option String) :=
  [("https://h/a.png", none), ("https://h/a.png", none), ("https://h/a-2.png", none)]

def loadedSources (overwrite : Bool) (rows : List (String × Option String)) : List AssetSource :=
  ((loadAssetSources plainAssetHost (assetRequest overwrite) rows).toOption).getD []

def gotPaths (overwrite : Bool) (rows : List (String × Option String)) (actions : List SaveAction) :
    Option (List (Option String) × List (Nat × FileOwner) × List (Nat × FileOwner)) :=
  let system := saveSystem overwrite (loadedSources overwrite rows)
  (system.runFrom system.initial actions).map fun state =>
    ((List.range rows.length).map fun index =>
      (state.outputPath index).map OutputPath.fileName, state.overwritten, state.skipped)

/-- The second and the third source get one path, and the later one writes over the file of
the earlier one, or skips because of it. -/
theorem numbered_name_shared :
    gotPaths true numberedRows [.reserve 1 none none, .reserve 2 none none, .commit 1, .commit 2] =
      some ([none, some "a-2.png", some "a-2.png"], [(2, .asset 1)], []) ∧
    gotPaths false numberedRows [.reserve 1 none none, .commit 1, .reserve 2 none none] =
      some ([none, some "a-2.png", some "a-2.png"], [], [(2, .asset 1)]) :=
  ⟨rfl, rfl⟩

def repeatedRows : List (String × Option String) :=
  [("https://h/a.png", none), ("https://h/a.png", none), ("https://h/b.png", none)]

/-- A name that is repeated beside another one keeps the batch separate. -/
theorem repeated_name_separate :
    (loadedSources true repeatedRows).map (fun source => source.outputPath.fileName) =
      ["a.png", "a-2.png", "b.png"] ∧
    ∀ actions state, (saveSystem true (loadedSources true repeatedRows)).runFrom
      (saveSystem true (loadedSources true repeatedRows)).initial actions = some state →
      Separate state := by
  refine ⟨rfl, ?_⟩
  exact (batch_separate_iff plainAssetHost (assetRequest true) repeatedRows
    (loadedSources true repeatedRows) rfl).mpr (by decide)

end Rub
