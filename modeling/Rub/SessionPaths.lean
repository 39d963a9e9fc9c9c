import Rub.IpcProtocol
import Rub.PosixPath

/-!
Where the artefacts of a session lie below the home directory: by name, for what the session
projects to its users, and by id, for what a run of its daemon owns.
-/

namespace Rub

open List PathBuf

/-- The names and the ids of sessions are checked alike. -/
def validateComponent (noun value : String) : Except String Unit :=
  if isBlank value then .error (noun ++ " must not be empty")
  else if '/' ∈ value.toList ∨ '\\' ∈ value.toList then
    .error (noun ++ " must not contain path separators")
  else if (PathBuf.mk value.toList).isAbsolute then
    .error (noun ++ " must not be an absolute path")
  else
    match (PathBuf.mk value.toList).components with
    | [.normal _] => .ok ()
    | _ => .error (noun ++ " must be a single path component without '.' or '..'")

def validateSessionName (value : String) : Except String Unit :=
  validateComponent "session name" value

def validateSessionIdComponent (value : String) : Except String Unit :=
  validateComponent "session id" value

theorem isFileName_of_validateComponent {noun value : String}
    (accepted : validateComponent noun value = .ok ()) : IsFileName value.toList := by
  unfold validateComponent at accepted
  (repeat' split at accepted) <;> cases accepted
  rename_i separators _ _ name whole
  exact IsFileName.of_components (fun member => separators (.inl member)) whole

-- The hexadecimal digest of a value in a context.
variable (stableHexDigest : String → String → String)

def safeSessionPathComponent (sessionName : String) : String :=
  match validateSessionName sessionName with
  | .ok _ => sessionName
  | .error _ =>
    "invalid-session-" ++ stableHexDigest "rub.path.invalid-session.v1" sessionName

def safeSessionIdPathComponent (sessionId : String) : String :=
  match validateSessionIdComponent sessionId with
  | .ok _ => sessionId
  | .error _ =>
    "invalid-session-id-" ++ stableHexDigest "rub.path.invalid-session-id.v1" sessionId

structure SessionPaths where
  home : PathBuf
  sessionName : String
  sessionId : Option String

namespace SessionPaths

variable (paths : SessionPaths)

def sessionComponent : String := safeSessionPathComponent stableHexDigest paths.sessionName

def projectionDir : PathBuf :=
  (paths.home.join "sessions".toList).join (paths.sessionComponent stableHexDigest).toList

/-- The directory of the id, or of the name where there is none. -/
def runDir (top : String) : PathBuf :=
  match paths.sessionId with
  | some sessionId => ((paths.home.join top.toList).join "by-id".toList).join
      (safeSessionIdPathComponent stableHexDigest sessionId).toList
  | none => (paths.home.join top.toList).join (paths.sessionComponent stableHexDigest).toList

def sessionDir : PathBuf := paths.runDir stableHexDigest "sessions"

def downloadDir : PathBuf := paths.runDir stableHexDigest "downloads"

def canonicalSocketPath : PathBuf :=
  (paths.projectionDir stableHexDigest).join "daemon.sock".toList

def pidPath : PathBuf := (paths.sessionDir stableHexDigest).join "daemon.pid".toList

def canonicalPidPath : PathBuf := (paths.projectionDir stableHexDigest).join "daemon.pid".toList

def lockPath : PathBuf := (paths.sessionDir stableHexDigest).join "startup.lock".toList

def startupReadyPath (startupId : String) : PathBuf :=
  (paths.sessionDir stableHexDigest).join ("startup." ++ startupId ++ ".ready").toList

def startupErrorPath (startupId : String) : PathBuf :=
  (paths.sessionDir stableHexDigest).join ("startup." ++ startupId ++ ".error").toList

def startupStderrPath (startupId : String) : PathBuf :=
  (paths.sessionDir stableHexDigest).join ("startup." ++ startupId ++ ".stderr").toList

def startupCleanupPath (startupId : String) : PathBuf :=
  (paths.sessionDir stableHexDigest).join ("startup." ++ startupId ++ ".cleanup").toList

def startupCommittedPath : PathBuf :=
  (paths.projectionDir stableHexDigest).join "startup.committed".toList

def hardCutReleasePendingPath : PathBuf :=
  (paths.projectionDir stableHexDigest).join "hard-cut.release-pending.json".toList

def postCommitJournalPath : PathBuf :=
  (paths.sessionDir stableHexDigest).join "post-commit.journal.ndjson".toList

/-- The directories of a session, the files it names in them, and any other file there. -/
def artefactPaths (startupId fileName : String) : List PathBuf :=
  [paths.projectionDir stableHexDigest, paths.sessionDir stableHexDigest,
    paths.downloadDir stableHexDigest, paths.canonicalSocketPath stableHexDigest,
    paths.pidPath stableHexDigest, paths.canonicalPidPath stableHexDigest,
    paths.lockPath stableHexDigest, paths.startupReadyPath stableHexDigest startupId,
    paths.startupErrorPath stableHexDigest startupId,
    paths.startupStderrPath stableHexDigest startupId,
    paths.startupCleanupPath stableHexDigest startupId,
    paths.startupCommittedPath stableHexDigest, paths.hardCutReleasePendingPath stableHexDigest,
    paths.postCommitJournalPath stableHexDigest,
    (paths.projectionDir stableHexDigest).join fileName.toList,
    (paths.sessionDir stableHexDigest).join fileName.toList,
    (paths.downloadDir stableHexDigest).join fileName.toList]

end SessionPaths

/-- An artefact of a session, in the layout by name or in that of its id. -/
def IsArtefact (home : PathBuf) (name id : String) (path : PathBuf) : Prop :=
  ∃ startupId fileName, '/' ∉ startupId.toList ∧ IsFileName fileName.toList ∧
    ∃ sessionId ∈ [none, some id],
      path ∈ SessionPaths.artefactPaths stableHexDigest ⟨home, name, sessionId⟩ startupId fileName

variable {stableHexDigest : String → String → String}

/-- The directories of a session below the home. -/
def artefactDirs (name : String) : Option String → List (List PathComponent)
  | some id => [[.normal "sessions".toList, .normal name.toList],
      [.normal "sessions".toList, .normal "by-id".toList, .normal id.toList],
      [.normal "downloads".toList, .normal "by-id".toList, .normal id.toList]]
  | none => [[.normal "sessions".toList, .normal name.toList],
      [.normal "downloads".toList, .normal name.toList]]

theorem startup_isFileName {startupId : String} (plain : '/' ∉ startupId.toList)
    {ending : String} (ends : '/' ∉ ending.toList) :
    IsFileName ("startup." ++ startupId ++ ending).toList := by
  rw [String.toList_append, String.toList_append]
  refine ⟨by simp, ?_, by simp, by simp⟩
  simp [plain, ends]

theorem safeSessionPathComponent_of_accepted {name : String}
    (accepted : validateSessionName name = .ok ()) :
    safeSessionPathComponent stableHexDigest name = name := by
  unfold safeSessionPathComponent
  rw [accepted]

theorem safeSessionIdPathComponent_of_accepted {id : String}
    (accepted : validateSessionIdComponent id = .ok ()) :
    safeSessionIdPathComponent stableHexDigest id = id := by
  unfold safeSessionIdPathComponent
  rw [accepted]

variable {name id : String} {sessionId : Option String}

theorem mem_artefactDirs {below : List PathComponent} (layout : sessionId ∈ [none, some id])
    (member : below ∈ artefactDirs name sessionId) :
    ∃ top, below = [top, .normal name.toList] ∨
      below = [top, .normal "by-id".toList, .normal id.toList] := by
  simp only [mem_cons, not_mem_nil, or_false] at layout
  rcases layout with rfl | rfl
  · simp only [artefactDirs, mem_cons, not_mem_nil, or_false] at member
    rcases member with same | same
    · exact ⟨_, .inl same⟩
    · exact ⟨_, .inl same⟩
  · simp only [artefactDirs, mem_cons, not_mem_nil, or_false] at member
    rcases member with same | same | same
    · exact ⟨_, .inl same⟩
    · exact ⟨_, .inr same⟩
    · exact ⟨_, .inr same⟩

open SessionPaths

theorem mem_artefactPaths {paths : SessionPaths} {startupId fileName : String} {path : PathBuf}
    (plain : '/' ∉ startupId.toList) (file : IsFileName fileName.toList)
    (member : path ∈ paths.artefactPaths stableHexDigest startupId fileName) :
    ∃ dir ∈ [paths.projectionDir stableHexDigest, paths.sessionDir stableHexDigest,
        paths.downloadDir stableHexDigest],
      path = dir ∨ ∃ name, IsFileName name ∧ path = dir.join name := by
  have second : ∀ {dir other : PathBuf} {dirs}, dir ∈ other :: dir :: dirs := .tail _ (.head _)
  simp only [artefactPaths, mem_cons, not_mem_nil, or_false] at member
  rcases member with same | same | same | same | same | same | same | same | same | same | same |
    same | same | same | same | same | same
  · exact ⟨_, .head _, .inl same⟩
  · exact ⟨_, second, .inl same⟩
  · exact ⟨_, .tail _ second, .inl same⟩
  · exact ⟨_, .head _, .inr ⟨_, by decide, same⟩⟩
  · exact ⟨_, second, .inr ⟨_, by decide, same⟩⟩
  · exact ⟨_, .head _, .inr ⟨_, by decide, same⟩⟩
  · exact ⟨_, second, .inr ⟨_, by decide, same⟩⟩
  iterate 4 exact ⟨_, second, .inr ⟨_, startup_isFileName plain (by decide), same⟩⟩
  iterate 2 exact ⟨_, .head _, .inr ⟨_, by decide, same⟩⟩
  · exact ⟨_, second, .inr ⟨_, by decide, same⟩⟩
  · exact ⟨_, .head _, .inr ⟨_, file, same⟩⟩
  · exact ⟨_, second, .inr ⟨_, file, same⟩⟩
  · exact ⟨_, .tail _ second, .inr ⟨_, file, same⟩⟩

section Accepted

variable {home : PathBuf} (named : validateSessionName name = .ok ())
include named

theorem components_byName (top : List Char) (normal : IsFileName top) :
    ((home.join top).join (sessionComponent stableHexDigest
        ⟨home, name, sessionId⟩).toList).components =
      home.components ++ [.normal top, .normal name.toList] := by
  unfold sessionComponent
  rw [safeSessionPathComponent_of_accepted named,
    components_join _ (isFileName_of_validateComponent named),
    components_join _ normal, append_assoc]
  rfl

theorem components_dirs
    (identified : ∀ id ∈ sessionId, validateSessionIdComponent id = .ok ()) {dir : PathBuf}
    (member : dir ∈ [projectionDir stableHexDigest ⟨home, name, sessionId⟩,
      sessionDir stableHexDigest ⟨home, name, sessionId⟩,
      downloadDir stableHexDigest ⟨home, name, sessionId⟩]) :
    ∃ below ∈ artefactDirs name sessionId, dir.components = home.components ++ below := by
  simp only [mem_cons, not_mem_nil, or_false, projectionDir, sessionDir, downloadDir,
    runDir] at member
  cases sessionId with
  | none =>
    rcases member with same | same | same <;> rw [same]
    · exact ⟨_, .head _, components_byName named _ (by decide)⟩
    · exact ⟨_, .head _, components_byName named _ (by decide)⟩
    · exact ⟨_, .tail _ (.head _), components_byName named _ (by decide)⟩
  | some id =>
    have safe : safeSessionIdPathComponent stableHexDigest id = id :=
      safeSessionIdPathComponent_of_accepted (identified id rfl)
    have byId : ∀ top : List Char, IsFileName top →
        (((home.join top).join "by-id".toList).join id.toList).components =
          home.components ++ [.normal top, .normal "by-id".toList, .normal id.toList] := by
      intro top normal
      rw [components_join _ (isFileName_of_validateComponent (identified id rfl)),
        components_join _ (by decide), components_join _ normal,
        append_assoc, append_assoc]
      rfl
    simp only [safe] at member
    rcases member with same | same | same <;> rw [same]
    · exact ⟨_, .head _, components_byName named _ (by decide)⟩
    · exact ⟨_, .tail _ (.head _), byId _ (by decide)⟩
    · exact ⟨_, .tail _ (.tail _ (.head _)), byId _ (by decide)⟩

theorem IsArtefact.shape (identified : validateSessionIdComponent id = .ok ())
    {path : PathBuf} (artefact : IsArtefact stableHexDigest home name id path) :
    ∃ sessionId ∈ [none, some id], ∃ below ∈ artefactDirs name sessionId, ∃ rest,
      path.components = home.components ++ (below ++ rest) := by
  obtain ⟨startupId, fileName, plain, file, sessionId, layout, member⟩ := artefact
  have accepted : ∀ other ∈ sessionId, validateSessionIdComponent other = .ok () := by
    intro other same
    rcases mem_cons.mp layout with rfl | layout
    · cases same
    · rw [mem_singleton.mp layout] at same
      cases same
      exact identified
  obtain ⟨dir, known, whole⟩ := mem_artefactPaths plain file member
  obtain ⟨below, inside, shape⟩ := components_dirs named accepted known
  refine ⟨sessionId, layout, below, inside, ?_⟩
  rcases whole with same | ⟨last, normal, same⟩
  · exact ⟨[], by rw [same, append_nil, shape]⟩
  · exact ⟨[.normal last], by rw [same, components_join _ normal, shape, append_assoc]⟩

end Accepted

variable {home : PathBuf}

theorem IsArtefact.inside {path : PathBuf} (artefact : IsArtefact stableHexDigest home name id path)
    (named : validateSessionName name = .ok ())
    (identified : validateSessionIdComponent id = .ok ()) : home.StrictlyContains path := by
  obtain ⟨sessionId, layout, below, member, rest, shape⟩ := artefact.shape named identified
  apply strictlyContains_of_append shape
  obtain ⟨top, whole | whole⟩ := mem_artefactDirs layout member
  · rw [whole]
    simp
  · rw [whole]
    simp

theorem isArtefact_projectionDir : IsArtefact stableHexDigest home name id
      (projectionDir stableHexDigest ⟨home, name, none⟩) :=
  ⟨"", "file", by decide, by decide, none, .head _, .head _⟩

theorem isArtefact_sessionDir : IsArtefact stableHexDigest home name id
      (sessionDir stableHexDigest ⟨home, name, some id⟩) :=
  ⟨"", "file", by decide, by decide, some id, .tail _ (.head _), .tail _ (.head _)⟩

/-- The projection of a session that is named as the directory of the ids. -/
theorem projectionDir_contains (named : validateSessionName "by-id" = .ok ())
    (identified : validateSessionIdComponent id = .ok ()) :
    (projectionDir stableHexDigest ⟨home, "by-id", none⟩).Contains
      (sessionDir stableHexDigest ⟨home, name, some id⟩) := by
  have normal := isFileName_of_validateComponent identified
  unfold Contains projectionDir
  rw [components_byName named _ (by decide)]
  simp only [sessionDir, runDir, safeSessionIdPathComponent_of_accepted identified]
  rw [components_join _ normal, components_join _ (by decide), components_join _ (by decide)]
  exact ⟨[.normal id.toList], by simp⟩

theorem apart_of_second {top other first second : PathComponent}
    {leftRest rightRest : List PathComponent} (parted : first ≠ second) :
    Apart (top :: first :: leftRest) (other :: second :: rightRest) := by
  constructor
  · intro before
    exact parted (cons_prefix_cons.mp (cons_prefix_cons.mp before).2).1
  · intro before
    exact parted (cons_prefix_cons.mp (cons_prefix_cons.mp before).2).1.symm

theorem apart_of_third {top other middle first second : PathComponent} (parted : first ≠ second) :
    Apart [top, middle, first] [other, middle, second] := by
  constructor
  · intro before
    simp only [cons_prefix_cons] at before
    exact parted before.2.2.1
  · intro before
    simp only [cons_prefix_cons] at before
    exact parted before.2.2.1.symm

theorem normal_ne {left right : String} (other : left ≠ right) :
    PathComponent.normal left.toList ≠ .normal right.toList := by
  intro same
  exact other (String.toList_inj.mp (PathComponent.normal.inj same))

/-- Directories of sessions of other names and ids are apart, unless a name is that of the
directory the ids are in. -/
theorem artefactDirs_apart {leftName rightName leftId rightId : String}
    (names : leftName ≠ rightName) (ids : leftId ≠ rightId) (left : leftName ≠ "by-id")
    (right : rightName ≠ "by-id") {leftSession rightSession : Option String}
    (leftLayout : leftSession ∈ [none, some leftId])
    (rightLayout : rightSession ∈ [none, some rightId]) {leftDir rightDir : List PathComponent}
    (leftMember : leftDir ∈ artefactDirs leftName leftSession)
    (rightMember : rightDir ∈ artefactDirs rightName rightSession) : Apart leftDir rightDir := by
  obtain ⟨leftTop, leftShape⟩ := mem_artefactDirs leftLayout leftMember
  obtain ⟨rightTop, rightShape⟩ := mem_artefactDirs rightLayout rightMember
  rcases leftShape with leftShape | leftShape <;> rcases rightShape with rightShape | rightShape <;>
    rw [leftShape, rightShape]
  · exact apart_of_second (normal_ne names)
  · exact apart_of_second (normal_ne left)
  · exact apart_of_second (normal_ne right).symm
  · exact apart_of_third (normal_ne ids)

/--
The artefacts of an accepted session lie below the home. Those of two sessions with other names
and ids do not contain each other exactly if none of them is named as the directory of the ids.
-/
theorem session_artefacts_isolated_iff (stableHexDigest : String → String → String)
    (home : PathBuf) (leftName leftId rightName rightId : String)
    (leftNamed : validateSessionName leftName = .ok ())
    (rightNamed : validateSessionName rightName = .ok ())
    (leftIdentified : validateSessionIdComponent leftId = .ok ())
    (rightIdentified : validateSessionIdComponent rightId = .ok ())
    (names : leftName ≠ rightName) (ids : leftId ≠ rightId) :
    (∀ path, IsArtefact stableHexDigest home leftName leftId path →
      home.StrictlyContains path) ∧
    (∀ path, IsArtefact stableHexDigest home rightName rightId path →
      home.StrictlyContains path) ∧
    ((∀ left right, IsArtefact stableHexDigest home leftName leftId left →
        IsArtefact stableHexDigest home rightName rightId right →
          ¬left.Contains right ∧ ¬right.Contains left) ↔
      leftName ≠ "by-id" ∧ rightName ≠ "by-id") := by
  refine ⟨?_, ?_, ?_, ?_⟩
  · intro path artefact
    exact artefact.inside leftNamed leftIdentified
  · intro path artefact
    exact artefact.inside rightNamed rightIdentified
  · intro isolated
    constructor
    · rintro rfl
      exact (isolated _ _ isArtefact_projectionDir isArtefact_sessionDir).1
        (projectionDir_contains leftNamed rightIdentified)
    · rintro rfl
      exact (isolated _ _ isArtefact_sessionDir isArtefact_projectionDir).2
        (projectionDir_contains rightNamed leftIdentified)
  · rintro ⟨leftOther, rightOther⟩ left right leftArtefact rightArtefact
    obtain ⟨leftSession, leftLayout, leftDir, leftMember, leftRest, leftShape⟩ :=
      leftArtefact.shape leftNamed leftIdentified
    obtain ⟨rightSession, rightLayout, rightDir, rightMember, rightRest, rightShape⟩ :=
      rightArtefact.shape rightNamed rightIdentified
    have apart := artefactDirs_apart names ids leftOther rightOther leftLayout rightLayout
      leftMember rightMember
    exact ⟨apart.not_contains leftShape rightShape, apart.symm.not_contains rightShape leftShape⟩

theorem default_and_work_isolated :
    validateSessionName "default" = .ok () ∧ validateSessionName "work" = .ok () ∧
      validateSessionIdComponent "s1" = .ok () ∧ validateSessionIdComponent "s2" = .ok () ∧
      ∀ left right, IsArtefact (fun _ _ => "") ⟨"/h".toList⟩ "default" "s1" left →
        IsArtefact (fun _ _ => "") ⟨"/h".toList⟩ "work" "s2" right →
          ¬left.Contains right ∧ ¬right.Contains left := by
  refine ⟨rfl, rfl, rfl, rfl, ?_⟩
  exact (session_artefacts_isolated_iff (fun _ _ => "") ⟨"/h".toList⟩ "default" "s1" "work" "s2"
    rfl rfl rfl rfl (by decide) (by decide)).2.2.mpr (by decide)

/-- A session named by-id is accepted, and its directory holds those of all the ids. -/
theorem by_id_session_contains_others : ∃ stableHexDigest home leftName leftId rightName rightId,
    validateSessionName leftName = .ok () ∧ validateSessionName rightName = .ok () ∧
      validateSessionIdComponent leftId = .ok () ∧ validateSessionIdComponent rightId = .ok () ∧
      leftName ≠ rightName ∧ leftId ≠ rightId ∧
      ∃ left right, IsArtefact stableHexDigest home leftName leftId left ∧
        IsArtefact stableHexDigest home rightName rightId right ∧ left.Contains right :=
  ⟨fun _ _ => "", ⟨"/h".toList⟩, "by-id", "s1", "default", "s2", rfl, rfl, rfl, rfl, by decide,
    by decide, _, _, isArtefact_projectionDir, isArtefact_sessionDir,
    projectionDir_contains rfl rfl⟩

end Rub
