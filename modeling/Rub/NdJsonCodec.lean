import Rub.BufferedReader
import Rub.IpcProtocol

/-!
Newline-delimited frames: how a payload is written with its commit fence, how a frame is
accumulated from the fills of a buffer, and what a whole stream reads as.
-/

namespace Rub

open List

inductive FrameError where
  | oversized | unterminated
  deriving DecidableEq

def newlineByte : UInt8 := 10

def encodedFrameLenFromPayloadLen (payloadJsonLen : Nat) : Nat := saturatingAdd payloadJsonLen 1

def ensurePayloadWithinLimit (payloadJsonLen : Nat) : Except FrameError Unit :=
  if encodedFrameLenFromPayloadLen payloadJsonLen > maxFrameBytes then .error .oversized
  else .ok ()

/-- The encoder of a kind of values. -/
structure JsonWriter (α : Type) where
  toVec : α → Option (List UInt8)
  unbroken : ∀ value bytes, toVec value = some bytes → newlineByte ∉ bytes

/-- The frame of a value, if it has one. -/
def encode {α : Type} (json : JsonWriter α) (value : α) : Option (List UInt8) := do
  let bytes ← json.toVec value
  match ensurePayloadWithinLimit bytes.length with
  | .ok () => some (bytes ++ [newlineByte])
  | .error _ => none

/-- Adds a fill to the frame; with how much of the fill was used, and whether that ends it. -/
def appendChunkToFrame (frame chunk : List UInt8) :
    Except FrameError (List UInt8 × Nat × Bool) :=
  if chunk.isEmpty then .error .unterminated
  else
    match chunk.findIdx? (· == newlineByte) with
    | some newlinePos => do
      let slice := chunk.take newlinePos
      ensurePayloadWithinLimit (frame.length + slice.length)
      pure (frame ++ slice, newlinePos + 1, true)
    | none => do
      ensurePayloadWithinLimit (frame.length + chunk.length)
      pure (frame ++ chunk, chunk.length, false)

theorem ensurePayloadWithinLimit_eq (length : Nat) :
    ensurePayloadWithinLimit length =
      if length < maxFrameBytes then .ok () else .error .oversized := by
  have limit : maxFrameBytes < usizeMax := by decide
  unfold ensurePayloadWithinLimit encodedFrameLenFromPayloadLen saturatingAdd
  by_cases fits : length < maxFrameBytes
  · rw [if_pos fits, if_neg (by omega)]
  · rw [if_neg fits, if_pos (by omega)]

theorem appendChunkToFrame_of_newline (frame line rest : List UInt8)
    (unbroken : newlineByte ∉ line) :
    appendChunkToFrame frame (line ++ newlineByte :: rest) =
      if frame.length + line.length < maxFrameBytes then
        .ok (frame ++ line, line.length + 1, true)
      else .error .oversized := by
  have found : (line ++ newlineByte :: rest).findIdx? (· == newlineByte) = some line.length := by
    rw [List.findIdx?_append, List.findIdx?_eq_none_iff.mpr ?_]
    · rw [List.findIdx?_cons, if_pos (beq_self_eq_true newlineByte), Option.map_some, Nat.zero_add]
      rfl
    · intro byte member
      exact beq_false_of_ne fun same => unbroken (same ▸ member)
  have filled : (line ++ newlineByte :: rest).isEmpty = false := by simp
  unfold appendChunkToFrame
  rw [filled, found, if_neg Bool.false_ne_true]
  simp only [take_left, ensurePayloadWithinLimit_eq]
  by_cases fits : frame.length + line.length < maxFrameBytes
  · rw [if_pos fits, if_pos fits]
    rfl
  · rw [if_neg fits, if_neg fits]
    rfl

theorem appendChunkToFrame_of_unbroken (frame chunk : List UInt8) (filled : chunk ≠ [])
    (unbroken : newlineByte ∉ chunk) :
    appendChunkToFrame frame chunk =
      if frame.length + chunk.length < maxFrameBytes then
        .ok (frame ++ chunk, chunk.length, false)
      else .error .oversized := by
  have missing : chunk.findIdx? (· == newlineByte) = none := by
    rw [List.findIdx?_eq_none_iff]
    intro byte member
    exact beq_false_of_ne fun same => unbroken (same ▸ member)
  have shown : chunk.isEmpty = false := isEmpty_eq_false_iff.mpr filled
  unfold appendChunkToFrame
  rw [shown, missing, if_neg Bool.false_ne_true]
  simp only [ensurePayloadWithinLimit_eq]
  by_cases fits : frame.length + chunk.length < maxFrameBytes
  · rw [if_pos fits, if_pos fits]
    rfl
  · rw [if_neg fits, if_neg fits]
    rfl

theorem appendChunkToFrame_used {frame chunk next : List UInt8} {used : Nat} {done : Bool}
    (appended : appendChunkToFrame frame chunk = .ok (next, used, done)) :
    0 < used ∧ used ≤ chunk.length := by
  have filled : chunk ≠ [] := by
    rintro rfl
    cases appended
  by_cases broken : newlineByte ∈ chunk
  · obtain ⟨line, rest, rfl, unbroken⟩ := eq_append_cons_of_mem broken
    rw [appendChunkToFrame_of_newline frame line rest unbroken] at appended
    split at appended <;> cases appended
    simp only [length_append, length_cons]
    omega
  · rw [appendChunkToFrame_of_unbroken frame chunk filled broken] at appended
    split at appended <;> cases appended
    have positive := length_pos_iff.mpr filled
    omega

/-- What a frame that has been accumulated in part becomes with the bytes that follow: its
payload and what is left of them, or nothing at the end of the stream. -/
def splitFrame (frame bytes : List UInt8) : Except FrameError (Option (List UInt8 × List UInt8)) :=
  let line := bytes.takeWhile (· != newlineByte)
  if frame.isEmpty && bytes.isEmpty then .ok none
  else if frame.length + line.length < maxFrameBytes then
    match bytes.dropWhile (· != newlineByte) with
    | [] => .error .unterminated
    | _ :: rest => .ok (some (frame ++ line, rest))
  else .error .oversized

theorem ne_newline_of_unbroken {chunk : List UInt8} (unbroken : newlineByte ∉ chunk) :
    ∀ byte ∈ chunk, (byte != newlineByte) = true := by
  intro byte member
  exact bne_iff_ne.mpr fun same => unbroken (same ▸ member)

theorem splitFrame_newline (frame line rest : List UInt8) (unbroken : newlineByte ∉ line) :
    splitFrame frame (line ++ newlineByte :: rest) =
      if frame.length + line.length < maxFrameBytes then .ok (some (frame ++ line, rest))
      else .error .oversized := by
  have shown : (line ++ newlineByte :: rest).isEmpty = false := by simp
  have line_eq : (line ++ newlineByte :: rest).takeWhile (· != newlineByte) = line := by
    rw [takeWhile_append_of_pos (ne_newline_of_unbroken unbroken)]
    simp
  have rest_eq : (line ++ newlineByte :: rest).dropWhile (· != newlineByte) =
      newlineByte :: rest := by
    rw [dropWhile_append_of_pos (ne_newline_of_unbroken unbroken)]
    simp
  simp only [splitFrame, shown, line_eq, rest_eq, Bool.and_false, Bool.false_eq_true, if_false]

theorem splitFrame_append (frame chunk rest : List UInt8) (filled : chunk ≠ [])
    (unbroken : newlineByte ∉ chunk) :
    splitFrame frame (chunk ++ rest) =
      if frame.length + chunk.length < maxFrameBytes then splitFrame (frame ++ chunk) rest
      else .error .oversized := by
  have shown : (chunk ++ rest).isEmpty = false := by simp [filled]
  have grown : (frame ++ chunk).isEmpty = false := by simp [filled]
  simp only [splitFrame, shown, grown, Bool.and_false, Bool.false_and, Bool.false_eq_true, if_false,
    takeWhile_append_of_pos (ne_newline_of_unbroken unbroken),
    dropWhile_append_of_pos (ne_newline_of_unbroken unbroken), length_append,
    append_assoc]
  by_cases fits : frame.length + chunk.length < maxFrameBytes
  · rw [if_pos fits, Nat.add_assoc]
  · rw [if_neg fits, if_neg (by omega)]

theorem splitFrame_end (frame : List UInt8) (accumulated : frame.length < maxFrameBytes) :
    splitFrame frame [] = if frame.isEmpty then .ok none else .error .unterminated := by
  by_cases blank : frame.isEmpty
  · simp [splitFrame, blank]
  · simp [splitFrame, blank, accumulated]

theorem splitFrame_shorter {frame bytes payload rest : List UInt8}
    (split : splitFrame frame bytes = .ok (some (payload, rest))) : rest.length < bytes.length := by
  unfold splitFrame at split
  simp only at split
  (repeat' split at split) <;> cases split
  rename_i dropped
  have within := (dropWhile_suffix (l := bytes) (· != newlineByte)).length_le
  rw [dropped, length_cons] at within
  omega

variable {frame : List UInt8} {Source : Type} (source : FillSource Source UInt8)

/-- The loop of the awaiting and of the blocking reader, which have the same body and differ in
their source, from what has been accumulated of the frame. -/
def readFrameFrom (frame : List UInt8) (reader : BufReader Source UInt8) :
    Except FrameError (Option (List UInt8)) × BufReader Source UInt8 :=
  let filled := reader.fillBuf source
  if filled.1.isEmpty && frame.isEmpty then (.ok none, filled.2)
  else
    match _appended : appendChunkToFrame frame filled.1 with
    | .error error => (.error error, filled.2)
    | .ok (frame, consumeLen, done) =>
      if done then (.ok (some frame), filled.2.consume consumeLen)
      else readFrameFrom frame (filled.2.consume consumeLen)
termination_by (reader.remaining source).length
decreasing_by
  obtain ⟨positive, within⟩ := appendChunkToFrame_used _appended
  exact reader.length_remaining_consume_lt source positive within

def readFrame (reader : BufReader Source UInt8) :
    Except FrameError (Option (List UInt8)) × BufReader Source UInt8 :=
  readFrameFrom source [] reader

/-- The outcome of a read: the payload with what the stream gives after it. -/
def readOutcome (read : Except FrameError (Option (List UInt8)) × BufReader Source UInt8) :
    Except FrameError (Option (List UInt8 × List UInt8)) :=
  read.1.map (Option.map fun payload => (payload, read.2.remaining source))

variable {reader : BufReader Source UInt8}

theorem readFrameFrom_end (ended : (reader.fillBuf source).1 = []) :
    (readFrameFrom source frame reader).1 =
      if frame.isEmpty then .ok none else .error .unterminated := by
  unfold readFrameFrom
  simp only [ended, isEmpty_nil, Bool.true_and]
  by_cases blank : frame.isEmpty
  · rw [if_pos blank, if_pos blank]
  · rw [if_neg blank, if_neg blank]
    split
    · rename_i error failed
      rw [ended] at failed
      cases failed
      rfl
    · rename_i appended
      rw [ended] at appended
      cases appended

theorem readFrameFrom_fill (filled : (reader.fillBuf source).1 ≠ []) :
    readFrameFrom source frame reader =
      match appendChunkToFrame frame (reader.fillBuf source).1 with
      | .error error => (.error error, (reader.fillBuf source).2)
      | .ok (frame, consumeLen, done) =>
        if done then (.ok (some frame), (reader.fillBuf source).2.consume consumeLen)
        else readFrameFrom source frame ((reader.fillBuf source).2.consume consumeLen) := by
  have shown : (reader.fillBuf source).1.isEmpty = false := isEmpty_eq_false_iff.mpr filled
  rw [readFrameFrom]
  simp only [shown, Bool.false_and, Bool.false_eq_true, if_false]
  split
  · rename_i error failed
    rw [failed]
  · rename_i frame consumeLen done appended
    rw [appended]

/-- A frame is read as its bytes say, however they are split into fills. -/
theorem readOutcome_readFrameFrom (accumulated : frame.length < maxFrameBytes) :
    readOutcome source (readFrameFrom source frame reader) =
      splitFrame frame (reader.remaining source) := by
  induction bound : (reader.remaining source).length using Nat.strong_induction_on
    generalizing frame reader with
  | _ bound ih =>
    subst bound
    by_cases filled : (reader.fillBuf source).1 = []
    · rw [reader.remaining_eq_nil_of_fill source filled, splitFrame_end frame accumulated]
      unfold readOutcome
      rw [readFrameFrom_end source filled]
      split
      · rfl
      · rfl
    · obtain ⟨rest, joined⟩ := reader.exists_remaining source
      rw [readFrameFrom_fill source filled]
      by_cases broken : newlineByte ∈ (reader.fillBuf source).1
      -- The frame ends in this fill.
      · obtain ⟨line, later, shown, unbroken⟩ := eq_append_cons_of_mem broken
        have used : line.length + 1 ≤ (reader.fillBuf source).1.length := by
          rw [shown, length_append, length_cons]
          omega
        have left : (reader.remaining source).drop (line.length + 1) = later ++ rest := by
          rw [joined, shown, append_assoc, cons_append, ← drop_drop, drop_left]
          rfl
        rw [joined, shown, append_assoc, cons_append, splitFrame_newline _ _ _ unbroken,
          appendChunkToFrame_of_newline _ _ _ unbroken]
        by_cases fits : frame.length + line.length < maxFrameBytes
        · rw [if_pos fits, if_pos fits]
          show Except.ok (some (frame ++ line,
            ((reader.fillBuf source).2.consume (line.length + 1)).remaining source)) = _
          rw [reader.remaining_consume source used, left]
        · rw [if_neg fits, if_neg fits]
          rfl
      -- The fill is taken into the frame, and the rest of the stream is shorter.
      · rw [joined, splitFrame_append _ _ _ filled broken,
          appendChunkToFrame_of_unbroken _ _ filled broken]
        by_cases fits : frame.length + (reader.fillBuf source).1.length < maxFrameBytes
        · rw [if_pos fits, if_pos fits]
          have shorter := reader.length_remaining_consume_lt source
            (length_pos_iff.mpr filled) le_rfl
          have grown : (frame ++ (reader.fillBuf source).1).length < maxFrameBytes := by
            rw [length_append]
            exact fits
          have left := reader.remaining_consume source (le_refl (reader.fillBuf source).1.length)
          rw [joined, drop_left] at left
          show readOutcome source (readFrameFrom source _ _) = _
          rw [ih _ shorter grown rfl, left]
        · rw [if_neg fits, if_neg fits]
          rfl

theorem readOutcome_readFrame (reader : BufReader Source UInt8) :
    readOutcome source (readFrame source reader) = splitFrame [] (reader.remaining source) :=
  readOutcome_readFrameFrom source (by decide)

/-- One result of reading a stream. -/
inductive FrameResult where
  | frame (payload : List UInt8)
  | endOfFile
  | failed (error : FrameError)
  deriving DecidableEq

theorem readFrame_shorter {next : BufReader Source UInt8} {payload : List UInt8}
    (read : readFrame source reader = (.ok (some payload), next)) :
    (next.remaining source).length < (reader.remaining source).length := by
  have outcome := readOutcome_readFrame source reader
  rw [read] at outcome
  exact splitFrame_shorter outcome.symm

/-- Frames are read up to the end of the stream or the first error. -/
def readFrames (reader : BufReader Source UInt8) : List FrameResult :=
  match _read : readFrame source reader with
  | (.ok none, _) => [.endOfFile]
  | (.ok (some payload), next) => .frame payload :: readFrames next
  | (.error error, _) => [.failed error]
termination_by (reader.remaining source).length
decreasing_by exact readFrame_shorter source _read

/-- What a stream reads as, from its bytes alone. -/
def frameResults (bytes : List UInt8) : List FrameResult :=
  match _split : splitFrame [] bytes with
  | .ok none => [.endOfFile]
  | .ok (some (payload, rest)) => .frame payload :: frameResults rest
  | .error error => [.failed error]
termination_by bytes.length
decreasing_by exact splitFrame_shorter _split

theorem readFrames_step (reader : BufReader Source UInt8) : readFrames source reader =
      match readFrame source reader with
      | (.ok none, _) => [.endOfFile]
      | (.ok (some payload), next) => .frame payload :: readFrames source next
      | (.error error, _) => [.failed error] := by
  rw [readFrames]
  split
  · rename_i read
    rw [read]
  · rename_i read
    rw [read]
  · rename_i read
    rw [read]

theorem frameResults_step (bytes : List UInt8) : frameResults bytes = match splitFrame [] bytes with
      | .ok none => [.endOfFile]
      | .ok (some (payload, rest)) => .frame payload :: frameResults rest
      | .error error => [.failed error] := by
  rw [frameResults]
  split
  · rename_i split
    rw [split]
  · rename_i split
    rw [split]
  · rename_i split
    rw [split]

theorem readFrames_eq (reader : BufReader Source UInt8) :
    readFrames source reader = frameResults (reader.remaining source) := by
  induction bound : (reader.remaining source).length using Nat.strong_induction_on
    generalizing reader with
  | _ bound ih =>
    subst bound
    have outcome := readOutcome_readFrame source reader
    rw [readFrames_step, frameResults_step, ← outcome]
    rcases read : readFrame source reader with ⟨result, next⟩
    cases result with
    | error => rfl
    | ok payload =>
      cases payload with
      | none => rfl
      | some payload =>
        have later := ih _ (readFrame_shorter source read) next rfl
        show FrameResult.frame payload :: readFrames source next = _
        rw [later]
        rfl

/-- The frames of the async reader, whose source is awaited. -/
def readCommittedFrames (polled : PolledFills UInt8) : List FrameResult :=
  readFrames polledSource (BufReader.new polled)

def readFramesBlocking (fills : Fills UInt8) : List FrameResult :=
  readFrames readySource (BufReader.new fills)

theorem readCommittedFrames_eq (polled : PolledFills UInt8) :
    readCommittedFrames polled = frameResults polled.bytes :=
  readFrames_eq polledSource (BufReader.new polled)

theorem readFramesBlocking_eq (fills : Fills UInt8) :
    readFramesBlocking fills = frameResults fills.bytes :=
  readFrames_eq readySource (BufReader.new fills)

variable {α : Type} (json : JsonWriter α)

theorem encode_of_fits {value : α} {payload : List UInt8}
    (written : json.toVec value = some payload) (fits : payload.length < maxFrameBytes) :
    encode json value = some (payload ++ [newlineByte]) := by
  simp only [encode, written, Option.bind_eq_bind, Option.bind_some, ensurePayloadWithinLimit_eq,
    if_pos fits]

theorem frameResults_encoded {values : List α} {payloads : List (List UInt8)}
    (written : values.mapM json.toVec = some payloads)
    (fits : ∀ payload ∈ payloads, payload.length < maxFrameBytes) :
    ∃ frames, values.mapM (encode json) = some frames ∧
      frameResults frames.flatten = payloads.map .frame ++ [.endOfFile] := by
  induction values generalizing payloads with
  | nil =>
    cases written
    refine ⟨[], rfl, ?_⟩
    rw [frameResults_step]
    rfl
  | cons value _ ih =>
    simp only [mapM_cons, Option.bind_eq_bind, Option.bind_eq_some_iff, Option.pure_def,
      Option.some.injEq] at written
    obtain ⟨payload, first, later, rest, rfl⟩ := written
    obtain ⟨short, fits⟩ := forall_mem_cons.mp fits
    obtain ⟨frames, all, read⟩ := ih rest fits
    refine ⟨(payload ++ [newlineByte]) :: frames, ?_, ?_⟩
    · rw [mapM_cons, encode_of_fits json first short, all]
      rfl
    · have split : splitFrame [] ((payload ++ [newlineByte]) ++ frames.flatten) =
          .ok (some (payload, frames.flatten)) := by
        rw [append_assoc, singleton_append,
          splitFrame_newline _ _ _ (json.unbroken value payload first), if_pos]
        · rfl
        · rw [length_nil, Nat.zero_add]
          exact short
      rw [flatten_cons, frameResults_step, split, map_cons, cons_append, ← read]

/-- Reading a stream depends on its bytes alone, not on how they arrive, and is the same for
both readers; values whose payloads fit have frames, which are read back as the payloads and
then the end. -/
theorem framing_chunk_independent (polled : PolledFills UInt8) (fills : Fills UInt8) :
    (∀ other : PolledFills UInt8, other.bytes = polled.bytes →
      readCommittedFrames other = readCommittedFrames polled) ∧
    (∀ other : Fills UInt8, other.bytes = fills.bytes →
      readFramesBlocking other = readFramesBlocking fills) ∧
    (polled.bytes = fills.bytes → readCommittedFrames polled = readFramesBlocking fills) ∧
    ∀ (values : List α) (payloads : List (List UInt8)), values.mapM json.toVec = some payloads →
      (∀ payload ∈ payloads, payload.length < maxFrameBytes) →
      ∃ frames, values.mapM (encode json) = some frames ∧
        (fills.bytes = frames.flatten →
          readFramesBlocking fills = payloads.map .frame ++ [.endOfFile]) ∧
        (polled.bytes = frames.flatten →
          readCommittedFrames polled = payloads.map .frame ++ [.endOfFile]) := by
  refine ⟨?_, ?_, ?_, ?_⟩
  · intro other same
    rw [readCommittedFrames_eq, readCommittedFrames_eq, same]
  · intro other same
    rw [readFramesBlocking_eq, readFramesBlocking_eq, same]
  · intro same
    rw [readCommittedFrames_eq, readFramesBlocking_eq, same]
  · intro values payloads written fits
    obtain ⟨frames, encoded, read⟩ := frameResults_encoded json written fits
    refine ⟨frames, encoded, ?_, ?_⟩
    · intro same
      rw [readFramesBlocking_eq, same, read]
    · intro same
      rw [readCommittedFrames_eq, same, read]

/-- The JSON texts of the truth values. -/
def boolWriter : JsonWriter Bool where
  toVec value := some (if value then [116, 114, 117, 101] else [102, 97, 108, 115, 101])
  unbroken value bytes written := by
    cases value with
    | false | true =>
      cases written
      decide

/-- Two values, split inside a payload and at a newline, with a wait. -/
theorem split_values_read_back :
    ∃ (polled : PolledFills UInt8) (fills : Fills UInt8),
      fills.chunks = [[116, 114, 117], [101, 10, 102, 97, 108, 115, 101], [10]] ∧
      polled.bytes = fills.bytes ∧ readCommittedFrames polled = readFramesBlocking fills ∧
      readFramesBlocking fills =
        [.frame [116, 114, 117, 101], .frame [102, 97, 108, 115, 101], .endOfFile] := by
  have polledFilled : ∀ chunk : List UInt8,
      Poll.ready chunk ∈ [.pending, .ready [116, 114, 117, 101, 10, 102, 97], .pending,
        .ready [108, 115, 101, 10]] → chunk ≠ [] := by
    rintro chunk member rfl
    simp at member
  obtain ⟨-, -, same, values⟩ := framing_chunk_independent boolWriter ⟨_, polledFilled⟩
    ⟨[[116, 114, 117], [101, 10, 102, 97, 108, 115, 101], [10]], by decide⟩
  obtain ⟨frames, encoded, blocking, -⟩ := values [true, false] _ rfl (by decide)
  cases encoded
  exact ⟨_, _, rfl, rfl, same rfl, blocking rfl⟩

end Rub
