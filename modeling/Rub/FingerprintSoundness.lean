import Rub.HandlerReads

/-!
When equal fingerprints mean that the handler reads the same arguments.
-/

namespace Rub

open Json Function Serde List Option ClickArgs LocatorRequestArgs HandlerReads

variable {serde : SerdeJson} {left right : Json}

theorem semanticReplayOrchestrationMetadata_injective
    (same : semanticReplayOrchestrationMetadata left = semanticReplayOrchestrationMetadata right) :
    orchestrationFrameOverride left = orchestrationFrameOverride right := by
  refine map_injective ?_ same
  intro first second equal
  have members := congrArg (fun value => value.get "frame_id") equal
  exact string_injective (some.inj members)

/-- The frame of the wait after a command agrees wherever that wait is run in a frame. -/
def WaitFrameAgrees (serde : SerdeJson) (left right : Json) : Prop :=
  waitAfterUsesFrame serde left = true →
    orchestrationFrameOverride left = orchestrationFrameOverride right

theorem postWaitReads_eq_iff (same : left.get "wait_after" = right.get "wait_after") :
    postWaitReads serde left = postWaitReads serde right ↔ WaitFrameAgrees serde left right := by
  unfold postWaitReads WaitFrameAgrees
  rw [show waitAfterUsesFrame serde right = waitAfterUsesFrame serde left by
    rw [waitAfterUsesFrame, waitAfterUsesFrame, same], same]
  cases waitAfterUsesFrame serde left <;> simp

theorem postWaitReads_eq (same : left.get "wait_after" = right.get "wait_after")
    (frame : orchestrationFrameOverride left = orchestrationFrameOverride right) :
    postWaitReads serde left = postWaitReads serde right :=
  (postWaitReads_eq_iff same).mpr fun _ => frame

/-- A projection that writes null for a missing wait does not tell it from a null one. -/
theorem postWaitReads_eq_iff_of_nulled
    (same : Json.optional (left.get "wait_after") = Json.optional (right.get "wait_after")) :
    postWaitReads serde left = postWaitReads serde right ↔
      ((left.get "wait_after").isSome ↔ (right.get "wait_after").isSome) ∧
        WaitFrameAgrees serde left right := by
  constructor
  · intro reads
    have waits : left.get "wait_after" = right.get "wait_after" :=
      congrArg PostWaitReads.waitAfter reads
    exact ⟨by rw [waits], (postWaitReads_eq_iff waits).mp reads⟩
  · rintro ⟨given, frames⟩
    refine (postWaitReads_eq_iff ?_).mpr frames
    cases first : left.get "wait_after" with
    | none =>
      rw [first] at given
      have absent : right.get "wait_after" = none := by simpa using given
      rw [absent]
    | some =>
      rw [first] at given same
      obtain ⟨other, second⟩ := isSome_iff_exists.mp (given.mp rfl)
      rw [second] at same ⊢
      exact congrArg some same

theorem observationReads_eq (same : observationFields left = observationFields right) :
    observationReads left = observationReads right := by
  have values := congrArg (map Prod.snd) same
  simpa [observationFields, observationReads, Function.comp_def] using values

theorem addressedReads_eq (serde : SerdeJson) {first second : LocatorRequestArgs}
    (firstDecoded : decode left.get = some first)
    (secondDecoded : decode right.get = some second)
    (same : addressedFields first left = addressedFields second right) :
    first = second ∧ addressedReads left = addressedReads right ∧
      postWaitReads serde left = postWaitReads serde right := by
  obtain ⟨locators, rest⟩ := append_inj same rfl
  have locator := jsonFields_injective locators
  subst locator
  simp only [cons.injEq, Prod.mk.injEq, true_and, and_true] at rest
  obtain ⟨snapshot, wait, orchestration⟩ := rest
  have frame := semanticReplayOrchestrationMetadata_injective orchestration
  obtain ⟨rawLeft, rankingLeft⟩ := rawLocator_of_decode firstDecoded
  obtain ⟨rawRight, rankingRight⟩ := rawLocator_of_decode secondDecoded
  refine ⟨rfl, ?_, postWaitReads_eq wait frame⟩
  unfold addressedReads parseCanonicalLocator stringArg
  rw [rawLeft, rawRight, rankingLeft, rankingRight, snapshot, frame]

variable {args : Json}

theorem scrub_of_known {names : List String} (known : ∀ key ∈ args.keys, key ∈ names)
    (first : "timeout_ms" ∉ names) (second : "wait_timeout_ms" ∉ names) :
    scrubDeadlineProjectedTimeoutAuthority args = args := by
  have absent : ∀ key, key ∉ names → args.get key = none := by
    intro key unknown
    by_contra present
    exact unknown (known key (mem_keys_iff.mpr present))
  unfold scrubDeadlineProjectedTimeoutAuthority
  rw [remove_of_get_none (absent _ first), remove_of_get_none (absent _ second)]

variable {policy : OrchestrationMetadataInheritancePolicy} {fields : List (String × Option Json)}

/-- Arguments whose fallback is a projection have the text that the projection writes. -/
theorem text_of_scrub_eq {key text : String} {value : Option String}
    (same : scrubDeadlineProjectedTimeoutAuthority args = present fields)
    (distinct : (fields.map Prod.fst).Nodup)
    (written : fields.lookup key = some (some (string text))) (first : key ≠ "timeout_ms")
    (second : key ≠ "wait_timeout_ms")
    (decoded : Serde.optional asStr (args.get key) = some value) : value = some text := by
  have member : args.get key = some (string text) := by
    rw [← get_scrub first second, same, get_present distinct, written]
    rfl
  rw [member] at decoded
  exact (some.inj decoded).symm

theorem isObject_of_scrub_eq (same : scrubDeadlineProjectedTimeoutAuthority args = present fields) :
    args.isObject = true := by
  have object := congrArg isObject same
  rw [isObject_present, scrubDeadlineProjectedTimeoutAuthority, isObject_remove,
    isObject_remove] at object
  exact object

/-- The arguments hold no timeout, and an object of them has the text that was read. -/
def ReadsChoice (args : Json) (key : String) (text : Option String) : Prop :=
  scrubDeadlineProjectedTimeoutAuthority args = args ∧
    (args.isObject = true → Serde.optional asStr (args.get key) = some text)

theorem readsChoice_of_struct {least : Nat} {names : List String}
    {members : String → Option Json} {key : String} {text : Option String}
    (struct : structFields least names args = some members)
    (read : Serde.optional asStr (members key) = some text) (first : "timeout_ms" ∉ names)
    (second : "wait_timeout_ms" ∉ names) : ReadsChoice args key text := by
  refine ⟨scrub_of_known (known_of_structFields struct) first second, fun object => ?_⟩
  obtain ⟨_, rfl⟩ := structFields_of_isObject object struct
  exact read

theorem LoadStrategy.name_injective : Injective LoadStrategy.name := by
  rintro ⟨⟩ ⟨⟩ same <;> first | rfl | exact absurd same (by decide)

theorem ScrollDirection.name_injective : Injective ScrollDirection.name := by
  rintro ⟨⟩ ⟨⟩ same <;> first | rfl | exact absurd same (by decide)

theorem ClickGesture.name_injective : Injective ClickGesture.name := by
  rintro ⟨⟩ ⟨⟩ same <;> first | rfl | exact absurd same (by decide)

/-- Equal projections, with the scrubbed arguments where there is none. -/
def SameProjection (project : Json → Option Json) (left right : Json) : Prop :=
  (project left).getD (scrubDeadlineProjectedTimeoutAuthority left) =
    (project right).getD (scrubDeadlineProjectedTimeoutAuthority right)

/-- Equal projections mean equal reads exactly if the arguments agree on this besides. -/
def Determines (project : Json → Option Json) (reads : Json → Option HandlerReads)
    (left right : Json) (agree : Prop) : Prop :=
  ∀ first second, reads left = some first → reads right = some second →
    SameProjection project left right → (first = second ↔ agree)

variable {Parsed Choice : Type} {decode : Json → Option Parsed} {project : Json → Option Json}
  {reads : Json → Option HandlerReads} {view : Json → Parsed → HandlerReads} {agree : Prop}

/-- A command whose projection writes members of its parsed arguments. -/
theorem Determines.of_fields (keys : List String)
    {fields : Json → Parsed → List (String × Option Json)}
    (shape : ∀ args, reads args = (decode args).map (view args) ∧
      (project args = (decode args).bind fun parsed => some (present (fields args parsed))) ∧
      ∀ parsed, (fields args parsed).map Prod.fst = keys) (distinct : keys.Nodup)
    (decided : ∀ parsed alike, decode left = some parsed → decode right = some alike →
      fields left parsed = fields right alike → (view left parsed = view right alike ↔ agree)) :
    Determines project reads left right agree := by
  intro first second firstRead secondRead same
  rw [(shape _).1] at firstRead secondRead
  obtain ⟨parsed, decoded, rfl⟩ := map_eq_some_iff.mp firstRead
  obtain ⟨alike, otherDecoded, rfl⟩ := map_eq_some_iff.mp secondRead
  unfold SameProjection at same
  rw [(shape _).2.1, (shape _).2.1, decoded, otherDecoded] at same
  refine decided parsed alike decoded otherDecoded (present_injective same ?_ ?_)
  · rw [(shape _).2.2, (shape _).2.2]
  · rwa [(shape _).2.2]

/-- A command with a named choice that may be refused, whose arguments then stand for
themselves. -/
theorem Determines.of_choice (key : String) (text : Parsed → Option String) (name : Choice → String)
    (choose : Option String → Except ErrorEnvelope Choice)
    {fields : Json → Parsed → Choice → List (String × Option Json)}
    (known : ∀ {args parsed}, decode args = some parsed → ReadsChoice args key (text parsed))
    (shape : ∀ args, reads args = (decode args).map (view args) ∧
      (project args = (decode args).bind fun parsed => (choose (text parsed)).toOption.bind
        fun choice => some (present (fields args parsed choice))) ∧
      ∀ parsed choice, (fields args parsed choice).lookup key = some (some (string (name choice))))
    (undated : key ≠ "timeout_ms" ∧ key ≠ "wait_timeout_ms")
    (named : ∀ choice, choose (some (name choice)) = .ok choice)
    (distinct : ∀ args parsed choice, ((fields args parsed choice).map Prod.fst).Nodup)
    (decided : ∀ parsed alike choice other, decode left = some parsed →
      decode right = some alike → choose (text parsed) = .ok choice →
        choose (text alike) = .ok other →
        present (fields left parsed choice) = present (fields right alike other) →
          (view left parsed = view right alike ↔ agree)) (itself : left = right → agree) :
    Determines project reads left right agree := by
  have chosen {args parsed other alike choice} (decoded : decode args = some parsed)
      (same : scrubDeadlineProjectedTimeoutAuthority args = present (fields other alike choice)) :
      choose (text parsed) = .ok choice := by
    rw [text_of_scrub_eq same (distinct ..) ((shape _).2.2 ..) undated.1 undated.2
      ((known decoded).2 (isObject_of_scrub_eq same)), named]
  intro first second firstRead secondRead same
  rw [(shape _).1] at firstRead secondRead
  obtain ⟨parsed, decoded, rfl⟩ := map_eq_some_iff.mp firstRead
  obtain ⟨alike, otherDecoded, rfl⟩ := map_eq_some_iff.mp secondRead
  unfold SameProjection at same
  rw [(shape _).2.1, (shape _).2.1, decoded, otherDecoded, bind_some, bind_some] at same
  -- A refused choice leaves the arguments, which may read like the projection of the other.
  cases made : choose (text parsed) with
  | error =>
    cases otherMade : choose (text alike) with
    | error =>
      rw [made, otherMade] at same
      have raw : left = right :=
        (known decoded).1.symm.trans (same.trans (known otherDecoded).1)
      subst raw
      rw [decoded] at otherDecoded
      cases otherDecoded
      simp [itself rfl]
    | ok other =>
      rw [made, otherMade] at same
      cases made.symm.trans (chosen decoded same)
  | ok choice =>
    cases otherMade : choose (text alike) with
    | error =>
      rw [made, otherMade] at same
      cases otherMade.symm.trans (chosen otherDecoded same.symm)
    | ok other =>
      rw [made, otherMade] at same
      exact decided parsed alike choice other decoded otherDecoded made otherMade same

/-- Both waits are given or none is, and they run in one frame. -/
def WaitsAgree (serde : SerdeJson) (left right : Json) : Prop :=
  ((left.get "wait_after").isSome ↔ (right.get "wait_after").isSome) ∧
    WaitFrameAgrees serde left right

theorem OpenArgs.decode_known {parsed : OpenArgs} (decoded : OpenArgs.decode args = some parsed) :
    ReadsChoice args "load_strategy" parsed.loadStrategy := by
  simp only [OpenArgs.decode, bind_eq_bind, bind_eq_some_iff] at decoded
  obtain ⟨fields, struct, _, _, _, read, _, _, ⟨⟩⟩ := decoded
  exact readsChoice_of_struct struct read (by decide) (by decide)

theorem openReads_determined :
    Determines openReplayArgs (openReads serde) left right (WaitsAgree serde left right) := by
  have distinct : ["url", "load_strategy", "wait_after"].Nodup := by decide
  refine .of_choice "load_strategy" OpenArgs.loadStrategy LoadStrategy.name
    (parseOptionalLoadStrategy · "load_strategy") OpenArgs.decode_known
    (fun _ => ⟨rfl, rfl, fun _ _ => rfl⟩) (by decide) (by rintro ⟨⟩ <;> rfl)
    (fun _ _ _ => distinct) ?_ ?_
  · intro parsed alike strategy other _ _ chosen otherChosen projected
    have members := present_injective projected rfl distinct
    simp only [cons.injEq, Prod.mk.injEq, some.injEq, true_and, and_true,
      string_injective.eq_iff, LoadStrategy.name_injective.eq_iff] at members
    obtain ⟨url, strategies, wait⟩ := members
    rw [chosen, otherChosen, url, strategies, open.injEq, WaitsAgree,
      ← postWaitReads_eq_iff_of_nulled wait]
    simp
  · rintro rfl
    simp [WaitsAgree, WaitFrameAgrees]

theorem ReloadArgs.decode_known {parsed : ReloadArgs}
    (decoded : ReloadArgs.decode args = some parsed) :
    ReadsChoice args "load_strategy" parsed.loadStrategy := by
  simp only [ReloadArgs.decode, bind_eq_bind, bind_eq_some_iff] at decoded
  obtain ⟨fields, struct, _, read, _, _, ⟨⟩⟩ := decoded
  exact readsChoice_of_struct struct read (by decide) (by decide)

theorem reloadReads_determined :
    Determines reloadReplayArgs (reloadReads serde) left right (WaitsAgree serde left right) := by
  have distinct : ["load_strategy", "wait_after"].Nodup := by decide
  refine .of_choice "load_strategy" ReloadArgs.loadStrategy LoadStrategy.name
    (parseOptionalLoadStrategy · "load_strategy") ReloadArgs.decode_known
    (fun _ => ⟨rfl, rfl, fun _ _ => rfl⟩) (by decide) (by rintro ⟨⟩ <;> rfl)
    (fun _ _ _ => distinct) ?_ ?_
  · intro parsed alike strategy other _ _ chosen otherChosen projected
    have members := present_injective projected rfl distinct
    simp only [cons.injEq, Prod.mk.injEq, some.injEq, true_and, and_true,
      string_injective.eq_iff, LoadStrategy.name_injective.eq_iff] at members
    obtain ⟨strategies, wait⟩ := members
    rw [chosen, otherChosen, strategies, reload.injEq, WaitsAgree,
      ← postWaitReads_eq_iff_of_nulled wait]
    simp
  · rintro rfl
    simp [WaitsAgree, WaitFrameAgrees]

theorem ScrollArgs.decode_known {parsed : ScrollArgs}
    (decoded : ScrollArgs.decode args = some parsed) :
    ReadsChoice args "direction" parsed.direction := by
  simp only [ScrollArgs.decode, bind_eq_bind, bind_eq_some_iff] at decoded
  obtain ⟨fields, struct, _, read, _, _, _, _, ⟨⟩⟩ := decoded
  exact readsChoice_of_struct struct read (by decide) (by decide)

/-- The projection of `scroll` drops the frame that its handler scrolls in. -/
theorem scrollReads_determined : Determines scrollReplayArgs scrollReads left right
    (orchestrationFrameOverride left = orchestrationFrameOverride right) := by
  have distinct : ["direction", "amount"].Nodup := by decide
  refine .of_choice "direction" ScrollArgs.direction ScrollDirection.name
    (parseOptionalScrollDirection · "direction") ScrollArgs.decode_known
    (fun _ => ⟨rfl, rfl, fun _ _ => rfl⟩) (by decide) (by rintro ⟨⟩ <;> rfl)
    (fun _ _ _ => distinct) ?_ (congrArg _)
  · intro parsed alike direction other _ _ chosen otherChosen projected
    have members := present_injective projected rfl distinct
    simp only [cons.injEq, Prod.mk.injEq, some.injEq, true_and, and_true,
      string_injective.eq_iff, ScrollDirection.name_injective.eq_iff,
      optionalNumber_injective.eq_iff] at members
    rw [chosen, otherChosen, members.1, members.2, scroll.injEq]
    simp

theorem stateReads_determined : Determines stateReplayArgs stateReads left right True := by
  refine .of_fields (["limit", "format", "a11y", "viewport", "diff", "listeners"] ++
      observationFieldNames ++ ["_orchestration"])
    (fun _ => ⟨rfl, rfl, fun _ => rfl⟩) (by decide) ?_
  intro parsed alike _ _ members
  obtain ⟨kept, frame⟩ := append_inj members rfl
  obtain ⟨own, observation⟩ := append_inj kept rfl
  simp only [cons.injEq, Prod.mk.injEq, some.injEq, true_and, and_true,
    optionalNumber_injective.eq_iff, optionalText_injective.eq_iff,
    bool_injective.eq_iff] at own frame
  simp [own, observationReads_eq observation, semanticReplayOrchestrationMetadata_injective frame]

theorem screenshotReads_determined :
    Determines screenshotReplayArgs screenshotReads left right True := by
  refine .of_fields ["full", "highlight", "path"] (fun _ => ⟨rfl, rfl, fun _ => rfl⟩) (by decide) ?_
  intro parsed alike _ _ members
  simp only [cons.injEq, Prod.mk.injEq, some.injEq, true_and, and_true,
    optionalText_injective.eq_iff, bool_injective.eq_iff] at members
  simp [members]

theorem switchReads_determined :
    Determines switchReplayArgs (switchReads serde) left right (WaitsAgree serde left right) := by
  refine .of_fields ["index", "wait_after"] (fun _ => ⟨rfl, rfl, fun _ => rfl⟩) (by decide) ?_
  intro parsed alike _ _ members
  simp only [cons.injEq, Prod.mk.injEq, some.injEq, true_and, and_true,
    natural_injective.eq_iff] at members
  obtain ⟨index, wait⟩ := members
  rw [index, switch.injEq, WaitsAgree, ← postWaitReads_eq_iff_of_nulled wait]
  simp

theorem closeTabReads_determined : Determines closeTabReplayArgs closeTabReads left right True := by
  refine .of_fields ["index"] (fun _ => ⟨rfl, rfl, fun _ => rfl⟩) (by decide) ?_
  intro parsed alike _ _ members
  simp only [cons.injEq, Prod.mk.injEq, some.injEq, true_and, and_true,
    optionalNumber_injective.eq_iff] at members
  simp [members]

theorem observeReads_determined : Determines observeReplayArgs observeReads left right True := by
  refine .of_fields (["full", "path", "limit"] ++ observationFieldNames ++ ["_orchestration"])
    (fun _ => ⟨rfl, rfl, fun _ => rfl⟩) (by decide) ?_
  intro parsed alike _ _ members
  obtain ⟨kept, frame⟩ := append_inj members rfl
  obtain ⟨own, observation⟩ := append_inj kept rfl
  simp only [cons.injEq, Prod.mk.injEq, some.injEq, true_and, and_true,
    optionalNumber_injective.eq_iff, optionalText_injective.eq_iff,
    bool_injective.eq_iff] at own frame
  simp [own, observationReads_eq observation, semanticReplayOrchestrationMetadata_injective frame]

theorem keysReads_determined : Determines keysReplayArgs (keysReads serde) left right True := by
  refine .of_fields ["keys", "wait_after", "_orchestration"]
    (fun _ => ⟨rfl, rfl, fun _ => rfl⟩) (by decide) ?_
  intro parsed alike _ _ members
  simp only [cons.injEq, Prod.mk.injEq, some.injEq, true_and, and_true,
    string_injective.eq_iff] at members
  obtain ⟨keys, wait, orchestration⟩ := members
  have frame := semanticReplayOrchestrationMetadata_injective orchestration
  simp [keys, frame, postWaitReads_eq wait frame]

/-- The locator among the arguments of a command that is addressed to an element. -/
theorem AddressedArgs.decode_locator {names : List String} {members : String → Option Json}
    {parsed : AddressedArgs} (flat : flatFields names args = some members)
    (decoded : AddressedArgs.decode members = some parsed) :
    LocatorRequestArgs.decode args.get = some parsed.locator := by
  simp only [AddressedArgs.decode, bind_eq_bind, bind_eq_some_iff] at decoded
  obtain ⟨_, _, _, _, _, located, _, _, ⟨⟩⟩ := decoded
  obtain ⟨_, _, rfl⟩ := flatFields_eq_some flat
  exact located

theorem TextEntryArgs.decode_locator {parsed : TextEntryArgs}
    (decoded : TextEntryArgs.decode args = some parsed) :
    LocatorRequestArgs.decode args.get = some parsed.locator := by
  simp only [TextEntryArgs.decode, bind_eq_bind, bind_eq_some_iff] at decoded
  obtain ⟨_, flat, _, _, _, _, _, _, _, addressed, ⟨⟩⟩ := decoded
  exact AddressedArgs.decode_locator flat addressed

theorem HoverArgs.decode_locator {parsed : HoverArgs}
    (decoded : HoverArgs.decode args = some parsed) :
    LocatorRequestArgs.decode args.get = some parsed.locator := by
  simp only [HoverArgs.decode, bind_eq_bind, bind_eq_some_iff] at decoded
  obtain ⟨_, flat, _, addressed, ⟨⟩⟩ := decoded
  exact AddressedArgs.decode_locator flat addressed

theorem UploadArgs.decode_locator {parsed : UploadArgs}
    (decoded : UploadArgs.decode args = some parsed) :
    LocatorRequestArgs.decode args.get = some parsed.locator := by
  simp only [UploadArgs.decode, bind_eq_bind, bind_eq_some_iff] at decoded
  obtain ⟨_, flat, _, _, _, _, _, addressed, ⟨⟩⟩ := decoded
  exact AddressedArgs.decode_locator flat addressed

theorem SelectArgs.decode_locator {parsed : SelectArgs}
    (decoded : SelectArgs.decode args = some parsed) :
    LocatorRequestArgs.decode args.get = some parsed.locator := by
  simp only [SelectArgs.decode, bind_eq_bind, bind_eq_some_iff] at decoded
  obtain ⟨_, flat, _, _, _, addressed, ⟨⟩⟩ := decoded
  exact AddressedArgs.decode_locator flat addressed

theorem typeReads_determined : Determines typeReplayArgs (typeReads serde) left right True := by
  refine .of_fields ("text" :: "clear" :: addressedNames)
    (fun _ => ⟨rfl, rfl, fun _ => rfl⟩) (by decide) ?_
  intro parsed alike decoded otherDecoded members
  simp only [cons.injEq, Prod.mk.injEq, some.injEq, true_and,
    string_injective.eq_iff, bool_injective.eq_iff] at members
  obtain ⟨text, clear, addressed⟩ := members
  have reads := addressedReads_eq serde (TextEntryArgs.decode_locator decoded)
    (TextEntryArgs.decode_locator otherDecoded) addressed
  simp [text, clear, reads]

theorem hoverReads_determined : Determines hoverReplayArgs (hoverReads serde) left right True := by
  refine .of_fields addressedNames (fun _ => ⟨rfl, rfl, fun _ => rfl⟩) (by decide) ?_
  intro parsed alike decoded otherDecoded addressed
  have reads := addressedReads_eq serde (HoverArgs.decode_locator decoded)
    (HoverArgs.decode_locator otherDecoded) addressed
  simp [reads]

theorem uploadReads_determined :
    Determines uploadReplayArgs (uploadReads serde) left right True := by
  refine .of_fields ("path" :: addressedNames) (fun _ => ⟨rfl, rfl, fun _ => rfl⟩) (by decide) ?_
  intro parsed alike decoded otherDecoded members
  simp only [cons.injEq, Prod.mk.injEq, some.injEq, true_and, string_injective.eq_iff] at members
  have reads := addressedReads_eq serde (UploadArgs.decode_locator decoded)
    (UploadArgs.decode_locator otherDecoded) members.2
  simp [members.1, reads]

theorem selectReads_determined :
    Determines selectReplayArgs (selectReads serde) left right True := by
  refine .of_fields ("value" :: addressedNames) (fun _ => ⟨rfl, rfl, fun _ => rfl⟩) (by decide) ?_
  intro parsed alike decoded otherDecoded members
  simp only [cons.injEq, Prod.mk.injEq, some.injEq, true_and, string_injective.eq_iff] at members
  have reads := addressedReads_eq serde (SelectArgs.decode_locator decoded)
    (SelectArgs.decode_locator otherDecoded) members.2
  simp [members.1, reads]

theorem ClickArgs.decode_known {parsed : ClickArgs}
    (decoded : ClickArgs.decode serde args = some parsed) :
    scrubDeadlineProjectedTimeoutAuthority args = args ∧
      Serde.optional asStr (args.get "gesture") = some parsed.gesture ∧
      LocatorRequestArgs.decode args.get = some parsed.locator := by
  simp only [decode, bind_eq_bind, bind_eq_some_iff] at decoded
  obtain ⟨_, flat, _, read, _, _, _, _, _, addressed, ⟨⟩⟩ := decoded
  have located := AddressedArgs.decode_locator flat addressed
  obtain ⟨_, known, rfl⟩ := flatFields_eq_some flat
  exact ⟨scrub_of_known known (by decide) (by decide), read, located⟩

/-- The members of the projection of `click`: a point, or an addressed element. -/
def clickFields (args : Json) (parsed : ClickArgs) (gesture : ClickGesture) :
    List (String × Option Json) :=
  ("gesture", some (string gesture.name)) ::
    match parsed.xy with
    | some xy => [("xy", some (floatPairJson xy)), ("wait_after", args.get "wait_after")]
    | none => addressedFields parsed.locator args

theorem clickNames_nodup (args : Json) (parsed : ClickArgs) (gesture : ClickGesture) :
    ((clickFields args parsed gesture).map Prod.fst).Nodup := by
  unfold clickFields
  cases parsed.xy with
  | some xy =>
    have distinct : ["gesture", "xy", "wait_after"].Nodup := by decide
    exact distinct
  | none =>
    have distinct : ("gesture" :: addressedNames).Nodup := by decide
    exact distinct

theorem get_xy_clickFields (args : Json) (parsed : ClickArgs) (gesture : ClickGesture) :
    (present (clickFields args parsed gesture)).get "xy" = parsed.xy.map floatPairJson := by
  rw [get_present (clickNames_nodup args parsed gesture), clickFields]
  cases parsed.xy <;> rfl

theorem floatPairJson_injective : Injective floatPairJson := by
  rintro ⟨x, y⟩ ⟨otherX, otherY⟩ same
  have trees := congrArg tree same
  simp only [floatPairJson, array, number, map_cons, map_nil,
    JsonTree.array.injEq, cons.injEq, JsonTree.number.injEq, JsonNumber.float.injEq,
    and_true] at trees
  rw [trees.1, trees.2]

/-- The projection of a click at a point drops the frame that a located wait runs in. -/
theorem clickReads_determined : Determines (clickReplayArgs serde) (clickReads serde) left right
    (∀ parsed, ClickArgs.decode serde left = some parsed → parsed.xy ≠ none →
      WaitFrameAgrees serde left right) := by
  have projects : ∀ args, clickReplayArgs serde args = (decode serde args).bind
      fun parsed => (requestedClickGesture parsed.gesture).toOption.bind
        fun gesture => some (present (clickFields args parsed gesture)) := by
    intro args
    unfold clickReplayArgs clickFields
    refine congrArg _ (funext fun parsed => congrArg _ (funext fun gesture => ?_))
    cases parsed.xy <;> rfl
  refine .of_choice "gesture" ClickArgs.gesture ClickGesture.name requestedClickGesture
    (fun decoded => ⟨(decode_known decoded).1, fun _ => (decode_known decoded).2.1⟩)
    (fun _ => ⟨rfl, projects _, fun _ _ => rfl⟩) (by decide) (by rintro ⟨⟩ <;> rfl)
    clickNames_nodup ?_ ?_
  · intro parsed alike gesture other decoded otherDecoded chosen otherChosen projected
    have points : parsed.xy = alike.xy := by
      have members := congrArg (fun value => value.get "xy") projected
      simp only [get_xy_clickFields] at members
      exact map_injective floatPairJson_injective members
    have names : (clickFields left parsed gesture).map Prod.fst =
        (clickFields right alike other).map Prod.fst := by
      unfold clickFields
      rw [points]
      cases alike.xy <;> rfl
    have members := present_injective projected names (clickNames_nodup ..)
    rw [decoded, chosen, otherChosen, points]
    simp only [clickFields, points, cons.injEq, Prod.mk.injEq, some.injEq, true_and,
      string_injective.eq_iff, ClickGesture.name_injective.eq_iff] at members
    obtain ⟨gestures, members⟩ := members
    cases point : alike.xy with
    | some =>
      rw [point] at members
      simp only [cons.injEq, Prod.mk.injEq, true_and, and_true] at members
      rw [clickPoint.injEq, postWaitReads_eq_iff members, gestures]
      simp [points, point]
    | none =>
      rw [point] at members
      obtain ⟨_, target, wait⟩ := addressedReads_eq serde (decode_known decoded).2.2
        (decode_known otherDecoded).2.2 members
      rw [clickElement.injEq, gestures]
      simp [points, point, target, wait]
  · rintro rfl
    simp [WaitFrameAgrees]

/-- The subcommand a storage request names. -/
def StorageCommand.sub : StorageCommand → String
  | .get _ _ => "get"
  | .set _ _ _ => "set"
  | .remove _ _ => "remove"
  | .clear _ => "clear"
  | .export _ => "export"
  | .import _ => "import"

def storageFields (command : StorageCommand) (frame : Option Json) :
    List (String × Option Json) :=
  command.jsonFields ++ [("_orchestration", frame)]

theorem storageNames_nodup (command : StorageCommand) (frame : Option Json) :
    ((storageFields command frame).map Prod.fst).Nodup := by
  have keyed : ["sub", "key", "area", "_orchestration"].Nodup := by decide
  have valued : ["sub", "key", "value", "area", "_orchestration"].Nodup := by decide
  have cleared : ["sub", "area", "_orchestration"].Nodup := by decide
  have filed : ["sub", "path", "_orchestration"].Nodup := by decide
  cases command with
  | get | remove => exact keyed
  | set => exact valued
  | clear => exact cleared
  | _ => exact filed

theorem get_sub_storageFields (command : StorageCommand) (frame : Option Json) :
    (present (storageFields command frame)).get "sub" = some (string command.sub) := by
  rw [get_present (storageNames_nodup command frame)]
  cases command <;> rfl

theorem storageFields_injective {command other : StorageCommand} {frame alike : Option Json}
    (same : present (storageFields command frame) =
      present (storageFields other alike)) : command = other ∧ frame = alike := by
  have subs : command.sub = other.sub := by
    have members := congrArg (fun value => value.get "sub") same
    simp only [get_sub_storageFields, some.injEq, string_injective.eq_iff] at members
    exact members
  have distinct := storageNames_nodup command frame
  cases command <;> cases other <;> first
    | (exfalso; revert subs; simp [StorageCommand.sub]; done)
    | have members := Json.present_injective same rfl distinct
      simp only [storageFields, StorageCommand.jsonFields, cons_append, nil_append,
        cons.injEq, Prod.mk.injEq, some.injEq, true_and, and_true,
        string_injective.eq_iff, optionalText_injective.eq_iff] at members
      simp [members]

theorem storageReads_determined : Determines storageReplayArgs storageReads left right True := by
  intro first second firstRead secondRead same
  obtain ⟨parsed, decoded, rfl⟩ := map_eq_some_iff.mp firstRead
  obtain ⟨alike, otherDecoded, rfl⟩ := map_eq_some_iff.mp secondRead
  unfold SameProjection storageReplayArgs at same
  rw [decoded, otherDecoded] at same
  obtain ⟨command, frame⟩ := storageFields_injective same
  simp [command, semanticReplayOrchestrationMetadata_injective frame]

/-- A null in place of the orchestration metadata names no frame either. -/
theorem frameOverrideOf_of_decoded {field decoded : Option Json}
    (read : optionalValue field = some decoded) :
    frameOverrideOf decoded = frameOverrideOf field := by
  cases field with
  | none =>
    cases read
    rfl
  | some value =>
    obtain ⟨tree, ordered⟩ := value
    cases tree <;> cases read <;> rfl

theorem FillArgs.decode_frame {parsed : FillArgs}
    (decoded : FillArgs.decode serde args = some parsed) :
    frameOverrideOf parsed.orchestration = orchestrationFrameOverride args := by
  simp only [FillArgs.decode, bind_eq_bind, bind_eq_some_iff] at decoded
  obtain ⟨_, flat, _, _, _, _, _, _, _, _, _, _, _, read, _, _, _, _, ⟨⟩⟩ := decoded
  obtain ⟨_, _, rfl⟩ := flatFields_eq_some flat
  exact frameOverrideOf_of_decoded read

theorem fillReads_determined :
    Determines (fillReplayArgs serde) (fillReads serde policy) left right True := by
  refine .of_fields ["spec", "atomic", "snapshot_id", "wait_after", "submit", "_orchestration"]
    (fun _ => ⟨rfl, rfl, fun _ => rfl⟩) (by decide) ?_
  intro parsed alike decoded otherDecoded members
  simp only [cons.injEq, Prod.mk.injEq, some.injEq, true_and, and_true,
    bool_injective.eq_iff] at members
  obtain ⟨spec, atomic, snapshot, wait, submit, orchestration⟩ := members
  have frame := semanticReplayOrchestrationMetadata_injective orchestration
  rw [spec, atomic, map_injective string_injective snapshot, submit,
    workflowStepFrame_of_bare, workflowStepFrame_of_bare, FillArgs.decode_frame decoded,
    FillArgs.decode_frame otherDecoded, frame, postWaitReads_eq wait frame]
  simp

/-- The projection of `pipe` keeps the frame of an object of arguments only, and of that
only its text. -/
theorem pipeReads_determined : Determines (pipeReplayArgs serde) (pipeReads serde policy) left right
      (∀ parsed alike, PipeArgs.decode serde left = some parsed →
        PipeArgs.decode serde right = some alike →
        workflowStepFrame parsed.orchestration policy =
          workflowStepFrame alike.orchestration policy) := by
  refine .of_fields ["spec", "wait_after", "_orchestration"]
    (fun _ => ⟨rfl, rfl, fun _ => rfl⟩) (by decide) ?_
  intro parsed alike decoded otherDecoded members
  simp only [cons.injEq, Prod.mk.injEq, some.injEq, true_and, and_true] at members
  obtain ⟨spec, wait, orchestration⟩ := members
  have frame := semanticReplayOrchestrationMetadata_injective orchestration
  rw [spec, postWaitReads_eq wait frame, pipe.injEq]
  simp [decoded, otherDecoded]

/-- What two accepted argument values with one fingerprint must agree on besides: the
frames and waits that the projection of the command does not keep apart. -/
def ProjectedCommand.UnkeptAgrees (serde : SerdeJson) (command : ProjectedCommand)
    (left right : Json) : Prop :=
  match command with
  | .open | .reload | .switch =>
    ((left.get "wait_after").isSome ↔ (right.get "wait_after").isSome) ∧
      WaitFrameAgrees serde left right
  | .scroll => orchestrationFrameOverride left = orchestrationFrameOverride right
  | .click => ∀ parsed, ClickArgs.decode serde left = some parsed → parsed.xy ≠ none →
      WaitFrameAgrees serde left right
  | .pipe => ∀ parsed alike, PipeArgs.decode serde left = some parsed →
      PipeArgs.decode serde right = some alike →
      frameOverrideOf parsed.orchestration = frameOverrideOf alike.orchestration
  | .triggerPipe => ∀ parsed alike, PipeArgs.decode serde left = some parsed →
      PipeArgs.decode serde right = some alike →
      frameOverrideOf parsed.orchestration = frameOverrideOf alike.orchestration ∧
        ((frameIdMember parsed.orchestration).isSome ↔
          (frameIdMember alike.orchestration).isSome)
  | _ => True

/-- Equal fingerprints of accepted arguments mean that the handler reads the same of both
exactly when they agree on what the projection does not keep. -/
theorem handlerReads_eq_iff_of_fingerprint_eq {serde : SerdeJson} {command : ProjectedCommand}
    {left right : IpcRequest} {first second : HandlerReads} (named : left.command = command.name)
    (firstRead : command.handlerReads serde left.args = some first)
    (secondRead : command.handlerReads serde right.args = some second)
    (same : replayRequestFingerprint serde left = replayRequestFingerprint serde right) :
    first = second ↔ command.UnkeptAgrees serde left.args right.args := by
  obtain ⟨commands, projected⟩ := replayRequestFingerprint_eq_iff.mp same
  rw [← commands, named, ProjectedCommand.semanticReplayArgs_name,
    ProjectedCommand.semanticReplayArgs_name] at projected
  suffices determined : Determines (command.replayArgs serde) (command.handlerReads serde) left.args
      right.args (command.UnkeptAgrees serde left.args right.args) from
    determined first second firstRead secondRead projected
  cases command with
  | «open» => exact openReads_determined
  | reload => exact reloadReads_determined
  | switch => exact switchReads_determined
  | scroll => exact scrollReads_determined
  | click => exact clickReads_determined
  | pipe =>
    have determined := @pipeReads_determined serde left.args right.args .preserveChildOverrides
    simp only [workflowStepFrame_preserve_iff] at determined
    exact determined
  | triggerPipe =>
    have determined := @pipeReads_determined serde left.args right.args .triggerAuthoritativeFrame
    simp only [workflowStepFrame_trigger_iff] at determined
    exact determined
  | state => exact stateReads_determined
  | screenshot => exact screenshotReads_determined
  | closeTab => exact closeTabReads_determined
  | keys => exact keysReads_determined
  | type => exact typeReads_determined
  | hover => exact hoverReads_determined
  | upload => exact uploadReads_determined
  | select => exact selectReads_determined
  | observe => exact observeReads_determined
  | storage => exact storageReads_determined
  | fill | triggerFill => exact fillReads_determined

def scrollRequest (args : Json) : IpcRequest :=
  { ipcProtocolVersion := ipcProtocolVersion, command := "scroll", commandId := some "cmd-1",
    daemonSessionId := none, args := args, timeoutMs := 1000 }

/-- The default direction and the same one written out. -/
theorem handlerReads_eq_of_default_direction :
    ProjectedCommand.scroll.handlerReads plainSerde (object []) =
      ProjectedCommand.scroll.handlerReads plainSerde
        (object [("direction", string "down")]) := by
  have same : replayRequestFingerprint plainSerde (scrollRequest (object [])) =
      replayRequestFingerprint plainSerde
        (scrollRequest (object [("direction", string "down")])) :=
    replayRequestFingerprint_eq_iff.mpr ⟨rfl, rfl⟩
  have agrees : (ProjectedCommand.scroll).UnkeptAgrees plainSerde (object [])
      (object [("direction", string "down")]) := rfl
  exact congrArg some
    ((handlerReads_eq_iff_of_fingerprint_eq rfl rfl rfl same).mpr agrees)

/-- Two scrolls of different frames have one fingerprint. -/
theorem scroll_fingerprint_drops_frame :
    ∃ left right first second,
      ProjectedCommand.scroll.handlerReads plainSerde left.args = some first ∧
      ProjectedCommand.scroll.handlerReads plainSerde right.args = some second ∧
      left.command = ProjectedCommand.scroll.name ∧
      replayRequestFingerprint plainSerde left = replayRequestFingerprint plainSerde right ∧
      orchestrationFrameOverride left.args = some "frame-1" ∧
      orchestrationFrameOverride right.args = some "frame-2" ∧ first ≠ second := by
  refine ⟨scrollRequest (object [("_orchestration",
      object [("frame_id", string "frame-1")])]),
    scrollRequest (object [("_orchestration",
      object [("frame_id", string "frame-2")])]),
    .scroll (.ok .down) none (some "frame-1"), .scroll (.ok .down) none (some "frame-2"),
    rfl, rfl, rfl, ?_, rfl, rfl, ?_⟩
  · exact replayRequestFingerprint_eq_iff.mpr ⟨rfl, rfl⟩
  · intro same
    injection same with _ _ frames
    exact absurd frames (by decide)

end Rub
