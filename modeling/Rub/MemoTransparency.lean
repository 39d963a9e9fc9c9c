import Mathlib.Data.List.Pairwise
import Rub.LocatorMemo

/-!
When the memo is invisible. A memo entry holds what an earlier request resolved to, after its
ranking and selection; the later request ranks and selects among those again. That is harmless
while the snapshots of one key have the same elements, unless a match other than the first one
is selected by its position.
-/

namespace Rub

open Json List Option ResolveCall Element LocatorMemoRegistry

variable {key : String} {lower : String → String}

/-- The selection a context was made from. -/
def readSelection (context : Json) : Option LocatorSelection :=
  if (context.get "first").isSome then some .first
  else if (context.get "last").isSome then some .last
  else ((context.get "nth").bind asU64).map .nth

theorem readSelection_context (selection : Option LocatorSelection) :
    readSelection (Json.optional (selection.map selectionContext)) = selection := by
  cases selection with
  | none => rfl
  | some selection => cases selection <;> rfl

def readRanking (context : Json) : LocatorRankingPolicy :=
  ⟨boolArg context "visible", boolArg context "prefer_enabled", boolArg context "topmost"⟩

theorem readRanking_context (ranking : LocatorRankingPolicy) :
    readRanking (rankingContext ranking) = ranking := by
  simp only [readRanking, rankingContext, boolArg, get_object]
  rfl

/-- Equal keys are of text locators that agree in all that decides the outcome. -/
theorem memoKey_inj {left right : ParsedLocator} {first second : PageSnapshot}
    (leftKey : left.memoKey lower first = some key)
    (rightKey : right.memoKey lower second = some key) :
    ∃ text other selection, left.locator = .targetText text selection ∧
      right.locator = .targetText other selection ∧
      normalizeLocatorText lower text = normalizeLocatorText lower other ∧
      left.ranking = right.ranking ∧ right.ranking.topmost = false := by
  unfold ParsedLocator.memoKey at leftKey rightKey
  split at leftKey
  · cases leftKey
  · split at rightKey
    · cases rightKey
    · rename_i plain
      split at leftKey
      · rename_i text selection leftShape
        split at rightKey
        · rename_i other chosen rightShape
          have same := canonicalJson_injective (String.ofList_injective
            (some.inj (leftKey.trans rightKey.symm)))
          have values := congrArg (fun fields : Json => fields.get "value") same
          have selections := congrArg (fun fields : Json => fields.get "selection") same
          have rankings := congrArg (fun fields : Json => fields.get "ranking") same
          simp only [get_object] at values selections rankings
          have value : string _ = string _ := some.inj values
          have select := congrArg readSelection (some.inj selections)
          have ranking := congrArg readRanking (some.inj rankings)
          rw [readSelection_context, readSelection_context] at select
          rw [readRanking_context, readRanking_context] at ranking
          subst select
          refine ⟨text, other, selection, leftShape, rightShape, string_injective value,
            ranking, ?_⟩
          simp only [Bool.or_eq_true, not_or, Bool.not_eq_true] at plain
          exact plain.1
        · cases rightKey
      · cases leftKey

variable {elements others : List Element}

/-- In the order of the snapshot, each position once. -/
def Listed (elements : List Element) : Prop :=
  elements.Pairwise fun left right => left.index < right.index

theorem pairwise_sortByIndex (elements : List Element) :
    (sortByIndex elements).Pairwise fun left right => left.index ≤ right.index := by
  exact pairwise_insertionSort _ elements

theorem Listed.sortByIndex_eq (listed : Listed elements) (same : others.Perm elements) :
    sortByIndex others = elements := by
  have perm : (sortByIndex others).Perm elements := (perm_insertionSort _ others).trans same
  refine perm.eq_of_pairwise ?_ (pairwise_sortByIndex others) (listed.imp Nat.le_of_lt)
  intro left right leftMember rightMember below above
  by_contra different
  have strict : (elements.Pairwise fun left right => left.index ≠ right.index) :=
    listed.imp Nat.ne_of_lt
  have symmetric : Std.Symm fun left right : Element => left.index ≠ right.index :=
    ⟨fun _ _ apart => apart.symm⟩
  exact strict.forall (perm.mem_iff.mp leftMember) rightMember different
    (Nat.le_antisymm below above)

theorem Listed.filter (listed : Listed elements) (keep : Element → Bool) :
    Listed (elements.filter keep) := List.Pairwise.filter keep listed

theorem listed_sortByIndex (nodup : (elements.map index).Nodup) :
    Listed (sortByIndex elements) := by
  have distinct : (sortByIndex elements).Pairwise fun left right => left.index ≠ right.index :=
    pairwise_map.mp (((perm_insertionSort _ elements).map index).nodup_iff.mpr nodup)
  exact ((pairwise_sortByIndex elements).and distinct).imp
    fun both => Nat.lt_of_le_of_ne both.1 both.2

variable {probe : PageProbe} {snapshot : PageSnapshot} {locator : ParsedLocator} {args : Json}
  {commandName : String} {selected : List Element}

/-- What is left of the elements after ranking and selection, where neither fails. -/
def selectedElements (selection : Option LocatorSelection) (ranking : LocatorRankingPolicy)
    (elements : List Element) : Option (List Element) :=
  let shown := if ranking.visible then elements.filter Element.hasSnapshotVisibleBbox else elements
  match selection with
  | none => some (if ranking.preferEnabled then sortByRank true shown else shown)
  | some selection =>
    if shown = [] then some []
    else (selection.pick (sortByRank ranking.preferEnabled shown)).map fun element => [element]

theorem applyDisambiguation_eq_ok : applyDisambiguation elements locator args = .ok selected ↔
      selectedElements locator.locator.selection locator.ranking elements = some selected := by
  unfold applyDisambiguation selectedElements
  generalize (if locator.ranking.visible then elements.filter hasSnapshotVisibleBbox
    else elements) = shown
  cases locator.locator.selection with
  | none => simp
  | some selection =>
    by_cases empty : shown = []
    · simp [empty]
    · cases picked : selection.pick (sortByRank locator.ranking.preferEnabled shown) with
      | none | some => simp [empty, picked]

theorem selectedElements_preHit (selection : Option LocatorSelection)
    (ranking : LocatorRankingPolicy) (elements : List Element) :
    selectedElements selection ranking
        (if ranking.visible then elements.filter hasSnapshotVisibleBbox else elements) =
      selectedElements selection ranking elements := by
  unfold selectedElements
  cases ranking.visible <;> simp

/-- Without a hit test, a request resolves to what its ranking and selection leave. -/
theorem resolveCandidates_eq_ok (plain : locator.ranking.topmost = false) :
    resolveCandidates probe snapshot locator args commandName elements = .ok selected ↔
      selectedElements locator.locator.selection locator.ranking elements = some selected ∧
        selected ≠ [] := by
  have ranked : applyLiveRanking probe snapshot locator elements =
      .ok (applyPreHitTestRanking locator elements) := by
    unfold applyLiveRanking
    simp [plain]
  unfold resolveCandidates
  rw [ranked, ← selectedElements_preHit]
  rw [except_bind_eq_ok]
  constructor
  · rintro ⟨_, same, rest⟩
    cases same
    obtain ⟨found, disambiguated, rest⟩ := except_bind_eq_ok.mp rest
    split at rest
    · cases rest
    · rename_i filled
      cases rest
      exact ⟨applyDisambiguation_eq_ok.mp disambiguated, filled⟩
  · rintro ⟨found, filled⟩
    refine ⟨_, rfl, except_bind_eq_ok.mpr ⟨selected, applyDisambiguation_eq_ok.mpr found, ?_⟩⟩
    exact if_neg filled

/-- A selection of a match behind the first one by its position. -/
def LaterPosition (selection : Option LocatorSelection) : Prop :=
  ∃ position, selection = some (.nth (position + 1))

instance (selection : Option LocatorSelection) : Decidable (LaterPosition selection) :=
  match selection with
  | some (.nth (position + 1)) => isTrue ⟨position, rfl⟩
  | some (.nth 0) => isFalse fun ⟨_, same⟩ => nomatch same
  | some .first => isFalse fun ⟨_, same⟩ => nomatch same
  | some .last => isFalse fun ⟨_, same⟩ => nomatch same
  | none => isFalse fun ⟨_, same⟩ => nomatch same

theorem mem_of_pick {selection : LocatorSelection} {element : Element}
    (picked : selection.pick elements = some element) : element ∈ elements := by
  cases selection with
  | first => exact mem_of_head? picked
  | last => exact mem_of_getLast? picked
  | nth => exact mem_of_getElem? picked

/-- Ranking and selecting again among what was selected gives the same, or fails where a
later position is asked for. -/
theorem selectedElements_again {selection : Option LocatorSelection}
    {ranking : LocatorRankingPolicy} (listed : Listed elements)
    (done : selectedElements selection ranking elements = some selected) (filled : selected ≠ []) :
    selectedElements selection ranking (sortByIndex selected) =
      if LaterPosition selection then none else some selected := by
  generalize kept : (if ranking.visible then elements.filter hasSnapshotVisibleBbox
    else elements) = shown
  have listedShown : Listed shown := by
    rw [← kept]
    split
    · exact listed.filter _
    · exact listed
  have again : selectedElements selection ranking shown = some selected := by
    rw [← kept, selectedElements_preHit, done]
  cases selection with
  | none =>
    have perm : selected.Perm shown := by
      unfold selectedElements at done
      simp only [kept, some.injEq] at done
      rw [← done]
      split
      · exact perm_insertionSort _ shown
      · exact List.Perm.refl shown
    rw [listedShown.sortByIndex_eq perm, again, if_neg]
    rintro ⟨_, ⟨⟩⟩
  | some selection =>
    unfold selectedElements at done
    simp only [kept] at done
    split at done
    · cases done
      exact absurd rfl filled
    · obtain ⟨element, picked, rfl⟩ := map_eq_some_iff.mp done
      have member : element ∈ shown := (mem_insertionSort _).mp (mem_of_pick picked)
      have alone : (if ranking.visible then [element].filter hasSnapshotVisibleBbox
          else [element]) = [element] := by
        split
        · rename_i visible
          rw [if_pos visible] at kept
          rw [← kept] at member
          refine filter_eq_self.mpr fun other same => ?_
          rw [mem_singleton.mp same]
          exact (mem_filter.mp member).2
        · rfl
      have single : sortByIndex [element] = [element] := rfl
      have ranked : sortByRank ranking.preferEnabled [element] = [element] := rfl
      unfold selectedElements
      simp only [single, alone, ranked]
      cases selection with
      | first => rfl
      | last => rfl
      | nth position =>
        cases position with
        | zero => rfl
        | succ => rfl

variable {other : PageSnapshot}

/-- Every position and every reference is of one element. -/
structure WellFormed (snapshot : PageSnapshot) : Prop where
  positions : (snapshot.elements.map Element.index).Nodup
  references : (snapshot.elements.filterMap Element.elementRef).Nodup

section

variable (formed : WellFormed snapshot)

include formed

theorem findTarget_eq {element found : Element} (member : element ∈ snapshot.elements)
    (looked : findTarget snapshot (memoTarget element) = some found) : found = element := by
  unfold memoTarget at looked
  cases given : element.elementRef with
  | some ref =>
    simp only [given, findTarget, findElementByRef] at looked
    have inside := mem_reverse.mp (mem_of_find?_eq_some looked)
    have same : found.elementRef = some ref := by simpa using List.find?_some looked
    by_contra different
    have apart := pairwise_filterMap.mp formed.references
    have symmetric : Std.Symm fun left right : Element => ∀ one, left.elementRef = some one →
        ∀ two, right.elementRef = some two → one ≠ two :=
      ⟨fun _ _ holds one first two second => (holds two second one first).symm⟩
    exact apart.forall inside member different ref same ref given rfl
  | none =>
    simp only [given, findTarget] at looked
    obtain ⟨listed, same⟩ := filter_eq_some_iff.mp looked
    exact inj_on_of_nodup_map formed.positions (mem_of_getElem? listed) member (by simpa using same)

theorem mapM_findTarget_eq {found : List Element}
    (members : ∀ element ∈ elements, element ∈ snapshot.elements)
    (looked : (memoTargets elements).mapM (findTarget snapshot) = some found) :
    found = elements := by
  induction elements generalizing found with
  | nil =>
    cases looked
    rfl
  | cons _ _ ih =>
    obtain ⟨inside, others⟩ := forall_mem_cons.mp members
    rw [memoTargets, map_cons, mapM_cons] at looked
    simp only [bind_eq_bind, bind_eq_some_iff, Option.pure_def, some.injEq] at looked
    obtain ⟨first, head, rest, tail, rfl⟩ := looked
    rw [findTarget_eq formed inside head, ih others tail]

theorem rehydrate_eq {locator : CanonicalLocator}
    {restored : List Element} (members : ∀ element ∈ elements, element ∈ snapshot.elements)
    (done : rehydrateMemoizedElements lower snapshot locator (memoTargets elements) =
      some restored) : restored = sortByIndex elements := by
  unfold rehydrateMemoizedElements at done
  split at done
  · cases done
  · simp only [bind_eq_bind, bind_eq_some_iff] at done
    obtain ⟨found, looked, done⟩ := done
    rw [mapM_findTarget_eq formed members looked] at done
    split at done
    · split at done
      · exact (some.inj done).symm
      · cases done
    · cases done

end

theorem mem_textCandidates {query : String} {element : Element}
    (member : element ∈ textCandidates lower snapshot query) : element ∈ snapshot.elements := by
  unfold textCandidates textMatches sortByIndex at member
  simp only at member
  split at member
  · exact (mem_filter.mp ((mem_insertionSort _).mp member)).1
  · exact (mem_filter.mp ((mem_insertionSort _).mp member)).1

theorem listed_textCandidates (formed : WellFormed snapshot) (query : String) :
    Listed (textCandidates lower snapshot query) := by
  have matched : ∀ exact, Listed (textMatches lower snapshot query exact) := fun exact =>
    listed_sortByIndex (formed.positions.sublist (filter_sublist.map index))
  unfold textCandidates
  simp only
  split
  · exact matched false
  · exact matched true

theorem textCandidates_congr (same : snapshot.elements = other.elements) (query : String) :
    textCandidates lower snapshot query = textCandidates lower other query := by
  unfold textCandidates textMatches
  rw [same]

theorem resolveElementsByText_eq_ok {query : String} {candidates : List Element} :
    resolveElementsByText lower snapshot query = .ok candidates ↔
      candidates = textCandidates lower snapshot (normalizeLocatorText lower query) ∧
        candidates ≠ [] := by
  unfold resolveElementsByText requireMatches
  cases textCandidates lower snapshot (normalizeLocatorText lower query) with
  | nil => simp
  | cons =>
    constructor
    · rintro ⟨⟩
      exact ⟨rfl, cons_ne_nil _ _⟩
    · rintro ⟨rfl, -⟩
      rfl

theorem mem_selectedElements {selection : Option LocatorSelection}
    {ranking : LocatorRankingPolicy} {element : Element}
    (done : selectedElements selection ranking elements = some selected)
    (member : element ∈ selected) : element ∈ elements := by
  unfold selectedElements at done
  generalize kept : (if ranking.visible then elements.filter hasSnapshotVisibleBbox
    else elements) = shown at done
  have inside : ∀ {element}, element ∈ shown → element ∈ elements := by
    intro element member
    rw [← kept] at member
    split at member
    · exact (mem_filter.mp member).1
    · exact member
  cases selection with
  | none =>
    simp only [some.injEq] at done
    rw [← done] at member
    split at member
    · exact inside ((mem_insertionSort _).mp member)
    · exact inside member
  | some =>
    simp only at done
    split at done
    · cases done
      cases member
    · obtain ⟨picked, chosen, rfl⟩ := map_eq_some_iff.mp done
      rw [mem_singleton.mp member]
      exact inside ((mem_insertionSort _).mp (mem_of_pick chosen))

variable {memo : LocatorMemoRegistry} {session next : MemoSession} {call : ResolveCall}

/-- Each entry of the memo holds what its request resolves to without the memo. -/
def MemoRecorded (lower : String → String) (session : MemoSession) : Prop :=
  ∀ key targets, session.memo.entries key = some targets →
    ∃ origin elements, session.origin key = some origin ∧ origin.memoKey lower = some key ∧
      origin.direct lower = .ok elements ∧ targets = memoTargets elements

/-- The snapshot of a request that the memo answers has the elements of the one the entry was
stored for, and is well formed. -/
def Current (lower : String → String) (session : MemoSession) (call : ResolveCall) : Prop :=
  (call.restored lower session.memo).isSome → ∀ key origin, call.memoKey lower = some key →
    session.origin key = some origin →
    origin.snapshot.elements = call.snapshot.elements ∧ WellFormed call.snapshot

/-- The position that a request asks for among its matches. -/
def ResolveCall.selection (call : ResolveCall) : Option LocatorSelection :=
  (parseLocator call.args).toOption.bind fun locator => locator.locator.selection

theorem parseLocator_eq_ok
    (parsed : (parseLocator args).toOption = some locator) : parseLocator args = .ok locator := by
  exact except_toOption_eq_some.mp parsed

theorem direct_eq_ok {text : String} {selection : Option LocatorSelection}
    (parsed : parseLocator call.args = .ok locator)
    (isText : locator.locator = .targetText text selection)
    (plain : locator.ranking.topmost = false) :
    call.direct lower = .ok elements ↔
      textCandidates lower call.snapshot (normalizeLocatorText lower text) ≠ [] ∧
      selectedElements selection locator.ranking
        (textCandidates lower call.snapshot (normalizeLocatorText lower text)) = some elements ∧
      elements ≠ [] := by
  have chosen : locator.locator.selection = selection := by
    rw [isText]
    rfl
  unfold direct resolveElementsAgainstSnapshot
  rw [parsed]
  show (resolveElementsAgainstLocator lower call.probe call.snapshot locator.locator >>= _) = _ ↔ _
  rw [except_bind_eq_ok, isText]
  constructor
  · rintro ⟨candidates, found, resolved⟩
    obtain ⟨rfl, filled⟩ := resolveElementsByText_eq_ok.mp found
    have outcome := (resolveCandidates_eq_ok plain).mp resolved
    rw [chosen] at outcome
    exact ⟨filled, outcome⟩
  · rintro ⟨filled, outcome⟩
    refine ⟨_, resolveElementsByText_eq_ok.mpr ⟨rfl, filled⟩,
      (resolveCandidates_eq_ok plain).mpr ?_⟩
    rw [chosen]
    exact outcome

theorem restored_eq (recorded : MemoRecorded lower session) (current : Current lower session call)
    {restored : List Element} (given : call.restored lower session.memo = some restored) :
    ∃ locator elements, parseLocator call.args = .ok locator ∧
      locator.ranking.topmost = false ∧ call.direct lower = .ok elements ∧
      restoreMemoizedElements lower session.memo call.snapshot locator = some restored ∧
      selectedElements locator.locator.selection locator.ranking restored =
        if LaterPosition locator.locator.selection then none else some elements := by
  have supplied := given
  obtain ⟨locator, parsed, given⟩ := bind_eq_some_iff.mp given
  have parses := parseLocator_eq_ok parsed
  have restores := given
  unfold restoreMemoizedElements at given
  simp only [bind_eq_bind, bind_eq_some_iff] at given
  obtain ⟨key, keyed, targets, entry, rehydrated⟩ := given
  obtain ⟨origin, elements, stored, originKey, direct, rfl⟩ := recorded key targets entry
  have callKey : call.memoKey lower = some key := by
    unfold memoKey
    rw [parsed]
    exact keyed
  obtain ⟨same, formed⟩ := current (by rw [supplied]; rfl) key origin callKey stored
  obtain ⟨originLocator, originParsed, originKeyed⟩ := bind_eq_some_iff.mp originKey
  obtain ⟨text, query, selection, originText, callText, normalized, ranking, plain⟩ :=
    memoKey_inj originKeyed keyed
  -- The request that stored the entry resolved to the same as this one does directly.
  obtain ⟨filled, selected, nonempty⟩ :=
    (direct_eq_ok (parseLocator_eq_ok originParsed) originText
      (by rw [ranking]; exact plain)).mp direct
  rw [normalized, ranking, textCandidates_congr same] at selected
  rw [normalized, textCandidates_congr same] at filled
  have outcome : call.direct lower = .ok elements :=
    (direct_eq_ok parses callText plain).mpr ⟨filled, selected, nonempty⟩
  have members : ∀ element ∈ elements, element ∈ call.snapshot.elements := fun element member =>
    mem_textCandidates (mem_selectedElements selected member)
  have chosen : locator.locator.selection = selection := by
    rw [callText]
    rfl
  refine ⟨locator, elements, parses, plain, outcome, restores, ?_⟩
  rw [rehydrate_eq formed members rehydrated, chosen]
  exact selectedElements_again (listed_textCandidates formed _) selected nonempty

/-- With the memo, a request has the outcome it has without, or fails where it would not. -/
theorem outcome_cases (recorded : MemoRecorded lower session)
    (current : Current lower session call) :
    if (call.restored lower session.memo).isSome ∧ LaterPosition call.selection then
      (∃ error, (resolveElements lower session.memo call).1 = .error error) ∧
        ∃ elements, call.direct lower = .ok elements
    else (resolveElements lower session.memo call).1 = call.direct lower := by
  cases given : call.restored lower session.memo with
  | none =>
    unfold restored at given
    unfold resolveElements direct resolveElementsAgainstSnapshot
    cases parsed : parseLocator call.args with
    | error => rfl
    | ok locator =>
      rw [parsed] at given
      have unused : restoreMemoizedElements lower session.memo call.snapshot locator = none := given
      simp only [unused]
      show _ = (resolveElementsAgainstLocator lower call.probe call.snapshot
        locator.locator).bind (resolveCandidates call.probe call.snapshot locator call.args
          call.commandName)
      cases (resolveElementsAgainstLocator lower call.probe call.snapshot
        locator.locator).bind (resolveCandidates call.probe call.snapshot locator call.args
          call.commandName) <;> rfl
  | some restored =>
    obtain ⟨locator, elements, parses, plain, direct, restores, again⟩ :=
      restored_eq recorded current given
    have selection : call.selection = locator.locator.selection := by
      unfold selection
      rw [parses]
      rfl
    have filled : elements ≠ [] := by
      obtain ⟨_, -, direct⟩ := except_bind_eq_ok.mp direct
      obtain ⟨_, -, direct⟩ := except_bind_eq_ok.mp direct
      exact ne_nil_of_resolveCandidates direct
    unfold resolveElements
    simp only [parses, restores, selection, isSome_some, true_and]
    split
    · rename_i later
      rw [if_pos later] at again
      refine ⟨?_, elements, direct⟩
      cases resolved : resolveCandidates call.probe call.snapshot locator call.args
          call.commandName restored with
      | error error => exact ⟨error, by simp only [Except.bind, resolved]⟩
      | ok =>
        have kept := ((resolveCandidates_eq_ok plain).mp resolved).1
        rw [again] at kept
        cases kept
    · rename_i early
      rw [if_neg early] at again
      have resolved : resolveCandidates call.probe call.snapshot locator call.args
          call.commandName restored = .ok elements :=
        (resolveCandidates_eq_ok plain).mpr ⟨again, filled⟩
      rw [direct]
      simp only [Except.bind, resolved]
where
  ne_nil_of_resolveCandidates {probe : PageProbe} {snapshot : PageSnapshot}
      {locator : ParsedLocator} {args : Json} {commandName : String}
      {candidates elements : List Element}
      (resolved : resolveCandidates probe snapshot locator args commandName candidates =
        .ok elements) : elements ≠ [] := by
    unfold resolveCandidates at resolved
    obtain ⟨_, -, resolved⟩ := except_bind_eq_ok.mp resolved
    obtain ⟨_, -, resolved⟩ := except_bind_eq_ok.mp resolved
    split at resolved
    · cases resolved
    · rename_i filled
      cases resolved
      exact filled

theorem entries_evict {targets : List LocatorMemoTarget}
    (found : memo.evict.entries key = some targets) :
    memo.entries key = some targets := by
  unfold evict at found
  simp only at found
  generalize memo.order.take (memo.order.length - locatorMemoLimit) = oldest at found
  induction oldest generalizing memo with
  | nil => exact found
  | cons _ _ ih => exact (update_none_eq_some (ih found)).2

theorem entries_insert {other : String} {targets found : List LocatorMemoTarget}
    (filled : targets ≠ []) (looked : (memo.insert key targets).entries other = some found) :
    other = key ∧ found = targets ∨ other ≠ key ∧ memo.entries other = some found := by
  unfold LocatorMemoRegistry.insert at looked
  rw [if_neg filled] at looked
  rcases update_eq_some (entries_evict looked) with ⟨same, stored⟩ | kept
  · exact .inl ⟨same, (some.inj stored).symm⟩
  · exact .inr kept

theorem MemoRecorded.resolve (recorded : MemoRecorded lower session)
    (current : Current lower session call)
    (taken : (memoSystem lower).step session (.resolve call) = some next) :
    MemoRecorded lower next := by
  have outcome := outcome_cases recorded current
  simp only [memoSystem, MemoSession.step, some.injEq] at taken
  subst taken
  cases result : (resolveElements lower session.memo call).1 with
  | error =>
    have unchanged : (resolveElements lower session.memo call).2 = session.memo :=
      memo_of_error result
    simp only [unchanged]
    exact recorded
  | ok elements =>
    have direct : call.direct lower = .ok elements := by
      split at outcome
      · obtain ⟨⟨error, failed⟩, -⟩ := outcome
        rw [result] at failed
        cases failed
      · rw [← outcome, result]
    obtain ⟨stored, filled⟩ := memo_of_ok result
    cases keyed : call.memoKey lower with
    | none =>
      rw [keyed] at stored
      simp only [stored]
      exact recorded
    | some =>
      rw [keyed] at stored
      simp only [stored]
      intro other targets looked
      rcases entries_insert filled looked with ⟨rfl, rfl⟩ | ⟨different, kept⟩
      · exact ⟨call, elements, Function.update_self .., keyed, direct, rfl⟩
      · obtain ⟨origin, answer, held, rest⟩ := recorded other targets kept
        exact ⟨origin, answer, (Function.update_of_ne different _ _).trans held, rest⟩
where
  memo_of_error {memo : LocatorMemoRegistry} {call : ResolveCall} {error : RubError}
      (failed : (resolveElements lower memo call).1 = .error error) :
      (resolveElements lower memo call).2 = memo := by
    unfold resolveElements at failed ⊢
    split at failed
    · rfl
    · rename_i locator parsed
      simp only at failed ⊢
      split at failed
      · rfl
      · cases failed
  memo_of_ok {memo : LocatorMemoRegistry} {call : ResolveCall} {elements : List Element}
      (done : (resolveElements lower memo call).1 = .ok elements) :
      (resolveElements lower memo call).2 = ((call.memoKey lower).elim memo fun key =>
        memo.insert key (memoTargets elements)) ∧ memoTargets elements ≠ [] := by
    unfold resolveElements at done ⊢
    split at done
    · cases done
    · rename_i locator parsed
      have keyed : call.memoKey lower = locator.memoKey lower call.snapshot := by
        unfold memoKey
        rw [parsed]
        rfl
      simp only at done ⊢
      split at done
      · cases done
      · rename_i found resolved
        cases done
        simp only [keyed, recordMemoizedElements]
        refine ⟨by cases locator.memoKey lower call.snapshot <;> rfl, ?_⟩
        obtain ⟨candidates, -, resolves⟩ := except_bind_eq_ok.mp resolved
        have filled := outcome_cases.ne_nil_of_resolveCandidates resolves
        exact fun empty => filled (map_eq_nil_iff.mp empty)

/-- The condition on a step: a request that the memo answers is current. -/
def StepCurrent (lower : String → String) (session : MemoSession) : MemoAction → Prop
  | .resolve call => Current lower session call
  | .evict _ => True

theorem memoRecorded_of_run {actions : List MemoAction}
    (run : (memoSystem lower).runFrom (memoSystem lower).initial actions = some session)
    (along : (memoSystem lower).Along (StepCurrent lower) (memoSystem lower).initial actions) :
    MemoRecorded lower session := by
  have start : MemoRecorded lower (memoSystem lower).initial := fun _ _ found => nomatch found
  refine (memoSystem lower).runFrom_preserves_along
    (fun state action next holds allowed taken => ?_) start along run
  cases action with
  | resolve => exact holds.resolve allowed taken
  | evict =>
    cases taken
    intro other targets found
    exact holds other targets (update_none_eq_some found).2

/-- In a session whose answered requests are current, the memo does not change the outcome of
a request, unless it answers one that asks for a later position among its matches; then it
does. -/
theorem memo_invisible_iff (lower : String → String) (actions : List MemoAction)
    (session : MemoSession) (call : ResolveCall)
    (run : (memoSystem lower).runFrom (memoSystem lower).initial actions = some session)
    (along : (memoSystem lower).Along (StepCurrent lower) (memoSystem lower).initial actions)
    (current : Current lower session call) :
    (resolveElements lower session.memo call).1 = call.direct lower ↔
      ¬((call.restored lower session.memo).isSome ∧ LaterPosition call.selection) := by
  have outcome := outcome_cases (memoRecorded_of_run run along) current
  split at outcome
  · rename_i misled
    obtain ⟨⟨error, failed⟩, elements, direct⟩ := outcome
    refine iff_of_false (fun same => ?_) (not_not_intro misled)
    rw [failed, direct] at same
    cases same
  · rename_i clear
    exact iff_of_true outcome clear

def saveButton (index : Nat) (text : String) (ref : String) : Element :=
  ⟨index, .button, text, [], some ref, none, none⟩

/-- A page with two matches of a text. -/
def savePage (first second : String) : PageSnapshot where
  snapshotId := "s"
  domEpoch := 1
  frameId := "f"
  frameLineage := ["f"]
  url := "u"
  elements := [saveButton 0 first "f:1", saveButton 1 second "f:2"]
  totalCount := 2
  truncated := false
  scroll := Json.null
  projection := ⟨true, 2, 2, none⟩

def silentProbe : PageProbe := ⟨fun _ _ => .ok [], fun _ elements => .ok elements⟩

def saveCall (selection : List (String × Json)) (page : PageSnapshot) : ResolveCall :=
  ⟨object (("target_text", string "save") :: selection), "click", page, silentProbe⟩

def saveLocator (selection : Option LocatorSelection) : ParsedLocator :=
  ⟨.targetText "save" selection, ⟨false, false, false⟩⟩

def secondSave : ResolveCall := saveCall [("nth", natural 1)] (savePage "save" "save")

def lastSave : ResolveCall := saveCall [("last", Json.bool true)] (savePage "save" "save")

theorem evict_of_few (few : memo.order.length ≤ locatorMemoLimit) : memo.evict = memo := by
  unfold evict
  have none : memo.order.length - locatorMemoLimit = 0 := Nat.sub_eq_zero_of_le few
  rw [none]
  rfl

/-- A memo that holds the outcome of one request. -/
def storedAfter (call : ResolveCall) : LocatorMemoRegistry :=
  (resolveElements id .empty call).2

/-- What the memo holds after one request, under the key of that request. -/
theorem storedAfter_entries (parsed : parseLocator call.args = .ok locator)
    (keyed : locator.memoKey id call.snapshot = some key) (direct : call.direct id = .ok elements)
    (filled : memoTargets elements ≠ []) :
    (storedAfter call).entries key = some (memoTargets elements) := by
  have fresh : restoreMemoizedElements id .empty call.snapshot locator = none := by
    unfold restoreMemoizedElements
    rw [keyed]
    rfl
  have resolved : (resolveElementsAgainstLocator id call.probe call.snapshot locator.locator).bind
      (resolveCandidates call.probe call.snapshot locator call.args call.commandName) =
        .ok elements := by
    unfold ResolveCall.direct resolveElementsAgainstSnapshot at direct
    rw [parsed] at direct
    exact direct
  unfold storedAfter resolveElements
  simp only [parsed, fresh, resolved]
  unfold recordMemoizedElements LocatorMemoRegistry.insert
  simp only [keyed, if_neg filled, empty, filter_nil, nil_append]
  have few : [key].length ≤ locatorMemoLimit := by
    show 1 ≤ 128
    decide
  rw [evict_of_few few]
  simp only [Function.update_self]

section

variable (first second : ResolveCall) {found : List Element}
  (parsed : parseLocator first.args = .ok locator) (again : parseLocator second.args = .ok locator)
  (keyed : locator.memoKey id first.snapshot = some key)
  (sameKey : locator.memoKey id second.snapshot = some key)
  (direct : first.direct id = .ok elements) (filled : memoTargets elements ≠ [])
  (rehydrated : rehydrateMemoizedElements id second.snapshot locator.locator
    (memoTargets elements) = some found)

include first second parsed again keyed sameKey direct filled rehydrated

/-- What the memo gives a request whose key is that of the one request before. -/
theorem restored_after : second.restored id (storedAfter first) = some found := by
  unfold restored
  rw [again]
  show restoreMemoizedElements id (storedAfter first) second.snapshot locator = some found
  unfold restoreMemoizedElements
  rw [sameKey]
  show ((storedAfter first).entries key).bind _ = _
  rw [storedAfter_entries parsed keyed direct filled]
  exact rehydrated

/-- The outcome of a request whose key is that of the one request before. -/
theorem resolved_after : (resolveElements id (storedAfter first) second).1 =
      resolveCandidates second.probe second.snapshot locator second.args second.commandName
        found := by
  have restored : restoreMemoizedElements id (storedAfter first) second.snapshot locator =
      some found := by
    have given := restored_after first second parsed again keyed sameKey direct filled rehydrated
    unfold restored at given
    rw [again] at given
    exact given
  unfold resolveElements
  simp only [again, restored]
  cases outcome : resolveCandidates second.probe second.snapshot locator second.args
      second.commandName found with
  | error => simp only [Except.bind, outcome]
  | ok => simp only [Except.bind, outcome]

end

theorem origin_after {origin : ResolveCall}
    (run : (memoSystem id).runFrom (memoSystem id).initial [.resolve call] = some session)
    (held : session.origin key = some origin) : origin = call := by
  have reached : (memoSystem id).step (memoSystem id).initial (.resolve call) = some session := run
  simp only [memoSystem, MemoSession.step, some.injEq] at reached
  subst reached
  cases outcome : (resolveElements id empty call).1 <;>
    cases keyed : call.memoKey id <;> simp only [outcome, keyed] at held <;> try cases held
  rcases update_eq_some held with ⟨-, same⟩ | ⟨-, absent⟩
  · exact (some.inj same).symm
  · cases absent

/-- The last match is selected again among what was stored. -/
theorem last_match_again :
    ∃ session, (memoSystem id).runFrom (memoSystem id).initial [.resolve lastSave] =
        some session ∧
      lastSave.restored id session.memo = some [saveButton 1 "save" "f:2"] ∧
      (resolveElements id session.memo lastSave).1 = lastSave.direct id := by
  obtain ⟨session, run⟩ : ∃ session, (memoSystem id).runFrom (memoSystem id).initial
    [.resolve lastSave] = some session := ⟨_, rfl⟩
  have formed : WellFormed lastSave.snapshot := ⟨by decide, by decide⟩
  have restored : lastSave.restored id session.memo = some [saveButton 1 "save" "f:2"] := by
    cases run
    exact restored_after lastSave lastSave
      (show parseLocator lastSave.args = .ok (saveLocator (some .last)) from rfl)
      rfl rfl rfl
      (show lastSave.direct id = .ok [saveButton 1 "save" "f:2"] from rfl) (by decide) rfl
  have first : Current id (memoSystem id).initial lastSave := fun answered => nomatch answered
  have current : Current id session lastSave := by
    intro _ key origin _ held
    rw [origin_after run held]
    exact ⟨rfl, formed⟩
  refine ⟨session, run, restored, ?_⟩
  refine (memo_invisible_iff id [.resolve lastSave] session lastSave run ?_ current).mpr ?_
  · exact ⟨first, fun _ _ => trivial⟩
  · exact fun misled => nomatch misled.2

/-- The second match, asked for again, is not found; and a text that has become exact on a page
with the same counters is not found either. -/
theorem repeated_position_fails :
    ((∃ error, (resolveElements id (resolveElements id .empty secondSave).2 secondSave).1 =
        .error error) ∧
      secondSave.direct id = .ok [saveButton 1 "save" "f:2"]) ∧ (resolveElements id
        (resolveElements id .empty (saveCall [] (savePage "save draft" "open"))).2
        (saveCall [] (savePage "save draft" "save"))).1 = .ok [saveButton 0 "save draft" "f:1"] ∧
      (saveCall [] (savePage "save draft" "save")).direct id = .ok [saveButton 1 "save" "f:2"] := by
  have direct : secondSave.direct id = .ok [saveButton 1 "save" "f:2"] := rfl
  have repeated := resolved_after secondSave secondSave
    (show parseLocator secondSave.args = .ok (saveLocator (some (.nth 1))) from rfl)
    rfl rfl rfl direct (by decide)
    (show rehydrateMemoizedElements id (savePage "save" "save") _ _ =
      some [saveButton 1 "save" "f:2"] from rfl)
  have changed := resolved_after (saveCall [] (savePage "save draft" "open"))
    (saveCall [] (savePage "save draft" "save"))
    (show parseLocator (saveCall [] (savePage "save draft" "open")).args =
      .ok (saveLocator none) from rfl) rfl rfl rfl
    (show (saveCall [] (savePage "save draft" "open")).direct id =
      .ok [saveButton 0 "save draft" "f:1"] from rfl) (by decide)
    (show rehydrateMemoizedElements id (savePage "save draft" "save") _ _ =
      some [saveButton 0 "save draft" "f:1"] from rfl)
  exact ⟨⟨⟨_, repeated⟩, direct⟩, changed, rfl⟩

end Rub
