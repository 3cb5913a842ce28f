import AirBnbClone.Execution
import AirBnbClone.NumericFields
import AirBnbClone.PostingLists

/-!
# Searches that overtake each other

Both search fields start a search for every text they are given and cancel none, so that the replies
may come in any order. A reply is shown when it comes, whichever text it is for.
-/

namespace AirBnbClone

open Async

/-- A handler of search texts; it awaits the search for a text. -/
abbrev SearchM (σ ρ α : Type) := Prog (fun _ : String => ρ) σ DartError α

structure ExploreState where
  postings : List PostingGridItemModel := []
  isLoading : Bool := false
  errorMessage : Option String := none

/-- The search and what becomes of its reply; `describe` is `toString` of an error. -/
def ExploreCubit.search (text : DoubleText) (describe : DartError → String) (searchTxt : String) :
    SearchM ExploreState (List (Managed Posting)) Unit :=
  Prog.tryCatch
    (do
      let results ← Prog.call searchTxt
      let postings ← Prog.done (createPostings text results)
      Prog.emitWith (fun _ => { postings, isLoading := false }))
    (fun e => Prog.emitWith (fun _ =>
      { postings := [], isLoading := false, errorMessage := some (describe e) }))

def ExploreCubit.searchPostings (text : DoubleText) (describe : DartError → String)
    (searchTxt : String) : SearchM ExploreState (List (Managed Posting)) Unit := do
  Prog.emitWith (fun s => { postings := s.postings, isLoading := true })
  search text describe searchTxt

structure SearchPropertyLocationState where
  places : List Place := []

def SearchPropertyLocationCubit.searchPlace (searchTxt : String) :
    SearchM SearchPropertyLocationState (List Place) Unit :=
  if searchTxt.isEmpty then Prog.emitWith (fun _ => {})
  else do
    let places ← Prog.call searchTxt
    Prog.emitWith (fun _ => { places })

section Screen

variable {σ ρ : Type}

structure Search (σ ρ : Type) where
  number : ℕ
  program : SearchM σ ρ Unit

structure SearchScreen (σ ρ : Type) where
  state : σ
  pending : List (Search σ ρ) := []
  /-- How many texts were delivered. -/
  delivered : ℕ := 0
  /-- The last of them, and the reply to its search. -/
  newest : Option (String × Option (Except DartError ρ)) := none

inductive SearchEvent (ρ : Type)
  | deliver (searchTxt : String)
  | answer (i : ℕ) (reply : Except DartError ρ)

namespace SearchScreen

def advance (scr : SearchScreen σ ρ) (q : Search σ ρ) : SearchScreen σ ρ := { scr with
  state := (Prog.settle q.program scr.state).2
  pending := match (Prog.settle q.program scr.state).1 with
    | .done _ => scr.pending
    | program => scr.pending ++ [⟨q.number, program⟩] }

def step (handler : String → SearchM σ ρ Unit) (scr : SearchScreen σ ρ) :
    SearchEvent ρ → Option (SearchScreen σ ρ)
  | .deliver searchTxt =>
      some ({ scr with
        delivered := scr.delivered + 1
        newest := some (searchTxt, none) }.advance ⟨scr.delivered, handler searchTxt⟩)
  | .answer i reply =>
      match scr.pending[i]? with
      | some ⟨n, .await _ k⟩ =>
          some ({ scr with
            pending := scr.pending.eraseIdx i
            newest := if n + 1 = scr.delivered
              then scr.newest.map (fun t : String × _ => (t.1, some reply))
              else scr.newest }.advance ⟨n, k reply⟩)
      | _ => none

def NewestPending (scr : SearchScreen σ ρ) : Prop := ∃ q ∈ scr.pending, q.number + 1 = scr.delivered

end SearchScreen

end Screen

namespace ExploreCubit

def outcome (text : DoubleText) (describe : DartError → String)
    (reply : Except DartError (List (Managed Posting))) : ExploreState :=
  match reply.bind (createPostings text) with
  | .ok postings => { postings }
  | .error e => { errorMessage := some (describe e) }

/-- When all searches are answered the last text's reply is shown, and the loading ends with the
last search. -/
structure LatestWins (text : DoubleText) (describe : DartError → String)
    (scr : SearchScreen ExploreState (List (Managed Posting))) : Prop where
  shown : scr.pending = [] → ∀ searchTxt reply, scr.newest = some (searchTxt, reply) →
    ∃ r, reply = some r ∧ scr.state = outcome text describe r
  loaded : scr.state.isLoading = false → scr.pending = []

/-- A search is answered only when it is the only one. -/
def AnsweredAlone (scr : SearchScreen ExploreState (List (Managed Posting))) :
    SearchEvent (List (Managed Posting)) → Prop
  | .deliver _ => True
  | .answer i _ =>
      match scr.pending[i]? with
      | some ⟨_, .await _ _⟩ => scr.pending.length = 1
      | _ => True

end ExploreCubit

namespace SearchPropertyLocationCubit

/-- When all searches are answered the last text's places are shown, none for the empty text. -/
def LatestWins (scr : SearchScreen SearchPropertyLocationState (List Place)) : Prop :=
  scr.pending = [] → ∀ searchTxt reply, scr.newest = some (searchTxt, reply) →
    if searchTxt = "" then scr.state.places = [] else reply = some (.ok scr.state.places)

/-- A search succeeds only while that for the last text is pending, or brings what is shown already;
the search for the last text does not fail. -/
def AnsweredInTime (scr : SearchScreen SearchPropertyLocationState (List Place)) :
    SearchEvent (List Place) → Prop
  | .deliver _ => True
  | .answer i reply =>
      match scr.pending[i]?, reply with
      | some ⟨_, .await _ _⟩, .ok places => scr.NewestPending ∨ places = scr.state.places
      | some ⟨n, .await _ _⟩, .error _ => n + 1 ≠ scr.delivered
      | _, _ => True

end SearchPropertyLocationCubit

section Explore

namespace ExploreCubit

variable {text : DoubleText} {describe : DartError → String}
  {scr scr' : SearchScreen ExploreState (List (Managed Posting))}
  {e : SearchEvent (List (Managed Posting))}

/-- A reply ends the search. -/
theorem settle_reply {searchTxt op : String} {k} (h : search text describe searchTxt = .await op k)
    (reply : Except DartError (List (Managed Posting))) (s : ExploreState) :
    Prog.settle (k reply) s = (.done (.ok ()), outcome text describe reply) := by
  cases h
  cases reply with
  | error e => rfl
  | ok results =>
      unfold outcome
      change Prog.settle (Prog.tryCatch (Prog.bind (Prog.done (createPostings text results)) _) _) s
        = (_, match createPostings text results with
          | .ok postings => _
          | .error e => _)
      cases createPostings text results <;> rfl

structure WellFormed (text : DoubleText) (describe : DartError → String)
    (scr : SearchScreen ExploreState (List (Managed Posting))) : Prop where
  searches : ∀ q ∈ scr.pending, ∃ searchTxt, q.program = search text describe searchTxt
  loading : scr.state.isLoading = true → scr.NewestPending

theorem isLoading_outcome (reply : Except DartError (List (Managed Posting))) :
    (outcome text describe reply).isLoading = false := by
  unfold outcome
  split <;> rfl

/-- After a reply the search is gone and the outcome is in the state. -/
theorem step_answer (hwf : WellFormed text describe scr) {i n : ℕ} {op : String} {k}
    {reply : Except DartError (List (Managed Posting))}
    (hsearch : scr.pending[i]? = some ⟨n, .await op k⟩) :
    scr.step (searchPostings text describe) (.answer i reply) = some {
      state := outcome text describe reply
      pending := scr.pending.eraseIdx i
      delivered := scr.delivered
      newest := if n + 1 = scr.delivered
        then scr.newest.map (fun t : String × _ => (t.1, some reply)) else scr.newest } := by
  obtain ⟨searchTxt, hprogram⟩ := hwf.searches _ (List.mem_of_getElem? hsearch)
  simp only [SearchScreen.step, hsearch, SearchScreen.advance,
    settle_reply hprogram.symm reply scr.state]

theorem answer_cases {i : ℕ} {reply : Except DartError (List (Managed Posting))}
    (h : scr.step (searchPostings text describe) (.answer i reply) = some scr') :
    ∃ n op k, scr.pending[i]? = some ⟨n, .await op k⟩ := by
  simp only [SearchScreen.step] at h
  split at h
  · rename_i n op k hsearch
    exact ⟨n, op, k, hsearch⟩
  · cases h

theorem wellFormed_step (hwf : WellFormed text describe scr)
    (h : scr.step (searchPostings text describe) e = some scr') :
    WellFormed text describe scr' := by
  cases e with
  | deliver searchTxt =>
      cases h
      constructor
      · intro q hq
        rcases List.mem_append.mp hq with hq | hq
        · exact hwf.searches q hq
        · cases List.mem_singleton.mp hq
          exact ⟨searchTxt, rfl⟩
      · exact fun _ => ⟨_, List.mem_append_right _ (List.mem_singleton_self _), rfl⟩
  | answer i reply =>
      obtain ⟨n, op, k, hsearch⟩ := answer_cases h
      rw [step_answer hwf hsearch] at h
      cases h
      constructor
      · exact fun q hq => hwf.searches q (List.mem_of_mem_eraseIdx hq)
      · exact fun htrue => absurd ((isLoading_outcome reply).symm.trans htrue) Bool.false_ne_true

/-- A reply to the only search is the reply to the last text. -/
theorem newest_of_alone (hwf : WellFormed text describe scr) (hwins : LatestWins text describe scr)
    {i n : ℕ} {op : String} {k} (hsearch : scr.pending[i]? = some ⟨n, .await op k⟩)
    (halone : scr.pending.length = 1) : n + 1 = scr.delivered := by
  have hmem := List.mem_of_getElem? hsearch
  obtain ⟨q', hq', hnumber⟩ : scr.NewestPending := by
    apply hwf.loading
    by_contra hfalse
    have hnil := hwins.loaded (Bool.eq_false_iff.mpr hfalse)
    exact List.not_mem_nil (hnil ▸ hmem)
  obtain ⟨q, hq⟩ := List.length_eq_one_iff.mp halone
  rw [hq, List.mem_singleton] at hq' hmem
  rw [← hnumber, hq', ← hmem]

theorem latestWins_step_iff (hwf : WellFormed text describe scr)
    (hwins : LatestWins text describe scr)
    (h : scr.step (searchPostings text describe) e = some scr') :
    LatestWins text describe scr' ↔ AnsweredAlone scr e := by
  cases e with
  | deliver searchTxt =>
      cases h
      refine iff_of_true ⟨?_, nofun⟩ trivial
      exact fun hnil => absurd hnil (List.append_ne_nil_of_right_ne_nil _ (List.cons_ne_nil _ _))
  | answer i reply =>
      obtain ⟨n, op, k, hsearch⟩ := answer_cases h
      rw [step_answer hwf hsearch] at h
      cases h
      simp only [AnsweredAlone, hsearch]
      have hi : i < scr.pending.length := (List.getElem?_eq_some_iff.mp hsearch).1
      have hlength := List.length_eraseIdx_of_lt hi
      constructor
      · intro hwins'
        have hnil : scr.pending.eraseIdx i = [] := hwins'.loaded (isLoading_outcome reply)
        rw [hnil, List.length_nil] at hlength
        omega
      · intro halone
        refine ⟨?_, fun _ => ?_⟩
        · intro _ searchTxt reply' hnewest
          rw [if_pos (newest_of_alone hwf hwins hsearch halone)] at hnewest
          obtain ⟨t, -, ht⟩ := Option.map_eq_some_iff.mp hnewest
          cases ht
          exact ⟨reply, rfl, rfl⟩
        · rw [halone] at hlength
          exact List.length_eq_zero_iff.mp hlength

theorem answeredAlone_of_disabled (h : scr.step (searchPostings text describe) e = none) :
    AnsweredAlone scr e := by
  cases e with
  | deliver searchTxt => trivial
  | answer i reply =>
      simp only [SearchScreen.step] at h
      simp only [AnsweredAlone]
      split at h
      · cases h
      · rename_i hnone
        split
        · rename_i n op k hsearch
          exact absurd hsearch (hnone n op k)
        · trivial

/-- The searches are shown in order exactly when no two of them are under way at a reply. -/
theorem latestWins_iff_answeredAlone (text : DoubleText) (describe : DartError → String)
    (events : List (SearchEvent (List (Managed Posting)))) :
    Execution.Always (SearchScreen.step (searchPostings text describe)) (LatestWins text describe)
        { state := {} } events ↔
      Execution.StepsMeet (SearchScreen.step (searchPostings text describe)) AnsweredAlone
        { state := {} } events :=
  Execution.always_iff_stepsMeet (R := WellFormed text describe)
    (fun _ _ _ hwf h => wellFormed_step hwf h)
    (fun _ _ h => answeredAlone_of_disabled h)
    (fun _ _ _ hwf hwins h => latestWins_step_iff hwf hwins h)
    events ⟨nofun, fun _ => rfl⟩ ⟨nofun, nofun⟩

end ExploreCubit

end Explore

section Location

namespace SearchPropertyLocationCubit

variable {scr scr' : SearchScreen SearchPropertyLocationState (List Place)}
  {e : SearchEvent (List Place)}

theorem searchPlace_of_ne {searchTxt : String} (h : searchTxt ≠ "") :
    searchPlace searchTxt = .await searchTxt (fun reply => Prog.bind (.done reply)
      (fun places => Prog.emitWith (fun _ => { places }))) := by
  have hempty : ¬ searchTxt.isEmpty = true := by simpa using h
  rw [searchPlace, if_neg hempty]
  rfl

theorem step_deliver {searchTxt : String} (h : searchTxt ≠ "") :
    scr.step searchPlace (.deliver searchTxt) = some {
      state := scr.state
      pending := scr.pending ++ [⟨scr.delivered, searchPlace searchTxt⟩]
      delivered := scr.delivered + 1
      newest := some (searchTxt, none) } := by
  simp only [SearchScreen.step, SearchScreen.advance, searchPlace_of_ne h]
  rfl

/-- The searches are for texts, the newest of them for the last; once that is answered its places
are shown. -/
structure InTime (scr : SearchScreen SearchPropertyLocationState (List Place)) : Prop where
  searches : ∀ q ∈ scr.pending, q.number < scr.delivered ∧ ∃ searchTxt, searchTxt ≠ "" ∧
    q.program = searchPlace searchTxt ∧
    (q.number + 1 = scr.delivered → ∃ reply, scr.newest = some (searchTxt, reply))
  shown : ¬ scr.NewestPending → ∀ searchTxt reply, scr.newest = some (searchTxt, reply) →
    if searchTxt = "" then scr.state.places = [] else reply = some (.ok scr.state.places)

theorem inTime_deliver (h : InTime scr) (searchTxt : String)
    (hstep : scr.step searchPlace (.deliver searchTxt) = some scr') : InTime scr' := by
  have hold : ∀ q ∈ scr.pending, q.number < scr.delivered + 1 ∧ ∃ searchTxt', searchTxt' ≠ "" ∧
      q.program = searchPlace searchTxt' ∧ (q.number + 1 = scr.delivered + 1 →
        ∃ reply : Option (Except DartError (List Place)),
          some (searchTxt, none) = some (searchTxt', reply)) := by
    intro q hq
    obtain ⟨hlt, searchTxt', hne, hprogram, -⟩ := h.searches q hq
    exact ⟨by omega, searchTxt', hne, hprogram, fun hlast => absurd hlast (by omega)⟩
  by_cases hempty : searchTxt = ""
  · subst hempty
    cases hstep
    refine ⟨hold, ?_⟩
    intro _ searchTxt reply hnewest
    cases hnewest
    rw [if_pos rfl]
    rfl
  · rw [step_deliver hempty] at hstep
    cases hstep
    refine ⟨?_, ?_⟩
    · intro q hq
      rcases List.mem_append.mp hq with hq | hq
      · exact hold q hq
      · cases List.mem_singleton.mp hq
        exact ⟨Nat.lt_succ_self _, searchTxt, hempty, rfl, fun _ => ⟨none, rfl⟩⟩
    · intro hnot
      exact absurd ⟨_, List.mem_append_right _ (List.mem_singleton_self _), rfl⟩ hnot

/-- Answering an older search leaves the newest pending. -/
theorem newestPending_of_older {i n : ℕ} {program} {state : SearchPropertyLocationState} {newest}
    (hsearch : scr.pending[i]? = some ⟨n, program⟩) (hne : n + 1 ≠ scr.delivered)
    (h : scr.NewestPending) :
    SearchScreen.NewestPending ⟨state, scr.pending.eraseIdx i, scr.delivered, newest⟩ := by
  obtain ⟨q, hq, hnumber⟩ := h
  obtain ⟨j, hj⟩ := List.mem_iff_getElem?.mp hq
  refine ⟨q, List.mem_eraseIdx_iff_getElem?.mpr ⟨j, ?_, hj⟩, hnumber⟩
  rintro rfl
  cases hj.symm.trans hsearch
  exact hne hnumber

theorem inTime_answer (h : InTime scr) {i : ℕ} {reply : Except DartError (List Place)}
    (hin : AnsweredInTime scr (.answer i reply))
    (hstep : scr.step searchPlace (.answer i reply) = some scr') : InTime scr' := by
  simp only [SearchScreen.step] at hstep
  split at hstep
  · rename_i n op k hsearch
    cases hstep
    simp only [AnsweredInTime, hsearch] at hin
    obtain ⟨-, searchTxt, hne, hprogram, hlast⟩ := h.searches _ (List.mem_of_getElem? hsearch)
    rw [searchPlace_of_ne hne] at hprogram
    cases hprogram
    have hsearches : ∀ q ∈ scr.pending.eraseIdx i, q.number < scr.delivered ∧ ∃ searchTxt,
        searchTxt ≠ "" ∧ q.program = searchPlace searchTxt ∧ (q.number + 1 = scr.delivered →
          ∃ reply', (if n + 1 = scr.delivered
            then scr.newest.map (fun t : String × _ => (t.1, some reply)) else scr.newest) =
              some (searchTxt, reply')) := by
      intro q hq
      obtain ⟨hlt, searchTxt', hne', hprogram', hlast'⟩ :=
        h.searches q (List.mem_of_mem_eraseIdx hq)
      refine ⟨hlt, searchTxt', hne', hprogram', fun hnumber => ?_⟩
      obtain ⟨reply', hnewest⟩ := hlast' hnumber
      rw [hnewest]
      split_ifs
      · exact ⟨some reply, rfl⟩
      · exact ⟨reply', rfl⟩
    cases reply with
    | ok places =>
        refine ⟨hsearches, fun hnot => ?_⟩
        by_cases hnumber : n + 1 = scr.delivered
        · -- the last text's own reply
          obtain ⟨reply', hnewest⟩ := hlast hnumber
          intro t r ht
          change (if n + 1 = scr.delivered then _ else _) = _ at ht
          rw [if_pos hnumber, hnewest] at ht
          cases ht
          rw [if_neg hne]
          rfl
        · intro t r ht
          change (if n + 1 = scr.delivered then _ else _) = _ at ht
          rw [if_neg hnumber] at ht
          have hold : ¬ scr.NewestPending :=
            fun hpending => hnot (newestPending_of_older hsearch hnumber hpending)
          have hsame : places = scr.state.places := hin.resolve_left hold
          have hshown := h.shown hold t r ht
          rwa [← hsame] at hshown
    | error e =>
        refine ⟨hsearches, fun hnot => ?_⟩
        have hold : ¬ scr.NewestPending :=
          fun hpending => hnot (newestPending_of_older hsearch hin hpending)
        intro t r ht
        change (if n + 1 = scr.delivered then _ else _) = _ at ht
        rw [if_neg hin] at ht
        exact h.shown hold t r ht
  · cases hstep

theorem inTime_step (h : InTime scr) (hin : AnsweredInTime scr e)
    (hstep : scr.step searchPlace e = some scr') : InTime scr' := by
  cases e with
  | deliver searchTxt => exact inTime_deliver h searchTxt hstep
  | answer i reply => exact inTime_answer h hin hstep

/-- The last text's places are shown when no search comes after its time. -/
theorem latestWins_of_inTime (events : List (SearchEvent (List Place)))
    (h : Execution.StepsMeet (SearchScreen.step searchPlace) AnsweredInTime { state := {} }
      events) :
    Execution.Always (SearchScreen.step searchPlace) LatestWins { state := {} } events := by
  have hstart : InTime { state := {} } := ⟨nofun, fun _ => nofun⟩
  have halways := Execution.always_of_stepsMeet
    (fun _ _ _ hin hC hstep => inTime_step hin hC hstep) hstart h
  refine halways.mono (fun scr hin hnil => hin.shown ?_)
  rintro ⟨q, hq, -⟩
  exact List.not_mem_nil (hnil ▸ hq)

end SearchPropertyLocationCubit

end Location

/-- The latest search wins on the Explore screen exactly when no reply comes while another search is
under way. For the places it is enough that none comes after that for the last text. -/
theorem latest_search_wins (text : DoubleText) (describe : DartError → String)
    (explored : List (SearchEvent (List (Managed Posting))))
    (located : List (SearchEvent (List Place))) :
    (Execution.Always (SearchScreen.step (ExploreCubit.searchPostings text describe))
        (ExploreCubit.LatestWins text describe) { state := {} } explored ↔
      Execution.StepsMeet (SearchScreen.step (ExploreCubit.searchPostings text describe))
        ExploreCubit.AnsweredAlone { state := {} } explored) ∧
    (Execution.StepsMeet (SearchScreen.step SearchPropertyLocationCubit.searchPlace)
        SearchPropertyLocationCubit.AnsweredInTime { state := {} } located →
      Execution.Always (SearchScreen.step SearchPropertyLocationCubit.searchPlace)
        SearchPropertyLocationCubit.LatestWins { state := {} } located) :=
  ⟨ExploreCubit.latestWins_iff_answeredAlone text describe explored,
    SearchPropertyLocationCubit.latestWins_of_inTime located⟩

def lakeHouse : Place := ⟨"1", some "Lake house", none, none, none, none, none⟩

/-- Two searches for places that are answered in order. -/
theorem latest_place_wins :
    Execution.Always (SearchScreen.step SearchPropertyLocationCubit.searchPlace)
      SearchPropertyLocationCubit.LatestWins { state := {} }
      [.deliver "La", .deliver "Lake", .answer 0 (.ok []), .answer 0 (.ok [lakeHouse])] := by
  apply (latest_search_wins wholeText (fun _ => "offline") [] _).2
  refine Execution.stepsMeet_cons trivial rfl (Execution.stepsMeet_cons trivial rfl ?_)
  refine Execution.stepsMeet_cons (.inl ?_) rfl (Execution.stepsMeet_cons (.inl ?_) rfl trivial)
  · exact ⟨_, List.mem_cons_of_mem _ List.mem_cons_self, rfl⟩
  · exact ⟨_, List.mem_cons_self, rfl⟩

/-- The reply for the first text comes after that for the second, or after the empty text, and what
it brings stays. -/
theorem first_search_wins :
    (∃ scr, Execution.run
        (SearchScreen.step (ExploreCubit.searchPostings wholeText (fun _ => "offline")))
        { state := {} } [.deliver "Vil", .deliver "Villa", .answer 1 (.ok []),
          .answer 0 (.error .unavailable)] = some scr ∧
      scr.pending = [] ∧ scr.newest = some ("Villa", some (.ok [])) ∧
      scr.state.errorMessage = some "offline" ∧
      ¬ Execution.Always
        (SearchScreen.step (ExploreCubit.searchPostings wholeText (fun _ => "offline")))
        (ExploreCubit.LatestWins wholeText (fun _ => "offline")) { state := {} }
        [.deliver "Vil", .deliver "Villa", .answer 1 (.ok []), .answer 0 (.error .unavailable)]) ∧
    ¬ Execution.Always (SearchScreen.step SearchPropertyLocationCubit.searchPlace)
      SearchPropertyLocationCubit.LatestWins { state := {} }
      [.deliver "La", .deliver "", .answer 0 (.ok [lakeHouse])] := by
  refine ⟨⟨_, rfl, rfl, rfl, rfl, ?_⟩, ?_⟩
  · intro h
    have hthird := ((h.2 _ rfl).2 _ rfl).2 _ rfl
    exact absurd (hthird.head.loaded rfl) (List.cons_ne_nil _ _)
  · intro h
    have hlast := ((h.2 _ rfl).2 _ rfl).2 _ rfl
    exact absurd (hlast rfl "" none rfl) (List.cons_ne_nil _ _)

end AirBnbClone
