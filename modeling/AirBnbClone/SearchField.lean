import AirBnbClone.SearchOrder
import AirBnbClone.StreamExtension

/-!
# From the search field to the search

Both search cubits are given a text at every change of their field and search, through
`debounceTime` and `distinct`, for some of these texts only. A text is searched for once it has
stood in the field for half a second, never twice in a row, and the text that is left in the field
is searched for in any case; so the screen ends with what was found for it.
-/

namespace AirBnbClone

open Debounce

section Texts

variable {α : Type} [DecidableEq α]

/-- `Stream.distinct` leaves out an event that equals the one before it. -/
def distinct : Option α → List (Timed α) → List (Timed α)
  | _, [] => []
  | previous, e :: es =>
      if previous = some e.value then distinct previous es else e :: distinct (some e.value) es

theorem distinct_sublist (previous : Option α) (es : List (Timed α)) :
    (distinct previous es).Sublist es := by
  induction es generalizing previous with
  | nil => exact List.Sublist.refl _
  | cons e es ih =>
      unfold distinct
      split_ifs
      · exact (ih previous).cons _
      · exact (ih _).cons_cons _

/-- Leaving out repetitions keeps the last value. -/
theorem getLast?_distinct (previous : Option α) (es : List (Timed α)) :
    ((distinct previous es).getLast?.map Timed.value).or previous =
      (es.getLast?.map Timed.value).or previous := by
  induction es generalizing previous with
  | nil => rfl
  | cons e es ih =>
      unfold distinct
      split_ifs with h
      · rw [ih, h, List.getLast?_cons]
        cases es.getLast? <;> rfl
      · have hlast := ih (some e.value)
        rw [List.getLast?_cons, List.getLast?_cons]
        cases hd : (distinct (some e.value) es).getLast? <;> cases he : es.getLast? <;>
          rw [hd, he] at hlast <;> exact hlast

theorem isChain_distinct (previous : Option α) (es : List (Timed α)) :
    (distinct previous es).IsChain (fun x y => x.value ≠ y.value) ∧
      ∀ x, (distinct previous es).head? = some x → previous ≠ some x.value := by
  induction es generalizing previous with
  | nil => exact ⟨List.IsChain.nil, nofun⟩
  | cons e es ih =>
      unfold distinct
      split_ifs with h
      · exact ih previous
      · obtain ⟨hchain, hhead⟩ := ih (some e.value)
        refine ⟨List.isChain_cons.mpr ⟨?_, hchain⟩, ?_⟩
        · intro x hx heq
          exact hhead x hx (congrArg some heq)
        · intro x hx
          cases hx
          exact h

end Texts

/-- `_searchTxtController.debounceTime(..).distinct()`. -/
def searched (op : Operator) (typed : List (Timed String)) : List (Timed String) :=
  distinct none (debounceTime op 500 typed)

/-- The texts that are searched for, against those that were typed. -/
structure SearchesField (typed searched : List (Timed String)) : Prop where
  stood : ∀ x ∈ searched, ∃ before e after, typed = before ++ e :: after ∧ x.value = e.value ∧
    x.time = e.time + 500 ∧ ∀ e' ∈ after, e.time + 500 ≤ e'.time
  spaced : searched.Pairwise (fun x y => x.time + 500 ≤ y.time)
  changes : searched.IsChain (fun x y => x.value ≠ y.value)
  last : searched.getLast?.map Timed.value = typed.getLast?.map Timed.value

theorem searchesField_searched (op : Operator) {typed : List (Timed String)}
    (htyped : InOrder typed) : SearchesField typed (searched op typed) := by
  have hdelivers := op.delivers (fun (s : Unit) (_ : String) => (s, 500)) () typed
  have hsub := distinct_sublist none (debounceTime op 500 typed)
  constructor
  · intro x hx
    obtain ⟨before, e, after, s, hsplit, rfl, hafter⟩ :=
      hdelivers.exists_event htyped (hsub.subset hx)
    exact ⟨before, e, after, hsplit, rfl, rfl, hafter⟩
  · exact (hdelivers.spaced htyped (fun _ _ _ => le_rfl)).sublist hsub
  · exact (isChain_distinct none _).1
  · have hlast := getLast?_distinct none (debounceTime op 500 typed)
    rw [Option.or_none, Option.or_none] at hlast
    refine hlast.trans ?_
    cases he : typed.getLast? with
    | none =>
        have hnil := (List.getLast?_eq_none_iff.mp he)
        subst hnil
        have hvalues := hdelivers.values_sublist
        rw [List.map_nil, List.sublist_nil, List.map_eq_nil_iff] at hvalues
        rw [debounceTime, hvalues]
        rfl
    | some e =>
        obtain ⟨s, hs⟩ := hdelivers.getLast?_eq he
        rw [debounceTime, hs]
        rfl

namespace SearchEvent

variable {ρ : Type}

def text? : SearchEvent ρ → Option String
  | deliver searchTxt => some searchTxt
  | answer _ _ => none

def texts (events : List (SearchEvent ρ)) : List String := events.filterMap text?

end SearchEvent

section Screens

variable {σ ρ : Type} {handler : String → SearchM σ ρ Unit} {scr scr' : SearchScreen σ ρ}

/-- The newest text of a screen is the one that was delivered last. -/
theorem newest_step {e : SearchEvent ρ} (h : scr.step handler e = some scr') :
    scr'.newest.map Prod.fst = e.text?.or (scr.newest.map Prod.fst) := by
  cases e with
  | deliver searchTxt =>
      cases h
      rfl
  | answer i reply =>
      simp only [SearchScreen.step] at h
      split at h
      · cases h
        change (if _ then _ else _ : Option _).map Prod.fst = _
        split_ifs
        · cases scr.newest <;> rfl
        · rfl
      · cases h

theorem newest_run {events : List (SearchEvent ρ)}
    (h : Execution.run (SearchScreen.step handler) scr events = some scr') :
    scr'.newest.map Prod.fst =
      (SearchEvent.texts events).getLast?.or (scr.newest.map Prod.fst) := by
  induction events generalizing scr with
  | nil =>
      cases h
      rfl
  | cons e events ih =>
      obtain ⟨scr₁, hstep, hrun⟩ := Execution.run_cons_eq_some h
      rw [ih hrun, newest_step hstep]
      cases e with
      | deliver searchTxt =>
          change _ = (searchTxt :: SearchEvent.texts events).getLast?.or _
          rw [List.getLast?_cons]
          cases (SearchEvent.texts events).getLast? <;> rfl
      | answer i reply => rfl

/-- When the delivered texts are those searched for in a field, the newest is what is left in it. -/
theorem newest_of_typed {typed : List (Timed String)} {op : Operator} (htyped : InOrder typed)
    {e : Timed String} (he : typed.getLast? = some e) {events : List (SearchEvent ρ)}
    (hevents : SearchEvent.texts events = (searched op typed).map Timed.value)
    (h : Execution.run (SearchScreen.step handler) scr events = some scr') :
    ∃ reply, scr'.newest = some (e.value, reply) := by
  have hnewest := newest_run h
  rw [hevents, List.getLast?_map, (searchesField_searched op htyped).last, he] at hnewest
  obtain ⟨⟨searchTxt, reply⟩, hpair, hfst⟩ := Option.map_eq_some_iff.mp hnewest
  refine ⟨reply, ?_⟩
  rw [hpair, ← hfst]

end Screens

/-- Whatever is typed and whenever, when the searches it leads to are answered one at a time and all
of them have been, the Explore screen shows what the search for the text in the field came to. -/
theorem explore_shows_field (op : Operator) (text : DoubleText) (describe : DartError → String)
    (typed : List (Timed String)) (e : Timed String)
    (events : List (SearchEvent (List (Managed Posting))))
    (scr : SearchScreen ExploreState (List (Managed Posting))) (htyped : InOrder typed)
    (he : typed.getLast? = some e)
    (hevents : SearchEvent.texts events = (searched op typed).map Timed.value)
    (halone : Execution.StepsMeet (SearchScreen.step (ExploreCubit.searchPostings text describe))
      ExploreCubit.AnsweredAlone { state := {} } events)
    (hrun : Execution.run (SearchScreen.step (ExploreCubit.searchPostings text describe))
      { state := {} } events = some scr) (hdone : scr.pending = []) :
    SearchesField typed (searched op typed) ∧ ∃ reply, scr.newest = some (e.value, some reply) ∧
      scr.state = ExploreCubit.outcome text describe reply := by
  refine ⟨searchesField_searched op htyped, ?_⟩
  obtain ⟨answer, hnewest⟩ := newest_of_typed htyped he hevents hrun
  have hwins := ((ExploreCubit.latestWins_iff_answeredAlone text describe events).mpr halone).final
    hrun
  obtain ⟨reply, rfl, hstate⟩ := hwins.shown hdone e.value answer hnewest
  exact ⟨reply, hnewest, hstate⟩

def typedVi : List (Timed String) := [⟨0, ""⟩, ⟨700, "V"⟩, ⟨800, "Vi"⟩]

def searchesVi : List (SearchEvent (List (Managed Posting))) :=
  [.deliver "", .answer 0 (.ok []), .deliver "Vi", .answer 0 (.error .unavailable)]

theorem explore_shows_field_vi : ∃ scr,
    Execution.run (SearchScreen.step (ExploreCubit.searchPostings wholeText (fun _ => "offline")))
      { state := {} } searchesVi = some scr ∧ scr.state.errorMessage = some "offline" := by
  have halone : Execution.StepsMeet
      (SearchScreen.step (ExploreCubit.searchPostings wholeText (fun _ => "offline")))
      ExploreCubit.AnsweredAlone { state := {} } searchesVi :=
    Execution.stepsMeet_cons trivial rfl (Execution.stepsMeet_cons rfl rfl
      (Execution.stepsMeet_cons trivial rfl (Execution.stepsMeet_cons rfl rfl trivial)))
  refine ⟨_, rfl, ?_⟩
  obtain ⟨-, reply, hnewest, hstate⟩ := explore_shows_field Operator.eager wholeText
    (fun _ => "offline") typedVi ⟨800, "Vi"⟩ searchesVi _ (by decide) rfl (by decide) halone rfl rfl
  cases hnewest
  rw [hstate]
  rfl

end AirBnbClone
