import AirBnbClone.BookPostingCubit
import AirBnbClone.Execution

/-!
# What the guest chose while the bookings were loading

The booking screen can be used before the bookings of the posting have arrived. The state that is
emitted then keeps the window of the calendar and nothing else: the dates are those the screen was
opened with and the tag is the first one.
-/

namespace AirBnbClone

open Async BookPostingState BookPostingCubit

/-- The tag the guest chose last and the last date picked for each tag. -/
structure Choices where
  tag : Option String := none
  picked : DartMap DateTime := ∅

/-- Until the guest chooses one, dates are picked for the tag the screen starts with. -/
def Choices.currentTag (c : Choices) : String := c.tag.getD "check_in"

inductive ChoiceEvent
  | setCurrentTag (tag : String)
  | updateSelectedDate (date : DateTime)
  | bookingsArrive (bookings : List (Managed Booking))

structure ChoiceScreen where
  state : BookPostingState
  choices : Choices
  arrived : Option (Finset DateTime)

namespace ChoiceScreen

def start (now : DateTime) : ChoiceScreen := ⟨initial now, {}, none⟩

variable (z : Zone) (name : Option String) (datesParam : Option (DartMap DateTime)) (now : DateTime)

/-- The bookings arrive once. -/
def step (scr : ChoiceScreen) : ChoiceEvent → Option ChoiceScreen
  | .setCurrentTag tag => some { scr with
      state := setCurrentTag tag scr.state
      choices := { scr.choices with tag := some tag } }
  | .updateSelectedDate date => some { scr with
      state := updateSelectedDate date scr.state
      choices := { scr.choices with
        picked := scr.choices.picked.insert scr.choices.currentTag date } }
  | .bookingsArrive bookings =>
      if scr.arrived = none then some { scr with
        state := loaded name (initialDates datesParam now)
          (unselectableDates z bookings) scr.state
        arrived := some (unselectableDates z bookings) }
      else none

/-- The state shows the tag and the dates that were chosen, and the days that were loaded. -/
structure ShowsChoices (scr : ChoiceScreen) : Prop where
  tag : ∀ t, scr.choices.tag = some t → scr.state.currentTag = t
  picked : ∀ t date, scr.choices.picked.lookup t = some date →
    scr.state.dates.lookup t = some date
  unselectable : ∀ days, scr.arrived = some days → scr.state.unselectableDates = days

/-- When the bookings arrive, the guest has chosen no other tag than the first, and has picked no
other date than the one the screen was opened with. -/
def ArrivesUnnoticed (scr : ChoiceScreen) : ChoiceEvent → Prop
  | .bookingsArrive _ => scr.arrived = none →
      (∀ t, scr.choices.tag = some t → t = "check_in") ∧
      ∀ t date, scr.choices.picked.lookup t = some date →
        (initialDates datesParam now).lookup t = some date
  | _ => True

section Steps

variable {z name datesParam now} {scr scr' : ChoiceScreen} {e : ChoiceEvent}

/-- The event emits what `_setupInitialValues` emits when it is answered by the bookings. -/
theorem exec_setupInitialValues {posting : Managed Posting} (hvalid : posting.isValid = true)
    (bookings : List (Managed Booking)) (s : BookPostingState)
    {handle : (op : Call) → Unit → Except DartError (Reply op) × Unit}
    (hreply : (handle (.getBookingsForPosting posting.object.id none) ()).1 = .ok bookings) :
    (Prog.exec handle (setupInitialValues z (some posting) name datesParam now) s ()).2.1 =
      loaded name (initialDates datesParam now) (unselectableDates z bookings) s := by
  obtain ⟨w, hserve⟩ : ∃ w, handle (.getBookingsForPosting posting.object.id none) () =
      (.ok bookings, w) := ⟨_, Prod.ext hreply rfl⟩
  simp only [setupInitialValues, getUnselectableDates, hvalid, if_true]
  rw [Prog.exec_bind, Prog.exec_call_bind_ok hserve]
  rfl

/-- As long as the guest has chosen no tag, the state shows the first. -/
theorem currentTag_step (h : scr.choices.tag = none → scr.state.currentTag = "check_in")
    (hstep : step z name datesParam now scr e = some scr') :
    scr'.choices.tag = none → scr'.state.currentTag = "check_in" := by
  cases e with
  | setCurrentTag tag =>
      cases hstep
      exact nofun
  | updateSelectedDate date =>
      cases hstep
      exact h
  | bookingsArrive bookings =>
      simp only [step] at hstep
      split_ifs at hstep
      cases hstep
      exact fun _ => rfl

theorem ShowsChoices.currentTag (h : ShowsChoices scr)
    (hfirst : scr.choices.tag = none → scr.state.currentTag = "check_in") :
    scr.state.currentTag = scr.choices.currentTag := by
  unfold Choices.currentTag
  cases htag : scr.choices.tag with
  | none => exact hfirst htag
  | some t => exact h.tag t htag

theorem showsChoices_step_iff (h : ShowsChoices scr)
    (hfirst : scr.choices.tag = none → scr.state.currentTag = "check_in")
    (hstep : step z name datesParam now scr e = some scr') :
    ShowsChoices scr' ↔ ArrivesUnnoticed datesParam now scr e := by
  cases e with
  | setCurrentTag tag =>
      cases hstep
      exact iff_of_true ⟨fun t ht => Option.some.inj ht, h.picked, h.unselectable⟩ trivial
  | updateSelectedDate date =>
      cases hstep
      refine iff_of_true ⟨h.tag, ?_, h.unselectable⟩ trivial
      intro t date' hdate'
      simp only [updateSelectedDate, copyWith, Option.getD_some, FiniteMap.lookup_insert_eq_ite,
        h.currentTag hfirst] at hdate' ⊢
      split_ifs at hdate' ⊢ with htag
      · exact hdate'
      · exact h.picked t date' hdate'
  | bookingsArrive bookings =>
      simp only [step] at hstep
      split_ifs at hstep with harrived
      cases hstep
      constructor
      · intro hshows _
        exact ⟨fun t ht => (hshows.tag t ht).symm, hshows.picked⟩
      · intro hunnoticed
        obtain ⟨htag, hpicked⟩ := hunnoticed harrived
        exact ⟨fun t ht => (htag t ht).symm, hpicked, fun days hdays => Option.some.inj hdays⟩

end Steps

/-- In a run the choices are shown in every state if and only if the bookings arrive while they are
still what the screen was opened with. -/
theorem showsChoices_iff_arrivesUnnoticed (z : Zone) (name : Option String)
    (datesParam : Option (DartMap DateTime)) (now : DateTime) (events : List ChoiceEvent) :
    Execution.Always (step z name datesParam now) ShowsChoices (start now) events ↔
      Execution.StepsMeet (step z name datesParam now) (ArrivesUnnoticed datesParam now)
        (start now) events := by
  refine Execution.always_iff_stepsMeet (R := fun scr => scr.choices.tag = none →
    scr.state.currentTag = "check_in") (fun scr e scr' hR hstep => currentTag_step hR hstep) ?_
    (fun scr e scr' hR hP hstep => showsChoices_step_iff hP hR hstep) events ?_ (fun _ => rfl)
  · intro scr e hnone
    cases e with
    | setCurrentTag tag => trivial
    | updateSelectedDate date => trivial
    | bookingsArrive bookings =>
        intro harrived
        simp only [step, if_pos harrived] at hnone
        cases hnone
  · exact ⟨nofun, nofun, nofun⟩

section LateBookings

def day (n : ℤ) : DateTime := Zone.utc.date n

/-- A check-out is picked before the bookings arrive: it is lost, and the tag is the first again. -/
theorem late_bookings_undo_choices : ∃ scr,
    Execution.run (step Zone.utc none none (day 5)) (start (day 5))
      [.setCurrentTag "check_out", .updateSelectedDate (day 9), .bookingsArrive []] = some scr ∧
    scr.state.dates.lookup "check_out" = none ∧ scr.state.currentTag = "check_in" ∧
    ¬ ShowsChoices scr := by
  refine ⟨_, rfl, rfl, rfl, ?_⟩
  intro h
  have htag := h.tag "check_out" rfl
  exact absurd htag (by decide)

end LateBookings

end ChoiceScreen

end AirBnbClone
