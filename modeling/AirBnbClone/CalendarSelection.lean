import AirBnbClone.BookPostingCubit
import AirBnbClone.Execution

/-!
# Choosing a range in the calendar

The calendar lets the guest tap any selectable day of the window, under a tag that can be switched
at will. Only the two end points are ever checked, so the range is free exactly when no booked day
separates a day that can become the check-in from one that can become the check-out.
-/

namespace AirBnbClone

namespace CalendarSelection

open BookPostingState BookPostingCubit

inductive Tag
  | checkIn
  | checkOut
  deriving DecidableEq

def Tag.key : Tag → String
  | checkIn => "check_in"
  | checkOut => "check_out"

/-- What the screen lets the guest do: switch the tag, or tap a day of the calendar. -/
inductive Tap
  | tag (t : Tag)
  | day (n : ℤ)
  deriving DecidableEq

variable (z : Zone)

/-- `CalendarDatePicker` offers the days of the window that satisfy its predicate. -/
def Pickable (s : BookPostingState) (n : ℤ) : Prop :=
  s.firstDate.calendarDay z ≤ n ∧ n ≤ s.lastDate.calendarDay z ∧ s.isDaySelectable (z.date n) = true

instance (s : BookPostingState) (n : ℤ) : Decidable (Pickable z s n) :=
  inferInstanceAs (Decidable (_ ∧ _ ∧ _))

def step (s : BookPostingState) : Tap → Option BookPostingState
  | .tag t => some (setCurrentTag t.key s)
  | .day n => if Pickable z s n then some (updateSelectedDate (z.date n) s) else none

def Free (s : BookPostingState) : Prop :=
  s.canBook z = true → ∀ checkIn checkOut n, s.dates.lookup "check_in" = some checkIn →
    s.dates.lookup "check_out" = some checkOut → checkIn.calendarDay z ≤ n →
    n < checkOut.calendarDay z → z.date n ∉ s.unselectableDates

/-- The days that can end up under a tag: the pickable ones and the one that is there already. -/
def Choosable (s : BookPostingState) (t : Tag) (n : ℤ) : Prop :=
  Pickable z s n ∨ ∃ date, s.dates.lookup t.key = some date ∧ date.calendarDay z = n

/-- Some booked day lies between a possible check-in and a possible check-out. -/
def Straddled (s : BookPostingState) : Prop :=
  ∃ checkIn booked checkOut, Choosable z s .checkIn checkIn ∧ checkIn ≤ booked ∧
    z.date booked ∈ s.unselectableDates ∧ booked < checkOut ∧ Choosable z s .checkOut checkOut

variable {z} {s s' s₀ : BookPostingState}

theorem canBook_eq_true_iff : s.canBook z = true ↔ ∃ checkIn checkOut,
    s.dates.lookup "check_in" = some checkIn ∧ s.dates.lookup "check_out" = some checkOut ∧
      checkIn.calendarDay z < checkOut.calendarDay z := by
  unfold canBook
  split
  · rename_i checkIn checkOut hin hout
    simp only [DateTime.isAfter_dateOnly, hin, hout, Option.some.injEq, exists_and_left,
      exists_eq_left']
  · rename_i hnone
    simp only [Bool.false_eq_true, false_iff]
    rintro ⟨checkIn, checkOut, hin, hout, -⟩
    exact hnone checkIn checkOut hin hout

/-- What a run of taps keeps: the window, the booked days, a tag of the screen, and choosable days
under both tags. -/
structure Inv (z : Zone) (s₀ s : BookPostingState) : Prop where
  firstDate : s.firstDate = s₀.firstDate
  lastDate : s.lastDate = s₀.lastDate
  unselectable : s.unselectableDates = s₀.unselectableDates
  currentTag : ∃ t : Tag, s.currentTag = t.key
  choosable : ∀ (t : Tag) date, s.dates.lookup t.key = some date →
    Choosable z s₀ t (date.calendarDay z)

theorem Inv.pickable_iff (h : Inv z s₀ s) (n : ℤ) : Pickable z s n ↔ Pickable z s₀ n := by
  simp only [Pickable, isDaySelectable, h.firstDate, h.lastDate, h.unselectable]

theorem inv_self (h : ∃ t : Tag, s₀.currentTag = t.key) : Inv z s₀ s₀ where
  firstDate := rfl
  lastDate := rfl
  unselectable := rfl
  currentTag := h
  choosable _ date hdate := .inr ⟨date, hdate, rfl⟩

theorem inv_step (a : Tap) (hs : Inv z s₀ s) (h : step z s a = some s') : Inv z s₀ s' := by
  cases a with
  | tag t =>
      cases h
      exact ⟨hs.firstDate, hs.lastDate, hs.unselectable, ⟨t, rfl⟩, hs.choosable⟩
  | day n =>
      simp only [step] at h
      split_ifs at h with hn
      cases h
      refine ⟨hs.firstDate, hs.lastDate, hs.unselectable, hs.currentTag, ?_⟩
      intro t date hdate
      simp only [updateSelectedDate, copyWith, Option.getD_some,
        FiniteMap.lookup_insert_eq_ite] at hdate
      split_ifs at hdate
      · cases hdate
        rw [DateTime.calendarDay_date]
        exact .inl ((hs.pickable_iff n).mp hn)
      · exact hs.choosable t date hdate

theorem Inv.free (hs : Inv z s₀ s) (h : ¬ Straddled z s₀) : Free z s := by
  intro _ checkIn checkOut n hin hout hle hlt hmem
  rw [hs.unselectable] at hmem
  exact h ⟨_, n, _, hs.choosable .checkIn checkIn hin, hle, hmem, hlt,
    hs.choosable .checkOut checkOut hout⟩

/-- A choosable day can be put under its tag without touching the other one. -/
theorem exists_choose (hs : Inv z s₀ s) {t : Tag} {n : ℤ}
    (ht : s.dates.lookup t.key = s₀.dates.lookup t.key) (h : Choosable z s₀ t n) :
    ∃ taps s', Execution.run (step z) s taps = some s' ∧ Inv z s₀ s' ∧
      (∃ date, s'.dates.lookup t.key = some date ∧ date.calendarDay z = n) ∧
      ∀ k, k ≠ t.key → s'.dates.lookup k = s.dates.lookup k := by
  rcases h with hpick | ⟨date, hdate, hday⟩
  · have htag : Inv z s₀ (setCurrentTag t.key s) := inv_step (.tag t) hs rfl
    have hpick' : Pickable z (setCurrentTag t.key s) n := (htag.pickable_iff n).mpr hpick
    have hstep : step z (setCurrentTag t.key s) (.day n) =
        some (updateSelectedDate (z.date n) (setCurrentTag t.key s)) := by
      simp only [step, if_pos hpick']
    refine ⟨[.tag t, .day n], _, ?_, inv_step (.day n) htag hstep, ⟨z.date n, ?_, ?_⟩, ?_⟩
    · change (step z (setCurrentTag t.key s) (.day n)).bind _ = _
      rw [hstep]
      rfl
    · exact AList.lookup_insert _
    · exact DateTime.calendarDay_date z n
    · intro k hk
      exact AList.lookup_insert_ne hk
  · exact ⟨[], s, rfl, hs, ⟨date, ht.trans hdate, hday⟩, fun _ _ => rfl⟩

theorem exists_taken_of_straddled (htag : ∃ t : Tag, s₀.currentTag = t.key)
    (h : Straddled z s₀) : ∃ taps s', Execution.run (step z) s₀ taps = some s' ∧ ¬ Free z s' := by
  obtain ⟨m, u, m', hin, hle, hmem, hlt, hout⟩ := h
  obtain ⟨taps, s, hrun, hs, ⟨checkIn, hci, hm⟩, hframe⟩ :=
    exists_choose (inv_self htag) (t := .checkIn) rfl hin
  have hkey : Tag.checkOut.key ≠ Tag.checkIn.key := by decide
  obtain ⟨taps', s', hrun', hs', ⟨checkOut, hco, hm'⟩, hframe'⟩ :=
    exists_choose hs (t := .checkOut) (hframe _ hkey) hout
  refine ⟨taps ++ taps', s', ?_, ?_⟩
  · rw [Execution.run_append, hrun]
    exact hrun'
  · intro hfree
    have hci' : s'.dates.lookup "check_in" = some checkIn := (hframe' _ hkey.symm).trans hci
    refine hfree (canBook_eq_true_iff.mpr ⟨checkIn, checkOut, hci', hco, ?_⟩) checkIn checkOut u
      hci' hco ?_ ?_ ?_
    · rw [hm, hm']
      omega
    · rw [hm]
      exact hle
    · rw [hm']
      exact hlt
    · rw [hs'.unselectable]
      exact hmem

/-- Whatever the guest taps, the range that can be booked is free if and only if no booked day
lies between a possible check-in and a possible check-out. -/
theorem free_iff_not_straddled (z : Zone) (bookings : List (Managed Booking))
    (name : Option String) (datesParam : Option (DartMap DateTime)) (now : DateTime)
    (s : BookPostingState) :
    (∀ taps, Execution.Always (step z) (Free z)
      (loaded name (initialDates datesParam now) (unselectableDates z bookings) s) taps) ↔
    ¬ Straddled z (loaded name (initialDates datesParam now) (unselectableDates z bookings) s) := by
  have htag : ∃ t : Tag, (loaded name (initialDates datesParam now) (unselectableDates z bookings)
      s).currentTag = t.key := ⟨.checkIn, rfl⟩
  constructor
  · intro h hstr
    obtain ⟨taps, s', hrun, hnot⟩ := exists_taken_of_straddled htag hstr
    exact hnot ((h taps).final hrun)
  · intro h taps
    exact (Execution.always_of_step (fun _ a _ hs hstep => inv_step a hs hstep) taps
      (inv_self htag)).mono (fun _ hs => hs.free h)

def noon (n : ℤ) : DateTime := .utc (n * microsecondsPerDay + 43200000000)

def bookedTenToTwelve : BookPostingState :=
  loaded none (initialDates none (noon 5))
    (unselectableDates Zone.utc [⟨⟨"b1", some "p1", some "g1", some (10 * microsecondsPerDay),
      some (12 * microsecondsPerDay), some 200⟩, true⟩]) (initial (noon 5))

theorem range_across_a_booking_can_be_booked :
    ¬ ∀ taps, Execution.Always (step Zone.utc) (Free Zone.utc) bookedTenToTwelve taps := by
  intro h
  have hrun : (Execution.run (step Zone.utc) bookedTenToTwelve
      [.day 8, .tag .checkOut, .day 15]).map (fun s => (s.canBook Zone.utc,
        s.dates.lookup "check_in", s.dates.lookup "check_out",
        decide (Zone.utc.date 10 ∈ s.unselectableDates))) =
      some (true, some (Zone.utc.date 8), some (Zone.utc.date 15), true) := by decide +kernel
  obtain ⟨s, hs, heq⟩ := Option.map_eq_some_iff.mp hrun
  simp only [Prod.mk.injEq, decide_eq_true_eq] at heq
  obtain ⟨hcan, hin, hout, hmem⟩ := heq
  refine (h _).final hs hcan _ _ 10 hin hout ?_ ?_ hmem
  · rw [DateTime.calendarDay_date]
    decide
  · rw [DateTime.calendarDay_date]
    decide

end CalendarSelection

end AirBnbClone
