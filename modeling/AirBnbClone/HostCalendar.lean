import AirBnbClone.Execution
import AirBnbClone.InclusiveDays
import AirBnbClone.PostingLists

/-!
# The calendar of the host

A tap on a posting requests its bookings, and every reply is shown when it comes. An event of the
postings stream builds the state anew and takes the selection along. The calendar begins at the
first day of a set that iterates in the order of the bookings.
-/

namespace AirBnbClone

open Async BookPostingCubit

namespace LinkedSet

variable {α : Type} [DecidableEq α]

/-- `addAll` on a set that iterates in insertion order. -/
def addAll (set xs : List α) : List α :=
  xs.foldl (fun set x => if x ∈ set then set else set ++ [x]) set

theorem addAll_cons (set : List α) (x : α) (xs : List α) :
    addAll set (x :: xs) = addAll (if x ∈ set then set else set ++ [x]) xs :=
  rfl

theorem mem_addAll {set xs : List α} {a : α} : a ∈ addAll set xs ↔ a ∈ set ∨ a ∈ xs := by
  induction xs generalizing set with
  | nil => simp [addAll]
  | cons x xs ih =>
      rw [addAll_cons, ih]
      split_ifs with hx
      · grind
      · simp [or_assoc]

theorem head?_addAll (set xs : List α) : (addAll set xs).head? = (set ++ xs).head? := by
  induction xs generalizing set with
  | nil => simp [addAll]
  | cons x xs ih =>
      rw [addAll_cons, ih]
      split_ifs with hx
      · obtain ⟨y, ys, rfl⟩ := List.exists_cons_of_ne_nil (List.ne_nil_of_mem hx)
        rfl
      · rw [List.append_assoc, List.singleton_append]

end LinkedSet

structure BookingsState where
  isLoading : Bool := false
  errorMessage : Option String := none
  postings : List (BaseItemModel (Managed Posting)) := []
  selectedPosting : Option (BaseItemModel (Managed Posting)) := none
  firstDate : DateTime
  lastDate : DateTime
  selectableDates : List DateTime := []

namespace BookingsState

/-- The constructor without dates: today and the 210 days after it. -/
def new (postings : List (BaseItemModel (Managed Posting))) (now : DateTime) : BookingsState where
  postings := postings
  firstDate := now
  lastDate := ⟨now.microsecondsSinceEpoch + 210 * microsecondsPerDay, now.isUtc⟩

def isDaySelectable (s : BookingsState) (day : DateTime) : Bool := decide (day ∈ s.selectableDates)

end BookingsState

namespace BookingsCubit

/-- A handler that awaits the bookings of a posting; with them comes the time of the reply. -/
abbrev SelectM :=
  Prog (fun _ : String => List (Managed Booking) × DateTime) BookingsState DartError

/-- `_getSelectableDates`, in the order in which its set iterates. -/
def selectableDatesInOrder (z : Zone) (bookings : List (Managed Booking)) : List DateTime :=
  bookings.foldl (fun dates booking => LinkedSet.addAll dates (bookedDates z booking)) []

def showBookings (z : Zone) (posting : BaseItemModel (Managed Posting))
    (bookings : List (Managed Booking)) (now : DateTime) (s : BookingsState) : BookingsState :=
  let selectableDates := selectableDatesInOrder z bookings
  { s with
    selectedPosting := some posting
    firstDate := match selectableDates with
      | first :: _ => first
      | [] => now
    selectableDates }

/-- `isValid` tells of an id whether its posting is still there. -/
def selectPosting (z : Zone) (isValid : String → Bool)
    (posting : BaseItemModel (Managed Posting)) : SelectM Unit :=
  match posting.object with
  | none => .done (.error .typeError)
  | some entity =>
      if isValid entity.object.id then do
        let reply : List (Managed Booking) × DateTime ← Prog.call entity.object.id
        Prog.emitWith (showBookings z posting reply.1 reply.2)
      else pure ()

end BookingsCubit

structure Selection where
  posting : BaseItemModel (Managed Posting)
  program : BookingsCubit.SelectM Unit

structure BookingsPage where
  state : BookingsState
  pending : List Selection := []
  /-- The ids of the postings that are gone, for good: none is stored again under its old id. -/
  deleted : List String := []
  lastTapped : Option (BaseItemModel (Managed Posting)) := none

inductive BookingsEvent
  | postings (results : List Posting) (now : DateTime)
  | tap (i : ℕ)
  | reply (i : ℕ) (outcome : Except DartError DateTime)
  | delete (id : String)

namespace BookingsPage

def start (now : DateTime) : BookingsPage where
  state := BookingsState.new [] now

def isValid (page : BookingsPage) (id : String) : Bool := decide (id ∉ page.deleted)

def advance (page : BookingsPage) (q : Selection) : BookingsPage := { page with
  state := (Prog.settle q.program page.state).2
  pending := match (Prog.settle q.program page.state).1 with
    | .done _ => page.pending
    | program => page.pending ++ [⟨q.posting, program⟩] }

def answered (page : BookingsPage) (i : ℕ) : BookingsPage :=
  { page with pending := page.pending.eraseIdx i }

def items (page : BookingsPage) (results : List Posting) :
    Except DartError (List (BaseItemModel (Managed Posting))) :=
  BookingsCubit.createPostings (results.map (fun entity => ⟨entity, page.isValid entity.id⟩))

/-- `bookings` are those of each posting. A listener that throws leaves the state as it is. -/
def step (z : Zone) (bookings : String → List (Managed Booking)) (page : BookingsPage) :
    BookingsEvent → Option BookingsPage
  | .postings results now =>
      match page.items results with
      | .ok list => some { page with state := BookingsState.new list now }
      | .error _ => some page
  | .tap i =>
      match page.state.postings[i]? with
      | some posting => some ({ page with lastTapped := some posting }.advance
          ⟨posting, BookingsCubit.selectPosting z page.isValid posting⟩)
      | none => none
  | .reply i outcome =>
      match page.pending[i]? with
      | some ⟨posting, .await id k⟩ => some ((page.answered i).advance
          ⟨posting, k (outcome.map (fun now => (bookings id, now)))⟩)
      | _ => none
  | .delete id => some { page with deleted := id :: page.deleted }

def Exists (page : BookingsPage) (posting : BaseItemModel (Managed Posting)) : Prop :=
  ∃ entity, posting.object = some entity ∧ page.isValid entity.object.id = true

end BookingsPage

structure BookingsState.Shows (z : Zone) (bookings : String → List (Managed Booking))
    (s : BookingsState) (posting : BaseItemModel (Managed Posting)) : Prop where
  selected : s.selectedPosting = some posting
  booked : ∀ entity, posting.object = some entity →
    s.selectableDates.toFinset = BookingsCubit.getSelectableDates z (bookings entity.object.id)

/-- No day that can be selected lies before the calendar's first. -/
def BookingsState.InRange (s : BookingsState) : Prop :=
  ∀ day, s.isDaySelectable day = true → s.firstDate.isAfter day = false

namespace BookingsPage

/-- When no request is pending the calendar is that of the posting tapped last. -/
structure ShowsLastTapped (z : Zone) (bookings : String → List (Managed Booking))
    (page : BookingsPage) : Prop where
  shown : page.pending = [] → ∀ posting, page.lastTapped = some posting → page.Exists posting →
    page.state.Shows z bookings posting
  inRange : page.pending = [] → page.lastTapped ≠ none → page.state.InRange

def Awaited (page : BookingsPage) : Prop := ∃ q ∈ page.pending, some q.posting = page.lastTapped

end BookingsPage

/-- Of the bookings that have days, none starts before the first. -/
def EarliestFirst (z : Zone) (bookings : List (Managed Booking)) : Prop :=
  let starts := bookings.filterMap (fun booking => (bookedDates z booking).head?)
  ∀ first ∈ starts.head?, ∀ start ∈ starts, first.isAfter start = false

namespace BookingsPage

/-- As long as the posting tapped last is there: an event that can be listed comes only while a
request for it is pending; bookings are for it unless it is requested again; and a request fails
only while it is selected or requested again. The first of the bookings is always the earliest. -/
def InOrder (z : Zone) (bookings : String → List (Managed Booking)) (page : BookingsPage) :
    BookingsEvent → Prop
  | .postings results _ => (∃ list, page.items results = .ok list) →
      ∀ posting, page.lastTapped = some posting → page.Exists posting → page.Awaited
  | .reply i outcome => ∀ q, page.pending[i]? = some q → match outcome with
      | .ok _ => (∀ entity, q.posting.object = some entity →
            EarliestFirst z (bookings entity.object.id)) ∧
          ∀ posting, page.lastTapped = some posting → page.Exists posting →
            q.posting = posting ∨ (page.answered i).Awaited
      | .error _ => ∀ posting, page.lastTapped = some posting → page.Exists posting →
          page.state.selectedPosting = some posting ∨ (page.answered i).Awaited
  | .tap _ => True
  | .delete _ => True

end BookingsPage

section Dates

variable {z : Zone} {bookings : List (Managed Booking)} {day : DateTime}

theorem selectableDatesInOrder_eq : BookingsCubit.selectableDatesInOrder z bookings =
    LinkedSet.addAll [] (bookings.flatMap (bookedDates z)) :=
  List.foldl_flatMap.symm

theorem mem_selectableDatesInOrder : day ∈ BookingsCubit.selectableDatesInOrder z bookings ↔
    ∃ booking ∈ bookings, day ∈ bookedDates z booking := by
  rw [selectableDatesInOrder_eq, LinkedSet.mem_addAll, List.mem_flatMap]
  exact or_iff_right List.not_mem_nil

theorem toFinset_selectableDatesInOrder :
    (BookingsCubit.selectableDatesInOrder z bookings).toFinset =
      BookingsCubit.getSelectableDates z bookings := by
  ext day
  rw [List.mem_toFinset, mem_selectableDatesInOrder]
  exact (List.mem_toFinset.trans List.mem_flatMap).symm

theorem head?_selectableDatesInOrder :
    (BookingsCubit.selectableDatesInOrder z bookings).head? =
      (bookings.filterMap (fun booking => (bookedDates z booking).head?)).head? := by
  rw [selectableDatesInOrder_eq, LinkedSet.head?_addAll, List.nil_append, List.head?_flatMap,
    List.head?_filterMap]

theorem increasing_bookedDates (booking : Managed Booking) :
    (bookedDates z booking).Pairwise (fun a b => b.isAfter a = true) := by
  unfold bookedDates
  split_ifs
  · split
    · exact consecutiveDays_getDaysInBetween.increasing
    · exact List.Pairwise.nil
  · exact List.Pairwise.nil

/-- The first day in the order of the bookings is the earliest exactly when the first booking is. -/
theorem earliestFirst_iff : EarliestFirst z bookings ↔
    ∀ first ∈ (BookingsCubit.selectableDatesInOrder z bookings).head?,
      ∀ day ∈ BookingsCubit.selectableDatesInOrder z bookings, first.isAfter day = false := by
  rw [head?_selectableDatesInOrder]
  constructor
  · intro h first hfirst day hday
    obtain ⟨booking, hmem, hbooked⟩ := mem_selectableDatesInOrder.mp hday
    obtain ⟨start, rest, hdays⟩ := List.exists_cons_of_ne_nil (List.ne_nil_of_mem hbooked)
    have hstart : first.isAfter start = false :=
      h first hfirst start (List.mem_filterMap.mpr ⟨booking, hmem, by rw [hdays]; rfl⟩)
    have hincreasing := increasing_bookedDates (z := z) booking
    rw [hdays] at hincreasing hbooked
    obtain rfl | hrest := List.mem_cons.mp hbooked
    · exact hstart
    · have hlater : day.isAfter start = true := (List.pairwise_cons.mp hincreasing).1 day hrest
      simp only [DateTime.isAfter, decide_eq_false_iff_not, decide_eq_true_eq] at *
      omega
  · intro h first hfirst start hstart
    obtain ⟨booking, hmem, hhead⟩ := List.mem_filterMap.mp hstart
    exact h first hfirst start
      (mem_selectableDatesInOrder.mpr ⟨booking, hmem, List.mem_of_mem_head? hhead⟩)

theorem inRange_showBookings {posting : BaseItemModel (Managed Posting)} {now : DateTime}
    {s : BookingsState} (h : EarliestFirst z bookings) :
    (BookingsCubit.showBookings z posting bookings now s).InRange := by
  intro day hday
  have hmem : day ∈ BookingsCubit.selectableDatesInOrder z bookings := of_decide_eq_true hday
  have hearliest := earliestFirst_iff.mp h
  unfold BookingsCubit.showBookings
  dsimp only
  split
  · rename_i first rest hdates
    exact hearliest first (by rw [hdates]; rfl) day hmem
  · rename_i hdates
    rw [hdates] at hmem
    exact absurd hmem List.not_mem_nil

theorem shows_showBookings {bookings : String → List (Managed Booking)}
    {posting : BaseItemModel (Managed Posting)} {entity : Managed Posting} {now : DateTime}
    {s : BookingsState} (h : posting.object = some entity) :
    (BookingsCubit.showBookings z posting (bookings entity.object.id) now s).Shows z bookings
      posting := by
  refine ⟨rfl, fun entity' h' => ?_⟩
  cases h.symm.trans h'
  exact toFinset_selectableDatesInOrder

end Dates

namespace BookingsPage

variable {z : Zone} {bookings : String → List (Managed Booking)} {page page' : BookingsPage}
  {e : BookingsEvent}

/-- The requests are those of taps, the selection comes with its days, and the posting tapped last
is selected unless a request for it is pending. -/
structure Inv (z : Zone) (bookings : String → List (Managed Booking)) (page : BookingsPage) :
    Prop where
  requests : ∀ q ∈ page.pending, ∃ entity, q.posting.object = some entity ∧
    q.program = .await entity.object.id (fun reply => Prog.bind (.done reply)
      (fun reply => Prog.emitWith (BookingsCubit.showBookings z q.posting reply.1 reply.2)))
  selection : ∀ posting, page.state.selectedPosting = some posting →
    page.state.Shows z bookings posting
  inRange : page.state.InRange
  current : ∀ posting, page.lastTapped = some posting → page.Exists posting →
    page.state.selectedPosting = some posting ∨ page.Awaited

theorem Inv.showsLastTapped (h : Inv z bookings page) : ShowsLastTapped z bookings page := by
  refine ⟨fun hnil posting hlast hexists => ?_, fun _ _ => h.inRange⟩
  obtain hselected | ⟨q, hq, -⟩ := h.current posting hlast hexists
  · exact h.selection posting hselected
  · exact absurd (hnil ▸ hq) List.not_mem_nil

theorem inRange_new (postings : List (BaseItemModel (Managed Posting))) (now : DateTime) :
    (BookingsState.new postings now).InRange :=
  fun _ hday => absurd (of_decide_eq_true hday) List.not_mem_nil

theorem inv_start (now : DateTime) : Inv z bookings (start now) :=
  ⟨fun _ hq => absurd hq List.not_mem_nil, fun _ h => absurd h (Option.some_ne_none _).symm,
    inRange_new [] now, fun _ h => absurd h (Option.some_ne_none _).symm⟩

/-- Only a tap on a posting that is there requests its bookings. -/
theorem selectPosting_cases (isValid : String → Bool)
    (posting : BaseItemModel (Managed Posting)) :
    (∃ entity, posting.object = some entity ∧ BookingsCubit.selectPosting z isValid posting =
      .await entity.object.id (fun reply => Prog.bind (.done reply)
        (fun reply => Prog.emitWith (BookingsCubit.showBookings z posting reply.1 reply.2)))) ∨
    (∀ entity, posting.object = some entity → isValid entity.object.id = false) ∧
      ∃ result, BookingsCubit.selectPosting z isValid posting = .done result := by
  unfold BookingsCubit.selectPosting
  cases hobject : posting.object with
  | none => exact .inr ⟨fun _ h => absurd h (Option.some_ne_none _).symm, _, rfl⟩
  | some entity =>
      cases hvalid : isValid entity.object.id with
      | true =>
          refine .inl ⟨entity, rfl, ?_⟩
          dsimp only
          rw [if_pos hvalid]
          rfl
      | false =>
          refine .inr ⟨fun entity' h => ?_, .ok (), ?_⟩
          · cases h
            exact hvalid
          · dsimp only
            rw [if_neg (Bool.eq_false_iff.mp hvalid)]
            rfl

theorem advance_await (posting : BaseItemModel (Managed Posting)) (id : String)
    (k : _ → BookingsCubit.SelectM Unit) : page.advance ⟨posting, .await id k⟩ =
      { page with pending := page.pending ++ [⟨posting, .await id k⟩] } := rfl

theorem advance_done (posting : BaseItemModel (Managed Posting)) (result : Except DartError Unit) :
    page.advance ⟨posting, .done result⟩ = page := rfl

theorem inv_postings (hinv : Inv z bookings page) {results : List Posting} {now : DateTime}
    (horder : InOrder z bookings page (.postings results now))
    (h : page.step z bookings (.postings results now) = some page') : Inv z bookings page' := by
  cases hitems : page.items results with
  | error e =>
      simp only [step, hitems, Option.some.injEq] at h
      exact h ▸ hinv
  | ok list =>
      simp only [step, hitems, Option.some.injEq] at h
      subst h
      exact ⟨hinv.requests, fun _ h => absurd h (Option.some_ne_none _).symm, inRange_new list now,
        fun posting hlast hexists => .inr (horder ⟨list, hitems⟩ posting hlast hexists)⟩

theorem inv_tap (hinv : Inv z bookings page) {i : ℕ}
    (h : page.step z bookings (.tap i) = some page') : Inv z bookings page' := by
  cases hitem : page.state.postings[i]? with
  | none => simp only [step, hitem, reduceCtorEq] at h
  | some posting =>
      simp only [step, hitem, Option.some.injEq] at h
      obtain ⟨entity, hobject, hprogram⟩ | ⟨hgone, result, hprogram⟩ :=
        selectPosting_cases (z := z) page.isValid posting
      · rw [hprogram, advance_await] at h
        subst h
        refine ⟨fun q hq => ?_, hinv.selection, hinv.inRange, fun posting' hlast _ => .inr ?_⟩
        · obtain hq | hq := List.mem_append.mp hq
          · exact hinv.requests q hq
          · cases List.mem_singleton.mp hq
            exact ⟨entity, hobject, rfl⟩
        · exact ⟨_, List.mem_append_right _ (List.mem_singleton_self _), rfl⟩
      · rw [hprogram, advance_done] at h
        subst h
        refine ⟨hinv.requests, hinv.selection, hinv.inRange, fun posting' hlast hexists => ?_⟩
        obtain ⟨entity, hobject, hvalid⟩ := hexists
        cases hlast
        exact absurd (hvalid.symm.trans (hgone entity hobject)) Bool.false_ne_true.symm

/-- A reply goes to the request of a tap; an error changes nothing, bookings are shown. -/
theorem reply_cases (hinv : Inv z bookings page) {i : ℕ} {outcome : Except DartError DateTime}
    (h : page.step z bookings (.reply i outcome) = some page') :
    ∃ q entity, page.pending[i]? = some q ∧ q.posting.object = some entity ∧
      ((∃ e, outcome = .error e ∧ page' = page.answered i) ∨
        ∃ now, outcome = .ok now ∧ page' = { page.answered i with
          state := BookingsCubit.showBookings z q.posting (bookings entity.object.id) now
            page.state }) := by
  cases hpending : page.pending[i]? with
  | none => simp only [step, hpending, reduceCtorEq] at h
  | some q =>
      obtain ⟨posting, program⟩ := q
      obtain ⟨entity, hobject, hprogram⟩ := hinv.requests _ (List.mem_of_getElem? hpending)
      dsimp only at hprogram
      subst hprogram
      simp only [step, hpending, Option.some.injEq] at h
      subst h
      refine ⟨_, entity, rfl, hobject, ?_⟩
      cases outcome with
      | error e => exact .inl ⟨e, rfl, rfl⟩
      | ok now => exact .inr ⟨now, rfl, rfl⟩

theorem inv_reply (hinv : Inv z bookings page) {i : ℕ} {outcome : Except DartError DateTime}
    (horder : InOrder z bookings page (.reply i outcome))
    (h : page.step z bookings (.reply i outcome) = some page') : Inv z bookings page' := by
  obtain ⟨q, entity, hpending, hobject, hreply⟩ := reply_cases hinv h
  have hrequests := fun q hq => hinv.requests q (List.mem_of_mem_eraseIdx (i := i) hq)
  have horder := horder q hpending
  obtain ⟨e, rfl, rfl⟩ | ⟨now, rfl, rfl⟩ := hreply
  · exact ⟨hrequests, hinv.selection, hinv.inRange, horder⟩
  · refine ⟨hrequests, fun posting hselected => ?_, ?_, fun posting hlast hexists => ?_⟩
    · cases hselected
      exact shows_showBookings hobject
    · exact inRange_showBookings (horder.1 entity hobject)
    · exact (horder.2 posting hlast hexists).imp_left (congrArg some)

theorem inv_step (hinv : Inv z bookings page) (horder : InOrder z bookings page e)
    (h : page.step z bookings e = some page') : Inv z bookings page' := by
  cases e with
  | postings results now => exact inv_postings hinv horder h
  | tap i => exact inv_tap hinv h
  | reply i outcome => exact inv_reply hinv horder h
  | delete id =>
      cases h
      refine ⟨hinv.requests, hinv.selection, hinv.inRange, fun posting hlast hexists => ?_⟩
      obtain ⟨entity, hobject, hvalid⟩ := hexists
      exact hinv.current posting hlast ⟨entity, hobject, decide_eq_true
        fun hmem => of_decide_eq_true hvalid (List.mem_cons_of_mem _ hmem)⟩

end BookingsPage

/-- In every run whose steps are all in order the calendar is that of the posting tapped last
whenever no request is pending. -/
theorem calendar_shows_lastTapped (z : Zone) (bookings : String → List (Managed Booking))
    (now : DateTime) (events : List BookingsEvent)
    (h : Execution.StepsMeet (BookingsPage.step z bookings) (BookingsPage.InOrder z bookings)
      (BookingsPage.start now) events) :
    Execution.Always (BookingsPage.step z bookings) (BookingsPage.ShowsLastTapped z bookings)
      (BookingsPage.start now) events := by
  have halways := Execution.always_of_stepsMeet
    (fun _ _ _ hinv horder h => BookingsPage.inv_step hinv horder h) (BookingsPage.inv_start now) h
  exact halways.mono (fun _ hinv => hinv.showsLastTapped)

def lakeVilla : Posting where
  id := "p1"
  name := some "Villa"
  type := none
  price := none
  description := none
  address := none
  city := none
  country := none
  rating := none
  hostId := some "h1"
  lat := 0
  lon := 0
  images := ["villa.jpg"]
  amenities := []
  beds := ∅
  bathrooms := ∅

def lakeCabin : Posting := { lakeVilla with id := "p2", name := some "Cabin" }

def bookedAtNoon (day : ℤ) : Managed Booking where
  object := ⟨"b1", some "p1", some "g1", some (day * microsecondsPerDay + 43200000000),
    some (day * microsecondsPerDay + 43200000000), none⟩
  isValid := true

def villaBookings (days : List ℤ) (id : String) : List (Managed Booking) :=
  if id = "p1" then days.map bookedAtNoon else []

theorem earliestFirst_villaBookings (id : String) :
    EarliestFirst Zone.utc (villaBookings [8, 20] id) := by
  unfold villaBookings
  split_ifs
  · rw [EarliestFirst]
    decide
  · exact nofun

/-- Two taps whose replies come in their order. -/
theorem calendar_shows_cabin :
    Execution.Always (BookingsPage.step Zone.utc (villaBookings [8, 20]))
      (BookingsPage.ShowsLastTapped Zone.utc (villaBookings [8, 20]))
      (BookingsPage.start (Zone.utc.date 1))
      [.postings [lakeVilla, lakeCabin] (Zone.utc.date 1), .tap 0, .tap 1,
        .reply 0 (.ok (Zone.utc.date 1)), .reply 0 (.ok (Zone.utc.date 1))] := by
  apply calendar_shows_lastTapped
  refine Execution.stepsMeet_cons ?_ rfl (Execution.stepsMeet_cons trivial rfl
    (Execution.stepsMeet_cons trivial rfl (Execution.stepsMeet_cons ?_ rfl
      (Execution.stepsMeet_cons ?_ rfl trivial))))
  · exact fun _ _ h => absurd h (Option.some_ne_none _).symm
  · rintro q hq
    cases hq
    refine ⟨fun entity _ => earliestFirst_villaBookings _, fun posting hlast _ => .inr ?_⟩
    exact ⟨_, List.mem_singleton_self _, rfl⟩
  · rintro q hq
    cases hq
    refine ⟨fun entity _ => earliestFirst_villaBookings _, fun posting hlast _ => .inl ?_⟩
    exact Option.some.inj hlast

/-- An event comes after the selection; the reply for the first tap comes after that for the second;
and the later of two bookings comes first. -/
theorem calendar_loses_selection :
    ¬ Execution.Always (BookingsPage.step Zone.utc (villaBookings [8, 20]))
      (BookingsPage.ShowsLastTapped Zone.utc (villaBookings [8, 20]))
      (BookingsPage.start (Zone.utc.date 1))
      [.postings [lakeVilla] (Zone.utc.date 1), .tap 0, .reply 0 (.ok (Zone.utc.date 1)),
        .postings [lakeVilla] (Zone.utc.date 1)] ∧
    ¬ Execution.Always (BookingsPage.step Zone.utc (villaBookings [8, 20]))
      (BookingsPage.ShowsLastTapped Zone.utc (villaBookings [8, 20]))
      (BookingsPage.start (Zone.utc.date 1))
      [.postings [lakeVilla, lakeCabin] (Zone.utc.date 1), .tap 0, .tap 1,
        .reply 1 (.ok (Zone.utc.date 1)), .reply 0 (.ok (Zone.utc.date 1))] ∧
    ¬ Execution.Always (BookingsPage.step Zone.utc (villaBookings [20, 8]))
      (BookingsPage.ShowsLastTapped Zone.utc (villaBookings [20, 8]))
      (BookingsPage.start (Zone.utc.date 1))
      [.postings [lakeVilla] (Zone.utc.date 1), .tap 0, .reply 0 (.ok (Zone.utc.date 1))] := by
  refine ⟨fun h => ?_, fun h => ?_, fun h => ?_⟩
  · have hfinal := h.final rfl
    have hshown := hfinal.shown rfl _ rfl ⟨_, rfl, rfl⟩
    exact absurd hshown.selected (Option.some_ne_none _).symm
  · have hfinal := h.final rfl
    have hshown := hfinal.shown rfl _ rfl ⟨_, rfl, rfl⟩
    have hid := congrArg (Option.map BaseItemModel.id) hshown.selected
    exact absurd hid (by decide)
  · have hfinal := h.final rfl
    have hrange := hfinal.inRange rfl (Option.some_ne_none _) (Zone.utc.date 8)
    exact absurd (hrange (by decide)) (by decide)

end AirBnbClone
