import AirBnbClone.CollectionListeners
import AirBnbClone.ItemModels
import AirBnbClone.QueryAgreement

/-!
# `TripsCubit`

The Trips screen lists the bookings of the local store whose check-out is not before, or is before,
the moment at which the screen was made. Two listeners fill the store from all remote bookings with
such a check-out, and other screens fill it too; neither a remote nor a local query mentions the
user. So what is listed belongs to the user exactly when nothing else is in the store.
-/

namespace AirBnbClone

open RealmService

structure TripsState where
  isLoading : Bool := false
  errorMessage : Option String := none
  upcomingTrips : List TripGridItemModel := []
  previousTrips : List TripGridItemModel := []

inductive TripsStream
  | upcoming
  | previous
  deriving DecidableEq

namespace TripsState

/-- The named arguments of `copyWith` that the cubit uses. -/
def copyWith (s : TripsState) (upcomingTrips previousTrips : Option (List TripGridItemModel)) :
    TripsState :=
  { s with
    upcomingTrips := upcomingTrips.getD s.upcomingTrips
    previousTrips := previousTrips.getD s.previousTrips }

def trips (s : TripsState) : TripsStream → List TripGridItemModel
  | .upcoming => s.upcomingTrips
  | .previous => s.previousTrips

end TripsState

namespace TripsCubit

def formatDate (z : Zone) (d : DateTime) : String :=
  padLeft 2 (d.day z) ++ "/" ++ padLeft 2 (d.month z) ++ "/" ++ toString (d.year z)

/-- A booking comes with the posting it is linked to; its dates are read from Realm. -/
def bookingToTripModel (z : Zone) (text : DoubleText) (row : Booking × Option Posting) :
    TripGridItemModel where
  id := row.1.id
  title := (row.2.bind Posting.name).getD ""
  des := (row.2.bind Posting.address).getD ""
  imageUrl := (row.2.bind (fun p => p.images.head?)).getD ""
  price := (row.1.paymentAmount.map (fun amount => "$" ++ text.toStringAsFixed amount)).getD ""
  bookedDatesDes :=
    match row.1.checkIn, row.1.checkOut with
    | some checkIn, some checkOut =>
        formatDate z (.utc checkIn) ++ " - " ++ formatDate z (.utc checkOut)
    | _, _ => ""
  object := row.2

def bookingsToTripModels (z : Zone) (text : DoubleText) (rows : List (Booking × Option Posting)) :
    List TripGridItemModel :=
  rows.map (bookingToTripModel z text)

def onBookingsChanged (z : Zone) (text : DoubleText) (rows : List (Booking × Option Posting))
    (s : TripsState) : TripsStream → TripsState
  | .upcoming => s.copyWith (some (bookingsToTripModels z text rows)) none
  | .previous => s.copyWith none (some (bookingsToTripModels z text rows))

/-- The listener and the local query behind a stream; a number of milliseconds that is no `DateTime`
gives no local query. -/
def remoteQuery (nowMs : ℤ) : TripsStream → FirestoreQueryBuilder
  | .upcoming => BookingRepository.checkOutFromQuery nowMs
  | .previous => BookingRepository.checkOutBeforeQuery nowMs

def localQuery (nowMs : ℤ) : TripsStream → Option RealmQueryBuilder
  | .upcoming => BookingRepository.localCheckOutFrom nowMs
  | .previous => BookingRepository.localCheckOutBefore nowMs

/-- `booking.posting`. -/
def linkedPosting (r : Realm) (b : Booking) : Option Posting := do
  let row ← r.find .booking b.id
  let posting ← row.links "posting"
  (r.find .posting posting).map Row.entity

/-- The results of the local query, which are those of the present store. -/
def results (r : Realm) (nowMs : ℤ) (stream : TripsStream) : List (Booking × Option Posting) :=
  match localQuery nowMs stream with
  | some query => (getEntities r .booking query).map (fun b => (b, linkedPosting r b))
  | none => []

end TripsCubit

/-- A stream has a change to deliver, or the bookings the entries were made from are its results. -/
structure ObservedTrips where
  pending : Bool
  shown : List (Booking × Option Posting)

structure TripsScreen where
  store : ListenerState
  state : TripsState
  observed : TripsStream → ObservedTrips

/-- A remote change or a listener's snapshot; a change of the local store by another screen; the
delivery of a stream. -/
inductive TripsEvent
  | remote (a : ListenerAction)
  | stored (realm : Realm)
  | deliver (stream : TripsStream)

namespace TripsScreen

open TripsCubit

variable (z : Zone) (text : DoubleText) (nowMs : ℤ)

def listen (s : ListenerState) : ListenerState :=
  [TripsStream.upcoming, .previous].foldl (fun s stream =>
    (s.step z .booking (.observe (remoteQuery nowMs stream).build)).getD s) s

def start (s : ListenerState) : TripsScreen where
  store := listen z nowMs s
  state := {}
  observed _ := ⟨true, []⟩

/-- A stream whose results change gets something to deliver. -/
def notice (s : TripsScreen) (store : ListenerState) : TripsScreen := { s with
  store := store
  observed := fun stream => { s.observed stream with
    pending := (s.observed stream).pending ||
      decide (results store.realm nowMs stream ≠ results s.store.realm nowMs stream) } }

def step (s : TripsScreen) : TripsEvent → Option TripsScreen
  | .remote a => (s.store.step z .booking a).map (s.notice nowMs)
  | .stored realm => some (s.notice nowMs { s.store with realm := realm })
  | .deliver stream =>
      let rows := results s.store.realm nowMs stream
      if (s.observed stream).pending then some { s with
        state := onBookingsChanged z text rows s.state stream
        observed := Function.update s.observed stream ⟨false, rows⟩ }
      else none

def bookings (s : TripsScreen) : List Booking := (s.store.realm.all .booking).map Row.entity

/-- Every entry is made from a booking of the user, and once both streams have delivered, every
booking of the user with a check-out has an entry. -/
structure ListsOwnTrips (userId : String) (s : TripsScreen) : Prop where
  entries : ∀ stream, s.state.trips stream = bookingsToTripModels z text (s.observed stream).shown
  own : ∀ stream, ∀ row ∈ (s.observed stream).shown, row.1.userId = some userId
  complete : (∀ stream, (s.observed stream).pending = false) → ∀ b ∈ s.bookings,
    b.userId = some userId → b.checkOut ≠ none →
      ∃ item ∈ s.state.upcomingTrips ++ s.state.previousTrips, item.id = b.id

/-- The check-out is on the stream's side of the moment. -/
def InRange : TripsStream → Booking → Prop
  | .upcoming, b => ∃ t, b.checkOut = some t ∧ nowMs * 1000 ≤ t
  | .previous, b => ∃ t, b.checkOut = some t ∧ t < nowMs * 1000

/-- When a stream delivers, every booking in its range that is known locally is the user's. -/
def DeliversOwn (userId : String) (s : TripsScreen) : TripsEvent → Prop
  | .deliver stream => (s.observed stream).pending = true → ∀ b ∈ s.bookings,
      InRange nowMs stream b → b.userId = some userId
  | _ => True

instance (nowMs : ℤ) (stream : TripsStream) (b : Booking) : Decidable (InRange nowMs stream b) :=
  match stream with
  | .upcoming => decidable_of_iff (b.checkOut.any (fun t => decide (nowMs * 1000 ≤ t)) = true)
      (by simp [InRange, Option.any_eq_true])
  | .previous => decidable_of_iff (b.checkOut.any (fun t => decide (t < nowMs * 1000)) = true)
      (by simp [InRange, Option.any_eq_true])

instance (nowMs : ℤ) (userId : String) (s : TripsScreen) (e : TripsEvent) :
    Decidable (DeliversOwn nowMs userId s e) :=
  match e with
  | .deliver stream => inferInstanceAs (Decidable ((s.observed stream).pending = true →
      ∀ b ∈ s.bookings, InRange nowMs stream b → b.userId = some userId))
  | .remote _ => .isTrue trivial
  | .stored _ => .isTrue trivial

section Queries

open RealmQueryBuilder

variable {nowMs} {r : Realm} {b : Booking} {t : DateTime} {stream : TripsStream}

theorem holds_greaterThanOrEqual_date_iff (c : Option ℤ) :
    Rql.holds .greaterThanOrEqual (.date? c) (.dateTime t) = true ↔
      ∃ checkOut, c = some checkOut ∧ t.microsecondsSinceEpoch ≤ checkOut := by
  cases c with
  | none => simp [Rql.holds, Rql.scalar]
  | some checkOut =>
      simp [Rql.holds, Rql.scalar, Scalar.order, Scalar.typeOrder, DateTime.utc, compare_lt_iff_lt]

theorem holds_lessThan_date_iff (c : Option ℤ) :
    Rql.holds .lessThan (.date? c) (.dateTime t) = true ↔
      ∃ checkOut, c = some checkOut ∧ checkOut < t.microsecondsSinceEpoch := by
  cases c with
  | none => simp [Rql.holds, Rql.scalar]
  | some checkOut =>
      simp [Rql.holds, Rql.scalar, Scalar.order, Scalar.typeOrder, DateTime.utc, compare_lt_iff_lt]

/-- The local query of a stream is one comparison, which the bookings in its range pass. -/
theorem exists_localQuery (hnow : |nowMs| ≤ DateTime.maxMillisecondsSinceEpoch)
    (stream : TripsStream) : ∃ query cs, localQuery nowMs stream = some query ∧
      query.Represents cs [] ∧ query.limit? = none ∧
      ∀ b : Booking, query.accepts .booking b = true ↔ InRange nowMs stream b := by
  have htime : DateTime.fromMillisecondsSinceEpoch nowMs = some ⟨nowMs * 1000, false⟩ := by
    rw [DateTime.fromMillisecondsSinceEpoch, if_pos hnow]
  have hplain : Rql.Plain "checkOut".toList := by decide
  cases stream with
  | upcoming =>
      have hquery := represents_new.greaterThanOrEqualTo hplain (.dateTime ⟨nowMs * 1000, false⟩)
      refine ⟨_, _, ?_, hquery, rfl, ?_⟩
      · rw [localQuery, BookingRepository.localCheckOutFrom, htime]
        rfl
      · intro b
        rw [hquery.accepts_eq]
        exact (Bool.and_eq_true_iff.trans (and_iff_left rfl)).trans
          (holds_greaterThanOrEqual_date_iff b.checkOut)
  | previous =>
      have hquery := represents_new.lessThan hplain (.dateTime ⟨nowMs * 1000, false⟩)
      refine ⟨_, _, ?_, hquery, rfl, ?_⟩
      · rw [localQuery, BookingRepository.localCheckOutBefore, htime]
        rfl
      · intro b
        rw [hquery.accepts_eq]
        exact (Bool.and_eq_true_iff.trans (and_iff_left rfl)).trans
          (holds_lessThan_date_iff b.checkOut)

/-- The results of a stream are the bookings in its range. -/
theorem mem_results_iff (hnow : |nowMs| ≤ DateTime.maxMillisecondsSinceEpoch) :
    b ∈ (results r nowMs stream).map Prod.fst ↔
      b ∈ (r.all .booking).map Row.entity ∧ InRange nowMs stream b := by
  obtain ⟨query, cs, hquery, hrepresents, hlimit, haccepts⟩ := exists_localQuery hnow stream
  have hfst : (results r nowMs stream).map Prod.fst = getEntities r .booking query := by
    rw [results, hquery]
    dsimp only
    rw [List.map_map]
    exact List.map_id _
  rw [hfst, mem_getEntities_iff hrepresents hlimit, ← haccepts, Realm.mem_entities_iff]

theorem exists_inRange (nowMs : ℤ) (h : b.checkOut ≠ none) : ∃ stream, InRange nowMs stream b := by
  obtain ⟨t, ht⟩ := Option.ne_none_iff_exists'.mp h
  by_cases hle : nowMs * 1000 ≤ t
  · exact ⟨.upcoming, t, ht, hle⟩
  · exact ⟨.previous, t, ht, not_le.mp hle⟩

end Queries

section Runs

variable {z text nowMs} {userId : String} {s s' : TripsScreen} {e : TripsEvent}

/-- The entries are made from what was delivered last, which is the result as long as there is
nothing new to deliver. -/
structure Inv (z : Zone) (text : DoubleText) (nowMs : ℤ) (s : TripsScreen) : Prop where
  entries : ∀ stream, s.state.trips stream = bookingsToTripModels z text (s.observed stream).shown
  current : ∀ stream, (s.observed stream).pending = false →
    (s.observed stream).shown = results s.store.realm nowMs stream

theorem inv_start (store : ListenerState) : Inv z text nowMs (start z nowMs store) :=
  ⟨fun stream => by cases stream <;> rfl, nofun⟩

theorem inv_notice (h : Inv z text nowMs s) (store : ListenerState) :
    Inv z text nowMs (s.notice nowMs store) := by
  refine ⟨h.entries, ?_⟩
  intro stream hpending
  obtain ⟨hbefore, hsame⟩ := Bool.or_eq_false_iff.mp hpending
  exact (h.current stream hbefore).trans (not_not.mp (of_decide_eq_false hsame)).symm

theorem trips_onBookingsChanged (rows : List (Booking × Option Posting)) (state : TripsState)
    (stream other : TripsStream) : (onBookingsChanged z text rows state stream).trips other =
      if other = stream then bookingsToTripModels z text rows else state.trips other := by
  cases stream <;> cases other <;> rfl

theorem inv_step (h : Inv z text nowMs s) (hstep : step z text nowMs s e = some s') :
    Inv z text nowMs s' := by
  cases e with
  | remote a =>
      obtain ⟨store, -, rfl⟩ := Option.map_eq_some_iff.mp hstep
      exact inv_notice h store
  | stored realm =>
      cases hstep
      exact inv_notice h _
  | deliver stream =>
      simp only [step] at hstep
      split_ifs at hstep
      cases hstep
      refine ⟨?_, ?_⟩
      · intro other
        rw [trips_onBookingsChanged]
        dsimp only
        rw [Function.update_apply]
        split_ifs
        · rfl
        · exact h.entries other
      · intro other hpending
        dsimp only at hpending ⊢
        rw [Function.update_apply] at hpending ⊢
        split_ifs at hpending ⊢ with hother
        · rw [hother]
        · exact h.current other hpending

/-- What the code keeps anyway: with the entries up to date, every booking of the range has one. -/
theorem listsOwnTrips_iff (hnow : |nowMs| ≤ DateTime.maxMillisecondsSinceEpoch)
    (h : Inv z text nowMs s) : ListsOwnTrips z text userId s ↔
      ∀ stream, ∀ row ∈ (s.observed stream).shown, row.1.userId = some userId := by
  refine ⟨ListsOwnTrips.own, fun hown => ⟨h.entries, hown, ?_⟩⟩
  intro hsettled b hb _ hcheckOut
  obtain ⟨stream, hrange⟩ := exists_inRange nowMs hcheckOut
  obtain ⟨row, hrow, rfl⟩ := List.mem_map.mp ((mem_results_iff hnow).mpr ⟨hb, hrange⟩)
  rw [← h.current stream (hsettled stream)] at hrow
  have hitem : bookingToTripModel z text row ∈ s.state.trips stream := by
    rw [h.entries]
    exact List.mem_map_of_mem hrow
  refine ⟨bookingToTripModel z text row, ?_, rfl⟩
  cases stream with
  | upcoming => exact List.mem_append_left _ hitem
  | previous => exact List.mem_append_right _ hitem

/-- A delivery shows the user's bookings only if there are no others in the stream's range. -/
theorem listsOwnTrips_step_iff (hnow : |nowMs| ≤ DateTime.maxMillisecondsSinceEpoch)
    (hinv : Inv z text nowMs s) (h : ListsOwnTrips z text userId s)
    (hstep : step z text nowMs s e = some s') :
    ListsOwnTrips z text userId s' ↔ DeliversOwn nowMs userId s e := by
  rw [listsOwnTrips_iff hnow (inv_step hinv hstep)]
  cases e with
  | remote a =>
      obtain ⟨store, -, rfl⟩ := Option.map_eq_some_iff.mp hstep
      exact iff_of_true h.own trivial
  | stored realm =>
      cases hstep
      exact iff_of_true h.own trivial
  | deliver stream =>
      simp only [step] at hstep
      split_ifs at hstep with hpending
      cases hstep
      have hrows : (∀ row ∈ results s.store.realm nowMs stream, row.1.userId = some userId) ↔
          ∀ b ∈ s.bookings, InRange nowMs stream b → b.userId = some userId := by
        rw [← List.forall_mem_map (f := Prod.fst) (P := fun b : Booking => b.userId = some userId)]
        simp only [mem_results_iff hnow, bookings, and_imp]
      constructor
      · intro hown _
        refine hrows.mp ?_
        have hstream := hown stream
        dsimp only at hstream
        rwa [Function.update_self] at hstream
      · intro hdeliver other row hrow
        dsimp only at hrow
        rw [Function.update_apply] at hrow
        split_ifs at hrow
        · exact hrows.mpr (hdeliver hpending) row hrow
        · exact h.own other row hrow

/-- The Trips screen lists the user's bookings and no others exactly in the runs in which no stream
delivers while a booking of another user is in its range. -/
theorem listsOwnTrips_iff_deliversOwn (z : Zone) (text : DoubleText) (userId : String)
    (now : DateTime) (hnow : now.Storable) (store : ListenerState) (events : List TripsEvent) :
    Execution.Always (step z text now.millisecondsSinceEpoch) (ListsOwnTrips z text userId)
        (start z now.millisecondsSinceEpoch store) events ↔
      Execution.StepsMeet (step z text now.millisecondsSinceEpoch)
        (DeliversOwn now.millisecondsSinceEpoch userId)
        (start z now.millisecondsSinceEpoch store) events := by
  have hbound : |now.millisecondsSinceEpoch| ≤ DateTime.maxMillisecondsSinceEpoch := hnow
  refine Execution.always_iff_stepsMeet (fun s e s' hs hstep => inv_step hs hstep) ?_
    (fun s e s' hinv hs hstep => listsOwnTrips_step_iff hbound hinv hs hstep) events ?_
    (inv_start store)
  · intro s e hnone
    cases e with
    | remote a => trivial
    | stored realm => trivial
    | deliver stream =>
        intro hpending
        simp only [step, if_pos hpending] at hnone
        cases hnone
  · rw [listsOwnTrips_iff hbound (inv_start store)]
    exact fun stream row hrow => absurd hrow List.not_mem_nil

section SecondNight

def oneStay : ListenerState := ⟨DartMap.ofList [("b1", secondNight)], ∅, Realm.empty⟩

def stayShown : List TripsEvent :=
  [.remote (.deliver (BookingRepository.checkOutFromQuery 0).build), .deliver .upcoming,
    .deliver .previous]

theorem listsOwnTrips_iff_deliversOwn_g1 : ∃ s,
    Execution.run (step Zone.utc wholeText 0) (start Zone.utc 0 oneStay) stayShown = some s ∧
    s.state.upcomingTrips.map (fun item => item.id) = ["b1"] ∧
    ListsOwnTrips Zone.utc wholeText "g1" s := by
  have hmeet : Execution.StepsMeet (step Zone.utc wholeText 0) (DeliversOwn 0 "g1")
      (start Zone.utc 0 oneStay) stayShown := by
    decide +kernel
  have hrun : (Execution.run (step Zone.utc wholeText 0) (start Zone.utc 0 oneStay)
      stayShown).map (fun s => s.state.upcomingTrips.map (fun item => item.id)) =
        some ["b1"] := by
    decide +kernel
  obtain ⟨s, hs, hitems⟩ := Option.map_eq_some_iff.mp hrun
  exact ⟨s, hs, hitems, ((listsOwnTrips_iff_deliversOwn Zone.utc wholeText "g1" ⟨0, true⟩
    (by decide) oneStay stayShown).mpr hmeet).final hs⟩

/-- Signed in as another guest, the screen shows the stay all the same. -/
theorem stay_of_g1_is_listed_for_g2 : ∃ s,
    Execution.run (step Zone.utc wholeText 0) (start Zone.utc 0 oneStay) stayShown = some s ∧
    ¬ ListsOwnTrips Zone.utc wholeText "g2" s := by
  have hrun : (Execution.run (step Zone.utc wholeText 0) (start Zone.utc 0 oneStay)
      stayShown).map (fun s => (s.observed .upcoming).shown.map (fun row => row.1.userId)) =
        some [some "g1"] := by
    decide +kernel
  obtain ⟨s, hs, husers⟩ := Option.map_eq_some_iff.mp hrun
  refine ⟨s, hs, ?_⟩
  intro hlists
  obtain ⟨row, rest, hrows, huser, -⟩ := List.map_eq_cons_iff.mp husers
  have hown := hlists.own .upcoming row (hrows ▸ List.mem_cons_self)
  rw [huser] at hown
  exact absurd hown (by decide)

end SecondNight

end Runs

end TripsScreen

end AirBnbClone
