import AirBnbClone.BookPostingCubit

/-!
# What loading the bookings of a posting marks

`getBookingsForPosting` mirrors every booking of the posting and returns the local rows, among them
one for each remote booking. `unselectableDates` then marks the days of each row. The marked days
start at the UTC day of the check-in and are counted in whole 24-hour periods, so that they contain
every night of the stay unless a clock change east of Greenwich shortens it.
-/

namespace AirBnbClone

open FirestoreMapper FireStoreService RealmService BookPostingCubit

section Loading

open BookingRepository

variable {z : Zone} {postingId : String} {w w' : World} {bookings : List Booking}

theorem fields_of_fromMap_ok {D : Doc} {x : Booking} (h : fromMap z .booking D = .ok x) :
    Cast.string? (D.get "posting_id") = .ok x.postingId ∧
      Cast.parseDateTime z (D.get "check_in") = .ok x.checkIn ∧
      Cast.parseDateTime z (D.get "check_out") = .ok x.checkOut :=
  ⟨ExceptTraverse.map_injective (fun _ _ => Property.text?.inj)
      (Option.some.inj (getElem?_of_fromMap_ok h 1)),
    ExceptTraverse.map_injective (fun _ _ => Property.date?.inj)
      (Option.some.inj (getElem?_of_fromMap_ok h 5)),
    ExceptTraverse.map_injective (fun _ _ => Property.date?.inj)
      (Option.some.inj (getElem?_of_fromMap_ok h 6))⟩

theorem accepts_bookingsForPostingQuery {D : Doc} (h : D.get "posting_id" = .string postingId) :
    (bookingsForPostingQuery postingId none).build.accepts D = true := by
  have hlookup : D.lookup "posting_id" = some (.string postingId) :=
    Doc.lookup_of_get h (by simp [Value.string])
  have hsame : compareOfLessAndEq postingId postingId = .eq := by simp [compareOfLessAndEq]
  rw [Query.accepts_build_eq rfl]
  simp [bookingsForPostingQuery, FirestoreQueryBuilder.equalTo, FirestoreQueryBuilder.new,
    Condition.accepts, hlookup, Value.order, Scalar.order, hsame]

/-- Every remote booking of the posting is among the rows that are returned. -/
theorem mem_getBookingsForPosting
    (hown : ∀ k D, w.remote.doc FirestoreCollection.booking k = some D → OwnId k D)
    (h : getBookingsForPosting z postingId none w = (.ok bookings, w')) {k : String} {D : Doc}
    (hD : w.remote.doc FirestoreCollection.booking k = some D)
    (hposting : D.get "posting_id" = .string postingId) :
    ∃ x, fromDocumentSnapshot z .booking k D = .ok x ∧ x ∈ bookings := by
  unfold getBookingsForPosting getCollection at h
  dsimp only at h
  set docs := (bookingsForPostingQuery postingId none).build.results
    (w.remote.docs (bookingsForPostingQuery postingId none).collection)
  generalize hstore : storeAll z .booking docs.entries w.realm = stored at h
  obtain ⟨result, r'⟩ := stored
  cases result with
  | error e => cases h
  | ok u =>
      cases h
      have hmem : (⟨k, D⟩ : Sigma fun _ : String => Doc) ∈ docs.entries :=
        Query.mem_entries_results rfl (AList.mem_lookup_iff.mp hD)
          (accepts_bookingsForPostingQuery hposting)
      have howns : ∀ e ∈ docs.entries, OwnId e.1 e.2 := by
        intro e he
        exact hown e.1 e.2 (AList.mem_lookup_iff.mpr (Query.mem_entries_of_results he))
      obtain ⟨x, hx, hrow⟩ := getEntity_storeAll howns docs.nodupKeys hstore hmem
      refine ⟨x, hx, ?_⟩
      obtain ⟨row, hfind, rfl⟩ := Option.map_eq_some_iff.mp hrow
      have hfield := (fields_of_fromMap_ok hx).1
      rw [withSnapshotId_get_of_ne (by decide), hposting] at hfield
      unfold bookingsForPosting
      refine List.mem_filter.mpr ⟨List.mem_map_of_mem ((Realm.mem_all_iff row).mpr ⟨k, hfind⟩), ?_⟩
      exact decide_eq_true ⟨(Except.ok.inj hfield).symm, nofun⟩

end Loading

section Marking

variable {z : Zone}

def midnight (z : Zone) (n : ℤ) : ℤ := (z.date n).microsecondsSinceEpoch

/-- Clock changes do not take a night from the stay from day `n` to day `m`: it lasts 24 hours per
night, or midnight of the check-in is not before UTC midnight and no more than 24 hours are lost. -/
def KeepsItsNights (z : Zone) (n m : ℤ) : Prop :=
  (m - n) * microsecondsPerDay ≤ midnight z m - midnight z n ∨
    (n * microsecondsPerDay ≤ midnight z n ∧
      (m - n - 1) * microsecondsPerDay ≤ midnight z m - midnight z n)

instance (n m : ℤ) : Decidable (KeepsItsNights z n m) := inferInstanceAs (Decidable (_ ∨ _))

/-- Without clock changes no stay loses a night. -/
theorem keepsItsNights_fixed (offset : ℤ) (h : |offset * 1000| < microsecondsPerDay) (n m : ℤ) :
    KeepsItsNights (Zone.fixed offset h) n m := by
  refine .inl (le_of_eq ?_)
  simp only [midnight, Zone.date, Zone.fixed]
  ring

theorem date_mem_getDaysInBetween {start finish : DateTime} {n : ℤ}
    (hstart : start.calendarDay z ≤ n)
    (hfinish : n ≤ start.calendarDay z + finish.differenceInDays start) :
    z.date n ∈ getDaysInBetween z start finish := by
  refine List.mem_map.mpr ⟨(n - start.calendarDay z).toNat, ?_, ?_⟩
  · rw [List.mem_range]
    omega
  · rw [DateTime.dateTime_fields_add]
    congr 1
    omega

/-- The days marked for a stay contain its nights. -/
theorem night_mem_getDaysInBetween {first last n : ℤ} (hkeeps : KeepsItsNights z first last)
    (hfirst : first ≤ n) (hlast : n < last) :
    z.date n ∈ getDaysInBetween z (.utc (midnight z first)) (.utc (midnight z last)) := by
  have hmono : midnight z first < midnight z last :=
    DateTime.date_strictMono z (hfirst.trans_lt hlast)
  have hnights : (DateTime.utc (midnight z last)).differenceInDays (.utc (midnight z first)) =
      (midnight z last - midnight z first) / microsecondsPerDay :=
    Int.tdiv_eq_ediv_of_nonneg (sub_nonneg.mpr hmono.le)
  have hnear : |midnight z first - first * microsecondsPerDay| < microsecondsPerDay :=
    z.instantOf_near first
  rw [abs_lt] at hnear
  unfold KeepsItsNights at hkeeps
  refine date_mem_getDaysInBetween ?_ ?_
  · rw [DateTime.calendarDay_utc]
    unfold microsecondsPerDay at *
    omega
  · rw [DateTime.calendarDay_utc, hnights]
    unfold microsecondsPerDay at *
    omega

theorem midnight_of_parseDateTime {v : Option ℤ} {n : ℤ}
    (h : Cast.parseDateTime z (.int (z.date n).millisecondsSinceEpoch) = .ok v) :
    v = some (midnight z n) := by
  simp only [Cast.parseDateTime, DateTime.fromMillisecondsSinceEpoch] at h
  split_ifs at h
  cases h
  rw [DateTime.millisecondsSinceEpoch_date]
  rfl

/-- A stay as `saveBooking` stores it, from midnight of one day to midnight of another. -/
def IsStay (z : Zone) (D : Doc) (first last : ℤ) : Prop :=
  D.get "check_in" = .int (z.date first).millisecondsSinceEpoch ∧
    D.get "check_out" = .int (z.date last).millisecondsSinceEpoch

/-- After loading, every night of a remote booking of the posting is marked. -/
theorem night_mem_unselectableDates {postingId : String} {w w' : World} {bookings : List Booking}
    (hown : ∀ k D, w.remote.doc FirestoreCollection.booking k = some D → OwnId k D)
    (h : BookingRepository.getBookingsForPosting z postingId none w = (.ok bookings, w'))
    {k : String} {D : Doc} (hD : w.remote.doc FirestoreCollection.booking k = some D)
    (hposting : D.get "posting_id" = .string postingId) {first last n : ℤ}
    (hstay : IsStay z D first last) (hkeeps : KeepsItsNights z first last) (hfirst : first ≤ n)
    (hlast : n < last) : z.date n ∈ unselectableDates z (bookings.map Device.valid) := by
  obtain ⟨x, hx, hmem⟩ := mem_getBookingsForPosting hown h hD hposting
  obtain ⟨-, hin, hout⟩ := fields_of_fromMap_ok hx
  rw [withSnapshotId_get_of_ne (by decide), hstay.1] at hin
  rw [withSnapshotId_get_of_ne (by decide), hstay.2] at hout
  unfold unselectableDates
  rw [List.mem_toFinset, List.mem_flatMap]
  refine ⟨Device.valid x, List.mem_map_of_mem hmem, ?_⟩
  simp only [bookedDates, Device.valid, midnight_of_parseDateTime hin,
    midnight_of_parseDateTime hout, if_true]
  exact night_mem_getDaysInBetween hkeeps hfirst hlast

end Marking

end AirBnbClone
