import AirBnbClone.LoadedBookings

/-!
# The days of a booking that is stored and loaded again

`saveBooking` stores local midnights as milliseconds, Realm gives the same instants back with UTC
fields, and the calendars of guest and host count whole 24-hour periods from the UTC day of the
check-in. What they show is the chosen range only where local midnight does not precede UTC
midnight and no clock change shortens the stay.
-/

namespace AirBnbClone

open FirestoreMapper FireStoreService RealmService BookPostingCubit BookingRepository

namespace BookingsCubit

/-- The host's calendar repeats the guest's computation. -/
def getSelectableDates (z : Zone) (bookings : List (Managed Booking)) : Finset DateTime :=
  unselectableDates z bookings

end BookingsCubit

def stayDays (z : Zone) (first last : ℤ) : Finset DateTime :=
  ((List.range (last - first + 1).toNat).map (fun i : ℕ => z.date (first + i))).toFinset

/-- Local midnight of the check-in is not before UTC midnight, and the stay lasts at least 24 hours
per night. -/
def KeepsItsDays (z : Zone) (first last : ℤ) : Prop :=
  first * microsecondsPerDay ≤ midnight z first ∧
    (last - first) * microsecondsPerDay ≤ midnight z last - midnight z first

instance (z : Zone) (first last : ℤ) : Decidable (KeepsItsDays z first last) :=
  inferInstanceAs (Decidable (_ ∧ _))

section Days

variable {z : Zone} {first last : ℤ}

theorem mem_stayDays {t : DateTime} :
    t ∈ stayDays z first last ↔ ∃ n, t = z.date n ∧ first ≤ n ∧ n ≤ last := by
  unfold stayDays
  rw [List.mem_toFinset, List.mem_map]
  constructor
  · rintro ⟨i, hi, rfl⟩
    rw [List.mem_range] at hi
    exact ⟨first + i, rfl, by omega, by omega⟩
  · rintro ⟨n, rfl, hfirst, hlast⟩
    refine ⟨(n - first).toNat, ?_, ?_⟩
    · rw [List.mem_range]
      omega
    · congr 1
      omega

theorem mem_stayDays_iff {n : ℤ} : z.date n ∈ stayDays z first last ↔ first ≤ n ∧ n ≤ last := by
  rw [mem_stayDays]
  constructor
  · rintro ⟨m, hm, hfirst, hlast⟩
    rw [DateTime.date_injective z hm]
    exact ⟨hfirst, hlast⟩
  · rintro ⟨hfirst, hlast⟩
    exact ⟨n, rfl, hfirst, hlast⟩

theorem mem_getDaysInBetween_iff {start finish t : DateTime} :
    t ∈ getDaysInBetween z start finish ↔ ∃ n, t = z.date n ∧ start.calendarDay z ≤ n ∧
      n ≤ start.calendarDay z + finish.differenceInDays start := by
  constructor
  · intro h
    obtain ⟨i, hi, rfl⟩ := List.mem_map.mp h
    rw [List.mem_range] at hi
    refine ⟨start.calendarDay z + i, DateTime.dateTime_fields_add z start i, ?_, ?_⟩
    · omega
    · omega
  · rintro ⟨n, rfl, hstart, hfinish⟩
    exact date_mem_getDaysInBetween hstart hfinish

/-- The days counted between two instants are those of the stay exactly when the first instant lies
on its first day and the right number of whole days has passed. -/
theorem getDaysInBetween_eq_stayDays_iff {start finish : DateTime}
    (hpassed : 0 ≤ finish.differenceInDays start) (h : first ≤ last) :
    (getDaysInBetween z start finish).toFinset = stayDays z first last ↔
      start.calendarDay z = first ∧ finish.differenceInDays start = last - first := by
  have hmem (n : ℤ) : z.date n ∈ (getDaysInBetween z start finish).toFinset ↔
      start.calendarDay z ≤ n ∧ n ≤ start.calendarDay z + finish.differenceInDays start := by
    rw [List.mem_toFinset, mem_getDaysInBetween_iff]
    constructor
    · rintro ⟨m, hm, hstart, hfinish⟩
      rw [DateTime.date_injective z hm]
      exact ⟨hstart, hfinish⟩
    · rintro ⟨hstart, hfinish⟩
      exact ⟨n, rfl, hstart, hfinish⟩
  constructor
  · intro heq
    have hdays (n : ℤ) : (start.calendarDay z ≤ n ∧
        n ≤ start.calendarDay z + finish.differenceInDays start) ↔ first ≤ n ∧ n ≤ last := by
      rw [← hmem, heq, mem_stayDays_iff]
    have hfirst := (hdays first).mpr ⟨le_refl _, h⟩
    have hstart := (hdays (start.calendarDay z)).mp
      ⟨le_refl _, le_add_of_nonneg_right hpassed⟩
    have hlast := (hdays last).mpr ⟨h, le_refl _⟩
    have hfinish := (hdays (start.calendarDay z + finish.differenceInDays start)).mp
      ⟨le_add_of_nonneg_right hpassed, le_refl _⟩
    omega
  · rintro ⟨hstart, hnights⟩
    ext t
    constructor
    · intro ht
      obtain ⟨n, rfl, -, -⟩ := mem_getDaysInBetween_iff.mp (List.mem_toFinset.mp ht)
      have hn := (hmem n).mp ht
      exact mem_stayDays_iff.mpr (by omega)
    · intro ht
      obtain ⟨n, rfl, hfirst, hlast⟩ := mem_stayDays.mp ht
      exact (hmem n).mpr (by omega)

theorem differenceInDays_midnight (h : first < last) :
    (DateTime.utc (midnight z last)).differenceInDays (.utc (midnight z first)) =
      (midnight z last - midnight z first) / microsecondsPerDay :=
  Int.tdiv_eq_ediv_of_nonneg (sub_nonneg.mpr (DateTime.date_strictMono z h).le)

/-- Counted in whole periods from its UTC day, a stay keeps its days exactly under the two
conditions. -/
theorem days_midnight_eq_iff (h : first < last) :
    (getDaysInBetween z (.utc (midnight z first)) (.utc (midnight z last))).toFinset =
      stayDays z first last ↔ KeepsItsDays z first last := by
  have hmono : midnight z first < midnight z last := DateTime.date_strictMono z h
  have hpassed : 0 ≤ (midnight z last - midnight z first) / microsecondsPerDay :=
    Int.ediv_nonneg (sub_nonneg.mpr hmono.le) (by decide)
  have hfirst : |midnight z first - first * microsecondsPerDay| < microsecondsPerDay :=
    z.instantOf_near first
  have hlast : |midnight z last - last * microsecondsPerDay| < microsecondsPerDay :=
    z.instantOf_near last
  rw [abs_lt] at hfirst hlast
  rw [getDaysInBetween_eq_stayDays_iff (by rw [differenceInDays_midnight h]; exact hpassed) h.le,
    differenceInDays_midnight h, DateTime.calendarDay_utc]
  unfold KeepsItsDays
  unfold microsecondsPerDay at *
  omega

end Days

section RoundTrip

variable {z : Zone} {postingId : String} {w w' : World} {bookings : List Booking}

/-- Among the rows that are loaded, the one with a stored document's id is that document's. -/
theorem eq_of_mem_getBookingsForPosting
    (hown : ∀ k D, w.remote.doc FirestoreCollection.booking k = some D → OwnId k D)
    (h : getBookingsForPosting z postingId none w = (.ok bookings, w')) {k : String} {D : Doc}
    (hD : w.remote.doc FirestoreCollection.booking k = some D)
    (hposting : D.get "posting_id" = .string postingId) {x : Booking} (hx : x ∈ bookings)
    (hid : x.id = k) : fromDocumentSnapshot z .booking k D = .ok x := by
  obtain ⟨y, hy, hmem⟩ := mem_getBookingsForPosting hown h hD hposting
  have hyid : Entity.id .booking y = k := id_of_fromDocumentSnapshot_ok (hown k D hD).2 hy
  have hrows : bookings = bookingsForPosting postingId none w'.realm := by
    unfold getBookingsForPosting at h
    split at h
    · cases h
    · cases h
      rfl
  have hfind {b : Booking} (hb : b ∈ bookings) :
      getEntity w'.realm .booking (Entity.id .booking b) = some b := by
    rw [hrows] at hb
    obtain ⟨row, hrow, rfl⟩ := List.mem_map.mp (List.mem_filter.mp hb).1
    obtain ⟨key, hkey⟩ := (Realm.mem_all_iff row).mp hrow
    unfold getEntity
    rw [Realm.id_of_find hkey, hkey]
    rfl
  have hxid : Entity.id .booking x = k := hid
  have hsame : some x = some y := by
    rw [← hfind hx, ← hfind hmem, hxid, hyid]
  rw [hy, Option.some.inj hsame]

def storedBooking (z : Zone) (k postingId userId : String) (first last : ℤ)
    (paymentAmount : ℚ) : Doc :=
  (bookingData postingId userId (z.date first) (z.date last) paymentAmount).insert "id" (.string k)

theorem unselectableDates_storedBooking {k userId : String} {first last : ℤ} {paymentAmount : ℚ}
    {x : Booking}
    (h : fromDocumentSnapshot z .booking k
      (storedBooking z k postingId userId first last paymentAmount) = .ok x) :
    unselectableDates z [Device.valid x] =
      (getDaysInBetween z (.utc (midnight z first)) (.utc (midnight z last))).toFinset := by
  obtain ⟨-, hin, hout⟩ := fields_of_fromMap_ok h
  rw [withSnapshotId_get_of_ne (by decide)] at hin hout
  unfold unselectableDates
  rw [List.flatMap_cons, List.flatMap_nil, List.append_nil]
  simp only [bookedDates, Device.valid, midnight_of_parseDateTime hin,
    midnight_of_parseDateTime hout, if_true]

/-- A booking that is stored and loaded again marks the days of its stay, for the guest and for the
host, exactly when the zone lets it keep them. -/
theorem bookedDays_roundTrip_iff (z : Zone) (k postingId userId : String) (first last : ℤ)
    (paymentAmount : ℚ) (w w' : World) (bookings : List Booking) (hlt : first < last)
    (hown : ∀ k D, w.remote.doc FirestoreCollection.booking k = some D → OwnId k D)
    (hD : w.remote.doc FirestoreCollection.booking k =
      some (storedBooking z k postingId userId first last paymentAmount))
    (hload : getBookingsForPosting z postingId none w = (.ok bookings, w')) :
    (∃ x ∈ bookings, x.id = k ∧
      unselectableDates z [Device.valid x] = stayDays z first last ∧
      BookingsCubit.getSelectableDates z [Device.valid x] = stayDays z first last) ↔
    KeepsItsDays z first last := by
  constructor
  · rintro ⟨x, hx, hid, hdays, -⟩
    have hrow := eq_of_mem_getBookingsForPosting hown hload hD rfl hx hid
    rw [unselectableDates_storedBooking hrow] at hdays
    exact (days_midnight_eq_iff hlt).mp hdays
  · intro hkeeps
    obtain ⟨x, hrow, hx⟩ := mem_getBookingsForPosting hown hload hD rfl
    have hid : x.id = k := id_of_fromDocumentSnapshot_ok (hown k _ hD).2 hrow
    have hdays : unselectableDates z [Device.valid x] = stayDays z first last := by
      rw [unselectableDates_storedBooking hrow]
      exact (days_midnight_eq_iff hlt).mpr hkeeps
    exact ⟨x, hx, hid, hdays, hdays⟩

def twoNights (z : Zone) : World :=
  ⟨Firestore.empty.set FirestoreCollection.booking "b1" (storedBooking z "b1" "p1" "g1" 8 10 100),
    Realm.empty⟩

theorem ownId_twoNights (z : Zone) (k : String) (D : Doc)
    (hD : (twoNights z).remote.doc FirestoreCollection.booking k = some D) : OwnId k D := by
  unfold twoNights Firestore.set at hD
  dsimp only at hD
  rw [Firestore.doc_putDoc] at hD
  split_ifs at hD with hk
  · cases hD
    rw [hk.2]
    exact ⟨by decide, .inr rfl⟩
  · cases hD

theorem bookedDays_roundTrip_iff_greenwich : ∃ bookings w',
    getBookingsForPosting Zone.utc "p1" none (twoNights Zone.utc) = (.ok bookings, w') ∧
      ∃ x ∈ bookings, x.id = "b1" ∧
        unselectableDates Zone.utc [Device.valid x] = stayDays Zone.utc 8 10 ∧
        BookingsCubit.getSelectableDates Zone.utc [Device.valid x] = stayDays Zone.utc 8 10 := by
  refine ⟨_, _, rfl, ?_⟩
  exact (bookedDays_roundTrip_iff Zone.utc "b1" "p1" "g1" 8 10 100 (twoNights Zone.utc) _ _
    (by decide) (ownId_twoNights Zone.utc) rfl rfl).mpr (by decide)

def hanoi : Zone := Zone.fixed 25200000 (by decide)

/-- Seven hours east of Greenwich local midnight falls on the UTC day before. -/
theorem hanoi_shifts_the_days : ∃ bookings w',
    getBookingsForPosting hanoi "p1" none (twoNights hanoi) = (.ok bookings, w') ∧
      ¬ ∃ x ∈ bookings, x.id = "b1" ∧
        unselectableDates hanoi [Device.valid x] = stayDays hanoi 8 10 ∧
        BookingsCubit.getSelectableDates hanoi [Device.valid x] = stayDays hanoi 8 10 := by
  obtain ⟨bookings, w', hload⟩ : ∃ bookings w',
    getBookingsForPosting hanoi "p1" none (twoNights hanoi) = (.ok bookings, w') := ⟨_, _, rfl⟩
  refine ⟨bookings, w', hload, ?_⟩
  rintro ⟨x, hx, hid, hdays, -⟩
  have hrow : fromDocumentSnapshot hanoi .booking "b1"
      (storedBooking hanoi "b1" "p1" "g1" 8 10 100) = .ok x :=
    eq_of_mem_getBookingsForPosting (ownId_twoNights hanoi) hload rfl rfl hx hid
  rw [unselectableDates_storedBooking hrow, days_midnight_eq_iff (by decide)] at hdays
  exact absurd hdays (by decide)

end RoundTrip

end AirBnbClone
