import AirBnbClone.BookedDays

/-!
# The booked days of stays at one time of day

Both calendars count whole 24-hour periods from the check-in. Where check-in and check-out show the
same time of day under the same offset, this number is the difference of their dates: the loop runs
over the days from one date to the other, both included, and over none where the check-out is
before the check-in.
-/

namespace AirBnbClone

open BookPostingCubit

namespace DateTime

variable (z : Zone)

/-- The offset of the clock that shows the calendar fields. -/
def timeZoneOffset (t : DateTime) : ℤ := if t.isUtc then 0 else z.offsetAt t.microsecondsSinceEpoch

def timeOfDay (t : DateTime) : ℤ :=
  (t.microsecondsSinceEpoch + t.timeZoneOffset z) % microsecondsPerDay

def SameClock (a b : DateTime) : Prop :=
  a.timeZoneOffset z = b.timeZoneOffset z ∧ a.timeOfDay z = b.timeOfDay z

/-- Between two readings of one clock at one time of day lie whole days. -/
theorem differenceInDays_of_sameClock {start finish : DateTime} (h : start.SameClock z finish) :
    finish.differenceInDays start = finish.calendarDay z - start.calendarDay z := by
  obtain ⟨hoffset, htime⟩ := h
  have hstart : start.calendarDay z =
      (start.microsecondsSinceEpoch + start.timeZoneOffset z) / microsecondsPerDay := rfl
  have hfinish : finish.calendarDay z =
      (finish.microsecondsSinceEpoch + finish.timeZoneOffset z) / microsecondsPerDay := rfl
  have hwhole : finish.microsecondsSinceEpoch - start.microsecondsSinceEpoch =
      (finish.calendarDay z - start.calendarDay z) * microsecondsPerDay := by
    rw [hstart, hfinish]
    unfold timeOfDay at htime
    unfold microsecondsPerDay at *
    omega
  unfold differenceInDays
  rw [hwhole]
  exact Int.mul_tdiv_cancel _ (by decide)

theorem sameClock_utc {s t offset : ℤ}
    (h : (s + offset) % microsecondsPerDay = (t + offset) % microsecondsPerDay) :
    (utc s).SameClock z (utc t) := by
  refine ⟨rfl, ?_⟩
  have hutc (t : ℤ) : (utc t).timeOfDay z = t % microsecondsPerDay := by
    simp [timeOfDay, timeZoneOffset, utc]
  rw [hutc, hutc]
  unfold microsecondsPerDay at *
  omega

end DateTime

/-- The booking is there and has both dates, and the day lies between them. -/
def Managed.Covers (z : Zone) (booking : Managed Booking) (n : ℤ) : Prop :=
  booking.isValid = true ∧ ∃ checkIn checkOut, booking.object.checkIn = some checkIn ∧
    booking.object.checkOut = some checkOut ∧ (DateTime.utc checkIn).calendarDay z ≤ n ∧
      n ≤ (DateTime.utc checkOut).calendarDay z

/-- All dates that are present show one time of day under one offset. -/
def OneTimeOfDay (bookings : List (Managed Booking)) : Prop :=
  ∃ offset timeOfDay : ℤ, ∀ booking ∈ bookings, ∀ t,
    booking.object.checkIn = some t ∨ booking.object.checkOut = some t →
      (t + offset) % microsecondsPerDay = timeOfDay

/-- Every day is later than all before it, and the one after its predecessor. -/
structure ConsecutiveDays (z : Zone) (days : List DateTime) : Prop where
  increasing : days.Pairwise (fun a b => b.isAfter a = true)
  noGap : days.IsChain (fun a b => ∃ n, a = z.date n ∧ b = z.date (n + 1))
  nodup : days.Nodup

section Loop

variable {z : Zone} {start finish t : DateTime} {bookings : List (Managed Booking)}

theorem getDaysInBetween_eq_map : getDaysInBetween z start finish =
    (List.range (finish.differenceInDays start + 1).toNat).map
      (fun i : ℕ => z.date (start.calendarDay z + i)) :=
  List.map_congr_left (fun i _ => DateTime.dateTime_fields_add z start i)

theorem consecutiveDays_getDaysInBetween : ConsecutiveDays z (getDaysInBetween z start finish) := by
  have hlt : (getDaysInBetween z start finish).Pairwise (fun a b => b.isAfter a = true) := by
    rw [getDaysInBetween_eq_map, List.pairwise_map]
    refine List.pairwise_lt_range.imp (fun hij => ?_)
    rw [DateTime.isAfter, decide_eq_true_eq]
    exact DateTime.date_strictMono z (by omega)
  refine ⟨hlt, ?_, hlt.imp (fun {a b} hab heq => ?_)⟩
  · rw [getDaysInBetween_eq_map, List.isChain_map]
    refine List.isChain_range _ _ |>.mpr (fun i _ => ⟨start.calendarDay z + i, rfl, ?_⟩)
    rw [Nat.cast_succ, add_assoc]
  · rw [heq, DateTime.isAfter, decide_eq_true_eq] at hab
    exact lt_irrefl _ hab

theorem mem_getDaysInBetween_of_sameClock (h : start.SameClock z finish) :
    t ∈ getDaysInBetween z start finish ↔
      ∃ n, t = z.date n ∧ start.calendarDay z ≤ n ∧ n ≤ finish.calendarDay z := by
  rw [mem_getDaysInBetween_iff, DateTime.differenceInDays_of_sameClock z h, add_sub_cancel]

theorem mem_bookedDates_iff {booking : Managed Booking}
    (h : ∀ checkIn checkOut, booking.object.checkIn = some checkIn →
      booking.object.checkOut = some checkOut →
        (DateTime.utc checkIn).SameClock z (.utc checkOut)) :
    t ∈ bookedDates z booking ↔ ∃ n, t = z.date n ∧ booking.Covers z n := by
  unfold bookedDates Managed.Covers
  cases hvalid : booking.isValid with
  | false => simp
  | true =>
      cases hin : booking.object.checkIn with
      | none => simp
      | some checkIn =>
          cases hout : booking.object.checkOut with
          | none => simp
          | some checkOut => simp [mem_getDaysInBetween_of_sameClock (h checkIn checkOut hin hout)]

theorem mem_unselectableDates_iff (h : OneTimeOfDay bookings) :
    t ∈ unselectableDates z bookings ↔
      ∃ n, t = z.date n ∧ ∃ booking ∈ bookings, booking.Covers z n := by
  obtain ⟨offset, timeOfDay, hclock⟩ := h
  have hbooked (booking : Managed Booking) (hmem : booking ∈ bookings) :
      t ∈ bookedDates z booking ↔ ∃ n, t = z.date n ∧ booking.Covers z n :=
    mem_bookedDates_iff (fun checkIn checkOut hin hout => DateTime.sameClock_utc z
      ((hclock booking hmem checkIn (.inl hin)).trans
        (hclock booking hmem checkOut (.inr hout)).symm))
  unfold unselectableDates
  rw [List.mem_toFinset, List.mem_flatMap]
  constructor
  · rintro ⟨booking, hmem, ht⟩
    obtain ⟨n, hn, hcovers⟩ := (hbooked booking hmem).mp ht
    exact ⟨n, hn, booking, hmem, hcovers⟩
  · rintro ⟨n, hn, booking, hmem, hcovers⟩
    exact ⟨booking, hmem, (hbooked booking hmem).mpr ⟨n, hn, hcovers⟩⟩

theorem date_mem_unselectableDates_iff (h : OneTimeOfDay bookings) (n : ℤ) :
    z.date n ∈ unselectableDates z bookings ↔ ∃ booking ∈ bookings, booking.Covers z n := by
  rw [mem_unselectableDates_iff h]
  constructor
  · rintro ⟨m, hm, hcovers⟩
    rwa [DateTime.date_injective z hm]
  · exact fun hcovers => ⟨n, rfl, hcovers⟩

theorem unselectableDates_perm {bookings' : List (Managed Booking)} (h : bookings'.Perm bookings) :
    unselectableDates z bookings' = unselectableDates z bookings :=
  List.toFinset_eq_of_perm _ _ (h.flatMap_right _)

end Loop

/-- Both calendars mark exactly the days between the two dates of some booking, in any order of the
bookings; the days of one stay are consecutive. -/
theorem bookedDays_inclusive (z : Zone) (bookings : List (Managed Booking))
    (h : OneTimeOfDay bookings) :
    (∀ n, (z.date n ∈ unselectableDates z bookings ↔ ∃ booking ∈ bookings, booking.Covers z n) ∧
      (z.date n ∈ BookingsCubit.getSelectableDates z bookings ↔
        ∃ booking ∈ bookings, booking.Covers z n)) ∧
    (∀ bookings', bookings'.Perm bookings →
      unselectableDates z bookings' = unselectableDates z bookings ∧
        BookingsCubit.getSelectableDates z bookings' =
          BookingsCubit.getSelectableDates z bookings) ∧
    ∀ start finish : DateTime, start.SameClock z finish →
      ConsecutiveDays z (getDaysInBetween z start finish) ∧
        ∀ t, t ∈ getDaysInBetween z start finish ↔
          ∃ n, t = z.date n ∧ start.calendarDay z ≤ n ∧ n ≤ finish.calendarDay z := by
  refine ⟨fun n => ⟨date_mem_unselectableDates_iff h n, date_mem_unselectableDates_iff h n⟩,
    fun bookings' hperm => ⟨unselectableDates_perm hperm, unselectableDates_perm hperm⟩,
    fun start finish hclock => ⟨consecutiveDays_getDaysInBetween, fun t =>
      mem_getDaysInBetween_of_sameClock hclock⟩⟩

/-- A stay over a leap day, one that ends before it begins, and one without a check-out, each time
at noon. -/
def noonStays : List (Managed Booking) :=
  [⟨⟨"b1", some "p1", some "g1", some (19781 * microsecondsPerDay + 43200000000),
      some (19783 * microsecondsPerDay + 43200000000), none⟩, true⟩,
    ⟨⟨"b2", some "p1", some "g2", some (19790 * microsecondsPerDay + 43200000000),
      some (19785 * microsecondsPerDay + 43200000000), none⟩, true⟩,
    ⟨⟨"b3", some "p1", some "g3", some (19792 * microsecondsPerDay + 43200000000), none, none⟩,
      true⟩]

theorem oneTimeOfDay_noonStays : OneTimeOfDay noonStays := by
  refine ⟨0, 43200000000, fun booking hmem t ht => ?_⟩
  simp only [noonStays, List.mem_cons, List.not_mem_nil, or_false] at hmem
  obtain rfl | rfl | rfl := hmem <;> obtain ht | ht := ht <;> cases ht <;> decide

theorem bookedDays_inclusive_leapDay :
    Zone.utc.date 19782 ∈ unselectableDates Zone.utc noonStays ∧
      Zone.utc.date 19787 ∉ BookingsCubit.getSelectableDates Zone.utc noonStays := by
  have h := (bookedDays_inclusive Zone.utc noonStays oneTimeOfDay_noonStays).1
  refine ⟨(h 19782).1.mpr ?_, fun hmem => ?_⟩
  · exact ⟨_, List.mem_cons_self, rfl, _, _, rfl, rfl, by decide, by decide⟩
  · obtain ⟨booking, hbooking, -, checkIn, checkOut, hin, hout, hfirst, hlast⟩ :=
      (h 19787).2.mp hmem
    rw [DateTime.calendarDay_utc] at hfirst hlast
    simp only [noonStays, List.mem_cons, List.not_mem_nil, or_false] at hbooking
    obtain rfl | rfl | rfl := hbooking <;> cases hin <;> cases hout
    · exact absurd hlast (by decide)
    · exact absurd hfirst (by decide)

end AirBnbClone
