import AirBnbClone.LoadedBookings

/-!
# The nights of a stay

`canBook` compares two local midnights, `bookDates` cuts the time between them to whole periods of
24 hours. Both agree with the calendar as long as the clocks lose no time in between.
-/

namespace AirBnbClone

open Async BookPostingState BookPostingCubit

/-- Between the midnights of two days the clocks lose no time, and gain less than a day. -/
def KeepsClockTime (z : Zone) (n m : ℤ) : Prop :=
  (max n m - min n m) * microsecondsPerDay ≤ midnight z (max n m) - midnight z (min n m) ∧
    midnight z (max n m) - midnight z (min n m) < (max n m - min n m + 1) * microsecondsPerDay

instance (z : Zone) (n m : ℤ) : Decidable (KeepsClockTime z n m) :=
  inferInstanceAs (Decidable (_ ∧ _))

/-- Whoever the user is, `getPaymentIntent` proceeds and charges `n` nights. -/
def ChargesNights (z : Zone) (s : BookPostingState) (n : ℤ) : Prop :=
  ∀ (ω : Type) (handle : (op : Call) → ω → Except DartError (Reply op) × ω) (w : ω)
    (describe : DartError → String) (posting : Managed Posting) (price : ℚ) (userId : String),
    posting.isValid = true → posting.object.price = some price →
    (handle .userId w).1 = .ok (some userId) →
    Prog.trace handle (getPaymentIntent z describe (some posting)) s w = [.userId,
      .createPaymentIntent userId (posting.object.address.getD "")
        (toString (dartRound (price * n)))]

/-- The number of nights is the calendar difference, and the Book button is enabled exactly when
there is a night to be charged. -/
structure CountsNights (z : Zone) (s : BookPostingState) (checkIn checkOut : DateTime) : Prop where
  nights : s.bookDates z = checkOut.calendarDay z - checkIn.calendarDay z
  button : s.canBook z = true ↔ 1 ≤ s.bookDates z
  charge : s.canBook z = true →
    ChargesNights z s (checkOut.calendarDay z - checkIn.calendarDay z)

section Nights

variable {z : Zone} {s : BookPostingState} {checkIn checkOut : DateTime}

theorem bookDates_eq (hin : s.dates.lookup "check_in" = some checkIn)
    (hout : s.dates.lookup "check_out" = some checkOut) : s.bookDates z =
      (midnight z (checkOut.calendarDay z) - midnight z (checkIn.calendarDay z)).tdiv
        microsecondsPerDay := by
  simp only [bookDates, hin, hout, DateTime.dateOnly_eq_date]
  rfl

theorem canBook_iff (hin : s.dates.lookup "check_in" = some checkIn)
    (hout : s.dates.lookup "check_out" = some checkOut) :
    s.canBook z = true ↔ checkIn.calendarDay z < checkOut.calendarDay z := by
  simp only [canBook, hin, hout]
  exact DateTime.isAfter_dateOnly z checkOut checkIn

theorem tdiv_eq_iff {a d k : ℤ} (ha : 0 ≤ a) (hd : 0 < d) :
    a.tdiv d = k ↔ k * d ≤ a ∧ a < (k + 1) * d := by
  rw [Int.tdiv_eq_ediv_of_nonneg ha, le_antisymm_iff, ← Int.lt_add_one_iff,
    Int.ediv_lt_iff_lt_mul hd, Int.le_ediv_iff_mul_le hd, and_comm]

/-- The periods of 24 hours between two midnights are as many as the days exactly when the clocks
keep their time. -/
theorem tdiv_midnight_eq_iff (z : Zone) (n m : ℤ) :
    (midnight z m - midnight z n).tdiv microsecondsPerDay = m - n ↔ KeepsClockTime z n m := by
  have hpos : 0 < microsecondsPerDay := by decide
  unfold KeepsClockTime
  obtain hle | hlt := le_or_gt n m
  · have hmono : midnight z n ≤ midnight z m := (DateTime.date_strictMono z).monotone hle
    rw [max_eq_right hle, min_eq_left hle, tdiv_eq_iff (sub_nonneg.mpr hmono) hpos]
  · -- backwards both are counted with a minus sign
    have hmono : midnight z m ≤ midnight z n := (DateTime.date_strictMono z).monotone hlt.le
    rw [max_eq_left hlt.le, min_eq_right hlt.le, ← neg_sub (midnight z n), Int.neg_tdiv,
      ← neg_sub n m, neg_inj, tdiv_eq_iff (sub_nonneg.mpr hmono) hpos]

/-- With a night to be charged the function gets past its guard. -/
theorem chargesNights_bookDates (h : 0 < s.bookDates z) : ChargesNights z s (s.bookDates z) := by
  intro ω handle w describe posting price userId hvalid hprice huser
  obtain ⟨w', hserve⟩ : ∃ w', handle .userId w = (.ok (some userId), w') := ⟨_, Prod.ext huser rfl⟩
  simp only [getPaymentIntent, hvalid, if_true]
  change Prog.trace handle (ite (0 < s.bookDates z) _ _) s w = _
  rw [if_pos h]
  simp only [hprice]
  change .userId :: Prog.trace handle (Prog.tryCatch (Prog.bind (.done (handle .userId w).1) _) _) s
    (handle .userId w).2 = _
  rw [hserve]
  change .userId :: .createPaymentIntent _ _ _ :: Prog.trace handle (Prog.tryCatch (Prog.bind
    (.done (handle (.createPaymentIntent userId _ _) w').1) _) _) s _ = _
  generalize (handle (.createPaymentIntent userId _ _) w').1 = reply
  cases reply with
  | ok intent => rfl
  | error e => rfl

end Nights

/-- The nights of a stay are counted, and charged, as the calendar has them exactly when the clocks
keep their time between the two midnights. -/
theorem countsNights_iff_keepsClockTime (z : Zone) (s : BookPostingState)
    (checkIn checkOut : DateTime) (hin : s.dates.lookup "check_in" = some checkIn)
    (hout : s.dates.lookup "check_out" = some checkOut) :
    CountsNights z s checkIn checkOut ↔
      KeepsClockTime z (checkIn.calendarDay z) (checkOut.calendarDay z) := by
  rw [← tdiv_midnight_eq_iff, ← bookDates_eq hin hout]
  constructor
  · exact CountsNights.nights
  · intro hnights
    refine ⟨hnights, ?_, ?_⟩
    · rw [canBook_iff hin hout, hnights]
      omega
    · intro hcan
      rw [canBook_iff hin hout] at hcan
      rw [← hnights]
      exact chargesNights_bookDates (by omega)

section SpringForward

def stayFrom (checkIn checkOut : DateTime) : BookPostingState :=
  { initial (.utc 0) with
    dates := DartMap.ofList [("check_in", checkIn), ("check_out", checkOut)] }

theorem countsNights_iff_keepsClockTime_utc :
    CountsNights Zone.utc (stayFrom (Zone.utc.date 8) (Zone.utc.date 11)) (Zone.utc.date 8)
      (Zone.utc.date 11) :=
  (countsNights_iff_keepsClockTime Zone.utc _ _ _ rfl rfl).mpr (by decide)

/-- The clocks are put forward by an hour in the night that follows day `10`. -/
def springForward : Zone where
  offsetAt t := if t < 10 * microsecondsPerDay + 7200000000 then 0 else 3600000000
  instantOf w := if w < 10 * microsecondsPerDay + 7200000000 then w else w - 3600000000
  day_instantOf n := by
    unfold microsecondsPerDay
    split_ifs <;> omega
  instantOf_near n := by
    unfold microsecondsPerDay
    rw [abs_lt]
    split_ifs <;> omega
  instantOf_lt_succ n := by
    unfold microsecondsPerDay
    split_ifs <;> omega
  instantOf_whole n := by
    unfold microsecondsPerDay
    split_ifs <;> omega

/-- The one night from day `10` to day `11` has 23 hours: it can be booked and is not counted. -/
theorem short_night_is_not_counted :
    (stayFrom (springForward.date 10) (springForward.date 11)).canBook springForward = true ∧
      (stayFrom (springForward.date 10) (springForward.date 11)).bookDates springForward = 0 ∧
      ¬ CountsNights springForward (stayFrom (springForward.date 10) (springForward.date 11))
        (springForward.date 10) (springForward.date 11) := by
  have hnone : (stayFrom (springForward.date 10) (springForward.date 11)).bookDates
      springForward = 0 := by decide
  refine ⟨by decide, hnone, ?_⟩
  intro h
  have hnights := h.nights
  rw [hnone, DateTime.calendarDay_date, DateTime.calendarDay_date] at hnights
  omega

end SpringForward

end AirBnbClone
