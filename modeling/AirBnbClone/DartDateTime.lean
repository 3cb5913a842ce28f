import AirBnbClone.Gregorian

/-!
# Dart's `DateTime` on a device with a time zone

A `DateTime` is an instant in microseconds since the epoch and the flag that selects UTC or local
calendar fields; two of them are equal when both agree. The device's zone is a parameter: any
offset and any daylight-saving rule, constrained only by what the `DateTime(y, m, d)` constructor
promises: an instant of that calendar day, on a whole millisecond, less than 24 hours away from UTC
midnight and before the next day's.
-/

namespace AirBnbClone

def microsecondsPerDay : ℤ := 86400000000

structure DateTime where
  microsecondsSinceEpoch : ℤ
  isUtc : Bool
  deriving DecidableEq

/-- `offsetAt t` is the UTC offset in force at the instant `t`; `instantOf w` is the instant that
the local constructor picks for the wall-clock reading `w`. Every calendar day has a midnight of its
own: zones that once skipped a day, by moving across the date line, are left out. -/
structure Zone where
  offsetAt : ℤ → ℤ
  instantOf : ℤ → ℤ
  day_instantOf : ∀ n, (instantOf (n * microsecondsPerDay) +
    offsetAt (instantOf (n * microsecondsPerDay))) / microsecondsPerDay = n
  instantOf_near : ∀ n, |instantOf (n * microsecondsPerDay) - n * microsecondsPerDay| <
    microsecondsPerDay
  instantOf_lt_succ : ∀ n, instantOf (n * microsecondsPerDay) <
    instantOf ((n + 1) * microsecondsPerDay)
  instantOf_whole : ∀ n, 1000 ∣ instantOf (n * microsecondsPerDay)

/-- A zone without clock changes, its offset given in milliseconds. -/
def Zone.fixed (offset : ℤ) (h : |offset * 1000| < microsecondsPerDay) : Zone where
  offsetAt _ := offset * 1000
  instantOf w := w - offset * 1000
  day_instantOf n := by
    rw [sub_add_cancel]
    exact Int.mul_ediv_cancel n (by decide)
  instantOf_near n := by
    rw [sub_sub_cancel_left, abs_neg]
    exact h
  instantOf_lt_succ n := by
    unfold microsecondsPerDay
    omega
  instantOf_whole n := by
    unfold microsecondsPerDay
    omega

def Zone.utc : Zone := Zone.fixed 0 (by decide)

/-- Local midnight of the day with number `n`. -/
def Zone.date (z : Zone) (n : ℤ) : DateTime := ⟨z.instantOf (n * microsecondsPerDay), false⟩

def Zone.dateTime (z : Zone) (year month day : ℤ) : DateTime :=
  z.date (Gregorian.dayNumber year month day)

namespace DateTime

variable (z : Zone)

def utc (t : ℤ) : DateTime := ⟨t, true⟩

/-- The day number of the calendar day that `year`, `month` and `day` show. -/
def calendarDay (t : DateTime) : ℤ :=
  (t.microsecondsSinceEpoch + if t.isUtc then 0 else z.offsetAt t.microsecondsSinceEpoch) /
    microsecondsPerDay

def year (t : DateTime) : ℤ := (Gregorian.civil (t.calendarDay z)).year

def month (t : DateTime) : ℤ := (Gregorian.civil (t.calendarDay z)).month

def day (t : DateTime) : ℤ := (Gregorian.civil (t.calendarDay z)).day

/-- `DateTime(t.year, t.month, t.day)`, the spelling the source repeats. -/
def dateOnly (t : DateTime) : DateTime := z.dateTime (t.year z) (t.month z) (t.day z)

def isAfter (a b : DateTime) : Bool := decide (b.microsecondsSinceEpoch < a.microsecondsSinceEpoch)

/-- `a.difference(b).inDays`: elapsed time, cut to whole 24-hour periods towards zero. -/
def differenceInDays (a b : DateTime) : ℤ :=
  (a.microsecondsSinceEpoch - b.microsecondsSinceEpoch).tdiv microsecondsPerDay

def millisecondsSinceEpoch (t : DateTime) : ℤ := t.microsecondsSinceEpoch.tdiv 1000

def maxMillisecondsSinceEpoch : ℤ := 8640000000000000

/-- The constructor is defined within 100 million days of the epoch and throws outside. -/
def fromMillisecondsSinceEpoch (ms : ℤ) : Option DateTime :=
  if |ms| ≤ maxMillisecondsSinceEpoch then some ⟨ms * 1000, false⟩ else none

/-- The times that can be written as milliseconds and read back. -/
def Storable (t : DateTime) : Prop := |t.millisecondsSinceEpoch| ≤ maxMillisecondsSinceEpoch

instance (t : DateTime) : Decidable t.Storable := inferInstanceAs (Decidable (_ ≤ _))

theorem dateTime_fields_add (t : DateTime) (i : ℤ) :
    z.dateTime (t.year z) (t.month z) (t.day z + i) = z.date (t.calendarDay z + i) := by
  unfold Zone.dateTime year month day
  rw [Gregorian.dayNumber_add_day, Gregorian.dayNumber_civil]

theorem dateOnly_eq_date (t : DateTime) : t.dateOnly z = z.date (t.calendarDay z) := by
  simpa only [add_zero, dateOnly] using dateTime_fields_add z t 0

@[simp] theorem calendarDay_date (n : ℤ) : (z.date n).calendarDay z = n := by
  unfold calendarDay Zone.date
  simpa using z.day_instantOf n

theorem date_injective : Function.Injective z.date := by
  intro m n h
  rw [← calendarDay_date z m, h, calendarDay_date]

theorem date_strictMono : StrictMono (fun n => (z.date n).microsecondsSinceEpoch) :=
  strictMono_int_of_lt_succ z.instantOf_lt_succ

/-- Later days start later, whatever the clock changes in between. -/
theorem isAfter_dateOnly (a b : DateTime) :
    (a.dateOnly z).isAfter (b.dateOnly z) = true ↔ b.calendarDay z < a.calendarDay z := by
  rw [dateOnly_eq_date, dateOnly_eq_date, isAfter, decide_eq_true_eq]
  exact (date_strictMono z).lt_iff_lt

theorem millisecondsSinceEpoch_date (n : ℤ) :
    (z.date n).millisecondsSinceEpoch * 1000 = (z.date n).microsecondsSinceEpoch :=
  Int.tdiv_mul_cancel (z.instantOf_whole n)

theorem calendarDay_utc (t : ℤ) : (utc t).calendarDay z = t / microsecondsPerDay := by
  simp [calendarDay, utc]

end DateTime

end AirBnbClone
