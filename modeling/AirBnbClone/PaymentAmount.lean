import Mathlib
import AirBnbClone.BookPostingCubit

/-!
# What the card is charged and what the booking records

`getPaymentIntent` rounds the total in dollars and passes it on as a string that the payment
service documents as cents; `saveBooking` stores the total in dollars. For one choice of dates the
two name the same sum of money only when both round to nothing.
-/

namespace AirBnbClone

namespace BookPostingCubit

open Async BookPostingState

variable {z : Zone} {n : ℤ}

/-- The call charges the total of `n` nights at `price`, as the code computes it. -/
def ChargesTotal (n : ℤ) (price : ℚ) : Call → Prop
  | .createPaymentIntent _ _ amount => amount = toString (dartRound (price * n))
  | _ => True

/-- The call records the total of `n` nights at `price`. -/
def RecordsTotal (n : ℤ) (price : ℚ) : Call → Prop
  | .createBooking data => data.get "payment_amount" = .double (n * price)
  | _ => True

theorem bookDates_copyWith (s : BookPostingState) (u : Update) (hs : s.bookDates z = n)
    (hdates : u.dates = none) (_ : u.unselectableDates = none) :
    (s.copyWith u).bookDates z = n := by
  simpa only [bookDates, copyWith, hdates, Option.getD_none] using hs

theorem getPaymentIntent_charges (describe : DartError → String) {posting : Managed Posting}
    {price : ℚ} (hprice : posting.object.price = some price) :
    Prog.Keeps (fun s => s.bookDates z = n) (ChargesTotal n price)
      (getPaymentIntent z describe (some posting)) := by
  refine getPaymentIntent_keeps describe trivial bookDates_copyWith ?_
  intro s price' name address hs hprice'
  rw [hprice] at hprice'
  cases hprice'
  change toString (dartRound (price * s.bookDates z)) = _
  rw [hs]

theorem saveBooking_records {posting : Managed Posting} {price : ℚ}
    (hprice : posting.object.price = some price) :
    Prog.Keeps (fun s => s.bookDates z = n) (RecordsTotal n price)
      (saveBooking z (some posting)) := by
  refine saveBooking_keeps ?_ bookDates_copyWith ?_
  · intro op h
    cases op with
    | createBooking data => exact absurd rfl h
    | _ => trivial
  · intro s price' userId checkIn checkOut hs hprice' _ _
    rw [hprice] at hprice'
    cases hprice'
    rw [hs]
    rfl

theorem dartRound_eq_zero_iff (q : ℚ) : dartRound q = 0 ↔ |q| < 1 / 2 := by
  unfold dartRound
  rw [abs_lt]
  split_ifs with h
  · rw [Int.floor_eq_zero_iff, Set.mem_Ico]
    constructor
    · rintro ⟨-, hlt⟩
      constructor <;> linarith
    · rintro ⟨-, hlt⟩
      constructor <;> linarith
  · rw [Int.ceil_eq_zero_iff, Set.mem_Ioc]
    constructor
    · rintro ⟨hlt, -⟩
      constructor <;> linarith
    · rintro ⟨hlt, -⟩
      constructor <;> linarith

theorem abs_dartRound_sub_le (q : ℚ) : |(dartRound q : ℚ) - q| ≤ 1 / 2 := by
  unfold dartRound
  rw [abs_le]
  split_ifs
  · have hle := Int.floor_le (q + 1 / 2)
    have hlt := Int.lt_floor_add_one (q + 1 / 2)
    constructor <;> linarith
  · have hle := Int.le_ceil (q - 1 / 2)
    have hlt := Int.ceil_lt_add_one (q - 1 / 2)
    constructor <;> linarith

/-- Dollars and cents round to the same integer only when the cents round to nothing. -/
theorem dartRound_eq_dartRound_hundred_iff (q : ℚ) :
    dartRound q = dartRound (100 * q) ↔ |q| < 1 / 200 := by
  have hscale : |100 * q| < 1 / 2 ↔ |q| < 1 / 200 := by
    rw [abs_mul, abs_of_pos (by norm_num : (0 : ℚ) < 100)]
    constructor <;> intro h <;> linarith
  constructor
  · intro h
    rw [← hscale, ← dartRound_eq_zero_iff, ← h]
    -- `k` is within a half of both `q` and `100 * q`, so `99 * |k| ≤ 50.5`
    have h₁ := abs_le.mp (abs_dartRound_sub_le q)
    have h₂ := abs_le.mp (abs_dartRound_sub_le (100 * q))
    rw [← h] at h₂
    have hlt : (dartRound q : ℚ) < 1 := by linarith
    have hgt : (-1 : ℚ) < dartRound q := by linarith
    have hlt' : dartRound q < 1 := by exact_mod_cast hlt
    have hgt' : -1 < dartRound q := by exact_mod_cast hgt
    omega
  · intro h
    have hq : |q| < 1 / 2 := h.trans (by norm_num)
    rw [(dartRound_eq_zero_iff q).mpr hq, (dartRound_eq_zero_iff _).mpr (hscale.mpr h)]

/-- The amount charged, read in cents, is the recorded amount exactly when the latter is below
half a cent. -/
theorem charged_eq_recorded_iff {ω ω' : Type} (z : Zone) (describe : DartError → String)
    (handle : (op : Call) → ω → Except DartError (Reply op) × ω)
    (handle' : (op : Call) → ω' → Except DartError (Reply op) × ω') (w : ω) (w' : ω')
    (posting : Managed Posting) (price : ℚ) (hprice : posting.object.price = some price)
    (s : BookPostingState) (name address amount : String) (data : Doc) (a : ℚ)
    (hcharge : .createPaymentIntent name address amount ∈
      Prog.trace handle (getPaymentIntent z describe (some posting)) s w)
    (hrecord : .createBooking data ∈ Prog.trace handle' (saveBooking z (some posting)) s w')
    (ha : data.get "payment_amount" = .double a) :
    amount.toInt? = some (dartRound (100 * a)) ↔ |s.bookDates z * price| < 1 / 200 := by
  have hamount : amount = toString (dartRound (price * s.bookDates z)) :=
    (getPaymentIntent_charges describe hprice).of_mem_trace rfl hcharge
  have hdata : data.get "payment_amount" = .double (s.bookDates z * price) :=
    (saveBooking_records hprice).of_mem_trace rfl hrecord
  rw [hdata] at ha
  cases ha
  rw [hamount, mul_comm price, ← dartRound_eq_dartRound_hundred_iff]
  have hread : (toString (dartRound (s.bookDates z * price))).toInt? =
      some (dartRound (s.bookDates z * price)) := Int.toInt?_repr _
  rw [hread, Option.some.injEq]

section ThreeNights

def loft (price : ℚ) : Managed Posting :=
  ⟨⟨"p1", some "Loft", none, some price, none, some "1 Main St", none, none, none, some "h1",
    0, 0, [], [], ∅, ∅⟩, true⟩

def threeNights : BookPostingState :=
  { initial (.utc 0) with
    dates := DartMap.ofList [("check_in", Zone.utc.date 8), ("check_out", Zone.utc.date 11)] }

def guestDevice : (call : Call) → Device → Except DartError (Reply call) × Device :=
  Device.serve Zone.utc AutoId.longer
    ⟨some "g1", fun _ _ _ => .ok ⟨"pi_1", "secret_1"⟩, fun _ => .utc 0⟩

def emptyDevice : Device := ⟨⟨Firestore.empty, Realm.empty⟩, 0⟩

theorem charge_mem_trace (price : ℚ) :
    .createPaymentIntent "g1" "1 Main St" (toString (dartRound (price * (3 : ℤ)))) ∈
      Prog.trace guestDevice (getPaymentIntent Zone.utc (fun _ => "") (some (loft price)))
        threeNights emptyDevice :=
  List.mem_of_getElem? (i := 1) rfl

theorem record_mem_trace (price : ℚ) :
    .createBooking (bookingData "p1" "g1" (Zone.utc.date 8) (Zone.utc.date 11) ((3 : ℤ) * price)) ∈
      Prog.trace guestDevice (saveBooking Zone.utc (some (loft price))) threeNights emptyDevice :=
  List.mem_of_getElem? (i := 1) rfl

/-- Three nights at 100 dollars are charged as three dollars. -/
theorem three_nights_charged_three_dollars :
    .createPaymentIntent "g1" "1 Main St" "300" ∈
        Prog.trace guestDevice (getPaymentIntent Zone.utc (fun _ => "") (some (loft 100)))
          threeNights emptyDevice ∧
      (∃ data, .createBooking data ∈
          Prog.trace guestDevice (saveBooking Zone.utc (some (loft 100))) threeNights emptyDevice ∧
        data.get "payment_amount" = .double 300) ∧
      "300".toInt? ≠ some (dartRound (100 * 300)) := by
  have hround : dartRound (100 * (3 : ℤ)) = 300 := by decide +kernel
  have hamount : ((3 : ℤ) : ℚ) * 100 = 300 := by norm_num
  have hcharge := charge_mem_trace 100
  have hrecord := record_mem_trace 100
  rw [hround] at hcharge
  rw [hamount] at hrecord
  refine ⟨hcharge, ⟨_, hrecord, rfl⟩, ?_⟩
  have hread : "300".toInt? = some 300 := Int.toInt?_repr 300
  have hcents : dartRound (100 * 300) = 30000 := by decide +kernel
  rw [hread, hcents]
  decide

/-- At a tenth of a cent for the night, three nights are charged as recorded: nothing. -/
theorem charged_eq_recorded_iff_tenthOfACent :
    (toString (dartRound (1 / 1000 * (3 : ℤ)))).toInt? =
      some (dartRound (100 * ((3 : ℤ) * (1 / 1000)))) := by
  refine (charged_eq_recorded_iff Zone.utc (fun _ => "") guestDevice guestDevice emptyDevice
    emptyDevice (loft (1 / 1000)) (1 / 1000) rfl threeNights "g1" "1 Main St" _ _ _
    (charge_mem_trace _) (record_mem_trace _) rfl).mpr ?_
  have hnights : threeNights.bookDates Zone.utc = 3 := by decide +kernel
  rw [hnights]
  norm_num

end ThreeNights

end BookPostingCubit

end AirBnbClone
