import AirBnbClone.BookPostingCubit

/-!
# What `saveBooking` does once its guards have passed

The guards of `saveBooking` leave a request, and the rest of the function is the body of its `try`
block followed by one emission. This is proved for any handler of the calls, so that the same fact
serves a device whose calls succeed, one whose calls may fail, and any number of them.
-/

namespace AirBnbClone

open Async BookPostingCubit BookPostingState

/-- What `saveBooking` works on once its guards have passed. -/
structure BookingRequest where
  postingId : String
  userId : String
  hostId : String
  postingName : String
  inDate : DateTime
  outDate : DateTime
  paymentAmount : ℚ

namespace BookingRequest

variable (z : Zone)

/-- The guards of `saveBooking`. -/
def ofInputs (posting : Option (Managed Posting)) (userId : Option String)
    (s : BookPostingState) : Option BookingRequest := do
  let posting ← posting
  if posting.isValid then
    let hostId ← posting.object.hostId
    let price ← posting.object.price
    let userId ← userId
    let checkIn ← s.dates.lookup "check_in"
    let checkOut ← s.dates.lookup "check_out"
    return ⟨posting.object.id, userId, hostId, posting.object.name.getD "", checkIn.dateOnly z,
      checkOut.dateOnly z, s.bookDates z * price⟩
  else none

/-- The body of the `try` block, without the emission that ends it. -/
def attempt (r : BookingRequest) : CubitM Unit := do
  createBookingAndUpdateHostEarning r.postingId r.userId r.hostId r.inDate r.outDate
    r.paymentAmount
  ensureConversationAndSendMessage z r.userId r.hostId r.postingName r.inDate r.outDate

end BookingRequest

section Exec

variable {ω : Type} {handle : (call : Call) → ω → Except DartError (Reply call) × ω} {z : Zone}
  {posting : Option (Managed Posting)} {s : BookPostingState} {w w' : ω}

def saving (s : BookPostingState) : BookPostingState := s.copyWith { isSaving := some true }

/-- The state `saveBooking` ends in after its `try` block. -/
def finished (s : BookPostingState) (result : Except DartError Unit) : BookPostingState :=
  match result with
  | .ok _ => (saving s).copyWith { isSaving := some false }
  | .error _ => (saving s).copyWith
      { isSaving := some false, errorMessage := some "Booking failed. Please try again." }

theorem attempt_state (r : BookingRequest) (s : BookPostingState) (w : ω) :
    (Prog.exec handle (r.attempt z) s w).2.1 = s := by
  have hkeeps : Prog.Keeps (fun t => t = s) (fun _ => True) (r.attempt z) :=
    (createBookingAndUpdateHostEarning_keeps (fun _ _ => trivial) trivial).bind
      (fun _ => ensureConversationAndSendMessage_keeps (fun _ _ _ => trivial) _ _ _ _ _)
  exact hkeeps.exec_state rfl w

/-- The `try` block is `attempt` followed by the emission that ends it. -/
theorem exec_try_block (r : BookingRequest) (f : BookPostingState → BookPostingState)
    (s : BookPostingState) (w : ω) :
    Prog.exec handle (do
        createBookingAndUpdateHostEarning r.postingId r.userId r.hostId r.inDate r.outDate
          r.paymentAmount
        ensureConversationAndSendMessage z r.userId r.hostId r.postingName r.inDate r.outDate
        Prog.emitWith f) s w =
      match Prog.exec handle (r.attempt z) s w with
      | (.ok _, s', w') => (.ok (), f s', w')
      | (.error e, s', w') => (.error e, s', w') := by
  simp only [BookingRequest.attempt, Prog.exec_bind, Prog.exec_emitWith]
  split
  · split <;> simp_all
  · simp_all

theorem exec_saveBooking_of_request {userId : Option String} {r : BookingRequest}
    (hauth : handle .userId w = (.ok userId, w'))
    (hr : BookingRequest.ofInputs z posting userId s = some r) :
    Prog.exec handle (saveBooking z posting) s w =
      (.ok (), finished s (Prog.exec handle (r.attempt z) (saving s) w').1,
        (Prog.exec handle (r.attempt z) (saving s) w').2.2) := by
  simp only [BookingRequest.ofInputs, Option.bind_eq_bind, Option.bind_eq_some_iff] at hr
  obtain ⟨posting, rfl, hr⟩ := hr
  split_ifs at hr with hvalid
  simp only [Option.bind_eq_some_iff] at hr
  obtain ⟨hostId, hhost, price, hprice, userId, rfl, checkIn, hin, checkOut, hout, hr⟩ := hr
  cases hr
  simp only [saveBooking, if_pos hvalid, hhost, hprice]
  rw [Prog.exec_call_bind_ok hauth]
  rw [Prog.exec_bind, Prog.exec_state]
  simp only [hin, hout]
  rw [Prog.exec_bind, Prog.exec_emitWith]
  simp only
  set r : BookingRequest := ⟨posting.object.id, userId, hostId, posting.object.name.getD "",
    checkIn.dateOnly z, checkOut.dateOnly z, s.bookDates z * price⟩
  rw [Prog.exec_tryCatch, exec_try_block r]
  have hstate : (Prog.exec handle (r.attempt z) (saving s) w').2.1 = saving s :=
    attempt_state r (saving s) w'
  rw [show s.copyWith { isSaving := some true } = saving s from rfl]
  generalize Prog.exec handle (r.attempt z) (saving s) w' = run at hstate ⊢
  obtain ⟨result, s', w''⟩ := run
  subst hstate
  cases result <;> rfl

end Exec

def oneNight : BookPostingState :=
  { initial (.utc 0) with
    dates := DartMap.ofList [("check_in", Zone.utc.date 8), ("check_out", Zone.utc.date 9)] }

def cabin : Managed Posting :=
  ⟨⟨"p1", some "Cabin", none, some 50, none, none, none, none, none, some "h1", 0, 0, [], [], ∅, ∅⟩,
    true⟩

def guest : Environment :=
  ⟨some "g1", fun _ _ _ => .ok ⟨"pi_1", "secret_1"⟩, fun _ => .utc 0⟩

example : BookingRequest.ofInputs Zone.utc (some cabin) guest.userId oneNight = some ⟨"p1", "g1",
    "h1", "Cabin", Zone.utc.date 8, Zone.utc.date 9, (1 : ℤ) * 50⟩ := rfl

end AirBnbClone
