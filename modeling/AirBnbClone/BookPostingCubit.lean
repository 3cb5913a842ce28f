import AirBnbClone.DeviceCalls

/-!
# `BookPostingCubit`

The state of the booking screen and the cubit's functions. The functions that await something are
programs over the device's calls; a `return` in front of the end of a function is a program that
is done at once.
-/

namespace AirBnbClone

open Async

/-- `num.round()` of a double: to the nearest integer, halves away from zero. -/
def dartRound (q : ℚ) : ℤ := if 0 ≤ q then ⌊q + 1 / 2⌋ else ⌈q - 1 / 2⌉

structure BookPostingState where
  name : String
  currentTag : String
  dates : DartMap DateTime
  firstDate : DateTime
  lastDate : DateTime
  errorMessage : Option String
  paymentIntent : Option PaymentIntent
  isSaving : Bool
  unselectableDates : Finset DateTime

namespace BookPostingState

/-- The constructor's defaults, `now` being the time at which the state is made. -/
def initial (now : DateTime) : BookPostingState where
  name := ""
  currentTag := "check_in"
  dates := ∅
  firstDate := now
  lastDate := { now with
    microsecondsSinceEpoch := now.microsecondsSinceEpoch + 210 * microsecondsPerDay }
  errorMessage := none
  paymentIntent := none
  isSaving := false
  unselectableDates := ∅

structure Update where
  name : Option String := none
  currentTag : Option String := none
  dates : Option (DartMap DateTime) := none
  errorMessage : Option String := none
  paymentIntent : Option PaymentIntent := none
  isSaving : Option Bool := none
  unselectableDates : Option (Finset DateTime) := none

/-- An argument that is not given keeps its field, except that the error message and the payment
intent are always overwritten. -/
def copyWith (s : BookPostingState) (u : Update) : BookPostingState where
  name := u.name.getD s.name
  currentTag := u.currentTag.getD s.currentTag
  dates := u.dates.getD s.dates
  firstDate := s.firstDate
  lastDate := s.lastDate
  errorMessage := u.errorMessage
  paymentIntent := u.paymentIntent
  isSaving := u.isSaving.getD s.isSaving
  unselectableDates := u.unselectableDates.getD s.unselectableDates

variable (z : Zone)

def canBook (s : BookPostingState) : Bool :=
  match s.dates.lookup "check_in", s.dates.lookup "check_out" with
  | some checkIn, some checkOut => (checkOut.dateOnly z).isAfter (checkIn.dateOnly z)
  | _, _ => false

def bookDates (s : BookPostingState) : ℤ :=
  match s.dates.lookup "check_in", s.dates.lookup "check_out" with
  | some checkIn, some checkOut => (checkOut.dateOnly z).differenceInDays (checkIn.dateOnly z)
  | _, _ => 0

def isDaySelectable (s : BookPostingState) (day : DateTime) : Bool :=
  decide (day ∉ s.unselectableDates)

end BookPostingState

namespace BookPostingCubit

open BookPostingState

abbrev CubitM (α : Type) := Prog Reply BookPostingState DartError α

variable (z : Zone)

/-- The loop runs while `i <= endDate.difference(startDate).inDays`. -/
def getDaysInBetween (startDate endDate : DateTime) : List DateTime :=
  (List.range (endDate.differenceInDays startDate + 1).toNat).map (fun i : ℕ =>
    z.dateTime (startDate.year z) (startDate.month z) (startDate.day z + i))

/-- Realm returns a date as the same instant with UTC fields. -/
def bookedDates (booking : Managed Booking) : List DateTime :=
  if booking.isValid then
    match booking.object.checkIn, booking.object.checkOut with
    | some checkIn, some checkOut => getDaysInBetween z (.utc checkIn) (.utc checkOut)
    | _, _ => []
  else []

def unselectableDates (bookings : List (Managed Booking)) : Finset DateTime :=
  (bookings.flatMap (bookedDates z)).toFinset

def getUnselectableDates (posting : Option (Managed Posting)) : CubitM (Finset DateTime) :=
  match posting with
  | none => pure ∅
  | some posting =>
      if posting.isValid then do
        let bookings ← Await.getBookingsForPosting posting.object.id none
        pure (unselectableDates z bookings)
      else pure ∅

/-- `parameters["dates"]`, or today as the check-in if it is missing or empty. -/
def initialDates (datesParam : Option (DartMap DateTime)) (now : DateTime) : DartMap DateTime :=
  match datesParam with
  | some dates => if dates.entries = [] then DartMap.ofList [("check_in", now)] else dates
  | none => DartMap.ofList [("check_in", now)]

/-- The state emitted once the bookings are loaded; only the window is kept from before. -/
def loaded (name : Option String) (dates : DartMap DateTime) (unselectable : Finset DateTime)
    (s : BookPostingState) : BookPostingState where
  name := name.getD ""
  currentTag := "check_in"
  dates := dates
  firstDate := s.firstDate
  lastDate := s.lastDate
  errorMessage := none
  paymentIntent := none
  isSaving := false
  unselectableDates := unselectable

/-- `parameters["name"]` and `parameters["dates"]`; the posting is the cubit's own. -/
def setupInitialValues (posting : Option (Managed Posting)) (name : Option String)
    (datesParam : Option (DartMap DateTime)) (now : DateTime) : CubitM Unit := do
  let unselectable ← getUnselectableDates z posting
  Prog.emitWith (loaded name (initialDates datesParam now) unselectable)

def setCurrentTag (tag : String) (s : BookPostingState) : BookPostingState :=
  s.copyWith { currentTag := some tag }

def updateSelectedDate (date : DateTime) (s : BookPostingState) : BookPostingState :=
  s.copyWith { dates := some (s.dates.insert s.currentTag date) }

/-- `describe` is the text of an error in a string interpolation. -/
def getPaymentIntent (describe : DartError → String) (posting : Option (Managed Posting)) :
    CubitM Unit :=
  match posting with
  | none => pure ()
  | some posting =>
      if posting.isValid then do
        let bookDates := (← Prog.state).bookDates z
        if 0 < bookDates then
          Prog.tryCatch
            (match posting.object.price with
              | none => pure ()
              | some price => do
                  let totalAmount := dartRound (price * bookDates)
                  match ← Await.userId with
                  | none => pure ()
                  | some userId => do
                      let paymentIntent ← Await.createPaymentIntent userId
                        (posting.object.address.getD "") (toString totalAmount)
                      Prog.emitWith (fun s => s.copyWith { paymentIntent := some paymentIntent }))
            (fun e => Prog.emitWith (fun s => s.copyWith
              { errorMessage := some ("Payment setup failed: " ++ describe e) }))
        else
          Prog.emitWith (fun s => s.copyWith
            { errorMessage := some "Please select check-in and check-out dates." })
      else pure ()

def bookingData (postingId userId : String) (inDate outDate : DateTime) (paymentAmount : ℚ) : Doc :=
  DartMap.ofList [("posting_id", .string postingId), ("user_id", .string userId),
    ("check_in", .int inDate.millisecondsSinceEpoch),
    ("check_out", .int outDate.millisecondsSinceEpoch), ("payment_amount", .double paymentAmount)]

def createBookingAndUpdateHostEarning (postingId userId hostId : String)
    (inDate outDate : DateTime) (paymentAmount : ℚ) : CubitM Unit := do
  let _ ← Await.createBooking (bookingData postingId userId inDate outDate paymentAmount)
  let user ← Await.getUser userId
  if user.isValid then
    let newEarning := user.object.earning.getD 0 + paymentAmount
    let _ ← Await.updateUser hostId (DartMap.ofList [("earning", .double newEarning)])
  else pure ()

/-- `compareTo` orders strings by their UTF-16 code units. -/
def codeUnits (s : String) : List ℕ :=
  s.toList.flatMap (fun c =>
    let n := c.toNat
    if n < 0x10000 then [n]
    else [0xD800 + (n - 0x10000) / 0x400, 0xDC00 + (n - 0x10000) % 0x400])

def conversationId (userId hostId : String) : String :=
  if codeUnits userId < codeUnits hostId then userId ++ "-" ++ hostId else hostId ++ "-" ++ userId

def dateText (t : DateTime) : String :=
  toString (t.day z) ++ "/" ++ toString (t.month z) ++ "/" ++ toString (t.year z)

def messageText (postingName : String) (inDate outDate : DateTime) : String :=
  "Hello, I want to book " ++ postingName ++ " from " ++ dateText z inDate ++ " to " ++
    dateText z outDate

def lastMessagePayload (now : DateTime) (text : String) (user : User) : Doc :=
  DartMap.ofList [("last_message_at", .int now.millisecondsSinceEpoch),
    ("last_message", .string text),
    ("name", .string (user.fullName.getD "")), ("avatar", .string (user.imageUrl.getD ""))]

def newConversationData (userId hostId : String) (now : DateTime) (payload : Doc) : Doc :=
  payload ∪ DartMap.ofList [("members", .list [.string userId, .string hostId]),
    ("created_at", .int now.millisecondsSinceEpoch)]

def messageData (conversationId userId text : String) (now : DateTime) : Doc :=
  DartMap.ofList [("conversation_id", .string conversationId), ("sender_id", .string userId),
    ("text", .string text), ("created_at", .int now.millisecondsSinceEpoch)]

def ensureConversationAndSendMessage (userId hostId postingName : String)
    (inDate outDate : DateTime) : CubitM Unit := do
  let conversationId := conversationId userId hostId
  let text := messageText z postingName inDate outDate
  let currentUser ← Await.getUser userId
  if currentUser.isValid then
    let payload := lastMessagePayload (← Await.now) text currentUser.object
    match ← Await.getConversation conversationId with
    | some _ =>
        let _ ← Await.updateConversation conversationId payload
    | none =>
        let data := newConversationData userId hostId (← Await.now) payload
        let _ ← Await.createConversation data (some conversationId)
    let _ ← Await.createMessage (messageData conversationId userId text (← Await.now))
  else pure ()

def saveBooking (posting : Option (Managed Posting)) : CubitM Unit :=
  match posting with
  | none => pure ()
  | some posting =>
      if posting.isValid then
        match posting.object.hostId, posting.object.price with
        | some hostId, some price => do
            match ← Await.userId with
            | none => pure ()
            | some userId =>
                let state ← Prog.state
                match state.dates.lookup "check_in", state.dates.lookup "check_out" with
                | some checkIn, some checkOut =>
                    let inDate := checkIn.dateOnly z
                    let outDate := checkOut.dateOnly z
                    let paymentAmount := state.bookDates z * price
                    Prog.emitWith (fun s => s.copyWith { isSaving := some true })
                    Prog.tryCatch
                      (do
                        createBookingAndUpdateHostEarning posting.object.id userId hostId inDate
                          outDate paymentAmount
                        ensureConversationAndSendMessage z userId hostId
                          (posting.object.name.getD "") inDate outDate
                        Prog.emitWith (fun s => s.copyWith { isSaving := some false }))
                      (fun _ => Prog.emitWith (fun s => s.copyWith
                        { isSaving := some false
                          errorMessage := some "Booking failed. Please try again." }))
                | _, _ => pure ()
        | _, _ => pure ()
      else pure ()

/-- The part of `saveBooking` that follows the reading of the dates. -/
def bookStay (postingId userId hostId postingName : String) (inDate outDate : DateTime)
    (paymentAmount : ℚ) : CubitM Unit := do
  Prog.emitWith (fun s => s.copyWith { isSaving := some true })
  Prog.tryCatch
    (do
      createBookingAndUpdateHostEarning postingId userId hostId inDate outDate paymentAmount
      ensureConversationAndSendMessage z userId hostId postingName inDate outDate
      Prog.emitWith (fun s => s.copyWith { isSaving := some false }))
    (fun _ => Prog.emitWith (fun s => s.copyWith
      { isSaving := some false
        errorMessage := some "Booking failed. Please try again." }))

section Calls

variable {z} {I : BookPostingState → Prop} {P : Call → Prop}

theorem keeps_call_in (collection : Option String) (hP : ∀ op, op.collection = collection → P op)
    (op : Call) (h : op.collection = collection) :
    Prog.Keeps I P (Prog.call op : CubitM (Reply op)) :=
  Prog.keeps_call (hP op h)

/-- `getPaymentIntent` asks for the user and charges the total of the dates it reads. -/
theorem getPaymentIntent_keeps (describe : DartError → String) (huser : P .userId)
    (hI : ∀ s u, I s → u.dates = none → u.unselectableDates = none → I (s.copyWith u))
    {posting : Managed Posting}
    (hcharge : ∀ s price name address, I s → posting.object.price = some price →
      P (.createPaymentIntent name address (toString (dartRound (price * s.bookDates z))))) :
    Prog.Keeps I P (getPaymentIntent z describe (some posting)) := by
  dsimp only [getPaymentIntent]
  split_ifs
  swap
  · trivial
  apply Prog.keeps_state_bind
  intro s hs
  split_ifs
  swap
  · exact Prog.keeps_emitWith (fun s h => hI s _ h rfl rfl)
  refine Prog.Keeps.tryCatch ?_ (fun _ => Prog.keeps_emitWith (fun s h => hI s _ h rfl rfl))
  cases hprice : posting.object.price with
  | none => trivial
  | some price =>
      apply (Prog.keeps_call huser).bind
      intro userId
      cases userId with
      | none => trivial
      | some userId =>
          apply (Prog.keeps_call (hcharge s price _ _ hs hprice)).bind
          intro paymentIntent
          exact Prog.keeps_emitWith (fun s h => hI s _ h rfl rfl)

theorem createBookingAndUpdateHostEarning_keeps
    (hP : ∀ op, op.collection ≠ some FirestoreCollection.booking → P op)
    {postingId userId hostId : String} {inDate outDate : DateTime} {paymentAmount : ℚ}
    (hcreate : P (.createBooking (bookingData postingId userId inDate outDate paymentAmount))) :
    Prog.Keeps I P (createBookingAndUpdateHostEarning postingId userId hostId inDate outDate
      paymentAmount) := by
  have hcall := keeps_call_in (I := I) (P := P) none
    (fun op h => hP op (h ▸ nofun))
  have huser := keeps_call_in (I := I) (P := P) (some FirestoreCollection.user)
    (fun op h => hP op (h ▸ by decide))
  unfold createBookingAndUpdateHostEarning
  refine (Prog.keeps_call hcreate).bind (fun _ => (hcall _ rfl).bind ?_)
  intro user
  dsimp only
  split_ifs
  · exact (huser _ rfl).bind (fun _ => trivial)
  · trivial

theorem ensureConversationAndSendMessage_keeps
    (hP : ∀ op, op.collection ≠ some FirestoreCollection.booking →
      op.collection ≠ some FirestoreCollection.user → P op)
    (userId hostId postingName : String) (inDate outDate : DateTime) :
    Prog.Keeps I P
      (ensureConversationAndSendMessage z userId hostId postingName inDate outDate) := by
  have hread := keeps_call_in (I := I) (P := P) none
    (fun op h => hP op (h ▸ nofun) (h ▸ nofun))
  have hconversation := keeps_call_in (I := I) (P := P) (some FirestoreCollection.conversation)
    (fun op h => hP op (h ▸ by decide) (h ▸ by decide))
  have hmessage := keeps_call_in (I := I) (P := P) (some FirestoreCollection.message)
    (fun op h => hP op (h ▸ by decide) (h ▸ by decide))
  unfold ensureConversationAndSendMessage
  apply (hread _ rfl).bind
  intro user
  dsimp only
  split_ifs
  · refine (hread _ rfl).bind (fun now => (hread _ rfl).bind ?_)
    intro existing
    cases existing with
    | some conversation =>
        exact (hconversation _ rfl).bind (fun _ => (hread _ rfl).bind (fun _ =>
          (hmessage _ rfl).bind (fun _ => trivial)))
    | none =>
        exact (hread _ rfl).bind (fun _ => (hconversation _ rfl).bind (fun _ =>
          (hread _ rfl).bind (fun _ => (hmessage _ rfl).bind (fun _ => trivial))))
  · trivial

/-- `saveBooking` first asks for the user. From there on its only call that writes a booking is
`createBooking`, whose data are of that user and of the state read next. -/
theorem saveBooking_asks
    (hP : ∀ op, op.collection ≠ some FirestoreCollection.booking → P op)
    (hI : ∀ s u, I s → u.dates = none → u.unselectableDates = none → I (s.copyWith u))
    (posting : Managed Posting) :
    (∃ r, saveBooking z (some posting) = .done r) ∨
      ∃ k, saveBooking z (some posting) = .await .userId k ∧ ∀ r,
        (∀ s price userId checkIn checkOut, r = .ok (some userId) → I s →
          posting.object.price = some price → s.dates.lookup "check_in" = some checkIn →
          s.dates.lookup "check_out" = some checkOut →
          P (.createBooking (bookingData posting.object.id userId (checkIn.dateOnly z)
            (checkOut.dateOnly z) (s.bookDates z * price)))) →
        Prog.Keeps I P (k r) := by
  dsimp only [saveBooking]
  split_ifs
  swap
  · exact .inl ⟨_, rfl⟩
  cases posting.object.hostId with
  | none => exact .inl ⟨_, rfl⟩
  | some hostId =>
      cases hprice : posting.object.price with
      | none => exact .inl ⟨_, rfl⟩
      | some price =>
          refine .inr ⟨_, rfl, ?_⟩
          intro r hcreate
          match r with
          | .error e => trivial
          | .ok none => trivial
          | .ok (some userId) =>
              intro s hs
              dsimp only [Prog.bind]
              split
              · rename_i checkIn checkOut hin hout
                refine (Prog.keeps_emitWith (fun s h => hI s _ h rfl rfl)).bind (fun _ => ?_)
                refine Prog.Keeps.tryCatch ?_
                  (fun _ => Prog.keeps_emitWith (fun s h => hI s _ h rfl rfl))
                refine (createBookingAndUpdateHostEarning_keeps hP
                  (hcreate s price userId checkIn checkOut rfl hs rfl hin hout)).bind
                  (fun _ => ?_)
                refine (ensureConversationAndSendMessage_keeps
                  (fun op h _ => hP op h) _ _ _ _ _).bind (fun _ => ?_)
                exact Prog.keeps_emitWith (fun s h => hI s _ h rfl rfl)
              · trivial

theorem saveBooking_keeps
    (hP : ∀ op, op.collection ≠ some FirestoreCollection.booking → P op)
    (hI : ∀ s u, I s → u.dates = none → u.unselectableDates = none → I (s.copyWith u))
    {posting : Managed Posting}
    (hcreate : ∀ s price userId checkIn checkOut, I s → posting.object.price = some price →
      s.dates.lookup "check_in" = some checkIn → s.dates.lookup "check_out" = some checkOut →
      P (.createBooking (bookingData posting.object.id userId (checkIn.dateOnly z)
        (checkOut.dateOnly z) (s.bookDates z * price)))) :
    Prog.Keeps I P (saveBooking z (some posting)) := by
  obtain ⟨r, hdone⟩ | ⟨k, hk, hkeeps⟩ := saveBooking_asks (z := z) hP hI posting
  · rw [hdone]
    trivial
  · rw [hk]
    refine ⟨hP _ nofun, ?_⟩
    intro r
    exact hkeeps r (fun s price userId checkIn checkOut _ =>
      hcreate s price userId checkIn checkOut)

end Calls

end BookPostingCubit

end AirBnbClone
