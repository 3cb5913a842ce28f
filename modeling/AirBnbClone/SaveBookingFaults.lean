import AirBnbClone.BookingRequest
import AirBnbClone.CallEffects
import AirBnbClone.ConversationId

/-!
# `saveBooking` under failures

Every awaited call of `saveBooking` may fail, with or without having taken effect, and an object
that is returned may no longer be valid. Once the booking has been created nothing undoes it, so
the outcome is reported truthfully exactly when the booking is not created at all or nothing goes
wrong afterwards.
-/

namespace AirBnbClone

open Async FireStoreService RealmService BookPostingCubit BookPostingState

/-- What becomes of an awaited call: it is answered, its object being valid or not, or it fails,
possibly after it has taken effect. -/
inductive Outcome
  | reply (isValid : Bool)
  | fail (applied : Bool)
  deriving DecidableEq

def setValidity (isValid : Bool) : (call : Call) → Reply call → Reply call
  | .userId, r => r
  | .createPaymentIntent .., r => r
  | .getBookingsForPosting .., r => r.map (fun b => { b with isValid := isValid })
  | .createBooking _, r => { r with isValid := isValid }
  | .getUser _, r => { r with isValid := isValid }
  | .updateUser .., r => { r with isValid := isValid }
  | .getConversation _, r => r.map (fun c => { c with isValid := isValid })
  | .updateConversation .., r => { r with isValid := isValid }
  | .createConversation .., r => { r with isValid := isValid }
  | .createMessage _, r => { r with isValid := isValid }
  | .now, r => r

/-- The clock is read without awaiting. -/
def Call.isAwaited : Call → Bool
  | .now => false
  | _ => true

/-- The device's answers under a schedule of outcomes for the awaited calls, in their order. -/
def faulty (outcome : ℕ → Outcome)
    (handle : (call : Call) → Device → Except DartError (Reply call) × Device) (call : Call) :
    ℕ × Device → Except DartError (Reply call) × (ℕ × Device)
  | (i, d) =>
      if call.isAwaited then
        match outcome i with
        | .reply isValid =>
            ((handle call d).1.map (setValidity isValid call), (i + 1, (handle call d).2))
        | .fail applied => (.error .unavailable, (i + 1, if applied then (handle call d).2 else d))
      else ((handle call d).1, (i, (handle call d).2))

section Property

/-- The bookings, earnings, conversations and messages stored in `f'` are those of `f`. -/
def SameRecords (f f' : Firestore) : Prop :=
  f'.docs FirestoreCollection.booking = f.docs FirestoreCollection.booking ∧
    f'.docs FirestoreCollection.conversation = f.docs FirestoreCollection.conversation ∧
    f'.docs FirestoreCollection.message = f.docs FirestoreCollection.message ∧
    ∀ id, (f'.doc FirestoreCollection.user id).map (fun D => D.get "earning") =
      (f.doc FirestoreCollection.user id).map (fun D => D.get "earning")

def isCreationIn (collection : String) : FirestoreWrite → Bool
  | .set c _ => c = collection
  | _ => false

def isConversationWrite : FirestoreWrite → Bool
  | .set c _ => c = FirestoreCollection.conversation
  | .update c _ => c = FirestoreCollection.conversation
  | .delete .. => false

def isUpdateOf (hostId : String) (entry : FirestoreWrite) : Bool :=
  entry = .update FirestoreCollection.user hostId

/-- Between `f` and `f'` one booking was created, the host's earning was updated once, the
conversation was created or updated once and one message was created. -/
def BookedOnce (f f' : Firestore) (hostId : String) : Prop :=
  f'.writes (isCreationIn FirestoreCollection.booking) =
      f.writes (isCreationIn FirestoreCollection.booking) + 1 ∧
    f'.writes (isUpdateOf hostId) = f.writes (isUpdateOf hostId) + 1 ∧
    f'.writes isConversationWrite = f.writes isConversationWrite + 1 ∧
    f'.writes (isCreationIn FirestoreCollection.message) =
      f.writes (isCreationIn FirestoreCollection.message) + 1

/-- An error message means that nothing was changed, none that everything was done once. -/
def ReportsTruthfully (posting : Option (Managed Posting)) (f : Firestore)
    (s' : BookPostingState) (f' : Firestore) : Prop :=
  if s'.errorMessage.isSome then SameRecords f f'
  else ∃ p hostId, posting = some p ∧ p.object.hostId = some hostId ∧ BookedOnce f f' hostId

end Property

section Faults

variable {outcome : ℕ → Outcome} {z : Zone} {ids : AutoId} {env : Environment}
  {handle : (call : Call) → Device → Except DartError (Reply call) × Device} {call : Call}
  {i : ℕ} {d d' : Device}

def Replies (outcome : ℕ → Outcome) (i : ℕ) : Prop := ∃ isValid, outcome i = .reply isValid

theorem not_replies_of_fail {applied : Bool} (h : outcome i = .fail applied) :
    ¬ Replies outcome i := by
  rintro ⟨v, hv⟩
  rw [h] at hv
  cases hv

theorem faulty_of_reply {isValid : Bool} {r : Reply call} (h : outcome i = .reply isValid)
    (hr : handle call d = (.ok r, d')) (hcall : call.isAwaited = true) :
    faulty outcome handle call (i, d) = (.ok (setValidity isValid call r), (i + 1, d')) := by
  simp only [faulty, if_pos hcall, h, hr]
  rfl

theorem faulty_of_error {isValid : Bool} {e : DartError} (h : outcome i = .reply isValid)
    (hr : (handle call d).1 = .error e) (hcall : call.isAwaited = true) :
    (faulty outcome handle call (i, d)).1 = .error e := by
  simp only [faulty, if_pos hcall, h, hr]
  rfl

theorem faulty_of_fail {applied : Bool} (call : Call) (h : outcome i = .fail applied)
    (hcall : call.isAwaited = true) : faulty outcome handle call (i, d) =
      (.error .unavailable, (i + 1, if applied then (handle call d).2 else d)) := by
  simp only [faulty, if_pos hcall, h]

theorem faulty_now : faulty outcome (Device.serve z ids env) .now (i, d) =
    (.ok (env.clock d.readings), (i, { d with readings := d.readings + 1 })) := rfl

/-- A fault neither adds to nor changes what the call stores. -/
theorem faulty_storesAtMostOne (call : Call) (w : ℕ × Device) :
    Device.StoresAtMostOne call w.2.world.remote
      (faulty outcome (Device.serve z ids env) call w).2.2.world.remote := by
  obtain ⟨i, d⟩ := w
  have hserve : Device.StoresAtMostOne call d.world.remote
      (Device.serve z ids env call d).2.world.remote := Device.serve_storesAtMostOne call d
  dsimp only [faulty]
  split_ifs
  · cases outcome i with
    | reply isValid => exact hserve
    | fail applied =>
        cases applied with
        | true => exact hserve
        | false => exact .inl rfl
  · exact hserve

abbrev Run := Except DartError Unit × BookPostingState × ℕ × Device

/-- The run ends normally, having written the conversation once and created one message. -/
def SentOnce (f : Firestore) (run : Run) : Prop :=
  run.1 = .ok () ∧
    run.2.2.2.world.remote.writes isConversationWrite = f.writes isConversationWrite + 1 ∧
    run.2.2.2.world.remote.writes (isCreationIn FirestoreCollection.message) =
      f.writes (isCreationIn FirestoreCollection.message) + 1

theorem not_sentOnce_of_error {f : Firestore} {run : Run} {e : DartError} (h : run.1 = .error e) :
    ¬ SentOnce f run := by
  rintro ⟨hok, -⟩
  rw [h] at hok
  cases hok

/-- A failing call ends the rest, which is not caught here. -/
theorem not_sentOnce_of_fail {f : Firestore} {s : BookPostingState} {applied : Bool}
    {rest : Reply call → CubitM Unit} (h : outcome i = .fail applied)
    (hcall : call.isAwaited = true) :
    ¬ SentOnce f (Prog.exec (faulty outcome (Device.serve z ids env)) (.call call >>= rest) s
      (i, d)) := by
  apply not_sentOnce_of_error (e := .unavailable)
  rw [Prog.exec_call_bind_error (congrArg Prod.fst (faulty_of_fail call h hcall))]

section Message

variable {s : BookPostingState} {conversationId userId text : String}

/-- The last two steps of `ensureConversationAndSendMessage`. -/
def sendMessage (conversationId userId text : String) : CubitM Unit := do
  let now ← Await.now
  let _ ← Await.createMessage (messageData conversationId userId text now)

theorem exec_sendMessage_ok (hclock : ∀ n, (env.clock n).Storable) (h : Replies outcome i) :
    ∃ d' messageId data, Prog.exec (faulty outcome (Device.serve z ids env))
        (sendMessage conversationId userId text) s (i, d) = (.ok (), s, (i + 1, d')) ∧
      d'.world.remote = d.world.remote.set FirestoreCollection.message messageId data := by
  obtain ⟨v, hv⟩ := h
  obtain ⟨m, d', messageId, data, hserve, hremote⟩ := Device.serve_createMessage_ok z ids env
    { d with readings := d.readings + 1 } conversationId userId text (hclock d.readings)
  refine ⟨d', messageId, data, ?_, hremote⟩
  unfold sendMessage
  rw [Prog.exec_call_bind_ok faulty_now, Prog.exec_call_bind_ok (faulty_of_reply hv hserve rfl)]
  rfl

/-- After a successful write to the conversation only the message can fail. -/
theorem sentOnce_sendMessage_iff (hclock : ∀ n, (env.clock n).Storable) {f : Firestore}
    {id : String} {data : Doc} {entry : FirestoreWrite} (hentry : isConversationWrite entry)
    (hmessage : isCreationIn FirestoreCollection.message entry = false)
    (hremote : d.world.remote = f.putDoc FirestoreCollection.conversation id data entry) :
    SentOnce f (Prog.exec (faulty outcome (Device.serve z ids env))
      (sendMessage conversationId userId text) s (i, d)) ↔ Replies outcome i := by
  constructor
  · intro h
    cases ho : outcome i with
    | reply isValid => exact ⟨isValid, ho⟩
    | fail applied =>
        unfold sendMessage at h
        rw [Prog.exec_call_bind_ok faulty_now] at h
        exact absurd h (not_sentOnce_of_fail ho rfl)
  · intro h
    obtain ⟨d', messageId, data', hexec, hremote'⟩ := exec_sendMessage_ok hclock h
    rw [hexec]
    refine ⟨rfl, ?_, ?_⟩
    · simp only [hremote', hremote, Firestore.set, Firestore.writes_putDoc, hentry]
      rfl
    · simp only [hremote', hremote, Firestore.set, Firestore.writes_putDoc, hmessage]
      rfl

end Message

theorem ensureConversationAndSendMessage_eq (z : Zone) (userId hostId postingName : String)
    (inDate outDate : DateTime) :
    ensureConversationAndSendMessage z userId hostId postingName inDate outDate = (do
      let user ← Await.getUser userId
      if user.isValid then do
        let payload := lastMessagePayload (← Await.now) (messageText z postingName inDate outDate)
          user.object
        match ← Await.getConversation (conversationId userId hostId) with
        | some _ => do
            let _ ← Await.updateConversation (conversationId userId hostId) payload
            sendMessage (conversationId userId hostId) userId
              (messageText z postingName inDate outDate)
        | none => do
            let now ← Await.now
            let _ ← Await.createConversation (newConversationData userId hostId now payload)
              (some (conversationId userId hostId))
            sendMessage (conversationId userId hostId) userId
              (messageText z postingName inDate outDate)
      else pure ()) := rfl

section Conversation

variable {s : BookPostingState} {userId hostId text : String} {user : User} {now : DateTime}

theorem sentOnce_create_iff (hclock : ∀ n, (env.clock n).Storable) (hnow : now.Storable)
    {id : String} (hid : id ≠ "") :
    SentOnce d.world.remote (Prog.exec (faulty outcome (Device.serve z ids env)) (do
        let now' ← Await.now
        let _ ← Await.createConversation (newConversationData userId hostId now'
          (lastMessagePayload now text user)) (some id)
        sendMessage id userId text) s (i, d)) ↔
      Replies outcome i ∧ Replies outcome (i + 1) := by
  rw [Prog.exec_call_bind_ok faulty_now]
  cases ho : outcome i with
  | fail applied =>
      exact iff_of_false (not_sentOnce_of_fail ho rfl) (fun h => not_replies_of_fail ho h.1)
  | reply v =>
      obtain ⟨c, d', hserve, hremote⟩ := Device.serve_createConversation_ok z ids env
        { d with readings := d.readings + 1 } userId hostId text user hnow (hclock d.readings) hid
      rw [Prog.exec_call_bind_ok (faulty_of_reply ho hserve rfl),
        sentOnce_sendMessage_iff hclock rfl rfl hremote]
      exact ⟨fun h => ⟨⟨v, ho⟩, h⟩, And.right⟩

theorem sentOnce_update_iff (hclock : ∀ n, (env.clock n).Storable) (hnow : now.Storable)
    {id : String} (hid : id ≠ "") :
    SentOnce d.world.remote (Prog.exec (faulty outcome (Device.serve z ids env)) (do
        let _ ← Await.updateConversation id (lastMessagePayload now text user)
        sendMessage id userId text) s (i, d)) ↔
      (d.world.remote.doc FirestoreCollection.conversation id).isSome ∧ Replies outcome i ∧
        Replies outcome (i + 1) := by
  cases ho : outcome i with
  | fail applied =>
      exact iff_of_false (not_sentOnce_of_fail ho rfl) (fun h => not_replies_of_fail ho h.2.1)
  | reply v =>
      cases hD : d.world.remote.doc FirestoreCollection.conversation id with
      | none =>
          refine iff_of_false (not_sentOnce_of_error (e := .notFound) ?_) nofun
          rw [Prog.exec_call_bind_error (faulty_of_error ho
            (Device.serve_updateConversation_error z ids env _ hD) rfl)]
      | some D =>
          obtain ⟨c, d', hserve, hremote⟩ :=
            Device.serve_updateConversation_ok z ids env text user hnow hid hD
          rw [Prog.exec_call_bind_ok (faulty_of_reply ho hserve rfl),
            sentOnce_sendMessage_iff hclock rfl rfl hremote]
          exact ⟨fun h => ⟨rfl, ⟨v, ho⟩, h⟩, fun h => h.2.2⟩

theorem sentOnce_conversation_iff (hclock : ∀ n, (env.clock n).Storable) (user : User)
    {id : String} (hid : id ≠ "") :
    SentOnce d.world.remote (Prog.exec (faulty outcome (Device.serve z ids env)) (do
        let payload := lastMessagePayload (← Await.now) text user
        match ← Await.getConversation id with
        | some _ => do
            let _ ← Await.updateConversation id payload
            sendMessage id userId text
        | none => do
            let now ← Await.now
            let _ ← Await.createConversation (newConversationData userId hostId now payload)
              (some id)
            sendMessage id userId text) s (i, d)) ↔
      Replies outcome i ∧ Replies outcome (i + 1) ∧ Replies outcome (i + 2) ∧
        ConversationConsistent z id d.world := by
  rw [Prog.exec_call_bind_ok faulty_now]
  set d₁ : Device := { d with readings := d.readings + 1 } with hd₁
  have hworld : d₁.world = d.world := rfl
  clear_value d₁
  rw [← hworld]
  cases ho : outcome i with
  | fail applied =>
      exact iff_of_false (not_sentOnce_of_fail ho rfl) (fun h => not_replies_of_fail ho h.1)
  | reply v =>
      have hreply : Replies outcome i := ⟨v, ho⟩
      simp only [hreply, true_and]
      cases hD : d₁.world.remote.doc FirestoreCollection.conversation id with
      | none =>
          rw [Prog.exec_call_bind_ok (faulty_of_reply ho
            (Device.serve_getConversation_of_none z ids env hD) rfl)]
          simp only [ConversationConsistent, hD]
          cases hrow : getEntity d₁.world.realm .conversation id with
          | none =>
              apply (sentOnce_create_iff hclock (hclock _) hid).trans
              simp only [and_true]
          | some c =>
              apply (sentOnce_update_iff hclock (hclock _) hid).trans
              simp only [hD, Option.isSome_none, Bool.false_eq_true, false_and, reduceCtorEq,
                and_false]
      | some D =>
          cases hx : FirestoreMapper.fromDocumentSnapshot z .conversation id D with
          | error e =>
              refine iff_of_false (not_sentOnce_of_error (e := e) ?_) ?_
              · rw [Prog.exec_call_bind_error (faulty_of_error ho
                  (Device.serve_getConversation_of_error ids env hD hx) rfl)]
              · simp only [ConversationConsistent, hD, hx]
                rintro ⟨-, -, x, hx'⟩
                cases hx'
          | ok x =>
              have hconsistent : ConversationConsistent z id d₁.world := by
                simp only [ConversationConsistent, hD, hx]
                exact ⟨x, rfl⟩
              obtain ⟨c, d', hserve, hremote⟩ := Device.serve_getConversation_of_ok ids env hD hx
              rw [Prog.exec_call_bind_ok (faulty_of_reply ho hserve rfl), ← hremote]
              simp only [hconsistent, and_true]
              cases c with
              | none => exact sentOnce_create_iff hclock (hclock _) hid
              | some c =>
                  refine (sentOnce_update_iff hclock (hclock _) hid).trans ?_
                  simp only [hremote, hD, Option.isSome_some, true_and]

/-- The message is sent, and the conversation written, exactly when none of the four calls fails,
the user is found and valid, and the conversation can be read. -/
theorem sentOnce_ensureConversationAndSendMessage_iff (hclock : ∀ n, (env.clock n).Storable)
    (userId hostId postingName : String) (inDate outDate : DateTime) :
    SentOnce d.world.remote (Prog.exec (faulty outcome (Device.serve z ids env))
        (ensureConversationAndSendMessage z userId hostId postingName inDate outDate) s (i, d)) ↔
      outcome i = .reply true ∧ Replies outcome (i + 1) ∧ Replies outcome (i + 2) ∧
        Replies outcome (i + 3) ∧ CanGetUser z userId d.world ∧
        ConversationConsistent z (conversationId userId hostId) d.world := by
  rw [ensureConversationAndSendMessage_eq]
  cases ho : outcome i with
  | fail applied =>
      exact iff_of_false (not_sentOnce_of_fail ho rfl) (fun h => nomatch h.1)
  | reply v =>
      by_cases hcan : CanGetUser z userId d.world
      · obtain ⟨u, d', hserve, hremote, hrows, -⟩ := Device.serve_getUser_ok ids env hcan
        have hconsistent : ConversationConsistent z (conversationId userId hostId) d'.world ↔
            ConversationConsistent z (conversationId userId hostId) d.world :=
          conversationConsistent_congr (by rw [hremote]) (hrows.conversations _)
        rw [Prog.exec_call_bind_ok (faulty_of_reply ho hserve rfl), ← hremote]
        cases v with
        | true =>
            refine (sentOnce_conversation_iff hclock u (conversationId_ne_empty _ _)).trans ?_
            simp only [hconsistent, hcan, true_and]
        | false =>
            refine iff_of_false ?_ (fun h => nomatch h.1)
            rintro ⟨-, h, -⟩
            exact absurd h.symm (Nat.succ_ne_self _)
      · obtain ⟨e, he⟩ := Device.serve_getUser_error ids env hcan
        refine iff_of_false (not_sentOnce_of_error (e := e) ?_) (fun h => hcan h.2.2.2.2.1)
        rw [Prog.exec_call_bind_error (faulty_of_error ho he rfl)]

end Conversation

section Attempt

variable {s : BookPostingState} {r : BookingRequest}

/-- The conditions under which the host's earning is updated by a run whose first call is the
`i`-th one. -/
structure Earns (z : Zone) (outcome : ℕ → Outcome) (i : ℕ) (r : BookingRequest) (w : World) :
    Prop where
  booking : Replies outcome i
  guest : outcome (i + 1) = .reply true
  update : Replies outcome (i + 2)
  canGetUser : CanGetUser z r.userId w
  host : (w.remote.doc FirestoreCollection.user r.hostId).isSome

theorem canGetUser_after_update {w w' : World} {id : String} {D : Doc} (earning : ℚ)
    (h : CanGetUser z id w)
    (hdocs : w'.remote.docs FirestoreCollection.user =
      (w.remote.docs FirestoreCollection.user).insert r.hostId
        (DartMap.ofList [("earning", .double earning)] ∪ D))
    (hD : w.remote.doc FirestoreCollection.user r.hostId = some D)
    (hrow : (getEntity w'.realm .user id).isSome) : CanGetUser z id w' := by
  obtain ⟨D', x, hD', hx, -⟩ := canGetUser_iff.mp h
  refine canGetUser_iff.mpr ?_
  have hdoc : w'.remote.doc FirestoreCollection.user id =
      if id = r.hostId then some (DartMap.ofList [("earning", .double earning)] ∪ D)
      else w.remote.doc FirestoreCollection.user id := by
    unfold Firestore.doc
    rw [hdocs, FiniteMap.lookup_insert_eq_ite]
  by_cases hid : id = r.hostId
  · subst hid
    cases hD.symm.trans hD'
    obtain ⟨x', hx'⟩ := exists_fromDocumentSnapshot_earning earning hx
    exact ⟨_, x', by rw [hdoc, if_pos rfl], hx', isSome_getEntity_createUnawaited hrow⟩
  · exact ⟨D', x, by rw [hdoc, if_neg hid, hD'], hx, isSome_getEntity_createUnawaited hrow⟩

/-- The first helper, when all goes well. -/
theorem exec_createBookingAndUpdateHostEarning_of_earns (ids : AutoId) (env : Environment)
    (s : BookPostingState) (hin : r.inDate.Storable) (hout : r.outDate.Storable)
    (hne : r.hostId ≠ "") (h : Earns z outcome i r d.world) :
    ∃ d' D bookingId data earning, Prog.exec (faulty outcome (Device.serve z ids env))
        (createBookingAndUpdateHostEarning r.postingId r.userId r.hostId r.inDate r.outDate
          r.paymentAmount) s (i, d) = (.ok (), s, (i + 3, d')) ∧
      d.world.remote.doc FirestoreCollection.user r.hostId = some D ∧
      d'.world.remote = (d.world.remote.set FirestoreCollection.booking bookingId data).putDoc
        FirestoreCollection.user r.hostId (DartMap.ofList [("earning", .double earning)] ∪ D)
        (.update FirestoreCollection.user r.hostId) ∧
      (getEntity d'.world.realm .user r.userId).isSome ∧
      ∀ k, getEntity d'.world.realm .conversation k = getEntity d.world.realm .conversation k := by
  obtain ⟨⟨v₀, h₀⟩, h₁, ⟨v₂, h₂⟩, hcan, hhost⟩ := h
  obtain ⟨D, hD⟩ := Option.isSome_iff_exists.mp hhost
  obtain ⟨b, d₁, hserve₁, hremote₁, hrows₁⟩ := Device.serve_createBooking z ids env d r.postingId
    r.userId r.paymentAmount hin hout
  have huser (k : String) : d₁.world.remote.doc FirestoreCollection.user k =
      d.world.remote.doc FirestoreCollection.user k := by
    rw [hremote₁, Firestore.set, Firestore.doc_putDoc, if_neg (fun h => absurd h.1 (by decide))]
  have hcan₁ : CanGetUser z r.userId d₁.world :=
    (canGetUser_congr (huser _) (hrows₁ _ _ (by decide))).mpr hcan
  obtain ⟨u, d₂, hserve₂, hremote₂, hrows₂, hrow⟩ := Device.serve_getUser_ok ids env hcan₁
  obtain ⟨u', d₃, hserve₃, hremote₃, hrows₃⟩ := Device.serve_updateUser_ok z ids env
    (u.earning.getD 0 + r.paymentAmount) (d := d₂) (by rw [hremote₂, huser, hD]) hne
  refine ⟨d₃, D, _, _, _, ?_, hD, by rw [hremote₃, hremote₂, hremote₁], hrows₃.users _ hrow, ?_⟩
  · unfold createBookingAndUpdateHostEarning
    rw [Prog.exec_call_bind_ok (faulty_of_reply h₀ hserve₁ rfl),
      Prog.exec_call_bind_ok (faulty_of_reply h₁ hserve₂ rfl)]
    dsimp only [setValidity, Device.valid]
    simp only [↓reduceIte]
    rw [Prog.exec_call_bind_ok (faulty_of_reply h₂ hserve₃ rfl)]
    rfl
  · intro k
    rw [hrows₃.conversations, hrows₂.conversations, hrows₁ _ _ (by decide)]

/-- The host's earning is updated only when all goes well. -/
theorem earns_of_updated (hin : r.inDate.Storable) (hout : r.outDate.Storable) {run : Run}
    (hrun : run = Prog.exec (faulty outcome (Device.serve z ids env))
        (createBookingAndUpdateHostEarning r.postingId r.userId r.hostId r.inDate r.outDate
          r.paymentAmount) s (i, d)) (hok : run.1 = .ok ())
    (hupdated : run.2.2.2.world.remote.writes (isUpdateOf r.hostId) =
      d.world.remote.writes (isUpdateOf r.hostId) + 1) : Earns z outcome i r d.world := by
  unfold createBookingAndUpdateHostEarning at hrun
  cases h₀ : outcome i with
  | fail applied =>
      rw [Prog.exec_call_bind_error
        (congrArg Prod.fst (faulty_of_fail (.createBooking _) h₀ rfl))] at hrun
      subst hrun
      cases hok
  | reply v₀ =>
      obtain ⟨b, d₁, hserve₁, hremote₁, hrows₁⟩ := Device.serve_createBooking z ids env d
        r.postingId r.userId r.paymentAmount hin hout
      have huser (k : String) : d₁.world.remote.doc FirestoreCollection.user k =
          d.world.remote.doc FirestoreCollection.user k := by
        rw [hremote₁, Firestore.set, Firestore.doc_putDoc,
          if_neg (fun h => absurd h.1 (by decide))]
      rw [Prog.exec_call_bind_ok (faulty_of_reply h₀ hserve₁ rfl)] at hrun
      have hcan₁ : CanGetUser z r.userId d₁.world ↔ CanGetUser z r.userId d.world :=
        canGetUser_congr (huser _) (hrows₁ _ _ (by decide))
      cases h₁ : outcome (i + 1) with
      | fail applied =>
          rw [Prog.exec_call_bind_error
            (congrArg Prod.fst (faulty_of_fail (.getUser _) h₁ rfl))] at hrun
          subst hrun
          cases hok
      | reply v₁ =>
          by_cases hcan : CanGetUser z r.userId d₁.world
          swap
          · obtain ⟨e, he⟩ := Device.serve_getUser_error ids env hcan
            rw [Prog.exec_call_bind_error (faulty_of_error h₁ he rfl)] at hrun
            subst hrun
            cases hok
          obtain ⟨u, d₂, hserve₂, hremote₂, -⟩ := Device.serve_getUser_ok ids env hcan
          rw [Prog.exec_call_bind_ok (faulty_of_reply h₁ hserve₂ rfl)] at hrun
          cases v₁ with
          | false =>
              subst hrun
              change d₂.world.remote.writes _ = _ at hupdated
              rw [hremote₂, hremote₁, Firestore.set, Firestore.writes_putDoc] at hupdated
              exact absurd hupdated.symm (Nat.succ_ne_self _)
          | true =>
              dsimp only [setValidity, Device.valid] at hrun
              simp only [↓reduceIte] at hrun
              cases h₂ : outcome (i + 2) with
              | fail applied =>
                  rw [Prog.exec_call_bind_error
                    (congrArg Prod.fst (faulty_of_fail (.updateUser _ _) h₂ rfl))] at hrun
                  subst hrun
                  cases hok
              | reply v₂ =>
                  cases hD : d₂.world.remote.doc FirestoreCollection.user r.hostId with
                  | none =>
                      rw [Prog.exec_call_bind_error (faulty_of_error h₂
                        (Device.serve_updateUser_error z ids env _ hD) rfl)] at hrun
                      subst hrun
                      cases hok
                  | some D =>
                      refine ⟨⟨v₀, h₀⟩, h₁, ⟨v₂, h₂⟩, hcan₁.mp hcan, ?_⟩
                      rw [← huser, ← hremote₂, hD]
                      rfl

/-- The conditions under which the whole `try` block succeeds. -/
structure Succeeds (z : Zone) (outcome : ℕ → Outcome) (i : ℕ) (r : BookingRequest) (w : World) :
    Prop extends Earns z outcome i r w where
  sender : outcome (i + 3) = .reply true
  conversationRead : Replies outcome (i + 4)
  conversationWritten : Replies outcome (i + 5)
  message : Replies outcome (i + 6)
  conversation : ConversationConsistent z (conversationId r.userId r.hostId) w

/-- The second helper writes neither bookings nor users. -/
theorem writes_ensureConversationAndSendMessage {p : FirestoreWrite → Bool}
    (hp : ∀ entry, entry.collection ≠ FirestoreCollection.booking →
      entry.collection ≠ FirestoreCollection.user → p entry = false) (w : ℕ × Device) :
    (Prog.exec (faulty outcome (Device.serve z ids env)) (ensureConversationAndSendMessage z
      r.userId r.hostId r.postingName r.inDate r.outDate) s w).2.2.2.world.remote.writes p =
      w.2.world.remote.writes p := by
  have hkeeps : Prog.Keeps (fun _ => True) (fun op =>
      op.collection ≠ some FirestoreCollection.booking ∧
        op.collection ≠ some FirestoreCollection.user)
      (ensureConversationAndSendMessage z r.userId r.hostId r.postingName r.inDate r.outDate) :=
    ensureConversationAndSendMessage_keeps (fun op h h' => ⟨h, h'⟩) _ _ _ _ _
  refine hkeeps.exec_rel (R := fun w w' : ℕ × Device =>
      w'.2.world.remote.writes p = w.2.world.remote.writes p)
    (fun _ => rfl) (fun _ _ _ h h' => h'.trans h) ?_ trivial w
  intro op w hop
  refine (faulty_storesAtMostOne op w).writes_eq ?_
  intro entry hentry
  exact hp entry (fun h => hop.1 (h ▸ hentry)) (fun h => hop.2 (h ▸ hentry))

theorem isCreationIn_eq_false {collection : String} {entry : FirestoreWrite}
    (h : entry.collection ≠ collection) : isCreationIn collection entry = false := by
  cases entry with
  | set c id => exact decide_eq_false h
  | update c id => rfl
  | delete c id => rfl

theorem isUpdateOf_eq_false {hostId : String} {entry : FirestoreWrite}
    (h : entry.collection ≠ FirestoreCollection.user) : isUpdateOf hostId entry = false := by
  refine decide_eq_false ?_
  rintro rfl
  exact h rfl

theorem isUpdateOf_self (hostId : String) :
    isUpdateOf hostId (.update FirestoreCollection.user hostId) = true := decide_eq_true rfl

theorem attempt_bookedOnce_iff_of_earns (hclock : ∀ n, (env.clock n).Storable)
    (hin : r.inDate.Storable) (hout : r.outDate.Storable)
    (hempty : d.world.remote.doc FirestoreCollection.user "" = none) {run : Run}
    (hrun : run = Prog.exec (faulty outcome (Device.serve z ids env)) (r.attempt z) s (i, d))
    (h : Earns z outcome i r d.world) :
    run.1 = .ok () ∧ BookedOnce d.world.remote run.2.2.2.world.remote r.hostId ↔
      Succeeds z outcome i r d.world := by
  have hne : r.hostId ≠ "" := by
    intro he
    have hhost := h.host
    rw [he, hempty] at hhost
    cases hhost
  obtain ⟨d', D, bookingId, data, earning, hexec, hD, hremote, hrow, hrows⟩ :=
    exec_createBookingAndUpdateHostEarning_of_earns ids env s hin hout hne h
  have hrest : run = Prog.exec (faulty outcome (Device.serve z ids env))
      (ensureConversationAndSendMessage z r.userId r.hostId r.postingName r.inDate r.outDate) s
      (i + 3, d') := by
    rw [hrun, BookingRequest.attempt, Prog.exec_bind, hexec]
  have hcounts (p : FirestoreWrite → Bool) : d'.world.remote.writes p =
      d.world.remote.writes p + (if p (.set FirestoreCollection.booking bookingId) then 1 else 0) +
        (if p (.update FirestoreCollection.user r.hostId) then 1 else 0) := by
    rw [hremote, Firestore.writes_putDoc, Firestore.set, Firestore.writes_putDoc]
  have hcan : CanGetUser z r.userId d'.world := by
    refine canGetUser_after_update earning h.canGetUser ?_ hD hrow
    rw [hremote]
    rfl
  have hconsistent : ConversationConsistent z (conversationId r.userId r.hostId) d'.world ↔
      ConversationConsistent z (conversationId r.userId r.hostId) d.world := by
    refine conversationConsistent_congr ?_ (hrows _)
    rw [hremote]
    rfl
  have hbooked : run.1 = .ok () ∧ BookedOnce d.world.remote run.2.2.2.world.remote r.hostId ↔
      SentOnce d'.world.remote run := by
    have hbooking : run.2.2.2.world.remote.writes (isCreationIn FirestoreCollection.booking) =
        d.world.remote.writes (isCreationIn FirestoreCollection.booking) + 1 := by
      rw [hrest, writes_ensureConversationAndSendMessage
        (fun _ h _ => isCreationIn_eq_false h), hcounts]
      rfl
    have hupdate : run.2.2.2.world.remote.writes (isUpdateOf r.hostId) =
        d.world.remote.writes (isUpdateOf r.hostId) + 1 := by
      have hset : isUpdateOf r.hostId (.set FirestoreCollection.booking bookingId) = false := rfl
      rw [hrest, writes_ensureConversationAndSendMessage
        (fun _ _ h => isUpdateOf_eq_false h), hcounts, isUpdateOf_self, hset]
      rfl
    have hconversation : d'.world.remote.writes isConversationWrite =
        d.world.remote.writes isConversationWrite := hcounts _
    have hmessage : d'.world.remote.writes (isCreationIn FirestoreCollection.message) =
        d.world.remote.writes (isCreationIn FirestoreCollection.message) := hcounts _
    simp only [BookedOnce, SentOnce, hbooking, hupdate, hconversation, hmessage, true_and]
  rw [hbooked, hrest, sentOnce_ensureConversationAndSendMessage_iff hclock]
  constructor
  · rintro ⟨h₃, h₄, h₅, h₆, -, hc⟩
    exact ⟨h, h₃, h₄, h₅, h₆, hconsistent.mp hc⟩
  · rintro ⟨-, h₃, h₄, h₅, h₆, hc⟩
    exact ⟨h₃, h₄, h₅, h₆, hcan, hconsistent.mpr hc⟩

theorem attempt_bookedOnce_iff (hclock : ∀ n, (env.clock n).Storable) (hin : r.inDate.Storable)
    (hout : r.outDate.Storable)
    (hempty : d.world.remote.doc FirestoreCollection.user "" = none) {run : Run}
    (hrun : run = Prog.exec (faulty outcome (Device.serve z ids env)) (r.attempt z) s (i, d)) :
    run.1 = .ok () ∧ BookedOnce d.world.remote run.2.2.2.world.remote r.hostId ↔
      Succeeds z outcome i r d.world := by
  have hwhole := attempt_bookedOnce_iff_of_earns hclock hin hout hempty hrun
  refine ⟨?_, fun h => (hwhole h.toEarns).mpr h⟩
  rintro ⟨hok, hbooked⟩
  refine (hwhole ?_).mp ⟨hok, hbooked⟩
  have hupdate := hbooked.2.1
  rw [BookingRequest.attempt, Prog.exec_bind] at hrun
  split at hrun
  · rename_i s' w' hexec
    refine earns_of_updated hin hout hexec.symm rfl ?_
    rw [hrun, writes_ensureConversationAndSendMessage (p := isUpdateOf r.hostId)
      (fun _ _ h => isUpdateOf_eq_false h)] at hupdate
    exact hupdate
  · subst hrun
    cases hok

theorem attempt_storesBooking (z : Zone) (ids : AutoId) (env : Environment)
    (s : BookPostingState) (d : Device) (hin : r.inDate.Storable) (hout : r.outDate.Storable)
    (h : outcome i ≠ .fail false) :
    ∃ id, d.world.remote.doc FirestoreCollection.booking id = none ∧
      ((Prog.exec (faulty outcome (Device.serve z ids env)) (r.attempt z) s
        (i, d)).2.2.2.world.remote.doc FirestoreCollection.booking id).isSome := by
  have hkeeps : Prog.Keeps (fun _ => True) (fun _ => True) (r.attempt z) :=
    (createBookingAndUpdateHostEarning_keeps (fun _ _ => trivial) trivial).bind
      (fun _ => ensureConversationAndSendMessage_keeps (fun _ _ _ => trivial) _ _ _ _ _)
  obtain ⟨b, d', hserve, hremote, -⟩ := Device.serve_createBooking z ids env d r.postingId r.userId
    r.paymentAmount hin hout
  set id := ids.next (d.world.remote.docs FirestoreCollection.booking).keys
  refine ⟨id, ?_, ?_⟩
  · rw [Firestore.doc, AList.lookup_eq_none]
    exact ids.fresh _
  have hfirst : ((faulty outcome (Device.serve z ids env) (.createBooking (bookingData r.postingId
      r.userId r.inDate r.outDate r.paymentAmount)) (i, d)).2.2.world.remote.doc
        FirestoreCollection.booking id).isSome := by
    have hsome : (d'.world.remote.doc FirestoreCollection.booking id).isSome := by
      rw [hremote, Firestore.set, Firestore.doc_putDoc, if_pos ⟨rfl, rfl⟩]
      rfl
    cases ho : outcome i with
    | reply v =>
        rw [faulty_of_reply ho hserve rfl]
        exact hsome
    | fail applied =>
        rw [faulty_of_fail _ ho rfl]
        cases applied with
        | false => exact absurd ho h
        | true =>
            rw [if_pos rfl, hserve]
            exact hsome
  -- the calls after the first one remove no document
  refine (hkeeps.2 _).exec_rel (R := fun w w' : ℕ × Device =>
    (w.2.world.remote.doc FirestoreCollection.booking id).isSome →
      (w'.2.world.remote.doc FirestoreCollection.booking id).isSome)
    (fun _ h => h) (fun _ _ _ h h' hsome => h' (h hsome)) ?_ trivial _ hfirst
  intro op w _ hsome
  exact (faulty_storesAtMostOne op w).isSome_doc hsome

theorem exec_attempt_of_fail {applied : Bool} (h : outcome i = .fail applied) :
    Prog.exec (faulty outcome (Device.serve z ids env)) (r.attempt z) s (i, d) =
      (.error .unavailable, s, (i + 1, if applied then (Device.serve z ids env (.createBooking
        (bookingData r.postingId r.userId r.inDate r.outDate r.paymentAmount)) d).2 else d)) := by
  unfold BookingRequest.attempt createBookingAndUpdateHostEarning
  rw [Prog.exec_bind, Prog.exec_call_bind_error
    (congrArg Prod.fst (faulty_of_fail (.createBooking _) h rfl)), faulty_of_fail _ h rfl]

end Attempt

section Report

variable {posting : Option (Managed Posting)} {s : BookPostingState} {r : BookingRequest}

theorem attempt_reports_iff (hclock : ∀ n, (env.clock n).Storable) (hin : r.inDate.Storable)
    (hout : r.outDate.Storable)
    (hempty : d.world.remote.doc FirestoreCollection.user "" = none) {run : Run}
    (hrun : run = Prog.exec (faulty outcome (Device.serve z ids env)) (r.attempt z) s (i, d)) :
    (match run.1 with
      | .error _ => SameRecords d.world.remote run.2.2.2.world.remote
      | .ok _ => BookedOnce d.world.remote run.2.2.2.world.remote r.hostId) ↔
      outcome i = .fail false ∨ Succeeds z outcome i r d.world := by
  have hbooked := attempt_bookedOnce_iff hclock hin hout hempty hrun
  cases hresult : run.1 with
  | ok u =>
      have hreply : outcome i ≠ .fail false := by
        intro ho
        rw [hrun, exec_attempt_of_fail ho] at hresult
        cases hresult
      rw [hresult] at hbooked
      simp only [true_and] at hbooked
      simp only [hbooked, hreply, false_or]
  | error e =>
      have hnot : ¬ Succeeds z outcome i r d.world := by
        intro h
        have hok := (hbooked.mpr h).1
        rw [hresult] at hok
        cases hok
      simp only [hnot, or_false]
      constructor
      · intro hsame
        by_contra hne
        obtain ⟨id, hnone, hsome⟩ := attempt_storesBooking z ids env s d hin hout hne
        rw [← hrun, Firestore.doc, hsame.1] at hsome
        rw [Firestore.doc] at hnone
        rw [hnone] at hsome
        cases hsome
      · intro ho
        rw [hrun, exec_attempt_of_fail ho]
        exact ⟨rfl, rfl, rfl, fun _ => rfl⟩

/-- The request `saveBooking` gets to, if the user id is known and the guards let it pass. -/
def requested (z : Zone) (outcome : ℕ → Outcome) (env : Environment)
    (posting : Option (Managed Posting)) (s : BookPostingState) : Option BookingRequest :=
  match outcome 0 with
  | .reply _ => BookingRequest.ofInputs z posting env.userId s
  | .fail _ => none

theorem requested_eq_some (h : requested z outcome env posting s = some r) :
    ∃ v p checkIn checkOut, outcome 0 = .reply v ∧
      BookingRequest.ofInputs z posting env.userId s = some r ∧ posting = some p ∧
      p.object.hostId = some r.hostId ∧ s.dates.lookup "check_in" = some checkIn ∧
      s.dates.lookup "check_out" = some checkOut ∧ r.inDate = checkIn.dateOnly z ∧
      r.outDate = checkOut.dateOnly z := by
  unfold requested at h
  cases ho : outcome 0 with
  | fail applied =>
      rw [ho] at h
      cases h
  | reply v =>
      rw [ho] at h
      have hr := h
      simp only [BookingRequest.ofInputs, Option.bind_eq_bind, Option.bind_eq_some_iff] at hr
      obtain ⟨p, hp, hr⟩ := hr
      split_ifs at hr
      simp only [Option.bind_eq_some_iff] at hr
      obtain ⟨hostId, hhost, price, -, userId, -, checkIn, hin, checkOut, hout, hr⟩ := hr
      cases hr
      exact ⟨v, p, checkIn, checkOut, rfl, h, hp, hhost, hin, hout, rfl, rfl⟩

theorem faulty_userId {v : Bool} (h : outcome 0 = .reply v) :
    faulty outcome (Device.serve z ids env) .userId (0, d) = (.ok env.userId, (1, d)) :=
  faulty_of_reply h rfl rfl

/-- Without a request nothing happens, and nothing is said. -/
theorem exec_saveBooking_of_no_request (ids : AutoId) (d : Device)
    (h : requested z outcome env posting s = none) :
    ∃ result i, Prog.exec (faulty outcome (Device.serve z ids env)) (saveBooking z posting) s
      (0, d) = (result, s, (i, d)) := by
  cases posting with
  | none => exact ⟨_, _, rfl⟩
  | some posting =>
      dsimp only [saveBooking]
      split_ifs with hvalid
      swap
      · exact ⟨_, _, rfl⟩
      cases hhost : posting.object.hostId with
      | none => exact ⟨_, _, rfl⟩
      | some hostId =>
          cases hprice : posting.object.price with
          | none => exact ⟨_, _, rfl⟩
          | some price =>
              cases ho : outcome 0 with
              | fail applied =>
                  have hfail : faulty outcome (Device.serve z ids env) .userId (0, d) = _ :=
                    faulty_of_fail .userId ho rfl
                  refine ⟨.error .unavailable, 1,
                    (Prog.exec_call_bind_error (congrArg Prod.fst hfail)).trans ?_⟩
                  rw [hfail]
                  cases applied <;> rfl
              | reply v =>
                  simp only [requested, ho, BookingRequest.ofInputs, Option.bind_eq_bind,
                    Option.bind_some, if_pos hvalid, hhost, hprice] at h
                  refine ⟨.ok (), 1, (Prog.exec_call_bind_ok (faulty_userId ho)).trans ?_⟩
                  cases huser : env.userId with
                  | none => rfl
                  | some userId =>
                      simp only [huser, Option.bind_some] at h
                      rw [Prog.exec_bind, Prog.exec_state]
                      dsimp only
                      cases hin : s.dates.lookup "check_in" with
                      | none => rfl
                      | some checkIn =>
                          cases hout : s.dates.lookup "check_out" with
                          | none => rfl
                          | some checkOut => simp [hin, hout] at h

end Report

end Faults

def saveBookingUnder (z : Zone) (ids : AutoId) (env : Environment) (outcome : ℕ → Outcome)
    (posting : Option (Managed Posting)) (s : BookPostingState) (d : Device) : Run :=
  Prog.exec (faulty outcome (Device.serve z ids env)) (saveBooking z posting) s (0, d)

/-- Over all schedules of failures, `saveBooking` reports truthfully exactly when its guards stop
it with an error message already shown, when `createBooking` fails without effect, or when
everything succeeds. -/
theorem saveBooking_reportsTruthfully_iff (z : Zone) (ids : AutoId) (env : Environment)
    (outcome : ℕ → Outcome) (posting : Option (Managed Posting)) (s : BookPostingState) (d : Device)
    (hclock : ∀ n, (env.clock n).Storable)
    (hdates : ∀ tag t, s.dates.lookup tag = some t → (t.dateOnly z).Storable)
    (hempty : d.world.remote.doc FirestoreCollection.user "" = none) :
    ReportsTruthfully posting d.world.remote
        (saveBookingUnder z ids env outcome posting s d).2.1
        (saveBookingUnder z ids env outcome posting s d).2.2.2.world.remote ↔
      (requested z outcome env posting s = none ∧ s.errorMessage.isSome) ∨
        ∃ r, requested z outcome env posting s = some r ∧
          (outcome 1 = .fail false ∨ Succeeds z outcome 1 r d.world) := by
  cases hr : requested z outcome env posting s with
  | none =>
      obtain ⟨result, i, hexec⟩ := exec_saveBooking_of_no_request ids d hr
      have hrun : saveBookingUnder z ids env outcome posting s d = (result, s, (i, d)) := hexec
      rw [hrun]
      simp only [ReportsTruthfully, true_and, reduceCtorEq, false_and, exists_false, or_false]
      split_ifs with hmessage
      · exact iff_of_true ⟨rfl, rfl, rfl, fun _ => rfl⟩ hmessage
      · refine iff_of_false ?_ hmessage
        rintro ⟨p, hostId, -, -, h, -⟩
        exact absurd h.symm (Nat.succ_ne_self _)
  | some r =>
      obtain ⟨v, p, checkIn, checkOut, ho, hinputs, rfl, hhost, hin, hout, hinDate, houtDate⟩ :=
        requested_eq_some hr
      obtain ⟨run, hrun⟩ : ∃ run : Run, run = Prog.exec (faulty outcome (Device.serve z ids env))
        (r.attempt z) (saving s) (1, d) := ⟨_, rfl⟩
      have hattempt := attempt_reports_iff hclock (hinDate ▸ hdates _ _ hin)
        (houtDate ▸ hdates _ _ hout) hempty hrun
      have hsave : saveBookingUnder z ids env outcome (some p) s d =
          (.ok (), finished s run.1, run.2.2) := by
        rw [hrun]
        exact exec_saveBooking_of_request (faulty_userId ho) hinputs
      rw [hsave]
      simp only [reduceCtorEq, false_and, Option.some.injEq, exists_eq_left', false_or, ← hattempt]
      cases hresult : run.1 with
      | error e => exact Iff.rfl
      | ok u =>
          constructor
          · rintro ⟨p', hostId, hp, hhost', hbooked⟩
            cases hp
            cases hhost.symm.trans hhost'
            exact hbooked
          · intro hbooked
            exact ⟨p, r.hostId, rfl, hhost, hbooked⟩

section MessageFails

def guestAndHost : Device :=
  ⟨⟨(Firestore.empty.set FirestoreCollection.user "g1" ∅).set FirestoreCollection.user "h1" ∅,
    Realm.empty⟩, 0⟩

def allSucceed : ℕ → Outcome := fun _ => .reply true

/-- The seventh awaited call after the user id is `createMessage`. -/
def messageFails : ℕ → Outcome := fun i => if i = 7 then .fail false else .reply true

theorem storable_oneNight (tag : String) (t : DateTime)
    (h : oneNight.dates.lookup tag = some t) : (t.dateOnly Zone.utc).Storable := by
  change ((AList.insert "check_in" (Zone.utc.date 8) (∅ : DartMap DateTime)).insert "check_out"
    (Zone.utc.date 9)).lookup tag = some t at h
  rw [FiniteMap.lookup_insert_eq_ite, FiniteMap.lookup_insert_eq_ite] at h
  split_ifs at h
  · cases h
    decide +kernel
  · cases h
    decide +kernel
  · cases h

theorem saveBooking_reportsTruthfully_iff_oneNight :
    ReportsTruthfully (some cabin) guestAndHost.world.remote
      (saveBookingUnder Zone.utc AutoId.longer guest allSucceed (some cabin) oneNight
        guestAndHost).2.1
      (saveBookingUnder Zone.utc AutoId.longer guest allSucceed (some cabin) oneNight
        guestAndHost).2.2.2.world.remote := by
  have hstorable (n : ℕ) : (guest.clock n).Storable := by
    change (DateTime.utc 0).Storable
    decide +kernel
  have hreplies (i : ℕ) : Replies allSucceed i := ⟨true, rfl⟩
  have hconversation : ConversationConsistent Zone.utc (conversationId "g1" "h1")
      guestAndHost.world := rfl
  have hcan : CanGetUser Zone.utc "g1" guestAndHost.world := ⟨_, rfl⟩
  have hrequested : requested Zone.utc allSucceed guest (some cabin) oneNight = some ⟨"p1", "g1",
      "h1", "Cabin", Zone.utc.date 8, Zone.utc.date 9, (1 : ℤ) * 50⟩ := rfl
  have hsucceeds : Succeeds Zone.utc allSucceed 1 ⟨"p1", "g1", "h1", "Cabin", Zone.utc.date 8,
      Zone.utc.date 9, (1 : ℤ) * 50⟩ guestAndHost.world :=
    ⟨⟨hreplies 1, rfl, hreplies 3, hcan, rfl⟩, rfl, hreplies 5, hreplies 6, hreplies 7,
      hconversation⟩
  exact (saveBooking_reportsTruthfully_iff Zone.utc AutoId.longer guest allSucceed (some cabin)
    oneNight guestAndHost hstorable storable_oneNight rfl).mpr
    (.inr ⟨_, hrequested, .inr hsucceeds⟩)

/-- The message fails, the guest reads that the booking failed, and the booking stays. -/
theorem failed_message_keeps_the_booking :
    (saveBookingUnder Zone.utc AutoId.longer guest messageFails (some cabin) oneNight
        guestAndHost).2.1.errorMessage = some "Booking failed. Please try again." ∧
      ((saveBookingUnder Zone.utc AutoId.longer guest messageFails (some cabin) oneNight
        guestAndHost).2.2.2.world.remote.docs FirestoreCollection.booking).keys = ["x"] ∧
      ¬ ReportsTruthfully (some cabin) guestAndHost.world.remote
        (saveBookingUnder Zone.utc AutoId.longer guest messageFails (some cabin) oneNight
          guestAndHost).2.1
        (saveBookingUnder Zone.utc AutoId.longer guest messageFails (some cabin) oneNight
          guestAndHost).2.2.2.world.remote := by
  have hmessage : (saveBookingUnder Zone.utc AutoId.longer guest messageFails (some cabin) oneNight
      guestAndHost).2.1.errorMessage = some "Booking failed. Please try again." := rfl
  have hbooking : ((saveBookingUnder Zone.utc AutoId.longer guest messageFails (some cabin) oneNight
      guestAndHost).2.2.2.world.remote.docs FirestoreCollection.booking).keys = ["x"] := rfl
  refine ⟨hmessage, hbooking, ?_⟩
  intro h
  unfold ReportsTruthfully at h
  simp only [hmessage, Option.isSome_some, ↓reduceIte] at h
  rw [h.1] at hbooking
  exact absurd hbooking (by decide)

end MessageFails

end AirBnbClone
