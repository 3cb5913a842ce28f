import AirBnbClone.BookPostingCubit

/-!
# What the booking flow's calls do

One statement bounds the remote effect of every call: it stores at most one document, in the
collection the call belongs to. The calls of `saveBooking` are then described one by one, with
the conditions under which they succeed.
-/

namespace AirBnbClone

open FirestoreMapper FireStoreService RealmService BookPostingCubit

namespace Device

/-- The remote effect of a call on `f`, seen from outside. -/
def StoresAtMostOne (op : Call) (f f' : Firestore) : Prop :=
  f' = f ∨ ∃ c id data entry, op.collection = some c ∧ entry.collection = c ∧
    f' = f.putDoc c id data entry

variable {z : Zone} {ids : AutoId} {env : Environment} {op : Call} {d d' : Device}
  {f f' : Firestore}

theorem answer_world {α β : Type} (g : World → Except DartError α × World) (wrap : α → β) :
    (answer g wrap d).2.world = (g d.world).2 := rfl

theorem storesAtMostOne_createAndRead {T : Model} {c failure : String} {i : Option String}
    {data : Doc} (hop : op.collection = some c) (w : World) : StoresAtMostOne op w.remote
      (createAndRead z ids T c i data failure w).2.remote := by
  rw [createAndRead_remote]
  exact .inr ⟨c, _, _, .set c _, hop, rfl, rfl⟩

theorem storesAtMostOne_updateAndRead {T : Model} {c id failure : String} {data : Doc}
    (hop : op.collection = some c) (w : World) : StoresAtMostOne op w.remote
      (updateAndRead z T c id data failure w).2.remote := by
  rcases updateAndRead_cases z T c id data failure w with ⟨-, h⟩ | ⟨D, -, h⟩
  · rw [h]
    exact .inl rfl
  · rw [h]
    exact .inr ⟨c, id, _, .update c id, hop, rfl, rfl⟩

theorem serve_storesAtMostOne (op : Call) (d : Device) :
    StoresAtMostOne op d.world.remote (serve z ids env op d).2.world.remote := by
  cases op with
  | userId => exact .inl rfl
  | createPaymentIntent name address amount => exact .inl rfl
  | now => exact .inl rfl
  | getBookingsForPosting postingId userId =>
      refine .inl ?_
      simp only [serve, answer_world, getBookingsForPosting_world]
      rfl
  | createBooking data => exact storesAtMostOne_createAndRead rfl d.world
  | getUser id =>
      refine .inl ?_
      simp only [serve, answer_world, getUser_world, getDoc_remote]
  | updateUser id data => exact storesAtMostOne_updateAndRead rfl d.world
  | getConversation id =>
      refine .inl ?_
      simp only [serve, answer_world, getConversation_world, getDoc_remote]
  | updateConversation id data => exact storesAtMostOne_updateAndRead rfl d.world
  | createConversation data id => exact storesAtMostOne_createAndRead rfl d.world
  | createMessage data => exact storesAtMostOne_createAndRead rfl d.world

theorem StoresAtMostOne.docs_eq (h : StoresAtMostOne op f f') {c : String}
    (hc : op.collection ≠ some c) : f'.docs c = f.docs c := by
  rcases h with rfl | ⟨c', id, data, entry, hop, -, rfl⟩
  · rfl
  · apply Firestore.docs_putDoc_of_ne f id data entry
    rintro rfl
    exact hc hop

theorem StoresAtMostOne.writes_eq (h : StoresAtMostOne op f f') {p : FirestoreWrite → Bool}
    (hp : ∀ entry, op.collection = some entry.collection → p entry = false) :
    f'.writes p = f.writes p := by
  rcases h with rfl | ⟨c, id, data, entry, hop, hentry, rfl⟩
  · rfl
  · rw [Firestore.writes_putDoc, hp entry (hentry ▸ hop)]
    rfl

/-- No call of the booking flow removes a document. -/
theorem StoresAtMostOne.isSome_doc (h : StoresAtMostOne op f f') {c id : String}
    (hid : (f.doc c id).isSome) : (f'.doc c id).isSome := by
  rcases h with rfl | ⟨c', id', data, entry, -, -, rfl⟩
  · exact hid
  · rw [Firestore.doc_putDoc]
    split_ifs
    · rfl
    · exact hid

end Device

section Decoding

variable {z : Zone} {id : String} {now : DateTime}

theorem parseDateTime_storable {t : DateTime} (h : t.Storable) :
    Cast.parseDateTime z (.int t.millisecondsSinceEpoch) =
      .ok (some (t.millisecondsSinceEpoch * 1000)) := by
  unfold DateTime.Storable at h
  simp only [Cast.parseDateTime, DateTime.fromMillisecondsSinceEpoch, if_pos h]

theorem fromMap_bookingData {postingId userId : String} {inDate outDate : DateTime}
    {paymentAmount : ℚ} (hin : inDate.Storable) (hout : outDate.Storable) :
    fromMap z .booking ((bookingData postingId userId inDate outDate paymentAmount).insert "id"
      (.string id)) = .ok ⟨id, some postingId, some userId,
        some (inDate.millisecondsSinceEpoch * 1000), some (outDate.millisecondsSinceEpoch * 1000),
        some paymentAmount⟩ := by
  change (do
    let checkIn ← Cast.parseDateTime z (.int inDate.millisecondsSinceEpoch)
    let checkOut ← Cast.parseDateTime z (.int outDate.millisecondsSinceEpoch)
    return (⟨id, some postingId, some userId, checkIn, checkOut, some paymentAmount⟩ : Booking)) = _
  rw [parseDateTime_storable hin, parseDateTime_storable hout]
  rfl

theorem fromMap_earning (z : Zone) (id : String) (earning : ℚ) :
    ∃ x : User,
      fromMap z .user (withId id (DartMap.ofList [("earning", .double earning)])) = .ok x ∧
        x.id = id :=
  ⟨_, rfl, rfl⟩

theorem fromMap_lastMessagePayload (z : Zone) (id text : String) (user : User)
    (hnow : now.Storable) :
    ∃ x : Conversation,
      fromMap z .conversation (withId id (lastMessagePayload now text user)) = .ok x ∧
        x.id = id := by
  have h : fromMap z .conversation (withId id (lastMessagePayload now text user)) = (do
      let lastMessageAt ← Cast.parseDateTime z (.int now.millisecondsSinceEpoch)
      return (⟨id, ∅, some (user.imageUrl.getD ""), some (user.fullName.getD ""), some text,
        lastMessageAt, none⟩ : Conversation)) := rfl
  rw [h, parseDateTime_storable hnow]
  exact ⟨_, rfl, rfl⟩

theorem fromMap_newConversationData (z : Zone) (id userId hostId text : String) (user : User)
    {now' : DateTime} (hnow : now.Storable) (hnow' : now'.Storable) :
    ∃ x : Conversation, fromMap z .conversation (withId id (newConversationData userId hostId now'
      (lastMessagePayload now text user))) = .ok x ∧ x.id = id := by
  have h : fromMap z .conversation (withId id (newConversationData userId hostId now'
      (lastMessagePayload now text user))) = (do
      let lastMessageAt ← Cast.parseDateTime z (.int now.millisecondsSinceEpoch)
      let createdAt ← Cast.parseDateTime z (.int now'.millisecondsSinceEpoch)
      return (⟨id, [userId, hostId].toFinset, some (user.imageUrl.getD ""),
        some (user.fullName.getD ""), some text, lastMessageAt, createdAt⟩ : Conversation)) := rfl
  rw [h, parseDateTime_storable hnow, parseDateTime_storable hnow']
  exact ⟨_, rfl, rfl⟩

theorem fromMap_messageData (z : Zone) (id conversationId userId text : String)
    (hnow : now.Storable) :
    ∃ x : Message, fromMap z .message ((messageData conversationId userId text now).insert "id"
      (.string id)) = .ok x ∧ x.id = id := by
  have h : fromMap z .message ((messageData conversationId userId text now).insert "id"
      (.string id)) = (do
      let createdAt ← Cast.parseDateTime z (.int now.millisecondsSinceEpoch)
      return (⟨id, some userId, some conversationId, some text, createdAt⟩ : Message)) := rfl
  rw [h, parseDateTime_storable hnow]
  exact ⟨_, rfl, rfl⟩

end Decoding

section Users

open UserRepository

variable {z : Zone} {id : String} {w w' : World}

/-- `getUser` finds the user: its document decodes and a row can be read back. -/
def CanGetUser (z : Zone) (id : String) (w : World) : Prop := ∃ u, (getUser z id w).1 = .ok u

theorem getUser_eq {D : Doc} {x : User}
    (hD : w.remote.doc FirestoreCollection.user id = some D)
    (hx : fromDocumentSnapshot z .user id D = .ok x) : getUser z id w =
      readBack .user id "Failed to retrieve user from local storage"
        ⟨w.remote, createUnawaited w.realm .user x⟩ := by
  simp only [getUser, getDoc, hD, hx]

theorem getUser_eq_ok {u : User} (h : (getUser z id w).1 = .ok u) : ∃ D x,
    w.remote.doc FirestoreCollection.user id = some D ∧
      fromDocumentSnapshot z .user id D = .ok x ∧
      getEntity (createUnawaited w.realm .user x) .user id = some u ∧
      (getUser z id w).2 = ⟨w.remote, createUnawaited w.realm .user x⟩ := by
  cases hD : w.remote.doc FirestoreCollection.user id with
  | none => simp [getUser, getDoc, hD] at h
  | some D =>
      cases hx : fromDocumentSnapshot z .user id D with
      | error e => simp [getUser, getDoc, hD, hx] at h
      | ok x =>
          rw [getUser_eq hD hx] at h ⊢
          refine ⟨D, x, rfl, hx, ?_, readBack_world id⟩
          unfold readBack at h
          split at h
          · rename_i hu
            cases h
            exact hu
          · cases h

theorem canGetUser_iff : CanGetUser z id w ↔ ∃ D x,
    w.remote.doc FirestoreCollection.user id = some D ∧
      fromDocumentSnapshot z .user id D = .ok x ∧
      (getEntity (createUnawaited w.realm .user x) .user id).isSome := by
  constructor
  · rintro ⟨u, hu⟩
    obtain ⟨D, x, hD, hx, hrow, -⟩ := getUser_eq_ok hu
    exact ⟨D, x, hD, hx, by rw [hrow]; rfl⟩
  · rintro ⟨D, x, hD, hx, hsome⟩
    obtain ⟨u, hu⟩ := Option.isSome_iff_exists.mp hsome
    refine ⟨u, ?_⟩
    rw [getUser_eq hD hx, readBack]
    dsimp only
    rw [hu]

theorem canGetUser_congr
    (hdoc : w'.remote.doc FirestoreCollection.user id = w.remote.doc FirestoreCollection.user id)
    (hrow : getEntity w'.realm .user id = getEntity w.realm .user id) :
    CanGetUser z id w' ↔ CanGetUser z id w := by
  simp only [canGetUser_iff, hdoc, getEntity_createUnawaited, hrow]

theorem isSome_getEntity_createUnawaited {r : Realm} {T : Model} {x : Entity T} {k : String}
    (h : (getEntity r T k).isSome) : (getEntity (createUnawaited r T x) T k).isSome := by
  rw [getEntity_createUnawaited]
  split_ifs
  · rfl
  · exact h

theorem get_earning_union (earning : ℚ) (D : Doc) (k : String) :
    Doc.get (DartMap.ofList [("earning", .double earning)] ∪ D) k =
      if k = "earning" then .double earning else D.get k := by
  rw [Doc.get_union]
  by_cases hk : k = "earning"
  · subst hk
    rfl
  · rw [if_neg hk, if_neg]
    rw [FiniteMap.mem_iff_lookup_ne_none, not_not]
    exact AList.lookup_insert_ne hk

/-- Overwriting the earning by a double keeps a user's document readable. -/
theorem exists_fromDocumentSnapshot_earning {D : Doc} {x : User} (earning : ℚ)
    (h : fromDocumentSnapshot z .user id D = .ok x) :
    ∃ x', fromDocumentSnapshot z .user id (DartMap.ofList [("earning", .double earning)] ∪ D) =
      .ok x' := by
  have hsnap (k : String) :
      (withSnapshotId id (DartMap.ofList [("earning", .double earning)] ∪ D)).get k =
        if k = "earning" then .double earning else (withSnapshotId id D).get k := by
    have hne : ("id" : String) ≠ "earning" := by decide
    unfold withSnapshotId
    rw [get_earning_union, if_neg hne]
    split_ifs with hnull hk hk
    · rw [Doc.get_insert, get_earning_union, if_pos hk, if_neg (hk ▸ hne.symm)]
    · rw [Doc.get_insert, Doc.get_insert, get_earning_union, if_neg hk]
    · rw [get_earning_union, if_pos hk]
    · rw [get_earning_union, if_neg hk]
  apply exists_fromMap_ok
  intro f hf
  rw [hsnap]
  split_ifs with hk
  · simp only [fieldDecoders, field, List.mem_cons, List.not_mem_nil, or_false] at hf
    rcases hf with rfl | rfl | rfl | rfl | rfl | rfl | rfl | rfl | rfl | rfl | rfl | rfl
    all_goals first
      | exact absurd hk (by decide)
      | exact ⟨_, rfl⟩
  · exact decode_ok_of_fromMap_ok h f hf

end Users

section Conversations

open ConversationRepository

variable {z : Zone} {id : String} {w w' : World}

/-- The conversation's document decodes if there is one, and if there is none the device has no
row for it either. -/
def ConversationConsistent (z : Zone) (id : String) (w : World) : Prop :=
  match w.remote.doc FirestoreCollection.conversation id with
  | some D => ∃ x, fromDocumentSnapshot z .conversation id D = .ok x
  | none => getEntity w.realm .conversation id = none

theorem conversationConsistent_congr
    (hdoc : w'.remote.doc FirestoreCollection.conversation id =
      w.remote.doc FirestoreCollection.conversation id)
    (hrow : getEntity w'.realm .conversation id = getEntity w.realm .conversation id) :
    ConversationConsistent z id w' ↔ ConversationConsistent z id w := by
  simp only [ConversationConsistent, hdoc, hrow]

theorem getConversation_of_none
    (h : w.remote.doc FirestoreCollection.conversation id = none) :
    getConversation z id w = (.ok (getEntity w.realm .conversation id), w) := by
  simp only [getConversation, getDoc, h]

theorem getConversation_of_ok {D : Doc} {x : Conversation}
    (h : w.remote.doc FirestoreCollection.conversation id = some D)
    (hx : fromDocumentSnapshot z .conversation id D = .ok x) :
    getConversation z id w = (.ok (getEntity (createUnawaited w.realm .conversation x)
      .conversation id), ⟨w.remote, createUnawaited w.realm .conversation x⟩) := by
  simp only [getConversation, getDoc, h, hx]

theorem getConversation_of_error {D : Doc} {e : DartError}
    (h : w.remote.doc FirestoreCollection.conversation id = some D)
    (hx : fromDocumentSnapshot z .conversation id D = .error e) :
    getConversation z id w = (.error e, w) := by
  simp only [getConversation, getDoc, h, hx]

end Conversations

namespace Device

open UserRepository ConversationRepository

variable {z : Zone} {ids : AutoId} {env : Environment} {d : Device} {id : String}

/-- A later state of the device, in which no row of a user has been lost and the rows of
conversations are the same. -/
structure KeepsRows (d d' : Device) : Prop where
  users : ∀ k, (getEntity d.world.realm .user k).isSome → (getEntity d'.world.realm .user k).isSome
  conversations : ∀ k, getEntity d'.world.realm .conversation k =
    getEntity d.world.realm .conversation k

theorem answer_eq_ok {α β : Type} {g : World → Except DartError α × World} {wrap : α → β} {a : α}
    {w : World} (h : g d.world = (.ok a, w)) :
    answer g wrap d = (.ok (wrap a), { d with world := w }) := by
  simp only [answer, h]
  rfl

theorem answer_eq_error {α β : Type} {g : World → Except DartError α × World} {wrap : α → β}
    {e : DartError} (h : (g d.world).1 = .error e) : (answer g wrap d).1 = .error e := by
  simp only [answer, h]
  rfl

theorem serve_createBooking_remote (z : Zone) (ids : AutoId) (env : Environment) (data : Doc) :
    (serve z ids env (.createBooking data) d).2.world.remote =
      d.world.remote.set FirestoreCollection.booking
        (ids.next (d.world.remote.docs FirestoreCollection.booking).keys)
        (data.insert "id" (.string
          (ids.next (d.world.remote.docs FirestoreCollection.booking).keys))) :=
  createAndRead_remote

theorem serve_getUser_remote (z : Zone) (ids : AutoId) (env : Environment) (id : String) :
    (serve z ids env (.getUser id) d).2.world.remote = d.world.remote := by
  simp only [serve, answer_world, getUser_world, getDoc_remote]

theorem serve_updateUser_remote {data : Doc} {u : Managed User}
    (h : (serve z ids env (.updateUser id data) d).1 = .ok u) :
    ∃ D, d.world.remote.doc FirestoreCollection.user id = some D ∧
      (serve z ids env (.updateUser id data) d).2.world.remote =
        d.world.remote.putDoc FirestoreCollection.user id (data ∪ D)
          (.update FirestoreCollection.user id) := by
  rcases updateAndRead_cases z .user FirestoreCollection.user id data
    "Failed to retrieve updated user from local storage" d.world with ⟨-, hfail⟩ | hok
  · have herror : (serve z ids env (.updateUser id data) d).1 = .error .notFound :=
      answer_eq_error (congrArg Prod.fst hfail)
    rw [herror] at h
    cases h
  · exact hok

theorem serve_createBooking (z : Zone) (ids : AutoId) (env : Environment) (d : Device)
    (postingId userId : String) {inDate outDate : DateTime} (paymentAmount : ℚ)
    (hin : inDate.Storable) (hout : outDate.Storable) :
    ∃ b d', serve z ids env
        (.createBooking (bookingData postingId userId inDate outDate paymentAmount)) d =
          (.ok b, d') ∧
      d'.world.remote = d.world.remote.set FirestoreCollection.booking
        (ids.next (d.world.remote.docs FirestoreCollection.booking).keys)
        ((bookingData postingId userId inDate outDate paymentAmount).insert "id"
          (.string (ids.next (d.world.remote.docs FirestoreCollection.booking).keys))) ∧
      ∀ S k, S ≠ .booking → getEntity d'.world.realm S k = getEntity d.world.realm S k := by
  have hserve : BookingRepository.createBooking z ids
      (bookingData postingId userId inDate outDate paymentAmount) d.world = _ :=
    createAndRead_eq_ok (fromMap_bookingData hin hout) rfl
  have hanswer : answer (BookingRepository.createBooking z ids
      (bookingData postingId userId inDate outDate paymentAmount)) valid d = _ :=
    answer_eq_ok hserve
  refine ⟨_, _, hanswer, rfl, ?_⟩
  intro S k hS
  exact getEntity_createUnawaited_of_ne hS k

theorem serve_getUser_ok (ids : AutoId) (env : Environment) (h : CanGetUser z id d.world) :
    ∃ u d', serve z ids env (.getUser id) d = (.ok (valid u), d') ∧
      d'.world.remote = d.world.remote ∧ KeepsRows d d' ∧
      (getEntity d'.world.realm .user id).isSome := by
  obtain ⟨u, hu⟩ := h
  obtain ⟨D, x, -, -, hrow, hw⟩ := getUser_eq_ok hu
  refine ⟨u, _, answer_eq_ok (Prod.ext hu hw), rfl, ⟨?_, ?_⟩, ?_⟩
  · intro k hk
    exact isSome_getEntity_createUnawaited hk
  · intro k
    exact getEntity_createUnawaited_of_ne (by decide) k
  · exact Option.isSome_iff_exists.mpr ⟨u, hrow⟩

theorem serve_getUser_error (ids : AutoId) (env : Environment) (h : ¬ CanGetUser z id d.world) :
    ∃ e, (serve z ids env (.getUser id) d).1 = .error e := by
  cases hu : (getUser z id d.world).1 with
  | ok u => exact absurd ⟨u, hu⟩ h
  | error e => exact ⟨e, answer_eq_error hu⟩

theorem serve_updateUser_ok (z : Zone) (ids : AutoId) (env : Environment) {D : Doc} (earning : ℚ)
    (hD : d.world.remote.doc FirestoreCollection.user id = some D) (hne : id ≠ "") :
    ∃ u d', serve z ids env (.updateUser id (DartMap.ofList [("earning", .double earning)])) d =
        (.ok u, d') ∧
      d'.world.remote = d.world.remote.putDoc FirestoreCollection.user id
        (DartMap.ofList [("earning", .double earning)] ∪ D)
        (.update FirestoreCollection.user id) ∧ KeepsRows d d' := by
  obtain ⟨x, hx, hid⟩ := fromMap_earning z id earning
  have hserve : updateUser z id (DartMap.ofList [("earning", .double earning)]) d.world = _ :=
    updateAndRead_eq_ok hD hx hid hne
  refine ⟨_, _, answer_eq_ok hserve, rfl, ⟨?_, ?_⟩⟩
  · intro k hk
    exact isSome_getEntity_createUnawaited hk
  · intro k
    exact getEntity_createUnawaited_of_ne (by decide) k

theorem serve_updateUser_error (z : Zone) (ids : AutoId) (env : Environment) (data : Doc)
    (hD : d.world.remote.doc FirestoreCollection.user id = none) :
    (serve z ids env (.updateUser id data) d).1 = .error .notFound :=
  answer_eq_error (congrArg Prod.fst (updateAndRead_of_none hD))

theorem serve_getConversation_of_none (z : Zone) (ids : AutoId) (env : Environment)
    (hD : d.world.remote.doc FirestoreCollection.conversation id = none) :
    serve z ids env (.getConversation id) d =
      (.ok ((getEntity d.world.realm .conversation id).map valid), d) :=
  answer_eq_ok (getConversation_of_none hD)

theorem serve_getConversation_of_ok (ids : AutoId) (env : Environment) {D : Doc} {x : Conversation}
    (hD : d.world.remote.doc FirestoreCollection.conversation id = some D)
    (hx : fromDocumentSnapshot z .conversation id D = .ok x) :
    ∃ c d', serve z ids env (.getConversation id) d = (.ok c, d') ∧
      d'.world.remote = d.world.remote :=
  ⟨_, _, answer_eq_ok (getConversation_of_ok hD hx), rfl⟩

theorem serve_getConversation_of_error (ids : AutoId) (env : Environment) {D : Doc} {e : DartError}
    (hD : d.world.remote.doc FirestoreCollection.conversation id = some D)
    (hx : fromDocumentSnapshot z .conversation id D = .error e) :
    (serve z ids env (.getConversation id) d).1 = .error e :=
  answer_eq_error (congrArg Prod.fst (getConversation_of_error hD hx))

theorem serve_updateConversation_ok (z : Zone) (ids : AutoId) (env : Environment) {D : Doc}
    {now : DateTime} (text : String) (user : User) (hnow : now.Storable) (hne : id ≠ "")
    (hD : d.world.remote.doc FirestoreCollection.conversation id = some D) :
    ∃ c d', serve z ids env (.updateConversation id (lastMessagePayload now text user)) d =
        (.ok c, d') ∧
      d'.world.remote = d.world.remote.putDoc FirestoreCollection.conversation id
        (lastMessagePayload now text user ∪ D) (.update FirestoreCollection.conversation id) := by
  obtain ⟨x, hx, hid⟩ := fromMap_lastMessagePayload z id text user hnow
  have hserve : updateConversation z id (lastMessagePayload now text user) d.world = _ :=
    updateAndRead_eq_ok hD hx hid hne
  exact ⟨_, _, answer_eq_ok hserve, rfl⟩

theorem serve_updateConversation_error (z : Zone) (ids : AutoId) (env : Environment) (data : Doc)
    (hD : d.world.remote.doc FirestoreCollection.conversation id = none) :
    (serve z ids env (.updateConversation id data) d).1 = .error .notFound :=
  answer_eq_error (congrArg Prod.fst (updateAndRead_of_none hD))

theorem serve_createConversation_ok (z : Zone) (ids : AutoId) (env : Environment) (d : Device)
    {now now' : DateTime} (userId hostId text : String) (user : User) (hnow : now.Storable)
    (hnow' : now'.Storable) (hne : id ≠ "") :
    ∃ c d', serve z ids env (.createConversation (newConversationData userId hostId now'
        (lastMessagePayload now text user)) (some id)) d = (.ok c, d') ∧
      d'.world.remote = d.world.remote.set FirestoreCollection.conversation id
        (withId id (newConversationData userId hostId now'
          (lastMessagePayload now text user))) := by
  obtain ⟨x, hx, hid⟩ := fromMap_newConversationData z id userId hostId text user hnow hnow'
  have hnew : newDoc ids FirestoreCollection.conversation (some id) (newConversationData userId
      hostId now' (lastMessagePayload now text user)) d.world = (id, withId id
        (newConversationData userId hostId now' (lastMessagePayload now text user))) := by
    simp only [newDoc, if_neg hne]
  have hserve : createConversation z ids (newConversationData userId hostId now'
      (lastMessagePayload now text user)) (some id) d.world = _ :=
    createAndRead_eq_ok (by rw [hnew]; exact hx) (by rw [hnew]; exact hid)
  rw [hnew] at hserve
  exact ⟨_, _, answer_eq_ok hserve, rfl⟩

theorem serve_createMessage_ok (z : Zone) (ids : AutoId) (env : Environment) (d : Device)
    (conversationId userId text : String) {now : DateTime} (hnow : now.Storable) :
    ∃ m d' messageId data,
      serve z ids env (.createMessage (messageData conversationId userId text now)) d =
        (.ok m, d') ∧
      d'.world.remote = d.world.remote.set FirestoreCollection.message messageId data := by
  obtain ⟨x, hx, hid⟩ := fromMap_messageData z
    (ids.next (d.world.remote.docs FirestoreCollection.message).keys) conversationId userId text
    hnow
  have hserve : MessageRepository.createMessage z ids (messageData conversationId userId text now)
      d.world = _ := createAndRead_eq_ok hx hid
  exact ⟨_, _, _, _, answer_eq_ok hserve, rfl⟩

end Device

end AirBnbClone
