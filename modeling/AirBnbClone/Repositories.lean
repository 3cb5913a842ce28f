import AirBnbClone.RepositoryQueries

/-!
# The repositories' calls

A create or update method performs the remote operation through `FireStoreService` and reads its
row back from the local store. Each call is one step of a device: it takes the device's world and
returns the reply with the world it leaves.
-/

namespace AirBnbClone

open FireStoreService RealmService

/-- `getEntity`, with an exception in place of `null`. -/
def readBack (T : Model) (id failure : String) (w : World) : Except DartError (Entity T) × World :=
  match getEntity w.realm T id with
  | some e => (.ok e, w)
  | none => (.error (.exception failure), w)

def createAndRead (z : Zone) (ids : AutoId) (T : Model) (collection : String) (id : Option String)
    (data : Doc) (failure : String) (w : World) : Except DartError (Entity T) × World :=
  match createDoc z ids T collection id data w with
  | (.error e, w) => (.error e, w)
  | (.ok id, w) => readBack T id failure w

def updateAndRead (z : Zone) (T : Model) (collection id : String) (data : Doc) (failure : String)
    (w : World) : Except DartError (Entity T) × World :=
  match updateDoc z T collection id data w with
  | (.error e, w) => (.error e, w)
  | (.ok (), w) => readBack T id failure w

namespace UserRepository

def getUser (z : Zone) (id : String) (w : World) : Except DartError User × World :=
  match getDoc z .user FirestoreCollection.user id w with
  | (.error e, w) => (.error e, w)
  | (.ok none, w) => (.error (.exception "User not found"), w)
  | (.ok (some _), w) => readBack .user id "Failed to retrieve user from local storage" w

def updateUser (z : Zone) (id : String) (data : Doc) (w : World) : Except DartError User × World :=
  updateAndRead z .user FirestoreCollection.user id data
    "Failed to retrieve updated user from local storage" w

end UserRepository

namespace BookingRepository

def createBooking (z : Zone) (ids : AutoId) (data : Doc) (w : World) :
    Except DartError Booking × World :=
  createAndRead z ids .booking FirestoreCollection.booking none data
    "Failed to create booking in local storage" w

def bookingsForPostingQuery (postingId : String) (userId : Option String) : FirestoreQueryBuilder :=
  let query := (FirestoreQueryBuilder.new FirestoreCollection.booking).equalTo "posting_id"
    (.string postingId)
  match userId with
  | some userId => query.equalTo "user_id" (.string userId)
  | none => query

/-- The rows the local query selects: `postingId == $0`, and `userId == $1` if a user is given. -/
def bookingsForPosting (postingId : String) (userId : Option String) (r : Realm) : List Booking :=
  ((r.all .booking).map Row.entity).filter (fun b : Booking =>
    b.postingId = some postingId ∧ ∀ u ∈ userId, b.userId = some u)

def getBookingsForPosting (z : Zone) (postingId : String) (userId : Option String) (w : World) :
    Except DartError (List Booking) × World :=
  match getCollection z .booking (bookingsForPostingQuery postingId userId) w with
  | (.error e, w) => (.error e, w)
  | (.ok (), w) => (.ok (bookingsForPosting postingId userId w.realm), w)

end BookingRepository

namespace ConversationRepository

def createConversation (z : Zone) (ids : AutoId) (data : Doc) (id : Option String) (w : World) :
    Except DartError Conversation × World :=
  createAndRead z ids .conversation FirestoreCollection.conversation id data
    "Failed to create conversation in local storage" w

def getConversation (z : Zone) (id : String) (w : World) :
    Except DartError (Option Conversation) × World :=
  match getDoc z .conversation FirestoreCollection.conversation id w with
  | (.error e, w) => (.error e, w)
  | (.ok _, w) => (.ok (getEntity w.realm .conversation id), w)

def updateConversation (z : Zone) (id : String) (data : Doc) (w : World) :
    Except DartError Conversation × World :=
  updateAndRead z .conversation FirestoreCollection.conversation id data
    "Failed to retrieve updated conversation from local storage" w

end ConversationRepository

namespace MessageRepository

def createMessage (z : Zone) (ids : AutoId) (data : Doc) (w : World) :
    Except DartError Message × World :=
  createAndRead z ids .message FirestoreCollection.message none data
    "Failed to create message in local storage" w

end MessageRepository

section Specs

open FirestoreMapper

variable {z : Zone} {ids : AutoId} {S T : Model} {collection id failure : String} {data D : Doc}
  {i : Option String} {w w' : World}

theorem newDoc_fst_ne_empty : (newDoc ids collection i data w).1 ≠ "" := by
  unfold newDoc
  cases i with
  | none => exact ids.nonempty _
  | some i =>
      dsimp only
      split_ifs with h
      · exact ids.nonempty _
      · exact h

@[simp] theorem readBack_world (k : String) : (readBack T k failure w).2 = w := by
  unfold readBack
  split <;> rfl

theorem createAndRead_of_error {e : DartError}
    (h : fromMap z T (newDoc ids collection i data w).2 = .error e) :
    createAndRead z ids T collection i data failure w = (.error e, { w with
      remote := w.remote.set collection (newDoc ids collection i data w).1
        (newDoc ids collection i data w).2 }) := by
  simp only [createAndRead, createDoc, mirror, h]

theorem createAndRead_of_ok {x : Entity T}
    (h : fromMap z T (newDoc ids collection i data w).2 = .ok x) :
    createAndRead z ids T collection i data failure w =
      readBack T (newDoc ids collection i data w).1 failure
        ⟨w.remote.set collection (newDoc ids collection i data w).1
          (newDoc ids collection i data w).2, createUnawaited w.realm T x⟩ := by
  simp only [createAndRead, createDoc, mirror, h]

/-- The document is stored remotely whatever becomes of its mirror. -/
theorem createAndRead_remote : (createAndRead z ids T collection i data failure w).2.remote =
    w.remote.set collection (newDoc ids collection i data w).1
      (newDoc ids collection i data w).2 := by
  cases h : fromMap z T (newDoc ids collection i data w).2 with
  | error e => rw [createAndRead_of_error h]
  | ok x => rw [createAndRead_of_ok h, readBack_world]

/-- A document that decodes under its own id is read back. -/
theorem createAndRead_eq_ok {x : Entity T}
    (h : fromMap z T (newDoc ids collection i data w).2 = .ok x)
    (hid : Entity.id T x = (newDoc ids collection i data w).1) :
    createAndRead z ids T collection i data failure w = (.ok x,
      ⟨w.remote.set collection (newDoc ids collection i data w).1
        (newDoc ids collection i data w).2, createUnawaited w.realm T x⟩) := by
  rw [createAndRead_of_ok h, readBack]
  dsimp only
  rw [getEntity_createUnawaited_self (hid ▸ newDoc_fst_ne_empty), if_pos hid.symm]

/-- Data that decodes under whatever id it is given is read back under the one it gets. -/
theorem createAndRead_new {x : String → Entity T} (hid : ∀ k, Entity.id T (x k) = k)
    (h : ∀ k, k ≠ "" → fromMap z T (data.insert "id" (.string k)) = .ok (x k)) :
    ∃ k w', createAndRead z ids T collection none data failure w = (.ok (x k), w') :=
  ⟨_, _, createAndRead_eq_ok (h _ (ids.nonempty _)) (hid _)⟩

theorem updateAndRead_of_none (h : w.remote.doc collection id = none) :
    updateAndRead z T collection id data failure w = (.error .notFound, w) := by
  simp only [updateAndRead, updateDoc, Firestore.update, h]

theorem updateAndRead_of_error {e : DartError} (h : w.remote.doc collection id = some D)
    (hx : fromMap z T (withId id data) = .error e) :
    updateAndRead z T collection id data failure w = (.error e,
      { w with remote := w.remote.putDoc collection id (data ∪ D) (.update collection id) }) := by
  simp only [updateAndRead, updateDoc, Firestore.update, h, mirror, hx]

theorem updateAndRead_of_ok {x : Entity T} (h : w.remote.doc collection id = some D)
    (hx : fromMap z T (withId id data) = .ok x) :
    updateAndRead z T collection id data failure w = readBack T id failure
      ⟨w.remote.putDoc collection id (data ∪ D) (.update collection id),
        createUnawaited w.realm T x⟩ := by
  simp only [updateAndRead, updateDoc, Firestore.update, h, mirror, hx]

/-- An update either finds no document and does nothing, or merges the data into it. -/
theorem updateAndRead_cases (z : Zone) (T : Model) (collection id : String) (data : Doc)
    (failure : String) (w : World) : (w.remote.doc collection id = none ∧
      updateAndRead z T collection id data failure w = (.error .notFound, w)) ∨
    ∃ D, w.remote.doc collection id = some D ∧
      (updateAndRead z T collection id data failure w).2.remote =
        w.remote.putDoc collection id (data ∪ D) (.update collection id) := by
  cases h : w.remote.doc collection id with
  | none => exact .inl ⟨rfl, updateAndRead_of_none h⟩
  | some D =>
      refine .inr ⟨D, rfl, ?_⟩
      cases hx : fromMap z T (withId id data) with
      | error e => rw [updateAndRead_of_error h hx]
      | ok x => rw [updateAndRead_of_ok h hx, readBack_world]

theorem updateAndRead_eq_ok {x : Entity T} (h : w.remote.doc collection id = some D)
    (hx : fromMap z T (withId id data) = .ok x) (hid : Entity.id T x = id) (hne : id ≠ "") :
    updateAndRead z T collection id data failure w = (.ok x,
      ⟨w.remote.putDoc collection id (data ∪ D) (.update collection id),
        createUnawaited w.realm T x⟩) := by
  rw [updateAndRead_of_ok h hx, readBack]
  dsimp only
  rw [getEntity_createUnawaited_self (hid ▸ hne), if_pos hid.symm]

theorem getDoc_remote : (getDoc z T collection id w).2.remote = w.remote := by
  unfold getDoc
  split
  · rfl
  · split <;> rfl

theorem getUser_world :
    (UserRepository.getUser z id w).2 = (getDoc z .user FirestoreCollection.user id w).2 := by
  unfold UserRepository.getUser
  rcases getDoc z .user FirestoreCollection.user id w with ⟨_ | _ | _, w'⟩
  · rfl
  · rfl
  · exact readBack_world id

theorem getConversation_world : (ConversationRepository.getConversation z id w).2 =
    (getDoc z .conversation FirestoreCollection.conversation id w).2 := by
  unfold ConversationRepository.getConversation
  rcases getDoc z .conversation FirestoreCollection.conversation id w with ⟨_ | _, w'⟩ <;> rfl

theorem getBookingsForPosting_world (userId : Option String) :
    (BookingRepository.getBookingsForPosting z id userId w).2 =
      (getCollection z .booking (BookingRepository.bookingsForPostingQuery id userId) w).2 := by
  unfold BookingRepository.getBookingsForPosting
  rcases getCollection z .booking (BookingRepository.bookingsForPostingQuery id userId) w with
    ⟨_ | _, w'⟩ <;> rfl

end Specs

end AirBnbClone
