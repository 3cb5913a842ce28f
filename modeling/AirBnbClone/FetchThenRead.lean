import AirBnbClone.QueryAgreement

/-!
# Methods that fetch and then read

`getFavouritePosting`, `getConversation` and `getBookingsForPosting` write what the server returns
into the local store and answer from there. A fetch never deletes, so a row whose document is gone,
or has changed so that the server no longer returns it, is part of the answer.
-/

namespace AirBnbClone

open FirestoreMapper FireStoreService RealmService RealmQueryBuilder

namespace FavouritePostingRepository

/-- `results.isEmpty ? null : results.first`. -/
def getFavouritePosting (z : Zone) (userId postingId : String) (w : World) :
    Except DartError (Option FavouritePosting) × World :=
  match getCollection z .favouritePosting (favouritePostingQuery userId postingId) w with
  | (.error e, w) => (.error e, w)
  | (.ok (), w) =>
      (.ok (getEntities w.realm .favouritePosting (localFavouritePosting userId postingId)).head?,
        w)

end FavouritePostingRepository

section Fetch

variable {z : Zone} {T : Model} {collection key : String} {fs : List TextEquality} {D : Doc}
  {w : World}

def TextEquality.Match (fs : List TextEquality) (D : Doc) : Prop :=
  ∀ f ∈ fs, D.get f.key = .string f.text

/-- The equality is read from a field that is not the id. -/
structure TextEquality.ReadsField (z : Zone) (T : Model) (f : TextEquality) : Prop where
  reads : f.Reads z T
  key_ne : f.key ≠ "id"

theorem order_string_eq_iff (v : Value) (s : String) :
    v.order (.string s) = .eq ↔ v = .string s := by
  cases v with
  | scalar a =>
      cases a with
      | string t =>
          change compareOfLessAndEq t s = .eq ↔ _
          rw [compareOfLessAndEq_eq_eq String.le_refl String.not_le]
          simp [Value.string]
      | _ => simp [Value.order, Scalar.order, Value.string, Scalar.typeOrder]
  | list vs => simp [Value.order, Value.string, Value.typeOrder, Scalar.typeOrder]
  | map kvs => simp [Value.order, Value.string, Value.typeOrder, Scalar.typeOrder]

theorem accepts_isEqualTo_iff (s : String) :
    Condition.accepts ⟨key, .isEqualTo, .string s⟩ D = true ↔ D.get key = .string s := by
  unfold Condition.accepts Doc.get
  cases D.lookup key with
  | none => simp
  | some v => simp [order_string_eq_iff]

theorem accepts_remoteEqualities_iff :
    (remoteEqualities collection fs).build.accepts D = true ↔ TextEquality.Match fs D := by
  have hbuild : (remoteEqualities collection fs).build.accepts D =
      fs.all (fun f => Condition.accepts ⟨f.key, .isEqualTo, .string f.text⟩ D) := by
    rw [remoteEqualities_eq]
    refine accepts_remote (?_ : _ = (remoteEqualities collection fs).equalQueries) rfl
      (List.forall_mem_nil _)
    rw [remoteEqualities_eq]
  rw [hbuild, List.all_eq_true]
  exact forall₂_congr fun f _ => accepts_isEqualTo_iff f.text

theorem accepts_localEqualities_iff (hfs : ∀ f ∈ fs, f.ReadsField z T) {k : String} {e : Entity T}
    (he : fromDocumentSnapshot z T k D = .ok e) :
    (localEqualities fs).accepts T e = true ↔ TextEquality.Match fs D := by
  have hreads : ∀ f ∈ fs, f.Reads z T := fun f hf => (hfs f hf).reads
  rw [accepts_local he hreads (represents_localEqualities hreads) queryValues_localEqualities,
    List.all_eq_true]
  refine forall₂_congr fun f hf => ?_
  rw [accepts_isEqualTo_iff, withSnapshotId_get_of_ne (hfs f hf).key_ne]

theorem limit?_localEqualities : (localEqualities fs).limit? = none := by
  induction fs using List.reverseRecOn with
  | nil => rfl
  | append_singleton fs f ih =>
      rw [localEqualities_append]
      exact ih

def Returned (w : World) (collection : String) (fs : List TextEquality) (k : String) (D : Doc) :
    Prop :=
  w.remote.doc collection k = some D ∧ TextEquality.Match fs D

theorem lookup_results_iff (k : String) (D : Doc) :
    ((remoteEqualities collection fs).build.results (w.remote.docs collection)).lookup k = some D ↔
      Returned w collection fs k D := by
  constructor
  · intro h
    obtain ⟨hD, haccepts⟩ := Query.mem_of_lookup_results h
    exact ⟨hD, accepts_remoteEqualities_iff.mp haccepts⟩
  · rintro ⟨hD, hmatch⟩
    refine AList.mem_lookup_iff.mpr (Query.mem_entries_results ?_ (AList.mem_lookup_iff.mp hD)
      (accepts_remoteEqualities_iff.mpr hmatch))
    rw [remoteEqualities_eq]
    rfl

theorem lookup_results_eq_none {k : String} (h : ¬ ∃ D, Returned w collection fs k D) :
    ((remoteEqualities collection fs).build.results (w.remote.docs collection)).lookup k =
      none := by
  by_contra hsome
  obtain ⟨D, hD⟩ := Option.ne_none_iff_exists'.mp hsome
  exact h ⟨D, (lookup_results_iff k D).mp hD⟩

/-- What is read after a fetch: the decoded documents that were returned, and the local rows that
were selected before and are not among them. -/
theorem mem_fetched_iff (hfs : ∀ f ∈ fs, f.ReadsField z T)
    (hread : Readable z T (w.remote.docs collection)) :
    ∃ r', getCollection z T (remoteEqualities collection fs) w =
        (.ok (), { w with realm := r' }) ∧
      ∀ e, e ∈ getEntities r' T (localEqualities fs) ↔
        (∃ k D, Returned w collection fs k D ∧ fromDocumentSnapshot z T k D = .ok e) ∨
        (e ∈ getEntities w.realm T (localEqualities fs) ∧
          ¬ ∃ D, Returned w collection fs (Entity.id T e) D) := by
  have hcollection : (remoteEqualities collection fs).collection = collection := by
    rw [remoteEqualities_eq]
  have hrepresents := represents_localEqualities (fun f hf => (hfs f hf).reads)
  have hreadable : Readable z T (w.remote.docs (remoteEqualities collection fs).collection) := by
    rwa [hcollection]
  obtain ⟨r', hfetch, hrows⟩ := getCollection_of_readable hreadable
  rw [hcollection] at hrows
  refine ⟨r', hfetch, fun e => ?_⟩
  obtain ⟨hreturned, hkept⟩ := hrows (Entity.id T e)
  rw [mem_getEntities_iff hrepresents limit?_localEqualities,
    mem_getEntities_iff hrepresents limit?_localEqualities]
  constructor
  · rintro ⟨hrow, haccepts⟩
    by_cases hD : ∃ D, Returned w collection fs (Entity.id T e) D
    · obtain ⟨D, hD⟩ := hD
      obtain ⟨x, hx, hstored⟩ := hreturned D ((lookup_results_iff _ D).mpr hD)
      obtain rfl : x = e := Option.some.inj (hstored.symm.trans hrow)
      exact .inl ⟨_, D, hD, hx⟩
    · refine .inr ⟨⟨?_, haccepts⟩, hD⟩
      exact (hkept (lookup_results_eq_none hD)).symm.trans hrow
  · rintro (⟨k, D, hD, hx⟩ | ⟨⟨hrow, haccepts⟩, hnot⟩)
    · have hid : Entity.id T e = k := id_of_fromDocumentSnapshot_ok (hread.own k D hD.1).2 hx
      obtain ⟨y, hy, hstored⟩ := hreturned D ((lookup_results_iff _ D).mpr (hid ▸ hD))
      rw [hid] at hy
      obtain rfl : y = e := Except.ok.inj (hy.symm.trans hx)
      exact ⟨hstored, (accepts_localEqualities_iff hfs hx).mpr hD.2⟩
    · exact ⟨(hkept (lookup_results_eq_none hnot)).trans hrow, haccepts⟩

end Fetch

section Answers

variable (z : Zone) (w : World)

def Favourite (w : World) (userId postingId k : String) (D : Doc) : Prop :=
  w.remote.doc FirestoreCollection.favouritePosting k = some D ∧
    D.get "user_id" = .string userId ∧ D.get "posting_id" = .string postingId

/-- `getFavouritePosting` returns null exactly if there is no remote favourite. -/
def AnswersFavourite (userId postingId : String) : Prop :=
  ∃ result w', FavouritePostingRepository.getFavouritePosting z userId postingId w =
    (.ok result, w') ∧ (result = none ↔ ¬ ∃ k D, Favourite w userId postingId k D)

/-- `getConversation` returns null exactly if there is no remote document. -/
def AnswersConversation (id : String) : Prop :=
  ∃ result w', ConversationRepository.getConversation z id w = (.ok result, w') ∧
    (result = none ↔ w.remote.doc FirestoreCollection.conversation id = none)

def BookingOf (w : World) (postingId : String) (userId : Option String) (k : String) (D : Doc) :
    Prop :=
  w.remote.doc FirestoreCollection.booking k = some D ∧
    D.get "posting_id" = .string postingId ∧ ∀ u ∈ userId, D.get "user_id" = .string u

/-- `getBookingsForPosting` returns the decoded remote bookings, each of them once. -/
def AnswersBookings (postingId : String) (userId : Option String) : Prop :=
  ∃ bookings w', BookingRepository.getBookingsForPosting z postingId userId w =
    (.ok bookings, w') ∧ bookings.Nodup ∧ ∀ b, b ∈ bookings ↔
      ∃ k D, BookingOf w postingId userId k D ∧ fromDocumentSnapshot z .booking k D = .ok b

variable {z w}

def favouriteEqualities (userId postingId : String) : List TextEquality :=
  [⟨"user_id", "userId", userId⟩, ⟨"posting_id", "postingId", postingId⟩]

def bookingEqualities (postingId : String) (userId : Option String) : List TextEquality :=
  ⟨"posting_id", "postingId", postingId⟩ ::
    userId.toList.map (fun userId => ⟨"user_id", "userId", userId⟩)

theorem readsField_favourite (userId postingId : String) :
    ∀ f ∈ favouriteEqualities userId postingId, f.ReadsField z .favouritePosting := by
  simp only [favouriteEqualities, List.forall_mem_cons]
  have huser : "user_id" ≠ "id" := by decide
  have hposting : "posting_id" ≠ "id" := by decide
  exact ⟨⟨⟨3, rfl, rfl⟩, huser⟩, ⟨⟨1, rfl, rfl⟩, hposting⟩, nofun⟩

theorem readsField_booking (postingId : String) (userId : Option String) :
    ∀ f ∈ bookingEqualities postingId userId, f.ReadsField z .booking := by
  rw [bookingEqualities, List.forall_mem_cons, List.forall_mem_map]
  have huser : "user_id" ≠ "id" := by decide
  have hposting : "posting_id" ≠ "id" := by decide
  exact ⟨⟨⟨1, rfl, rfl⟩, hposting⟩, fun _ _ => ⟨⟨3, rfl, rfl⟩, huser⟩⟩

theorem returned_favourite_iff {userId postingId k : String} {D : Doc} :
    Returned w FirestoreCollection.favouritePosting (favouriteEqualities userId postingId) k D ↔
      Favourite w userId postingId k D := by
  simp [Returned, TextEquality.Match, favouriteEqualities, Favourite]

theorem returned_booking_iff {postingId k : String} {userId : Option String} {D : Doc} :
    Returned w FirestoreCollection.booking (bookingEqualities postingId userId) k D ↔
      BookingOf w postingId userId k D := by
  simp [Returned, TextEquality.Match, bookingEqualities, BookingOf]

theorem accepts_localFavouritePosting (userId postingId : String) (e : FavouritePosting) :
    (FavouritePostingRepository.localFavouritePosting userId postingId).accepts
        .favouritePosting e = true ↔ e.userId = some userId ∧ e.postingId = some postingId := by
  have huser := represents_new.equal (by decide : Rql.Plain "userId".toList) (.string userId)
  have hboth := huser.equal (by decide : Rql.Plain "postingId".toList) (.string postingId)
  have hx := holds_equal_text e.userId userId
  have hy := holds_equal_text e.postingId postingId
  rw [FavouritePostingRepository.localFavouritePosting, hboth.accepts_eq, List.all_eq_true,
    ← decide_eq_true_iff (p := e.userId = _), ← hx, ← decide_eq_true_iff (p := e.postingId = _),
    ← hy]
  exact List.forall_mem_cons.trans (and_congr_right fun _ => List.forall_mem_singleton)

theorem answersFavourite_iff (userId postingId : String)
    (hread : Readable z .favouritePosting (w.remote.docs FirestoreCollection.favouritePosting)) :
    AnswersFavourite z w userId postingId ↔ (∃ k D, Favourite w userId postingId k D) ∨
      ¬ ∃ k, ∃ e : FavouritePosting, getEntity w.realm .favouritePosting k = some e ∧
        e.userId = some userId ∧ e.postingId = some postingId := by
  obtain ⟨r', hfetch, hrows⟩ := mem_fetched_iff (w := w) (readsField_favourite userId postingId)
    hread
  change getCollection z .favouritePosting
    (FavouritePostingRepository.favouritePostingQuery userId postingId) w = _ at hfetch
  set rows := getEntities r' .favouritePosting
    (FavouritePostingRepository.localFavouritePosting userId postingId) with hread_rows
  have hcall : FavouritePostingRepository.getFavouritePosting z userId postingId w =
      (.ok rows.head?, { w with realm := r' }) := by
    simp only [FavouritePostingRepository.getFavouritePosting, hfetch, ← hread_rows]
  have hlocal (e : FavouritePosting) : e ∈ getEntities w.realm .favouritePosting
      (localEqualities (favouriteEqualities userId postingId)) ↔
        getEntity w.realm .favouritePosting e.id = some e ∧
          e.userId = some userId ∧ e.postingId = some postingId := by
    rw [← accepts_localFavouritePosting]
    exact mem_getEntities_iff (represents_localEqualities
      (fun f hf => (readsField_favourite (z := z) userId postingId f hf).reads))
      limit?_localEqualities w.realm .favouritePosting e
  constructor
  · rintro ⟨result, w', hcall', hnull⟩
    rw [hcall] at hcall'
    cases hcall'
    by_cases hremote : ∃ k D, Favourite w userId postingId k D
    · exact .inl hremote
    · refine .inr ?_
      rintro ⟨k, e, hrow, hfields⟩
      have hid : e.id = k := id_of_getEntity hrow
      have hmem : e ∈ rows := (hrows e).mpr (.inr ⟨(hlocal e).mpr ⟨hid.symm ▸ hrow, hfields⟩,
        fun ⟨D, hD⟩ => hremote ⟨_, D, returned_favourite_iff.mp hD⟩⟩)
      rw [List.head?_eq_none_iff.mp (hnull.mpr hremote)] at hmem
      exact absurd hmem List.not_mem_nil
  · intro h
    refine ⟨_, _, hcall, List.head?_eq_none_iff.trans ⟨?_, ?_⟩⟩
    · rintro hempty ⟨k, D, hD⟩
      obtain ⟨e, he⟩ := hread.decodes k D hD.1
      have hmem : e ∈ rows := (hrows e).mpr (.inl ⟨k, D, returned_favourite_iff.mpr hD, he⟩)
      rw [hempty] at hmem
      exact absurd hmem List.not_mem_nil
    · intro hremote
      rw [List.eq_nil_iff_forall_not_mem]
      intro e he
      obtain ⟨k, D, hD, -⟩ | ⟨hmem, -⟩ := (hrows e).mp he
      · exact hremote ⟨k, D, returned_favourite_iff.mp hD⟩
      · exact h.resolve_left hremote ⟨e.id, e, (hlocal e).mp hmem⟩

theorem answersConversation_iff (id : String)
    (hread : Readable z .conversation (w.remote.docs FirestoreCollection.conversation)) :
    AnswersConversation z w id ↔ w.remote.doc FirestoreCollection.conversation id ≠ none ∨
      getEntity w.realm .conversation id = none := by
  unfold AnswersConversation ConversationRepository.getConversation getDoc
  cases hD : w.remote.doc FirestoreCollection.conversation id with
  | none => simp
  | some D =>
      obtain ⟨e, he⟩ := hread.decodes id D hD
      obtain ⟨hne, hown⟩ := hread.own id D hD
      have hid : Entity.id .conversation e = id := id_of_fromDocumentSnapshot_ok hown he
      have hrow : getEntity (createUnawaited w.realm .conversation e) .conversation id =
          some e := by
        rw [getEntity_createUnawaited, hid, if_pos ⟨hne, rfl⟩]
      simp [he, hrow]

theorem answersBookings_iff (postingId : String) (userId : Option String)
    (hread : Readable z .booking (w.remote.docs FirestoreCollection.booking)) :
    AnswersBookings z w postingId userId ↔
      ∀ b ∈ BookingRepository.bookingsForPosting postingId userId w.realm,
        ∃ D, BookingOf w postingId userId b.id D := by
  obtain ⟨r', hfetch, hrows⟩ := mem_fetched_iff (w := w) (readsField_booking postingId userId) hread
  have hquery : remoteEqualities FirestoreCollection.booking (bookingEqualities postingId userId) =
      BookingRepository.bookingsForPostingQuery postingId userId := by
    cases userId <;> rfl
  have hlocal (r : Realm) : getEntities r .booking
      (localEqualities (bookingEqualities postingId userId)) =
        BookingRepository.bookingsForPosting postingId userId r := by
    rw [bookingsForPosting_eq_getEntities]
    cases userId <;> rfl
  have hnodup : (BookingRepository.bookingsForPosting postingId userId r').Nodup := by
    rw [← hlocal]
    exact nodup_getEntities (represents_localEqualities
      (fun f hf => (readsField_booking (z := z) postingId userId f hf).reads))
      limit?_localEqualities r' .booking
  rw [hquery] at hfetch
  simp only [hlocal, returned_booking_iff] at hrows
  have hcall : BookingRepository.getBookingsForPosting z postingId userId w =
      (.ok (BookingRepository.bookingsForPosting postingId userId r'),
        { w with realm := r' }) := by
    simp only [BookingRepository.getBookingsForPosting, hfetch]
  unfold AnswersBookings
  constructor
  · rintro ⟨bookings, w', hcall', -, hexact⟩ b hb
    rw [hcall] at hcall'
    cases hcall'
    by_contra hnot
    obtain ⟨k, D, hD, he⟩ := (hexact b).mp ((hrows b).mpr (.inr ⟨hb, hnot⟩))
    have hid : b.id = k := id_of_fromDocumentSnapshot_ok (hread.own k D hD.1).2 he
    exact hnot ⟨D, hid ▸ hD⟩
  · intro hall
    refine ⟨_, _, hcall, hnodup, fun b => ?_⟩
    rw [hrows b]
    exact or_iff_left (fun h => h.2 (hall b h.1))

end Answers

/-- The answers are the server's exactly if the selected local rows have their documents there: a
favourite or a conversation that is only local is returned in place of null, and so is a booking
that the server no longer returns. -/
theorem answers_iff (z : Zone) (w : World)
    (hfavourites : Readable z .favouritePosting
      (w.remote.docs FirestoreCollection.favouritePosting))
    (hconversations : Readable z .conversation (w.remote.docs FirestoreCollection.conversation))
    (hbookings : Readable z .booking (w.remote.docs FirestoreCollection.booking)) :
    (∀ userId postingId, AnswersFavourite z w userId postingId ↔
      (∃ k D, Favourite w userId postingId k D) ∨
        ¬ ∃ k, ∃ e : FavouritePosting, getEntity w.realm .favouritePosting k = some e ∧
          e.userId = some userId ∧ e.postingId = some postingId) ∧
    (∀ id, AnswersConversation z w id ↔
      w.remote.doc FirestoreCollection.conversation id ≠ none ∨
        getEntity w.realm .conversation id = none) ∧
    ∀ postingId userId, AnswersBookings z w postingId userId ↔
      ∀ b ∈ BookingRepository.bookingsForPosting postingId userId w.realm,
        ∃ D, BookingOf w postingId userId b.id D :=
  ⟨fun userId postingId => answersFavourite_iff userId postingId hfavourites,
    fun id => answersConversation_iff id hconversations,
    fun postingId userId => answersBookings_iff postingId userId hbookings⟩

def newFavourite : World where
  remote := Firestore.empty.set FirestoreCollection.favouritePosting "f1"
    (DartMap.ofList [("id", .string "f1"), ("user_id", .string "u1"),
      ("posting_id", .string "p1")])
  realm := Realm.empty

theorem readable_newFavourite : Readable Zone.utc .favouritePosting
    (newFavourite.remote.docs FirestoreCollection.favouritePosting) :=
  (readable_empty _ _).insert ⟨by decide, .inr rfl⟩ ⟨⟨"f1", some "p1", some "u1", none⟩, rfl⟩

theorem answers_iff_newFavourite :
    AnswersFavourite Zone.utc newFavourite "u1" "p1" ∧
      AnswersConversation Zone.utc newFavourite "c1" ∧
      AnswersBookings Zone.utc newFavourite "p1" none := by
  obtain ⟨hfavourite, hconversation, hbookings⟩ := answers_iff Zone.utc newFavourite
    readable_newFavourite (readable_empty _ _) (readable_empty _ _)
  exact ⟨(hfavourite _ _).mpr (.inl ⟨"f1", _, rfl, rfl, rfl⟩), (hconversation _).mpr (.inr rfl),
    (hbookings _ _).mpr nofun⟩

def deletedElsewhere : World where
  remote := Firestore.empty
  realm :=
    let r := createUnawaited Realm.empty .favouritePosting
      (⟨"f1", some "p1", some "u1", none⟩ : FavouritePosting)
    let r := createUnawaited r .conversation
      (⟨"c1", ∅, none, none, none, none, none⟩ : Conversation)
    createUnawaited r .booking (⟨"b1", some "p1", some "u1", none, none, none⟩ : Booking)

/-- All three are answered. -/
theorem deletedElsewhere_is_answered :
    ¬ AnswersFavourite Zone.utc deletedElsewhere "u1" "p1" ∧
      ¬ AnswersConversation Zone.utc deletedElsewhere "c1" ∧
      ¬ AnswersBookings Zone.utc deletedElsewhere "p1" (some "u1") := by
  refine ⟨fun h => ?_, fun h => ?_, fun h => ?_⟩
  · obtain ⟨k, D, hD, -⟩ | hnone :=
      (answersFavourite_iff "u1" "p1" (readable_empty _ _)).mp h
    · cases hD
    · exact hnone ⟨"f1", ⟨"f1", some "p1", some "u1", none⟩, rfl, rfl, rfl⟩
  · obtain hremote | hlocal := (answersConversation_iff "c1" (readable_empty _ _)).mp h
    · exact hremote rfl
    · cases hlocal
  · obtain ⟨D, hD, -⟩ := (answersBookings_iff "p1" (some "u1") (readable_empty _ _)).mp h
      ⟨"b1", some "p1", some "u1", none, none, none⟩ (by decide)
    cases hD

end AirBnbClone
