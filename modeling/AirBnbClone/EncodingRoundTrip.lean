import AirBnbClone.ConversationId
import AirBnbClone.FirestoreEncoder
import AirBnbClone.ViewPostingCubit

/-!
# Encoding and decoding undo each other

Each cast of the decoders undoes the encoding of the property it reads, so an entity whose dates are
whole milliseconds survives the way through its document. In the other direction the documents that
the app itself writes are those of the entities they decode to.
-/

namespace AirBnbClone

open FirestoreMapper FireStoreService

def WholeMillisecond (t : ℤ) : Prop :=
  1000 ∣ t ∧ |t| ≤ DateTime.maxMillisecondsSinceEpoch * 1000

def WholeMilliseconds (T : Model) (e : Entity T) : Prop :=
  ∀ t, Property.date? (some t) ∈ properties T e → WholeMillisecond t

section Casts

variable {z : Zone} {order : IterationOrder}

theorem idString_encode (s : String) : Cast.idString ((Encode.id s).getD .null) = .ok s := by
  unfold Encode.id
  split_ifs with h
  · rw [h]
    rfl
  · rfl

theorem string?_encode (s : Option String) :
    Cast.string? ((Encode.string? s).getD .null) = .ok s := by
  cases s <;> rfl

theorem bool?_encode (b : Option Bool) : Cast.bool? ((b.map Value.bool).getD .null) = .ok b := by
  cases b <;> rfl

theorem double?_encode (q : Option ℚ) :
    Cast.double? ((Encode.double? q).getD .null) = .ok q := by
  cases q <;> rfl

theorem num?_encode (q : Option ℚ) : Cast.num? ((Encode.double? q).getD .null) = .ok q := by
  cases q <;> rfl

theorem boolOrFalse_bool (b : Bool) : Cast.boolOrFalse (.bool b) = .ok b := rfl

theorem numOrZero_double (q : ℚ) : Cast.numOrZero (.double q) = .ok q := rfl

theorem link_null : Cast.link .null = .ok () := rfl

theorem millis_of_whole {t : ℤ} (h : WholeMillisecond t) :
    DateTime.fromMillisecondsSinceEpoch (DateTime.utc t).millisecondsSinceEpoch =
      some ⟨t, false⟩ := by
  obtain ⟨⟨ms, rfl⟩, hrange⟩ := h
  have hms : (DateTime.utc (1000 * ms)).millisecondsSinceEpoch = ms :=
    Int.mul_tdiv_cancel_left ms (by decide)
  rw [abs_mul, abs_of_pos (by decide : (0 : ℤ) < 1000), mul_comm] at hrange
  rw [hms, DateTime.fromMillisecondsSinceEpoch,
    if_pos (le_of_mul_le_mul_right hrange (by decide)), mul_comm]

theorem parseDateTime_encode {t : Option ℤ} (h : ∀ s, t = some s → WholeMillisecond s) :
    Cast.parseDateTime z ((Encode.millis? t).getD .null) = .ok t := by
  cases t with
  | none => rfl
  | some t => simp [Encode.millis?, Cast.parseDateTime, millis_of_whole (h t rfl)]

theorem strings_list (l : List String) : Cast.strings (.list (l.map .string)) = .ok l := by
  change (l.map Scalar.string).mapM Cast.stringItem = .ok l
  rw [ExceptTraverse.mapM_eq_ok_iff, List.map_map]
  rfl

theorem stringSet_members (a b : String) :
    Cast.stringSet (.list [.string a, .string b]) = .ok [a, b].toFinset := by
  rw [Cast.stringSet, show [Scalar.string a, .string b] = [a, b].map .string from rfl, strings_list]
  rfl

theorem strings_encode (l : List String) :
    Cast.strings ((Encode.strings l).getD .null) = .ok l := by
  unfold Encode.strings
  split_ifs with h
  · rw [h]
    rfl
  · exact strings_list l

theorem stringSet_encode (s : Finset String) :
    Cast.stringSet ((Encode.strings (order.ofSet s)).getD .null) = .ok s := by
  rw [Cast.stringSet, strings_encode]
  exact congrArg Except.ok (order.toFinset_ofSet s)

theorem intMap_encode (m : Finmap fun _ : String => ℤ) :
    Cast.intMap ((Encode.counts order m).getD .null) = .ok m := by
  unfold Encode.counts
  split_ifs with h
  · rw [h]
    rfl
  · have hitems : ((order.ofMap m).map (fun kn => (kn.1, Scalar.int kn.2))).mapM Cast.intItem =
        .ok (order.ofMap m) := by
      rw [ExceptTraverse.mapM_eq_ok_iff, List.map_map]
      rfl
    change Except.map List.toFinmap (List.mapM Cast.intItem _) = _
    rw [hitems]
    exact congrArg Except.ok (order.toFinmap_ofMap m)

end Casts

section Entities

variable {z : Zone} {T : Model} {d : Doc} {e : Entity T} {order : IterationOrder}

theorem fromMap_eq_ok_iff : fromMap z T d = .ok e ↔
    (fieldDecoders z T).map (fun f => f.decode (d.get f.key)) = (properties T e).map .ok := by
  rw [← ExceptTraverse.mapM_eq_ok_iff, ← fromMap_properties]
  exact (ExceptTraverse.map_injective (properties_injective T)).eq_iff.symm

theorem get_convert (k : String) :
    (convert order T e).get k = ((encodedFields order T e).lookup k).join.getD .null := by
  rw [Doc.get, lookup_convert]

theorem fromMap_convert (h : WholeMilliseconds T e) :
    fromMap z T (convert order T e) = .ok e := by
  have hdate : ∀ t, Property.date? t ∈ properties T e →
      Cast.parseDateTime z ((Encode.millis? t).getD .null) = .ok t := by
    intro t ht
    apply parseDateTime_encode
    rintro s rfl
    exact h s ht
  rw [fromMap_eq_ok_iff]
  simp only [get_convert]
  cases T <;> cases e <;>
    simp only [properties, List.mem_cons, reduceCtorEq, false_or, or_false, List.not_mem_nil,
      Property.date?.injEq, forall_eq_or_imp, forall_eq] at hdate <;>
    simp [fieldDecoders, field, encodedFields, properties, List.lookup_cons, Except.map, hdate,
      idString_encode, string?_encode, bool?_encode, boolOrFalse_bool, double?_encode, num?_encode,
      numOrZero_double, strings_encode, stringSet_encode, intMap_encode, link_null]

end Entities

/-- The documents that the app creates from data of its own. -/
inductive AppDocument
  | booking (postingId userId : String) (inDate outDate : DateTime) (paymentAmount : ℚ)
  | postingReview (userId postingId : String) (rating : ℚ) (comment : String) (now : DateTime)
  | hostReview (userId hostId : String) (rating : ℚ) (comment : String) (now : DateTime)
  | message (conversationId userId text : String) (now : DateTime)
  | conversation (userId hostId text : String) (user : User) (lastMessageAt createdAt : DateTime)

namespace AppDocument

open BookPostingCubit

def model : AppDocument → Model
  | booking .. => .booking
  | postingReview .. => .review
  | hostReview .. => .review
  | message .. => .message
  | conversation .. => .conversation

def collection : AppDocument → String
  | booking .. => FirestoreCollection.booking
  | postingReview .. => FirestoreCollection.review
  | hostReview .. => FirestoreCollection.review
  | message .. => FirestoreCollection.message
  | conversation .. => FirestoreCollection.conversation

def id : AppDocument → Option String
  | conversation userId hostId .. => some (conversationId userId hostId)
  | _ => none

def data : AppDocument → Doc
  | booking postingId userId inDate outDate paymentAmount =>
      bookingData postingId userId inDate outDate paymentAmount
  | postingReview userId postingId rating comment now =>
      reviewData userId "posting" postingId rating comment now
  | hostReview userId hostId rating comment now =>
      ViewProfileCubit.reviewData userId hostId rating comment now
  | message conversationId userId text now => messageData conversationId userId text now
  | conversation userId hostId text user lastMessageAt createdAt =>
      newConversationData userId hostId createdAt (lastMessagePayload lastMessageAt text user)

def dates : AppDocument → List DateTime
  | booking _ _ inDate outDate _ => [inDate, outDate]
  | postingReview _ _ _ _ now => [now]
  | hostReview _ _ _ _ now => [now]
  | message _ _ _ now => [now]
  | conversation _ _ _ _ lastMessageAt createdAt => [lastMessageAt, createdAt]

def stored (ids : AutoId) (a : AppDocument) (w : World) : Doc :=
  (newDoc ids a.collection a.id a.data w).2

end AppDocument

/-- The same fields, the members of a conversation compared as a set. -/
def SameUpToMembers (d d' : Doc) : Prop :=
  ∀ k, d.lookup k = d'.lookup k ∨ k = "members" ∧ ∃ l l' : List String,
    d.lookup k = some (.list (l.map .string)) ∧ d'.lookup k = some (.list (l'.map .string)) ∧
      l.toFinset = l'.toFinset

namespace AppDocument

open BookPostingCubit

section Fields

variable {ids : AutoId} {w : World} {order : IterationOrder} {z : Zone}

def fields : AppDocument → List (String × Value)
  | booking postingId userId inDate outDate paymentAmount =>
      [("posting_id", .string postingId), ("user_id", .string userId),
        ("check_in", .int inDate.millisecondsSinceEpoch),
        ("check_out", .int outDate.millisecondsSinceEpoch),
        ("payment_amount", .double paymentAmount)]
  | postingReview userId postingId rating comment now =>
      [("user_id", .string userId), ("target_type", .string "posting"),
        ("target_id", .string postingId), ("rating", .double rating), ("comment", .string comment),
        ("created_at", .int now.millisecondsSinceEpoch)]
  | hostReview userId hostId rating comment now =>
      [("user_id", .string userId), ("target_type", .string "user"), ("target_id", .string hostId),
        ("rating", .double rating), ("comment", .string comment),
        ("created_at", .int now.millisecondsSinceEpoch)]
  | message conversationId userId text now =>
      [("conversation_id", .string conversationId), ("sender_id", .string userId),
        ("text", .string text), ("created_at", .int now.millisecondsSinceEpoch)]
  | conversation userId hostId text user lastMessageAt createdAt =>
      [("last_message_at", .int lastMessageAt.millisecondsSinceEpoch),
        ("last_message", .string text), ("name", .string (user.fullName.getD "")),
        ("avatar", .string (user.imageUrl.getD "")),
        ("members", .list [.string userId, .string hostId]),
        ("created_at", .int createdAt.millisecondsSinceEpoch)]

def entity (i : String) : (a : AppDocument) → Entity a.model
  | booking postingId userId inDate outDate paymentAmount =>
      (⟨i, some postingId, some userId, some (inDate.millisecondsSinceEpoch * 1000),
        some (outDate.millisecondsSinceEpoch * 1000), some paymentAmount⟩ : Booking)
  | postingReview userId postingId rating comment now =>
      (⟨i, rating, some comment, some userId, some "posting", some postingId,
        some (now.millisecondsSinceEpoch * 1000)⟩ : Review)
  | hostReview userId hostId rating comment now =>
      (⟨i, rating, some comment, some userId, some "user", some hostId,
        some (now.millisecondsSinceEpoch * 1000)⟩ : Review)
  | message conversationId userId text now =>
      (⟨i, some userId, some conversationId, some text,
        some (now.millisecondsSinceEpoch * 1000)⟩ : Message)
  | conversation userId hostId text user lastMessageAt createdAt =>
      (⟨i, [userId, hostId].toFinset, some (user.imageUrl.getD ""), some (user.fullName.getD ""),
        some text, some (lastMessageAt.millisecondsSinceEpoch * 1000),
        some (createdAt.millisecondsSinceEpoch * 1000)⟩ : Conversation)

theorem keys_fields_nodup (a : AppDocument) : (a.fields.map Prod.fst).Nodup := by
  cases a <;> simp only [fields, List.map_cons, List.map_nil] <;> decide

theorem lookup_data (a : AppDocument) (k : String) : a.data.lookup k = a.fields.lookup k := by
  have hnodup := a.keys_fields_nodup
  cases a with
  | conversation userId hostId text user lastMessageAt createdAt =>
      have happend : fields (conversation userId hostId text user lastMessageAt createdAt) =
          [("last_message_at", .int lastMessageAt.millisecondsSinceEpoch),
            ("last_message", .string text), ("name", .string (user.fullName.getD "")),
            ("avatar", .string (user.imageUrl.getD ""))] ++
          [("members", .list [.string userId, .string hostId]),
            ("created_at", .int createdAt.millisecondsSinceEpoch)] := rfl
      rw [happend, List.map_append, List.nodup_append'] at hnodup
      rw [happend, List.lookup_append, ← lookup_ofList hnodup.1, ← lookup_ofList hnodup.2.1]
      exact FiniteMap.lookup_union_eq_or _ _ k
  | booking => exact lookup_ofList hnodup k
  | postingReview => exact lookup_ofList hnodup k
  | hostReview => exact lookup_ofList hnodup k
  | message => exact lookup_ofList hnodup k

theorem id_notMem_fields (a : AppDocument) : "id" ∉ a.fields.map Prod.fst := by
  cases a <;> simp only [fields, List.map_cons, List.map_nil] <;> decide

/-- `createDoc` adds the id and nothing else. -/
theorem lookup_stored (a : AppDocument) (k : String) : (a.stored ids w).lookup k =
    (("id", .string (newDoc ids a.collection a.id a.data w).1) :: a.fields).lookup k := by
  have hget : a.data.get "id" = .null := by
    rw [Doc.get, lookup_data, lookup_eq_none_of_notMem a.id_notMem_fields, Option.getD_none]
  have hstored : a.stored ids w =
      a.data.insert "id" (.string (newDoc ids a.collection a.id a.data w).1) := by
    unfold stored newDoc
    cases a with
    | conversation userId hostId text user lastMessageAt createdAt =>
        have hid := conversationId_ne_empty userId hostId
        simp only [id, if_neg hid, withId, hget]
        rfl
    | _ => rfl
  rw [hstored, FiniteMap.lookup_insert_eq_ite, lookup_data, List.lookup_cons]
  by_cases hk : k = "id"
  · rw [if_pos hk, beq_iff_eq.mpr hk]
  · rw [if_neg hk, beq_eq_false_iff_ne.mpr hk]

theorem fromMap_stored (a : AppDocument) (hdates : ∀ t ∈ a.dates, t.Storable) :
    fromMap z a.model (a.stored ids w) =
      .ok (a.entity (newDoc ids a.collection a.id a.data w).1) := by
  have hmillis : ∀ t ∈ a.dates, Cast.parseDateTime z (.int t.millisecondsSinceEpoch) =
      .ok (some (t.millisecondsSinceEpoch * 1000)) := by
    intro t ht
    have hrange : |t.millisecondsSinceEpoch| ≤ DateTime.maxMillisecondsSinceEpoch := hdates t ht
    simp only [Cast.parseDateTime, DateTime.fromMillisecondsSinceEpoch, if_pos hrange]
  rw [fromMap_eq_ok_iff]
  simp only [Doc.get, lookup_stored]
  cases a <;>
    simp only [dates, List.mem_cons, List.not_mem_nil, or_false, forall_eq_or_imp, forall_eq]
      at hmillis <;>
    simp [model, fieldDecoders, field, fields, entity, properties, List.lookup_cons, Except.map,
      hmillis, Cast.idString, Cast.string?, Cast.double?, Cast.link, numOrZero_double,
      stringSet_members]

theorem keys_entity (a : AppDocument) (i : String) :
    (encodedFields order a.model (a.entity i)).map Prod.fst ⊆ "id" :: a.fields.map Prod.fst := by
  cases a <;> simp only [model, entity, encodedFields, fields, List.map_cons, List.map_nil] <;>
    decide

theorem encode_millis (ms : ℤ) : Encode.millis? (some (ms * 1000)) = some (.int ms) := by
  have hms : (DateTime.utc (ms * 1000)).millisecondsSinceEpoch = ms :=
    Int.mul_tdiv_cancel ms (by decide)
  rw [Encode.millis?, Option.map_some, hms]

/-- The entity is encoded as the entries it was decoded from, its members in some order. -/
theorem encode_entity (a : AppDocument) {i : String} (hi : i ≠ "") :
    ∀ k ∈ "id" :: a.fields.map Prod.fst, k ≠ "members" →
      ((encodedFields order a.model (a.entity i)).lookup k).join =
        (("id", .string i) :: a.fields).lookup k := by
  cases a <;>
    simp [model, entity, encodedFields, fields, List.lookup_cons, encode_millis, Encode.id, hi,
      Encode.string?, Encode.double?]

theorem encode_members (order : IterationOrder) (a b : String) : ∃ l : List String,
    Encode.strings (order.ofSet [a, b].toFinset) = some (.list (l.map .string)) ∧
      l.toFinset = [a, b].toFinset := by
  have hset := order.toFinset_ofSet [a, b].toFinset
  refine ⟨order.ofSet [a, b].toFinset, ?_, hset⟩
  rw [Encode.strings, if_neg]
  intro hnil
  have hmem : a ∈ (order.ofSet [a, b].toFinset).toFinset := by
    rw [hset]
    exact List.mem_toFinset.mpr List.mem_cons_self
  rw [hnil] at hmem
  simp at hmem

theorem convert_entity (a : AppDocument) :
    SameUpToMembers (convert order a.model (a.entity (newDoc ids a.collection a.id a.data w).1))
      (a.stored ids w) := by
  intro k
  rw [lookup_convert, lookup_stored]
  by_cases hmembers : k = "members"
  · subst hmembers
    cases a with
    | conversation userId hostId text user lastMessageAt createdAt =>
        obtain ⟨l, hl, hset⟩ := encode_members order userId hostId
        exact .inr ⟨rfl, l, [userId, hostId], hl, rfl, hset⟩
    | _ => exact .inl rfl
  · left
    by_cases hk : k ∈ "id" :: a.fields.map Prod.fst
    · exact a.encode_entity newDoc_fst_ne_empty k hk hmembers
    · rw [lookup_eq_none_of_notMem (fun h => hk (a.keys_entity _ h)),
        lookup_eq_none_of_notMem (by simpa only [List.map_cons] using hk)]
      rfl

end Fields

end AppDocument

/-- Every entity on whole milliseconds is decoded from its own document, and every document that the
app writes is the document of the entity it decodes to. -/
theorem encoding_roundTrip (z : Zone) (order : IterationOrder) :
    (∀ (T : Model) (e : Entity T), WholeMilliseconds T e →
      fromMap z T (convert order T e) = .ok e) ∧
    ∀ (ids : AutoId) (w : World) (a : AppDocument), (∀ t ∈ a.dates, t.Storable) →
      ∃ e, fromMap z a.model (a.stored ids w) = .ok e ∧
        SameUpToMembers (convert order a.model e) (a.stored ids w) := by
  constructor
  · intro T e h
    exact fromMap_convert h
  · intro ids w a hdates
    exact ⟨_, a.fromMap_stored hdates, a.convert_entity⟩

/-- An empty conversation without an id, and a booking stored in the first minutes of 1970. -/
theorem encoding_roundTrip_firstBooking :
    fromMap Zone.utc .conversation (convert IterationOrder.sorted .conversation
      (⟨"", ∅, none, none, none, none, some 60000000⟩ : Conversation)) =
        .ok (⟨"", ∅, none, none, none, none, some 60000000⟩ : Conversation) ∧
    ∃ e, fromMap Zone.utc .booking
      ((AppDocument.booking "p1" "g1" (.utc 0) (.utc 60000000) 80).stored
        AutoId.longer ⟨Firestore.empty, Realm.empty⟩) = .ok e ∧
        SameUpToMembers (convert IterationOrder.sorted .booking e)
          ((AppDocument.booking "p1" "g1" (.utc 0) (.utc 60000000) 80).stored AutoId.longer
            ⟨Firestore.empty, Realm.empty⟩) := by
  obtain ⟨hentities, hdocuments⟩ := encoding_roundTrip Zone.utc IterationOrder.sorted
  refine ⟨hentities .conversation _ ?_, hdocuments AutoId.longer _ (.booking ..) (by decide)⟩
  intro t ht
  simp only [properties, List.mem_cons, reduceCtorEq, Property.date?.injEq, Option.some.injEq,
    List.not_mem_nil, false_or, or_false] at ht
  subst ht
  exact ⟨by decide, by decide⟩

end AirBnbClone
