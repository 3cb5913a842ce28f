import Mathlib.Data.Finset.Sort
import Mathlib.Data.String.Basic
import AirBnbClone.FirestoreMapper

/-!
# Encoding entities as Firestore documents

The `toFirestore` extensions of the seven models. Each of them leaves out what is null or empty
under a rule of its own, and `encodedFields` lists what becomes of each property; the document is
read through that list. The order in which a set or a map is iterated is a parameter.
-/

namespace AirBnbClone

/-- The order in which `toList` lists a set and a map literal copies a map. -/
structure IterationOrder where
  ofSet : Finset String → List String
  ofMap : (Finmap fun _ : String => ℤ) → List (Sigma fun _ : String => ℤ)
  toFinset_ofSet : ∀ s, (ofSet s).toFinset = s
  toFinmap_ofMap : ∀ m, (ofMap m).toFinmap = m

theorem dlookup_map_keys (f : String → ℤ) (l : List String) (k : String) :
    List.dlookup k (l.map (fun k => (⟨k, f k⟩ : Sigma fun _ : String => ℤ))) =
      if k ∈ l then some (f k) else none := by
  induction l with
  | nil => rfl
  | cons k' l ih =>
      by_cases hk : k = k'
      · subst hk
        rw [List.map_cons, List.dlookup_cons_eq, if_pos List.mem_cons_self]
      · rw [List.map_cons, List.dlookup_cons_ne _ _ hk, ih]
        simp only [List.mem_cons, hk, false_or]

def IterationOrder.sorted : IterationOrder where
  ofSet s := s.sort
  ofMap m := m.keys.sort.map (fun k => ⟨k, (m.lookup k).getD 0⟩)
  toFinset_ofSet s := Finset.sort_toFinset s (· ≤ ·)
  toFinmap_ofMap m := by
    apply Finmap.ext_lookup
    intro k
    rw [Finmap.dlookup_list_toFinmap, dlookup_map_keys]
    split_ifs with hk
    · rw [Finset.mem_sort, Finmap.mem_keys, Finmap.mem_iff] at hk
      obtain ⟨n, hn⟩ := hk
      rw [hn, Option.getD_some]
    · rw [Finset.mem_sort, Finmap.mem_keys] at hk
      exact (Finmap.lookup_eq_none.mpr hk).symm

/-- `if (value != null) key: value`. -/
def given (key : String) (value : Option Value) : List (String × Value) :=
  (value.map (fun v => (key, v))).toList

namespace Encode

/-- `if (id.isNotEmpty) 'id': id`. -/
def id (s : String) : Option Value := if s = "" then none else some (.string s)

def string? (s : Option String) : Option Value := s.map .string

def double? (q : Option ℚ) : Option Value := q.map .double

/-- A date property is an instant with UTC fields. -/
def millis? (t : Option ℤ) : Option Value :=
  t.map (fun t => .int (DateTime.utc t).millisecondsSinceEpoch)

/-- `if (items.isNotEmpty) key: items`. -/
def strings (l : List String) : Option Value :=
  if l = [] then none else some (.list (l.map .string))

def counts (order : IterationOrder) (m : Finmap fun _ : String => ℤ) : Option Value :=
  if m = ∅ then none else some (.map ((order.ofMap m).map (fun kn => (kn.1, .int kn.2))))

end Encode

namespace UserFirestoreExtension

def optional (key : String) (value : Option String) : List (String × Value) :=
  (value.map (fun s => (key, Value.string s))).toList

def toFirestore (u : User) : Doc :=
  DartMap.ofList ((if u.id = "" then [] else [("id", .string u.id)]) ++
    optional "email" u.email ++ optional "bio" u.bio ++ optional "city" u.city ++
    optional "country" u.country ++ optional "first_name" u.firstName ++
    optional "last_name" u.lastName ++ optional "full_name" u.fullName ++
    optional "image_url" u.imageUrl ++
    (u.earning.map (fun q => ("earning", Value.double q))).toList ++
    [("is_host", (u.isHost.map Value.bool).getD .null),
      ("is_currently_hosting", .bool u.isCurrentlyHosting)])

end UserFirestoreExtension

namespace PostingFirestoreExtension

def toFirestore (order : IterationOrder) (p : Posting) : Doc :=
  DartMap.ofList (given "id" (Encode.id p.id) ++ given "name" (Encode.string? p.name) ++
    given "type" (Encode.string? p.type) ++ given "price" (Encode.double? p.price) ++
    given "description" (Encode.string? p.description) ++
    given "address" (Encode.string? p.address) ++ given "city" (Encode.string? p.city) ++
    given "country" (Encode.string? p.country) ++ given "rating" (Encode.double? p.rating) ++
    given "host_id" (Encode.string? p.hostId) ++ given "images" (Encode.strings p.images) ++
    given "amenities" (Encode.strings p.amenities) ++ given "beds" (Encode.counts order p.beds) ++
    given "bathrooms" (Encode.counts order p.bathrooms) ++
    [("lat", .double p.lat), ("lon", .double p.lon)])

end PostingFirestoreExtension

namespace BookingFirestoreExtension

def toFirestore (b : Booking) : Doc :=
  DartMap.ofList (given "id" (Encode.id b.id) ++ given "posting_id" (Encode.string? b.postingId) ++
    given "user_id" (Encode.string? b.userId) ++ given "check_in" (Encode.millis? b.checkIn) ++
    given "check_out" (Encode.millis? b.checkOut) ++
    given "payment_amount" (Encode.double? b.paymentAmount))

end BookingFirestoreExtension

namespace MessageFirestoreExtension

def toFirestore (m : Message) : Doc :=
  DartMap.ofList (given "id" (Encode.id m.id) ++ given "sender_id" (Encode.string? m.senderId) ++
    given "conversation_id" (Encode.string? m.conversationId) ++
    given "text" (Encode.string? m.text) ++ given "created_at" (Encode.millis? m.createdAt))

end MessageFirestoreExtension

namespace ConversationFirestoreExtension

def toFirestore (order : IterationOrder) (c : Conversation) : Doc :=
  DartMap.ofList (given "id" (Encode.id c.id) ++
    given "members" (Encode.strings (order.ofSet c.members)) ++
    given "avatar" (Encode.string? c.avatar) ++ given "name" (Encode.string? c.name) ++
    given "last_message" (Encode.string? c.lastMessage) ++
    given "last_message_at" (Encode.millis? c.lastMessageAt) ++
    given "created_at" (Encode.millis? c.createdAt))

end ConversationFirestoreExtension

namespace FavouritePostingFirestoreExtension

def toFirestore (f : FavouritePosting) : Doc :=
  DartMap.ofList (given "id" (Encode.id f.id) ++ given "posting_id" (Encode.string? f.postingId) ++
    given "user_id" (Encode.string? f.userId) ++ given "created_at" (Encode.millis? f.createdAt))

end FavouritePostingFirestoreExtension

namespace ReviewFirestoreExtension

def toFirestore (r : Review) : Doc :=
  DartMap.ofList (given "id" (Encode.id r.id) ++ [("rating", .double r.rating)] ++
    given "comment" (Encode.string? r.comment) ++ given "user_id" (Encode.string? r.userId) ++
    given "target_type" (Encode.string? r.targetType) ++
    given "target_id" (Encode.string? r.targetId) ++
    given "created_at" (Encode.millis? r.createdAt))

end ReviewFirestoreExtension

namespace FirestoreMapper

/-- `_toFirestore[T]`. -/
def convert (order : IterationOrder) : (T : Model) → Entity T → Doc
  | .user, e => UserFirestoreExtension.toFirestore e
  | .posting, e => PostingFirestoreExtension.toFirestore order e
  | .booking, e => BookingFirestoreExtension.toFirestore e
  | .message, e => MessageFirestoreExtension.toFirestore e
  | .conversation, e => ConversationFirestoreExtension.toFirestore order e
  | .favouritePosting, e => FavouritePostingFirestoreExtension.toFirestore e
  | .review, e => ReviewFirestoreExtension.toFirestore e

/-- What the encoder of `T` does with each property: nothing is stored for `none`. -/
def encodedFields (order : IterationOrder) : (T : Model) → Entity T → List (String × Option Value)
  | .user, ⟨id, email, bio, city, country, firstName, lastName, fullName, imageUrl, isHost,
      isCurrentlyHosting, earning⟩ =>
      [("id", Encode.id id), ("email", Encode.string? email), ("bio", Encode.string? bio),
        ("city", Encode.string? city), ("country", Encode.string? country),
        ("first_name", Encode.string? firstName), ("last_name", Encode.string? lastName),
        ("full_name", Encode.string? fullName), ("image_url", Encode.string? imageUrl),
        ("earning", Encode.double? earning), ("is_host", some ((isHost.map Value.bool).getD .null)),
        ("is_currently_hosting", some (.bool isCurrentlyHosting))]
  | .posting, ⟨id, name, type, price, description, address, city, country, rating, hostId, lat,
      lon, images, amenities, beds, bathrooms⟩ =>
      [("id", Encode.id id), ("name", Encode.string? name), ("type", Encode.string? type),
        ("price", Encode.double? price), ("description", Encode.string? description),
        ("address", Encode.string? address), ("city", Encode.string? city),
        ("country", Encode.string? country), ("rating", Encode.double? rating),
        ("host_id", Encode.string? hostId), ("images", Encode.strings images),
        ("amenities", Encode.strings amenities), ("beds", Encode.counts order beds),
        ("bathrooms", Encode.counts order bathrooms), ("lat", some (.double lat)),
        ("lon", some (.double lon))]
  | .booking, ⟨id, postingId, userId, checkIn, checkOut, paymentAmount⟩ =>
      [("id", Encode.id id), ("posting_id", Encode.string? postingId),
        ("user_id", Encode.string? userId), ("check_in", Encode.millis? checkIn),
        ("check_out", Encode.millis? checkOut), ("payment_amount", Encode.double? paymentAmount)]
  | .favouritePosting, ⟨id, postingId, userId, createdAt⟩ =>
      [("id", Encode.id id), ("posting_id", Encode.string? postingId),
        ("user_id", Encode.string? userId), ("created_at", Encode.millis? createdAt)]
  | .message, ⟨id, senderId, conversationId, text, createdAt⟩ =>
      [("id", Encode.id id), ("sender_id", Encode.string? senderId),
        ("conversation_id", Encode.string? conversationId), ("text", Encode.string? text),
        ("created_at", Encode.millis? createdAt)]
  | .review, ⟨id, rating, comment, userId, targetType, targetId, createdAt⟩ =>
      [("id", Encode.id id), ("rating", some (.double rating)),
        ("comment", Encode.string? comment), ("user_id", Encode.string? userId),
        ("target_type", Encode.string? targetType), ("target_id", Encode.string? targetId),
        ("created_at", Encode.millis? createdAt)]
  | .conversation, ⟨id, members, avatar, name, lastMessage, lastMessageAt, createdAt⟩ =>
      [("id", Encode.id id), ("members", Encode.strings (order.ofSet members)),
        ("avatar", Encode.string? avatar), ("name", Encode.string? name),
        ("last_message", Encode.string? lastMessage),
        ("last_message_at", Encode.millis? lastMessageAt),
        ("created_at", Encode.millis? createdAt)]

section Lookups

variable {fs : List (String × Option Value)}

theorem lookup_eq_none_of_notMem {α : Type} {kvs : List (String × α)} {k : String}
    (h : k ∉ kvs.map Prod.fst) : kvs.lookup k = none := by
  rw [List.lookup_eq_none_iff]
  intro kv hkv
  rw [bne_iff_ne]
  rintro rfl
  exact h (List.mem_map_of_mem hkv)

theorem lookup_foldl_insert {kvs : List (String × Value)} (hnodup : (kvs.map Prod.fst).Nodup)
    (d : Doc) (k : String) :
    AList.lookup k (kvs.foldl (fun m kv => m.insert kv.1 kv.2) d) =
      (kvs.lookup k).or (d.lookup k) := by
  induction kvs generalizing d with
  | nil => rfl
  | cons kv kvs ih =>
      obtain ⟨hfresh, hnodup⟩ := List.nodup_cons.mp hnodup
      rw [List.foldl_cons, ih hnodup, FiniteMap.lookup_insert_eq_ite, List.lookup_cons]
      by_cases hk : k = kv.1
      · subst hk
        rw [if_pos rfl, lookup_eq_none_of_notMem hfresh, beq_self_eq_true]
        rfl
      · rw [if_neg hk, beq_eq_false_iff_ne.mpr hk]

/-- A map literal without repeated keys holds what it lists. -/
theorem lookup_ofList {kvs : List (String × Value)} (hnodup : (kvs.map Prod.fst).Nodup)
    (k : String) : (DartMap.ofList kvs).lookup k = kvs.lookup k := by
  rw [DartMap.ofList, lookup_foldl_insert hnodup, AList.lookup_empty, Option.or_none]

theorem keys_given_sublist (fs : List (String × Option Value)) :
    ((fs.flatMap (fun f => given f.1 f.2)).map Prod.fst).Sublist (fs.map Prod.fst) := by
  induction fs with
  | nil => exact List.Sublist.refl _
  | cons f fs ih =>
      obtain ⟨key, _ | v⟩ := f
      · exact ih.cons _
      · exact ih.cons_cons _

theorem lookup_given (hnodup : (fs.map Prod.fst).Nodup) (k : String) :
    (fs.flatMap (fun f => given f.1 f.2)).lookup k = (fs.lookup k).join := by
  induction fs with
  | nil => rfl
  | cons f fs ih =>
      obtain ⟨hfresh, hrest⟩ := List.nodup_cons.mp hnodup
      obtain ⟨key, _ | v⟩ := f
      · rw [List.flatMap_cons, given, Option.map_none, Option.toList_none, List.nil_append,
          ih hrest, List.lookup_cons]
        by_cases hk : k = key
        · subst hk
          rw [lookup_eq_none_of_notMem hfresh, beq_self_eq_true]
          rfl
        · rw [beq_eq_false_iff_ne.mpr hk]
      · rw [List.flatMap_cons, given, Option.map_some, Option.toList_some, List.singleton_append,
          List.lookup_cons, List.lookup_cons, ih hrest]
        cases k == key <;> rfl

theorem keys_encodedFields_nodup (order : IterationOrder) (T : Model) (e : Entity T) :
    ((encodedFields order T e).map Prod.fst).Nodup := by
  cases T <;> cases e <;> simp only [encodedFields, List.map_cons, List.map_nil] <;> decide

theorem optional_eq_given (key : String) (s : Option String) :
    UserFirestoreExtension.optional key s = given key (Encode.string? s) := by
  cases s <;> rfl

theorem given_id (s : String) :
    given "id" (Encode.id s) = if s = "" then [] else [("id", .string s)] := by
  unfold Encode.id
  split_ifs <;> rfl

theorem given_double? (key : String) (q : Option ℚ) :
    given key (Encode.double? q) = (q.map (fun q => (key, Value.double q))).toList := by
  cases q <;> rfl

theorem convert_eq_ofList (order : IterationOrder) (T : Model) (e : Entity T) :
    convert order T e =
      DartMap.ofList ((encodedFields order T e).flatMap (fun f => given f.1 f.2)) := by
  cases T <;> cases e <;>
    simp only [convert, encodedFields, UserFirestoreExtension.toFirestore,
      PostingFirestoreExtension.toFirestore, BookingFirestoreExtension.toFirestore,
      MessageFirestoreExtension.toFirestore, ConversationFirestoreExtension.toFirestore,
      FavouritePostingFirestoreExtension.toFirestore, ReviewFirestoreExtension.toFirestore,
      optional_eq_given, given_id, given_double?, List.flatMap_cons, List.flatMap_nil,
      List.append_nil, List.append_assoc] <;>
    rfl

/-- The encoded document holds a key exactly when something is stored for it. -/
theorem lookup_convert (order : IterationOrder) (T : Model) (e : Entity T) (k : String) :
    (convert order T e).lookup k = ((encodedFields order T e).lookup k).join := by
  have hnodup := keys_encodedFields_nodup order T e
  rw [convert_eq_ofList, lookup_ofList (hnodup.sublist (keys_given_sublist _)),
    lookup_given hnodup]

end Lookups

end FirestoreMapper

end AirBnbClone
