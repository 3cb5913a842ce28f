import AirBnbClone.ExceptTraverse
import AirBnbClone.Models

/-!
# Decoding Firestore documents

The `fromFirestore` helpers of the seven models and `FirestoreMapper`, which picks one by type. A
decoder looks at its document key by key, and `fieldDecoders` lists what it does with each key; the
decoded entity is determined by these readings and succeeds exactly when all of them do.
-/

namespace AirBnbClone

namespace UserFirestoreHelper

def fromFirestore (data : Doc) : Except DartError User := do
  let id ← Cast.idString (data.get "id")
  let email ← Cast.string? (data.get "email")
  let bio ← Cast.string? (data.get "bio")
  let city ← Cast.string? (data.get "city")
  let country ← Cast.string? (data.get "country")
  let firstName ← Cast.string? (data.get "first_name")
  let lastName ← Cast.string? (data.get "last_name")
  let fullName ← Cast.string? (data.get "full_name")
  let imageUrl ← Cast.string? (data.get "image_url")
  let isHost ← Cast.bool? (data.get "is_host")
  let isCurrentlyHosting ← Cast.boolOrFalse (data.get "is_currently_hosting")
  let earning ← Cast.double? (data.get "earning")
  return { id, email, bio, city, country, firstName, lastName, fullName, imageUrl, isHost,
           isCurrentlyHosting, earning }

end UserFirestoreHelper

namespace PostingFirestoreHelper

def fromFirestore (data : Doc) : Except DartError Posting := do
  let id ← Cast.idString (data.get "id")
  let name ← Cast.string? (data.get "name")
  let type ← Cast.string? (data.get "type")
  let price ← Cast.num? (data.get "price")
  let description ← Cast.string? (data.get "description")
  let address ← Cast.string? (data.get "address")
  let city ← Cast.string? (data.get "city")
  let country ← Cast.string? (data.get "country")
  let rating ← Cast.num? (data.get "rating")
  let hostId ← Cast.string? (data.get "host_id")
  Cast.link (data.get "host")
  let images ← Cast.strings (data.get "images")
  let amenities ← Cast.strings (data.get "amenities")
  let beds ← Cast.intMap (data.get "beds")
  let bathrooms ← Cast.intMap (data.get "bathrooms")
  let lat ← Cast.numOrZero (data.get "lat")
  let lon ← Cast.numOrZero (data.get "lon")
  return { id, name, type, price, description, address, city, country, rating, hostId,
           lat, lon, images, amenities, beds, bathrooms }

end PostingFirestoreHelper

namespace BookingFirestoreHelper

def fromFirestore (z : Zone) (data : Doc) : Except DartError Booking := do
  let id ← Cast.idString (data.get "id")
  let postingId ← Cast.string? (data.get "posting_id")
  Cast.link (data.get "posting")
  let userId ← Cast.string? (data.get "user_id")
  Cast.link (data.get "user")
  let checkIn ← Cast.parseDateTime z (data.get "check_in")
  let checkOut ← Cast.parseDateTime z (data.get "check_out")
  let paymentAmount ← Cast.double? (data.get "payment_amount")
  return { id, postingId, userId, checkIn, checkOut, paymentAmount }

end BookingFirestoreHelper

namespace MessageFirestoreHelper

def fromFirestore (z : Zone) (data : Doc) : Except DartError Message := do
  let id ← Cast.idString (data.get "id")
  let senderId ← Cast.string? (data.get "sender_id")
  let conversationId ← Cast.string? (data.get "conversation_id")
  let text ← Cast.string? (data.get "text")
  let createdAt ← Cast.parseDateTime z (data.get "created_at")
  Cast.link (data.get "sender")
  return { id, senderId, conversationId, text, createdAt }

end MessageFirestoreHelper

namespace ConversationFirestoreHelper

def fromFirestore (z : Zone) (data : Doc) : Except DartError Conversation := do
  let id ← Cast.idString (data.get "id")
  let members ← Cast.stringSet (data.get "members")
  let avatar ← Cast.string? (data.get "avatar")
  let name ← Cast.string? (data.get "name")
  let lastMessage ← Cast.string? (data.get "last_message")
  let lastMessageAt ← Cast.parseDateTime z (data.get "last_message_at")
  let createdAt ← Cast.parseDateTime z (data.get "created_at")
  return { id, members, avatar, name, lastMessage, lastMessageAt, createdAt }

end ConversationFirestoreHelper

namespace FavouritePostingFirestoreHelper

def fromFirestore (z : Zone) (data : Doc) : Except DartError FavouritePosting := do
  let id ← Cast.idString (data.get "id")
  let postingId ← Cast.string? (data.get "posting_id")
  Cast.link (data.get "posting")
  let userId ← Cast.string? (data.get "user_id")
  Cast.link (data.get "user")
  let createdAt ← Cast.parseDateTime z (data.get "created_at")
  return { id, postingId, userId, createdAt }

end FavouritePostingFirestoreHelper

namespace ReviewFirestoreHelper

def fromFirestore (z : Zone) (data : Doc) : Except DartError Review := do
  let id ← Cast.idString (data.get "id")
  let rating ← Cast.numOrZero (data.get "rating")
  let comment ← Cast.string? (data.get "comment")
  let userId ← Cast.string? (data.get "user_id")
  Cast.link (data.get "user")
  let targetType ← Cast.string? (data.get "target_type")
  let targetId ← Cast.string? (data.get "target_id")
  let createdAt ← Cast.parseDateTime z (data.get "created_at")
  return { id, rating, comment, userId, targetType, targetId, createdAt }

end ReviewFirestoreHelper

namespace FirestoreMapper

def fromMap (z : Zone) : (T : Model) → Doc → Except DartError (Entity T)
  | .user => UserFirestoreHelper.fromFirestore
  | .posting => PostingFirestoreHelper.fromFirestore
  | .booking => BookingFirestoreHelper.fromFirestore z
  | .message => MessageFirestoreHelper.fromFirestore z
  | .conversation => ConversationFirestoreHelper.fromFirestore z
  | .favouritePosting => FavouritePostingFirestoreHelper.fromFirestore z
  | .review => ReviewFirestoreHelper.fromFirestore z

/-- The snapshot's own id fills a missing `id` field. -/
def withSnapshotId (id : String) (data : Doc) : Doc :=
  if data.get "id" = .null then data.insert "id" (.string id) else data

def fromDocumentSnapshot (z : Zone) (T : Model) (id : String) (data : Doc) :
    Except DartError (Entity T) :=
  fromMap z T (withSnapshotId id data)

inductive Property
  | text (s : String)
  | text? (s : Option String)
  | flag (b : Bool)
  | flag? (b : Option Bool)
  | number (q : ℚ)
  | number? (q : Option ℚ)
  | date? (t : Option ℤ)
  | texts (l : List String)
  | textSet (s : Finset String)
  | counts (m : Finmap fun _ : String => ℤ)
  | noLink
  deriving DecidableEq

structure FieldDecoder where
  key : String
  decode : Value → Except DartError Property

def field {β : Type} (key : String) (cast : Value → Except DartError β) (pack : β → Property) :
    FieldDecoder :=
  ⟨key, fun v => (cast v).map pack⟩

/-- What the decoder of `T` reads, in the order in which it reads it. -/
def fieldDecoders (z : Zone) : Model → List FieldDecoder
  | .user =>
      [field "id" Cast.idString .text, field "email" Cast.string? .text?,
        field "bio" Cast.string? .text?, field "city" Cast.string? .text?,
        field "country" Cast.string? .text?, field "first_name" Cast.string? .text?,
        field "last_name" Cast.string? .text?, field "full_name" Cast.string? .text?,
        field "image_url" Cast.string? .text?, field "is_host" Cast.bool? .flag?,
        field "is_currently_hosting" Cast.boolOrFalse .flag, field "earning" Cast.double? .number?]
  | .posting =>
      [field "id" Cast.idString .text, field "name" Cast.string? .text?,
        field "type" Cast.string? .text?, field "price" Cast.num? .number?,
        field "description" Cast.string? .text?, field "address" Cast.string? .text?,
        field "city" Cast.string? .text?, field "country" Cast.string? .text?,
        field "rating" Cast.num? .number?, field "host_id" Cast.string? .text?,
        field "host" Cast.link (fun _ => .noLink), field "images" Cast.strings .texts,
        field "amenities" Cast.strings .texts, field "beds" Cast.intMap .counts,
        field "bathrooms" Cast.intMap .counts, field "lat" Cast.numOrZero .number,
        field "lon" Cast.numOrZero .number]
  | .booking =>
      [field "id" Cast.idString .text, field "posting_id" Cast.string? .text?,
        field "posting" Cast.link (fun _ => .noLink), field "user_id" Cast.string? .text?,
        field "user" Cast.link (fun _ => .noLink), field "check_in" (Cast.parseDateTime z) .date?,
        field "check_out" (Cast.parseDateTime z) .date?,
        field "payment_amount" Cast.double? .number?]
  | .favouritePosting =>
      [field "id" Cast.idString .text, field "posting_id" Cast.string? .text?,
        field "posting" Cast.link (fun _ => .noLink), field "user_id" Cast.string? .text?,
        field "user" Cast.link (fun _ => .noLink),
        field "created_at" (Cast.parseDateTime z) .date?]
  | .message =>
      [field "id" Cast.idString .text, field "sender_id" Cast.string? .text?,
        field "conversation_id" Cast.string? .text?, field "text" Cast.string? .text?,
        field "created_at" (Cast.parseDateTime z) .date?,
        field "sender" Cast.link (fun _ => .noLink)]
  | .review =>
      [field "id" Cast.idString .text, field "rating" Cast.numOrZero .number,
        field "comment" Cast.string? .text?, field "user_id" Cast.string? .text?,
        field "user" Cast.link (fun _ => .noLink), field "target_type" Cast.string? .text?,
        field "target_id" Cast.string? .text?, field "created_at" (Cast.parseDateTime z) .date?]
  | .conversation =>
      [field "id" Cast.idString .text, field "members" Cast.stringSet .textSet,
        field "avatar" Cast.string? .text?, field "name" Cast.string? .text?,
        field "last_message" Cast.string? .text?,
        field "last_message_at" (Cast.parseDateTime z) .date?,
        field "created_at" (Cast.parseDateTime z) .date?]

/-- The properties of an entity, in the order of `fieldDecoders`. -/
def properties : (T : Model) → Entity T → List Property
  | .user, ⟨id, email, bio, city, country, firstName, lastName, fullName, imageUrl, isHost,
      isCurrentlyHosting, earning⟩ =>
      [.text id, .text? email, .text? bio, .text? city, .text? country, .text? firstName,
        .text? lastName, .text? fullName, .text? imageUrl, .flag? isHost,
        .flag isCurrentlyHosting, .number? earning]
  | .posting, ⟨id, name, type, price, description, address, city, country, rating, hostId, lat,
      lon, images, amenities, beds, bathrooms⟩ =>
      [.text id, .text? name, .text? type, .number? price, .text? description, .text? address,
        .text? city, .text? country, .number? rating, .text? hostId, .noLink, .texts images,
        .texts amenities, .counts beds, .counts bathrooms, .number lat, .number lon]
  | .booking, ⟨id, postingId, userId, checkIn, checkOut, paymentAmount⟩ =>
      [.text id, .text? postingId, .noLink, .text? userId, .noLink, .date? checkIn,
        .date? checkOut, .number? paymentAmount]
  | .favouritePosting, ⟨id, postingId, userId, createdAt⟩ =>
      [.text id, .text? postingId, .noLink, .text? userId, .noLink, .date? createdAt]
  | .message, ⟨id, senderId, conversationId, text, createdAt⟩ =>
      [.text id, .text? senderId, .text? conversationId, .text? text, .date? createdAt, .noLink]
  | .review, ⟨id, rating, comment, userId, targetType, targetId, createdAt⟩ =>
      [.text id, .number rating, .text? comment, .text? userId, .noLink, .text? targetType,
        .text? targetId, .date? createdAt]
  | .conversation, ⟨id, members, avatar, name, lastMessage, lastMessageAt, createdAt⟩ =>
      [.text id, .textSet members, .text? avatar, .text? name, .text? lastMessage,
        .date? lastMessageAt, .date? createdAt]

theorem properties_injective (T : Model) : Function.Injective (properties T) := by
  intro e e' h
  cases T <;> cases e <;> cases e' <;> simp_all [properties]

theorem fromMap_properties (z : Zone) (T : Model) (d : Doc) :
    (fromMap z T d).map (properties T) =
      (fieldDecoders z T).mapM (fun f => f.decode (d.get f.key)) := by
  cases T <;>
    simp only [fromMap, fieldDecoders, field, List.mapM_cons, List.mapM_nil,
      UserFirestoreHelper.fromFirestore, PostingFirestoreHelper.fromFirestore,
      BookingFirestoreHelper.fromFirestore, MessageFirestoreHelper.fromFirestore,
      ConversationFirestoreHelper.fromFirestore, FavouritePostingFirestoreHelper.fromFirestore,
      ReviewFirestoreHelper.fromFirestore, ExceptTraverse.map_bind_eq,
      ExceptTraverse.bind_map_eq, bind_assoc, pure_bind] <;>
    rfl

variable {z : Zone} {T : Model} {d d' : Doc}

theorem properties_of_fromMap_ok {e : Entity T} (h : fromMap z T d = .ok e) :
    (fieldDecoders z T).mapM (fun f => f.decode (d.get f.key)) = .ok (properties T e) := by
  rw [← fromMap_properties, h]
  rfl

theorem fromMap_congr
    (h : ∀ f ∈ fieldDecoders z T, f.decode (d.get f.key) = f.decode (d'.get f.key)) :
    fromMap z T d = fromMap z T d' := by
  apply ExceptTraverse.map_injective (properties_injective T)
  rw [fromMap_properties, fromMap_properties]
  exact ExceptTraverse.mapM_congr h

/-- Two decoded documents give one entity exactly when they read alike under every key. -/
theorem entity_eq_iff {e e' : Entity T} (h : fromMap z T d = .ok e) (h' : fromMap z T d' = .ok e') :
    e = e' ↔ ∀ f ∈ fieldDecoders z T, f.decode (d.get f.key) = f.decode (d'.get f.key) := by
  rw [← (properties_injective T).eq_iff]
  exact ExceptTraverse.eq_iff_of_mapM_ok (properties_of_fromMap_ok h) (properties_of_fromMap_ok h')

theorem decode_ok_of_fromMap_ok {e : Entity T} (h : fromMap z T d = .ok e) :
    ∀ f ∈ fieldDecoders z T, ∃ p, f.decode (d.get f.key) = .ok p :=
  ExceptTraverse.ok_of_mapM_ok (properties_of_fromMap_ok h)

theorem exists_fromMap_ok
    (h : ∀ f ∈ fieldDecoders z T, ∃ p, f.decode (d.get f.key) = .ok p) :
    ∃ e, fromMap z T d = .ok e := by
  obtain ⟨ps, hps⟩ := ExceptTraverse.exists_mapM_ok h
  rw [← fromMap_properties, ExceptTraverse.map_eq_ok_iff] at hps
  obtain ⟨e, he, _⟩ := hps
  exact ⟨e, he⟩

theorem fieldDecoders_eq_cons (z : Zone) (T : Model) :
    fieldDecoders z T = field "id" Cast.idString .text :: (fieldDecoders z T).tail := by
  cases T <;> rfl

theorem decode_of_key_id {f : FieldDecoder} (hf : f ∈ fieldDecoders z T) (hkey : f.key = "id") :
    f.decode = fun v => (Cast.idString v).map Property.text := by
  revert f
  cases T <;> simp [fieldDecoders, field]

theorem properties_eq_cons (T : Model) (e : Entity T) :
    properties T e = .text (Entity.id T e) :: (properties T e).tail := by
  cases T <;> cases e <;> rfl

/-- The primary key of a decoded entity is the document's `id` field. -/
theorem idString_of_fromMap_ok {e : Entity T} (h : fromMap z T d = .ok e) :
    Cast.idString (d.get "id") = .ok (Entity.id T e) := by
  have hp := (ExceptTraverse.mapM_eq_ok_iff _ _ _).mp (properties_of_fromMap_ok h)
  rw [fieldDecoders_eq_cons, properties_eq_cons, List.map_cons, List.map_cons] at hp
  obtain ⟨s, hs, he⟩ := (ExceptTraverse.map_eq_ok_iff _ _ _).mp (List.cons.inj hp).1
  exact hs.trans (congrArg Except.ok (Property.text.inj he))

/-- The property that the decoder reads at position `i`. -/
theorem getElem?_of_fromMap_ok {e : Entity T} (h : fromMap z T d = .ok e) (i : ℕ) :
    ((fieldDecoders z T).map (fun f => f.decode (d.get f.key)))[i]? =
      ((properties T e).map Except.ok)[i]? :=
  congrArg (fun l => l[i]?) ((ExceptTraverse.mapM_eq_ok_iff _ _ _).mp (properties_of_fromMap_ok h))

theorem withSnapshotId_get_of_ne {id k : String} (h : k ≠ "id") :
    (withSnapshotId id d).get k = d.get k := by
  unfold withSnapshotId
  split_ifs
  · rw [Doc.get_insert, if_neg h]
  · rfl

theorem withSnapshotId_get_id {id : String} (h : d.get "id" = .null ∨ d.get "id" = .string id) :
    (withSnapshotId id d).get "id" = .string id := by
  unfold withSnapshotId
  split_ifs with hnull
  · rw [Doc.get_insert, if_pos rfl]
  · exact h.resolve_left hnull

/-- A document stored under its own id decodes to an entity with that id. -/
theorem id_of_fromDocumentSnapshot_ok {id : String} {e : Entity T}
    (hid : d.get "id" = .null ∨ d.get "id" = .string id)
    (h : fromDocumentSnapshot z T id d = .ok e) : Entity.id T e = id := by
  have hstring := idString_of_fromMap_ok h
  rw [withSnapshotId_get_id hid] at hstring
  exact (Except.ok.inj hstring).symm

end FirestoreMapper

end AirBnbClone
