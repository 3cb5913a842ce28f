import AirBnbClone.DartValue

/-!
# The registered Realm models

One structure per Realm class, with the properties declared in its schema. Object links are kept
apart from the entity, in the row that Realm stores: an entity decoded from a document has none.
Date properties are instants in microseconds since the epoch.
-/

namespace AirBnbClone

inductive Model
  | user
  | posting
  | booking
  | favouritePosting
  | message
  | review
  | conversation
  deriving DecidableEq

structure User where
  id : String
  email : Option String
  bio : Option String
  city : Option String
  country : Option String
  firstName : Option String
  lastName : Option String
  fullName : Option String
  imageUrl : Option String
  isHost : Option Bool
  isCurrentlyHosting : Bool
  earning : Option ℚ
  deriving DecidableEq

structure Posting where
  id : String
  name : Option String
  type : Option String
  price : Option ℚ
  description : Option String
  address : Option String
  city : Option String
  country : Option String
  rating : Option ℚ
  hostId : Option String
  lat : ℚ
  lon : ℚ
  images : List String
  amenities : List String
  beds : Finmap fun _ : String => ℤ
  bathrooms : Finmap fun _ : String => ℤ
  deriving DecidableEq

structure Booking where
  id : String
  postingId : Option String
  userId : Option String
  checkIn : Option ℤ
  checkOut : Option ℤ
  paymentAmount : Option ℚ
  deriving DecidableEq

structure FavouritePosting where
  id : String
  postingId : Option String
  userId : Option String
  createdAt : Option ℤ
  deriving DecidableEq

structure Message where
  id : String
  senderId : Option String
  conversationId : Option String
  text : Option String
  createdAt : Option ℤ
  deriving DecidableEq

structure Review where
  id : String
  rating : ℚ
  comment : Option String
  userId : Option String
  targetType : Option String
  targetId : Option String
  createdAt : Option ℤ
  deriving DecidableEq

structure Conversation where
  id : String
  members : Finset String
  avatar : Option String
  name : Option String
  lastMessage : Option String
  lastMessageAt : Option ℤ
  createdAt : Option ℤ
  deriving DecidableEq

abbrev Entity : Model → Type
  | .user => User
  | .posting => Posting
  | .booking => Booking
  | .favouritePosting => FavouritePosting
  | .message => Message
  | .review => Review
  | .conversation => Conversation

/-- The primary key, `realmObject.dynamic.get("id")`. -/
def Entity.id : (T : Model) → Entity T → String
  | .user, e => User.id e
  | .posting, e => Posting.id e
  | .booking, e => Booking.id e
  | .favouritePosting, e => FavouritePosting.id e
  | .message, e => Message.id e
  | .review, e => Review.id e
  | .conversation, e => Conversation.id e

/-- `dynamic.get(key) as String?` for the foreign-key properties. -/
def Entity.foreignKey : (T : Model) → Entity T → String → Option String
  | .posting, e, "hostId" => Posting.hostId e
  | .booking, e, "postingId" => Booking.postingId e
  | .booking, e, "userId" => Booking.userId e
  | .favouritePosting, e, "postingId" => FavouritePosting.postingId e
  | .favouritePosting, e, "userId" => FavouritePosting.userId e
  | .message, e, "senderId" => Message.senderId e
  | .review, e, "userId" => Review.userId e
  | _, _, _ => none

end AirBnbClone
