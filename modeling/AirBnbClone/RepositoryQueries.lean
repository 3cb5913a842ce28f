import AirBnbClone.FirestoreQuery
import AirBnbClone.FireStoreService

/-!
# The Firestore side of the repositories' observe methods

Each observe method starts a listener on a document or on a query, returns a stream of the local
store, and stops that listener when the stream is cancelled.
-/

namespace AirBnbClone

open FirestoreQueryBuilder

namespace PostingRepository

def observePostingsQuery (hostId : String) : FirestoreQueryBuilder :=
  (new FirestoreCollection.posting).equalTo "host_id" (.string hostId)

end PostingRepository

namespace BookingRepository

def checkOutFromQuery (dateMillis : ℤ) : FirestoreQueryBuilder :=
  (new FirestoreCollection.booking).filter
    (.where ⟨"check_out", .isGreaterThanOrEqualTo, .int dateMillis⟩)

def checkOutBeforeQuery (dateMillis : ℤ) : FirestoreQueryBuilder :=
  (new FirestoreCollection.booking).filter (.where ⟨"check_out", .isLessThan, .int dateMillis⟩)

end BookingRepository

namespace MessageRepository

def messagesQuery (conversationId : String) : FirestoreQueryBuilder :=
  (new FirestoreCollection.message).equalTo "conversation_id" (.string conversationId)

end MessageRepository

namespace ConversationRepository

def conversationsQuery (userId : String) : FirestoreQueryBuilder :=
  (new FirestoreCollection.conversation).filter
    (.where ⟨"members", .arrayContains, .string userId⟩)

end ConversationRepository

namespace FavouritePostingRepository

def favouritePostingsQuery (userId : String) : FirestoreQueryBuilder :=
  (new FirestoreCollection.favouritePosting).equalTo "user_id" (.string userId)

end FavouritePostingRepository

namespace ReviewRepository

/-- `if (lim != null && lim > 0) firestoreQuery = firestoreQuery.limit(lim)`. -/
def limited (b : FirestoreQueryBuilder) : Option ℤ → FirestoreQueryBuilder
  | some lim => if 0 < lim then b.limit lim else b
  | none => b

def reviewsByUserAndTargetQuery (userId targetType targetId : String) (limit : Option ℤ) :
    FirestoreQueryBuilder :=
  limited ((((new FirestoreCollection.review).equalTo "user_id" (.string userId)).equalTo
    "target_type" (.string targetType)).equalTo "target_id" (.string targetId)
    |>.orderBy "created_at" true) limit

def reviewsForTargetQuery (targetType targetId : String) (limit : Option ℤ) :
    FirestoreQueryBuilder :=
  limited (((new FirestoreCollection.review).equalTo "target_type" (.string targetType)).equalTo
    "target_id" (.string targetId) |>.orderBy "created_at" true) limit

end ReviewRepository

/-- What a listener is registered under: a document reference or a query. -/
inductive ListenerKey
  | doc (collection id : String)
  | query (q : Query)
  deriving DecidableEq

inductive ObserveCall
  | observeUser (id : String)
  | observePostings (hostId : String)
  | observeBookingsWithCheckOutFrom (dateMillis : ℤ)
  | observeBookingsWithCheckOutBefore (dateMillis : ℤ)
  | observeMessagesByConversationId (conversationId : String)
  | observeConversations (userId : String)
  | observeFavouritePostings (userId : String)
  | observeReviewsByUserAndTarget (userId targetType targetId : String) (limit : Option ℤ)
  | observeReviewsForTarget (targetType targetId : String) (limit : Option ℤ)
  deriving DecidableEq

namespace ObserveCall

/-- The key under which the call starts its listener and under which its cancellation, which
builds the same query again, stops it. -/
def key : ObserveCall → ListenerKey
  | observeUser id => .doc FirestoreCollection.user id
  | observePostings hostId => .query (PostingRepository.observePostingsQuery hostId).build
  | observeBookingsWithCheckOutFrom dateMillis =>
      .query (BookingRepository.checkOutFromQuery dateMillis).build
  | observeBookingsWithCheckOutBefore dateMillis =>
      .query (BookingRepository.checkOutBeforeQuery dateMillis).build
  | observeMessagesByConversationId conversationId =>
      .query (MessageRepository.messagesQuery conversationId).build
  | observeConversations userId =>
      .query (ConversationRepository.conversationsQuery userId).build
  | observeFavouritePostings userId =>
      .query (FavouritePostingRepository.favouritePostingsQuery userId).build
  | observeReviewsByUserAndTarget userId targetType targetId limit =>
      .query (ReviewRepository.reviewsByUserAndTargetQuery userId targetType targetId limit).build
  | observeReviewsForTarget targetType targetId limit =>
      .query (ReviewRepository.reviewsForTargetQuery targetType targetId limit).build

end ObserveCall

end AirBnbClone
