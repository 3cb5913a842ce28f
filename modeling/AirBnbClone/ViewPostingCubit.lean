import AirBnbClone.ChatCubit
import AirBnbClone.ItemModels

/-!
# `ViewPostingCubit`

The screen that shows one posting. Its constructor looks up the user and then, without waiting for
either, whether the user has saved and has booked the posting; meanwhile the user taps. `copyWith`
keeps every field that is not given but one: the flag of the heart falls back to `false`.
-/

namespace AirBnbClone

open Async

namespace DateTime

variable (z : Zone)

/-- The four-digit year has its sign in front. -/
def yearText (year : ℤ) : String :=
  let sign := if year < 0 then "-" else ""
  if |year| ≤ 9999 then sign ++ padLeft 4 |year|
  else (if year < 0 then "-" else "+") ++ padLeft 6 |year|

def toIso8601String (t : DateTime) : String :=
  let time := (t.microsecondsSinceEpoch +
    if t.isUtc then 0 else z.offsetAt t.microsecondsSinceEpoch) % microsecondsPerDay
  let microseconds := time % 1000
  yearText (t.year z) ++ "-" ++ padLeft 2 (t.month z) ++ "-" ++ padLeft 2 (t.day z) ++ "T" ++
    padLeft 2 (time / 3600000000) ++ ":" ++ padLeft 2 (time / 60000000 % 60) ++ ":" ++
    padLeft 2 (time / 1000000 % 60) ++ "." ++ padLeft 3 (time / 1000 % 1000) ++
    (if microseconds = 0 then "" else padLeft 3 microseconds) ++ (if t.isUtc then "Z" else "")

end DateTime

structure ViewPostingState where
  isFavorite : Bool := false
  displayImages : List String := []
  title : String := ""
  description : String := ""
  postingInfoTiles : List (BaseItemModel Unit) := []
  amenities : List String := []
  address : String := ""
  hostImage : String := ""
  hostName : String := ""
  propertyLatLong : ℚ × ℚ := (37.42796133580664, -122.085749655962)
  displayAddress : String := ""
  reviewRating : ℚ := 0
  isHost : Bool := false
  price : String := ""
  name : String := ""
  bookingTimeMap : DartMap DateTime := ∅
  canReview : Bool := false
  recentReviews : List ReviewItemModel := []

namespace ViewPostingState

/-- The named arguments of `copyWith` that the cubit uses. -/
structure Update where
  isFavorite : Bool := false
  displayAddress : Option String := none
  reviewRating : Option ℚ := none
  isHost : Option Bool := none
  bookingTimeMap : Option (DartMap DateTime) := none
  canReview : Option Bool := none
  recentReviews : Option (List ReviewItemModel) := none

/-- `isFavorite` is not nullable: when it is not given, it becomes `false`. -/
def copyWith (s : ViewPostingState) (u : Update) : ViewPostingState :=
  { s with
    isFavorite := u.isFavorite
    displayAddress := u.displayAddress.getD s.displayAddress
    reviewRating := u.reviewRating.getD s.reviewRating
    isHost := u.isHost.getD s.isHost
    bookingTimeMap := u.bookingTimeMap.getD s.bookingTimeMap
    canReview := u.canReview.getD s.canReview
    recentReviews := u.recentReviews.getD s.recentReviews }

end ViewPostingState

inductive ViewCall
  | userId
  | getFavouritePosting (userId postingId : String)
  | getBookingsForPosting (postingId : String) (userId : Option String)
  | createFavouritePosting (data : Doc)
  | createReview (data : Doc)
  | now

abbrev ViewReply : ViewCall → Type
  | .userId => Option String
  | .getFavouritePosting .. => Option (Managed FavouritePosting)
  | .getBookingsForPosting .. => List (Managed Booking)
  | .createFavouritePosting _ => Managed FavouritePosting
  | .createReview _ => Managed Review
  | .now => DateTime

def reviewData (userId targetType targetId : String) (rating : ℚ) (comment : String)
    (now : DateTime) : Doc :=
  DartMap.ofList [("user_id", .string userId), ("target_type", .string targetType),
    ("target_id", .string targetId), ("rating", .double rating), ("comment", .string comment),
    ("created_at", .int now.millisecondsSinceEpoch)]

namespace ViewPostingCubit

open ViewPostingState

abbrev ViewM (α : Type) := Prog ViewReply ViewPostingState DartError α

abbrev await (op : ViewCall) : ViewM (ViewReply op) := Prog.call op

section Texts

def isPostingValid (p : Posting) : Bool :=
  !p.images.isEmpty && p.name.any (fun name => !name.isEmpty) && p.description.isSome

def count (m : Finmap fun _ : String => ℤ) (kind : String) : ℤ := (m.lookup kind).getD 0

def getNumGuests (p : Posting) : ℤ :=
  count p.beds "small" + count p.beds "medium" * 2 + count p.beds "large" * 2

/-- `if (n != 0) parts.add('$n text ')`. -/
def part (n : ℤ) (text : String) : String := if n = 0 then "" else toString n ++ text

def getBedroomText (p : Posting) : String :=
  trim (part (count p.beds "small") " single/twin " ++ part (count p.beds "medium") " double " ++
    part (count p.beds "large") " queen/king ")

def getBathroomText (p : Posting) : String :=
  trim (part (count p.bathrooms "full") " full " ++ part (count p.bathrooms "half") " half ")

def getFullAddress (p : Posting) : String :=
  ", ".intercalate (([p.address, p.city, p.country].filterMap id).map trim |>.filter
    (fun s => !s.isEmpty))

def orDash (text : String) : String := if text.isEmpty then "—" else text

def hostName (host : Option User) : String :=
  match host.bind User.fullName with
  | some fullName => fullName
  | none => trim ((host.bind User.firstName).getD "" ++ " " ++ (host.bind User.lastName).getD "")

def postingInfoTiles (p : Posting) : List (BaseItemModel Unit) :=
  [{ id := "guests", title := p.type.getD "Property",
      des := toString (getNumGuests p) ++ " guests" },
    { id := "beds", title := "Beds", des := orDash (getBedroomText p) },
    { id := "bathrooms", title := "Bathrooms", des := orDash (getBathroomText p) }]

def shown (text : DoubleText) (p : Posting) (host : Option User) : ViewPostingState where
  displayImages := p.images
  title := p.name.getD ""
  description := p.description.getD ""
  postingInfoTiles := postingInfoTiles p
  amenities := p.amenities
  address := getFullAddress p
  hostImage := (host.bind User.imageUrl).getD ""
  hostName := hostName host
  propertyLatLong := (p.lat, p.lon)
  price := (p.price.map (fun price => "$" ++ text.toStringAsFixed price)).getD ""
  name := p.name.getD ""

def reviewerDisplayName : Option (Managed User) → String
  | none => "Guest"
  | some u =>
      if u.isValid then
        let full := trim (u.object.fullName.getD "")
        let combined := trim (u.object.firstName.getD "" ++ " " ++ u.object.lastName.getD "")
        if !full.isEmpty then full else if combined.isEmpty then "Guest" else combined
      else "Guest"

/-- A review comes with the user it is linked to. -/
def reviewsToItems (results : List (Managed Review × Option (Managed User))) :
    List ReviewItemModel :=
  (results.filter (fun r => r.1.isValid)).map (fun r =>
    { id := r.1.object.id
      rating := r.1.object.rating
      title := reviewerDisplayName r.2
      des := r.1.object.comment.getD ""
      imageUrl := (r.2.bind (fun u => u.object.imageUrl)).getD ""
      tag := "review"
      object := some r.1 })

end Texts

section Functions

variable (z : Zone) (posting : Managed Posting)

def setReviewRating (value : ℚ) (s : ViewPostingState) : ViewPostingState :=
  s.copyWith { reviewRating := some value }

def showAddress (address : String) (s : ViewPostingState) : ViewPostingState :=
  s.copyWith { displayAddress := some address }

def updateBookingTimeMap (map : DartMap DateTime) (s : ViewPostingState) : ViewPostingState :=
  s.copyWith { bookingTimeMap := some map }

def showReviews (results : List (Managed Review × Option (Managed User)))
    (s : ViewPostingState) : ViewPostingState :=
  s.copyWith { recentReviews := some (reviewsToItems results) }

def lookUpFavourite (userId : String) : ViewM Unit := do
  let favouritePosting : Option (Managed FavouritePosting) ←
    await (.getFavouritePosting userId posting.object.id)
  Prog.emitWith (fun s => s.copyWith { isFavorite := favouritePosting.isSome })

def lookUpBookings (userId : String) : ViewM Unit := do
  let bookings : List (Managed Booking) ←
    await (.getBookingsForPosting posting.object.id (some userId))
  Prog.emitWith (fun s => s.copyWith { canReview := some (!bookings.isEmpty) })

/-- The callback of the user lookup; it returns the lookups it starts and does not wait for. -/
def lookUpUser : ViewM (List (ViewM Unit)) := do
  let userId : Option String ← await .userId
  Prog.emitWith (fun s => s.copyWith { isHost := some (decide (userId = posting.object.hostId)) })
  match userId with
  | none => pure []
  | some userId => pure [lookUpFavourite posting userId, lookUpBookings posting userId]

def favouriteData (userId postingId : String) (now : DateTime) : Doc :=
  DartMap.ofList [("user_id", .string userId), ("posting_id", .string postingId),
    ("created_at", .string (now.toIso8601String z))]

/-- The flags are read before the first await and the heart is filled after the last. -/
def toggleFavourite : ViewM Unit := do
  let state ← Prog.state
  if state.isHost = true ∨ state.isFavorite = true then pure ()
  else
    match ← await .userId with
    | none => pure ()
    | some userId =>
        if posting.isValid then do
          let now : DateTime ← await .now
          let _ ← await (.createFavouritePosting (favouriteData z userId posting.object.id now))
          Prog.emitWith (fun s => s.copyWith { isFavorite := true })
        else Prog.done (.error ChatCubit.invalidated)

def submitReview (comment : Option String) : ViewM Unit :=
  match comment with
  | none => pure ()
  | some comment => do
      match ← await .userId with
      | none => pure ()
      | some userId =>
          if posting.isValid then do
            let state ← Prog.state
            let now : DateTime ← await .now
            let _ ← await (.createReview
              (reviewData userId "posting" posting.object.id state.reviewRating comment now))
          else pure ()

end Functions

end ViewPostingCubit

namespace ViewProfileCubit

def reviewData (userId hostId : String) (rating : ℚ) (comment : String) (now : DateTime) : Doc :=
  AirBnbClone.reviewData userId "user" hostId rating comment now

end ViewProfileCubit

end AirBnbClone
