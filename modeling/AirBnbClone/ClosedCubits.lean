import AirBnbClone.AccountCubit
import AirBnbClone.Disposal
import AirBnbClone.HostCalendar
import AirBnbClone.SenderPrefetch
import AirBnbClone.ViewPostingCubit

/-!
# Cubits after their end

The cubits that listen to a stream open the subscription after they have awaited the user's id, and
other functions emit after their own calls. None of them asks before whether the cubit was closed;
only the listener of the chat does. `emit` throws after the end. The tables below name the answers
that come too late then.
-/

namespace AirBnbClone

open Async Disposal

def closedError : DartError :=
  .exception "Bad state: Cannot emit new states after calling close"

/-- The calls of a cubit and the lookup of the user's id. -/
abbrev WithUser {Op : Type} (Reply : Op → Type) : Option Op → Type
  | none => Option String
  | some op => Reply op

section Lookup

variable {Op : Type} {Reply : Op → Type} {σ α Task : Type}

def withUser : Prog Reply σ DartError α → Prog (WithUser Reply) σ DartError α
  | .done result => .done result
  | .read k => .read (fun s => withUser (k s))
  | .emit s k => .emit s (withUser k)
  | .await op k => .await (some op) (fun reply => withUser (k reply))

def observeUser : Prog (WithUser Reply) (Owner σ) DartError (List Task) := do
  let userId : Option String ← Prog.call none
  match userId with
  | none => pure []
  | some _ => do
      onLife Life.listen
      pure []

def isUser : Except DartError (Option String) → Bool
  | .ok userId => userId.isSome
  | .error _ => false

end Lookup

structure InboxState where
  isLoading : Bool := false
  errorMessage : Option String := none
  conversations : List (BaseItemModel (Managed Conversation)) := []

namespace InboxCubit

/-- `dd/MM/yy`; Realm returns dates with UTC fields. -/
def formatDdMmYy : Option ℤ → String
  | none => ""
  | some t =>
      let date := Gregorian.civil (t / microsecondsPerDay)
      padLeft 2 date.day ++ "/" ++ padLeft 2 date.month ++ "/" ++ padLeft 2 (date.year % 100)

def createConversations (entities : List (Managed Conversation)) :
    List (BaseItemModel (Managed Conversation)) :=
  (entities.filter Managed.isValid).map (fun entity => {
    id := entity.object.id
    imageUrl := entity.object.avatar.getD ""
    title := entity.object.lastMessage.getD ""
    des := formatDdMmYy (entity.object.lastMessageAt <|> entity.object.createdAt)
    tag := "conversation"
    object := some entity })

inductive Task
  | observeData
  | onConversations (results : List (Managed Conversation))

abbrev Reply : Option Empty → Type := WithUser (fun _ => Unit)

def onConversations (results : List (Managed Conversation)) :
    Prog Reply InboxState DartError (List Task) := do
  Prog.emitWith (fun _ => { conversations := createConversations results })
  pure []

def code : Code Reply InboxState DartError Task where
  state := {}
  opening := [.observeData]
  program
    | .observeData => observeUser
    | .onConversations results => lift closedError (onConversations results)
  isMethod _ := false
  isListener
    | .observeData => false
    | .onConversations _ => true
  waits := false

def table : Table Reply DartError Task where
  observes
    | .observeData => true
    | .onConversations _ => false
  emitsAtOnce _ := true
  atOnce _ := .nothing
  emits _ _ _ := false
  effect
    | .observeData, none, reply => if isUser reply then .listen else .nothing
    | _, _, _ => .nothing

end InboxCubit

structure MyPostingsState where
  postings : List (BaseItemModel (Managed Posting)) := []
  isLoading : Bool := false
  errorMessage : Option String := none

namespace MyPostingsCubit

inductive Task
  | observeData
  | onPostings (results : List (Managed Posting))

abbrev Reply : Option Empty → Type := WithUser (fun _ => Unit)

def onPostings (results : List (Managed Posting)) :
    Prog Reply MyPostingsState DartError (List Task) := do
  let postings ← Prog.done (createPostings results)
  Prog.emitWith (fun _ => { postings })
  pure []

/-- `_setUpInitialData` emits before anything is awaited. -/
def code : Code Reply MyPostingsState DartError Task where
  state := { postings := [{ id := "create_a_listing" }] }
  opening := [.observeData]
  program
    | .observeData => observeUser
    | .onPostings results => lift closedError (onPostings results)
  isMethod _ := false
  isListener
    | .observeData => false
    | .onPostings _ => true
  waits := false

def table : Table Reply DartError Task where
  observes
    | .observeData => true
    | .onPostings _ => false
  emitsAtOnce _ := true
  atOnce _ := .nothing
  emits _ _ _ := false
  effect
    | .observeData, none, reply => if isUser reply then .listen else .nothing
    | _, _, _ => .nothing

end MyPostingsCubit

namespace BookingsCubit

inductive Task
  | observeData
  | onPostings (results : List (Managed Posting)) (now : DateTime)
  | selectPosting (isValid : String → Bool) (posting : BaseItemModel (Managed Posting))

/-- Bookings come with the time of the reply. -/
abbrev Reply : Option String → Type := WithUser (fun _ => List (Managed Booking) × DateTime)

def onPostings (results : List (Managed Posting)) (now : DateTime) :
    Prog Reply BookingsState DartError (List Task) := do
  let postings ← Prog.done (createPostings results)
  Prog.emitWith (fun _ => BookingsState.new postings now)
  pure []

def code (z : Zone) (now : DateTime) : Code Reply BookingsState DartError Task where
  state := BookingsState.new [] now
  opening := [.observeData]
  program
    | .observeData => observeUser
    | .onPostings results now => lift closedError (onPostings results now)
    | .selectPosting isValid posting => lift closedError (do
        withUser (selectPosting z isValid posting)
        pure [])
  isMethod
    | .selectPosting .. => true
    | _ => false
  isListener
    | .onPostings .. => true
    | _ => false
  waits := false

def table : Table Reply DartError Task where
  observes
    | .observeData => true
    | _ => false
  emitsAtOnce
    | .onPostings .. => true
    | _ => false
  atOnce _ := .nothing
  emits
    | .selectPosting .., some _, .ok _ => true
    | _, _, _ => false
  effect
    | .observeData, none, reply => if isUser reply then .listen else .nothing
    | _, _, _ => .nothing

end BookingsCubit

structure SavedItemModel extends BaseItemModel (Managed FavouritePosting) where
  price : String := ""
  rating : ℚ := 0
  ratingStr : String := ""
  isFavorite : Bool := false

structure SavedState where
  postings : List SavedItemModel := []
  isLoading : Bool := false

namespace SavedCubit

def favouriteToGridItem (text : DoubleText) (favourite : Managed FavouritePosting)
    (entity : Posting) : SavedItemModel where
  id := favourite.object.id
  imageUrl := entity.images.head?.getD ""
  title := entity.name.getD "NA"
  des := entity.description.getD "NA"
  tag := "posting"
  object := some favourite
  price := (entity.price.map (fun price => "$" ++ text.toStringAsFixed price ++ " / day")).getD ""
  rating := entity.rating.getD 0
  ratingStr := (entity.rating.map text.toString).getD ""
  isFavorite := true

/-- A favourite comes with the posting it is linked to. -/
def favouritesToGridItems (text : DoubleText)
    (results : List (Managed FavouritePosting × Option (Managed Posting))) :
    List SavedItemModel :=
  (results.filter (fun f => f.1.isValid)).filterMap (fun f =>
    match f.2 with
    | some posting =>
        if posting.isValid then some (favouriteToGridItem text f.1 posting.object) else none
    | none => none)

inductive Task
  | observeFavourites
  | onFavourites (results : List (Managed FavouritePosting × Option (Managed Posting)))
  | deleteSavedFavourite (item : SavedItemModel)

/-- The reply to the deletion of a favourite is not read. -/
abbrev Reply : Option String → Type := WithUser (fun _ => Unit)

def showFavouritesOf : Option String → Prog Reply (Owner SavedState) DartError (List Task)
  | none => do
      emit closedError (fun _ => { postings := [], isLoading := false })
      pure []
  | some _ => do
      emit closedError (fun _ => { postings := [], isLoading := true })
      onLife Life.listen
      pure []

def observeFavourites : Prog Reply (Owner SavedState) DartError (List Task) := do
  let userId : Option String ← Prog.call none
  showFavouritesOf userId

def onFavourites (text : DoubleText)
    (results : List (Managed FavouritePosting × Option (Managed Posting))) :
    Prog Reply SavedState DartError (List Task) := do
  Prog.emitWith (fun s =>
    { s with postings := favouritesToGridItems text results, isLoading := false })
  pure []

def deleteSavedFavourite (item : SavedItemModel) : Prog Reply SavedState DartError Unit := do
  Prog.emitWith (fun s => { s with isLoading := true })
  match item.object with
  | none => pure ()
  | some o => do
      Prog.tryCatch
        (if o.isValid then Prog.call (some o.object.id)
          else Prog.done (.error ChatCubit.invalidated))
        (fun _ => pure ())
      Prog.emitWith (fun s => { s with isLoading := false })

def code (text : DoubleText) : Code Reply SavedState DartError Task where
  state := { isLoading := true }
  opening := [.observeFavourites]
  program
    | .observeFavourites => observeFavourites
    | .onFavourites results => lift closedError (onFavourites text results)
    | .deleteSavedFavourite item => lift closedError (do
        deleteSavedFavourite item
        pure [])
  isMethod
    | .deleteSavedFavourite _ => true
    | _ => false
  isListener
    | .onFavourites _ => true
    | _ => false
  waits := true

/-- The user's absence is emitted too, and so is the end of a deletion, whatever its reply. -/
def table : Table Reply DartError Task where
  observes
    | .observeFavourites => true
    | _ => false
  emitsAtOnce _ := true
  atOnce _ := .nothing
  emits
    | .observeFavourites, _, .error _ => false
    | _, _, _ => true
  effect
    | .observeFavourites, none, reply => if isUser reply then .listen else .nothing
    | _, _, _ => .nothing

end SavedCubit

namespace AccountCubit

inductive Task
  | observeData
  | onUser (user : Managed User)
  | changeHost (isValid : Bool)
  | signOut

abbrev LifeReply : Option AccountCall → Type := WithUser AccountReply

def onUser (isInHostMode : Bool) (user : Managed User) :
    Prog LifeReply AccountCubit DartError (List Task) :=
  if user.isValid then do
    Prog.emitWith (showUser isInHostMode user)
    pure []
  else pure []

def leaveCleared : Prog LifeReply AccountCubit DartError (List Task) := do
  withUser (emitCopy { errorMessage := none, isLoading := some true })
  let _ ← withUser leave
  pure []

/-- `cancel` acts at once, the field is emptied after its await. -/
def signOutOwned : Prog LifeReply (Owner AccountCubit) DartError (List Task) := do
  onLife Life.cancel
  let _ : Unit ← Prog.call (some AccountCall.cancelSubscription)
  onLife Life.forget
  lift closedError leaveCleared

def code (isInHostMode : Bool) : Code LifeReply AccountCubit DartError Task where
  state := {}
  opening := [.observeData]
  program
    | .observeData => observeUser
    | .onUser user => lift closedError (onUser isInHostMode user)
    | .changeHost isValid => lift closedError (do
        let _ ← withUser (changeHost isInHostMode isValid)
        pure [])
    | .signOut => signOutOwned
  isMethod
    | .changeHost _ => true
    | .signOut => true
    | _ => false
  isListener
    | .onUser _ => true
    | _ => false
  waits := true
  forgets := true

/-- Only when the cancellation fails nothing more is emitted. -/
def table : Table LifeReply DartError Task where
  observes
    | .observeData => true
    | _ => false
  emitsAtOnce
    | .onUser _ => true
    | .changeHost _ => true
    | _ => false
  atOnce
    | .signOut => .cancel
    | _ => .nothing
  emits
    | .changeHost _, _, _ => true
    | .signOut, some .cancelSubscription, .error _ => false
    | .signOut, _, _ => true
    | _, _, _ => false
  effect
    | .observeData, none, reply => if isUser reply then .listen else .nothing
    | .signOut, some .cancelSubscription, .ok _ => .forget
    | _, _, _ => .nothing

end AccountCubit

/-- The fields of the chat's cubit; `userId` is what the listener has captured. -/
structure ChatFields where
  state : ChatState
  userId : Option String := none
  inFlightSenderIds : Finset String := ∅

namespace ChatCubit

inductive Task
  | observeMessages
  | onMessages (results : List LinkedMessage)
  | loadSender (id : String)
  | sendMessage (text : String)

def showConversation (conv : Conversation) (userId : Option String) (f : ChatFields) :
    ChatFields :=
  { f with state := { f.state with
      currentUserId := userId <|> f.state.currentUserId
      conversationName := conv.name.getD f.state.conversationName } }

def observeConversation (conv : Conversation) (userId : Option String) :
    Prog Reply (Owner ChatFields) DartError (List Task) := do
  emit closedError (showConversation conv userId)
  onState (fun f => { f with userId })
  onLife Life.listen
  pure []

def observeMessages (conv : Managed Conversation) :
    Prog Reply (Owner ChatFields) DartError (List Task) := do
  let userId : Option String ← Await.userId
  if conv.isValid then observeConversation conv.object userId
  else Prog.done (.error invalidated)

def showMessages (results : List LinkedMessage) (f : ChatFields) : ChatFields :=
  { f with state := { f.state with
      messages := messagesToItems results (f.state.currentUserId <|> f.userId)
      isLoading := false } }

/-- The only function that asks whether the cubit is closed. -/
def onMessages (results : List LinkedMessage) :
    Prog Reply (Owner ChatFields) DartError (List Task) := do
  let o ← Prog.state
  if o.life.isClosed then pure []
  else do
    emit closedError (showMessages results)
    let ids := toFetch o.state.inFlightSenderIds results
    onState (fun f => { f with inFlightSenderIds := f.inFlightSenderIds ∪ ids.toFinset })
    pure (ids.map .loadSender)

def loadSender (id : String) : Prog Reply (Owner ChatFields) DartError (List Task) := do
  Prog.tryCatch (do let _ ← Await.getUser id; pure ()) (fun _ => pure ())
  onState (fun f => { f with inFlightSenderIds := f.inFlightSenderIds.erase id })
  pure []

/-- Irreducible, as evaluation would get stuck in `trim`. -/
@[irreducible] def send (conversation : Option (Managed Conversation)) (text : String) :
    Prog Reply ChatFields DartError (List Task) := do
  sendMessage conversation text
  pure []

/-- Without a conversation there is nothing to observe. -/
def code (conversation : Option (Managed Conversation)) : Code Reply ChatFields DartError Task where
  state := { state := {
    conversationName := (conversation.bind (fun conv => conv.object.name)).getD ""
    isLoading := conversation.isSome } }
  opening := if conversation.isSome then [.observeMessages] else []
  program
    | .observeMessages =>
        match conversation with
        | some conv => observeMessages conv
        | none => pure []
    | .onMessages results => onMessages results
    | .loadSender id => loadSender id
    | .sendMessage text => lift closedError (send conversation text)
  isMethod
    | .sendMessage _ => true
    | _ => false
  isListener
    | .onMessages _ => true
    | _ => false
  waits := false
  clear f := { f with inFlightSenderIds := ∅ }

/-- The subscription is opened after an emit. -/
def table (conversation : Option (Managed Conversation)) : Table Reply DartError Task where
  observes
    | .observeMessages => true
    | _ => false
  emitsAtOnce _ := false
  atOnce _ := .nothing
  emits
    | .observeMessages, .userId, .ok _ => conversation.any Managed.isValid
    | _, _, _ => false
  effect
    | .observeMessages, .userId, .ok _ =>
        if conversation.any Managed.isValid then .listen else .nothing
    | _, _, _ => .nothing

end ChatCubit

namespace ViewPostingCubit

inductive Task
  | lookUpUser
  | lookUpFavourite (userId : String)
  | lookUpBookings (userId : String)
  | onReviews (results : List (Managed Review × Option (Managed User)))
  | setReviewRating (value : ℚ)
  | selectedMarker
  | hideAddress
  | updateBookingTimeMap (map : DartMap DateTime)
  | toggleFavourite
  | submitReview (comment : Option String)

section Code

variable (z : Zone) (text : DoubleText) (posting : Managed Posting) (host : Option User)

def lookUpUserTask : ViewM (List Task) := do
  let userId : Option String ← await .userId
  Prog.emitWith (fun s => s.copyWith { isHost := some (decide (userId = posting.object.hostId)) })
  match userId with
  | none => pure []
  | some userId => pure [.lookUpFavourite userId, .lookUpBookings userId]

/-- The timer starts once the address is emitted. -/
def showMarker : Prog ViewReply (Owner ViewPostingState) DartError (List Task) := do
  emit closedError (showAddress (posting.object.address.getD ""))
  onLife Life.startTimer
  pure []

def selectMarker : Prog ViewReply (Owner ViewPostingState) DartError (List Task) :=
  if posting.isValid then do
    onLife Life.cancelTimer
    showMarker posting
  else pure []

/-- The functions of the cubit that do nothing but emit and call. -/
def plain : Task → ViewM (List Task)
  | .lookUpUser => lookUpUserTask posting
  | .lookUpFavourite userId => do
      lookUpFavourite posting userId
      pure []
  | .lookUpBookings userId => do
      lookUpBookings posting userId
      pure []
  | .onReviews results => do
      Prog.emitWith (showReviews results)
      pure []
  | .setReviewRating value => do
      Prog.emitWith (ViewPostingCubit.setReviewRating value)
      pure []
  | .selectedMarker => pure []
  | .hideAddress => do
      Prog.emitWith (showAddress "")
      pure []
  | .updateBookingTimeMap map => do
      Prog.emitWith (ViewPostingCubit.updateBookingTimeMap map)
      pure []
  | .toggleFavourite => do
      ViewPostingCubit.toggleFavourite z posting
      pure []
  | .submitReview comment => do
      ViewPostingCubit.submitReview posting comment
      pure []

/-- The constructor opens the subscription itself, and only for a posting that can be shown. -/
def code : Code ViewReply ViewPostingState DartError Task where
  state := if isPostingValid posting.object then shown text posting.object host else {}
  life := if isPostingValid posting.object then Life.listen {} else {}
  opening := if isPostingValid posting.object then [.lookUpUser] else []
  program
    | .selectedMarker => selectMarker posting
    | t => lift closedError (plain z posting t)
  isMethod
    | .setReviewRating _ => true
    | .selectedMarker => true
    | .updateBookingTimeMap _ => true
    | .toggleFavourite => true
    | .submitReview _ => true
    | _ => false
  isListener
    | .onReviews _ => true
    | _ => false
  onTimer := some .hideAddress
  waits := true
  cancelsTimer := true

/-- The lookups and the creation of a favourite are emitted unless they fail. -/
def table : Table ViewReply DartError Task where
  observes _ := false
  emitsAtOnce
    | .onReviews _ => true
    | .setReviewRating _ => true
    | .selectedMarker => posting.isValid
    | .hideAddress => true
    | .updateBookingTimeMap _ => true
    | _ => false
  atOnce
    | .selectedMarker => if posting.isValid then .startTimer else .nothing
    | _ => .nothing
  emits
    | .lookUpUser, .userId, .ok _ => true
    | .lookUpFavourite _, .getFavouritePosting .., .ok _ => true
    | .lookUpBookings _, .getBookingsForPosting .., .ok _ => true
    | .toggleFavourite, .createFavouritePosting _, .ok _ => true
    | _, _, _ => false
  effect _ _ _ := .nothing

end Code

end ViewPostingCubit

section Descriptions

theorem obeys_observeUser {Op σ Task : Type} {Reply : Op → Type} {t : Task}
    {table : Table (WithUser Reply) DartError Task}
    (h : ∀ reply, table.effect t none reply = if isUser reply then .listen else .nothing) :
    table.Obeys t (observeUser : Prog (WithUser Reply) (Owner σ) DartError (List Task)) := by
  intro reply
  rw [h]
  obtain e | (_ | userId) := reply
  · exact ⟨trivial, fun _ => segment_of_life Effect.noConfusion rfl⟩
  · exact ⟨startsNone table, fun _ => segment_of_life Effect.noConfusion rfl⟩
  · exact ⟨fun _ => startsNone table, fun _ => .inr ⟨rfl, fun _ => ⟨_, rfl⟩⟩⟩

theorem InboxCubit.describes : InboxCubit.table.Describes InboxCubit.code where
  obeys t := by
    cases t with
    | observeData => exact obeys_observeUser (fun _ => rfl)
    | onConversations results => exact obeys_lift (fun _ => startsNone table)
  callable t ht := by
    cases t with
    | observeData => simp [code] at ht
    | onConversations results => exact callable_lift rfl rfl Bool.noConfusion
  observes t op reply h := by
    cases t with
    | observeData => rfl
    | onConversations results => exact Effect.noConfusion h
  fresh := ⟨rfl, rfl⟩
  held n hn := absurd hn List.not_mem_nil
  opening := by decide

theorem MyPostingsCubit.describes : MyPostingsCubit.table.Describes MyPostingsCubit.code where
  obeys t := by
    cases t with
    | observeData => exact obeys_observeUser (fun _ => rfl)
    | onPostings results => exact obeys_lift (tells_emit_result (createPostings results) _)
  callable t ht := by
    cases t with
    | observeData => simp [code] at ht
    | onPostings results => exact callable_lift rfl rfl Bool.noConfusion
  observes t op reply h := by
    cases t with
    | observeData => rfl
    | onPostings results => exact Effect.noConfusion h
  fresh := ⟨rfl, rfl⟩
  held n hn := absurd hn List.not_mem_nil
  opening := by decide

theorem BookingsCubit.describes (z : Zone) (now : DateTime) :
    BookingsCubit.table.Describes (BookingsCubit.code z now) where
  obeys t := by
    cases t with
    | observeData => exact obeys_observeUser (fun _ => rfl)
    | onPostings results now =>
        exact obeys_lift (tells_emit_result (createPostings results) _)
    | selectPosting isValid posting =>
        apply obeys_lift
        obtain ⟨entity, -, hprogram⟩ | ⟨-, result, hprogram⟩ :=
          BookingsPage.selectPosting_cases (z := z) isValid posting
        · rw [hprogram]
          intro reply
          cases reply with
          | error e => exact ⟨trivial, rfl, fun _ => trivial⟩
          | ok bookings => exact ⟨fun _ => startsNone table, rfl, Bool.noConfusion⟩
        · rw [hprogram]
          cases result with
          | error e => trivial
          | ok u => exact startsNone table
  callable t ht := by
    cases t with
    | observeData => simp [code] at ht
    | onPostings results now => exact callable_lift rfl rfl Bool.noConfusion
    | selectPosting isValid posting =>
        refine callable_lift rfl rfl (fun _ => ?_)
        obtain ⟨entity, -, hprogram⟩ | ⟨-, result, hprogram⟩ :=
          BookingsPage.selectPosting_cases (z := z) isValid posting
        · rw [hprogram]
          trivial
        · rw [hprogram]
          cases result <;> trivial
  observes t op reply h := by
    cases t with
    | observeData => rfl
    | onPostings results now => exact Effect.noConfusion h
    | selectPosting isValid posting => exact Effect.noConfusion h
  fresh := ⟨rfl, rfl⟩
  held n hn := absurd hn List.not_mem_nil
  opening := le_refl 1

theorem SavedCubit.obeys_observeFavourites :
    SavedCubit.table.Obeys .observeFavourites SavedCubit.observeFavourites := by
  intro reply
  obtain e | (_ | userId) := reply
  · exact ⟨trivial, fun _ => segment_of_life Effect.noConfusion rfl⟩
  · have hobeys : table.Obeys .observeFavourites (showFavouritesOf none) :=
      obeys_emit_bind (startsNone table)
    have hsegment (o : Owner SavedState) : Table.Segment true .nothing o (showFavouritesOf none) :=
      segment_emit_bind (fun _ => ⟨rfl, fun h => Effect.noConfusion h⟩) o
    exact ⟨hobeys, hsegment⟩
  · have hobeys : table.Obeys .observeFavourites (showFavouritesOf (some userId)) :=
      obeys_emit_bind (fun _ => startsNone table)
    have hsegment (o : Owner SavedState) :
        Table.Segment true .listen o (showFavouritesOf (some userId)) :=
      segment_emit_bind (fun _ => ⟨rfl, fun _ => ⟨_, rfl⟩⟩) o
    exact ⟨hobeys, hsegment⟩

theorem SavedCubit.describes (text : DoubleText) :
    SavedCubit.table.Describes (SavedCubit.code text) where
  obeys t := by
    cases t with
    | observeFavourites => exact obeys_observeFavourites
    | onFavourites results => exact obeys_lift (fun _ => startsNone table)
    | deleteSavedFavourite item =>
        exact obeys_lift (tells_of_emits _ (fun op reply => by cases op <;> exact ⟨rfl, rfl⟩))
  callable t ht := by
    cases t with
    | observeFavourites => simp [code] at ht
    | onFavourites results => exact callable_lift rfl rfl Bool.noConfusion
    | deleteSavedFavourite item => exact callable_lift rfl rfl Bool.noConfusion
  observes t op reply h := by
    cases t with
    | observeFavourites => rfl
    | onFavourites results => exact Effect.noConfusion h
    | deleteSavedFavourite item => exact Effect.noConfusion h
  fresh := ⟨rfl, rfl⟩
  held n hn := absurd hn List.not_mem_nil
  opening := le_refl 1

theorem AccountCubit.obeys_signOut : AccountCubit.table.Obeys .signOut signOutOwned := by
  have htells : Tells table .signOut leaveCleared := by
    intro c reply
    refine ⟨?_, rfl, Bool.noConfusion⟩
    cases reply <;> exact fun _ => startsNone table
  intro o reply
  obtain e | u := reply
  · exact ⟨trivial, fun _ => segment_of_life Effect.noConfusion rfl⟩
  · refine ⟨fun _ => obeys_lift htells, fun o => ?_⟩
    cases hclosed : o.life.isClosed with
    | true => exact .inl ⟨hclosed, rfl⟩
    | false =>
        have hopen : (⟨o.state, o.life.forget⟩ : Owner AccountCubit).life.isClosed = false :=
          hclosed
        exact segment_of_life Effect.noConfusion (settle_lift_open leaveCleared hopen)

theorem AccountCubit.describes (isInHostMode : Bool) :
    AccountCubit.table.Describes (AccountCubit.code isInHostMode) where
  obeys t := by
    cases t with
    | observeData => exact obeys_observeUser (fun _ => rfl)
    | onUser user =>
        apply obeys_lift
        unfold onUser
        split_ifs
        · exact fun _ => startsNone table
        · exact startsNone table
    | changeHost isValid =>
        refine obeys_lift (tells_of_emits _ (fun op reply => ?_))
        cases op <;> exact ⟨rfl, rfl⟩
    | signOut => exact obeys_signOut
  callable t ht := by
    cases t with
    | observeData => simp [code] at ht
    | onUser user => exact callable_lift rfl rfl Bool.noConfusion
    | changeHost isValid => exact callable_lift rfl rfl Bool.noConfusion
    | signOut =>
        exact ⟨rfl, Effect.noConfusion, Effect.noConfusion,
          fun _ => segment_of_life Effect.noConfusion rfl⟩
  observes t op reply h := by
    cases t with
    | observeData => rfl
    | onUser user => exact Effect.noConfusion h
    | changeHost isValid => exact Effect.noConfusion h
    | signOut =>
        obtain _ | (_ | _ | _) := op
        · exact Effect.noConfusion h
        · cases reply <;> exact Effect.noConfusion h
        · exact Effect.noConfusion h
        · exact Effect.noConfusion h
  fresh := ⟨rfl, rfl⟩
  held n hn := absurd hn List.not_mem_nil
  opening := le_refl 1

theorem ChatCubit.obeys_observeMessages (conv : Managed Conversation) :
    (ChatCubit.table (some conv)).Obeys .observeMessages (observeMessages conv) := by
  intro reply
  obtain ⟨conv, isValid⟩ := conv
  obtain e | userId := reply
  · exact ⟨trivial, fun _ => segment_of_life Effect.noConfusion rfl⟩
  · cases isValid with
    | false => exact ⟨trivial, fun _ => segment_of_life Effect.noConfusion rfl⟩
    | true =>
        have hobeys : (table (some ⟨conv, true⟩)).Obeys .observeMessages
            (observeConversation conv userId) :=
          obeys_emit_bind (fun _ _ => startsNone _)
        have hsegment (o : Owner ChatFields) :
            Table.Segment true .listen o (observeConversation conv userId) :=
          segment_emit_bind (fun _ => ⟨rfl, fun _ => ⟨_, rfl⟩⟩) o
        exact ⟨hobeys, hsegment⟩

variable {conversation : Option (Managed Conversation)}

theorem ChatCubit.obeys_onMessages (results : List LinkedMessage) :
    (ChatCubit.table conversation).Obeys (.onMessages results) (onMessages results) := by
  intro o
  change Table.Obeys _ _ (if o.life.isClosed = true then _ else _)
  split_ifs
  · exact startsNone _
  · refine obeys_emit_bind (fun _ t ht => ?_)
    obtain ⟨id, -, rfl⟩ := List.mem_map.mp ht
    rfl

theorem ChatCubit.segment_onMessages (results : List LinkedMessage) (o : Owner ChatFields) :
    Table.Segment false .nothing o (onMessages results) := by
  refine segment_of_life Effect.noConfusion ?_
  change (Prog.settle (if o.life.isClosed = true then _ else _) o).2.life = _
  cases hclosed : o.life.isClosed with
  | true => rfl
  | false =>
      rw [if_neg Bool.false_ne_true, settle_emit_bind_open hclosed]
      rfl

theorem ChatCubit.tells_send (text : String) :
    Tells (ChatCubit.table conversation) (.sendMessage text) (send conversation text) := by
  have hdone := startsNone (table conversation)
  unfold send sendMessage
  dsimp only
  generalize trim text = trimmed
  split_ifs
  · exact hdone
  · obtain _ | ⟨conv, isValid⟩ := conversation
    · exact hdone
    · intro reply
      obtain e | (_ | userId) := reply
      · exact ⟨trivial, rfl, fun _ => trivial⟩
      · exact ⟨hdone, rfl, fun _ => trivial⟩
      · cases isValid with
        | false => exact ⟨trivial, rfl, fun _ => trivial⟩
        | true =>
            refine ⟨fun reply => ?_, rfl, fun _ => trivial⟩
            obtain e | now := reply
            · exact ⟨trivial, rfl, fun _ => trivial⟩
            · refine ⟨fun reply => ?_, rfl, fun _ => trivial⟩
              cases reply with
              | error e => exact ⟨trivial, rfl, fun _ => trivial⟩
              | ok message => exact ⟨hdone, rfl, fun _ => trivial⟩

theorem ChatCubit.segment_send (text : String) (o : Owner ChatFields) :
    Table.Segment false .nothing o (lift closedError (send conversation text)) := by
  refine segment_lift (fun _ => ?_) o
  unfold send sendMessage
  dsimp only
  generalize trim text = trimmed
  split_ifs
  · trivial
  · cases conversation <;> trivial

theorem ChatCubit.describes :
    (ChatCubit.table conversation).Describes (ChatCubit.code conversation) where
  obeys t := by
    cases t with
    | observeMessages =>
        cases conversation with
        | none => exact startsNone _
        | some conv => exact obeys_observeMessages conv
    | onMessages results => exact obeys_onMessages results
    | loadSender id =>
        intro reply
        cases reply <;>
          exact ⟨fun _ => startsNone _, fun _ => segment_of_life Effect.noConfusion rfl⟩
    | sendMessage text =>
        have hsend : (table conversation).Obeys (.sendMessage text)
            (lift closedError (send conversation text)) := obeys_lift (tells_send text)
        exact hsend
  callable t ht := by
    cases t with
    | observeMessages => simp [code] at ht
    | onMessages results =>
        exact ⟨rfl, Effect.noConfusion, Effect.noConfusion, segment_onMessages results⟩
    | loadSender id => simp [code] at ht
    | sendMessage text =>
        exact ⟨rfl, Effect.noConfusion, Effect.noConfusion, segment_send text⟩
  observes t op reply h := by
    cases t with
    | observeMessages => rfl
    | onMessages results => exact Effect.noConfusion h
    | loadSender id => exact Effect.noConfusion h
    | sendMessage text => exact Effect.noConfusion h
  fresh := ⟨rfl, rfl⟩
  held n hn := absurd hn List.not_mem_nil
  opening := by
    cases conversation with
    | none => exact Nat.zero_le 1
    | some conv => exact le_refl 1

section Viewing

variable (z : Zone) (text : DoubleText) (posting : Managed Posting) (host : Option User)

theorem ViewPostingCubit.lookUpUser_eq : lookUpUser posting = (do
    let tasks ← lookUpUserTask posting
    pure (tasks.map fun
      | .lookUpFavourite userId => lookUpFavourite posting userId
      | .lookUpBookings userId => lookUpBookings posting userId
      | _ => pure ())) := by
  refine congrArg (Prog.await ViewCall.userId) (funext fun reply => ?_)
  obtain e | (_ | userId) := reply <;> rfl

theorem ViewPostingCubit.tells_toggleFavourite : Tells (ViewPostingCubit.table posting)
    .toggleFavourite (plain z posting .toggleFavourite) := by
  have hdone := startsNone (table posting)
  obtain ⟨posting, isValid⟩ := posting
  intro s
  change Tells _ _ (Prog.bind (if s.isHost = true ∨ s.isFavorite = true then _ else _) _)
  by_cases hset : s.isHost = true ∨ s.isFavorite = true
  · rw [if_pos hset]
    exact hdone
  · rw [if_neg hset]
    intro reply
    obtain e | (_ | userId) := reply
    · exact ⟨trivial, rfl, fun _ => trivial⟩
    · exact ⟨hdone, rfl, fun _ => trivial⟩
    · cases isValid with
      | false => exact ⟨trivial, rfl, fun _ => trivial⟩
      | true =>
          refine ⟨fun reply => ?_, rfl, fun _ => trivial⟩
          obtain e | now := reply
          · exact ⟨trivial, rfl, fun _ => trivial⟩
          · refine ⟨fun reply => ?_, rfl, fun _ => trivial⟩
            cases reply with
            | error e => exact ⟨trivial, rfl, fun _ => trivial⟩
            | ok favourite => exact ⟨fun _ => hdone, rfl, Bool.noConfusion⟩

theorem ViewPostingCubit.still_toggleFavourite : Still (plain z posting .toggleFavourite) := by
  intro s
  change Still (Prog.bind (if s.isHost = true ∨ s.isFavorite = true then _ else _) _)
  by_cases hset : s.isHost = true ∨ s.isFavorite = true
  · rw [if_pos hset]
    trivial
  · rw [if_neg hset]
    trivial

theorem ViewPostingCubit.tells_submitReview (comment : Option String) :
    Tells (ViewPostingCubit.table posting) (.submitReview comment)
      (plain z posting (.submitReview comment)) := by
  have hdone := startsNone (table posting)
  obtain ⟨posting, isValid⟩ := posting
  cases comment with
  | none => exact hdone
  | some comment =>
      intro reply
      obtain e | (_ | userId) := reply
      · exact ⟨trivial, rfl, fun _ => trivial⟩
      · exact ⟨hdone, rfl, fun _ => trivial⟩
      · cases isValid with
        | false => exact ⟨hdone, rfl, fun _ => trivial⟩
        | true =>
            refine ⟨fun _ reply => ?_, rfl, fun _ _ => trivial⟩
            obtain e | now := reply
            · exact ⟨trivial, rfl, fun _ => trivial⟩
            · refine ⟨fun reply => ?_, rfl, fun _ => trivial⟩
              cases reply with
              | error e => exact ⟨trivial, rfl, fun _ => trivial⟩
              | ok review => exact ⟨hdone, rfl, fun _ => trivial⟩

theorem ViewPostingCubit.tells_plain (t : Task) :
    Tells (ViewPostingCubit.table posting) t (plain z posting t) := by
  have hdone := startsNone (table posting)
  cases t with
  | lookUpUser =>
      intro reply
      obtain e | (_ | userId) := reply
      · exact ⟨trivial, rfl, fun _ => trivial⟩
      · exact ⟨fun _ => hdone, rfl, Bool.noConfusion⟩
      · exact ⟨fun _ _ _ => rfl, rfl, Bool.noConfusion⟩
  | lookUpFavourite userId =>
      intro reply
      cases reply with
      | error e => exact ⟨trivial, rfl, fun _ => trivial⟩
      | ok favourite => exact ⟨fun _ => hdone, rfl, Bool.noConfusion⟩
  | lookUpBookings userId =>
      intro reply
      cases reply with
      | error e => exact ⟨trivial, rfl, fun _ => trivial⟩
      | ok bookings => exact ⟨fun _ => hdone, rfl, Bool.noConfusion⟩
  | onReviews results => exact fun _ => hdone
  | setReviewRating value => exact fun _ => hdone
  | selectedMarker => exact hdone
  | hideAddress => exact fun _ => hdone
  | updateBookingTimeMap map => exact fun _ => hdone
  | toggleFavourite => exact tells_toggleFavourite z posting
  | submitReview comment => exact tells_submitReview z posting comment

theorem ViewPostingCubit.obeys_selectMarker :
    (ViewPostingCubit.table posting).Obeys .selectedMarker (selectMarker posting) := by
  unfold selectMarker
  split_ifs
  · exact fun _ => obeys_emit_bind (fun _ => startsNone _)
  · exact startsNone _

theorem ViewPostingCubit.segment_selectMarker (o : Owner ViewPostingState) :
    Table.Segment posting.isValid (if posting.isValid then .startTimer else .nothing) o
      (selectMarker posting) := by
  unfold selectMarker
  cases posting.isValid with
  | false => exact segment_of_life Effect.noConfusion rfl
  | true =>
      have hmarker (o : Owner ViewPostingState) : Table.Segment true .startTimer o
          (showMarker posting) :=
        segment_emit_bind (fun _ => ⟨rfl, fun h => Effect.noConfusion h⟩) o
      exact hmarker ⟨o.state, o.life.cancelTimer⟩

theorem ViewPostingCubit.describes :
    (ViewPostingCubit.table posting).Describes (ViewPostingCubit.code z text posting host) where
  obeys t := by
    have hplain : (table posting).Obeys t (lift closedError (plain z posting t)) :=
      obeys_lift (tells_plain z posting t)
    cases t with
    | selectedMarker => exact obeys_selectMarker posting
    | _ => exact hplain
  callable t ht := by
    cases t with
    | lookUpUser | lookUpFavourite userId | lookUpBookings userId => simp [code] at ht
    | selectedMarker =>
        refine ⟨rfl, ?_, ?_, segment_selectMarker posting⟩ <;>
          exact fun h => by cases hvalid : posting.isValid <;> simp [table, hvalid] at h
    | onReviews results | setReviewRating value | hideAddress | updateBookingTimeMap map =>
        exact callable_lift rfl rfl Bool.noConfusion
    | toggleFavourite => exact callable_lift rfl rfl (fun _ => still_toggleFavourite z posting)
    | submitReview comment =>
        refine callable_lift rfl rfl (fun _ => ?_)
        cases comment <;> trivial
  observes t op reply h := Effect.noConfusion h
  fresh := by
    unfold code
    dsimp only
    split_ifs <;> exact ⟨rfl, rfl⟩
  held := by
    unfold code
    dsimp only
    split_ifs
    · intro n hn
      cases List.mem_singleton.mp hn
      rfl
    · exact fun n hn => absurd hn List.not_mem_nil
  opening := by
    unfold code
    dsimp only
    split_ifs
    · exact le_refl 1
    · exact Nat.zero_le 1

end Viewing

end Descriptions

/-- After its end the cubit is silent in every run in which no answer comes too late. -/
def ClosesSilently {Op σ Task : Type} {Reply : Op → Type} (code : Code Reply σ DartError Task)
    (table : Table Reply DartError Task) : Prop :=
  ∀ events, Execution.StepsMeet (Running.step code) (table.Quiet code) code.start events →
    Execution.Always (Running.step code) Running.Silent code.start events

/-- The seven cubits are silent after their end, in whichever order it comes with their calls and
events, provided that no answer comes too late by their tables. -/
theorem closed_cubits_silent (z : Zone) (text : DoubleText) (now : DateTime) (isInHostMode : Bool)
    (conversation : Option (Managed Conversation)) (posting : Managed Posting)
    (host : Option User) :
    ClosesSilently InboxCubit.code InboxCubit.table ∧
    ClosesSilently MyPostingsCubit.code MyPostingsCubit.table ∧
    ClosesSilently (BookingsCubit.code z now) BookingsCubit.table ∧
    ClosesSilently (SavedCubit.code text) SavedCubit.table ∧
    ClosesSilently (AccountCubit.code isInHostMode) AccountCubit.table ∧
    ClosesSilently (ChatCubit.code conversation) (ChatCubit.table conversation) ∧
    ClosesSilently (ViewPostingCubit.code z text posting host) (ViewPostingCubit.table posting) :=
  ⟨silent_of_quiet InboxCubit.describes, silent_of_quiet MyPostingsCubit.describes,
    silent_of_quiet (BookingsCubit.describes z now), silent_of_quiet (SavedCubit.describes text),
    silent_of_quiet (AccountCubit.describes isInHostMode), silent_of_quiet ChatCubit.describes,
    silent_of_quiet (ViewPostingCubit.describes z text posting host)⟩

def onlyUser {Op : Type} {Reply : Op → Type} :
    (op : Option Op) → Except DartError (WithUser Reply op)
  | none => .ok (some "u1")
  | some _ => .error .unavailable

/-- The inbox is closed while it listens. -/
theorem closed_inbox_silent :
    Execution.Always (Running.step InboxCubit.code) Running.Silent InboxCubit.code.start
      [.answer 0 onlyUser, .stream 0 (.onConversations []), .close] := by
  refine (closed_cubits_silent Zone.utc wholeText (.utc 0) false none ⟨lakeVilla, true⟩ none).1 _ ?_
  refine Execution.stepsMeet_cons ?_ rfl (Execution.stepsMeet_cons trivial rfl
    (Execution.stepsMeet_cons trivial rfl trivial))
  rintro t op k hpending
  cases hpending
  exact ⟨fun hclosed => Bool.noConfusion hclosed, fun _ => ⟨rfl, rfl⟩,
    fun h => Effect.noConfusion h⟩

def chatUser : (op : Call) → Except DartError (Reply op)
  | .userId => .ok (some "u1")
  | _ => .error .unavailable

def viewUser : (op : ViewCall) → Except DartError (ViewReply op)
  | .userId => .ok (some "u1")
  | _ => .error .unavailable

def lakeChat : Managed Conversation := ⟨⟨"c1", {"u1", "h1"}, none, none, none, none, none⟩, true⟩

def describedVilla : Managed Posting := ⟨{ lakeVilla with description := some "By the lake" }, true⟩

/-- Each cubit is closed while it awaits the user's id. Four of them open a subscription
afterwards that nothing cancels, the others emit. -/
theorem late_user_breaks_silence :
    ¬ Execution.Always (Running.step InboxCubit.code) Running.Silent InboxCubit.code.start
      [.close, .answer 0 onlyUser] ∧
    ¬ Execution.Always (Running.step MyPostingsCubit.code) Running.Silent
      MyPostingsCubit.code.start [.close, .answer 0 onlyUser] ∧
    ¬ Execution.Always (Running.step (BookingsCubit.code Zone.utc (.utc 0))) Running.Silent
      (BookingsCubit.code Zone.utc (.utc 0)).start [.close, .answer 0 onlyUser] ∧
    ¬ Execution.Always (Running.step (SavedCubit.code wholeText)) Running.Silent
      (SavedCubit.code wholeText).start [.close, .cancelled true, .answer 0 onlyUser] ∧
    ¬ Execution.Always (Running.step (AccountCubit.code false)) Running.Silent
      (AccountCubit.code false).start [.close, .cancelled true, .answer 0 onlyUser] ∧
    ¬ Execution.Always (Running.step (ChatCubit.code (some lakeChat))) Running.Silent
      (ChatCubit.code (some lakeChat)).start [.close, .answer 0 chatUser] ∧
    ¬ Execution.Always
      (Running.step (ViewPostingCubit.code Zone.utc wholeText describedVilla none)) Running.Silent
      (ViewPostingCubit.code Zone.utc wholeText describedVilla none).start
      [.close, .cancelled true, .answer 0 viewUser] := by
  refine ⟨fun h => ?_, fun h => ?_, fun h => ?_, fun h => ?_, fun h => ?_, fun h => ?_, fun h => ?_⟩
  · exact absurd ((h.final rfl) rfl).1 (List.cons_ne_nil _ _)
  · exact absurd ((h.final rfl) rfl).1 (List.cons_ne_nil _ _)
  · exact absurd ((h.final rfl) rfl).1 (List.cons_ne_nil _ _)
  · exact absurd ((h.final rfl) rfl).2 Bool.false_ne_true.symm
  · exact absurd ((h.final rfl) rfl).1 (List.cons_ne_nil _ _)
  · exact absurd ((h.final rfl) rfl).2 Bool.false_ne_true.symm
  · exact absurd ((h.final rfl) rfl).2 Bool.false_ne_true.symm

end AirBnbClone
