import AirBnbClone.ClosedCubits
import AirBnbClone.LinkCoherence
import AirBnbClone.LiveLists

/-!
# What the items of a list take from linked objects

An item of the Saved list shows the posting of a favourite, one of a review list the user who wrote
the review. Both read a link of the local database. The lists themselves fetch neither postings nor
users: a favourite whose posting is not stored is left out, and a review whose user is not stored
is shown as that of a guest.
-/

namespace AirBnbClone

open Debounce FireStoreService RealmService RealmRelationshipRegistry

namespace RealmService

def linkedObject (r : Realm) (rel : RealmRelationship) (S : Model) (e : Entity S) :
    Option (Entity rel.model) :=
  (r.find S (Entity.id S e)).bind (fun row =>
    (row.links rel.relationshipProperty).bind (getEntity r rel.model))

def referenced (r : Realm) (rel : RealmRelationship) (S : Model) (e : Entity S) :
    Option (Entity rel.model) :=
  (Entity.foreignKey S e rel.relationKey).bind (fun key =>
    if key = "" then none else getEntity r rel.model key)

theorem linkedObject_eq {r : Realm} (hr : Coherent r) {S : Model} {rel : RealmRelationship}
    (hrel : rel ∈ getOutgoingRelationships S) {e : Entity S}
    (he : getEntity r S (Entity.id S e) = some e) :
    linkedObject r rel S e = referenced r rel S e := by
  obtain ⟨row, hrow, rfl⟩ := Option.map_eq_some_iff.mp he
  unfold linkedObject referenced
  rw [hrow, Option.bind_some, hr S _ row hrow rel hrel, resolvedLink]
  cases Entity.foreignKey S row.entity rel.relationKey with
  | none => rfl
  | some key =>
      dsimp only
      rw [Option.bind_some]
      by_cases hkey : key = ""
      · simp [hkey]
      · cases hfind : r.find rel.model key with
        | none => simp [hkey, getEntity, hfind]
        | some row => simp [hkey, getEntity, hfind]

end RealmService

/-- A row of the local results is stored. -/
theorem ObservedQuery.getEntity_of_shown {q : ObservedQuery} {r : Realm} {e : Entity q.model}
    (h : e ∈ q.shown r) : getEntity r q.model (Entity.id q.model e) = some e := by
  have hmem := (q.shown_perm r).mem_iff.mp h
  exact (Realm.mem_entities_iff e).mp (List.mem_filter.mp hmem).1

namespace ListScreen

section Store

variable {z : Zone} {screen : ListScreen} {r : Realm}

theorem coherent_onDocChanges {T : Model} (hr : Coherent r) (changes : List DocumentChange) :
    Coherent (onDocChanges z T changes r) := by
  fun_induction onDocChanges z T changes r with
  | case1 r => exact hr
  | case2 r _ _ _ e _ ih => exact ih (coherent_createUnawaited hr e)
  | case3 r => exact hr
  | case4 r _ _ _ e _ ih => exact ih (coherent_createUnawaited hr e)
  | case5 r => exact hr
  | case6 r _ _ ih => exact ih (coherent_deleteEntity hr _)

theorem coherent_handle {T : Model} {s : Sync} (hs : Coherent s.realm) (event : SyncEvent) :
    Coherent (Sync.handle z T s event).realm := by
  cases event with
  | snapshot result changes => exact coherent_onDocChanges hs changes
  | other event => exact coherent_events hs [event]

theorem coherent_after (hr : Coherent r) (events : List (Timed SyncEvent)) :
    Coherent (screen.after z r events).realm := by
  unfold after
  generalize events.map Timed.value = values
  have hfold : ∀ s : Sync, Coherent s.realm →
      Coherent (values.foldl (Sync.handle z screen.query.model) s).realm := by
    induction values with
    | nil => exact fun s hs => hs
    | cons event values ih => exact fun s hs => ih _ (coherent_handle hs event)
  exact hfold ⟨∅, r⟩ hr

end Store

def linkedPosting (r : Realm) (f : FavouritePosting) : Option Posting :=
  linkedObject r ⟨.posting, "postingId", "posting"⟩ .favouritePosting f

def namedPosting (r : Realm) (f : FavouritePosting) : Option Posting :=
  referenced r ⟨.posting, "postingId", "posting"⟩ .favouritePosting f

def linkedUser (r : Realm) (review : Review) : Option User :=
  linkedObject r ⟨.user, "userId", "user"⟩ .review review

def namedUser (r : Realm) (review : Review) : Option User :=
  referenced r ⟨.user, "userId", "user"⟩ .review review

def favourites (userId : String) (r : Realm) : List FavouritePosting :=
  (ObservedQuery.favouritePostings userId).shown r

def reviewsOf (targetType targetId : String) (r : Realm) : List Review :=
  (ObservedQuery.reviews (.forTarget targetType targetId)).shown r

def linkedFavourite (r : Realm) (f : FavouritePosting) :
    Managed FavouritePosting × Option (Managed Posting) :=
  (Device.valid f, (linkedPosting r f).map Device.valid)

def linkedReview (r : Realm) (review : Review) : Managed Review × Option (Managed User) :=
  (Device.valid review, (linkedUser r review).map Device.valid)

def savedItems (text : DoubleText) (userId : String) (r : Realm) : List SavedItemModel :=
  SavedCubit.favouritesToGridItems text ((favourites userId r).map (linkedFavourite r))

def reviewItems (targetType targetId : String) (r : Realm) : List ReviewItemModel :=
  ViewPostingCubit.reviewsToItems ((reviewsOf targetType targetId r).map (linkedReview r))

def savedItem (text : DoubleText) (r : Realm) (f : FavouritePosting) : Option SavedItemModel :=
  (namedPosting r f).map (SavedCubit.favouriteToGridItem text (Device.valid f))

def reviewItem (r : Realm) (review : Review) : ReviewItemModel where
  id := review.id
  rating := review.rating
  title := ViewPostingCubit.reviewerDisplayName ((namedUser r review).map Device.valid)
  des := review.comment.getD ""
  imageUrl := ((namedUser r review).bind User.imageUrl).getD ""
  tag := "review"
  object := some (Device.valid review)

section Items

variable {r : Realm} {text : DoubleText} {userId targetType targetId : String}

theorem linkedPosting_eq (hr : Coherent r) {f : FavouritePosting} (hf : f ∈ favourites userId r) :
    linkedPosting r f = namedPosting r f := by
  have hstored : getEntity r .favouritePosting f.id = some f := ObservedQuery.getEntity_of_shown hf
  exact linkedObject_eq hr (by decide) hstored

theorem linkedUser_eq (hr : Coherent r) {review : Review}
    (hreview : review ∈ reviewsOf targetType targetId r) :
    linkedUser r review = namedUser r review := by
  have hstored : getEntity r .review review.id = some review :=
    ObservedQuery.getEntity_of_shown hreview
  exact linkedObject_eq hr (by decide) hstored

theorem savedItems_eq (hr : Coherent r) :
    savedItems text userId r = (favourites userId r).filterMap (savedItem text r) := by
  have hvalid : ((favourites userId r).map (linkedFavourite r)).filter (fun f => f.1.isValid) =
      (favourites userId r).map (linkedFavourite r) :=
    List.filter_eq_self.mpr (List.forall_mem_map.mpr fun _ _ => rfl)
  unfold savedItems SavedCubit.favouritesToGridItems
  rw [hvalid, List.filterMap_map]
  apply List.filterMap_congr
  intro f hf
  unfold savedItem linkedFavourite
  rw [Function.comp_apply, linkedPosting_eq hr hf]
  cases namedPosting r f <;> rfl

theorem reviewItems_eq (hr : Coherent r) : reviewItems targetType targetId r =
    (reviewsOf targetType targetId r).map (reviewItem r) := by
  have hvalid : ((reviewsOf targetType targetId r).map (linkedReview r)).filter
      (fun review => review.1.isValid) = (reviewsOf targetType targetId r).map (linkedReview r) :=
    List.filter_eq_self.mpr (List.forall_mem_map.mpr fun _ _ => rfl)
  unfold reviewItems ViewPostingCubit.reviewsToItems
  rw [hvalid, List.map_map]
  apply List.map_congr_left
  intro review hreview
  unfold reviewItem linkedReview
  rw [Function.comp_apply, linkedUser_eq hr hreview]
  cases namedUser r review <;> rfl

end Items

end ListScreen

/-- A device with an open list. `earlier` is what its functions have done to the local database
before. -/
structure ListReader where
  zone : Zone
  earlier : List StoreOp
  debounce : Operator
  events : List (Timed SyncEvent)
  notices : List (Timed Unit)

namespace ListReader

open ListScreen

variable (d : ListReader) (screen : ListScreen)

def realm : Realm := d.earlier.foldl StoreOp.apply Realm.empty

def storeAt (t : ℕ) : Realm := screen.storeAt d.zone d.realm d.events t

def finalStore : Realm := (screen.after d.zone d.realm d.events).realm

/-- The list has caught up with the documents: all that it had at first has come since, and what
other functions wrote has left its rows as they are. Its listeners have been told of whatever
changed what they see. -/
structure Settled {β : Type} (view : Realm → β) (docs : DartMap Doc) : Prop where
  allCame : screen.AllCame d.realm d.events
  inOrder : InOrder d.events ∧ InOrder d.notices
  orderly : Execution.StepsMeet (Sync.step d.zone screen.query.model)
    (screen.query.Orderly d.zone) ⟨∅, d.realm⟩ (d.events.map Timed.value)
  received : (screen.after d.zone d.realm d.events).shown = screen.query.remote.build.results docs
  notified : NotifiedOf d.zone screen d.realm view d.events d.notices

variable {d screen} {β : Type} {view : Realm → β} {docs : DartMap Doc} {n : Timed Unit}

/-- What is seen half a second after the last notice is what the final local database gives. -/
theorem Settled.heard (h : d.Settled screen view docs) (hn : d.notices.getLast? = some n) :
    ∃ x, (firstThenDebounce d.debounce 500 d.notices).getLast? = some x ∧ x.time ≤ n.time + 500 ∧
      view (d.storeAt screen x.time) = view (d.finalStore screen) := by
  obtain ⟨x, hx, -, hle, hsoon⟩ := exists_last_heard d.debounce 500 hn
  exact ⟨x, hx, hsoon, view_storeAt h.inOrder.1 h.notified
    (fun m hm => (time_le_last h.inOrder.2 hn m hm).trans hle)⟩

/-- The final local results are the decoded documents. -/
theorem Settled.perm (h : d.Settled screen view docs) :
    (screen.query.shown (d.finalStore screen)).Perm
      (screen.query.decoded d.zone (screen.query.remote.build.results docs)) :=
  (shown_after_perm_iff h.orderly h.received).mpr h.allCame

theorem coherent_finalStore : Coherent (d.finalStore screen) :=
  coherent_after (links_coherent_of_reachable d.earlier) d.events

def remoteFavourites (d : ListReader) (userId : String) (docs : DartMap Doc) :
    List FavouritePosting :=
  (ObservedQuery.favouritePostings userId).decoded d.zone
    ((ObservedQuery.favouritePostings userId).remote.build.results docs)

def remoteReviews (d : ListReader) (targetType targetId : String) (docs : DartMap Doc) :
    List Review :=
  (ObservedQuery.reviews (.forTarget targetType targetId)).decoded d.zone
    ((ObservedQuery.reviews (.forTarget targetType targetId)).remote.build.results docs)

/-- Half a second after the last notice a settled Saved list has an item, with the texts of the
posting, for exactly those of the user's remote favourites whose posting is in the local database;
for all of them exactly if all the postings are. -/
theorem settled_saved_items (d : ListReader) (text : DoubleText) (userId : String)
    (docs : DartMap Doc) (n : Timed Unit)
    (h : d.Settled (.saved userId) (savedItems text userId) docs)
    (hn : d.notices.getLast? = some n) :
    ∃ x, (firstThenDebounce d.debounce 500 d.notices).getLast? = some x ∧ x.time ≤ n.time + 500 ∧
      (savedItems text userId (d.storeAt (.saved userId) x.time)).Perm
        ((d.remoteFavourites userId docs).filterMap
          (savedItem text (d.finalStore (.saved userId)))) ∧
      ((savedItems text userId (d.storeAt (.saved userId) x.time)).length =
          (d.remoteFavourites userId docs).length ↔
        ∀ f ∈ d.remoteFavourites userId docs,
          (namedPosting (d.finalStore (.saved userId)) f).isSome) := by
  obtain ⟨x, hx, hsoon, hview⟩ := h.heard hn
  have hperm : (savedItems text userId (d.storeAt (.saved userId) x.time)).Perm
      ((d.remoteFavourites userId docs).filterMap
        (savedItem text (d.finalStore (.saved userId)))) := by
    rw [hview, savedItems_eq coherent_finalStore]
    exact h.perm.filterMap _
  refine ⟨x, hx, hsoon, hperm, ?_⟩
  rw [hperm.length_eq, List.filterMap_length_eq_length]
  simp only [savedItem, Option.isSome_map]

def favouriteDoc (id postingId : String) : Doc := DartMap.ofList [("id", .string id),
  ("posting_id", .string postingId), ("user_id", .string "u1")]

def twoFavourites : DartMap Doc :=
  DartMap.ofList [("f2", favouriteDoc "f2" "p2"), ("f1", favouriteDoc "f1" "p1")]

def villaStored : ListReader where
  zone := Zone.utc
  earlier := [.createFromEntity .favouritePosting ⟨"f1", some "p1", some "u1", none⟩,
    .createFromEntity .posting lakeVilla]
  debounce := Operator.eager
  events := [⟨100, .snapshot twoFavourites (QuerySnapshot.docChanges ∅ twoFavourites)⟩]
  notices := [⟨0, ()⟩, ⟨150, ()⟩]

theorem allCame_villaStored : AllCame (.saved "u1") villaStored.realm villaStored.events := by
  have hshown : (ListScreen.saved "u1").query.shown villaStored.realm =
      [⟨"f1", some "p1", some "u1", none⟩] := rfl
  unfold AllCame
  rw [hshown]
  refine List.forall_mem_singleton.mpr ⟨_, _, List.mem_cons_self, ?_⟩
  decide

theorem settled_saved_items_villaStored : ∃ x : Timed Unit, x.time ≤ 650 ∧
    (savedItems wholeText "u1" (villaStored.storeAt (.saved "u1") x.time)).map
      (fun item => (item.id, item.title)) = [("f1", "Villa")] := by
  have hresult : ∀ e ∈ twoFavourites.entries, DecodesAs Zone.utc .favouritePosting e.1 e.2 := by
    decide
  have hsettled : villaStored.Settled (.saved "u1") (savedItems wholeText "u1") twoFavourites :=
    { allCame := allCame_villaStored
      inOrder := ⟨by simp [InOrder, villaStored], by decide⟩
      orderly := Execution.stepsMeet_cons ⟨⟨hresult, List.Perm.refl _⟩, twoFavourites, rfl⟩ rfl
        trivial
      received := rfl
      notified := by
        intro _ e _ hsplit _
        have hearly : ∀ e ∈ villaStored.events, e.time ≤ 150 := by simp [villaStored]
        exact ⟨⟨150, ()⟩, by simp [villaStored], hearly e (by simp [hsplit])⟩ }
  obtain ⟨x, -, hsoon, hperm, -⟩ :=
    settled_saved_items villaStored wholeText "u1" twoFavourites ⟨150, ()⟩ hsettled rfl
  refine ⟨x, hsoon, List.perm_singleton.mp ((hperm.map _).trans ?_)⟩
  exact List.Perm.refl _

/-- Half a second after the last notice a settled review list has an item for each remote review of
the target, with the name and the picture of its user if that is in the local database, and as that
of a guest otherwise. -/
theorem settled_review_items (d : ListReader) (targetType targetId : String) (docs : DartMap Doc)
    (n : Timed Unit)
    (h : d.Settled (.reviews targetType targetId) (reviewItems targetType targetId) docs)
    (hn : d.notices.getLast? = some n) :
    ∃ x, (firstThenDebounce d.debounce 500 d.notices).getLast? = some x ∧ x.time ≤ n.time + 500 ∧
      (reviewItems targetType targetId (d.storeAt (.reviews targetType targetId) x.time)).Perm
        ((d.remoteReviews targetType targetId docs).map
          (reviewItem (d.finalStore (.reviews targetType targetId)))) := by
  obtain ⟨x, hx, hsoon, hview⟩ := h.heard hn
  refine ⟨x, hx, hsoon, ?_⟩
  rw [hview, reviewItems_eq coherent_finalStore]
  exact h.perm.map _

def signedReviews : DartMap Doc := DartMap.ofList
  [("r1", (reviewDoc "r1" 5).insert "user_id" (.string "u1")),
    ("r2", (reviewDoc "r2" 7).insert "user_id" (.string "u2"))]

def reviewRead : ListReader where
  zone := Zone.utc
  earlier := []
  debounce := Operator.eager
  events := [⟨100, .snapshot signedReviews (QuerySnapshot.docChanges ∅ signedReviews)⟩,
    ⟨120, .other (.upsert .user { host with id := "u1", fullName := some "Ann" })⟩]
  notices := [⟨0, ()⟩, ⟨150, ()⟩]

theorem settled_review_items_reviewRead : ∃ x : Timed Unit, x.time ≤ 650 ∧
    ((reviewItems "posting" "p1" (reviewRead.storeAt (.reviews "posting" "p1") x.time)).map
      (fun item => (item.id, item.title))).Perm [("r1", "Ann"), ("r2", "Guest")] := by
  have hresult : ∀ e ∈ signedReviews.entries, DecodesAs Zone.utc .review e.1 e.2 := by decide
  have hsettled : reviewRead.Settled (.reviews "posting" "p1") (reviewItems "posting" "p1")
      signedReviews :=
    { allCame := nofun
      inOrder := ⟨by simp [InOrder, reviewRead], by decide⟩
      orderly := Execution.stepsMeet_cons ⟨⟨hresult, List.Perm.refl _⟩, signedReviews, rfl⟩ rfl
        (Execution.stepsMeet_cons (ObservedQuery.orderly_of_ne nofun) rfl trivial)
      received := rfl
      notified := by
        intro _ e _ hsplit _
        have hearly : ∀ e ∈ reviewRead.events, e.time ≤ 150 := by simp [reviewRead]
        exact ⟨⟨150, ()⟩, by simp [reviewRead], hearly e (by simp [hsplit])⟩ }
  obtain ⟨x, -, hsoon, hperm⟩ := settled_review_items reviewRead "posting" "p1" signedReviews
    ⟨150, ()⟩ hsettled rfl
  refine ⟨x, hsoon, (hperm.map _).trans ?_⟩
  decide

end ListReader

end AirBnbClone
