import AirBnbClone.PostingEditor

/-!
# The screens that list postings

The screens of the host take the first image of every posting, the Explore screen the first or none.
Each list is built inside a stream callback, so one posting without an image takes the others along.
-/

namespace AirBnbClone

/-- `images.first`. -/
def first (images : List String) : Except DartError String :=
  match images with
  | [] => .error (.exception "Bad state: No element")
  | image :: _ => .ok image

def postingItem (entity : Managed Posting) :
    Except DartError (BaseItemModel (Managed Posting)) := do
  let imageUrl ← first entity.object.images
  return { id := entity.object.id, imageUrl, title := entity.object.name.getD "NA",
           tag := "posting", object := some entity }

namespace BookingsCubit

def createPostings (entities : List (Managed Posting)) :
    Except DartError (List (BaseItemModel (Managed Posting))) :=
  (entities.filter Managed.isValid).mapM postingItem

end BookingsCubit

namespace MyPostingsCubit

def createPostings (entities : List (Managed Posting)) :
    Except DartError (List (BaseItemModel (Managed Posting))) := do
  let list ← (entities.filter Managed.isValid).mapM postingItem
  return list ++ [{ id := "create_a_listing" }]

end MyPostingsCubit

namespace ExploreCubit

/-- `entity.images.isNotEmpty ? entity.images.first : ""`. -/
def imageUrl (images : List String) : Except DartError String :=
  if images ≠ [] then first images else .ok ""

def gridItem (text : DoubleText) (entity : Managed Posting) :
    Except DartError PostingGridItemModel := do
  let imageUrl ← imageUrl entity.object.images
  return { id := entity.object.id, imageUrl, title := entity.object.name.getD "NA",
           des := entity.object.description.getD "NA", tag := "posting", object := some entity,
           price := (entity.object.price.map
             (fun price => "$" ++ text.toStringAsFixed price ++ " / day")).getD "",
           rating := entity.object.rating.getD 0,
           ratingStr := (entity.object.rating.map text.toString).getD "" }

def createPostings (text : DoubleText) (entities : List (Managed Posting)) :
    Except DartError (List PostingGridItemModel) :=
  (entities.filter Managed.isValid).mapM (gridItem text)

end ExploreCubit

/-- A host that submits the form. -/
structure Submission where
  env : Surroundings
  state : UpdatePostingState
  validate : Option Bool
  accepted : validate ≠ some false
  keyed : ∀ p ∈ state.posting, p.object.id ≠ ""

/-- The submission succeeds and the posting is what it leaves in the local store. -/
def Submission.Stores (s : Submission) (p : Posting) : Prop :=
  (UpdatePostingCubit.createPosting s.env s.validate s.state).1 = true ∧
    ∃ w', UpdatePostingCubit.submit s.env s.state = (.ok p, w')

def Submission.HasImage (s : Submission) : Prop :=
  ∃ item ∈ s.state.imageItems, UpdatePostingCubit.HasUrl s.env item

def ItemOf (p : Managed Posting) (item : BaseItemModel (Managed Posting)) : Prop :=
  item.id = p.object.id ∧ item.object = some p

/-- Each screen shows one item per posting in the same order, the host's own with a last item for
another listing. -/
structure AllListed (text : DoubleText) (postings : List (Managed Posting)) : Prop where
  bookings : ∃ items, BookingsCubit.createPostings postings = .ok items ∧
    List.Forall₂ ItemOf postings items
  myPostings : ∃ items last, MyPostingsCubit.createPostings postings = .ok (items ++ [last]) ∧
    List.Forall₂ ItemOf postings items ∧ last.id = "create_a_listing"
  explore : ∃ items, ExploreCubit.createPostings text postings = .ok items ∧
    List.Forall₂ ItemOf postings (items.map PostingGridItemModel.toBaseItemModel)

section Lists

variable {text : DoubleText} {postings : List (Managed Posting)}

theorem postingItem_ok_iff (p : Managed Posting) :
    (∃ item, postingItem p = .ok item) ↔ p.object.images ≠ [] := by
  unfold postingItem first
  cases p.object.images with
  | nil =>
      constructor
      · rintro ⟨item, hitem⟩
        cases hitem
      · intro h
        exact absurd rfl h
  | cons image images => exact iff_of_true ⟨_, rfl⟩ (List.cons_ne_nil _ _)

theorem itemOf_of_postingItem {p : Managed Posting} {item : BaseItemModel (Managed Posting)}
    (h : postingItem p = .ok item) : ItemOf p item := by
  unfold postingItem at h
  cases hfirst : first p.object.images with
  | error e =>
      rw [hfirst] at h
      cases h
  | ok imageUrl =>
      rw [hfirst] at h
      cases h
      exact ⟨rfl, rfl⟩

theorem gridItem_ok (text : DoubleText) (p : Managed Posting) :
    ∃ item, ExploreCubit.gridItem text p = .ok item ∧ ItemOf p item.toBaseItemModel := by
  unfold ExploreCubit.gridItem ExploreCubit.imageUrl first
  cases p.object.images with
  | nil => exact ⟨_, rfl, rfl, rfl⟩
  | cons image images => exact ⟨_, rfl, rfl, rfl⟩

theorem filter_valid (hvalid : ∀ p ∈ postings, p.isValid = true) :
    postings.filter Managed.isValid = postings :=
  List.filter_eq_self.mpr hvalid

theorem allListed_iff (hvalid : ∀ p ∈ postings, p.isValid = true) :
    AllListed text postings ↔ ∀ p ∈ postings, p.object.images ≠ [] := by
  constructor
  · rintro ⟨⟨items, hitems, -⟩, -, -⟩ p hp
    rw [BookingsCubit.createPostings, filter_valid hvalid] at hitems
    exact (postingItem_ok_iff p).mp (ExceptTraverse.ok_of_mapM_ok hitems p hp)
  · intro himages
    obtain ⟨items, hitems⟩ := ExceptTraverse.exists_mapM_ok
      (fun p hp => (postingItem_ok_iff p).mpr (himages p hp))
    obtain ⟨gridItems, hgridItems⟩ := ExceptTraverse.exists_mapM_ok (l := postings)
      (fun p _ => (gridItem_ok text p).imp (fun _ => And.left))
    have hlisted : List.Forall₂ ItemOf postings items :=
      (ExceptTraverse.forall₂_of_mapM_ok hitems).imp (fun _ _ => itemOf_of_postingItem)
    have hgrid : List.Forall₂ ItemOf postings
        (gridItems.map PostingGridItemModel.toBaseItemModel) := by
      rw [List.forall₂_map_right_iff]
      refine (ExceptTraverse.forall₂_of_mapM_ok hgridItems).imp (fun p item hitem => ?_)
      obtain ⟨item', hitem', hof⟩ := gridItem_ok text p
      obtain rfl : item' = item := Except.ok.inj (hitem'.symm.trans hitem)
      exact hof
    constructor
    · exact ⟨items, by rw [BookingsCubit.createPostings, filter_valid hvalid, hitems], hlisted⟩
    · refine ⟨items, { id := "create_a_listing" }, ?_, hlisted, rfl⟩
      rw [MyPostingsCubit.createPostings, filter_valid hvalid, hitems]
      rfl
    · exact ⟨gridItems, by rw [ExploreCubit.createPostings, filter_valid hvalid, hgridItems], hgrid⟩

theorem images_iff_hasImage {submissions : List Submission} {stored : List Posting}
    (h : List.Forall₂ Submission.Stores submissions stored) :
    (∀ p ∈ stored, p.images ≠ []) ↔ ∀ s ∈ submissions, s.HasImage := by
  induction h with
  | nil => exact iff_of_true (List.forall_mem_nil _) (List.forall_mem_nil _)
  | @cons s p _ _ hp _ ih =>
      obtain ⟨-, w', hsubmit⟩ := hp
      rw [List.forall_mem_cons, List.forall_mem_cons, ih,
        UpdatePostingCubit.images_of_submit s.keyed hsubmit]
      rfl

end Lists

/-- The postings of successful submissions are all listed exactly if each form had an image: a form
without one, or with failed uploads only, makes a posting that empties the lists of its host. -/
theorem all_listed_iff_images (text : DoubleText) (submissions : List Submission)
    (postings : List Posting) (h : List.Forall₂ Submission.Stores submissions postings) :
    AllListed text (postings.map (fun p => ⟨p, true⟩)) ↔ ∀ s ∈ submissions, s.HasImage := by
  rw [← images_iff_hasImage h, allListed_iff, List.forall_mem_map]
  rw [List.forall_mem_map]
  exact fun _ _ => rfl

def oneImage (answer : Option String) : Submission where
  env :=
    { zone := Zone.utc, ids := AutoId.longer, order := IterationOrder.sorted, text := wholeText,
      toLowerCase := String.toLower, upload := fun _ => .ok answer, userId := .ok (some "h1"),
      world := ⟨Firestore.empty, Realm.empty⟩ }
  state :=
    { name := "Villa", price := "80", description := "Quiet", address := "1 Sea View",
      amenities := "wifi",
      imageItems := [{ id := "i1", tag := "local_image", imageUrl := "/tmp/1.jpg",
                       object := some ⟨"/tmp/1.jpg"⟩ },
        { id := "plus_item", tag := "plus_item" }] }
  validate := some true
  accepted := by decide
  keyed p hp := absurd hp (Option.not_mem_none p)

theorem oneImage_stores (answer : Option String) : ∃ p, (oneImage answer).Stores p := by
  have hurls : UpdatePostingCubit.imageUrls (oneImage answer).env
      (oneImage answer).state.imageItems = .ok answer.toList := by
    cases answer <;> rfl
  obtain ⟨p, w', hsubmit⟩ := UpdatePostingCubit.submit_new rfl hurls rfl
  refine ⟨p, ?_, w', hsubmit⟩
  simp only [UpdatePostingCubit.createPosting, hsubmit]
  rfl

theorem all_listed_iff_images_uploaded : ∃ p, (oneImage (some "https://images/1")).Stores p ∧
    AllListed wholeText [⟨p, true⟩] := by
  obtain ⟨p, hp⟩ := oneImage_stores (some "https://images/1")
  refine ⟨p, hp, (all_listed_iff_images wholeText [_] [p] (.cons hp .nil)).mpr ?_⟩
  rw [List.forall_mem_singleton]
  exact ⟨_, List.mem_cons_self, .inr ⟨rfl, rfl, "https://images/1", rfl⟩⟩

/-- The upload fails, the posting is stored, and its host sees no list. -/
theorem failedUpload_is_not_listed : ∃ p, (oneImage none).Stores p ∧
    ¬ AllListed wholeText [⟨p, true⟩] := by
  obtain ⟨p, hp⟩ := oneImage_stores none
  refine ⟨p, hp, fun hlisted => ?_⟩
  rw [allListed_iff (by simp), List.forall_mem_singleton] at hlisted
  obtain ⟨-, w', hsubmit⟩ := hp
  obtain ⟨item, hitem, htag | ⟨-, -, url, hurl⟩⟩ :=
    (UpdatePostingCubit.images_of_submit (oneImage none).keyed hsubmit).mp hlisted
  · simp only [oneImage, List.mem_cons, List.not_mem_nil, or_false] at hitem
    obtain rfl | rfl := hitem <;> simp at htag
  · cases hurl

end AirBnbClone
