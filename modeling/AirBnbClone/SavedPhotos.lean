import AirBnbClone.PostingLists

/-!
# The photos of a saved posting

`createPosting` uploads the local images of the grid one after the other. An upload that throws ends
it, and nothing is stored; one that returns null is passed over, and the posting is stored without
the photo. A posting without any image is encoded without the key, so that an update leaves the
images of the document as they were.
-/

namespace AirBnbClone

open FirestoreMapper FireStoreService RealmService

structure Photo where
  item : BaseItemModel File
  answer : Except DartError (Option String)

namespace Photo

/-- The plus item, a remote image, or a local image with its file. -/
def InGrid (photo : Photo) : Prop :=
  photo.item.tag = "plus_item" ∨ photo.item.tag = "remote_image" ∨
    photo.item.tag = "local_image" ∧ photo.item.object.isSome = true

def isPhoto (photo : Photo) : Bool := photo.item.tag != "plus_item"

def url (photo : Photo) : Option String :=
  if photo.item.tag = "remote_image" then some photo.item.imageUrl
  else
    match photo.answer with
    | .ok url => url
    | .error _ => none

end Photo

namespace UpdatePostingCubit

variable (env : Surroundings) (answers : ℕ → Except DartError (Option String))

def photos (state : UpdatePostingState) : List Photo :=
  state.imageItems.mapIdx (fun i item => ⟨item, answers i⟩)

/-- The `switch` over one image item, when its own upload is answered. -/
def photoUrl (photo : Photo) : Except DartError (Option String) :=
  imageUrl { env with upload := fun _ => photo.answer } photo.item

def photoUrls (photos : List Photo) : Except DartError (List String) :=
  (photos.mapM (photoUrl env)).map List.reduceOption

/-- The body of the `try` block after the loop. -/
def submitUrls (state : UpdatePostingState) (urls : Except DartError (List String)) :
    Except DartError Posting × World :=
  match urls with
  | .error e => (.error e, env.world)
  | .ok images =>
      match env.userId with
      | .error e => (.error e, env.world)
      | .ok userId =>
          store env state.posting
            (PostingFirestoreExtension.toFirestore env.order (posting env state userId images))
            env.world

/-- `createPosting` with an answer for each upload. -/
def createPostingWith (validate : Option Bool) (state : UpdatePostingState) :
    Bool × UpdatePostingState × World :=
  if validate = some false then (false, state, env.world)
  else
    match submitUrls env state (photoUrls env (photos answers state)) with
    | (.ok _, w) => (true, { state with isLoading := false }, w)
    | (.error _, w) => (false, { state with isLoading := false }, w)

/-- Where equal items get equal answers, this is `createPosting`. -/
theorem createPostingWith_upload (validate : Option Bool) (state : UpdatePostingState) :
    createPostingWith env (fun i => (state.imageItems[i]?).elim (.ok none) env.upload) validate
      state = createPosting env validate state := by
  have hphotos : photos (fun i => (state.imageItems[i]?).elim (.ok none) env.upload) state =
      state.imageItems.map (fun item => ⟨item, env.upload item⟩) := by
    apply List.ext_getElem
    · simp [photos]
    · intro i h _
      have hi : i < state.imageItems.length := by simpa [photos] using h
      simp [photos, List.getElem?_eq_getElem hi]
  have hurl (item : BaseItemModel File) :
      photoUrl env ⟨item, env.upload item⟩ = imageUrl env item := rfl
  unfold createPostingWith createPosting submit
  rw [hphotos, photoUrls, List.mapM_map]
  rfl

def savedId (state : UpdatePostingState) : String :=
  match state.posting.filter Managed.isValid with
  | some p => p.object.id
  | none => env.ids.next (env.world.remote.docs FirestoreCollection.posting).keys

def imagesBefore (state : UpdatePostingState) : Except DartError (List String) :=
  match state.posting.filter Managed.isValid with
  | some p =>
      match env.world.remote.doc FirestoreCollection.posting p.object.id with
      | some D => Cast.strings (D.get "images")
      | none => .ok []
  | none => .ok []

def HoldsImages (w : World) (id : String) (urls : List String) : Prop :=
  (∃ D, w.remote.doc FirestoreCollection.posting id = some D ∧
    Cast.strings (D.get "images") = .ok urls) ∧
  ∃ p : Posting, getEntity w.realm .posting id = some p ∧ p.images = urls

/-- A save that succeeds stores the URL of every photo, in grid order; one with an upload that did
not yield a URL fails and writes nothing. -/
structure KeepsEveryPhoto (validate : Option Bool) (state : UpdatePostingState) : Prop where
  saved : (createPostingWith env answers validate state).1 = true →
    ∃ urls : List String,
      ((photos answers state).filter Photo.isPhoto).map Photo.url = urls.map some ∧
        HoldsImages (createPostingWith env answers validate state).2.2 (savedId env state) urls
  failed : (∃ photo ∈ photos answers state, photo.isPhoto = true ∧ photo.url = none) →
    (createPostingWith env answers validate state).1 = false ∧
      (createPostingWith env answers validate state).2.2 = env.world

/-- The form is valid, no upload throws, the user is known, and the document to update is there. -/
structure GoesThrough (validate : Option Bool) (state : UpdatePostingState) : Prop where
  valid : validate ≠ some false
  answered : ∀ photo ∈ photos answers state, photo.item.tag = "local_image" →
    ∃ url, photo.answer = .ok url
  user : ∃ userId, env.userId = .ok userId
  known : ∀ p, state.posting.filter Managed.isValid = some p →
    env.world.remote.doc FirestoreCollection.posting p.object.id ≠ none

/-- No upload returns null, and there is a photo where the document had images. -/
structure LosesNothing (state : UpdatePostingState) : Prop where
  uploaded : ∀ photo ∈ photos answers state, photo.item.tag = "local_image" →
    photo.answer ≠ .ok none
  replaces : (∃ photo ∈ photos answers state, photo.isPhoto = true) ∨
    imagesBefore env state = .ok []

section Loop

variable {env answers} {photo : Photo} {ps : List Photo}

theorem photoUrl_of_answered (h : photo.InGrid)
    (hanswered : photo.item.tag = "local_image" → ∃ url, photo.answer = .ok url) :
    photoUrl env photo = .ok (if photo.isPhoto then photo.url else none) := by
  unfold photoUrl imageUrl Photo.isPhoto Photo.url
  obtain htag | htag | ⟨htag, hobject⟩ := h
  · simp [htag]
  · simp [htag]
  · obtain ⟨url, hurl⟩ := hanswered htag
    obtain ⟨file, hfile⟩ := Option.isSome_iff_exists.mp hobject
    simp [htag, hfile, hurl]

theorem photoUrl_of_error {e : DartError} (h : photo.InGrid)
    (htag : photo.item.tag = "local_image") (he : photo.answer = .error e) :
    photoUrl env photo = .error e := by
  obtain htag' | htag' | ⟨-, hobject⟩ := h
  · exact absurd (htag.symm.trans htag') (by decide)
  · exact absurd (htag.symm.trans htag') (by decide)
  · obtain ⟨file, hfile⟩ := Option.isSome_iff_exists.mp hobject
    simp [photoUrl, imageUrl, htag, hfile, he]

theorem reduceOption_map_url (ps : List Photo) :
    (ps.map (fun photo => if photo.isPhoto then photo.url else none)).reduceOption =
      (ps.filter Photo.isPhoto).filterMap Photo.url := by
  induction ps with
  | nil => rfl
  | cons photo ps ih =>
      rw [List.map_cons]
      cases hphoto : photo.isPhoto with
      | false => simpa [hphoto, List.reduceOption_cons_of_none] using ih
      | true =>
          cases hurl : photo.url with
          | none => simpa [hphoto, hurl, List.reduceOption_cons_of_none] using ih
          | some url => simpa [hphoto, hurl, List.reduceOption_cons_of_some] using ih

/-- When no upload throws, the loop ends with the URLs it was given. -/
theorem photoUrls_of_answered (h : ∀ photo ∈ ps, photo.InGrid)
    (hanswered : ∀ photo ∈ ps, photo.item.tag = "local_image" → ∃ url, photo.answer = .ok url) :
    photoUrls env ps = .ok ((ps.filter Photo.isPhoto).filterMap Photo.url) := by
  unfold photoUrls
  rw [ExceptTraverse.map_eq_ok_iff]
  refine ⟨_, (ExceptTraverse.mapM_eq_ok_iff _ _ _).mpr ?_, reduceOption_map_url ps⟩
  rw [List.map_map]
  exact List.map_congr_left (fun photo hphoto =>
    photoUrl_of_answered (h photo hphoto) (hanswered photo hphoto))

theorem answered_of_photoUrls {urls : List String} (h : ∀ photo ∈ ps, photo.InGrid)
    (hurls : photoUrls env ps = .ok urls) :
    ∀ photo ∈ ps, photo.item.tag = "local_image" → ∃ url, photo.answer = .ok url := by
  intro photo hphoto htag
  obtain ⟨os, hos, -⟩ := (ExceptTraverse.map_eq_ok_iff _ _ _).mp hurls
  obtain ⟨o, ho⟩ := ExceptTraverse.ok_of_mapM_ok hos photo hphoto
  cases hanswer : photo.answer with
  | ok url => exact ⟨url, rfl⟩
  | error e =>
      rw [photoUrl_of_error (h photo hphoto) htag hanswer] at ho
      cases ho

theorem map_eq_map_some_iff {α β : Type} {f : α → Option β} {l : List α} {bs : List β} :
    l.map f = bs.map some ↔ (∀ a ∈ l, f a ≠ none) ∧ l.filterMap f = bs := by
  induction l generalizing bs with
  | nil => cases bs <;> simp
  | cons a l ih =>
      cases ha : f a with
      | none => cases bs <;> simp [ha]
      | some b =>
          cases bs with
          | nil => simp [ha]
          | cons b' bs => simp [ha, ih, and_left_comm]

/-- The URLs collected stand for all photos exactly when each photo has one. -/
theorem map_url_eq_iff {urls : List String} :
    (ps.filter Photo.isPhoto).map Photo.url = urls.map some ↔
      (∀ photo ∈ ps, photo.isPhoto = true → photo.url ≠ none) ∧
        (ps.filter Photo.isPhoto).filterMap Photo.url = urls := by
  rw [map_eq_map_some_iff]
  simp only [List.mem_filter, and_imp]

end Loop

section Store

variable {env answers} {state : UpdatePostingState} {form : Posting} {w' : World}
  {validate : Option Bool}

theorem lookup_images (form : Posting) :
    (PostingFirestoreExtension.toFirestore env.order form).lookup "images" =
      Encode.strings form.images := by
  have hlookup : (convert env.order .posting form).lookup "images" =
      ((encodedFields env.order .posting form).lookup "images").join :=
    lookup_convert env.order .posting form "images"
  obtain ⟨⟩ := form
  exact hlookup

theorem strings_map (urls : List String) :
    Cast.strings (.list (urls.map .string)) = .ok urls := by
  change (urls.map Scalar.string).mapM Cast.stringItem = .ok urls
  rw [ExceptTraverse.mapM_eq_ok_iff, List.map_map]
  rfl

/-- The images that a document holds once the form was merged into it. -/
theorem strings_union (form : Posting) (D : Doc) :
    Cast.strings (Doc.get (PostingFirestoreExtension.toFirestore env.order form ∪ D) "images") =
      if form.images = [] then Cast.strings (D.get "images") else .ok form.images := by
  rw [Doc.get, FiniteMap.lookup_union_eq_or, lookup_images, Encode.strings]
  split_ifs with himages
  · rfl
  · exact strings_map form.images

theorem strings_insert_id (form : Posting) (i : String) :
    Cast.strings (Doc.get
      ((PostingFirestoreExtension.toFirestore env.order form).insert "id" (.string i)) "images") =
        .ok form.images := by
  rw [Doc.get_insert, if_neg (by decide), Doc.get, lookup_images, Encode.strings]
  split_ifs with himages
  · rw [himages]
    rfl
  · exact strings_map form.images

theorem getEntity_createUnawaited_posting (r : Realm) (p : Posting) (h : p.id ≠ "") :
    getEntity (createUnawaited r .posting p) .posting p.id = some p := by
  have hrow : Entity.id .posting p ≠ "" := h
  exact (getEntity_createUnawaited_self hrow p.id).trans (if_pos rfl)

/-- Storing a form whose document is known succeeds, and a form with images replaces those of the
document. -/
theorem store_images (form : Posting) (hform : form.id = "")
    (hp : ∀ q ∈ state.posting, q.object.id ≠ "")
    (hknown : ∀ p, state.posting.filter Managed.isValid = some p →
      env.world.remote.doc FirestoreCollection.posting p.object.id ≠ none) :
    ∃ stored w' D, store env state.posting (PostingFirestoreExtension.toFirestore env.order form)
        env.world = (.ok stored, w') ∧
      w'.remote.doc FirestoreCollection.posting (savedId env state) = some D ∧
      Cast.strings (D.get "images") =
        (if form.images = [] then imagesBefore env state else .ok form.images) ∧
      getEntity w'.realm .posting (savedId env state) =
        some { form with id := savedId env state } := by
  let data := PostingFirestoreExtension.toFirestore env.order form
  cases hq : state.posting.filter Managed.isValid with
  | none =>
      let key := env.ids.next (env.world.remote.docs FirestoreCollection.posting).keys
      have hid : savedId env state = key := by rw [savedId, hq]
      have hbefore : imagesBefore env state = .ok [] := by rw [imagesBefore, hq]
      have hkey : key ≠ "" := env.ids.nonempty _
      have hdecoded : fromMap env.zone .posting (data.insert "id" (.string key)) =
          .ok { form with id := key } := by
        apply fromMap_completed hkey
        intro k
        rw [Doc.get_insert]
      have hcall : store env state.posting data env.world = (.ok { form with id := key },
          ⟨env.world.remote.set FirestoreCollection.posting key (data.insert "id" (.string key)),
            createUnawaited env.world.realm .posting { form with id := key }⟩) := by
        rw [store, hq]
        exact createAndRead_eq_ok hdecoded rfl
      refine ⟨_, _, data.insert "id" (.string key), hcall, ?_, ?_, ?_⟩
      · rw [hid, Firestore.set, Firestore.doc_putDoc, if_pos ⟨rfl, rfl⟩]
      · rw [strings_insert_id, hbefore]
        split_ifs with himages
        · rw [himages]
        · rfl
      · rw [hid]
        exact getEntity_createUnawaited_posting _ { form with id := key } hkey
  | some q =>
      have hqid : q.object.id ≠ "" := hp q (Option.filter_eq_some_iff.mp hq).1
      obtain ⟨D, hD⟩ := Option.ne_none_iff_exists'.mp (hknown q hq)
      have hid : savedId env state = q.object.id := by rw [savedId, hq]
      have hbefore : imagesBefore env state = Cast.strings (D.get "images") := by
        rw [imagesBefore, hq]
        simp only [hD]
      have hcall : store env state.posting data env.world = (.ok { form with id := q.object.id },
          ⟨env.world.remote.putDoc FirestoreCollection.posting q.object.id (data ∪ D)
              (.update FirestoreCollection.posting q.object.id),
            createUnawaited env.world.realm .posting { form with id := q.object.id }⟩) := by
        rw [store, hq]
        exact updateAndRead_eq_ok hD (fromMap_withId hform hqid) rfl hqid
      refine ⟨_, _, data ∪ D, hcall, ?_, ?_, ?_⟩
      · rw [hid, Firestore.doc_putDoc, if_pos ⟨rfl, rfl⟩]
      · rw [strings_union, hbefore]
      · rw [hid]
        exact getEntity_createUnawaited_posting _ { form with id := q.object.id } hqid

end Store

section Results

variable {env answers} {state : UpdatePostingState} {validate : Option Bool}

def collected (answers : ℕ → Except DartError (Option String)) (state : UpdatePostingState) :
    List String :=
  ((photos answers state).filter Photo.isPhoto).filterMap Photo.url

theorem createPostingWith_of_goesThrough
    (hgrid : ∀ photo ∈ photos answers state, photo.InGrid)
    (hp : ∀ q ∈ state.posting, q.object.id ≠ "") (h : GoesThrough env answers validate state) :
    (createPostingWith env answers validate state).1 = true ∧ ∃ D,
      (createPostingWith env answers validate state).2.2.remote.doc FirestoreCollection.posting
        (savedId env state) = some D ∧
      Cast.strings (D.get "images") = (if collected answers state = [] then imagesBefore env state
        else .ok (collected answers state)) ∧
      ∃ p : Posting, getEntity (createPostingWith env answers validate state).2.2.realm .posting
        (savedId env state) = some p ∧ p.images = collected answers state := by
  obtain ⟨userId, huser⟩ := h.user
  have hurls : photoUrls env (photos answers state) = .ok (collected answers state) :=
    photoUrls_of_answered hgrid h.answered
  obtain ⟨stored, w', D, hstore, hD, himages, hrow⟩ :=
    store_images (posting env state userId (collected answers state)) rfl hp h.known
  have hcall : createPostingWith env answers validate state =
      (true, { state with isLoading := false }, w') := by
    rw [createPostingWith, if_neg h.valid, hurls]
    simp only [submitUrls, huser, hstore]
  rw [hcall]
  exact ⟨rfl, D, hD, himages, _, hrow, rfl⟩

/-- A save that does not go through fails and writes nothing. -/
theorem createPostingWith_of_not_goesThrough
    (hgrid : ∀ photo ∈ photos answers state, photo.InGrid)
    (h : ¬ GoesThrough env answers validate state) :
    (createPostingWith env answers validate state).1 = false ∧
      (createPostingWith env answers validate state).2.2 = env.world := by
  unfold createPostingWith
  by_cases hvalid : validate = some false
  · rw [if_pos hvalid]
    exact ⟨rfl, rfl⟩
  · rw [if_neg hvalid]
    cases hurls : photoUrls env (photos answers state) with
    | error e => exact ⟨rfl, rfl⟩
    | ok urls =>
        cases huser : env.userId with
        | error e =>
            simp only [submitUrls, huser]
            exact ⟨trivial, trivial⟩
        | ok userId =>
            have hunknown : ∃ p, state.posting.filter Managed.isValid = some p ∧
                env.world.remote.doc FirestoreCollection.posting p.object.id = none := by
              by_contra hknown
              exact h ⟨hvalid, answered_of_photoUrls hgrid hurls, ⟨userId, huser⟩,
                fun p hp hnone => hknown ⟨p, hp, hnone⟩⟩
            obtain ⟨p, hp, hnone⟩ := hunknown
            have hstore (data : Doc) : store env state.posting data env.world =
                (.error .notFound, env.world) := by
              rw [store, hp]
              exact updateAndRead_of_none hnone
            simp only [submitUrls, huser, hstore]
            exact ⟨trivial, trivial⟩

/-- Where no upload throws, a photo has a URL unless its upload returns null. -/
theorem url_ne_none_iff {ps : List Photo} (hgrid : ∀ photo ∈ ps, photo.InGrid)
    (hanswered : ∀ photo ∈ ps, photo.item.tag = "local_image" → ∃ url, photo.answer = .ok url) :
    (∀ photo ∈ ps, photo.isPhoto = true → photo.url ≠ none) ↔
      ∀ photo ∈ ps, photo.item.tag = "local_image" → photo.answer ≠ .ok none := by
  refine forall₂_congr (fun photo hmem => ?_)
  unfold Photo.isPhoto Photo.url
  obtain htag | htag | ⟨htag, -⟩ := hgrid photo hmem
  · simp [htag]
  · simp [htag]
  · obtain ⟨url, hurl⟩ := hanswered photo hmem htag
    simp [htag, hurl]

theorem exists_isPhoto_of_collected (h : collected answers state ≠ []) :
    ∃ photo ∈ photos answers state, photo.isPhoto = true := by
  obtain ⟨url, hurl⟩ := List.exists_mem_of_ne_nil _ h
  obtain ⟨photo, hphoto, -⟩ := List.mem_filterMap.mp hurl
  exact ⟨photo, List.mem_filter.mp hphoto⟩

theorem collected_ne_nil {photo : Photo} (hphoto : photo ∈ photos answers state)
    (his : photo.isPhoto = true) (hurl : photo.url ≠ none) : collected answers state ≠ [] := by
  obtain ⟨url, hsome⟩ := Option.ne_none_iff_exists'.mp hurl
  exact List.ne_nil_of_mem
    (List.mem_filterMap.mpr ⟨photo, List.mem_filter.mpr ⟨hphoto, his⟩, hsome⟩)

end Results

/-- A save keeps every photo exactly if it does not go through at all, or no upload returns null and
a grid without photos meets no images in the document. -/
theorem keepsEveryPhoto_iff (env : Surroundings) (answers : ℕ → Except DartError (Option String))
    (validate : Option Bool) (state : UpdatePostingState)
    (hgrid : ∀ photo ∈ photos answers state, photo.InGrid)
    (hp : ∀ q ∈ state.posting, q.object.id ≠ "") :
    KeepsEveryPhoto env answers validate state ↔
      (GoesThrough env answers validate state → LosesNothing env answers state) := by
  constructor
  · intro hkeeps hgoes
    obtain ⟨htrue, D, hD, himages, -⟩ := createPostingWith_of_goesThrough hgrid hp hgoes
    obtain ⟨urls, hurls, ⟨D', hD', himages'⟩, -⟩ := hkeeps.saved htrue
    obtain ⟨hall, hcollected⟩ := map_url_eq_iff.mp hurls
    have hcollected' : collected answers state = urls := hcollected
    refine ⟨(url_ne_none_iff hgrid hgoes.answered).mp hall, ?_⟩
    by_cases hnil : collected answers state = []
    · -- the document keeps the images it had
      obtain rfl : D = D' := Option.some.inj (hD.symm.trans hD')
      rw [himages, if_pos hnil, ← hcollected', hnil] at himages'
      exact .inr himages'
    · exact .inl (exists_isPhoto_of_collected hnil)
  · intro hloses
    constructor
    · intro htrue
      by_cases hgoes : GoesThrough env answers validate state
      · obtain ⟨-, D, hD, himages, hrow⟩ := createPostingWith_of_goesThrough hgrid hp hgoes
        obtain ⟨huploaded, hreplaces⟩ := hloses hgoes
        have hall := (url_ne_none_iff hgrid hgoes.answered).mpr huploaded
        refine ⟨collected answers state, map_url_eq_iff.mpr ⟨hall, rfl⟩, ⟨D, hD, ?_⟩, hrow⟩
        rw [himages]
        split_ifs with hnil
        · obtain ⟨photo, hphoto, his⟩ | hbefore := hreplaces
          · exact absurd hnil (collected_ne_nil hphoto his (hall photo hphoto his))
          · rw [hbefore, hnil]
        · rfl
      · rw [(createPostingWith_of_not_goesThrough hgrid hgoes).1] at htrue
        cases htrue
    · rintro ⟨photo, hphoto, his, hurl⟩
      refine createPostingWith_of_not_goesThrough hgrid (fun hgoes => ?_)
      exact (url_ne_none_iff hgrid hgoes.answered).mpr (hloses hgoes).uploaded photo hphoto his hurl

/-- The form of a new posting with one local image, beside the plus item. -/
theorem inGrid_oneImage (answer : Option String) :
    ∀ photo ∈ photos (fun _ => .ok answer) (oneImage answer).state, photo.InGrid := by
  intro photo hphoto
  simp only [photos, oneImage, List.mapIdx_cons, List.mapIdx_nil, List.mem_cons,
    List.not_mem_nil, or_false] at hphoto
  obtain rfl | rfl := hphoto
  · exact .inr (.inr ⟨rfl, rfl⟩)
  · exact .inl rfl

theorem keepsEveryPhoto_uploaded :
    KeepsEveryPhoto (oneImage none).env (fun _ => .ok (some "https://images/1")) (some true)
      (oneImage none).state := by
  refine (keepsEveryPhoto_iff (oneImage none).env _ (some true) (oneImage none).state
    (inGrid_oneImage (some "https://images/1")) (fun p hp => absurd hp (Option.not_mem_none p))).mpr
    (fun _ => ⟨?_, .inr rfl⟩)
  intro photo hphoto _
  simp only [photos, oneImage, List.mapIdx_cons, List.mapIdx_nil, List.mem_cons,
    List.not_mem_nil, or_false] at hphoto
  obtain rfl | rfl := hphoto <;> simp

/-- The upload of the only photo returns null, and the save succeeds without it. -/
theorem nullUpload_loses_photo :
    (createPostingWith (oneImage none).env (fun _ => .ok none) (some true)
        (oneImage none).state).1 = true ∧
      ¬ KeepsEveryPhoto (oneImage none).env (fun _ => .ok none) (some true)
        (oneImage none).state := by
  have hgoes : GoesThrough (oneImage none).env (fun _ => .ok none) (some true)
      (oneImage none).state := by
    refine ⟨by decide, ?_, ⟨_, rfl⟩, fun p hp => ?_⟩
    · intro photo hphoto _
      simp only [photos, oneImage, List.mapIdx_cons, List.mapIdx_nil, List.mem_cons,
        List.not_mem_nil, or_false] at hphoto
      obtain rfl | rfl := hphoto <;> exact ⟨none, rfl⟩
    · cases hp
  have htrue := (createPostingWith_of_goesThrough (inGrid_oneImage none)
    (fun p hp => absurd hp (Option.not_mem_none p)) hgoes).1
  refine ⟨htrue, fun hkeeps => ?_⟩
  have hfailed := (hkeeps.failed ⟨⟨_, .ok none⟩, List.mem_cons_self, rfl, rfl⟩).1
  rw [htrue] at hfailed
  cases hfailed

end UpdatePostingCubit

end AirBnbClone
