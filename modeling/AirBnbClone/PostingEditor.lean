import Mathlib.Data.List.ReduceOption
import AirBnbClone.EncodingRoundTrip

/-!
# `UpdatePostingCubit`

The form in which a host creates or edits a posting. Submitting it uploads the images picked on the
device one after the other, an image whose upload yields no URL being left out, and stores the
encoded posting under a new id or under that of the posting that is edited.
-/

namespace AirBnbClone

open FirestoreMapper FireStoreService

namespace PostingRepository

def createPosting (z : Zone) (ids : AutoId) (data : Doc) (w : World) :
    Except DartError Posting × World :=
  createAndRead z ids .posting FirestoreCollection.posting none data
    "Failed to create posting in local storage" w

def updatePosting (z : Zone) (id : String) (data : Doc) (w : World) :
    Except DartError Posting × World :=
  updateAndRead z .posting FirestoreCollection.posting id data
    "Failed to retrieve updated posting from local storage" w

end PostingRepository

structure File where
  path : String

structure UpdatePostingState where
  name : String := ""
  price : String := ""
  description : String := ""
  address : String := ""
  city : String := ""
  country : String := ""
  lat : ℚ := 0
  lon : ℚ := 0
  amenities : String := ""
  propertyTypeChosen : Option String := none
  beds : Option (Finmap fun _ : String => ℤ) := none
  bathrooms : Option (Finmap fun _ : String => ℤ) := none
  imageItems : List (BaseItemModel File) := []
  isLoading : Bool := false
  posting : Option (Managed Posting) := none

/-- What a submission meets outside the form: how text is lowered and read, the answers to its
uploads and to its question for the user, and the world in which it stores the posting. -/
structure Surroundings where
  zone : Zone
  ids : AutoId
  order : IterationOrder
  text : DoubleText
  toLowerCase : String → String
  upload : BaseItemModel File → Except DartError (Option String)
  userId : Except DartError (Option String)
  world : World

namespace UpdatePostingCubit

variable (env : Surroundings)

def imageUrl (item : BaseItemModel File) : Except DartError (Option String) :=
  match item.tag with
  | "plus_item" => .ok none
  | "remote_image" => .ok (some item.imageUrl)
  | "local_image" =>
      match item.object with
      | none => .error .typeError
      | some _ => env.upload item
  | _ => .ok none

def imageUrls (items : List (BaseItemModel File)) : Except DartError (List String) :=
  (items.mapM (imageUrl env)).map List.reduceOption

def posting (state : UpdatePostingState) (userId : Option String) (images : List String) :
    Posting where
  id := ""
  name := some state.name
  type := state.propertyTypeChosen
  price := env.text.tryParse state.price
  description := some state.description
  address := some state.address
  city := some state.city
  country := some state.country
  rating := some (5 / 2)
  hostId := some (userId.getD "")
  images := images
  amenities := (env.toLowerCase state.amenities).splitOn ","
  beds := state.beds.getD ∅
  bathrooms := state.bathrooms.getD ∅
  lat := state.lat
  lon := state.lon

/-- `if (p != null && p.isValid)` the posting is updated, else a new one is created. -/
def store (p : Option (Managed Posting)) (data : Doc) (w : World) :
    Except DartError Posting × World :=
  match p.filter Managed.isValid with
  | some p => PostingRepository.updatePosting env.zone p.object.id data w
  | none => PostingRepository.createPosting env.zone env.ids data w

def submit (state : UpdatePostingState) : Except DartError Posting × World :=
  match imageUrls env state.imageItems with
  | .error e => (.error e, env.world)
  | .ok images =>
      match env.userId with
      | .error e => (.error e, env.world)
      | .ok userId =>
          store env state.posting
            (PostingFirestoreExtension.toFirestore env.order (posting env state userId images))
            env.world

/-- Nothing happens if `formKey.currentState?.validate()` is false. -/
def createPosting (validate : Option Bool) (state : UpdatePostingState) :
    Bool × UpdatePostingState × World :=
  if validate = some false then (false, state, env.world)
  else
    match submit env state with
    | (.ok _, w) => (true, { state with isLoading := false }, w)
    | (.error _, w) => (false, { state with isLoading := false }, w)

/-- The item yields an image: it shows one that is stored already, or its upload returns a URL. -/
def HasUrl (item : BaseItemModel File) : Prop :=
  item.tag = "remote_image" ∨
    item.tag = "local_image" ∧ item.object.isSome ∧ ∃ url, env.upload item = .ok (some url)

variable {env}

theorem imageUrl_eq_some_iff (item : BaseItemModel File) :
    (∃ url, imageUrl env item = .ok (some url)) ↔ HasUrl env item := by
  unfold imageUrl HasUrl
  split
  · rename_i htag
    simp [htag]
  · rename_i htag
    simp [htag]
  · rename_i htag
    split
    · rename_i hobject
      simp [htag, hobject]
    · rename_i hobject
      simp [htag, hobject]
  · rename_i hplus hremote hlocal
    have hremote' : item.tag ≠ "remote_image" := hremote
    have hlocal' : item.tag ≠ "local_image" := hlocal
    simp [hremote', hlocal']

/-- A posting without images comes from a form none of whose items yields one. -/
theorem imageUrls_ne_nil_iff {items : List (BaseItemModel File)} {urls : List String}
    (h : imageUrls env items = .ok urls) : urls ≠ [] ↔ ∃ item ∈ items, HasUrl env item := by
  obtain ⟨os, hos, rfl⟩ := (ExceptTraverse.map_eq_ok_iff _ _ _).mp h
  rw [ExceptTraverse.mapM_eq_ok_iff] at hos
  constructor
  · intro hne
    obtain ⟨url, hurl⟩ := List.exists_mem_of_ne_nil _ hne
    have hmem : Except.ok (some url) ∈ items.map (imageUrl env) := by
      rw [hos]
      exact List.mem_map_of_mem (List.reduceOption_mem_iff.mp hurl)
    obtain ⟨item, hitem, hyields⟩ := List.mem_map.mp hmem
    exact ⟨item, hitem, (imageUrl_eq_some_iff item).mp ⟨url, hyields⟩⟩
  · rintro ⟨item, hitem, hurl⟩
    obtain ⟨url, hyields⟩ := (imageUrl_eq_some_iff item).mpr hurl
    have hmem : Except.ok (some url) ∈ os.map (Except.ok : Option String → Except DartError _) := by
      rw [← hos, ← hyields]
      exact List.mem_map_of_mem hitem
    obtain ⟨o, ho, hsome⟩ := List.mem_map.mp hmem
    cases hsome
    exact List.ne_nil_of_mem (List.reduceOption_mem_iff.mpr ho)

section Stored

variable {form stored : Posting} {D : Doc} {i : String} {w w' : World}

theorem wholeMilliseconds_posting (e : Posting) : WholeMilliseconds .posting e := by
  intro t ht
  cases e
  simp [properties] at ht

/-- Encoding a posting under another id changes that entry only. -/
theorem get_toFirestore_withId (hi : i ≠ "") (k : String) :
    (PostingFirestoreExtension.toFirestore env.order { form with id := i }).get k =
      if k = "id" then .string i
      else (PostingFirestoreExtension.toFirestore env.order form).get k := by
  have hget (e : Posting) : (PostingFirestoreExtension.toFirestore env.order e).get k =
      ((encodedFields env.order .posting e).lookup k).join.getD .null :=
    get_convert (T := .posting) k
  rw [hget, hget]
  obtain ⟨⟩ := form
  simp only [encodedFields]
  by_cases hk : k = "id"
  · subst hk
    rw [if_pos rfl, List.lookup_cons_self, Encode.id, if_neg hi]
    rfl
  · have hne : (k == "id") = false := beq_eq_false_iff_ne.mpr hk
    simp only [if_neg hk, List.lookup_cons, hne]

/-- The encoded posting, completed by an id, decodes to the posting under that id. -/
theorem fromMap_completed (hi : i ≠ "") (hD : ∀ k, D.get k = if k = "id" then .string i else
    (PostingFirestoreExtension.toFirestore env.order form).get k) :
    fromMap env.zone .posting D = .ok { form with id := i } := by
  have hconvert : fromMap env.zone .posting (convert env.order .posting { form with id := i }) =
      .ok { form with id := i } :=
    fromMap_convert (wholeMilliseconds_posting _)
  refine Eq.trans ?_ hconvert
  apply fromMap_congr
  intro f _
  rw [hD, ← get_toFirestore_withId hi]
  rfl

theorem get_id_toFirestore (hform : form.id = "") :
    (PostingFirestoreExtension.toFirestore env.order form).get "id" = .null := by
  have hget : (convert env.order .posting form).get "id" =
      ((encodedFields env.order .posting form).lookup "id").join.getD .null :=
    get_convert "id"
  obtain ⟨⟩ := form
  cases hform
  exact hget

/-- The data of a form is completed by the id of the document it is written to. -/
theorem fromMap_withId (hform : form.id = "") (hi : i ≠ "") :
    fromMap env.zone .posting
      (withId i (PostingFirestoreExtension.toFirestore env.order form)) =
        .ok { form with id := i } := by
  apply fromMap_completed hi
  intro k
  rw [get_withId, get_id_toFirestore hform]
  simp [isNullOrEmpty]

/-- A new posting is always stored. -/
theorem store_new (env : Surroundings) (form : Posting) (w : World) :
    ∃ i w', store env none (PostingFirestoreExtension.toFirestore env.order form) w =
      (.ok { form with id := i }, w') := by
  have hdecoded : ∀ k, k ≠ "" → fromMap env.zone .posting
      ((PostingFirestoreExtension.toFirestore env.order form).insert "id" (.string k)) =
        .ok { form with id := k } := by
    intro k hk
    apply fromMap_completed hk
    intro key
    rw [Doc.get_insert]
  obtain ⟨i, w', hcall⟩ : ∃ i w', createAndRead env.zone env.ids .posting
      FirestoreCollection.posting none (PostingFirestoreExtension.toFirestore env.order form)
      "Failed to create posting in local storage" w = (.ok { form with id := i }, w') :=
    createAndRead_new (fun _ => rfl) hdecoded
  exact ⟨i, w', hcall⟩

/-- The row that a call leaves is the posting of the form under some id. -/
theorem stored_of_store {p : Option (Managed Posting)} (hform : form.id = "")
    (hp : ∀ q ∈ p, q.object.id ≠ "")
    (h : store env p (PostingFirestoreExtension.toFirestore env.order form) w = (.ok stored, w')) :
    ∃ i, stored = { form with id := i } := by
  cases hq : p.filter Managed.isValid with
  | none =>
      obtain ⟨i, w₁, hnew⟩ := store_new env form w
      rw [store, hq] at h
      exact ⟨i, Except.ok.inj (Prod.mk.inj (h.symm.trans hnew)).1⟩
  | some q =>
      rw [store, hq] at h
      change updateAndRead _ _ _ _ _ _ w = _ at h
      have hi : q.object.id ≠ "" := hp q (Option.filter_eq_some_iff.mp hq).1
      cases hD : w.remote.doc FirestoreCollection.posting q.object.id with
      | none =>
          rw [updateAndRead_of_none hD] at h
          cases h
      | some D =>
          have hcall := h.symm.trans (updateAndRead_eq_ok hD (fromMap_withId hform hi) rfl hi)
          exact ⟨q.object.id, Except.ok.inj (Prod.mk.inj hcall).1⟩

end Stored

/-- What is stored has an image exactly if an item of the form yields one. -/
theorem images_of_submit {state : UpdatePostingState} {stored : Posting} {w' : World}
    (hp : ∀ q ∈ state.posting, q.object.id ≠ "") (h : submit env state = (.ok stored, w')) :
    stored.images ≠ [] ↔ ∃ item ∈ state.imageItems, HasUrl env item := by
  unfold submit at h
  cases hurls : imageUrls env state.imageItems with
  | error e => simp [hurls] at h
  | ok urls =>
      cases huser : env.userId with
      | error e => simp [hurls, huser] at h
      | ok userId =>
          simp only [hurls, huser] at h
          obtain ⟨i, rfl⟩ := stored_of_store rfl hp h
          exact imageUrls_ne_nil_iff hurls

/-- With the uploads and the user answered, a new posting is submitted successfully. -/
theorem submit_new {state : UpdatePostingState} {urls : List String} {userId : Option String}
    (hnew : state.posting = none) (hurls : imageUrls env state.imageItems = .ok urls)
    (huser : env.userId = .ok userId) : ∃ p w', submit env state = (.ok p, w') := by
  obtain ⟨i, w', hstore⟩ := store_new env (posting env state userId urls) env.world
  refine ⟨{ posting env state userId urls with id := i }, w', ?_⟩
  simp only [submit, hurls, huser, hnew]
  exact hstore

end UpdatePostingCubit

end AirBnbClone
