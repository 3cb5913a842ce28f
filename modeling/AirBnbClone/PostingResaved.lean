import AirBnbClone.LocalMirror
import AirBnbClone.PostingEditor
import AirBnbClone.SplitText

/-!
# Opening a posting in the editor and saving it again

The editor shows every field of a posting in the form and rebuilds the posting from it. The rating
is not shown and is rebuilt as 2.5. The amenities are joined by a comma and a space and split at the
comma, so that each of them but the first comes back with a space in front of it.
-/

namespace AirBnbClone

open FirestoreMapper FireStoreService RealmService

namespace UpdatePostingCubit

/-- `posting` is the one the screen was opened with, `uuid i` the id drawn for its `i`-th image. -/
def setUpInitialValues (uuid : ℕ → String) (text : DoubleText)
    (posting : Option (Managed Posting)) : UpdatePostingState :=
  let p := posting.map Managed.object
  { name := (p.bind Posting.name).getD ""
    price := (p.map fun p => (p.price.map text.toString).getD "null").getD ""
    description := (p.bind Posting.description).getD ""
    address := (p.bind Posting.address).getD ""
    city := (p.bind Posting.city).getD ""
    country := (p.bind Posting.country).getD ""
    lat := (p.map Posting.lat).getD 0
    lon := (p.map Posting.lon).getD 0
    amenities := (p.map fun p => ", ".intercalate p.amenities).getD ""
    propertyTypeChosen := p.bind Posting.type
    beds := p.map Posting.beds
    bathrooms := p.map Posting.bathrooms
    imageItems := ((p.map Posting.images).getD []).mapIdx (fun i url =>
      { id := uuid i, tag := "remote_image", imageUrl := url }) ++
        [{ id := "plus_item", tag := "plus_item" }]
    posting := posting }

/-- `if (text == null || text.isEmpty) return message`. -/
def validateField (message : String) (text : Option String) : Option String :=
  if text.getD "" = "" then some message else none

def validatePostingNameField : Option String → Option String :=
  validateField "Please enter a valid name"

def validatePriceNameField : Option String → Option String :=
  validateField "Please enter a valid price"

def validateDescriptionField : Option String → Option String :=
  validateField "Please enter a valid description"

def validateAmenitiesField : Option String → Option String :=
  validateField "Please enter valid amenities"

/-- The validator of the address field, which the screen has disabled. -/
def validateAddressField : Option String → Option String :=
  validateField "Please enter a valid address"

/-- `formKey.currentState?.validate()` while the fields show the state. Whether a disabled field
takes part is left open. -/
def formValid (validatesDisabled : Bool) (state : UpdatePostingState) : Bool :=
  (validatePostingNameField (some state.name)).isNone &&
    (validatePriceNameField (some state.price)).isNone &&
    (validateDescriptionField (some state.description)).isNone &&
    (validateAmenitiesField (some state.amenities)).isNone &&
    (!validatesDisabled || (validateAddressField (some state.address)).isNone)

section Reopened

variable (uuid : ℕ → String) (validatesDisabled : Bool) (env : Surroundings)

def opened (p : Posting) : UpdatePostingState :=
  setUpInitialValues uuid env.text (some (Device.valid p))

def sentData (p : Posting) : Doc :=
  PostingFirestoreExtension.toFirestore env.order
    (posting env (opened uuid env p) p.hostId p.images)

def openAndSave (id : String) (w : World) : World :=
  match getEntity w.realm .posting id with
  | none => w
  | some p =>
      let state := opened uuid env p
      (createPosting { env with world := w } (some (formValid validatesDisabled state)) state).2.2

end Reopened

/-- The posting is the one that both databases hold. -/
structure StoredAs (z : Zone) (p : Posting) (w : World) (D : Doc) : Prop where
  remote : w.remote.doc FirestoreCollection.posting p.id = some D
  decodes : fromDocumentSnapshot z .posting p.id D = .ok p
  row : getEntity w.realm .posting p.id = some p

def Unchanged (z : Zone) (p : Posting) (w : World) : Prop := ∃ D, StoredAs z p w D

/-- A text is lowered character by character as far as those that stay the same are concerned. -/
structure LowersByCharacter (toLowerCase : String → String) : Prop where
  fixes : ∀ s, (∀ c ∈ s.toList, toLowerCase c.toString = c.toString) → toLowerCase s = s
  comma : toLowerCase "," = ","
  space : toLowerCase " " = " "

/-- A lower-case word without commas or surrounding spaces. -/
structure Amenity (toLowerCase : String → String) (s : String) : Prop where
  ne_empty : s ≠ ""
  no_comma : ',' ∉ s.toList
  no_space_before : s.toList.head? ≠ some ' '
  no_space_after : s.toList.getLast? ≠ some ' '
  lower : ∀ c ∈ s.toList, toLowerCase c.toString = c.toString

/-- The posting of the signed-in user, complete, with a price that is read back as it is printed,
and opened in a form that the validators accept. -/
structure Editable (uuid : ℕ → String) (validatesDisabled : Bool) (env : Surroundings)
    (p : Posting) : Prop where
  id_ne : p.id ≠ ""
  owner : ∃ userId, env.userId = .ok (some userId) ∧ p.hostId = some userId
  name : p.name.isSome
  type : p.type.isSome
  description : p.description.isSome
  address : p.address.isSome
  city : p.city.isSome
  country : p.country.isSome
  price : ∃ q, p.price = some q ∧ env.text.tryParse (env.text.toString q) = some q
  lowers : LowersByCharacter env.toLowerCase
  amenities : ∀ s ∈ p.amenities, Amenity env.toLowerCase s
  valid : formValid validatesDisabled (opened uuid env p)

/-- The posting has the rating that every save sends, and no amenity behind a comma. -/
def Restorable (p : Posting) : Prop := p.rating = some (5 / 2) ∧ p.amenities.length ≤ 1

/-- The amenities as the comma separates them. -/
def spaced : List String → List String
  | [] => []
  | a :: l => a :: l.map (" " ++ ·)

theorem spaced_cons (a : String) (l : List String) : spaced (a :: l) = a :: l.map (" " ++ ·) := rfl

theorem spaced_eq_iff (l : List String) : spaced l = l ↔ l.length ≤ 1 := by
  match l with
  | [] => simp [spaced]
  | [a] => simp [spaced]
  | a :: b :: l =>
      have hne : " " ++ b ≠ b := by
        intro h
        have hlength := congrArg String.length h
        rw [String.length_append] at hlength
        exact absurd hlength (by simp)
      simp [spaced, hne]

theorem intercalate_spaced (l : List String) : ", ".intercalate l = ",".intercalate (spaced l) := by
  cases l with
  | nil => rfl
  | cons a l =>
      induction l generalizing a with
      | nil => rfl
      | cons b l ih =>
          -- the space moves from behind the comma to the front of the next amenity
          have hcomma : (", " : String) = "," ++ " " := rfl
          have hspace : " " ++ ",".intercalate (spaced (b :: l)) =
              ",".intercalate ((b :: l).map (" " ++ ·)) := by
            cases l with
            | nil => rfl
            | cons c l =>
                simp only [spaced, List.map_cons, String.intercalate_cons_cons, String.append_assoc]
          rw [String.intercalate_cons_cons, ih b, hcomma]
          rw [spaced_cons a, List.map_cons, String.intercalate_cons_cons, ← List.map_cons, ← hspace]
          simp only [String.append_assoc]

section Saved

variable {uuid : ℕ → String} {validatesDisabled : Bool} {env : Surroundings} {p : Posting}

/-- The text of the amenities field is in lower case already. -/
theorem toLowerCase_amenities (h : LowersByCharacter env.toLowerCase)
    (ha : ∀ s ∈ p.amenities, Amenity env.toLowerCase s) :
    env.toLowerCase (", ".intercalate p.amenities) = ", ".intercalate p.amenities := by
  apply h.fixes
  intro c hc
  obtain hsep | ⟨s, hs, hmem⟩ := SplitText.mem_of_mem_intercalate hc
  · obtain rfl | rfl : c = ',' ∨ c = ' ' := by simpa using hsep
    · exact h.comma
    · exact h.space
  · exact (ha s hs).lower c hmem

theorem splitOn_amenities (h : LowersByCharacter env.toLowerCase)
    (ha : ∀ s ∈ p.amenities, Amenity env.toLowerCase s) (hne : p.amenities ≠ []) :
    (env.toLowerCase (", ".intercalate p.amenities)).splitOn "," = spaced p.amenities := by
  have hcomma : ("," : String) = String.ofList [','] := rfl
  rw [toLowerCase_amenities h ha, intercalate_spaced, hcomma]
  obtain ⟨a, l, hl⟩ := List.exists_cons_of_ne_nil hne
  rw [hl] at ha ⊢
  obtain ⟨ha, hrest⟩ := List.forall_mem_cons.mp ha
  rw [spaced_cons]
  apply SplitText.splitOn_intercalate (List.cons_ne_nil _ _)
  rw [List.forall_mem_cons, List.forall_mem_map]
  refine ⟨ha.no_comma, ?_⟩
  intro b hb
  rw [String.toList_append, List.mem_append, not_or]
  exact ⟨by decide, (hrest b hb).no_comma⟩

theorem validateField_eq_none_iff (message s : String) :
    validateField message (some s) = none ↔ s ≠ "" := by
  simp [validateField]

/-- The field for the amenities must not be empty. -/
theorem Editable.amenities_ne (h : Editable uuid validatesDisabled env p) : p.amenities ≠ [] := by
  have hvalid := h.valid
  simp only [formValid, Bool.and_eq_true, Option.isNone_iff_eq_none, validateAmenitiesField,
    validateField_eq_none_iff] at hvalid
  intro hnil
  apply hvalid.1.2
  rw [opened, setUpInitialValues]
  simp only [Option.map_some, Device.valid, hnil, Option.getD_some]
  rfl

def resaved (p : Posting) : Posting :=
  { p with rating := some (5 / 2), amenities := spaced p.amenities }

theorem resaved_eq_iff : resaved p = p ↔ Restorable p := by
  rw [Restorable, ← spaced_eq_iff]
  obtain ⟨⟩ := p
  simp [resaved, eq_comm]

/-- The form describes the posting as the editor leaves it, under no id. -/
theorem Editable.posting_opened (h : Editable uuid validatesDisabled env p) :
    posting env (opened uuid env p) p.hostId p.images = { resaved p with id := "" } := by
  obtain ⟨q, hq, hparse⟩ := h.price
  obtain ⟨userId, -, howner⟩ := h.owner
  obtain ⟨name, hname⟩ := Option.isSome_iff_exists.mp h.name
  obtain ⟨description, hdescription⟩ := Option.isSome_iff_exists.mp h.description
  obtain ⟨address, haddress⟩ := Option.isSome_iff_exists.mp h.address
  obtain ⟨city, hcity⟩ := Option.isSome_iff_exists.mp h.city
  obtain ⟨country, hcountry⟩ := Option.isSome_iff_exists.mp h.country
  simp only [posting, opened, setUpInitialValues, Device.valid, resaved, Option.map_some,
    Option.bind_some, Option.getD_some, hq, hparse, howner, hname, hdescription, haddress, hcity,
    hcountry, splitOn_amenities h.lowers h.amenities h.amenities_ne]

/-- The items of the opened form give back the images of the posting. -/
theorem imageUrls_opened : imageUrls env (opened uuid env p).imageItems = .ok p.images := by
  rw [imageUrls, ExceptTraverse.map_eq_ok_iff]
  refine ⟨p.images.map some ++ [none], ?_, ?_⟩
  · rw [ExceptTraverse.mapM_eq_ok_iff]
    change (p.images.mapIdx _ ++ [_]).map (imageUrl env) = _
    rw [List.map_append, List.map_append]
    congr 1
    apply List.ext_getElem?
    intro i
    simp only [List.getElem?_map, List.getElem?_mapIdx, Option.map_map]
    rfl
  · simp [List.reduceOption]

theorem Editable.sentData_eq (h : Editable uuid validatesDisabled env p) :
    sentData uuid env p =
      PostingFirestoreExtension.toFirestore env.order { resaved p with id := "" } := by
  rw [sentData, h.posting_opened]

/-- Saving the unedited form is one update with the data of the form. -/
theorem Editable.submit_opened (h : Editable uuid validatesDisabled env p) :
    submit env (opened uuid env p) =
      PostingRepository.updatePosting env.zone p.id (sentData uuid env p) env.world := by
  obtain ⟨userId, huser, howner⟩ := h.owner
  rw [← howner] at huser
  simp only [submit, imageUrls_opened, huser]
  rfl

/-- The local row is rebuilt from what was sent. -/
theorem Editable.fromMap_sent (h : Editable uuid validatesDisabled env p) :
    fromMap env.zone .posting (withId p.id (sentData uuid env p)) = .ok (resaved p) := by
  have hcompleted : fromMap env.zone .posting (withId p.id
      (PostingFirestoreExtension.toFirestore env.order { resaved p with id := "" })) =
        .ok { { resaved p with id := "" } with id := p.id } :=
    fromMap_withId rfl h.id_ne
  rw [h.sentData_eq]
  exact hcompleted

/-- Completing the snapshot of a merged document that was sent no id. -/
theorem get_withSnapshotId_union {data D : Doc} {i : String} (hid : "id" ∉ data) (k : String) :
    (withSnapshotId i (data ∪ D)).get k =
      if k ∈ data then data.get k else (withSnapshotId i D).get k := by
  by_cases hk : k = "id"
  · subst hk
    have hunion : Doc.get (data ∪ D) "id" = Doc.get D "id" := by rw [Doc.get_union, if_neg hid]
    rw [if_neg hid, withSnapshotId, withSnapshotId, hunion]
    split_ifs
    · rw [Doc.get_insert, Doc.get_insert, if_pos rfl, if_pos rfl]
    · exact hunion
  · rw [withSnapshotId_get_of_ne hk, withSnapshotId_get_of_ne hk, Doc.get_union]

/-- The editor leaves the encoding of a posting alone except under two keys. -/
theorem get_resaved {k : String} (hrating : k ≠ "rating") (hamenities : k ≠ "amenities") :
    (PostingFirestoreExtension.toFirestore env.order (resaved p)).get k =
      (PostingFirestoreExtension.toFirestore env.order p).get k := by
  have hget (e : Posting) : (PostingFirestoreExtension.toFirestore env.order e).get k =
      ((encodedFields env.order .posting e).lookup k).join.getD .null :=
    get_convert (T := .posting) k
  have hrating' : (k == "rating") = false := beq_eq_false_iff_ne.mpr hrating
  have hamenities' : (k == "amenities") = false := beq_eq_false_iff_ne.mpr hamenities
  rw [hget, hget]
  obtain ⟨⟩ := p
  simp only [resaved, encodedFields, List.lookup_cons, hrating', hamenities']

/-- Nor does it matter elsewhere that the form knows no id. -/
theorem get_unnamed {k : String} (hi : p.id ≠ "") (hk : k ≠ "id") :
    (PostingFirestoreExtension.toFirestore env.order { resaved p with id := "" }).get k =
      (PostingFirestoreExtension.toFirestore env.order (resaved p)).get k := by
  have hwithId : (PostingFirestoreExtension.toFirestore env.order
      { { resaved p with id := "" } with id := p.id }).get k = if k = "id" then .string p.id
        else (PostingFirestoreExtension.toFirestore env.order { resaved p with id := "" }).get k :=
    get_toFirestore_withId hi k
  rw [if_neg hk] at hwithId
  exact hwithId.symm

theorem Editable.lookup_sent (h : Editable uuid validatesDisabled env p) (k : String) :
    (sentData uuid env p).lookup k =
      ((encodedFields env.order .posting { resaved p with id := "" }).lookup k).join := by
  rw [h.sentData_eq]
  exact lookup_convert env.order .posting _ k

theorem Editable.id_notMem_sent (h : Editable uuid validatesDisabled env p) :
    "id" ∉ sentData uuid env p := by
  rw [← AList.lookup_eq_none, h.lookup_sent]
  rfl

theorem Editable.rating_mem_sent (h : Editable uuid validatesDisabled env p) :
    "rating" ∈ sentData uuid env p := by
  apply FiniteMap.mem_of_lookup_eq_some (v := .double (5 / 2))
  rw [h.lookup_sent]
  rfl

theorem Editable.amenities_mem_sent (h : Editable uuid validatesDisabled env p) :
    "amenities" ∈ sentData uuid env p := by
  have hne : spaced p.amenities ≠ [] := by
    obtain ⟨a, l, hl⟩ := List.exists_cons_of_ne_nil h.amenities_ne
    rw [hl, spaced_cons]
    exact List.cons_ne_nil _ _
  apply FiniteMap.mem_of_lookup_eq_some (v := .list ((spaced p.amenities).map .string))
  rw [h.lookup_sent]
  change Encode.strings (spaced p.amenities) = _
  rw [Encode.strings, if_neg hne]

/-- The merged document is the posting as the editor leaves it. -/
theorem Editable.fromMap_merged (h : Editable uuid validatesDisabled env p) {D : Doc}
    (hD : fromDocumentSnapshot env.zone .posting p.id D = .ok p) :
    fromDocumentSnapshot env.zone .posting p.id (sentData uuid env p ∪ D) = .ok (resaved p) := by
  have hp : fromMap env.zone .posting (convert env.order .posting p) = .ok p :=
    fromMap_convert (wholeMilliseconds_posting p)
  have hresaved : fromMap env.zone .posting (convert env.order .posting (resaved p)) =
      .ok (resaved p) :=
    fromMap_convert (wholeMilliseconds_posting _)
  refine Eq.trans ?_ hresaved
  apply fromMap_congr
  intro f hf
  rw [get_withSnapshotId_union h.id_notMem_sent]
  split_ifs with hmem
  · -- what was sent is read
    have hkey : f.key ≠ "id" := by
      intro hkey
      exact h.id_notMem_sent (hkey ▸ hmem)
    rw [h.sentData_eq]
    exact congrArg f.decode (get_unnamed h.id_ne hkey)
  · -- what was not sent is read as before
    have hrating : f.key ≠ "rating" := by
      intro hkey
      exact hmem (hkey ▸ h.rating_mem_sent)
    have hamenities : f.key ≠ "amenities" := by
      intro hkey
      exact hmem (hkey ▸ h.amenities_mem_sent)
    rw [(entity_eq_iff hD hp).mp rfl f hf]
    exact congrArg f.decode (get_resaved hrating hamenities).symm

section Worlds

variable {w : World} {D : Doc}

/-- Nothing of it depends on the world in which the posting is saved. -/
theorem Editable.inWorld (h : Editable uuid validatesDisabled env p) (w : World) :
    Editable uuid validatesDisabled { env with world := w } p :=
  ⟨h.id_ne, h.owner, h.name, h.type, h.description, h.address, h.city, h.country, h.price, h.lowers,
    h.amenities, h.valid⟩

theorem Editable.updatePosting_eq (h : Editable uuid validatesDisabled env p)
    (hD : StoredAs env.zone p w D) :
    PostingRepository.updatePosting env.zone p.id (sentData uuid env p) w = (.ok (resaved p),
      ⟨w.remote.putDoc FirestoreCollection.posting p.id (sentData uuid env p ∪ D)
          (.update FirestoreCollection.posting p.id),
        createUnawaited w.realm .posting (resaved p)⟩) :=
  updateAndRead_eq_ok hD.remote h.fromMap_sent rfl h.id_ne

theorem Editable.createPosting_opened (h : Editable uuid validatesDisabled env p)
    (hD : StoredAs env.zone p env.world D) :
    createPosting env (some (formValid validatesDisabled (opened uuid env p)))
        (opened uuid env p) =
      (true, { opened uuid env p with isLoading := false },
        (PostingRepository.updatePosting env.zone p.id (sentData uuid env p) env.world).2) := by
  have hvalid : ¬ some (formValid validatesDisabled (opened uuid env p)) = some false := by
    rw [h.valid]
    exact fun hfalse => absurd (Option.some.inj hfalse) (by decide)
  rw [createPosting, if_neg hvalid, h.submit_opened, h.updatePosting_eq hD]

theorem Editable.openAndSave_eq (h : Editable uuid validatesDisabled env p)
    (hD : StoredAs env.zone p w D) :
    openAndSave uuid validatesDisabled env p.id w =
      (PostingRepository.updatePosting env.zone p.id (sentData uuid env p) w).2 := by
  have hcreate := (h.inWorld w).createPosting_opened hD
  rw [openAndSave, hD.row]
  exact congrArg (fun result => result.2.2) hcreate

/-- A posting that the editor does not change is still stored after it was saved. -/
theorem Editable.storedAs_saved (h : Editable uuid validatesDisabled env p)
    (hp : Restorable p) (hD : StoredAs env.zone p w D) :
    StoredAs env.zone p (openAndSave uuid validatesDisabled env p.id w)
      (sentData uuid env p ∪ D) := by
  have hmerged := h.fromMap_merged hD.decodes
  rw [h.openAndSave_eq hD, h.updatePosting_eq hD]
  rw [resaved_eq_iff.mpr hp] at hmerged ⊢
  refine ⟨?_, hmerged, ?_⟩
  · rw [Firestore.doc_putDoc, if_pos ⟨rfl, rfl⟩]
  · have hne : Entity.id .posting p ≠ "" := h.id_ne
    rw [getEntity_createUnawaited_self hne]
    exact if_pos rfl

theorem Editable.unchanged_iterate (h : Editable uuid validatesDisabled env p)
    (hp : Restorable p) (hD : Unchanged env.zone p w) (n : ℕ) :
    Unchanged env.zone p ((openAndSave uuid validatesDisabled env p.id)^[n] w) := by
  induction n with
  | zero => exact hD
  | succ n ih =>
      obtain ⟨D, hD⟩ := ih
      rw [Function.iterate_succ_apply']
      exact ⟨sentData uuid env p ∪ D, h.storedAs_saved hp hD⟩

theorem Editable.resaved_of_unchanged (h : Editable uuid validatesDisabled env p)
    (hD : StoredAs env.zone p w D)
    (hsaved : Unchanged env.zone p (openAndSave uuid validatesDisabled env p.id w)) :
    resaved p = p := by
  obtain ⟨D', hD'⟩ := hsaved
  have hremote := hD'.remote
  rw [h.openAndSave_eq hD, h.updatePosting_eq hD, Firestore.doc_putDoc, if_pos ⟨rfl, rfl⟩]
    at hremote
  have hdecodes := hD'.decodes
  rw [← Option.some.inj hremote] at hdecodes
  exact Except.ok.inj ((h.fromMap_merged hD.decodes).symm.trans hdecodes)

end Worlds

/-- Saving the unedited form sends what the form shows. It gives the posting back, and keeps giving
it back, exactly if the rating is 2.5 and there is one amenity only. -/
theorem openAndSave_unchanged_iff {D : Doc} (h : Editable uuid validatesDisabled env p)
    (hD : StoredAs env.zone p env.world D) :
    createPosting env (some (formValid validatesDisabled (opened uuid env p)))
        (opened uuid env p) =
      (true, { opened uuid env p with isLoading := false },
        (PostingRepository.updatePosting env.zone p.id (sentData uuid env p) env.world).2) ∧
    (fromDocumentSnapshot env.zone .posting p.id (sentData uuid env p ∪ D) = .ok p ↔
      Restorable p) ∧
    ((∀ n, Unchanged env.zone p ((openAndSave uuid validatesDisabled env p.id)^[n] env.world)) ↔
      Restorable p) := by
  refine ⟨h.createPosting_opened hD, ?_, ?_, ?_⟩
  · rw [h.fromMap_merged hD.decodes, Except.ok.injEq]
    exact resaved_eq_iff
  · intro hall
    exact resaved_eq_iff.mp (h.resaved_of_unchanged hD (hall 1))
  · intro hp n
    exact h.unchanged_iterate hp ⟨D, hD⟩ n

end Saved

section Saves

def wholePrices : DoubleText where
  tryParse s :=
    let digits := s.toList.takeWhile Char.isDigit
    let rest := s.toList.drop digits.length
    if digits ≠ [] ∧ (rest = [] ∨ rest = ['.', '0']) then
      some (Nat.ofDigitChars 10 digits 0 : ℕ)
    else none
  toString q := toString q.num ++ ".0"
  toStringAsFixed q := toString q.num

def hostHolding (p : Posting) : Surroundings where
  zone := Zone.utc
  ids := AutoId.longer
  order := IterationOrder.sorted
  text := wholePrices
  toLowerCase s := s.map Char.toLower
  upload _ := .ok none
  userId := .ok (some "h1")
  world := deviceHolding .posting FirestoreCollection.posting p.id
    (PostingFirestoreExtension.toFirestore IterationOrder.sorted p) p

def loft (rating : ℚ) (amenities : List String) : Posting where
  id := "p1"
  name := some "Loft"
  type := some "Apartment"
  price := some 80
  description := some "Under the roof"
  address := some "1 High Street"
  city := some "Hanoi"
  country := some "Vietnam"
  rating := some rating
  hostId := some "h1"
  lat := 21
  lon := 105
  images := ["front.jpg"]
  amenities := amenities
  beds := ∅
  bathrooms := ∅

theorem map_eq_self_iff (f : Char → Char) (s : String) :
    s.map f = s ↔ ∀ c ∈ s.toList, f c = c := by
  rw [← String.toList_inj, String.toList_map]
  nth_rewrite 2 [← List.map_id s.toList]
  rw [List.map_inj_left]
  rfl

theorem lowersByCharacter_map : LowersByCharacter (fun s => s.map Char.toLower) where
  fixes s h := by
    simp only [map_eq_self_iff] at h ⊢
    intro c hc
    apply h c hc
    simp
  comma := (map_eq_self_iff _ _).mpr (List.forall_mem_singleton.mpr rfl)
  space := (map_eq_self_iff _ _).mpr (List.forall_mem_singleton.mpr rfl)

theorem storedAs_hostHolding {p : Posting} (hp : p.id ≠ "") :
    StoredAs Zone.utc p (hostHolding p).world
      (PostingFirestoreExtension.toFirestore IterationOrder.sorted p) := by
  have hget : (convert IterationOrder.sorted .posting p).get "id" = .string p.id := by
    rw [get_convert]
    obtain ⟨⟩ := p
    change (Encode.id _).getD .null = _
    rw [Encode.id, if_neg hp]
    rfl
  have hsnapshot : withSnapshotId p.id (convert IterationOrder.sorted .posting p) =
      convert IterationOrder.sorted .posting p := by
    rw [withSnapshotId, hget]
    exact if_neg (fun h => by cases h)
  have hrow : Entity.id .posting p ≠ "" := hp
  refine ⟨?_, ?_, ?_⟩
  · rw [hostHolding, deviceHolding, Firestore.set, Firestore.doc_putDoc, if_pos ⟨rfl, rfl⟩]
  · have hdecoded : fromMap Zone.utc .posting (convert IterationOrder.sorted .posting p) = .ok p :=
      fromMap_convert (wholeMilliseconds_posting p)
    rw [← hsnapshot] at hdecoded
    exact hdecoded
  · rw [hostHolding, deviceHolding, getEntity_createUnawaited_self hrow]
    exact if_pos rfl

theorem amenity_of_all {s : String} (hne : s ≠ "")
    (h : s.toList.all (fun c => c ≠ ',' ∧ c ≠ ' ' ∧ c.toLower = c) = true) :
    Amenity (fun s => s.map Char.toLower) s := by
  have hchars : ∀ c ∈ s.toList, c ≠ ',' ∧ c ≠ ' ' ∧ c.toLower = c := by simpa using h
  refine ⟨hne, ?_, ?_, ?_, ?_⟩
  · intro hmem
    exact (hchars _ hmem).1 rfl
  · intro hhead
    exact (hchars _ (List.mem_of_mem_head? hhead)).2.1 rfl
  · intro hlast
    exact (hchars _ (List.mem_of_mem_getLast? hlast)).2.1 rfl
  · intro c hc
    rw [map_eq_self_iff]
    intro c' hc'
    obtain rfl : c' = c := by simpa using hc'
    exact (hchars _ hc).2.2

variable {rating : ℚ} {amenities : List String}

theorem editable_loft (hne : ", ".intercalate amenities ≠ "")
    (ha : ∀ s ∈ amenities, Amenity (fun s => s.map Char.toLower) s) :
    Editable (fun _ => "item") true (hostHolding (loft rating amenities))
      (loft rating amenities) where
  id_ne := by simp [loft]
  owner := ⟨"h1", rfl, rfl⟩
  name := rfl
  type := rfl
  description := rfl
  address := rfl
  city := rfl
  country := rfl
  price :=
    have hprice : wholePrices.tryParse (wholePrices.toString 80) = some 80 := by decide +kernel
    ⟨80, rfl, hprice⟩
  lowers := lowersByCharacter_map
  amenities := ha
  valid := by
    have hprice : wholePrices.toString 80 ≠ "" := by decide +kernel
    simp [formValid, validatePostingNameField, validatePriceNameField, validateDescriptionField,
      validateAmenitiesField, validateAddressField, validateField_eq_none_iff, opened,
      setUpInitialValues, Device.valid, loft, hostHolding, hprice, hne]

theorem editable_plainLoft :
    Editable (fun _ => "item") true (hostHolding (loft (5 / 2) ["wifi"]))
      (loft (5 / 2) ["wifi"]) := by
  apply editable_loft (by decide)
  rw [List.forall_mem_singleton]
  exact amenity_of_all (by decide) (by decide)

theorem plainLoft_stays_unchanged : Restorable (loft (5 / 2) ["wifi"]) ∧
    ∀ n, Unchanged Zone.utc (loft (5 / 2) ["wifi"])
      ((openAndSave (fun _ => "item") true (hostHolding (loft (5 / 2) ["wifi"])) "p1")^[n]
        (hostHolding (loft (5 / 2) ["wifi"])).world) := by
  have hp : Restorable (loft (5 / 2) ["wifi"]) := ⟨rfl, le_rfl⟩
  have hstored := storedAs_hostHolding (p := loft (5 / 2) ["wifi"]) (by decide)
  exact ⟨hp, (openAndSave_unchanged_iff editable_plainLoft hstored).2.2.mpr hp⟩

theorem editable_ratedLoft :
    Editable (fun _ => "item") true (hostHolding (loft 4 ["wifi", "pool"]))
      (loft 4 ["wifi", "pool"]) := by
  apply editable_loft (by decide)
  rw [List.forall_mem_cons, List.forall_mem_singleton]
  exact ⟨amenity_of_all (by decide) (by decide), amenity_of_all (by decide) (by decide)⟩

/-- One save takes the rating of 4 away and puts a space in front of the second amenity. -/
theorem saving_spoils_ratedLoft :
    Editable (fun _ => "item") true (hostHolding (loft 4 ["wifi", "pool"]))
      (loft 4 ["wifi", "pool"]) ∧
    ∃ D, StoredAs Zone.utc (loft 4 ["wifi", "pool"]) (hostHolding (loft 4 ["wifi", "pool"])).world
        D ∧
      fromDocumentSnapshot Zone.utc .posting "p1"
          (sentData (fun _ => "item") (hostHolding (loft 4 ["wifi", "pool"]))
            (loft 4 ["wifi", "pool"]) ∪ D) =
        .ok (loft (5 / 2) ["wifi", " pool"]) ∧
      loft (5 / 2) ["wifi", " pool"] ≠ loft 4 ["wifi", "pool"] ∧
      ¬ ∀ n, Unchanged Zone.utc (loft 4 ["wifi", "pool"])
        ((openAndSave (fun _ => "item") true (hostHolding (loft 4 ["wifi", "pool"])) "p1")^[n]
          (hostHolding (loft 4 ["wifi", "pool"])).world) := by
  have hstored := storedAs_hostHolding (p := loft 4 ["wifi", "pool"]) (by decide)
  have hne : loft (5 / 2) ["wifi", " pool"] ≠ loft 4 ["wifi", "pool"] := by
    intro h
    exact absurd (congrArg Posting.amenities h) (by decide)
  have hmerged := editable_ratedLoft.fromMap_merged hstored.decodes
  refine ⟨editable_ratedLoft, _, hstored, hmerged, hne, ?_⟩
  intro hall
  exact hne (editable_ratedLoft.resaved_of_unchanged hstored (hall 1))

end Saves

end UpdatePostingCubit

end AirBnbClone
