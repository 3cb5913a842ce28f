import AirBnbClone.CallHistory
import AirBnbClone.Execution
import AirBnbClone.NumericFields
import AirBnbClone.PostingResaved

/-!
# A session of the posting editor

The text fields and the counters of the form keep what they show in states of their own, the cubit
keeps what is saved. A save takes the photos when the button is tapped, the name, the type and the
place after the last upload, and the rest after it has been told the user, so that an edit made
meanwhile gets into a part of the posting. When a save ends well the screen pops what lies on top,
which is the search for a place or the menu of the types if the host has opened it meanwhile.
-/

namespace AirBnbClone

open Async FirestoreMapper

inductive Facility
  | twinSingle
  | double
  | queenKing
  | full
  | half
  deriving DecidableEq

inductive EditorField
  | name
  | price
  | description
  | amenities
  deriving DecidableEq

structure PlaceFields where
  address : String
  city : String
  country : String
  lat : ℚ
  lon : ℚ
  deriving DecidableEq

namespace PlaceFields

def ofPlace (place : Place) : PlaceFields :=
  ⟨place.address.getD "", place.city.getD "", place.country.getD "", place.lat.getD 0,
    place.lon.getD 0⟩

def ofState (s : UpdatePostingState) : PlaceFields := ⟨s.address, s.city, s.country, s.lat, s.lon⟩

end PlaceFields

namespace UpdatePostingCubit

abbrev Counts := Option (Finmap fun _ : String => ℤ)

def countNo (counts : Counts) (kind : String) : ℤ := (counts.bind (Finmap.lookup kind)).getD 0

def withCount (counts : Counts) (kind : String) (value : ℤ) : Counts :=
  some ((counts.getD ∅).insert kind value)

def getBedNo (kind : String) (s : UpdatePostingState) : ℤ := countNo s.beds kind

def getBathroomNo (kind : String) (s : UpdatePostingState) : ℤ := countNo s.bathrooms kind

def updateBedNo (kind : String) (value : ℤ) (s : UpdatePostingState) : UpdatePostingState :=
  { s with beds := withCount s.beds kind value }

def updateBathroomNo (kind : String) (value : ℤ) (s : UpdatePostingState) : UpdatePostingState :=
  { s with bathrooms := withCount s.bathrooms kind value }

def updateName (value : String) (s : UpdatePostingState) : UpdatePostingState :=
  { s with name := value }

def updatePrice (value : String) (s : UpdatePostingState) : UpdatePostingState :=
  { s with price := value }

def updateDescription (value : String) (s : UpdatePostingState) : UpdatePostingState :=
  { s with description := value }

def updateAmenities (value : String) (s : UpdatePostingState) : UpdatePostingState :=
  { s with amenities := value }

/-- `copyWith` keeps the type if it is given none. -/
def updatePropertyTypeChosen (value : Option String) (s : UpdatePostingState) :
    UpdatePostingState :=
  { s with propertyTypeChosen := value.or s.propertyTypeChosen }

def updatePlace (place : Option Place) (s : UpdatePostingState) : UpdatePostingState :=
  match place with
  | none => s
  | some place => { s with
      address := place.address.getD ""
      city := place.city.getD ""
      country := place.country.getD ""
      lat := place.lat.getD 0
      lon := place.lon.getD 0 }

end UpdatePostingCubit

open UpdatePostingCubit

namespace Facility

def get : Facility → UpdatePostingState → ℤ
  | .twinSingle => getBedNo "small"
  | .double => getBedNo "medium"
  | .queenKing => getBedNo "large"
  | .full => getBathroomNo "full"
  | .half => getBathroomNo "half"

def update : Facility → ℤ → UpdatePostingState → UpdatePostingState
  | .twinSingle => updateBedNo "small"
  | .double => updateBedNo "medium"
  | .queenKing => updateBedNo "large"
  | .full => updateBathroomNo "full"
  | .half => updateBathroomNo "half"

def ofPosting : Facility → Posting → ℤ
  | .twinSingle, p => countNo (some p.beds) "small"
  | .double, p => countNo (some p.beds) "medium"
  | .queenKing, p => countNo (some p.beds) "large"
  | .full, p => countNo (some p.bathrooms) "full"
  | .half, p => countNo (some p.bathrooms) "half"

end Facility

namespace EditorField

def get : EditorField → UpdatePostingState → String
  | .name => UpdatePostingState.name
  | .price => UpdatePostingState.price
  | .description => UpdatePostingState.description
  | .amenities => UpdatePostingState.amenities

def update : EditorField → String → UpdatePostingState → UpdatePostingState
  | .name => updateName
  | .price => updatePrice
  | .description => updateDescription
  | .amenities => updateAmenities

def validate : EditorField → Option String → Option String
  | .name => validatePostingNameField
  | .price => validatePriceNameField
  | .description => validateDescriptionField
  | .amenities => validateAmenitiesField

end EditorField

namespace FacilitiesWidget

def minus (value : ℤ) : ℤ := max 0 (min (value - 1) 9999)

def plus (value : ℤ) : ℤ := value + 1

end FacilitiesWidget

/-- What the widgets of the form keep themselves: the texts of the fields, the one in the address
controller, and the values of the counters. -/
@[ext]
structure EditorForm where
  text : EditorField → String
  address : String
  count : Facility → ℤ

namespace EditorForm

def ofState (s : UpdatePostingState) : EditorForm where
  text f := f.get s
  address := s.address
  count f := f.get s

/-- `formKey.currentState?.validate()`, on what the fields show. -/
def validate (validatesDisabled : Bool) (form : EditorForm) : Bool :=
  (EditorField.name.validate (some (form.text .name))).isNone &&
    (EditorField.price.validate (some (form.text .price))).isNone &&
    (EditorField.description.validate (some (form.text .description))).isNone &&
    (EditorField.amenities.validate (some (form.text .amenities))).isNone &&
    (!validatesDisabled || (validateAddressField (some form.address)).isNone)

end EditorForm

inductive EditorCall
  | uploadImage (item : BaseItemModel File)
  | userId
  | updatePosting (id : String) (data : Doc)
  | createPosting (data : Doc)

/-- A URL or a user; of a stored posting nothing is read. -/
abbrev EditorReply : EditorCall → Type := fun _ => Option String

def EditorCall.data : EditorCall → Option Doc
  | .uploadImage _ => none
  | .userId => none
  | .updatePosting _ data => some data
  | .createPosting data => some data

abbrev EditorM (α : Type) := Prog EditorReply UpdatePostingState DartError α

namespace EditorSession

def imageUrl (item : BaseItemModel File) : EditorM (Option String) :=
  match item.tag with
  | "plus_item" => pure none
  | "remote_image" => pure (some item.imageUrl)
  | "local_image" =>
      match item.object with
      | none => .done (.error .typeError)
      | some _ => Prog.call (.uploadImage item)
  | _ => pure none

def imageUrls : List (BaseItemModel File) → EditorM (List String)
  | [] => pure []
  | item :: items => do
      let url : Option String ← imageUrl item
      let urls ← imageUrls items
      pure (url.toList ++ urls)

/-- What the posting is put together from: the arguments of its constructor up to `hostId` are
evaluated before the user is known, those behind it after. -/
def evaluated (before after : UpdatePostingState) : UpdatePostingState :=
  { after with
    name := before.name
    propertyTypeChosen := before.propertyTypeChosen
    price := before.price
    description := before.description
    address := before.address
    city := before.city
    country := before.country }

def store (data : Doc) : EditorM Unit := do
  let s ← Prog.state
  match s.posting.filter Managed.isValid with
  | some p => do
      let _ : Option String ← Prog.call (.updatePosting p.object.id data)
  | none => do
      let _ : Option String ← Prog.call (.createPosting data)

variable (env : Surroundings)

def submit : EditorM Unit := do
  let tapped ← Prog.state
  let urls ← imageUrls tapped.imageItems
  let before ← Prog.state
  let userId : Option String ← Prog.call .userId
  let after ← Prog.state
  store (PostingFirestoreExtension.toFirestore env.order
    (posting env (evaluated before after) userId urls))

def save : EditorM Bool := do
  Prog.emitWith (fun s => { s with isLoading := true })
  Prog.tryCatch
    (do
      submit env
      Prog.emitWith (fun s => { s with isLoading := false })
      pure true)
    (fun _ => do
      Prog.emitWith (fun s => { s with isLoading := false })
      pure false)

def handle : EditorCall → World → Except DartError (Option String) × World
  | .uploadImage item, w => (env.upload item, w)
  | .userId, w => (env.userId, w)
  | .updatePosting id data, w =>
      ((PostingRepository.updatePosting env.zone id data w).1.map (fun _ => none),
        (PostingRepository.updatePosting env.zone id data w).2)
  | .createPosting data, w =>
      ((PostingRepository.createPosting env.zone env.ids data w).1.map (fun _ => none),
        (PostingRepository.createPosting env.zone env.ids data w).2)

/-- What a save has been answered so far, whether its posting is stored, and whether the screen
shows that it is under way. -/
structure Progress where
  answers : List (Option String) := []
  stored : Bool := false
  loading : Bool := false

/-- The URLs for the photos, given the answers to the uploads in their order. -/
def gather : List (BaseItemModel File) → List (Option String) → List String
  | [], _ => []
  | item :: items, answers =>
      match item.tag with
      | "remote_image" => item.imageUrl :: gather items answers
      | "local_image" => answers.head?.join.toList ++ gather items answers.tail
      | _ => gather items answers

def record (call : EditorCall) (reply : Except DartError (Option String)) (h : Progress) :
    Progress :=
  match call, reply with
  | .uploadImage _, .ok url => { h with answers := h.answers ++ [url] }
  | .updatePosting _ _, .ok _ => { h with stored := true }
  | .createPosting _, .ok _ => { h with stored := true }
  | _, _ => h

def note (s : UpdatePostingState) (h : Progress) : Progress := { h with loading := s.isLoading }

section Program

variable (J : UpdatePostingState → Prop)

def Fits (h : Progress) (s : UpdatePostingState) : Prop := s.isLoading = h.loading ∧ J s

/-- A call of a save that is under way. What it hands over is put together from the states in which
the form is read. -/
def Calls (h : Progress) (call : EditorCall) : Prop :=
  h.loading = true ∧ h.stored = false ∧ ∀ data ∈ call.data, ∃ tapped before after userId,
    J tapped ∧ J before ∧ J after ∧ data = PostingFirestoreExtension.toFirestore env.order
      (posting env (evaluated before after) userId (gather tapped.imageItems h.answers))

def Ends (h : Progress) (result : Except DartError Bool) : Prop :=
  h.loading = false ∧ result = .ok h.stored

variable {env J} {h : Progress}

theorem ensures_imageUrl (item : BaseItemModel File) (hloading : h.loading = true)
    (hstored : h.stored = false) :
    Prog.Ensures record note (Fits J) (Calls env J)
      (fun h' r => (∃ answers, h' = { h with answers := h.answers ++ answers } ∧
        ∀ url, r = .ok url → ∀ items rest,
          gather (item :: items) (answers ++ rest) = url.toList ++ gather items rest))
      h (imageUrl item) := by
  have hnone : h = { h with answers := h.answers ++ [] } := by rw [List.append_nil]
  unfold imageUrl
  split
  · next htag =>
      refine ⟨[], hnone, ?_⟩
      rintro url ⟨⟩ items rest
      simp [gather, htag]
  · next htag =>
      refine ⟨[], hnone, ?_⟩
      rintro url ⟨⟩ items rest
      simp [gather, htag]
  · next htag =>
      split
      · exact ⟨[], hnone, nofun⟩
      · refine ⟨⟨hloading, hstored, nofun⟩, ?_⟩
        rintro (e | url)
        · exact ⟨[], hnone, nofun⟩
        · refine ⟨[url], rfl, ?_⟩
          rintro _ ⟨⟩ items rest
          simp [gather, htag]
  · next hplus hremote hlocal =>
      refine ⟨[], hnone, ?_⟩
      rintro url ⟨⟩ items rest
      simp only [List.nil_append, Option.toList_none]
      rw [gather]
      split
      · next htag => exact absurd htag hremote
      · next htag => exact absurd htag hlocal
      · rfl

/-- Behind the answers that were there before come those to the uploads of the items. -/
theorem ensures_imageUrls (items : List (BaseItemModel File)) (hloading : h.loading = true)
    (hstored : h.stored = false) :
    Prog.Ensures record note (Fits J) (Calls env J)
      (fun h' r => ∃ answers, h' = { h with answers := h.answers ++ answers } ∧
        ∀ urls, r = .ok urls → gather items answers = urls)
      h (imageUrls items) := by
  induction items generalizing h with
  | nil =>
      refine ⟨[], by rw [List.append_nil], ?_⟩
      rintro urls ⟨⟩
      rfl
  | cons item items ih =>
      refine (ensures_imageUrl item hloading hstored).bind ?_ ?_
      · rintro h' url ⟨answers, rfl, hfirst⟩
        have hitems := @ih { h with answers := h.answers ++ answers } hloading hstored
        refine hitems.bind ?_ ?_
        · rintro h'' urls ⟨rest, rfl, hrest⟩
          refine ⟨answers ++ rest, by rw [List.append_assoc], ?_⟩
          rintro _ ⟨⟩
          rw [hfirst url rfl, hrest urls rfl]
        · rintro h'' e ⟨rest, rfl, -⟩
          exact ⟨answers ++ rest, by rw [List.append_assoc], nofun⟩
      · rintro h' e ⟨answers, rfl, -⟩
        exact ⟨answers, rfl, nofun⟩

theorem ensures_store {data : Doc} (hcalls : ∀ id, Calls env J h (.updatePosting id data))
    (hcreate : Calls env J h (.createPosting data)) :
    Prog.Ensures record note (Fits J) (Calls env J)
      (fun h' r => h'.loading = h.loading ∧ (r = .ok () ↔ h'.stored = true)) h (store data) := by
  have hstored : h.stored = false := hcreate.2.1
  refine Prog.ensures_state_bind fun s hs => ?_
  split
  · next p hp =>
      refine Prog.ensures_call_bind (hcalls _) (fun url => ?_) (fun e => ?_)
      · exact ⟨rfl, iff_of_true rfl rfl⟩
      · exact ⟨rfl, iff_of_false nofun (by simp [record, hstored])⟩
  · refine Prog.ensures_call_bind hcreate (fun url => ?_) (fun e => ?_)
    · exact ⟨rfl, iff_of_true rfl rfl⟩
    · exact ⟨rfl, iff_of_false nofun (by simp [record, hstored])⟩

theorem ensures_submit (hanswers : h.answers = []) (hloading : h.loading = true)
    (hstored : h.stored = false) :
    Prog.Ensures record note (Fits J) (Calls env J)
      (fun h' r => h'.loading = true ∧ (r = .ok () ↔ h'.stored = true)) h (submit env) := by
  refine Prog.ensures_state_bind fun tapped htapped => ?_
  refine (ensures_imageUrls tapped.imageItems hloading hstored).bind ?_ ?_
  · rintro h' urls ⟨answers, rfl, hurls⟩
    refine Prog.ensures_state_bind fun before hbefore => ?_
    refine Prog.ensures_call_bind ⟨hloading, hstored, nofun⟩ (fun userId => ?_) (fun e => ?_)
    · refine Prog.ensures_state_bind fun after hafter => ?_
      have hcall : ∀ call, EditorCall.data call = some (PostingFirestoreExtension.toFirestore
          env.order (posting env (evaluated before after) userId urls)) →
          Calls env J { h with answers := h.answers ++ answers } call := by
        intro call hcall
        refine ⟨hloading, hstored, ?_⟩
        intro data hdata
        obtain rfl := Option.some_inj.mp (hcall.symm.trans hdata)
        refine ⟨tapped, before, after, userId, htapped.2, hbefore.2, hafter.2, ?_⟩
        rw [hanswers, List.nil_append, hurls urls rfl]
      refine (ensures_store (fun id => hcall _ rfl) (hcall _ rfl)).mono ?_
      rintro h' r ⟨hsame, hended⟩
      exact ⟨hsame.trans hloading, hended⟩
    · exact ⟨hloading, iff_of_false nofun (by simp [record, hstored])⟩
  · rintro h' e ⟨answers, rfl, -⟩
    exact ⟨hloading, iff_of_false nofun (by simp [hstored])⟩

/-- A save makes no call any more once the posting is stored, ends with what it has done, and hands
over what it has read. -/
theorem ensures_save (hJ : ∀ s loading, J s → J { s with isLoading := loading }) :
    Prog.Ensures record note (Fits J) (Calls env J) Ends {} (save env) := by
  refine Prog.ensures_emitWith_bind fun s hs => ⟨⟨rfl, hJ s true hs.2⟩, ?_⟩
  have hended (stored : Bool) (h : Progress) (hstored : h.stored = stored) :
      Prog.Ensures record note (Fits J) (Calls env J) Ends h (do
        Prog.emitWith (fun s => { s with isLoading := false })
        pure stored) :=
    Prog.ensures_emitWith_bind fun s hs =>
      ⟨⟨rfl, hJ s false hs.2⟩, rfl, congrArg Except.ok hstored.symm⟩
  have hbody : Prog.Ensures record note (Fits J) (Calls env J)
      (fun h r => (∀ a, r = .ok a → Ends h (.ok a)) ∧ ∀ e, r = .error e → h.stored = false)
      { loading := true } (do
        submit env
        Prog.emitWith (fun s => { s with isLoading := false })
        pure true) := by
    refine (ensures_submit rfl rfl rfl).bind ?_ ?_
    · rintro h ⟨⟩ ⟨-, hstored⟩
      refine (hended true h (hstored.mp rfl)).mono ?_
      rintro h' r ⟨hloading, rfl⟩
      exact ⟨fun a ha => ⟨hloading, by rw [← ha]⟩, nofun⟩
    · rintro h e ⟨-, hstored⟩
      refine ⟨nofun, fun _ _ => Bool.eq_false_iff.mpr (fun h => ?_)⟩
      cases hstored.mpr h
  refine hbody.tryCatch (fun h a hpost => hpost.1 a rfl) (fun h e hpost => ?_)
  exact hended false h (hpost.2 e rfl)

end Program

section Sequential

variable {env} {s : UpdatePostingState} {w : World}

theorem exec_imageUrl (item : BaseItemModel File) :
    Prog.exec (handle env) (imageUrl item) s w =
      (UpdatePostingCubit.imageUrl env item, s, w) := by
  unfold imageUrl
  split
  · next htag => simp [UpdatePostingCubit.imageUrl, htag]
  · next htag => simp [UpdatePostingCubit.imageUrl, htag]
  · next htag =>
      split
      · next hobject => simp [UpdatePostingCubit.imageUrl, htag, hobject, Prog.exec]
      · next hobject => simp [UpdatePostingCubit.imageUrl, htag, hobject, handle]
  · next hplus hremote hlocal =>
      unfold UpdatePostingCubit.imageUrl
      split
      · next htag => exact absurd htag hplus
      · next htag => exact absurd htag hremote
      · next htag => exact absurd htag hlocal
      · rfl

theorem exec_imageUrls (items : List (BaseItemModel File)) :
    Prog.exec (handle env) (imageUrls items) s w =
      (UpdatePostingCubit.imageUrls env items, s, w) := by
  induction items with
  | nil => rfl
  | cons item items ih =>
      unfold imageUrls
      rw [Prog.exec_bind, exec_imageUrl]
      unfold UpdatePostingCubit.imageUrls at ih ⊢
      rw [List.mapM_cons]
      cases hurl : UpdatePostingCubit.imageUrl env item with
      | error e => rfl
      | ok url =>
          dsimp only
          rw [Prog.exec_bind, ih]
          cases hurls : items.mapM (UpdatePostingCubit.imageUrl env) with
          | error e => rfl
          | ok urls =>
              cases url with
              | none => rfl
              | some url => rfl

theorem exec_store (data : Doc) :
    Prog.exec (handle env) (store data) s w =
      ((UpdatePostingCubit.store env s.posting data w).1.map (fun _ => ()), s,
        (UpdatePostingCubit.store env s.posting data w).2) := by
  unfold store UpdatePostingCubit.store
  rw [Prog.exec_bind, Prog.exec_state]
  dsimp only
  cases s.posting.filter Managed.isValid with
  | none =>
      dsimp only
      rw [Prog.exec_bind, Prog.exec_call, handle]
      cases PostingRepository.createPosting env.zone env.ids data w with
      | mk r w' => cases r <;> rfl
  | some p =>
      dsimp only
      rw [Prog.exec_bind, Prog.exec_call, handle]
      cases PostingRepository.updatePosting env.zone p.object.id data w with
      | mk r w' => cases r <;> rfl

theorem exec_submit :
    Prog.exec (handle env) (submit env) s env.world =
      ((UpdatePostingCubit.submit env s).1.map (fun _ => ()), s,
        (UpdatePostingCubit.submit env s).2) := by
  unfold submit UpdatePostingCubit.submit
  rw [Prog.exec_bind, Prog.exec_state]
  dsimp only
  rw [Prog.exec_bind, exec_imageUrls]
  cases UpdatePostingCubit.imageUrls env s.imageItems with
  | error e => rfl
  | ok urls =>
      dsimp only
      rw [Prog.exec_bind, Prog.exec_state]
      dsimp only
      rw [Prog.exec_bind, Prog.exec_call, handle]
      cases env.userId with
      | error e => rfl
      | ok userId =>
          dsimp only
          rw [Prog.exec_bind, Prog.exec_state]
          exact exec_store _

end Sequential

section Frame

def fields (s : UpdatePostingState) : UpdatePostingState :=
  { s with isLoading := false, posting := none }

/-- A save leaves what the host fills in meanwhile. -/
abbrev FramesFields {α : Type} (p : EditorM α) : Prop := ∀ s, Prog.Frames fields p s

theorem framesFields_imageUrl (item : BaseItemModel File) : FramesFields (imageUrl item) := by
  intro s
  unfold imageUrl
  split
  · trivial
  · trivial
  · split
    · trivial
    · exact fun _ _ => trivial
  · trivial

theorem framesFields_imageUrls (items : List (BaseItemModel File)) :
    FramesFields (imageUrls items) := by
  induction items with
  | nil => exact fun _ => trivial
  | cons item items ih =>
      intro s
      refine (framesFields_imageUrl item s).bind (fun url s => ?_)
      exact (ih s).bind (fun _ _ => trivial)

theorem framesFields_store (data : Doc) : FramesFields (store data) := by
  intro s
  apply Prog.frames_state_bind
  split
  · rintro (e | url) _ <;> trivial
  · rintro (e | url) _ <;> trivial

theorem framesFields_submit : FramesFields (submit env) := by
  intro s
  apply Prog.frames_state_bind
  refine (framesFields_imageUrls s.imageItems s).bind (fun urls s => ?_)
  apply Prog.frames_state_bind
  refine Prog.frames_call_bind (fun userId s => ?_) s
  exact framesFields_store _ s

theorem framesFields_save : FramesFields (save env) := by
  intro s
  refine Prog.Frames.bind ⟨rfl, trivial⟩ (fun _ s => ?_)
  refine Prog.Frames.tryCatch ?_ (fun e s => ?_)
  · refine (framesFields_submit env s).bind (fun _ s => ?_)
    exact Prog.Frames.bind ⟨rfl, trivial⟩ (fun _ _ => trivial)
  · exact Prog.Frames.bind ⟨rfl, trivial⟩ (fun _ _ => trivial)

end Frame

/-- With nothing in between, a save does what `UpdatePostingCubit.createPosting` does. -/
theorem exec_save (s : UpdatePostingState) :
    Prog.exec (handle env) (save env) s env.world =
      (.ok (createPosting env (some true) s).1, (createPosting env (some true) s).2) := by
  have hloading : UpdatePostingCubit.submit env { s with isLoading := true } =
      UpdatePostingCubit.submit env s := rfl
  unfold save createPosting
  rw [Prog.exec_bind, Prog.exec_emitWith]
  dsimp only
  rw [Prog.exec_tryCatch, Prog.exec_bind, exec_submit, hloading,
    if_neg (by decide)]
  cases UpdatePostingCubit.submit env s with
  | mk r w => cases r <;> rfl

end EditorSession

/-- What is on the screen, with the place that its address belongs to. -/
structure EditorView where
  form : EditorForm
  type : Option String
  photos : List (BaseItemModel File)
  place : PlaceFields

structure Saving where
  view : EditorView
  progress : EditorSession.Progress
  program : EditorM Bool

structure Handover where
  view : EditorView
  answers : List (Option String)
  data : Doc

/-- A route over the form: the search for a place, or the menu that the dropdown of the types
opens. -/
inductive EditorCover
  | search
  | menu
  deriving DecidableEq

/-- The cubit and the screen. `cover` is what lies over the form, `closed` is set once the form has
been popped. `place` is the one last chosen, `handed` and `stored` are what has been handed over and
how often it was stored. -/
structure EditorSession where
  state : UpdatePostingState
  form : EditorForm
  cover : Option EditorCover := none
  closed : Bool := false
  saving : Option Saving := none
  place : PlaceFields
  handed : List Handover := []
  stored : ℕ := 0

/-- A type is chosen in the menu, a place found in the search. A completed pick leaves any photos;
`removed` is the deletion of the row that is edited. Going back leaves what lies on top, so that a
menu is closed without a choice. -/
inductive EditorEvent
  | typed (field : EditorField) (text : String)
  | openMenu
  | chosen (value : String)
  | minus (f : Facility)
  | plus (f : Facility)
  | search
  | found (place : Option Place)
  | picked (photos : List (BaseItemModel File))
  | removed
  | save
  | answer (reply : Except DartError (Option String))
  | back

namespace EditorSession

section Steps

variable (env : Surroundings) (validatesDisabled : Bool)

def opened (uuid : ℕ → String) (p : Option (Managed Posting)) : EditorSession where
  state := setUpInitialValues uuid env.text p
  form := EditorForm.ofState (setUpInitialValues uuid env.text p)
  place := PlaceFields.ofState (setUpInitialValues uuid env.text p)

def visible (s : EditorSession) : Bool := !s.closed && s.cover.isNone

def view (s : EditorSession) : EditorView :=
  ⟨s.form, s.state.propertyTypeChosen, s.state.imageItems, s.place⟩

def count (s : EditorSession) (f : Facility) (value : ℤ) : EditorSession := { s with
  state := f.update value s.state
  form := { s.form with count := Function.update s.form.count f value } }

/-- `_popBack`, if the form is still mounted: what lies on top is popped. -/
def popBack (s : EditorSession) : EditorSession :=
  if s.closed then s
  else if s.cover.isSome then { s with cover := none }
  else { s with closed := true }

def finish (s : EditorSession) : Except DartError Bool → EditorSession
  | .ok true => s.popBack
  | _ => s

def handover (v : Saving) : Option Handover :=
  match v.program with
  | .await call _ => call.data.map (fun data => ⟨v.view, v.progress.answers, data⟩)
  | _ => none

def advance (s : EditorSession) (v : Saving) : EditorSession :=
  let rest := Prog.settle v.program s.state
  let v' : Saving := ⟨v.view, Prog.noted note v.program s.state v.progress, rest.1⟩
  match rest.1 with
  | .done result => finish { s with state := rest.2, saving := none } result
  | _ => { s with
      state := rest.2
      saving := some v'
      handed := s.handed ++ (handover v').toList }

def storedBy (call : EditorCall) : Except DartError (Option String) → ℕ
  | .ok _ => if call.data.isSome then 1 else 0
  | .error _ => 0

def step (s : EditorSession) : EditorEvent → Option EditorSession
  | .typed field text =>
      if s.visible then
        some { s with
          state := field.update text s.state
          form := { s.form with text := Function.update s.form.text field text } }
      else none
  | .openMenu => if s.visible then some { s with cover := some .menu } else none
  | .chosen value =>
      if s.cover = some .menu then
        some { s with cover := none, state := updatePropertyTypeChosen (some value) s.state }
      else none
  | .minus f =>
      if s.visible then some (s.count f (FacilitiesWidget.minus (s.form.count f))) else none
  | .plus f =>
      if s.visible then some (s.count f (FacilitiesWidget.plus (s.form.count f))) else none
  | .search => if s.visible then some { s with cover := some .search } else none
  | .found place =>
      if s.cover = some .search then
        match place with
        | none => some { s with cover := none }
        | some place => some { s with
            cover := none
            state := updatePlace (some place) s.state
            form := { s.form with address := (updatePlace (some place) s.state).address }
            place := PlaceFields.ofPlace place }
      else none
  | .picked photos =>
      if s.closed then none else some { s with state := { s.state with imageItems := photos } }
  | .removed => some { s with
      state := { s.state with
        posting := s.state.posting.map (fun p => { p with isValid := false }) } }
  | .save =>
      -- the button of a loading screen is a progress indicator
      if s.visible && !s.state.isLoading then
        if s.form.validate validatesDisabled then
          some (s.advance ⟨s.view, {}, EditorSession.save env⟩)
        else some s
      else none
  | .answer reply =>
      match s.saving with
      | some ⟨view, progress, .await call k⟩ =>
          some (EditorSession.advance { s with stored := s.stored + storedBy call reply }
            ⟨view, record call reply progress, k reply⟩)
      | _ => none
  | .back => if s.closed then none else some s.popBack

end Steps

def Edits : EditorEvent → Prop
  | .typed _ _ => True
  | .chosen _ => True
  | .minus _ => True
  | .plus _ => True
  | .found place => place.isSome
  | .picked _ => True
  | _ => False

/-- Nothing is edited while the screen shows that a save is under way. -/
def Quiet (s : EditorSession) (e : EditorEvent) : Prop := Edits e → s.state.isLoading = false

def Uncovered (s : EditorSession) : EditorEvent → Prop
  | .answer (.ok _) => ∀ v ∈ s.saving, ∀ call k, v.program = .await call k → call.data.isSome →
      s.cover = none
  | _ => True

/-- The screen is closed once the posting is stored, and the posting is not stored again. -/
def StoredOnce (s : EditorSession) : Prop :=
  s.stored = 0 ∨ s.stored = 1 ∧ s.closed = true ∧ s.saving = none

/-- The posting has what the screen shows and the photos that the uploads were answered for. -/
structure Describes (env : Surroundings) (view : EditorView) (answers : List (Option String))
    (p : Posting) : Prop where
  name : p.name = some (view.form.text .name)
  type : p.type = view.type
  price : p.price = env.text.tryParse (view.form.text .price)
  description : p.description = some (view.form.text .description)
  address : p.address = some view.form.address
  place : (p.address, p.city, p.country, p.lat, p.lon) =
    (some view.place.address, some view.place.city, some view.place.country, view.place.lat,
      view.place.lon)
  images : p.images = gather view.photos answers
  amenities : p.amenities = (env.toLowerCase (view.form.text .amenities)).splitOn ","
  counts : ∀ f, Facility.ofPosting f p = view.form.count f

section Runs

variable {env : Surroundings} {validatesDisabled : Bool} {s s' : EditorSession} {e : EditorEvent}
  {J : UpdatePostingState → Prop}

structure Shows (s : EditorSession) : Prop where
  form : s.form = EditorForm.ofState s.state
  place : PlaceFields.ofState s.state = s.place

theorem countNo_withCount (counts : Counts) (kind k : String) (value : ℤ) :
    countNo (withCount counts kind value) k = if k = kind then value else countNo counts k := by
  unfold countNo withCount
  rw [Option.bind_some]
  split
  · next h => rw [h, Finmap.lookup_insert, Option.getD_some]
  · next h =>
      rw [Finmap.lookup_insert_of_ne _ h]
      cases counts <;> rfl

theorem get_updateCount (f g : Facility) (value : ℤ) (s : UpdatePostingState) :
    g.get (f.update value s) = if g = f then value else g.get s := by
  cases f <;> cases g <;> first | rfl | exact countNo_withCount _ _ _ _

theorem ofState_updateCount (f : Facility) (value : ℤ) (s : UpdatePostingState) :
    EditorForm.ofState (f.update value s) = { EditorForm.ofState s with
      count := Function.update (EditorForm.ofState s).count f value } := by
  refine EditorForm.ext (funext fun g => ?_) ?_ (funext fun g => ?_)
  · cases f <;> cases g <;> rfl
  · cases f <;> rfl
  · change g.get _ = Function.update (fun g => g.get s) f value g
    rw [get_updateCount, Function.update_apply]

theorem ofState_updateText (f : EditorField) (text : String) (s : UpdatePostingState) :
    EditorForm.ofState (f.update text s) = { EditorForm.ofState s with
      text := Function.update (EditorForm.ofState s).text f text } := by
  refine EditorForm.ext (funext fun g => ?_) ?_ (funext fun g => ?_)
  · cases f <;> cases g <;> rfl
  · cases f <;> rfl
  · cases f <;> cases g <;> rfl

theorem ofState_updatePlace (place : Place) (s : UpdatePostingState) :
    EditorForm.ofState (updatePlace (some place) s) = { EditorForm.ofState s with
      address := (updatePlace (some place) s).address } := by
  refine EditorForm.ext (funext fun f => ?_) rfl (funext fun f => ?_)
  · cases f <;> rfl
  · cases f <;> rfl

theorem ofState_congr {s t : UpdatePostingState}
    (h : (s.name, s.price, s.description, s.amenities, s.address, s.beds, s.bathrooms) =
      (t.name, t.price, t.description, t.amenities, t.address, t.beds, t.bathrooms)) :
    EditorForm.ofState s = EditorForm.ofState t := by
  simp only [Prod.mk.injEq] at h
  obtain ⟨hname, hprice, hdescription, hamenities, haddress, hbeds, hbathrooms⟩ := h
  refine EditorForm.ext (funext fun f => ?_) haddress (funext fun f => ?_)
  · cases f <;> assumption
  · cases f <;>
      simp only [EditorForm.ofState, Facility.get, getBedNo, getBathroomNo, hbeds, hbathrooms]

theorem ofState_fields (s : UpdatePostingState) :
    EditorForm.ofState (fields s) = EditorForm.ofState s := ofState_congr rfl

/-- The form shows what the host has filled in, whatever else is in the state. -/
theorem Shows.of_fields (h : Shows s) (hfields : fields s'.state = fields s.state)
    (hform : s'.form = s.form) (hplace : s'.place = s.place) : Shows s' := by
  have hof : EditorForm.ofState s'.state = EditorForm.ofState s.state := by
    rw [← ofState_fields s'.state, hfields, ofState_fields]
  have hplaceOf : PlaceFields.ofState (fields s'.state) = PlaceFields.ofState (fields s.state) :=
    congrArg PlaceFields.ofState hfields
  change PlaceFields.ofState s'.state = PlaceFields.ofState s.state at hplaceOf
  exact ⟨by rw [hform, h.form, hof], by rw [hplaceOf, h.place, hplace]⟩

structure Running (env : Surroundings) (J : UpdatePostingState → Prop) (v : Saving) : Prop where
  ensures : Prog.Ensures record note (Fits J) (Calls env J) Ends v.progress v.program
  frames : FramesFields v.program
  awaits : ∃ call k, v.program = .await call k

theorem Running.loading {v : Saving} (h : Running env J v) : v.progress.loading = true := by
  obtain ⟨call, k, hcall⟩ := h.awaits
  have hensures := h.ensures
  rw [hcall] at hensures
  exact hensures.1.1

theorem Running.stored {v : Saving} (h : Running env J v) : v.progress.stored = false := by
  obtain ⟨call, k, hcall⟩ := h.awaits
  have hensures := h.ensures
  rw [hcall] at hensures
  exact hensures.1.2.1

theorem noted_eq {α : Type} (p : EditorM α) (t : UpdatePostingState) (h : Progress) :
    ∃ loading, Prog.noted note p t h = { h with loading := loading } := by
  unfold Prog.noted
  induction Prog.emitted p t generalizing h with
  | nil => exact ⟨h.loading, rfl⟩
  | cons s l ih => exact ih (note s h)

/-- A save that is run leaves what the host has filled in. It awaits the next reply, with the
posting not stored yet, or ends with whether it has stored the posting. -/
theorem advance_cases {v : Saving}
    (hensures : Prog.Ensures record note (Fits J) (Calls env J) Ends v.progress v.program)
    (hframes : FramesFields v.program) (hs : Fits J v.progress s.state) :
    ∃ t, fields t = fields s.state ∧ J t ∧
      ((∃ v', Running env J v' ∧ v'.view = v.view ∧ v'.progress.answers = v.progress.answers ∧
          v'.progress.stored = v.progress.stored ∧ t.isLoading = true ∧
          s.advance v = { s with
            state := t
            saving := some v'
            handed := s.handed ++ (handover v').toList }) ∨
        t.isLoading = false ∧
          s.advance v = finish { s with state := t, saving := none } (.ok v.progress.stored)) := by
  obtain ⟨hfields, hrest⟩ := (hframes s.state).settle
  obtain ⟨hensures', hfits⟩ := hensures.settle hs
  obtain ⟨loading, hnoted⟩ := noted_eq v.program s.state v.progress
  refine ⟨_, hfields, hfits.2, ?_⟩
  obtain ⟨result, hdone⟩ | ⟨call, k, hawait⟩ := Prog.settle_done_or_await v.program s.state
  · right
    rw [hdone] at hensures'
    obtain ⟨hloading, rfl⟩ := hensures'
    refine ⟨hfits.1.trans hloading, ?_⟩
    unfold advance
    dsimp only
    rw [hdone, hnoted]
  · left
    have hrunning : Running env J ⟨v.view, Prog.noted note v.program s.state v.progress,
        (Prog.settle v.program s.state).1⟩ := ⟨hensures', hrest, call, k, hawait⟩
    refine ⟨_, hrunning, rfl, by rw [hnoted], by rw [hnoted], hfits.1.trans hrunning.loading, ?_⟩
    unfold advance
    dsimp only
    rw [hawait]

variable (env validatesDisabled) in
inductive Does (s : EditorSession) : EditorEvent → EditorSession → Prop
  | edit {e : EditorEvent} {t : UpdatePostingState} {form : EditorForm} {place : PlaceFields}
      {cover : Option EditorCover} (edits : Edits e)
      (loading : t.isLoading = s.state.isLoading)
      (shows : Shows s → form = EditorForm.ofState t ∧ PlaceFields.ofState t = place)
      (covered : cover.isSome → s.cover.isSome) :
      Does s e { s with state := t, form, place, cover }
  | beside {e : EditorEvent} {t : UpdatePostingState} {cover : Option EditorCover} {closed : Bool}
      (answer : ∀ reply, e ≠ .answer reply) (filled : fields t = fields s.state)
      (loading : t.isLoading = s.state.isLoading)
      (covered : (s.cover.isSome → s.closed = false) → cover.isSome → closed = false)
      (stays : s.closed = true → closed = true) :
      Does s e { s with state := t, cover, closed }
  | start (visible : s.visible = true) (idle : s.state.isLoading = false)
      (valid : s.form.validate validatesDisabled = true) :
      Does s .save (s.advance ⟨s.view, {}, EditorSession.save env⟩)
  | answer (reply : Except DartError (Option String)) (view : EditorView) (progress : Progress)
      (call : EditorCall) (k : Except DartError (Option String) → EditorM Bool)
      (awaits : s.saving = some ⟨view, progress, .await call k⟩) :
      Does s (.answer reply)
        (EditorSession.advance { s with stored := s.stored + storedBy call reply }
          ⟨view, record call reply progress, k reply⟩)

theorem updateText_isLoading (f : EditorField) (text : String) (s : UpdatePostingState) :
    (f.update text s).isLoading = s.isLoading := by cases f <;> rfl

theorem updateText_place (f : EditorField) (text : String) (s : UpdatePostingState) :
    PlaceFields.ofState (f.update text s) = PlaceFields.ofState s := by cases f <;> rfl

theorem updateCount_isLoading (f : Facility) (value : ℤ) (s : UpdatePostingState) :
    (f.update value s).isLoading = s.isLoading := by cases f <;> rfl

theorem updateCount_place (f : Facility) (value : ℤ) (s : UpdatePostingState) :
    PlaceFields.ofState (f.update value s) = PlaceFields.ofState s := by cases f <;> rfl

theorem does_count (f : Facility) (value : ℤ) (he : Edits e) :
    Does env validatesDisabled s e (s.count f value) := by
  refine .edit he (updateCount_isLoading f value s.state) (fun hshows => ?_) id
  rw [ofState_updateCount, updateCount_place, hshows.form]
  exact ⟨rfl, hshows.place⟩

theorem popBack_cases (s : EditorSession) : ∃ cover closed,
    s.popBack = { s with cover, closed } ∧
      ((s.cover.isSome → s.closed = false) → cover.isSome → closed = false) ∧
      (s.closed = true → closed = true) ∧ (s.cover = none → closed = true) := by
  unfold popBack
  split
  · next hclosed => exact ⟨s.cover, s.closed, rfl, id, id, fun _ => hclosed⟩
  · split
    · next hcovered =>
        refine ⟨none, s.closed, rfl, nofun, id, fun hnone => ?_⟩
        rw [hnone] at hcovered
        cases hcovered
    · next huncovered =>
        exact ⟨s.cover, true, rfl, fun _ h => absurd h huncovered, fun _ => rfl, fun _ => rfl⟩

theorem not_closed_of_visible (h : s.visible = true) : s.closed = false := by
  unfold visible at h
  simp only [Bool.and_eq_true, Bool.not_eq_true'] at h
  exact h.1

theorem does_of_step (h : step env validatesDisabled s e = some s') :
    Does env validatesDisabled s e s' := by
  cases e with
  | typed field text =>
      obtain ⟨-, h⟩ := Option.ite_none_right_eq_some.mp h
      cases h
      refine .edit trivial (updateText_isLoading field text s.state) (fun hshows => ?_) id
      rw [ofState_updateText, updateText_place, hshows.form]
      exact ⟨rfl, hshows.place⟩
  | openMenu =>
      obtain ⟨hvisible, h⟩ := Option.ite_none_right_eq_some.mp h
      cases h
      exact .beside nofun rfl rfl (fun _ _ => not_closed_of_visible hvisible) id
  | chosen value =>
      obtain ⟨-, h⟩ := Option.ite_none_right_eq_some.mp h
      cases h
      refine .edit trivial rfl (fun hshows => ?_) nofun
      exact ⟨hshows.form.trans (ofState_congr rfl), hshows.place⟩
  | minus f =>
      obtain ⟨-, h⟩ := Option.ite_none_right_eq_some.mp h
      cases h
      exact does_count f _ trivial
  | plus f =>
      obtain ⟨-, h⟩ := Option.ite_none_right_eq_some.mp h
      cases h
      exact does_count f _ trivial
  | search =>
      obtain ⟨hvisible, h⟩ := Option.ite_none_right_eq_some.mp h
      cases h
      exact .beside nofun rfl rfl (fun _ _ => not_closed_of_visible hvisible) id
  | found place =>
      obtain ⟨-, h⟩ := Option.ite_none_right_eq_some.mp h
      cases place with
      | none =>
          cases h
          exact .beside nofun rfl rfl nofun id
      | some place =>
          cases h
          refine .edit rfl rfl (fun hshows => ⟨?_, rfl⟩) nofun
          rw [ofState_updatePlace, hshows.form]
  | picked photos =>
      obtain ⟨-, h⟩ := Option.ite_none_left_eq_some.mp h
      cases h
      refine .edit trivial rfl (fun hshows => ?_) id
      exact ⟨hshows.form.trans (ofState_congr rfl), hshows.place⟩
  | removed =>
      cases h
      exact .beside nofun rfl rfl id id
  | save =>
      obtain ⟨htap, h⟩ := Option.ite_none_right_eq_some.mp h
      simp only [Bool.and_eq_true, Bool.not_eq_true'] at htap
      split at h
      · next hvalid =>
          cases h
          exact .start htap.1 htap.2 hvalid
      · cases h
        exact .beside nofun rfl rfl id id
  | answer reply =>
      unfold step at h
      dsimp only at h
      split at h
      · next hsaving =>
          cases h
          exact .answer reply _ _ _ _ hsaving
      · cases h
  | back =>
      obtain ⟨-, h⟩ := Option.ite_none_left_eq_some.mp h
      obtain ⟨cover, closed, hpop, hcovered, hstays, -⟩ := popBack_cases s
      rw [hpop] at h
      cases h
      exact .beside nofun rfl rfl hcovered hstays

variable (env) in
structure Sound (s : EditorSession) : Prop where
  shows : Shows s
  loading : s.state.isLoading = s.saving.isSome
  covered : s.cover.isSome → s.closed = false
  running : ∀ v ∈ s.saving, Running env (fun _ => True) v

/-- The end of a save closes what lies on top, or nothing. -/
theorem finish_cases (s : EditorSession) (r : Except DartError Bool) : ∃ cover closed,
    finish s r = { s with cover, closed } ∧
      ((s.cover.isSome → s.closed = false) → cover.isSome → closed = false) ∧
      (s.closed = true → closed = true) ∧
      (r = .ok true → s.cover = none → closed = true) := by
  obtain ⟨cover, closed, hpop, hcovered, hstays, hcloses⟩ := popBack_cases s
  unfold finish
  split
  · exact ⟨cover, closed, hpop, hcovered, hstays, fun _ => hcloses⟩
  · next hfailed => exact ⟨s.cover, s.closed, rfl, id, id, fun h => absurd h hfailed⟩

theorem record_loading (call : EditorCall) (reply : Except DartError (Option String))
    (h : Progress) : (record call reply h).loading = h.loading := by
  cases call <;> cases reply <;> rfl

theorem sound_advance {v : Saving} (hshows : Shows s)
    (hcovered : s.cover.isSome → s.closed = false)
    (hensures : Prog.Ensures record note (Fits (fun _ => True)) (Calls env (fun _ => True)) Ends
      v.progress v.program)
    (hframes : FramesFields v.program) (hloading : s.state.isLoading = v.progress.loading) :
    Sound env (s.advance v) := by
  obtain ⟨t, hfields, -, ⟨v', hrunning, -, -, -, hidle, hadvance⟩ | ⟨hidle, hadvance⟩⟩ :=
    advance_cases hensures hframes ⟨hloading, trivial⟩
  · rw [hadvance]
    refine ⟨hshows.of_fields hfields rfl rfl, hidle, hcovered, ?_⟩
    rintro _ ⟨⟩
    exact hrunning
  · obtain ⟨cover, closed, hfinish, hcovered', -⟩ :=
      finish_cases { s with state := t, saving := none } (.ok v.progress.stored)
    rw [hadvance, hfinish]
    exact ⟨hshows.of_fields hfields rfl rfl, hidle, hcovered' hcovered, nofun⟩

/-- What a reply does to a save that awaits it. -/
theorem Running.resumed {view : EditorView} {progress : Progress} {call : EditorCall}
    {k : Except DartError (Option String) → EditorM Bool}
    (h : Running env J ⟨view, progress, .await call k⟩)
    (reply : Except DartError (Option String)) :
    Prog.Ensures record note (Fits J) (Calls env J) Ends (record call reply progress) (k reply) ∧
      FramesFields (k reply) ∧ (record call reply progress).loading = true :=
  ⟨h.ensures.2 reply, fun s => h.frames s reply s,
    (record_loading call reply progress).trans h.loading⟩

theorem sound_does (h : Sound env s) (hdoes : Does env validatesDisabled s e s') :
    Sound env s' := by
  cases hdoes with
  | edit hedits hloading hshows hcovered =>
      obtain ⟨hform, hplace⟩ := hshows h.shows
      exact ⟨⟨hform, hplace⟩, hloading.trans h.loading,
        fun hcover => h.covered (hcovered hcover), h.running⟩
  | beside hanswer hfilled hloading hcovered hstays =>
      exact ⟨h.shows.of_fields hfilled rfl rfl, hloading.trans h.loading, hcovered h.covered,
        h.running⟩
  | start hvisible hidle hvalid =>
      exact sound_advance h.shows h.covered (ensures_save fun _ _ => id) (framesFields_save env)
        hidle
  | answer reply view progress call k hawaits =>
      obtain ⟨hensures, hframes, hloading⟩ := (h.running _ hawaits).resumed reply
      have hstate : s.state.isLoading = true := by rw [h.loading, hawaits, Option.isSome_some]
      refine sound_advance ?_ h.covered hensures hframes (hstate.trans hloading.symm)
      exact h.shows.of_fields rfl rfl rfl

theorem sound_step (h : Sound env s) (hstep : step env validatesDisabled s e = some s') :
    Sound env s' := sound_does h (does_of_step hstep)

theorem sound_opened (env : Surroundings) (uuid : ℕ → String) (p : Option (Managed Posting)) :
    Sound env (opened env uuid p) :=
  ⟨⟨rfl, rfl⟩, rfl, nofun, nofun⟩

def SameAs (s t : UpdatePostingState) : Prop := fields t = fields s

variable (env validatesDisabled) in
def Truthful (c : Handover) : Prop :=
  c.view.form.validate validatesDisabled = true ∧
    ∃ p, c.data = PostingFirestoreExtension.toFirestore env.order p ∧
      Describes env c.view c.answers p

variable (env validatesDisabled) in
/-- What holds in the runs in which nothing is edited while a save is under way. -/
structure Faithful (s : EditorSession) : Prop where
  sound : Sound env s
  saving : ∀ v ∈ s.saving, v.view = s.view ∧ v.view.form.validate validatesDisabled = true ∧
    Running env (SameAs s.state) v
  handed : ∀ c ∈ s.handed, Truthful env validatesDisabled c

theorem view_of_fields (hfields : fields s'.state = fields s.state) (hform : s'.form = s.form)
    (hplace : s'.place = s.place) : s'.view = s.view := by
  have htype : (fields s'.state).propertyTypeChosen = (fields s.state).propertyTypeChosen :=
    congrArg _ hfields
  have hphotos : (fields s'.state).imageItems = (fields s.state).imageItems := congrArg _ hfields
  unfold view
  rw [hform, hplace]
  exact congrArg₂ (EditorView.mk s.form · · s.place) htype hphotos

theorem evaluated_same {t before after : UpdatePostingState} (hbefore : SameAs t before)
    (hafter : SameAs t after) : fields (evaluated before after) = fields t := by
  have heq : fields (evaluated before after) = evaluated (fields before) (fields after) := rfl
  rw [heq, hbefore, hafter]
  rfl

theorem posting_congr {t t' : UpdatePostingState} (h : fields t = fields t')
    (userId : Option String) (urls : List String) :
    posting env t userId urls = posting env t' userId urls := by
  have hposting : posting env (fields t) userId urls = posting env (fields t') userId urls := by
    rw [h]
  exact hposting

theorem countNo_getD (counts : Counts) (kind : String) :
    countNo (some (counts.getD ∅)) kind = countNo counts kind := by
  cases counts <;> rfl

/-- The posting of the state is the one that the form shows. -/
theorem Shows.describes (h : Shows s) (userId : Option String) (answers : List (Option String)) :
    Describes env s.view answers
      (posting env s.state userId (gather s.state.imageItems answers)) := by
  unfold view
  rw [h.form, ← h.place]
  refine ⟨rfl, rfl, rfl, rfl, rfl, rfl, rfl, rfl, fun f => ?_⟩
  cases f <;> exact countNo_getD _ _

theorem Shows.truthful (h : Shows s) (hvalid : s.form.validate validatesDisabled = true)
    {tapped before after : UpdatePostingState} {data : Doc} {userId : Option String}
    {answers : List (Option String)} (htapped : SameAs s.state tapped)
    (hbefore : SameAs s.state before) (hafter : SameAs s.state after)
    (hdata : data = PostingFirestoreExtension.toFirestore env.order
      (posting env (evaluated before after) userId (gather tapped.imageItems answers))) :
    Truthful env validatesDisabled ⟨s.view, answers, data⟩ := by
  have hphotos : (fields tapped).imageItems = (fields s.state).imageItems := by rw [htapped]
  change tapped.imageItems = s.state.imageItems at hphotos
  refine ⟨hvalid, _, ?_, h.describes userId answers⟩
  rw [hdata, posting_congr (evaluated_same hbefore hafter), hphotos]

/-- A call of a save hands over the form that was tapped. -/
theorem Running.truthful {v : Saving} (h : Running env (SameAs s.state) v) (hshows : Shows s)
    (hvalid : s.form.validate validatesDisabled = true) (hview : v.view = s.view) :
    ∀ c ∈ handover v, Truthful env validatesDisabled c := by
  obtain ⟨call, k, hcall⟩ := h.awaits
  obtain ⟨hensures, -, -⟩ := h
  rw [hcall] at hensures
  obtain ⟨-, -, hdata⟩ := hensures.1
  intro c hc
  unfold handover at hc
  rw [hcall] at hc
  obtain ⟨data, hcalled, rfl⟩ := Option.map_eq_some_iff.mp hc
  obtain ⟨tapped, before, after, userId, htapped, hbefore, hafter, heq⟩ := hdata data hcalled
  rw [hview]
  exact hshows.truthful hvalid htapped hbefore hafter heq

/-- A save that is run in the form that was tapped. -/
theorem faithful_advance {v : Saving} (hsound : Sound env (s.advance v)) (hshows : Shows s)
    (hvalid : s.form.validate validatesDisabled = true) (hview : v.view = s.view)
    (hensures : Prog.Ensures record note (Fits (SameAs s.state)) (Calls env (SameAs s.state)) Ends
      v.progress v.program)
    (hframes : FramesFields v.program) (hloading : s.state.isLoading = v.progress.loading)
    (hhanded : ∀ c ∈ s.handed, Truthful env validatesDisabled c) :
    Faithful env validatesDisabled (s.advance v) := by
  obtain ⟨t, hfields, -, ⟨v', hrunning, hview', -, -, hidle, hadvance⟩ | ⟨hidle, hadvance⟩⟩ :=
    advance_cases hensures hframes ⟨hloading, rfl⟩
  · rw [hadvance] at hsound ⊢
    refine ⟨hsound, ?_, ?_⟩
    · rintro _ ⟨⟩
      have hsame : SameAs t = SameAs s.state := by
        unfold SameAs
        rw [hfields]
      refine ⟨?_, ?_, ?_⟩
      · rw [hview', hview]
        symm
        exact view_of_fields hfields rfl rfl
      · rw [hview', hview]
        exact hvalid
      · change Running env (SameAs t) v'
        rw [hsame]
        exact hrunning
    · intro c hc
      rcases List.mem_append.mp hc with hc | hc
      · exact hhanded c hc
      · exact hrunning.truthful hshows hvalid (hview'.trans hview) c (Option.mem_toList.mp hc)
  · obtain ⟨cover, closed, hfinish, -⟩ :=
      finish_cases { s with state := t, saving := none } (.ok v.progress.stored)
    rw [hadvance, hfinish] at hsound ⊢
    exact ⟨hsound, nofun, hhanded⟩

theorem faithful_step (h : Faithful env validatesDisabled s) (hquiet : Quiet s e)
    (hstep : step env validatesDisabled s e = some s') : Faithful env validatesDisabled s' := by
  have hsound := sound_step h.sound hstep
  cases does_of_step hstep with
  | edit hedits hloading hshows hcovered =>
      -- no save is under way
      have hidle := hquiet hedits
      rw [h.sound.loading] at hidle
      refine ⟨hsound, fun v hv => ?_, h.handed⟩
      rw [show s.saving = some v from hv] at hidle
      cases hidle
  | beside hanswer hfilled hloading hcovered hstays =>
      refine ⟨hsound, fun v hv => ?_, h.handed⟩
      obtain ⟨hview, hvalid, hrunning⟩ := h.saving v hv
      refine ⟨?_, hvalid, ?_⟩
      · rw [hview]
        symm
        exact view_of_fields hfilled rfl rfl
      · unfold SameAs at hrunning ⊢
        dsimp only
        rw [hfilled]
        exact hrunning
  | start hvisible hidle hvalid =>
      have hJ : ∀ t loading, SameAs s.state t → SameAs s.state { t with isLoading := loading } :=
        fun _ _ => id
      exact faithful_advance hsound h.sound.shows hvalid rfl (ensures_save hJ)
        (framesFields_save env) hidle h.handed
  | answer reply view progress call k hawaits =>
      obtain ⟨hview, hvalid, hrunning⟩ := h.saving _ hawaits
      obtain ⟨hensures, hframes, hloading⟩ := hrunning.resumed reply
      have hstate : s.state.isLoading = true := by
        rw [h.sound.loading, hawaits, Option.isSome_some]
      have hvalid' : s.form.validate validatesDisabled = true := by
        rw [hview] at hvalid
        exact hvalid
      exact faithful_advance hsound (h.sound.shows.of_fields rfl rfl rfl) hvalid' hview hensures
        hframes (hstate.trans hloading.symm) h.handed

/-- In every run in which nothing is edited while a save is under way, each posting handed over is
the one that was on the screen, and accepted, when its button was tapped. -/
theorem handed_as_shown (env : Surroundings) (validatesDisabled : Bool) (uuid : ℕ → String)
    (p : Option (Managed Posting)) (events : List EditorEvent) (s : EditorSession)
    (hrun : Execution.run (step env validatesDisabled) (opened env uuid p) events = some s)
    (hquiet : Execution.StepsMeet (step env validatesDisabled) Quiet (opened env uuid p) events) :
    ∀ c ∈ s.handed, c.view.form.validate validatesDisabled = true ∧
      ∃ p, c.data = PostingFirestoreExtension.toFirestore env.order p ∧
        Describes env c.view c.answers p := by
  have hopened : Faithful env validatesDisabled (opened env uuid p) :=
    ⟨sound_opened env uuid p, nofun, nofun⟩
  have halways := Execution.always_of_stepsMeet
    (fun _ _ _ h hC hstep => faithful_step h hC hstep) hopened hquiet
  exact (halways.final hrun).handed

theorem popBack_closed_iff (hcovered : s.cover.isSome → s.closed = false) :
    s.popBack.closed = true ↔ s.cover = none := by
  unfold popBack
  split
  · next hclosed =>
      refine iff_of_true hclosed (Option.not_isSome_iff_eq_none.mp fun hcover => ?_)
      rw [hcovered hcover] at hclosed
      cases hclosed
  · next hopen =>
      split
      · next hcover => exact iff_of_false hopen (Option.isSome_iff_ne_none.mp hcover)
      · next hcover => exact iff_of_true rfl (Option.not_isSome_iff_eq_none.mp hcover)

theorem storedOnce_popBack_iff (hstored : s.stored = 1) (hsaving : s.saving = none) :
    StoredOnce s.popBack ↔ s.popBack.closed = true := by
  obtain ⟨cover, closed, hpop, -⟩ := popBack_cases s
  rw [hpop]
  simp [StoredOnce, hstored, hsaving]

theorem storedBy_cases (call : EditorCall) (reply : Except DartError (Option String))
    {h : Progress} (hstored : h.stored = false) :
    storedBy call reply = 0 ∧ (record call reply h).stored = false ∨
      storedBy call reply = 1 ∧ (record call reply h).stored = true := by
  cases call <;> cases reply <;> simp [storedBy, record, EditorCall.data, hstored]

theorem uncovered_answer_iff {reply : Except DartError (Option String)} {view : EditorView}
    {progress : Progress} {call : EditorCall}
    {k : Except DartError (Option String) → EditorM Bool}
    (h : s.saving = some ⟨view, progress, .await call k⟩) :
    Uncovered s (.answer reply) ↔ (storedBy call reply = 1 → s.cover = none) := by
  cases reply with
  | error e => exact iff_of_true trivial nofun
  | ok a =>
      constructor
      · intro huncovered hstored
        refine huncovered _ h call k rfl ?_
        change (if call.data.isSome then 1 else 0) = 1 at hstored
        by_contra hnone
        rw [if_neg hnone] at hstored
        cases hstored
      · rintro hcover v hv call' k' hcall hdata
        obtain rfl := Option.some_inj.mp (h.symm.trans hv)
        cases hcall
        exact hcover (if_pos hdata)

theorem uncovered_of_ne (h : ∀ reply, e ≠ .answer reply) : Uncovered s e := by
  cases e with
  | answer reply => exact absurd rfl (h reply)
  | _ => trivial

theorem storedOnce_does_iff (h : Sound env s) (honce : StoredOnce s)
    (hdoes : Does env validatesDisabled s e s') : StoredOnce s' ↔ Uncovered s e := by
  cases hdoes with
  | edit hedits hloading hshows hcovered =>
      refine iff_of_true honce (uncovered_of_ne ?_)
      rintro reply rfl
      exact hedits
  | beside hanswer hfilled hloading hcovered hstays =>
      refine iff_of_true ?_ (uncovered_of_ne hanswer)
      exact honce.imp_right fun ⟨hstored, hclosed, hsaving⟩ => ⟨hstored, hstays hclosed, hsaving⟩
  | start hvisible hidle hvalid =>
      refine iff_of_true (.inl ?_) trivial
      have hzero : s.stored = 0 := by
        refine honce.resolve_right fun hclosed => ?_
        unfold visible at hvisible
        simp [hclosed.2.1] at hvisible
      have hensures := @ensures_save env (fun _ => True) (fun _ _ => id)
      obtain ⟨t, -, -, ⟨v', -, -, -, -, -, hadvance⟩ | ⟨-, hadvance⟩⟩ :=
        @advance_cases env s _ ⟨s.view, {}, EditorSession.save env⟩ hensures
          (framesFields_save env) ⟨hidle, trivial⟩
      · rw [hadvance]
        exact hzero
      · rw [hadvance]
        exact hzero
  | answer reply view progress call k hawaits =>
      have hzero : s.stored = 0 := by
        refine honce.resolve_right fun hclosed => ?_
        rw [hawaits] at hclosed
        cases hclosed.2.2
      have hrunning := h.running _ hawaits
      obtain ⟨hensures, hframes, hloading⟩ := hrunning.resumed reply
      have hstate : s.state.isLoading = true := by rw [h.loading, hawaits, Option.isSome_some]
      rw [uncovered_answer_iff hawaits]
      obtain ⟨t, -, -, ⟨v', hrunning', -, -, hsame, -, hadvance⟩ | ⟨-, hadvance⟩⟩ :=
        @advance_cases env { s with stored := s.stored + storedBy call reply } _
          ⟨view, record call reply progress, k reply⟩ hensures hframes
          ⟨hstate.trans hloading.symm, trivial⟩
      · -- the posting is not stored yet
        obtain ⟨hnone, -⟩ | ⟨-, hstored⟩ := storedBy_cases call reply hrunning.stored
        · rw [hadvance, hnone]
          exact iff_of_true (.inl hzero) nofun
        · rw [hrunning'.stored] at hsame
          exact absurd (hsame.trans hstored) Bool.false_ne_true
      · obtain ⟨hnone, hstored⟩ | ⟨hone, hstored⟩ := storedBy_cases call reply hrunning.stored
        · rw [hadvance, hnone]
          dsimp only
          rw [hstored]
          exact iff_of_true (.inl hzero) nofun
        · rw [hadvance, hone]
          dsimp only
          rw [hstored, hzero]
          simp only [true_implies]
          exact (storedOnce_popBack_iff rfl rfl).trans (by exact popBack_closed_iff h.covered)

theorem uncovered_of_none (h : step env validatesDisabled s e = none) : Uncovered s e := by
  cases e with
  | answer reply =>
      cases reply with
      | error e => trivial
      | ok a =>
          rintro ⟨view, progress, program⟩ hv call k rfl
          unfold step at h
          rw [show s.saving = _ from hv] at h
          cases h
  | _ => trivial

/-- In every run, the screen is closed as soon as the posting is stored, and the posting is not
stored twice, exactly if none is stored while the search for a place or the menu of the types lies
over the form. -/
theorem closed_once_stored_iff (env : Surroundings) (validatesDisabled : Bool) (uuid : ℕ → String)
    (p : Option (Managed Posting)) (events : List EditorEvent) :
    Execution.Always (step env validatesDisabled) StoredOnce (opened env uuid p) events ↔
      Execution.StepsMeet (step env validatesDisabled) Uncovered (opened env uuid p) events :=
  Execution.always_iff_stepsMeet (fun _ _ _ h hstep => sound_step h hstep)
    (fun _ _ h => uncovered_of_none h)
    (fun _ _ _ h honce hstep => storedOnce_does_iff h honce (does_of_step hstep)) events (.inl rfl)
    (sound_opened env uuid p)

def riverside : Place :=
  ⟨"n1", none, some "Vietnam", some "Hue", some "1 River Street", some 16, some 107⟩

/-- The menu takes the pop of the first save, and the posting is stored by a second one. -/
example : ∃ s, Execution.run (step (hostHolding (loft 4 [])) true)
    (opened (hostHolding (loft 4 [])) toString none)
    [.typed .name "Loft", .typed .price "80", .typed .description "Bright", .search,
      .found (some riverside), .typed .amenities "wifi", .save, .answer (.ok (some "h1")),
      .openMenu, .answer (.ok none), .save, .answer (.ok (some "h1")), .answer (.ok none)] =
        some s ∧ s.stored = 2 ∧ s.closed = true :=
  ⟨_, rfl, rfl, rfl⟩

end Runs

instance : DecidablePred Edits
  | .typed _ _ => .isTrue trivial
  | .openMenu => .isFalse id
  | .chosen _ => .isTrue trivial
  | .minus _ => .isTrue trivial
  | .plus _ => .isTrue trivial
  | .found place => inferInstanceAs (Decidable (place.isSome = true))
  | .picked _ => .isTrue trivial
  | .search => .isFalse id
  | .removed => .isFalse id
  | .save => .isFalse id
  | .answer _ => .isFalse id
  | .back => .isFalse id

instance (s : EditorSession) (e : EditorEvent) : Decidable (Quiet s e) :=
  inferInstanceAs (Decidable (Edits e → s.state.isLoading = false))

def newLoft : List EditorEvent :=
  [.typed .name "Loft", .openMenu, .chosen "Flat", .typed .price "80",
    .typed .description "Bright", .search, .found (some riverside), .plus .double,
    .typed .amenities "wifi",
    .picked [{ id := "1", tag := "local_image", object := some ⟨"a.jpg"⟩ },
      { id := "plus_item", tag := "plus_item" }],
    .save, .answer (.ok (some "https://a.jpg")), .search, .answer (.ok (some "h1")), .back,
    .answer (.ok none)]

theorem handed_as_shown_newLoft : ∃ s,
    Execution.run (step (hostHolding (loft 4 [])) true)
      (opened (hostHolding (loft 4 [])) toString none) newLoft = some s ∧ s.handed.length = 1 ∧
    ∀ c ∈ s.handed, c.view.form.validate true = true ∧
      ∃ p, c.data = PostingFirestoreExtension.toFirestore (hostHolding (loft 4 [])).order p ∧
        Describes (hostHolding (loft 4 [])) c.view c.answers p := by
  obtain ⟨s, hrun, hlength⟩ : ∃ s,
      Execution.run (step (hostHolding (loft 4 [])) true)
        (opened (hostHolding (loft 4 [])) toString none) newLoft = some s ∧ s.handed.length = 1 :=
    ⟨_, rfl, rfl⟩
  exact ⟨s, hrun, hlength, handed_as_shown _ true toString none newLoft s hrun (by decide)⟩

end EditorSession

end AirBnbClone
