import AirBnbClone.Execution
import AirBnbClone.PostingResaved

/-!
# The photo grid of the posting editor

`selectImage` captures the item it was started on, waits for the gallery, and then edits the grid as
it is by then: on the plus item the image is inserted before the last place, on a photo it replaces
the photo. If another call has replaced the photo meanwhile, the image is appended behind the plus
item.
-/

namespace AirBnbClone

/-- An image item with its identity, by which `indexOf` compares. -/
structure GridItem where
  ref : ℕ
  item : BaseItemModel File

def GridItem.isPlus (x : GridItem) : Bool := x.item.tag == "plus_item"

/-- The grid, and the calls of `selectImage` that wait for the gallery, each with its item. -/
structure PhotoGrid where
  imageItems : List GridItem
  nextRef : ℕ
  picks : List GridItem := []

/-- A call of `selectImage` on an item of the grid, and the completion of one: an image, none, or an
error. -/
inductive GridEvent
  | select (i : ℕ)
  | picked (k : ℕ) (image : Except DartError (Option File))

namespace PhotoGrid

variable (uuid : ℕ → String)

/-- The grid that `_setUpInitialValues` builds. -/
def initial (text : DoubleText) (posting : Option (Managed Posting)) : PhotoGrid :=
  let items := (UpdatePostingCubit.setUpInitialValues uuid text posting).imageItems
  { imageItems := items.mapIdx (fun i item => ⟨i, item⟩), nextRef := items.length }

def imageItem (ref : ℕ) (image : File) : GridItem :=
  ⟨ref, { id := uuid ref, tag := "local_image", imageUrl := image.path, object := some image }⟩

def place (items : List GridItem) (item imageItem : GridItem) : List GridItem :=
  if item.isPlus then items.insertIdx (items.length - 1) imageItem
  else
    match items.findIdx? (fun x => x.ref == item.ref) with
    | some index => items.set index imageItem
    | none => items ++ [imageItem]

def step (g : PhotoGrid) : GridEvent → Option PhotoGrid
  | .select i => (g.imageItems[i]?).map (fun item => { g with picks := g.picks ++ [item] })
  | .picked k image =>
      (g.picks[k]?).map (fun item =>
        let g' := { g with picks := g.picks.eraseIdx k }
        match image with
        | .ok (some file) => { g' with
            imageItems := place g.imageItems item (imageItem uuid g.nextRef file)
            nextRef := g.nextRef + 1 }
        | _ => g')

/-- A completed pick adds its image once and removes no item but the one it was started on; nothing
else changes the grid. -/
def EditsOnce (g : PhotoGrid) (e : GridEvent) (g' : PhotoGrid) : Prop :=
  match e with
  | .picked k (.ok (some file)) => ∃ item new before after, g.picks[k]? = some item ∧
      new.item.tag = "local_image" ∧ new.item.object = some file ∧
      (∀ x ∈ g.imageItems, x.ref ≠ new.ref) ∧ g'.imageItems = before ++ new :: after ∧
      (g.imageItems = before ++ after ∨
        ∃ x, x.ref = item.ref ∧ g.imageItems = before ++ x :: after)
  | _ => g'.imageItems = g.imageItems

/-- One plus item, in the last place, and no item twice; every pick edits the grid once. -/
structure KeepsShape (g : PhotoGrid) : Prop where
  onePlus : (g.imageItems.filter GridItem.isPlus).length = 1
  plusLast : ∃ x, g.imageItems.getLast? = some x ∧ x.isPlus = true
  nodup : (g.imageItems.map GridItem.ref).Nodup
  edits : ∀ e g', step uuid g e = some g' → EditsOnce g e g'

/-- A pick that ends with an image and was started on a photo finds the photo in the grid. -/
def FindsItem (g : PhotoGrid) : GridEvent → Prop
  | .picked k (.ok (some _)) => ∀ item, g.picks[k]? = some item → item.isPlus = false →
      ∃ x ∈ g.imageItems, x.ref = item.ref
  | _ => True

structure WellFormed (g : PhotoGrid) : Prop where
  onePlus : (g.imageItems.filter GridItem.isPlus).length = 1
  nodup : (g.imageItems.map GridItem.ref).Nodup
  drawn : ∀ x ∈ g.imageItems, x.ref < g.nextRef
  picks : ∀ item ∈ g.picks, item.ref < g.nextRef ∧ ∀ x ∈ g.imageItems, x.ref = item.ref → x = item

section Place

variable {items : List GridItem} {item new : GridItem}

/-- What the three branches do. -/
inductive Placed (items : List GridItem) (item new : GridItem) : List GridItem → Prop
  | inserted (before : List GridItem) (last : GridItem) (hplus : item.isPlus = true)
      (hitems : items = before ++ [last]) : Placed items item new (before ++ [new, last])
  | replaced (before : List GridItem) (x : GridItem) (after : List GridItem)
      (hphoto : item.isPlus = false) (href : x.ref = item.ref)
      (hitems : items = before ++ x :: after) : Placed items item new (before ++ new :: after)
  | appended (hphoto : item.isPlus = false) (hgone : ∀ x ∈ items, x.ref ≠ item.ref) :
      Placed items item new (items ++ [new])

theorem insertIdx_length (before : List GridItem) (last new : GridItem) :
    (before ++ [last]).insertIdx before.length new = before ++ [new, last] := by
  induction before with
  | nil => rfl
  | cons x before ih => exact congrArg (x :: ·) ih

theorem placed_place (hne : items ≠ []) : Placed items item new (place items item new) := by
  unfold place
  cases hplus : item.isPlus with
  | true =>
      obtain ⟨before, last, rfl⟩ := (List.eq_nil_or_concat' items).resolve_left hne
      rw [if_pos rfl, List.length_append, List.length_singleton, Nat.add_sub_cancel,
        insertIdx_length]
      exact .inserted before last hplus rfl
  | false =>
      rw [if_neg Bool.false_ne_true]
      cases hindex : items.findIdx? (fun x => x.ref == item.ref) with
      | none =>
          refine .appended hplus (fun x hx => ?_)
          simpa using List.findIdx?_eq_none_iff.mp hindex x hx
      | some i =>
          obtain ⟨hi, href, -⟩ := List.findIdx?_eq_some_iff_getElem.mp hindex
          obtain ⟨before, after, hitems, -, hset⟩ : ∃ before after,
              items = before ++ items[i] :: after ∧ before.length = i ∧
                items.set i new = before ++ new :: after := List.exists_of_set hi
          change Placed items item new (items.set i new)
          rw [hset]
          exact .replaced before items[i] after hplus (beq_iff_eq.mp href) hitems

variable {items' : List GridItem}

theorem Placed.mem (h : Placed items item new items') {x : GridItem} (hx : x ∈ items') :
    x = new ∨ x ∈ items := by
  cases h with
  | inserted before last hplus hitems =>
      subst hitems
      simp only [List.mem_append, List.mem_cons, List.not_mem_nil, or_false] at hx ⊢
      tauto
  | replaced before y after hphoto href hitems =>
      subst hitems
      simp only [List.mem_append, List.mem_cons] at hx ⊢
      tauto
  | appended hphoto hgone =>
      simp only [List.mem_append, List.mem_cons, List.not_mem_nil, or_false] at hx
      tauto

theorem Placed.edit (h : Placed items item new items') : ∃ before after,
    items' = before ++ new :: after ∧
      (items = before ++ after ∨ ∃ x, x.ref = item.ref ∧ items = before ++ x :: after) := by
  cases h with
  | inserted before last hplus hitems => exact ⟨before, [last], rfl, .inl hitems⟩
  | replaced before x after hphoto href hitems =>
      exact ⟨before, after, rfl, .inr ⟨x, href, hitems⟩⟩
  | appended hphoto hgone => exact ⟨items, [], rfl, .inl (List.append_nil items).symm⟩

theorem Placed.filter_isPlus (h : Placed items item new items') (hnew : new.isPlus = false)
    (hitem : ∀ x ∈ items, x.ref = item.ref → x = item) :
    items'.filter GridItem.isPlus = items.filter GridItem.isPlus := by
  cases h with
  | inserted before last hplus hitems =>
      subst hitems
      simp [List.filter_append, List.filter_cons, hnew]
  | replaced before x after hphoto href hitems =>
      have hx : x = item := hitem x (by rw [hitems]; simp) href
      rw [← hx] at hphoto
      subst hitems
      simp [List.filter_append, hnew, hphoto]
  | appended hphoto hgone => simp [List.filter_append, hnew]

theorem Placed.nodup (h : Placed items item new items') (hnodup : (items.map GridItem.ref).Nodup)
    (hnew : ∀ x ∈ items, x.ref ≠ new.ref) : (items'.map GridItem.ref).Nodup := by
  obtain ⟨before, after, rfl, hitems⟩ := h.edit
  have hrest : (new.ref :: (before ++ after).map GridItem.ref).Nodup := by
    rw [List.nodup_cons]
    obtain rfl | ⟨x, -, rfl⟩ := hitems
    · exact ⟨fun hmem => by
        obtain ⟨x, hx, href⟩ := List.mem_map.mp hmem
        exact hnew x hx href, hnodup⟩
    · have hsub : (before ++ after).Sublist (before ++ x :: after) :=
        (List.Sublist.refl before).append (List.sublist_cons_self x after)
      exact ⟨fun hmem => by
        obtain ⟨y, hy, href⟩ := List.mem_map.mp hmem
        exact hnew y (hsub.subset hy) href, hnodup.sublist (hsub.map _)⟩
  rw [List.map_append, List.map_cons, List.nodup_middle, ← List.map_append]
  exact hrest

/-- The plus item stays last unless the image was appended behind it. -/
theorem Placed.plusLast_iff (h : Placed items item new items') (hnew : new.isPlus = false)
    (hitem : ∀ x ∈ items, x.ref = item.ref → x = item)
    (hlast : ∃ x, items.getLast? = some x ∧ x.isPlus = true) :
    (∃ x, items'.getLast? = some x ∧ x.isPlus = true) ↔
      (item.isPlus = false → ∃ x ∈ items, x.ref = item.ref) := by
  obtain ⟨last, hlast, hplusLast⟩ := hlast
  cases h with
  | inserted before last' hplus hitems =>
      subst hitems
      rw [List.getLast?_append, List.getLast?_singleton, Option.some_or] at hlast
      cases hlast
      refine iff_of_true ⟨last, by simp, hplusLast⟩ (fun hphoto => ?_)
      rw [hplus] at hphoto
      cases hphoto
  | replaced before x after hphoto href hitems =>
      have hmem : x ∈ items := by
        rw [hitems]
        simp
      refine iff_of_true ⟨last, ?_, hplusLast⟩ (fun _ => ⟨x, hmem, href⟩)
      rw [hitems] at hlast
      cases hafter : after.getLast? with
      | none =>
          -- the replaced photo would be the plus item
          rw [List.getLast?_eq_none_iff] at hafter
          subst hafter
          rw [List.getLast?_append, List.getLast?_singleton, Option.some_or] at hlast
          cases hlast
          rw [hitem last hmem href, hphoto] at hplusLast
          cases hplusLast
      | some y =>
          simp only [List.getLast?_append, List.getLast?_cons, hafter] at hlast ⊢
          exact hlast
  | appended hphoto hgone =>
      refine iff_of_false ?_ (fun hfinds => ?_)
      · rintro ⟨x, hx, hplus⟩
        rw [List.getLast?_append, List.getLast?_singleton, Option.some_or] at hx
        cases hx
        rw [hnew] at hplus
        cases hplus
      · obtain ⟨x, hx, href⟩ := hfinds hphoto
        exact hgone x hx href

end Place

section Steps

variable {uuid} {g g' : PhotoGrid} {e : GridEvent}

/-- A call starts, ends without an image, or edits the grid. -/
theorem step_cases (h : step uuid g e = some g') :
    (∃ i item, e = .select i ∧ g.imageItems[i]? = some item ∧
      g' = { g with picks := g.picks ++ [item] }) ∨
    (∃ k image, e = .picked k image ∧ (∀ file, image ≠ .ok (some file)) ∧
      g' = { g with picks := g.picks.eraseIdx k }) ∨
    ∃ k file item, e = .picked k (.ok (some file)) ∧ g.picks[k]? = some item ∧
      g' = { imageItems := place g.imageItems item (imageItem uuid g.nextRef file)
             nextRef := g.nextRef + 1
             picks := g.picks.eraseIdx k } := by
  cases e with
  | select i =>
      obtain ⟨item, hitem, rfl⟩ := Option.map_eq_some_iff.mp h
      exact .inl ⟨i, item, rfl, hitem, rfl⟩
  | picked k image =>
      obtain ⟨item, hitem, rfl⟩ := Option.map_eq_some_iff.mp h
      obtain e | (_ | file) := image
      · exact .inr (.inl ⟨k, _, rfl, nofun, rfl⟩)
      · exact .inr (.inl ⟨k, _, rfl, nofun, rfl⟩)
      · exact .inr (.inr ⟨k, file, item, rfl, hitem, rfl⟩)

theorem WellFormed.ne_nil (h : g.WellFormed) : g.imageItems ≠ [] := by
  intro hnil
  have hone := h.onePlus
  rw [hnil] at hone
  cases hone

theorem WellFormed.placed (h : g.WellFormed) (uuid : ℕ → String) (item : GridItem) (file : File) :
    Placed g.imageItems item (imageItem uuid g.nextRef file)
      (place g.imageItems item (imageItem uuid g.nextRef file)) :=
  placed_place h.ne_nil

theorem WellFormed.fresh (h : g.WellFormed) (file : File) :
    ∀ x ∈ g.imageItems, x.ref ≠ (imageItem uuid g.nextRef file).ref :=
  fun x hx => (h.drawn x hx).ne

theorem wellFormed_step (h : g.WellFormed) (hstep : step uuid g e = some g') :
    g'.WellFormed := by
  obtain ⟨i, item, rfl, hitem, rfl⟩ | ⟨k, image, rfl, -, rfl⟩ | ⟨k, file, item, rfl, hitem, rfl⟩ :=
    step_cases hstep
  · refine ⟨h.onePlus, h.nodup, h.drawn, fun item' hpick => ?_⟩
    obtain hpick | hpick := List.mem_append.mp hpick
    · exact h.picks item' hpick
    · -- the item that the new call captures is in the grid
      obtain rfl := List.mem_singleton.mp hpick
      have hmem := List.mem_of_getElem? hitem
      exact ⟨h.drawn item' hmem, fun x hx href => List.inj_on_of_nodup_map h.nodup hx hmem href⟩
  · exact ⟨h.onePlus, h.nodup, h.drawn, fun item' hpick =>
      h.picks item' (List.mem_of_mem_eraseIdx hpick)⟩
  · have hplaced := h.placed uuid item file
    obtain ⟨-, hsame⟩ := h.picks item (List.mem_of_getElem? hitem)
    refine ⟨?_, hplaced.nodup h.nodup (h.fresh file), fun x hx => ?_, fun item' hpick => ?_⟩
    · exact (congrArg List.length (hplaced.filter_isPlus rfl hsame)).trans h.onePlus
    · obtain rfl | hx := hplaced.mem hx
      · exact Nat.lt_succ_self _
      · exact Nat.lt_succ_of_lt (h.drawn x hx)
    · obtain ⟨hdrawn, hsame'⟩ := h.picks item' (List.mem_of_mem_eraseIdx hpick)
      refine ⟨Nat.lt_succ_of_lt hdrawn, fun x hx href => ?_⟩
      obtain rfl | hx := hplaced.mem hx
      · exact absurd href hdrawn.ne'
      · exact hsame' x hx href

theorem editsOnce_step (h : g.WellFormed) (hstep : step uuid g e = some g') :
    EditsOnce g e g' := by
  obtain ⟨i, item, rfl, -, rfl⟩ | ⟨k, image, rfl, hnone, rfl⟩ | ⟨k, file, item, rfl, hitem, rfl⟩ :=
    step_cases hstep
  · rfl
  · obtain e | (_ | file) := image
    · rfl
    · rfl
    · exact absurd rfl (hnone file)
  · obtain ⟨before, after, hafter, hbefore⟩ := (h.placed uuid item file).edit
    exact ⟨item, _, before, after, hitem, rfl, rfl, h.fresh file, hafter, hbefore⟩

theorem WellFormed.keepsShape_iff (h : g.WellFormed) :
    KeepsShape uuid g ↔ ∃ x, g.imageItems.getLast? = some x ∧ x.isPlus = true :=
  ⟨KeepsShape.plusLast, fun hlast =>
    ⟨h.onePlus, hlast, h.nodup, fun _ _ hstep => editsOnce_step h hstep⟩⟩

/-- The exact condition of one step. -/
theorem keepsShape_step_iff (h : g.WellFormed) (hshape : KeepsShape uuid g)
    (hstep : step uuid g e = some g') : KeepsShape uuid g' ↔ FindsItem g e := by
  rw [(wellFormed_step h hstep).keepsShape_iff]
  obtain ⟨i, item, rfl, -, rfl⟩ | ⟨k, image, rfl, hnone, rfl⟩ | ⟨k, file, item, rfl, hitem, rfl⟩ :=
    step_cases hstep
  · exact iff_of_true hshape.plusLast trivial
  · refine iff_of_true hshape.plusLast ?_
    obtain e | (_ | file) := image
    · trivial
    · trivial
    · exact absurd rfl (hnone file)
  · have hsame := (h.picks item (List.mem_of_getElem? hitem)).2
    refine ((h.placed uuid item file).plusLast_iff rfl hsame hshape.plusLast).trans ?_
    change _ ↔ ∀ item, g.picks[k]? = some item → item.isPlus = false →
      ∃ x ∈ g.imageItems, x.ref = item.ref
    rw [hitem]
    exact ⟨fun hfinds item' heq => Option.some.inj heq ▸ hfinds, fun hfinds => hfinds item rfl⟩

theorem findsItem_of_none (h : step uuid g e = none) : FindsItem g e := by
  cases e with
  | select i => trivial
  | picked k image =>
      have hnone : g.picks[k]? = none := Option.map_eq_none_iff.mp h
      obtain e | (_ | file) := image
      · trivial
      · trivial
      · intro item hitem
        rw [hnone] at hitem
        cases hitem

/-- The grid opens with the images of the posting and the plus item behind them. -/
theorem imageItems_initial (uuid : ℕ → String) (text : DoubleText)
    (posting : Option (Managed Posting)) :
    ∃ photos plus, (initial uuid text posting).imageItems = photos ++ [plus] ∧
      (∀ x ∈ photos, x.isPlus = false) ∧ plus.isPlus = true := by
  let images := ((posting.map Managed.object).map Posting.images).getD []
  refine ⟨(images.mapIdx (fun i url =>
      ({ id := uuid i, tag := "remote_image", imageUrl := url } : BaseItemModel File))).mapIdx
      (fun i item => ⟨i, item⟩), _, List.mapIdx_concat, fun x hx => ?_, rfl⟩
  obtain ⟨i, hi, rfl⟩ := List.mem_mapIdx.mp hx
  rw [List.getElem_mapIdx]
  rfl

theorem map_ref_initial (uuid : ℕ → String) (text : DoubleText)
    (posting : Option (Managed Posting)) :
    (initial uuid text posting).imageItems.map GridItem.ref =
      List.range (initial uuid text posting).nextRef := by
  apply List.ext_getElem
  · simp [initial]
  · intro i hi hi'
    simp [initial]

theorem wellFormed_initial (text : DoubleText) (posting : Option (Managed Posting)) :
    (initial uuid text posting).WellFormed := by
  obtain ⟨photos, plus, hitems, hphotos, hplus⟩ := imageItems_initial uuid text posting
  have hrefs := map_ref_initial uuid text posting
  refine ⟨?_, ?_, fun x hx => ?_, fun item hitem => absurd hitem List.not_mem_nil⟩
  · have hnone : photos.filter GridItem.isPlus = [] :=
      List.filter_eq_nil_iff.mpr (fun x hx => by simp [hphotos x hx])
    rw [hitems, List.filter_append, hnone]
    simp [hplus]
  · rw [hrefs]
    exact List.nodup_range
  · have hmem := List.mem_map_of_mem (f := GridItem.ref) hx
    rw [hrefs] at hmem
    exact List.mem_range.mp hmem

theorem keepsShape_initial (text : DoubleText) (posting : Option (Managed Posting)) :
    KeepsShape uuid (initial uuid text posting) := by
  obtain ⟨photos, plus, hitems, -, hplus⟩ := imageItems_initial uuid text posting
  refine (wellFormed_initial text posting).keepsShape_iff.mpr ⟨plus, ?_, hplus⟩
  rw [hitems, List.getLast?_append, List.getLast?_singleton, Option.some_or]

end Steps

/-- A run keeps the grid's shape exactly if every pick that ends with an image and was started on a
photo finds the photo still in the grid. -/
theorem keepsShape_iff_finds (text : DoubleText) (posting : Option (Managed Posting))
    (events : List GridEvent) :
    Execution.Always (step uuid) (KeepsShape uuid) (initial uuid text posting) events ↔
      Execution.StepsMeet (step uuid) FindsItem (initial uuid text posting) events :=
  Execution.always_iff_stepsMeet (fun _ _ _ h hstep => wellFormed_step h hstep)
    (fun _ _ h => findsItem_of_none h)
    (fun _ _ _ h hshape hstep => keepsShape_step_iff h hshape hstep) events
    (keepsShape_initial text posting) (wellFormed_initial text posting)

def twoPicks : List GridEvent :=
  [.select 0, .picked 0 (.ok (some ⟨"a.jpg"⟩)), .select 0, .select 0,
    .picked 0 (.ok (some ⟨"b.jpg"⟩)), .picked 0 (.ok (some ⟨"c.jpg"⟩))]

theorem twoPicks_break_shape :
    ¬ Execution.Always (step (fun n => toString n)) (KeepsShape (fun n => toString n))
      (initial (fun n => toString n) wholeText none) twoPicks := by
  intro h
  have hrun : ∃ g, Execution.run (step (fun n => toString n))
      (initial (fun n => toString n) wholeText none) twoPicks = some g ∧
        g.imageItems.getLast?.map GridItem.isPlus = some false := ⟨_, rfl, rfl⟩
  obtain ⟨g, hg, hlast⟩ := hrun
  obtain ⟨x, hx, hplus⟩ := (h.final hg).plusLast
  rw [hx, Option.map_some, hplus] at hlast
  cases hlast

end PhotoGrid

end AirBnbClone
