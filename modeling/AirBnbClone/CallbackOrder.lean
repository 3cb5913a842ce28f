import AirBnbClone.ViewPostingCubit

/-!
# The order of the callbacks of the posting screen

`_setupInitialValues` leaves four callbacks behind: that of the user, which starts two more lookups,
and that of the first snapshot of the reviews. Each writes a field of its own, so their order does
not matter, except that every one of them but the lookup of the favourite empties the heart.
-/

namespace AirBnbClone

open Async ViewPostingState ViewPostingCubit

inductive Tap
  | setReviewRating (value : ℚ)
  | updateBookingTimeMap (map : DartMap DateTime)

inductive Callback
  | userId
  | favourite
  | bookings
  | reviews
  | tap (t : Tap)

def Callback.tap? : Callback → Option Tap
  | .tap t => some t
  | _ => none

/-- What the lookups of the constructor and the first snapshot of the reviews bring. -/
structure Lookups where
  userId : Except DartError (Option String)
  favourite : Except DartError (Option (Managed FavouritePosting))
  bookings : Except DartError (List (Managed Booking))
  reviews : List (Managed Review × Option (Managed User))

namespace Lookups

def reply (l : Lookups) : (op : ViewCall) → Except DartError (ViewReply op)
  | .userId => l.userId
  | .getFavouritePosting .. => l.favourite
  | .getBookingsForPosting .. => l.bookings
  | _ => .error .unavailable

def user (l : Lookups) : Option String :=
  match l.userId with
  | .ok userId => userId
  | .error _ => none

def found (l : Lookups) : Bool :=
  match l.user, l.favourite with
  | some _, .ok favourite => favourite.isSome
  | _, _ => false

def setUp (l : Lookups) : List Callback :=
  [.userId, .reviews] ++ if l.user.isSome then [.favourite, .bookings] else []

variable (l : Lookups) (posting : Managed Posting)

def settle {α : Type} (program : ViewM α) (s : ViewPostingState) : ViewPostingState :=
  (Prog.exec (fun op w => (l.reply op, w)) program s ()).2.1

def process (s : ViewPostingState) : Callback → ViewPostingState
  | .userId => l.settle (lookUpUser posting) s
  | .favourite => l.user.elim s (fun userId => l.settle (lookUpFavourite posting userId) s)
  | .bookings => l.user.elim s (fun userId => l.settle (lookUpBookings posting userId) s)
  | .reviews => showReviews l.reviews s
  | .tap (.setReviewRating value) => setReviewRating value s
  | .tap (.updateBookingTimeMap map) => updateBookingTimeMap map s

def final (text : DoubleText) (host : Option User) (cs : List Callback) : ViewPostingState :=
  cs.foldl (l.process posting) (shown text posting.object host)

/-- Every callback once, that of the user before the lookups it starts, and the taps in order. -/
structure IsOrder (taps : List Tap) (cs : List Callback) : Prop where
  setUp : (cs.filter (fun c => c.tap?.isNone)).Perm l.setUp
  taps : cs.filterMap Callback.tap? = taps
  userFirst : cs.Pairwise (fun c c' => c' = .userId → c ≠ .favourite ∧ c ≠ .bookings)

structure OrderIndependent (text : DoubleText) (host : Option User) (taps : List Tap) : Prop where
  same : ∀ cs cs', l.IsOrder taps cs → l.IsOrder taps cs' →
    l.final posting text host cs = l.final posting text host cs'
  favourite : ∀ cs, l.IsOrder taps cs → (l.final posting text host cs).isFavorite = l.found

end Lookups

section Updates

def latest {α β : Type} (field : α → Option β) (us : List α) (b : β) : β :=
  us.foldl (fun b u => (field u).getD b) b

theorem latest_eq_foldl {α β : Type} (field : α → Option β) (us : List α) (b : β) :
    latest field us b = (us.filterMap field).foldl (fun _ b => b) b := by
  unfold latest
  induction us generalizing b with
  | nil => rfl
  | cons u us ih =>
      cases hu : field u with
      | none =>
          rw [List.filterMap_cons_none hu, List.foldl_cons, hu]
          exact ih b
      | some b' =>
          rw [List.filterMap_cons_some hu, List.foldl_cons, List.foldl_cons, hu]
          exact ih b'

/-- After a number of updates a field has the last value given for it; the heart has that of the
last update. -/
theorem foldl_copyWith (us : List Update) (s : ViewPostingState) : us.foldl copyWith s =
    { s with
      isFavorite := us.foldl (fun _ u => u.isFavorite) s.isFavorite
      displayAddress := latest Update.displayAddress us s.displayAddress
      reviewRating := latest Update.reviewRating us s.reviewRating
      isHost := latest Update.isHost us s.isHost
      bookingTimeMap := latest Update.bookingTimeMap us s.bookingTimeMap
      canReview := latest Update.canReview us s.canReview
      recentReviews := latest Update.recentReviews us s.recentReviews } := by
  induction us generalizing s with
  | nil => rfl
  | cons u us ih => exact ih (s.copyWith u)

end Updates

namespace Lookups

variable (l : Lookups) (posting : Managed Posting)

/-- What a callback gives `copyWith`; a lookup that fails emits nothing. -/
def update : Callback → Option Update
  | .userId =>
      match l.userId with
      | .ok userId => some { isHost := some (decide (userId = posting.object.hostId)) }
      | .error _ => none
  | .favourite =>
      match l.user, l.favourite with
      | some _, .ok favourite => some { isFavorite := favourite.isSome }
      | _, _ => none
  | .bookings =>
      match l.user, l.bookings with
      | some _, .ok bookings => some { canReview := some (!bookings.isEmpty) }
      | _, _ => none
  | .reviews => some { recentReviews := some (reviewsToItems l.reviews) }
  | .tap (.setReviewRating value) => some { reviewRating := some value }
  | .tap (.updateBookingTimeMap map) => some { bookingTimeMap := some map }

variable {l posting} {taps : List Tap} {cs : List Callback}

theorem process_eq (s : ViewPostingState) (c : Callback) :
    l.process posting s c = ((l.update posting c).map s.copyWith).getD s := by
  obtain ⟨userId, favourite, bookings, reviews⟩ := l
  cases c with
  | userId =>
      cases userId with
      | error e => rfl
      | ok userId => cases userId <;> rfl
  | favourite =>
      cases userId with
      | error e => rfl
      | ok userId =>
          cases userId with
          | none => rfl
          | some userId => cases favourite <;> rfl
  | bookings =>
      cases userId with
      | error e => rfl
      | ok userId =>
          cases userId with
          | none => rfl
          | some userId => cases bookings <;> rfl
  | reviews => rfl
  | tap t => cases t <;> rfl

theorem foldl_process (s : ViewPostingState) (cs : List Callback) :
    cs.foldl (l.process posting) s = (cs.filterMap (l.update posting)).foldl copyWith s := by
  induction cs generalizing s with
  | nil => rfl
  | cons c cs ih =>
      rw [List.foldl_cons, ih, process_eq]
      cases hc : l.update posting c with
      | none => rw [List.filterMap_cons_none hc, Option.map_none, Option.getD_none]
      | some u => rw [List.filterMap_cons_some hc, List.foldl_cons, Option.map_some,
          Option.getD_some]

/-- The heart is that of the last callback that emitted. -/
theorem isFavorite_final (text : DoubleText) (host : Option User) (cs : List Callback) :
    (l.final posting text host cs).isFavorite =
      (cs.filterMap (l.update posting)).foldl (fun _ u => u.isFavorite) false := by
  rw [final, foldl_process, foldl_copyWith]
  rfl

theorem nodup_setUp : l.setUp.Nodup := by
  unfold setUp
  split_ifs <;> simp

theorem length_filterMap_le_one {α β : Type} {l : List α} (hl : l.Nodup) {f : α → Option β} (a : α)
    (h : ∀ b ∈ l, b ≠ a → f b = none) : (l.filterMap f).length ≤ 1 := by
  induction l with
  | nil => exact Nat.zero_le 1
  | cons b l ih =>
      obtain ⟨hb, hl⟩ := List.nodup_cons.mp hl
      obtain ⟨hfb, hrest⟩ := List.forall_mem_cons.mp h
      by_cases hba : b = a
      · subst hba
        have hnone : l.filterMap f = [] :=
          List.filterMap_eq_nil_iff.mpr (fun c hc => hrest c hc (fun hcb => hb (hcb ▸ hc)))
        rw [List.filterMap_cons, hnone]
        cases f b <;> simp
      · rw [List.filterMap_cons_none (hfb hba)]
        exact ih hl hrest

/-- A field that one callback at most gives a value does not depend on the order. -/
theorem IsOrder.latest_setUp (h : l.IsOrder taps cs) {β : Type} {field : Update → Option β}
    (c₀ : Callback) (htap : ∀ t, c₀ ≠ .tap t)
    (hone : ∀ c u, l.update posting c = some u → c ≠ c₀ → field u = none) (b : β) :
    latest field (cs.filterMap (l.update posting)) b =
      latest field (l.setUp.filterMap (l.update posting)) b := by
  have hnone (c : Callback) (hc : c ≠ c₀) : (l.update posting c).bind field = none :=
    Option.bind_eq_none_iff.mpr (fun u hu => hone c u hu hc)
  have hfilter : cs.filterMap (fun c => (l.update posting c).bind field) =
      (cs.filter (fun c => c.tap?.isNone)).filterMap
        (fun c => (l.update posting c).bind field) := by
    rw [List.filterMap_filter]
    refine List.filterMap_congr (fun c _ => ?_)
    cases c with
    | tap t => exact hnone _ (htap t).symm
    | _ => rfl
  have hlength := length_filterMap_le_one l.nodup_setUp c₀ (fun c _ => hnone c)
  have hperm := h.setUp.filterMap (fun c => (l.update posting c).bind field)
  rw [latest_eq_foldl, latest_eq_foldl, List.filterMap_filterMap, List.filterMap_filterMap, hfilter]
  congr 1
  generalize l.setUp.filterMap (fun c => (l.update posting c).bind field) = values at hlength hperm
  match values with
  | [] => exact hperm.eq_nil
  | [b] => exact hperm.eq_singleton
  | _ :: _ :: _ => exact absurd hlength (by simp)

/-- A field that only taps give a value depends on the taps alone. -/
theorem IsOrder.latest_taps (h : l.IsOrder taps cs) {β : Type} {field : Update → Option β}
    (hsetUp : ∀ c u, l.update posting c = some u → c.tap? = none → field u = none) (b : β) :
    latest field (cs.filterMap (l.update posting)) b =
      latest field (taps.filterMap (fun t => l.update posting (.tap t))) b := by
  rw [latest_eq_foldl, latest_eq_foldl, List.filterMap_filterMap, List.filterMap_filterMap,
    ← h.taps, List.filterMap_filterMap]
  congr 1
  refine List.filterMap_congr (fun c _ => ?_)
  cases c with
  | tap t => rfl
  | _ => exact Option.bind_eq_none_iff.mpr (fun u hu => hsetUp _ u hu rfl)

/-- Without a favourite no callback fills the heart. -/
theorem isFavorite_update (hfound : l.found = false) {c : Callback} {u : Update}
    (h : l.update posting c = some u) : u.isFavorite = false := by
  unfold update at h
  split at h
  · split at h <;> cases h
    rfl
  · split at h <;> cases h
    rename_i huser hfavourite
    simpa only [found, huser, hfavourite] using hfound
  · split at h <;> cases h
    rfl
  · cases h
    rfl
  · cases h
    rfl
  · cases h
    rfl

theorem foldl_isFavorite {us : List Update} (h : ∀ u ∈ us, u.isFavorite = false) :
    us.foldl (fun _ u => u.isFavorite) false = false := by
  induction us with
  | nil => rfl
  | cons u us ih =>
      obtain ⟨hu, hus⟩ := List.forall_mem_cons.mp h
      rw [List.foldl_cons, hu]
      exact ih hus

/-- Each callback gives the field of its own. -/
theorem fields_of_update {c : Callback} {u : Update} (h : l.update posting c = some u) :
    u.displayAddress = none ∧ (c ≠ .userId → u.isHost = none) ∧
      (c ≠ .bookings → u.canReview = none) ∧ (c ≠ .reviews → u.recentReviews = none) ∧
      (c.tap? = none → u.reviewRating = none ∧ u.bookingTimeMap = none) := by
  unfold update at h
  split at h <;> (try split at h) <;> cases h <;> simp [Callback.tap?]

/-- The final state without a favourite, whatever the order. -/
theorem IsOrder.final_eq (h : l.IsOrder taps cs) (hfound : l.found = false) (text : DoubleText)
    (host : Option User) : l.final posting text host cs = { shown text posting.object host with
      isFavorite := false
      displayAddress := latest Update.displayAddress (l.setUp.filterMap (l.update posting)) ""
      reviewRating := latest Update.reviewRating
        (taps.filterMap (fun t => l.update posting (.tap t))) 0
      isHost := latest Update.isHost (l.setUp.filterMap (l.update posting)) false
      bookingTimeMap := latest Update.bookingTimeMap
        (taps.filterMap (fun t => l.update posting (.tap t))) ∅
      canReview := latest Update.canReview (l.setUp.filterMap (l.update posting)) false
      recentReviews := latest Update.recentReviews (l.setUp.filterMap (l.update posting)) [] } := by
  have hheart :
      (cs.filterMap (l.update posting)).foldl (fun _ u => u.isFavorite) false = false := by
    apply foldl_isFavorite
    intro u hu
    obtain ⟨c, -, hc⟩ := List.mem_filterMap.mp hu
    exact isFavorite_update hfound hc
  rw [final, foldl_process, foldl_copyWith]
  congr 1
  · exact h.latest_setUp .userId nofun (fun c u hu _ => (fields_of_update hu).1) _
  · exact h.latest_taps (fun c u hu hc => ((fields_of_update hu).2.2.2.2 hc).1) _
  · exact h.latest_setUp .userId nofun (fun c u hu => (fields_of_update hu).2.1) _
  · exact h.latest_taps (fun c u hu hc => ((fields_of_update hu).2.2.2.2 hc).2) _
  · exact h.latest_setUp .bookings nofun (fun c u hu => (fields_of_update hu).2.2.1) _
  · exact h.latest_setUp .reviews nofun (fun c u hu => (fields_of_update hu).2.2.2.1) _

def reviewsLast (taps : List Tap) : List Callback :=
  [.userId, .favourite, .bookings, .reviews] ++ taps.map .tap

theorem isOrder_reviewsLast (huser : l.user.isSome) (taps : List Tap) :
    l.IsOrder taps (reviewsLast taps) where
  setUp := by
    have htaps : (taps.map Callback.tap).filter (fun c => c.tap?.isNone) = [] := by
      rw [List.filter_eq_nil_iff]
      intro c hc
      obtain ⟨t, -, rfl⟩ := List.mem_map.mp hc
      exact nofun
    rw [reviewsLast, List.filter_append, htaps, Lookups.setUp, if_pos huser]
    have hcomm (cs cs' : List Callback) : (cs ++ cs').Perm (cs' ++ cs) := List.perm_append_comm
    exact (hcomm [.favourite, .bookings] [.reviews]).cons Callback.userId
  taps := by
    rw [reviewsLast, List.filterMap_append, List.filterMap_map]
    exact List.filterMap_some
  userFirst := by
    rw [reviewsLast, List.pairwise_append]
    refine ⟨by simp, ?_, ?_⟩
    · refine List.pairwise_iff_forall_sublist.mpr ?_
      intro c c' hsub hc'
      obtain ⟨t, -, ht⟩ := List.mem_map.mp (hsub.subset (List.mem_cons_of_mem _ List.mem_cons_self))
      rw [hc'] at ht
      cases ht
    · intro c _ c' hc' huser'
      obtain ⟨t, -, rfl⟩ := List.mem_map.mp hc'
      cases huser'

/-- The reviews empty the heart and no tap fills it. -/
theorem isFavorite_reviewsLast (text : DoubleText) (host : Option User) (taps : List Tap) :
    (l.final posting text host (reviewsLast taps)).isFavorite = false := by
  have htaps : ∀ s : ViewPostingState, s.isFavorite = false →
      ((taps.map Callback.tap).foldl (l.process posting) s).isFavorite = false := by
    induction taps with
    | nil => exact fun s hs => hs
    | cons t taps ih =>
        intro s _
        exact ih _ (by cases t <;> rfl)
  rw [final, reviewsLast, List.foldl_append]
  exact htaps _ rfl

end Lookups

/-- The final state is the same in every order, with the heart filled if a favourite was found,
exactly when none was found. -/
theorem orderIndependent_iff_not_found (text : DoubleText) (posting : Managed Posting)
    (host : Option User) (l : Lookups) (taps : List Tap) :
    l.OrderIndependent posting text host taps ↔ l.found = false := by
  constructor
  · intro h
    by_contra hfound
    have huser : l.user.isSome := by
      unfold Lookups.found at hfound
      split at hfound
      · rename_i huser _
        rw [huser]
        rfl
      · exact absurd rfl hfound
    have hheart := h.favourite _ (Lookups.isOrder_reviewsLast huser taps)
    rw [Lookups.isFavorite_reviewsLast] at hheart
    exact hfound hheart.symm
  · intro hfound
    constructor
    · intro cs cs' hcs hcs'
      rw [hcs.final_eq hfound, hcs'.final_eq hfound]
    · intro cs hcs
      rw [hcs.final_eq hfound, hfound]

section Villa

def villa : Managed Posting :=
  ⟨⟨"p1", some "Villa", none, some 80, some "By the sea", none, none, none, none, some "h1", 0, 0,
    ["https://images/1"], [], ∅, ∅⟩, true⟩

def savedVilla : Lookups where
  userId := .ok (some "g1")
  favourite := .ok (some ⟨⟨"f1", some "p1", some "g1", none⟩, true⟩)
  bookings := .ok []
  reviews := []

theorem isOrder_favouriteLast :
    savedVilla.IsOrder [] [.userId, .bookings, .reviews, .favourite] where
  setUp := by
    have hcomm (cs cs' : List Callback) : (cs ++ cs').Perm (cs' ++ cs) := List.perm_append_comm
    exact (hcomm [.bookings] [.reviews, .favourite]).cons Callback.userId
  taps := rfl
  userFirst := by simp

/-- The heart is filled if the lookup of the favourite comes last, and empty if the reviews do. -/
theorem heart_depends_on_order :
    isPostingValid villa.object = true ∧
      savedVilla.IsOrder [] [.userId, .bookings, .reviews, .favourite] ∧
      savedVilla.IsOrder [] [.userId, .favourite, .bookings, .reviews] ∧
      (savedVilla.final villa wholeText none
        [.userId, .bookings, .reviews, .favourite]).isFavorite = true ∧
      (savedVilla.final villa wholeText none
        [.userId, .favourite, .bookings, .reviews]).isFavorite = false ∧
      ¬ savedVilla.OrderIndependent villa wholeText none [] := by
  have hreviews := Lookups.isOrder_reviewsLast (l := savedVilla) rfl []
  have hempty : (savedVilla.final villa wholeText none
      [.userId, .favourite, .bookings, .reviews]).isFavorite = false :=
    Lookups.isFavorite_reviewsLast wholeText none []
  refine ⟨rfl, isOrder_favouriteLast, hreviews, ?_, hempty, ?_⟩
  · rw [Lookups.isFavorite_final]
    rfl
  · intro h
    have hheart := hempty.symm.trans (h.favourite _ hreviews)
    cases hheart

end Villa

end AirBnbClone
