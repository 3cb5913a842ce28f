import AirBnbClone.BookPostingCubit
import AirBnbClone.Execution

/-!
# The rating bar

A `RatingBar` builds one icon after the other and counts the stars in `iconRating`. A tap reports
its own value, but a drag only moves the rating; its end reports the stars of the icons built last.
`ReviewForm` answers every report with a new bar whose initial rating is the reported one.
-/

namespace AirBnbClone

inductive Axis
  | horizontal
  | vertical
  deriving DecidableEq

/-- The settings of a bar that decide its rating; a double is a rational number. -/
structure RatingBar where
  maxRating : Option ℚ := none
  allowHalfRating : Bool := false
  direction : Axis := .horizontal
  initialRating : ℚ := 0
  itemCount : ℕ := 5
  itemPaddingHorizontal : ℚ := 0
  itemPaddingVertical : ℚ := 0
  itemSize : ℚ := 40
  minRating : ℚ := 0
  tapOnlyMode : Bool := false
  updateOnDrag : Bool := false

inductive RatingIcon
  | empty
  | half
  | full
  deriving DecidableEq

namespace RatingIcon

def stars : RatingIcon → ℚ
  | empty => 0
  | half => 1 / 2
  | full => 1

end RatingIcon

structure RatingBarState where
  rating : ℚ := 0
  isRTL : Bool := false
  iconRating : ℚ := 0
  minRating : ℚ
  maxRating : ℚ

namespace RatingBarState

/-- `num.clamp`, which throws if the bounds are the wrong way round. -/
def clamp (q lower upper : ℚ) : Except DartError ℚ :=
  if upper < lower then .error .rangeError else .ok (max lower (min q upper))

section Functions

variable (bar : RatingBar) (s : RatingBarState)

def initState : RatingBarState where
  rating := bar.initialRating
  minRating := bar.minRating
  maxRating := bar.maxRating.getD bar.itemCount

def didUpdateWidget (oldBar : RatingBar) : RatingBarState :=
  { s with
    rating := if oldBar.initialRating ≠ bar.initialRating then bar.initialRating else s.rating
    minRating := bar.minRating
    maxRating := bar.maxRating.getD bar.itemCount }

def buildRating (index : ℕ) : RatingIcon × RatingBarState :=
  let ratingOffset : ℚ := if bar.allowHalfRating then 1 / 2 else 1
  if s.rating ≤ index then (.empty, s)
  else if s.rating - ratingOffset ≤ index ∧ bar.allowHalfRating = true then
    (.half, { s with iconRating := s.iconRating + 1 / 2 })
  else (.full, { s with iconRating := s.iconRating + 1 })

/-- The icons of the indices below `n`, and the state after them. -/
def buildRatings : ℕ → List RatingIcon × RatingBarState
  | 0 => ([], s)
  | n + 1 =>
      let (icons, s) := buildRatings n
      let (icon, s) := buildRating bar s n
      (icons ++ [icon], s)

def build (isRTL : Bool) : List RatingIcon × RatingBarState :=
  buildRatings bar { s with isRTL, iconRating := 0 } bar.itemCount

/-- `onTapDown` of the icon at `index`: the value that it reports, and the state after it. -/
def onTapDown (index : ℕ) (dx : ℚ) : ℚ × RatingBarState :=
  let value : ℚ :=
    if index = 0 ∧ (s.rating = 1 ∨ s.rating = 1 / 2) then 0
    else
      let tappedOnFirstHalf := dx ≤ bar.itemSize / 2
      index + (if tappedOnFirstHalf ∧ bar.allowHalfRating = true then 1 / 2 else 1)
  let value := max value bar.minRating
  (value, { s with rating := value })

/-- `currentRating` in `_onDragUpdate`, for a position measured in icons. -/
def currentRating (i : ℚ) : ℚ :=
  let currentRating : ℚ := if bar.allowHalfRating then i else dartRound i
  let currentRating : ℚ :=
    if currentRating > bar.itemCount then bar.itemCount else currentRating
  let currentRating : ℚ := if currentRating < 0 then 0 else currentRating
  if s.isRTL ∧ bar.direction = .horizontal then bar.itemCount - currentRating else currentRating

/-- `_onDragUpdate` at a position in the bar: what it reports, and the state after it. -/
def onDragUpdate (dx dy : ℚ) : Except DartError (Option ℚ × RatingBarState) :=
  if bar.tapOnlyMode then .ok (none, s)
  else do
    let i := match bar.direction with
      | .horizontal => dx / (bar.itemSize + bar.itemPaddingHorizontal)
      | .vertical => dy / (bar.itemSize + bar.itemPaddingVertical)
    let rating ← clamp (currentRating bar s i) s.minRating s.maxRating
    .ok (if bar.updateOnDrag then some s.iconRating else none, { s with rating })

/-- `_onDragEnd`: what it reports, and the state after it. -/
def onDragEnd : ℚ × RatingBarState := (s.iconRating, { s with iconRating := 0 })

end Functions

end RatingBarState

namespace RatingBar

variable (bar : RatingBar)

/-- A rating rounded up to a number of stars that can be drawn. -/
def roundedUp (rating : ℚ) : ℚ :=
  if bar.allowHalfRating then (⌈2 * rating⌉₊ : ℚ) / 2 else ⌈rating⌉₊

/-- How many stars a rating fills. -/
def filled (rating : ℚ) : ℚ := min bar.itemCount (bar.roundedUp rating)

variable {bar} {rating : ℚ} {n : ℕ}

theorem roundedUp_le (h : rating ≤ n) : bar.roundedUp rating ≤ n := by
  unfold roundedUp
  split
  · have hceil : ⌈2 * rating⌉₊ ≤ 2 * n := Nat.ceil_le.mpr (by push_cast; linarith)
    have hcast : (⌈2 * rating⌉₊ : ℚ) ≤ 2 * n := by exact_mod_cast hceil
    linarith
  · exact_mod_cast Nat.ceil_le.mpr h

theorem roundedUp_eq_half (hhalf : bar.allowHalfRating = true) (hlt : n < rating)
    (hle : rating ≤ n + 1 / 2) : bar.roundedUp rating = n + 1 / 2 := by
  have hceil : ⌈2 * rating⌉₊ = 2 * n + 1 := by
    rw [Nat.ceil_eq_iff (by omega)]
    constructor <;> push_cast <;> linarith
  rw [roundedUp, if_pos hhalf, hceil]
  push_cast
  ring

theorem le_roundedUp (hlt : n < rating)
    (hhalf : bar.allowHalfRating = true → n + 1 / 2 < rating) : n + 1 ≤ bar.roundedUp rating := by
  unfold roundedUp
  split
  · next h =>
      have hceil : 2 * n + 1 < ⌈2 * rating⌉₊ :=
        Nat.lt_ceil.mpr (by push_cast; linarith [hhalf h])
      have hcast : (2 * n + 2 : ℚ) ≤ ⌈2 * rating⌉₊ := by exact_mod_cast hceil
      linarith
  · exact_mod_cast Nat.lt_ceil.mpr hlt

end RatingBar

namespace RatingBarState

variable {bar : RatingBar} {s : RatingBarState}

/-- The three icons, with the ratings for which each of them is built. -/
theorem buildRating_cases (bar : RatingBar) (s : RatingBarState) (index : ℕ) :
    (s.rating ≤ index ∧ buildRating bar s index = (.empty, s)) ∨
    (index < s.rating ∧ s.rating ≤ index + 1 / 2 ∧ bar.allowHalfRating = true ∧
      buildRating bar s index = (.half, { s with iconRating := s.iconRating + 1 / 2 })) ∨
    (index < s.rating ∧ (bar.allowHalfRating = true → index + 1 / 2 < s.rating) ∧
      buildRating bar s index = (.full, { s with iconRating := s.iconRating + 1 })) := by
  unfold buildRating
  dsimp only
  rcases le_or_gt s.rating index with hempty | hempty
  · exact .inl ⟨hempty, if_pos hempty⟩
  · rw [if_neg (not_le.mpr hempty)]
    cases hhalf : bar.allowHalfRating with
    | false =>
        rw [if_neg (fun h => Bool.false_ne_true h.2)]
        exact .inr (.inr ⟨hempty, nofun, rfl⟩)
    | true =>
        rw [if_pos rfl]
        by_cases h : s.rating - 1 / 2 ≤ index
        · rw [if_pos ⟨h, rfl⟩]
          exact .inr (.inl ⟨hempty, sub_le_iff_le_add.mp h, rfl, rfl⟩)
        · rw [if_neg (fun h' => h h'.1)]
          exact .inr (.inr ⟨hempty, fun _ => lt_sub_iff_add_lt.mp (not_le.mp h), rfl⟩)

/-- An icon adds its stars to `iconRating` and changes nothing else. -/
theorem buildRating_snd (bar : RatingBar) (s : RatingBarState) (index : ℕ) :
    (buildRating bar s index).2 =
      { s with iconRating := s.iconRating + (buildRating bar s index).1.stars } := by
  rcases buildRating_cases bar s index with ⟨-, h⟩ | ⟨-, -, -, h⟩ | ⟨-, -, h⟩ <;> rw [h]
  · rw [RatingIcon.stars, add_zero]
  · rfl
  · rfl

theorem buildRatings_snd (bar : RatingBar) (s : RatingBarState) (n : ℕ) :
    (buildRatings bar s n).2 =
      { s with iconRating :=
        s.iconRating + ((buildRatings bar s n).1.map RatingIcon.stars).sum } := by
  induction n with
  | zero => exact congrArg (fun q => { s with iconRating := q }) (add_zero _).symm
  | succ n ih =>
      simp only [buildRatings, List.map_append, List.map_cons, List.map_nil, List.sum_append,
        List.sum_cons, List.sum_nil, add_zero]
      rw [buildRating_snd, ih, add_assoc]

/-- One more icon shows what of the rating lies beyond the icons before it. -/
theorem min_succ_roundedUp (bar : RatingBar) (s : RatingBarState) (n : ℕ) :
    min ((n + 1 : ℕ) : ℚ) (bar.roundedUp s.rating) =
      min (n : ℚ) (bar.roundedUp s.rating) + (buildRating bar s n).1.stars := by
  push_cast
  rcases buildRating_cases bar s n with ⟨hle, h⟩ | ⟨hlt, hle, hhalf, h⟩ | ⟨hlt, hhalf, h⟩ <;>
    rw [h, RatingIcon.stars]
  · have hn := @RatingBar.roundedUp_le bar _ _ hle
    rw [min_eq_right hn, min_eq_right (by linarith), add_zero]
  · rw [RatingBar.roundedUp_eq_half hhalf hlt hle, min_eq_right (by linarith),
      min_eq_left (by linarith)]
  · have hn := RatingBar.le_roundedUp hlt hhalf
    rw [min_eq_left hn, min_eq_left (by linarith)]

/-- The stars of the icons are the rating, rounded up to what can be drawn. -/
theorem buildRatings_stars (bar : RatingBar) (s : RatingBarState) (n : ℕ) :
    ((buildRatings bar s n).1.map RatingIcon.stars).sum = min (n : ℚ) (bar.roundedUp s.rating) := by
  induction n with
  | zero =>
      have hzero : 0 ≤ bar.roundedUp s.rating := by
        unfold RatingBar.roundedUp
        split <;> positivity
      exact (min_eq_left (by exact_mod_cast hzero)).symm
  | succ n ih =>
      simp only [buildRatings, List.map_append, List.map_cons, List.map_nil, List.sum_append,
        List.sum_cons, List.sum_nil, add_zero]
      have hnext := min_succ_roundedUp bar (buildRatings bar s n).2 n
      have hrating : (buildRatings bar s n).2.rating = s.rating := by rw [buildRatings_snd]
      rw [hrating] at hnext
      rw [ih, hnext]

theorem build_stars (bar : RatingBar) (s : RatingBarState) (isRTL : Bool) :
    ((build bar s isRTL).1.map RatingIcon.stars).sum = bar.filled s.rating :=
  buildRatings_stars bar _ bar.itemCount

theorem buildRatings_succ_fst (bar : RatingBar) (s : RatingBarState) (n : ℕ) :
    (buildRatings bar s (n + 1)).1 =
      (buildRatings bar s n).1 ++ [(buildRating bar (buildRatings bar s n).2 n).1] :=
  rfl

/-- The icons before the end of the rating are full. -/
theorem full_of_mem_buildRatings {n : ℕ} {icon : RatingIcon} (h : n < s.rating)
    (hicon : icon ∈ (buildRatings bar s n).1) : icon = .full := by
  induction n with
  | zero => exact absurd hicon List.not_mem_nil
  | succ n ih =>
      push_cast at h
      rw [buildRatings_succ_fst] at hicon
      rcases List.mem_append.mp hicon with hicon | hicon
      · exact ih (by linarith) hicon
      · rw [List.mem_singleton.mp hicon]
        have hrating : (buildRatings bar s n).2.rating = s.rating := by rw [buildRatings_snd]
        rcases buildRating_cases bar (buildRatings bar s n).2 n with
          ⟨hle, -⟩ | ⟨-, hle, -⟩ | ⟨-, -, h⟩
        · rw [hrating] at hle
          linarith
        · rw [hrating] at hle
          linarith
        · rw [h]

/-- The full icons come first, then a half one at most, then the empty ones. -/
theorem buildRatings_pairwise (bar : RatingBar) (s : RatingBarState) (n : ℕ) :
    (buildRatings bar s n).1.Pairwise (fun icon icon' => icon = .full ∨ icon' = .empty) := by
  induction n with
  | zero => exact List.Pairwise.nil
  | succ n ih =>
      rw [buildRatings_succ_fst]
      refine List.pairwise_append.mpr ⟨ih, List.pairwise_singleton _ _, ?_⟩
      intro icon hicon icon' hicon'
      obtain rfl := List.mem_singleton.mp hicon'
      have hrating : (buildRatings bar s n).2.rating = s.rating := by rw [buildRatings_snd]
      rcases le_or_gt s.rating n with h | h
      · have hempty :
            buildRating bar (buildRatings bar s n).2 n = (.empty, (buildRatings bar s n).2) :=
          if_pos (hrating.symm ▸ h)
        exact .inr (congrArg Prod.fst hempty)
      · exact .inl (full_of_mem_buildRatings h hicon)

/-- After a build `iconRating` is what the icons show. -/
theorem build_snd (bar : RatingBar) (s : RatingBarState) (isRTL : Bool) :
    (build bar s isRTL).2 = { s with isRTL, iconRating := bar.filled s.rating } := by
  unfold build
  rw [buildRatings_snd, buildRatings_stars, zero_add]
  rfl

theorem buildRatings_length (bar : RatingBar) (s : RatingBarState) (n : ℕ) :
    (buildRatings bar s n).1.length = n := by
  induction n with
  | zero => rfl
  | succ n ih => rw [buildRatings_succ_fst, List.length_append, ih, List.length_singleton]

/-- For every bar and rating the icons show the rating rounded up, a negative one as 0, full icons
first and half an icon at most, and this is what a drag that ends now would report. -/
theorem build_shows_rating (bar : RatingBar) (s : RatingBarState) (isRTL : Bool) :
    (build bar s isRTL).1.length = bar.itemCount ∧
      (build bar s isRTL).1.Pairwise (fun icon icon' => icon = .full ∨ icon' = .empty) ∧
      ((build bar s isRTL).1.map RatingIcon.stars).sum = bar.filled s.rating ∧
      (onDragEnd (build bar s isRTL).2).1 = bar.filled s.rating := by
  refine ⟨buildRatings_length bar _ _, buildRatings_pairwise bar _ _, build_stars bar s isRTL, ?_⟩
  rw [build_snd]
  rfl

end RatingBarState

/-- The stars of a `ReviewForm`: its own rating, the bar that it has built last with the icons drawn
for it, and what it has passed on. `dragged` tells whether the bar was dragged after the form's
rating was set. -/
structure ReviewForm where
  rating : ℚ
  bar : RatingBar
  stars : RatingBarState
  icons : List RatingIcon
  reported : List ℚ := []
  dragged : Bool := false

/-- What a user does with the form, and the frames drawn in between. -/
inductive Gesture
  | tapDown (index : ℕ) (dx : ℚ)
  | dragUpdate (dx dy : ℚ)
  | dragEnd
  | submit (text : String)
  | frame

namespace ReviewForm

open RatingBarState

def ratingBar (rating : ℚ) : RatingBar :=
  { maxRating := some 5, initialRating := rating, itemCount := 5, itemSize := 40 }

def onRatingChanged (form : ReviewForm) (value : ℚ) : ReviewForm :=
  { form with rating := value, reported := form.reported ++ [value], dragged := false }

variable (isRTL : Bool)

def opened (rating : ℚ) : ReviewForm :=
  let bar := ratingBar rating
  let (icons, stars) := build bar (initState bar) isRTL
  { rating, bar, stars, icons }

def frame (form : ReviewForm) : ReviewForm :=
  let bar := ratingBar form.rating
  let (icons, stars) := build bar (didUpdateWidget bar form.stars form.bar) isRTL
  { form with bar, stars, icons }

def step (form : ReviewForm) : Gesture → Option ReviewForm
  | .tapDown index dx =>
      if index < form.bar.itemCount then
        let (value, stars) := onTapDown form.bar form.stars index dx
        some { form.onRatingChanged value with stars }
      else none
  | .dragUpdate dx dy =>
      match onDragUpdate form.bar form.stars dx dy with
      | .ok (none, stars) => some { form with stars, dragged := true }
      | .ok (some value, stars) => some { form.onRatingChanged value with stars }
      | .error _ => none
  | .dragEnd =>
      let (value, stars) := onDragEnd form.stars
      some { form.onRatingChanged value with stars }
  | .submit text =>
      if text = "" then some form else some { form with rating := 0, dragged := false }
  | .frame => some (frame isRTL form)

def shown (form : ReviewForm) : ℚ := (form.icons.map RatingIcon.stars).sum

/-- The bar has the value already, or will take it over from a new bar. -/
def Follows (form : ReviewForm) (value : ℚ) : Prop :=
  form.bar.initialRating = value → form.stars.rating = value

/-- A drag ends, and a review is submitted, at a rating that the bar follows. -/
def Drawn (form : ReviewForm) : Gesture → Prop
  | .dragEnd => form.Follows form.stars.iconRating
  | .submit text => text ≠ "" → form.Follows 0
  | _ => True

def Whole (rating : ℚ) : Prop := ∃ n : ℕ, n ≤ 5 ∧ rating = n

structure WellFormed (form : ReviewForm) : Prop where
  bar : form.bar = ratingBar form.bar.initialRating
  minRating : form.stars.minRating = 0
  maxRating : form.stars.maxRating = 5
  rating : Whole form.rating
  stars : Whole form.stars.rating
  iconRating : Whole form.stars.iconRating
  reported : ∀ value ∈ form.reported, Whole value

/-- Unless a drag is under way, the next frame shows the form's rating. -/
def ShowsRating (form : ReviewForm) : Prop :=
  form.dragged = false → (frame isRTL form).shown = form.rating

variable {isRTL} {form form' : ReviewForm} {rating : ℚ}

theorem filled_of_whole (h : Whole rating) (initial : ℚ) :
    (ratingBar initial).filled rating = rating := by
  obtain ⟨n, hn, rfl⟩ := h
  have hn' : (n : ℚ) ≤ 5 := by exact_mod_cast hn
  simp only [RatingBar.filled, RatingBar.roundedUp, ratingBar, Bool.false_eq_true, if_false,
    Nat.ceil_natCast]
  exact min_eq_right hn'

theorem whole_of_int {z : ℤ} (hz : 0 ≤ z) (hz' : z ≤ 5) : Whole z := by
  refine ⟨z.toNat, by omega, ?_⟩
  have h : ((z.toNat : ℤ) : ℚ) = z := by rw [Int.toNat_of_nonneg hz]
  exact h.symm

theorem Whole.nonneg (h : Whole rating) : 0 ≤ rating := by
  obtain ⟨n, -, rfl⟩ := h
  exact n.cast_nonneg

theorem Whole.le_five (h : Whole rating) : rating ≤ 5 := by
  obtain ⟨n, hn, rfl⟩ := h
  exact_mod_cast hn

theorem Whole.mirrored (h : Whole rating) : Whole (5 - rating) := by
  obtain ⟨n, hn, rfl⟩ := h
  exact ⟨5 - n, Nat.sub_le 5 n, by rw [Nat.cast_sub hn, Nat.cast_ofNat]⟩

theorem clamp_of_whole (h : Whole rating) : clamp rating 0 5 = .ok rating := by
  rw [clamp, if_neg (by norm_num), min_eq_left h.le_five, max_eq_right h.nonneg]

theorem whole_currentRating (s : RatingBarState) (initial i : ℚ) :
    Whole (currentRating (ratingBar initial) s i) := by
  have hbounded : Whole (if (if (dartRound i : ℚ) > 5 then (5 : ℚ) else dartRound i) < 0 then 0
      else if (dartRound i : ℚ) > 5 then 5 else dartRound i) := by
    by_cases hmax : (dartRound i : ℚ) > 5
    · rw [if_pos hmax, if_neg (by norm_num)]
      exact ⟨5, le_rfl, rfl⟩
    · rw [if_neg hmax]
      by_cases hmin : (dartRound i : ℚ) < 0
      · rw [if_pos hmin]
        exact ⟨0, Nat.zero_le 5, rfl⟩
      · rw [if_neg hmin]
        exact whole_of_int (by exact_mod_cast not_lt.mp hmin) (by exact_mod_cast not_lt.mp hmax)
  by_cases hrtl : s.isRTL = true
  · have heq : currentRating (ratingBar initial) s i = 5 - _ := if_pos ⟨hrtl, rfl⟩
    exact heq ▸ hbounded.mirrored
  · have heq : currentRating (ratingBar initial) s i = _ := if_neg (fun h => hrtl h.1)
    exact heq ▸ hbounded

/-- A drag moves the rating to a whole number of stars and reports nothing. -/
theorem onDragUpdate_ratingBar {s : RatingBarState} (initial dx dy : ℚ) (hmin : s.minRating = 0)
    (hmax : s.maxRating = 5) :
    ∃ q, Whole q ∧
      onDragUpdate (ratingBar initial) s dx dy = .ok (none, { s with rating := q }) := by
  have hwhole := whole_currentRating s initial (dx / (40 + 0))
  refine ⟨_, hwhole, ?_⟩
  have hclamp := clamp_of_whole hwhole
  unfold onDragUpdate
  simp only [ratingBar, hmin, hmax, Bool.false_eq_true, if_false] at hclamp ⊢
  rw [hclamp]
  rfl

theorem whole_onTapDown {index : ℕ} {s : RatingBarState} (hindex : index < 5) (initial dx : ℚ) :
    ∃ q, Whole q ∧ onTapDown (ratingBar initial) s index dx = (q, { s with rating := q }) := by
  refine ⟨_, ?_, rfl⟩
  have hone (p : Prop) [Decidable p] :
      (if p ∧ (ratingBar initial).allowHalfRating = true then (1 / 2 : ℚ) else 1) = 1 :=
    if_neg (fun h => Bool.false_ne_true h.2)
  dsimp only
  rw [hone]
  split
  · exact ⟨0, Nat.zero_le 5, max_self 0⟩
  · refine ⟨index + 1, hindex, ?_⟩
    rw [Nat.cast_add_one]
    exact max_eq_left (by positivity)

theorem wellFormed_opened (h : Whole rating) : WellFormed (opened isRTL rating) := by
  have hsnd := build_snd (ratingBar rating) (initState (ratingBar rating)) isRTL
  unfold opened
  dsimp only
  rw [hsnd]
  refine ⟨rfl, rfl, rfl, h, h, ?_, nofun⟩
  exact (filled_of_whole h rating).symm ▸ h

theorem follows_opened (rating : ℚ) : (opened isRTL rating).Follows rating := by
  intro _
  have hsnd := build_snd (ratingBar rating) (initState (ratingBar rating)) isRTL
  exact congrArg RatingBarState.rating hsnd

/-- A new bar takes over a rating that is new to the widget. -/
theorem didUpdateWidget_cases (bar oldBar : RatingBar) (s : RatingBarState) :
    oldBar.initialRating ≠ bar.initialRating ∧
        (didUpdateWidget bar s oldBar).rating = bar.initialRating ∨
      oldBar.initialRating = bar.initialRating ∧
        (didUpdateWidget bar s oldBar).rating = s.rating := by
  by_cases h : oldBar.initialRating = bar.initialRating
  · exact .inr ⟨h, if_neg (not_not.mpr h)⟩
  · exact .inl ⟨h, if_pos h⟩

theorem didUpdateWidget_rating_eq_iff (form : ReviewForm) :
    (didUpdateWidget (ratingBar form.rating) form.stars form.bar).rating = form.rating ↔
      form.Follows form.rating := by
  rcases didUpdateWidget_cases (ratingBar form.rating) form.bar form.stars with ⟨h, hs⟩ | ⟨h, hs⟩
  · exact iff_of_true hs (fun h' => absurd h' h)
  · rw [hs]
    exact ⟨fun h' _ => h', fun h' => h' h⟩

theorem WellFormed.whole_didUpdateWidget (h : WellFormed form) :
    Whole (didUpdateWidget (ratingBar form.rating) form.stars form.bar).rating := by
  rcases didUpdateWidget_cases (ratingBar form.rating) form.bar form.stars with ⟨-, hs⟩ | ⟨-, hs⟩
  · exact hs.symm ▸ h.rating
  · exact hs.symm ▸ h.stars

theorem WellFormed.shown_frame_iff (h : WellFormed form) :
    (frame isRTL form).shown = form.rating ↔ form.Follows form.rating := by
  unfold shown frame
  dsimp only
  rw [build_stars, filled_of_whole h.whole_didUpdateWidget, didUpdateWidget_rating_eq_iff]

theorem wellFormed_frame (h : WellFormed form) : WellFormed (frame isRTL form) := by
  have hsnd := build_snd (ratingBar form.rating)
    (didUpdateWidget (ratingBar form.rating) form.stars form.bar) isRTL
  have hwhole := h.whole_didUpdateWidget
  have hfilled := filled_of_whole hwhole form.rating
  unfold frame
  dsimp only
  rw [hsnd, hfilled]
  exact ⟨rfl, rfl, rfl, h.rating, hwhole, hwhole, h.reported⟩

/-- A frame shows what the frame after it would show. -/
theorem follows_frame_iff (form : ReviewForm) :
    (frame isRTL form).Follows form.rating ↔ form.Follows form.rating := by
  have hsnd := build_snd (ratingBar form.rating)
    (didUpdateWidget (ratingBar form.rating) form.stars form.bar) isRTL
  have hrating : (frame isRTL form).stars.rating =
      (didUpdateWidget (ratingBar form.rating) form.stars form.bar).rating := by
    unfold frame
    dsimp only
    rw [hsnd]
  rw [← didUpdateWidget_rating_eq_iff form, ← hrating]
  exact ⟨fun h => h rfl, fun h _ => h⟩

/-- What a step does to a well-formed form. -/
theorem step_cases {g : Gesture} (h : WellFormed form) (hstep : step isRTL form g = some form') :
    (∃ index dx q, g = .tapDown index dx ∧ Whole q ∧
      form' = { form.onRatingChanged q with stars := { form.stars with rating := q } }) ∨
    (∃ dx dy q, g = .dragUpdate dx dy ∧ Whole q ∧
      form' = { form with stars := { form.stars with rating := q }, dragged := true }) ∨
    (g = .dragEnd ∧ form' = { form.onRatingChanged form.stars.iconRating with
      stars := { form.stars with iconRating := 0 } }) ∨
    (g = .submit "" ∧ form' = form) ∨
    (∃ text, g = .submit text ∧ text ≠ "" ∧
      form' = { form with rating := 0, dragged := false }) ∨
    (g = .frame ∧ form' = frame isRTL form) := by
  cases g with
  | tapDown index dx =>
      unfold step at hstep
      dsimp only at hstep
      split at hstep
      · next hindex =>
          rw [h.bar] at hindex
          obtain ⟨q, hq, htap⟩ := whole_onTapDown (s := form.stars) hindex form.bar.initialRating dx
          rw [← h.bar] at htap
          rw [htap] at hstep
          exact .inl ⟨index, dx, q, rfl, hq, (Option.some.inj hstep).symm⟩
      · cases hstep
  | dragUpdate dx dy =>
      obtain ⟨q, hq, hdrag⟩ :=
        onDragUpdate_ratingBar form.bar.initialRating dx dy h.minRating h.maxRating
      rw [← h.bar] at hdrag
      unfold step at hstep
      dsimp only at hstep
      rw [hdrag] at hstep
      exact .inr (.inl ⟨dx, dy, q, rfl, hq, (Option.some.inj hstep).symm⟩)
  | dragEnd => exact .inr (.inr (.inl ⟨rfl, (Option.some.inj hstep).symm⟩))
  | submit text =>
      unfold step at hstep
      dsimp only at hstep
      split at hstep
      · next htext =>
          exact .inr (.inr (.inr (.inl ⟨congrArg _ htext, (Option.some.inj hstep).symm⟩)))
      · next htext =>
          exact .inr (.inr (.inr (.inr (.inl
            ⟨text, rfl, htext, (Option.some.inj hstep).symm⟩))))
  | frame => exact .inr (.inr (.inr (.inr (.inr ⟨rfl, (Option.some.inj hstep).symm⟩))))

theorem whole_of_mem_snoc {values : List ℚ} {value : ℚ} (h : ∀ v ∈ values, Whole v)
    (hvalue : Whole value) : ∀ v ∈ values ++ [value], Whole v :=
  fun v hv => (List.mem_append.mp hv).elim (h v) (fun hv => List.mem_singleton.mp hv ▸ hvalue)

theorem wellFormed_step {g : Gesture} (h : WellFormed form)
    (hstep : step isRTL form g = some form') : WellFormed form' := by
  have hzero : Whole 0 := ⟨0, Nat.zero_le 5, rfl⟩
  rcases step_cases h hstep with ⟨index, dx, q, -, hq, rfl⟩ | ⟨dx, dy, q, -, hq, rfl⟩ | ⟨-, rfl⟩ |
    ⟨-, rfl⟩ | ⟨text, -, -, rfl⟩ | ⟨-, rfl⟩
  · exact ⟨h.bar, h.minRating, h.maxRating, hq, hq, h.iconRating,
      whole_of_mem_snoc h.reported hq⟩
  · exact ⟨h.bar, h.minRating, h.maxRating, h.rating, hq, h.iconRating, h.reported⟩
  · exact ⟨h.bar, h.minRating, h.maxRating, h.iconRating, h.stars, hzero,
      whole_of_mem_snoc h.reported h.iconRating⟩
  · exact h
  · exact ⟨h.bar, h.minRating, h.maxRating, hzero, h.stars, h.iconRating, h.reported⟩
  · exact wellFormed_frame h

/-- From a form that shows its rating, a step leads to such a form if and only if it is drawn. -/
theorem showsRating_step_iff {g : Gesture} (h : WellFormed form) (hshows : ShowsRating isRTL form)
    (hstep : step isRTL form g = some form') : ShowsRating isRTL form' ↔ Drawn form g := by
  have h' := wellFormed_step h hstep
  unfold ShowsRating at hshows ⊢
  rw [h.shown_frame_iff] at hshows
  rw [h'.shown_frame_iff]
  rcases step_cases h hstep with ⟨index, dx, q, rfl, -, rfl⟩ | ⟨dx, dy, q, rfl, -, rfl⟩ |
    ⟨rfl, rfl⟩ | ⟨rfl, rfl⟩ | ⟨text, rfl, htext, rfl⟩ | ⟨rfl, rfl⟩
  · exact iff_of_true (fun _ _ => rfl) trivial
  · exact iff_of_true nofun trivial
  · exact ⟨fun hfollows => hfollows rfl, fun hdrawn _ => hdrawn⟩
  · exact iff_of_true hshows (fun hne => absurd rfl hne)
  · exact ⟨fun hfollows _ => hfollows rfl, fun hdrawn _ => hdrawn htext⟩
  · exact iff_of_true (fun hdragged => (follows_frame_iff form).mpr (hshows hdragged)) trivial

/-- The stars drawn are the form's rating, whenever no drag is under way, exactly in the runs in
which each drag ends and each review is submitted at a rating that the bar follows. -/
theorem always_showsRating_iff (isRTL : Bool) (rating : ℚ) (h : Whole rating)
    (gestures : List Gesture) :
    Execution.Always (step isRTL) (ShowsRating isRTL) (opened isRTL rating) gestures ↔
      Execution.StepsMeet (step isRTL) Drawn (opened isRTL rating) gestures := by
  have hopened := @wellFormed_opened isRTL _ h
  refine Execution.always_iff_stepsMeet (R := WellFormed)
    (fun _ _ _ hform hstep => wellFormed_step hform hstep) ?_
    (fun _ _ _ hform hshows hstep => showsRating_step_iff hform hshows hstep) gestures ?_ hopened
  · intro form g hnone
    cases g with
    | dragEnd => cases hnone
    | submit text =>
        unfold step at hnone
        dsimp only at hnone
        split at hnone <;> cases hnone
    | _ => trivial
  · exact fun _ => hopened.shown_frame_iff.mpr (follows_opened rating)

def tapAndDrag : List Gesture :=
  [.tapDown 3 10, .frame, .dragUpdate 80 20, .frame, .dragEnd, .frame]

def flick : List Gesture :=
  [.tapDown 3 10, .frame, .dragUpdate 80 20, .dragEnd, .frame]

instance (form : ReviewForm) (value : ℚ) : Decidable (form.Follows value) :=
  inferInstanceAs (Decidable (_ → _))

instance (form : ReviewForm) : (g : Gesture) → Decidable (Drawn form g)
  | .dragEnd => inferInstanceAs (Decidable (form.Follows form.stars.iconRating))
  | .submit text => inferInstanceAs (Decidable (text ≠ "" → form.Follows 0))
  | .tapDown _ _ => .isTrue trivial
  | .dragUpdate _ _ => .isTrue trivial
  | .frame => .isTrue trivial

theorem always_showsRating_tapAndDrag :
    Execution.Always (step false) (ShowsRating false) (opened false 0) tapAndDrag :=
  (always_showsRating_iff false 0 ⟨0, Nat.zero_le 5, Nat.cast_zero.symm⟩ tapAndDrag).mpr
    (by decide +kernel)

/-- Two stars are drawn, but four were reported. -/
example : ¬ Execution.StepsMeet (step false) Drawn (opened false 0) flick := by decide +kernel

end ReviewForm

end AirBnbClone
