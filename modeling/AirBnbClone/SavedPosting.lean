import AirBnbClone.FetchThenRead
import AirBnbClone.PostingScreen
import AirBnbClone.SaveBookingFaults

/-!
# Saving a posting once

`toggleFavourite` reads the flag of the heart before it awaits the user and the creation of the
favourite, and sets it afterwards. So two taps in a row both create one; and since every other
`copyWith` empties the heart again, so does a tap after the first has been saved. A posting is saved
at most once as long as no tap finds the heart empty while another is under way or a favourite is
there.
-/

namespace AirBnbClone

open Async FireStoreService ViewPostingCubit

namespace FavouritePostingRepository

def createFavouritePosting (z : Zone) (ids : AutoId) (data : Doc) (w : World) :
    Except DartError FavouritePosting × World :=
  createAndRead z ids .favouritePosting FirestoreCollection.favouritePosting none data
    "Failed to create favourite posting in local storage" w

end FavouritePostingRepository

structure SavingScreen where
  screen : PostingScreen
  world : World

inductive SavingEvent
  | screen (e : PostingEvent)
  | created (i : ℕ) (outcome : Outcome)

namespace SavingScreen

def start (text : DoubleText) (posting : Managed Posting) (host : Option User) (w : World) :
    SavingScreen :=
  ⟨PostingScreen.start text posting host, w⟩

def creation (scr : PostingScreen) (i : ℕ) : Option Doc :=
  match scr.processes[i]? with
  | some ⟨_, .await (.createFavouritePosting data) _⟩ => some data
  | _ => none

def answersCreation (scr : PostingScreen) : PostingEvent → Bool
  | .answer i _ => (creation scr i).isSome
  | _ => false

/-- The creation of a favourite, or its failure before or after the document is stored. -/
def create (z : Zone) (ids : AutoId) (outcome : Outcome) (data : Doc) (w : World) :
    Except DartError (Managed FavouritePosting) × World :=
  let created := FavouritePostingRepository.createFavouritePosting z ids data w
  match outcome with
  | .reply isValid => (created.1.map (fun f => ⟨f, isValid⟩), created.2)
  | .fail applied => (.error .unavailable, if applied then created.2 else w)

def creationReply (result : Except DartError (Managed FavouritePosting)) :
    (op : ViewCall) → Except DartError (ViewReply op)
  | .createFavouritePosting _ => result
  | _ => .error .unavailable

variable (z : Zone) (ids : AutoId) (posting : Managed Posting)

/-- The repository creates the favourites; every other call gets the reply of the event. -/
def step (s : SavingScreen) : SavingEvent → Option SavingScreen
  | .screen e =>
      if answersCreation s.screen e then none
      else (s.screen.step z posting e).map (fun screen => { s with screen := screen })
  | .created i outcome =>
      (creation s.screen i).bind (fun data =>
        let result := create z ids outcome data s.world
        (s.screen.step z posting (.answer i (creationReply result.1))).map (fun screen =>
          ⟨screen, result.2⟩))

/-- There is at most one favourite of the user for the posting. -/
def AtMostOne (userId postingId : String) (w : World) : Prop :=
  ∀ k D k' D', Favourite w userId postingId k D → Favourite w userId postingId k' D' → k = k'

def Unsaved (userId postingId : String) (w : World) : Prop :=
  ∀ k D, ¬ Favourite w userId postingId k D

def Toggling (scr : PostingScreen) : Prop := ∃ p ∈ scr.processes, p.action = .toggleFavourite

/-- A tap that finds the heart empty finds no other tap under way and no favourite. -/
def Single (userId postingId : String) (s : SavingScreen) : SavingEvent → Prop
  | .screen .toggleFavourite => s.screen.state.isHost = true ∨ s.screen.state.isFavorite = true ∨
      (¬ Toggling s.screen ∧ Unsaved userId postingId s.world)
  | _ => True

instance (userId postingId : String) (w : World) : Decidable (Unsaved userId postingId w) :=
  decidable_of_iff (∀ D ∈ FiniteMap.values (w.remote.docs FirestoreCollection.favouritePosting),
      ¬ (D.get "user_id" = .string userId ∧ D.get "posting_id" = .string postingId)) (by
    simp only [FiniteMap.mem_values_iff, Unsaved, Favourite, Firestore.doc, not_and,
      forall_exists_index]
    exact ⟨fun h k D hD => h D k hD, fun h D k hD => h k D hD⟩)

instance (scr : PostingScreen) : Decidable (Toggling scr) :=
  inferInstanceAs (Decidable (∃ p ∈ scr.processes, p.action = .toggleFavourite))

instance (userId postingId : String) (s : SavingScreen) (e : SavingEvent) :
    Decidable (Single userId postingId s e) :=
  match e with
  | .screen .toggleFavourite => inferInstanceAs (Decidable (s.screen.state.isHost = true ∨
      s.screen.state.isFavorite = true ∨
        (¬ Toggling s.screen ∧ Unsaved userId postingId s.world)))
  | .screen (.userAnswered _) => .isTrue trivial
  | .screen (.answer _ _) => .isTrue trivial
  | .screen (.reviews _) => .isTrue trivial
  | .screen (.setReviewRating _) => .isTrue trivial
  | .screen .selectedMarker => .isTrue trivial
  | .screen .timerFires => .isTrue trivial
  | .screen (.updateBookingTimeMap _) => .isTrue trivial
  | .screen (.submitReview _) => .isTrue trivial
  | .created _ _ => .isTrue trivial

section Screen

open PostingScreen

variable {z : Zone} {posting : Managed Posting} {scr scr' : PostingScreen} {e : PostingEvent}

def toggles (scr : PostingScreen) : ℕ :=
  scr.processes.countP (fun p => p.action = .toggleFavourite)

/-- Every function that is under way creates at most as many favourites as it is allowed. -/
def Allowed (budget : ViewAction → ℕ) (scr : PostingScreen) : Prop :=
  ∀ p ∈ scr.processes, Saves (budget p.action) p.program

def onePerTap : ViewAction → ℕ
  | .toggleFavourite => 1
  | _ => 0

theorem toggles_eq_zero (h : ¬ Toggling scr) : toggles scr = 0 := by
  rw [toggles, List.countP_eq_zero]
  intro p hp haction
  exact h ⟨p, hp, of_decide_eq_true haction⟩

theorem not_toggling (h : toggles scr = 0) : ¬ Toggling scr := by
  rintro ⟨p, hp, haction⟩
  exact List.countP_eq_zero.mp h p hp (decide_eq_true haction)

theorem toggles_advance (scr : PostingScreen) (process : ViewProcess) :
    toggles (scr.advance process) ≤
      toggles scr + if process.action = .toggleFavourite then 1 else 0 := by
  unfold toggles
  obtain hsame | hmore := processes_advance scr process
  · rw [hsame]
    exact Nat.le_add_right _ _
  · rw [hmore, List.countP_append, List.countP_singleton]
    simp

/-- Removing the `i`-th function. -/
theorem toggles_eraseIdx {i : ℕ} {p : ViewProcess} (h : scr.processes[i]? = some p) :
    toggles scr = toggles { scr with processes := scr.processes.eraseIdx i } +
      if p.action = .toggleFavourite then 1 else 0 := by
  obtain ⟨hi, rfl⟩ := List.getElem?_eq_some_iff.mp h
  have hperm := List.getElem_cons_eraseIdx_perm hi
  unfold toggles
  rw [← hperm.countP_eq, List.countP_cons]
  simp

theorem Allowed.advance {budget : ViewAction → ℕ} (h : Allowed budget scr) {process : ViewProcess}
    (hsaves : Saves (budget process.action) process.program) :
    Allowed budget (scr.advance process) := by
  intro p hp
  obtain hp | rfl := mem_processes_advance hp
  · exact h p hp
  · exact (hsaves.settle scr.state).1

theorem Allowed.eraseIdx {budget : ViewAction → ℕ} (h : Allowed budget scr) (i : ℕ) :
    Allowed budget { scr with processes := scr.processes.eraseIdx i } :=
  fun p hp => h p (List.mem_of_mem_eraseIdx hp)

/-- Only a tap on the heart starts a function that may create a favourite. -/
theorem step_of_ne_toggle {budget : ViewAction → ℕ} (h : Allowed budget scr)
    (hne : e ≠ .toggleFavourite) (hstep : scr.step z posting e = some scr') :
    Allowed budget scr' ∧ toggles scr' ≤ toggles scr := by
  obtain ⟨u, t, -, rfl⟩ | rfl | ⟨reply, -, -, rfl⟩ | ⟨i, reply, action, op, k, -, hprocess, rfl⟩ |
    ⟨he, -⟩ | ⟨comment, -, rfl⟩ := step_cases hstep
  · exact ⟨h, le_rfl⟩
  · exact ⟨h, le_rfl⟩
  · obtain ⟨error, -, hfailed⟩ | ⟨userId, -, hcompleted⟩ :=
      userAnswered_cases posting scr reply
    · rw [hfailed]
      exact ⟨h, le_rfl⟩
    · rw [hcompleted]
      refine ⟨?_, ?_⟩
      · intro p hp
        rcases List.mem_append.mp hp with hp | hp
        · exact h p hp
        · obtain ⟨u, -, hp⟩ := List.mem_flatMap.mp hp
          rcases List.mem_pair.mp hp with rfl | rfl
          · exact (saves_lookUpFavourite u).mono (Nat.zero_le _)
          · exact (saves_lookUpBookings u).mono (Nat.zero_le _)
      · cases userId with
        | none => simp [toggles]
        | some u => simp [toggles]
  · obtain ⟨-, -, hk⟩ := h _ (List.mem_of_getElem? hprocess)
    refine ⟨(h.eraseIdx i).advance ((hk _).mono (Nat.sub_le _ _)), ?_⟩
    rw [toggles_eraseIdx hprocess]
    exact toggles_advance _ _
  · exact absurd he hne
  · refine ⟨h.advance ((saves_submitReview comment).mono (Nat.zero_le _)), ?_⟩
    exact toggles_advance _ _

theorem exists_of_creation {i : ℕ} {data : Doc} (h : creation scr i = some data) :
    ∃ action k, scr.processes[i]? = some ⟨action, .await (.createFavouritePosting data) k⟩ := by
  unfold creation at h
  split at h
  · rename_i action data' k hprocess
    cases h
    exact ⟨action, k, hprocess⟩
  · cases h

/-- Once the one tap under way gets its favourite, no function may create another. -/
theorem step_of_creation {i : ℕ} {data : Doc} (h : Allowed onePerTap scr)
    (htoggles : toggles scr ≤ 1)
    (hcreation : creation scr i = some data)
    {reply : (op : ViewCall) → Except DartError (ViewReply op)}
    (hstep : scr.step z posting (.answer i reply) = some scr') : Allowed (fun _ => 0) scr' := by
  obtain ⟨action, k, hprocess⟩ := exists_of_creation hcreation
  simp only [PostingScreen.step, hprocess] at hstep
  cases hstep
  obtain ⟨-, hcost, hk⟩ := h _ (List.mem_of_getElem? hprocess)
  have haction : action = .toggleFavourite := by
    cases action with
    | toggleFavourite => rfl
    | lookUp => exact absurd hcost (Nat.not_succ_le_zero 0)
    | submitReview => exact absurd hcost (Nat.not_succ_le_zero 0)
  subst haction
  have hrest : toggles { scr with processes := scr.processes.eraseIdx i } = 0 := by
    have herase := toggles_eraseIdx hprocess
    rw [if_pos rfl] at herase
    omega
  refine Allowed.advance ?_ (hk _)
  intro p hp
  have hsaves := h.eraseIdx i p hp
  have hother : p.action ≠ .toggleFavourite := fun haction => not_toggling hrest ⟨p, hp, haction⟩
  cases hp' : p.action with
  | toggleFavourite => exact absurd hp' hother
  | lookUp => rwa [hp'] at hsaves
  | submitReview => rwa [hp'] at hsaves

theorem creation_eq_none (h : Allowed (fun _ => 0) scr) (i : ℕ) : creation scr i = none := by
  cases hcreation : creation scr i with
  | none => rfl
  | some data =>
      obtain ⟨action, k, hprocess⟩ := exists_of_creation hcreation
      obtain ⟨-, hcost, -⟩ := h _ (List.mem_of_getElem? hprocess)
      exact absurd hcost (Nat.not_succ_le_zero 0)

/-- A tap on a full heart, or on one's own posting, does nothing. -/
theorem step_toggleFavourite_of_full
    (h : scr.state.isHost = true ∨ scr.state.isFavorite = true) :
    scr.step z posting .toggleFavourite = some scr := by
  simp only [PostingScreen.step, PostingScreen.advance, settle_toggleFavourite h]

end Screen

section World

variable {z : Zone} {ids : AutoId} {userId postingId : String} {w : World} {data : Doc}

theorem Unsaved.atMostOne (h : Unsaved userId postingId w) : AtMostOne userId postingId w :=
  fun k D _ _ hD _ => absurd hD (h k D)

/-- The creation of a favourite stores one new document, unless it fails before that. -/
theorem create_remote (z : Zone) (ids : AutoId) (data : Doc) (w : World) (outcome : Outcome) :
    (create z ids outcome data w).2.remote = w.remote ∨ ∃ k D,
      (create z ids outcome data w).2.remote =
        w.remote.set FirestoreCollection.favouritePosting k D := by
  have hcreated : (FavouritePostingRepository.createFavouritePosting z ids data w).2.remote =
      w.remote.set _ _ _ := createAndRead_remote
  cases outcome with
  | reply isValid => exact .inr ⟨_, _, hcreated⟩
  | fail applied =>
      cases applied with
      | true => exact .inr ⟨_, _, hcreated⟩
      | false => exact .inl rfl

theorem Unsaved.create (h : Unsaved userId postingId w) (outcome : Outcome) :
    AtMostOne userId postingId (create z ids outcome data w).2 := by
  obtain hsame | ⟨k, D, hset⟩ := create_remote z ids data w outcome
  · apply Unsaved.atMostOne
    intro k D hD
    rw [Favourite, hsame] at hD
    exact h k D hD
  · have hnew : ∀ k' D', Favourite (SavingScreen.create z ids outcome data w).2 userId postingId
        k' D' → k' = k := by
      intro k' D' hD'
      by_contra hne
      rw [Favourite, hset, Firestore.set, Firestore.doc_putDoc, if_neg (fun hk => hne hk.2)] at hD'
      exact h k' D' hD'
    intro k₁ D₁ k₂ D₂ h₁ h₂
    rw [hnew k₁ D₁ h₁, hnew k₂ D₂ h₂]

end World

section Runs

variable {z : Zone} {ids : AutoId} {posting : Managed Posting} {userId postingId : String}
  {s s' : SavingScreen} {e : SavingEvent}

/-- Either there is no favourite yet and at most one tap under way may create it, or nothing that
is under way creates one. -/
inductive Inv (userId postingId : String) (s : SavingScreen) : Prop
  | unsaved (world : Unsaved userId postingId s.world) (single : toggles s.screen ≤ 1)
      (allowed : Allowed onePerTap s.screen)
  | saved (world : AtMostOne userId postingId s.world) (allowed : Allowed (fun _ => 0) s.screen)

theorem Inv.atMostOne (h : Inv userId postingId s) : AtMostOne userId postingId s.world := by
  cases h with
  | unsaved world => exact world.atMostOne
  | saved world => exact world

theorem Inv.allowed (h : Inv userId postingId s) : Allowed onePerTap s.screen := by
  cases h with
  | unsaved _ _ allowed => exact allowed
  | saved _ allowed => exact fun p hp => (allowed p hp).mono (Nat.zero_le _)

theorem inv_toggle (h : Inv userId postingId s)
    (hC : Single userId postingId s (.screen .toggleFavourite)) {scr : PostingScreen}
    (hstep : s.screen.step z posting .toggleFavourite = some scr) :
    Inv userId postingId { s with screen := scr } := by
  by_cases hfull : s.screen.state.isHost = true ∨ s.screen.state.isFavorite = true
  · rw [step_toggleFavourite_of_full hfull] at hstep
    cases hstep
    exact h
  · obtain ⟨htoggling, hunsaved⟩ : ¬ Toggling s.screen ∧ Unsaved userId postingId s.world := by
      obtain hhost | hfavorite | hsingle := hC
      · exact absurd (.inl hhost) hfull
      · exact absurd (.inr hfavorite) hfull
      · exact hsingle
    cases hstep
    refine .unsaved hunsaved ?_ (h.allowed.advance PostingScreen.saves_toggleFavourite)
    have hadvance := toggles_advance s.screen
      ⟨.toggleFavourite, ViewPostingCubit.toggleFavourite z posting⟩
    rw [toggles_eq_zero htoggling] at hadvance
    exact hadvance

theorem inv_step (h : Inv userId postingId s) (hC : Single userId postingId s e)
    (hstep : step z ids posting s e = some s') : Inv userId postingId s' := by
  cases e with
  | screen e =>
      simp only [step] at hstep
      split_ifs at hstep
      obtain ⟨scr, hscr, rfl⟩ := Option.map_eq_some_iff.mp hstep
      by_cases htoggle : e = .toggleFavourite
      · subst htoggle
        exact inv_toggle h hC hscr
      · cases h with
        | unsaved world single allowed =>
            obtain ⟨hallowed, htoggles⟩ := step_of_ne_toggle allowed htoggle hscr
            exact .unsaved world (htoggles.trans single) hallowed
        | saved world allowed =>
            exact .saved world (step_of_ne_toggle allowed htoggle hscr).1
  | created i outcome =>
      obtain ⟨data, hdata, hrest⟩ := Option.bind_eq_some_iff.mp hstep
      obtain ⟨scr, hscr, rfl⟩ := Option.map_eq_some_iff.mp hrest
      cases h with
      | unsaved world single allowed =>
          exact .saved (world.create outcome) (step_of_creation allowed single hdata hscr)
      | saved world allowed =>
          rw [creation_eq_none allowed i] at hdata
          cases hdata

/-- In every run in which no tap on an empty heart comes while another is under way or when a
favourite is there, at most one favourite is created. -/
theorem savedOnce_of_single (z : Zone) (ids : AutoId) (text : DoubleText)
    (posting : Managed Posting) (host : Option User) (userId : String) (w : World)
    (hnone : Unsaved userId posting.object.id w) (events : List SavingEvent)
    (h : Execution.StepsMeet (step z ids posting) (Single userId posting.object.id)
      (start text posting host w) events) :
    Execution.Always (step z ids posting) (fun s => AtMostOne userId posting.object.id s.world)
      (start text posting host w) events := by
  have hstart : Inv userId posting.object.id (start text posting host w) := by
    refine .unsaved hnone ?_ ?_
    · unfold start PostingScreen.start
      split_ifs
      · exact Nat.zero_le 1
      · exact Nat.zero_le 1
    · unfold start PostingScreen.start
      split_ifs
      · exact nofun
      · exact nofun
  have hinv : Execution.Always (step z ids posting) (Inv userId posting.object.id)
      (start text posting host w) events :=
    Execution.always_of_stepsMeet (fun s e s' hs hC hstep => inv_step hs hC hstep) hstart h
  exact hinv.mono (fun s hs => hs.atMostOne)

section Hearts

def heartReplies : (op : ViewCall) → Except DartError (ViewReply op)
  | .userId => .ok (some "u1")
  | .now => .ok ⟨0, true⟩
  | _ => .error .unavailable

def shownVilla : Managed Posting :=
  ⟨⟨"p1", some "Villa", none, some 80, some "Quiet", none, none, none, none, some "h1", 0, 0,
    ["1.jpg"], [], ∅, ∅⟩, true⟩

def emptyWorld : World := ⟨Firestore.empty, Realm.empty⟩

def saved : List SavingEvent :=
  [.screen .toggleFavourite, .screen (.answer 0 heartReplies), .screen (.answer 0 heartReplies),
    .created 0 (.reply true)]

def savedThenTap : List SavingEvent := saved ++ [.screen .toggleFavourite]

theorem savedOnce_of_single_villa : ∃ s,
    Execution.run (step Zone.utc AutoId.longer shownVilla)
      (start wholeText shownVilla none emptyWorld) savedThenTap = some s ∧
    (∃ k D, Favourite s.world "u1" "p1" k D) ∧ AtMostOne "u1" "p1" s.world := by
  have hmeet : Execution.StepsMeet (step Zone.utc AutoId.longer shownVilla) (Single "u1" "p1")
      (start wholeText shownVilla none emptyWorld) savedThenTap := by
    decide +kernel
  have hrun : (Execution.run (step Zone.utc AutoId.longer shownVilla)
      (start wholeText shownVilla none emptyWorld) savedThenTap).map
        (fun s => decide (Unsaved "u1" "p1" s.world)) = some false := by
    decide +kernel
  obtain ⟨s, hs, hsaved⟩ := Option.map_eq_some_iff.mp hrun
  have hexists : ∃ k D, Favourite s.world "u1" "p1" k D := by
    by_contra hnone
    exact of_decide_eq_false hsaved (fun k D hD => hnone ⟨k, D, hD⟩)
  have honce := savedOnce_of_single Zone.utc AutoId.longer wholeText shownVilla none "u1" emptyWorld
    (by decide) savedThenTap hmeet
  exact ⟨s, hs, hexists, honce.final hs⟩

def owners (s : SavingScreen) : List (Option (Value × Value)) :=
  ["x", "xx"].map (fun k => (s.world.remote.doc FirestoreCollection.favouritePosting k).map
    (fun D => (D.get "user_id", D.get "posting_id")))

theorem not_atMostOne_of_owners {userId postingId : String}
    (h : owners s = List.replicate 2 (some (.string userId, .string postingId))) :
    ¬ AtMostOne userId postingId s.world := by
  intro honce
  obtain ⟨hfirst, hrest⟩ := List.cons.inj h
  obtain ⟨hsecond, -⟩ := List.cons.inj hrest
  obtain ⟨D, hD, hfields⟩ := Option.map_eq_some_iff.mp hfirst
  obtain ⟨D', hD', hfields'⟩ := Option.map_eq_some_iff.mp hsecond
  obtain ⟨huser, hposting⟩ := Prod.mk.inj hfields
  obtain ⟨huser', hposting'⟩ := Prod.mk.inj hfields'
  exact absurd (honce "x" D "xx" D' ⟨hD, huser, hposting⟩ ⟨hD', huser', hposting'⟩) (by decide)

/-- Two taps in a row; and one tap, a rating and another tap. -/
theorem heart_saves_twice :
    (∃ s, Execution.run (step Zone.utc AutoId.longer shownVilla)
      (start wholeText shownVilla none emptyWorld)
      [.screen .toggleFavourite, .screen .toggleFavourite, .screen (.answer 0 heartReplies),
        .screen (.answer 1 heartReplies), .screen (.answer 0 heartReplies),
        .screen (.answer 1 heartReplies), .created 0 (.reply true), .created 0 (.reply true)] =
        some s ∧ ¬ AtMostOne "u1" "p1" s.world) ∧
    ∃ s, Execution.run (step Zone.utc AutoId.longer shownVilla)
      (start wholeText shownVilla none emptyWorld)
      (saved ++ .screen (.setReviewRating 5) :: saved) = some s ∧
        ¬ AtMostOne "u1" "p1" s.world := by
  constructor
  · have hrun : (Execution.run (step Zone.utc AutoId.longer shownVilla)
        (start wholeText shownVilla none emptyWorld)
        [.screen .toggleFavourite, .screen .toggleFavourite, .screen (.answer 0 heartReplies),
          .screen (.answer 1 heartReplies), .screen (.answer 0 heartReplies),
          .screen (.answer 1 heartReplies), .created 0 (.reply true),
          .created 0 (.reply true)]).map owners =
          some (List.replicate 2 (some (.string "u1", .string "p1"))) := by
      decide +kernel
    obtain ⟨s, hs, howners⟩ := Option.map_eq_some_iff.mp hrun
    exact ⟨s, hs, not_atMostOne_of_owners howners⟩
  · have hrun : (Execution.run (step Zone.utc AutoId.longer shownVilla)
        (start wholeText shownVilla none emptyWorld)
        (saved ++ .screen (.setReviewRating 5) :: saved)).map owners =
          some (List.replicate 2 (some (.string "u1", .string "p1"))) := by
      decide +kernel
    obtain ⟨s, hs, howners⟩ := Option.map_eq_some_iff.mp hrun
    exact ⟨s, hs, not_atMostOne_of_owners howners⟩

end Hearts

end Runs

end SavingScreen

end AirBnbClone
