import AirBnbClone.CallBudget
import AirBnbClone.Execution
import AirBnbClone.ViewPostingCubit

/-!
# The screen of a posting

The constructor of `ViewPostingCubit` asks for the user only if the posting can be shown, and does
not wait for the answer. Until then, and in between the calls of every other function, the user may
tap, the timer of the map may fire and snapshots of the reviews may arrive.
-/

namespace AirBnbClone

open Async ViewPostingState ViewPostingCubit

inductive ViewAction
  | lookUp
  | toggleFavourite
  | submitReview
  deriving DecidableEq

structure ViewProcess where
  action : ViewAction
  program : ViewM Unit

inductive UserLookup
  | notStarted
  | pending
  | completed
  | failed
  deriving DecidableEq

structure PostingScreen where
  state : ViewPostingState
  lookup : UserLookup
  processes : List ViewProcess
  timer : Bool

inductive PostingEvent
  | userAnswered (reply : (op : ViewCall) → Except DartError (ViewReply op))
  | answer (i : ℕ) (reply : (op : ViewCall) → Except DartError (ViewReply op))
  | reviews (results : List (Managed Review × Option (Managed User)))
  | setReviewRating (value : ℚ)
  | selectedMarker
  | timerFires
  | updateBookingTimeMap (map : DartMap DateTime)
  | toggleFavourite
  | submitReview (comment : Option String)

namespace PostingScreen

def start (text : DoubleText) (posting : Managed Posting) (host : Option User) : PostingScreen :=
  if isPostingValid posting.object then ⟨shown text posting.object host, .pending, [], false⟩
  else ⟨{}, .notStarted, [], false⟩

def advance (scr : PostingScreen) (process : ViewProcess) : PostingScreen :=
  let settled := Prog.settle process.program scr.state
  match settled.1 with
  | .done _ => { scr with state := settled.2 }
  | program => { scr with
      state := settled.2
      processes := scr.processes ++ [⟨process.action, program⟩] }

variable (z : Zone) (posting : Managed Posting)

/-- The callback of the user lookup; each of the lookups that it starts begins with an await. -/
def userAnswered (reply : (op : ViewCall) → Except DartError (ViewReply op))
    (scr : PostingScreen) : PostingScreen :=
  match Prog.exec (fun op w => (reply op, w)) (lookUpUser posting) scr.state () with
  | (.ok lookups, s, _) => { scr with
      state := s
      lookup := .completed
      processes := scr.processes ++ lookups.map (fun p => ⟨.lookUp, p⟩) }
  | (.error _, s, _) => { scr with state := s, lookup := .failed }

def selectedMarker (scr : PostingScreen) : PostingScreen :=
  if posting.isValid then { scr with
    state := showAddress (posting.object.address.getD "") scr.state
    timer := true }
  else scr

def step (scr : PostingScreen) : PostingEvent → Option PostingScreen
  | .userAnswered reply =>
      if scr.lookup = .pending then some (scr.userAnswered posting reply) else none
  | .answer i reply =>
      match scr.processes[i]? with
      | some ⟨action, .await op k⟩ =>
          some ({ scr with processes := scr.processes.eraseIdx i }.advance ⟨action, k (reply op)⟩)
      | _ => none
  | .reviews results =>
      if scr.lookup = .notStarted then none
      else some { scr with state := showReviews results scr.state }
  | .setReviewRating value =>
      some { scr with state := ViewPostingCubit.setReviewRating value scr.state }
  | .selectedMarker => some (scr.selectedMarker posting)
  | .timerFires =>
      if scr.timer then some { scr with state := showAddress "" scr.state, timer := false }
      else none
  | .updateBookingTimeMap map =>
      some { scr with state := ViewPostingCubit.updateBookingTimeMap map scr.state }
  | .toggleFavourite =>
      some (scr.advance ⟨.toggleFavourite, ViewPostingCubit.toggleFavourite z posting⟩)
  | .submitReview comment =>
      some (scr.advance ⟨.submitReview, ViewPostingCubit.submitReview posting comment⟩)

section Steps

variable {z : Zone} {posting : Managed Posting} {scr scr' : PostingScreen} {e : PostingEvent}

/-- What a step can do besides emitting a state that only differs from the last one by a
`copyWith` without `isHost`. -/
theorem step_cases (h : step z posting scr e = some scr') :
    (∃ u t, u.isHost = none ∧ scr' = { scr with state := scr.state.copyWith u, timer := t }) ∨
    scr' = scr ∨
    (∃ reply, e = .userAnswered reply ∧ scr.lookup = .pending ∧
      scr' = scr.userAnswered posting reply) ∨
    (∃ i reply action op k, e = .answer i reply ∧ scr.processes[i]? = some ⟨action, .await op k⟩ ∧
      scr' = { scr with processes := scr.processes.eraseIdx i }.advance ⟨action, k (reply op)⟩) ∨
    (e = .toggleFavourite ∧
      scr' = scr.advance ⟨.toggleFavourite, ViewPostingCubit.toggleFavourite z posting⟩) ∨
    ∃ comment, e = .submitReview comment ∧
      scr' = scr.advance ⟨.submitReview, ViewPostingCubit.submitReview posting comment⟩ := by
  cases e with
  | userAnswered reply =>
      simp only [step] at h
      split_ifs at h with hpending
      cases h
      exact .inr (.inr (.inl ⟨reply, rfl, hpending, rfl⟩))
  | answer i reply =>
      simp only [step] at h
      split at h
      · rename_i action op k hprocess
        cases h
        exact .inr (.inr (.inr (.inl ⟨i, reply, action, op, k, rfl, hprocess, rfl⟩)))
      · cases h
  | reviews results =>
      simp only [step] at h
      split_ifs at h
      cases h
      exact .inl ⟨{ recentReviews := some (reviewsToItems results) }, scr.timer, rfl, rfl⟩
  | setReviewRating value =>
      cases h
      exact .inl ⟨{ reviewRating := some value }, scr.timer, rfl, rfl⟩
  | selectedMarker =>
      cases h
      unfold selectedMarker
      split_ifs
      · exact .inl ⟨{ displayAddress := some (posting.object.address.getD "") }, true, rfl, rfl⟩
      · exact .inr (.inl rfl)
  | timerFires =>
      simp only [step] at h
      split_ifs at h
      cases h
      exact .inl ⟨{ displayAddress := some "" }, false, rfl, rfl⟩
  | updateBookingTimeMap map =>
      cases h
      exact .inl ⟨{ bookingTimeMap := some map }, scr.timer, rfl, rfl⟩
  | toggleFavourite =>
      cases h
      exact .inr (.inr (.inr (.inr (.inl ⟨rfl, rfl⟩))))
  | submitReview comment =>
      cases h
      exact .inr (.inr (.inr (.inr (.inr ⟨comment, rfl, rfl⟩))))

@[simp] theorem state_advance (process : ViewProcess) :
    (scr.advance process).state = (Prog.settle process.program scr.state).2 := by
  unfold advance
  dsimp only
  split <;> rfl

@[simp] theorem lookup_advance (process : ViewProcess) :
    (scr.advance process).lookup = scr.lookup := by
  unfold advance
  dsimp only
  split <;> rfl

/-- A function that has not ended goes to the end of the list. -/
theorem processes_advance (scr : PostingScreen) (process : ViewProcess) :
    (scr.advance process).processes = scr.processes ∨ (scr.advance process).processes =
      scr.processes ++ [⟨process.action, (Prog.settle process.program scr.state).1⟩] := by
  unfold advance
  dsimp only
  split
  · exact .inl rfl
  · exact .inr rfl

theorem mem_processes_advance {process p : ViewProcess}
    (h : p ∈ (scr.advance process).processes) :
    p ∈ scr.processes ∨ p = ⟨process.action, (Prog.settle process.program scr.state).1⟩ := by
  obtain hsame | hmore := processes_advance scr process
  · rw [hsame] at h
    exact .inl h
  · rw [hmore] at h
    rcases List.mem_append.mp h with h | h
    · exact .inl h
    · exact .inr (List.mem_singleton.mp h)

/-- The flag is set by the answer; a user who is not signed in gets no further lookups. -/
theorem userAnswered_cases (posting : Managed Posting) (scr : PostingScreen)
    (reply : (op : ViewCall) → Except DartError (ViewReply op)) :
    (∃ error, reply .userId = .error error ∧
      scr.userAnswered posting reply = { scr with lookup := .failed }) ∨
    ∃ userId, reply .userId = .ok userId ∧ scr.userAnswered posting reply = { scr with
      state := scr.state.copyWith { isHost := some (decide (userId = posting.object.hostId)) }
      lookup := .completed
      processes := scr.processes ++ userId.toList.flatMap (fun u =>
        [⟨.lookUp, lookUpFavourite posting u⟩, ⟨.lookUp, lookUpBookings posting u⟩]) } := by
  unfold userAnswered lookUpUser
  rw [Prog.exec_bind, Prog.exec_call]
  cases hreply : reply .userId with
  | error error => exact .inl ⟨error, rfl, rfl⟩
  | ok userId =>
      cases userId with
      | none => exact .inr ⟨none, rfl, rfl⟩
      | some userId => exact .inr ⟨some userId, rfl, rfl⟩

end Steps

section Programs

variable {z : Zone} {posting : Managed Posting}

def favouriteCost : ViewCall → ℕ
  | .createFavouritePosting _ => 1
  | _ => 0

/-- The program creates at most so many favourites. -/
abbrev Saves : ℕ → ViewM Unit → Prop :=
  Prog.Within (fun _ => True) (fun _ => True) favouriteCost (fun _ => True)

theorem saves_call_bind {op : ViewCall} {f : ViewReply op → ViewM Unit} {n : ℕ}
    (hcost : favouriteCost op ≤ n) (hf : ∀ a, Saves (n - favouriteCost op) (f a)) :
    Saves n (Prog.call op >>= f) :=
  Prog.within_call_bind (fun _ => trivial) trivial hcost hf

theorem saves_lookUpFavourite (userId : String) : Saves 0 (lookUpFavourite posting userId) :=
  saves_call_bind le_rfl (fun _ => Prog.within_emitWith (fun _ => trivial) trivial)

theorem saves_lookUpBookings (userId : String) : Saves 0 (lookUpBookings posting userId) :=
  saves_call_bind le_rfl (fun _ => Prog.within_emitWith (fun _ => trivial) trivial)

theorem saves_submitReview (comment : Option String) :
    Saves 0 (ViewPostingCubit.submitReview posting comment) := by
  cases comment with
  | none => trivial
  | some comment =>
      apply saves_call_bind le_rfl
      intro userId
      cases userId with
      | none => trivial
      | some userId =>
          dsimp only
          split_ifs
          · apply Prog.within_state_bind
            intro s
            apply saves_call_bind le_rfl
            intro now
            exact saves_call_bind le_rfl (fun _ => trivial)
          · trivial

theorem saves_toggleFavourite : Saves 1 (ViewPostingCubit.toggleFavourite z posting) := by
  apply Prog.within_state_bind
  intro s
  split
  · trivial
  apply saves_call_bind (Nat.zero_le 1)
  intro userId
  cases userId with
  | none => trivial
  | some userId =>
      dsimp only
      split_ifs
      · apply saves_call_bind (Nat.zero_le 1)
        intro now
        apply saves_call_bind le_rfl
        intro created
        exact Prog.within_emitWith (fun _ => trivial) trivial
      · trivial

/-- A tap on the heart of one's own or of a saved posting ends at once. -/
theorem settle_toggleFavourite {s : ViewPostingState} (h : s.isHost = true ∨ s.isFavorite = true) :
    Prog.settle (ViewPostingCubit.toggleFavourite z posting) s = (.done (.ok ()), s) := by
  change Prog.settle (ite (s.isHost = true ∨ s.isFavorite = true) _ _) s = _
  rw [if_pos h]
  rfl

/-- The functions that await something leave `isHost` alone. -/
abbrev FramesHost (p : ViewM Unit) : Prop := ∀ s, Prog.Frames ViewPostingState.isHost p s

theorem framesHost_lookUpFavourite (userId : String) :
    FramesHost (lookUpFavourite posting userId) :=
  Prog.frames_call_bind (fun _ => Prog.frames_emitWith (fun _ => rfl))

theorem framesHost_lookUpBookings (userId : String) :
    FramesHost (lookUpBookings posting userId) :=
  Prog.frames_call_bind (fun _ => Prog.frames_emitWith (fun _ => rfl))

theorem framesHost_toggleFavourite : FramesHost (ViewPostingCubit.toggleFavourite z posting) := by
  intro s
  apply Prog.frames_state_bind
  split
  · trivial
  apply Prog.frames_call_bind
  intro userId s
  cases userId with
  | none => trivial
  | some userId =>
      dsimp only
      split_ifs
      · refine Prog.frames_call_bind (fun now => Prog.frames_call_bind (fun created => ?_)) s
        exact Prog.frames_emitWith (fun _ => rfl)
      · trivial

theorem framesHost_submitReview (comment : Option String) :
    FramesHost (ViewPostingCubit.submitReview posting comment) := by
  cases comment with
  | none => exact fun _ => trivial
  | some comment =>
      apply Prog.frames_call_bind
      intro userId s
      cases userId with
      | none => trivial
      | some userId =>
          dsimp only
          split_ifs
          · apply Prog.frames_state_bind
            refine Prog.frames_call_bind (fun now => Prog.frames_call_bind ?_) s
            exact fun _ _ => trivial
          · trivial

end Programs

end PostingScreen

end AirBnbClone
