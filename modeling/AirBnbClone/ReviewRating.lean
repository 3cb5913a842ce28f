import AirBnbClone.Execution
import AirBnbClone.ViewPostingCubit

/-!
# The rating of a review

`ReviewForm` shows its own copy of the rating. A change of it is passed on to the cubit, but a
submission sets the copy back to zero and tells the cubit nothing; and the cubit reads its rating
only after it has waited for the user's id.
-/

namespace AirBnbClone

open Async

structure ViewProfileState where
  hostId : String := ""
  displayName : String := ""
  greetingName : String := ""
  imageUrl : String := ""
  bio : String := ""
  location : String := ""
  canReview : Bool := false
  reviewRating : ℚ := 0
  recentReviews : List ReviewItemModel := []

namespace ViewProfileCubit

def setReviewRating (value : ℚ) (s : ViewProfileState) : ViewProfileState :=
  { s with reviewRating := value }

/-- Unlike that of a posting's screen it does not ask whether its object is still there. -/
def submitReview (host : Managed User) (comment : Option String) :
    Prog ViewReply ViewProfileState DartError Unit :=
  match comment with
  | none => pure ()
  | some comment => do
      let userId : Option String ← Prog.call ViewCall.userId
      match userId with
      | none => pure ()
      | some userId =>
          if host.isValid then do
            let state ← Prog.state
            let now : DateTime ← Prog.call ViewCall.now
            let _ ← Prog.call (ViewCall.createReview
              (reviewData userId host.object.id state.reviewRating comment now))
          else Prog.done (.error ChatCubit.invalidated)

end ViewProfileCubit

section Programs

variable {σ : Type}

/-- The program only makes calls, and writes no review with another rating. -/
def WritesOnly (rating : ℚ) : Prog ViewReply σ DartError Unit → Prop
  | .done _ => True
  | .read _ => False
  | .emit _ _ => False
  | .await op k => (∀ data, op = .createReview data → data.get "rating" = .double rating) ∧
      ∀ reply, WritesOnly rating (k reply)

/-- Once its call is answered, the program takes the rating of the state it finds. -/
def TakesRating (reviewRating : σ → ℚ) {op : ViewCall}
    (k : Except DartError (ViewReply op) → Prog ViewReply σ DartError Unit) : Prop :=
  ∀ reply s, (Prog.settle (k reply) s).2 = s ∧
    WritesOnly (reviewRating s) (Prog.settle (k reply) s).1

structure ReviewCubit (σ : Type) where
  reviewRating : σ → ℚ
  setReviewRating : ℚ → σ → σ
  submitReview : Option String → Prog ViewReply σ DartError Unit
  reviewRating_set : ∀ value s, reviewRating (setReviewRating value s) = value
  asksFirst : ∀ comment s, ∃ k, Prog.settle (submitReview (some comment)) s =
    (.await .userId k, s) ∧ TakesRating reviewRating k

theorem get_rating_reviewData (userId targetType targetId comment : String) (rating : ℚ)
    (now : DateTime) :
    (reviewData userId targetType targetId rating comment now).get "rating" = .double rating :=
  rfl

/-- What is left when the user is known: the time is read and the review is written. -/
theorem writesOnly_createReview (userId targetType targetId comment : String) (rating : ℚ) :
    WritesOnly rating (do
      let now : DateTime ← (Prog.call ViewCall.now : Prog ViewReply σ DartError DateTime)
      let _ ← Prog.call (ViewCall.createReview
        (reviewData userId targetType targetId rating comment now))) := by
  refine ⟨nofun, fun reply => ?_⟩
  cases reply with
  | error e => trivial
  | ok now =>
      refine ⟨fun data hdata => ?_, fun reply => ?_⟩
      · cases hdata
        exact get_rating_reviewData userId targetType targetId comment rating now
      · cases reply <;> trivial

def viewPostingCubit (posting : Managed Posting) : ReviewCubit ViewPostingState where
  reviewRating := ViewPostingState.reviewRating
  setReviewRating := ViewPostingCubit.setReviewRating
  submitReview := ViewPostingCubit.submitReview posting
  reviewRating_set _ _ := rfl
  asksFirst comment s := by
    obtain ⟨posting, isValid⟩ := posting
    refine ⟨_, rfl, fun reply s => ?_⟩
    obtain e | (_ | userId) := reply
    · exact ⟨rfl, trivial⟩
    · exact ⟨rfl, trivial⟩
    · cases isValid with
      | false => exact ⟨rfl, trivial⟩
      | true => exact ⟨rfl, writesOnly_createReview userId _ _ comment s.reviewRating⟩

def viewProfileCubit (host : Managed User) : ReviewCubit ViewProfileState where
  reviewRating := ViewProfileState.reviewRating
  setReviewRating := ViewProfileCubit.setReviewRating
  submitReview := ViewProfileCubit.submitReview host
  reviewRating_set _ _ := rfl
  asksFirst comment s := by
    obtain ⟨host, isValid⟩ := host
    refine ⟨_, rfl, fun reply s => ?_⟩
    obtain e | (_ | userId) := reply
    · exact ⟨rfl, trivial⟩
    · exact ⟨rfl, trivial⟩
    · cases isValid with
      | false => exact ⟨rfl, trivial⟩
      | true => exact ⟨rfl, writesOnly_createReview userId _ _ comment s.reviewRating⟩

end Programs

/-- A submission that still awaits something, with the rating displayed when it was made. -/
structure ReviewSubmission (σ : Type) where
  displayed : ℚ
  program : Prog ViewReply σ DartError Unit

/-- The form with the cubit that it is attached to. `chosen` tells whether the user has chosen the
rating since the last submission, and `written` lists the reviews that were stored, each with the
rating displayed at its submission. -/
structure ReviewScreen (σ : Type) where
  rating : ℚ
  chosen : Bool := true
  state : σ
  submissions : List (ReviewSubmission σ) := []
  written : List (ℚ × Doc) := []

/-- A change of the rating, a submission, the answer to a call, or another function of the cubit
that emits a state. -/
inductive ReviewEvent (σ : Type)
  | change (value : ℚ)
  | submit (comment : String)
  | answer (i : ℕ) (reply : (op : ViewCall) → Except DartError (ViewReply op))
  | emitted (s : σ)

namespace ReviewScreen

variable {σ : Type}

def opened (cubit : ReviewCubit σ) (s : σ) : ReviewScreen σ :=
  { rating := cubit.reviewRating s, state := s }

/-- The review that a program is about to store. -/
def review (displayed : ℚ) : Prog ViewReply σ DartError Unit → List (ℚ × Doc)
  | .await (.createReview data) _ => [(displayed, data)]
  | _ => []

def advance (scr : ReviewScreen σ) (submission : ReviewSubmission σ) : ReviewScreen σ :=
  let settled := Prog.settle submission.program scr.state
  { scr with
    state := settled.2
    submissions := match settled.1 with
      | .done _ => scr.submissions
      | program => scr.submissions ++ [⟨submission.displayed, program⟩]
    written := scr.written ++ review submission.displayed settled.1 }

variable (cubit : ReviewCubit σ)

def step (scr : ReviewScreen σ) : ReviewEvent σ → Option (ReviewScreen σ)
  | .change value => some { scr with
      rating := value
      chosen := true
      state := cubit.setReviewRating value scr.state }
  | .submit comment =>
      if comment = "" then some scr
      else
        -- `onSubmitted` runs to its first await before the form resets its copy
        some { scr.advance ⟨scr.rating, cubit.submitReview (some comment)⟩ with
          rating := 0
          chosen := false }
  | .answer i reply =>
      match scr.submissions[i]? with
      | some ⟨displayed, .await op k⟩ =>
          some ({ scr with submissions := scr.submissions.eraseIdx i }.advance
            ⟨displayed, k (reply op)⟩)
      | _ => none
  | .emitted s =>
      if cubit.reviewRating s = cubit.reviewRating scr.state then some { scr with state := s }
      else none

/-- Every review was stored with the rating displayed at its submission. -/
def WritesDisplayed (scr : ReviewScreen σ) : Prop :=
  ∀ w ∈ scr.written, w.2.get "rating" = .double w.1

def AsksUser (submission : ReviewSubmission σ) : Prop :=
  ∃ k, submission.program = .await .userId k

/-- A submission comes after a rating was chosen for it, or where none was ever chosen, and while it
waits for the user's id the rating is not changed to another. -/
def Careful (scr : ReviewScreen σ) : ReviewEvent σ → Prop
  | .change value => ∀ submission ∈ scr.submissions, AsksUser submission →
      value = submission.displayed
  | .submit comment => comment ≠ "" → scr.chosen = true ∨ cubit.reviewRating scr.state = 0
  | _ => True

/-- The submission has taken its rating already, or will find the one that was displayed. -/
def OnTrack (s : σ) (submission : ReviewSubmission σ) : Prop :=
  WritesOnly submission.displayed submission.program ∨
    cubit.reviewRating s = submission.displayed ∧
      ∃ k : Except DartError (ViewReply .userId) → Prog ViewReply σ DartError Unit,
        submission.program = .await .userId k ∧ TakesRating cubit.reviewRating k

structure Sound (scr : ReviewScreen σ) : Prop where
  chosen : scr.chosen = true → scr.rating = cubit.reviewRating scr.state
  reset : scr.chosen = false → scr.rating = 0
  onTrack : ∀ submission ∈ scr.submissions, OnTrack cubit scr.state submission
  written : scr.WritesDisplayed

section Steps

variable {cubit} {scr scr' : ReviewScreen σ} {e : ReviewEvent σ} {s s' : σ}

theorem OnTrack.of_rating_eq {submission : ReviewSubmission σ} (h : OnTrack cubit s submission)
    (hs : cubit.reviewRating s' = cubit.reviewRating s) : OnTrack cubit s' submission :=
  h.imp_right (fun h => ⟨hs.trans h.1, h.2⟩)

theorem settle_of_writesOnly {rating : ℚ} {p : Prog ViewReply σ DartError Unit}
    (h : WritesOnly rating p) : Prog.settle p s = (p, s) := by
  cases p with
  | done r => rfl
  | read k => exact h.elim
  | emit s k => exact h.elim
  | await op k => rfl

theorem rating_of_mem_review {displayed : ℚ} {p : Prog ViewReply σ DartError Unit}
    (h : WritesOnly displayed p) : ∀ w ∈ review displayed p, w.2.get "rating" = .double w.1 := by
  intro w hw
  cases p with
  | await op k =>
      cases op with
      | createReview data =>
          obtain rfl := List.mem_singleton.mp hw
          exact h.1 data rfl
      | _ => exact absurd hw List.not_mem_nil
  | _ => exact absurd hw List.not_mem_nil

theorem OnTrack.rating_of_mem_review {displayed : ℚ} {p : Prog ViewReply σ DartError Unit}
    (h : OnTrack cubit s ⟨displayed, p⟩) :
    ∀ w ∈ review displayed p, w.2.get "rating" = .double w.1 := by
  obtain h | ⟨-, k, hp, -⟩ := h
  · exact ReviewScreen.rating_of_mem_review h
  · have hp' : p = .await .userId k := hp
    rw [hp']
    exact fun w hw => absurd hw List.not_mem_nil

/-- Running a submission to its next await keeps the screen sound if it emits nothing and stays on
track. -/
theorem sound_advance (submission : ReviewSubmission σ) (h : Sound cubit scr)
    (hs : (Prog.settle submission.program scr.state).2 = scr.state)
    (hp : OnTrack cubit scr.state ⟨submission.displayed,
      (Prog.settle submission.program scr.state).1⟩) :
    Sound cubit (scr.advance submission) ∧ (scr.advance submission).state = scr.state := by
  unfold advance
  obtain ⟨program, s', hsettle⟩ : ∃ program s',
      Prog.settle submission.program scr.state = (program, s') := ⟨_, _, rfl⟩
  rw [hsettle] at hs hp ⊢
  obtain rfl : s' = scr.state := hs
  have hwritten : ∀ w ∈ scr.written ++ review submission.displayed program,
      w.2.get "rating" = .double w.1 := fun w hw =>
    (List.mem_append.mp hw).elim (h.written w) (hp.rating_of_mem_review w)
  have hall : ∀ submission' ∈ scr.submissions ++ [⟨submission.displayed, program⟩],
      OnTrack cubit scr.state submission' := by
    intro submission' hmem
    obtain hmem | hmem := List.mem_append.mp hmem
    · exact h.onTrack submission' hmem
    · obtain rfl := List.mem_singleton.mp hmem
      exact hp
  refine ⟨⟨h.chosen, h.reset, ?_, hwritten⟩, rfl⟩
  cases program with
  | done r => exact h.onTrack
  | read k => exact hall
  | emit s k => exact hall
  | await op k => exact hall

theorem sound_submit {comment : String} (h : Sound cubit scr)
    (hcareful : scr.chosen = true ∨ cubit.reviewRating scr.state = 0) :
    Sound cubit { scr.advance ⟨scr.rating, cubit.submitReview (some comment)⟩ with
      rating := 0
      chosen := false } := by
  have hrating : cubit.reviewRating scr.state = scr.rating := by
    cases hchosen : scr.chosen with
    | true => exact (h.chosen hchosen).symm
    | false => rw [h.reset hchosen, hcareful.resolve_left (by rw [hchosen]; decide)]
  obtain ⟨k, hsettle, hk⟩ := cubit.asksFirst comment scr.state
  obtain ⟨hsound, -⟩ := sound_advance ⟨scr.rating, _⟩ h
    (congrArg Prod.snd hsettle) (.inr ⟨hrating, k, congrArg Prod.fst hsettle, hk⟩)
  exact ⟨nofun, fun _ => rfl, hsound.onTrack, hsound.written⟩

theorem sound_answer {i : ℕ} {displayed : ℚ} {op : ViewCall}
    {reply : Except DartError (ViewReply op)}
    {k : Except DartError (ViewReply op) → Prog ViewReply σ DartError Unit} (h : Sound cubit scr)
    (hi : scr.submissions[i]? = some ⟨displayed, .await op k⟩) :
    Sound cubit ({ scr with submissions := scr.submissions.eraseIdx i }.advance
      ⟨displayed, k reply⟩) := by
  have herased : Sound cubit { scr with submissions := scr.submissions.eraseIdx i } :=
    ⟨h.chosen, h.reset, fun submission hmem =>
      h.onTrack submission (List.mem_of_mem_eraseIdx hmem), h.written⟩
  obtain hwrites | ⟨hrating, k', hp, hk⟩ := h.onTrack _ (List.mem_of_getElem? hi)
  · have hnext : WritesOnly displayed (k reply) := hwrites.2 reply
    have hsettle := settle_of_writesOnly (s := scr.state) hnext
    refine (sound_advance ⟨displayed, k reply⟩ herased
      (congrArg Prod.snd hsettle) (.inl ?_)).1
    exact (congrArg Prod.fst hsettle).symm ▸ hnext
  · cases hp
    obtain ⟨hs, hwrites⟩ := hk reply scr.state
    have hrating' : cubit.reviewRating scr.state = displayed := hrating
    exact (sound_advance ⟨displayed, _⟩ herased hs (.inl (hrating' ▸ hwrites))).1

theorem sound_step (h : Sound cubit scr) (hcareful : Careful cubit scr e)
    (hstep : step cubit scr e = some scr') : Sound cubit scr' := by
  cases e with
  | change value =>
      cases hstep
      have hset := cubit.reviewRating_set value scr.state
      refine ⟨fun _ => hset.symm, nofun, fun submission hmem => ?_, h.written⟩
      obtain hwrites | ⟨-, k, hp, hk⟩ := h.onTrack submission hmem
      · exact .inl hwrites
      · exact .inr ⟨hset.trans (hcareful submission hmem ⟨k, hp⟩), k, hp, hk⟩
  | submit comment =>
      by_cases hempty : comment = ""
      · simp only [step, if_pos hempty, Option.some.injEq] at hstep
        exact hstep ▸ h
      · simp only [step, if_neg hempty, Option.some.injEq] at hstep
        subst hstep
        exact sound_submit h (hcareful hempty)
  | answer i reply =>
      cases hi : scr.submissions[i]? with
      | none => simp [step, hi] at hstep
      | some submission =>
          obtain ⟨displayed, program⟩ := submission
          cases program with
          | await op k =>
              simp only [step, hi, Option.some.injEq] at hstep
              exact hstep ▸ sound_answer h hi
          | _ => simp [step, hi] at hstep
  | emitted s =>
      obtain ⟨hsame, rfl⟩ : cubit.reviewRating s = cubit.reviewRating scr.state ∧
          { scr with state := s } = scr' := by simpa [step] using hstep
      exact ⟨fun hchosen => (h.chosen hchosen).trans hsame.symm, h.reset,
        fun submission hmem => (h.onTrack submission hmem).of_rating_eq hsame, h.written⟩

theorem sound_opened (s : σ) : Sound cubit (opened cubit s) :=
  ⟨fun _ => rfl, nofun, fun _ hmem => absurd hmem List.not_mem_nil,
    fun _ hmem => absurd hmem List.not_mem_nil⟩

theorem writesDisplayed_of_careful {events : List (ReviewEvent σ)}
    (h : Execution.StepsMeet (step cubit) (Careful cubit) (opened cubit s) events) :
    Execution.Always (step cubit) WritesDisplayed (opened cubit s) events :=
  (Execution.always_of_stepsMeet (fun _ _ _ h hcareful hstep => sound_step h hcareful hstep)
    (sound_opened s) h).mono (fun _ => Sound.written)

end Steps

/-- In a run whose steps are careful every review stores the rating displayed at its submission, on
the screen of a posting and on that of a host. -/
theorem reviews_store_displayed (posting : Managed Posting) (host : Managed User) :
    (∀ s events, Execution.StepsMeet (step (viewPostingCubit posting))
        (Careful (viewPostingCubit posting)) (opened (viewPostingCubit posting) s) events →
      Execution.Always (step (viewPostingCubit posting)) WritesDisplayed
        (opened (viewPostingCubit posting) s) events) ∧
    ∀ s events, Execution.StepsMeet (step (viewProfileCubit host))
        (Careful (viewProfileCubit host)) (opened (viewProfileCubit host) s) events →
      Execution.Always (step (viewProfileCubit host)) WritesDisplayed
        (opened (viewProfileCubit host) s) events :=
  ⟨fun _ _ => writesDisplayed_of_careful, fun _ _ => writesDisplayed_of_careful⟩

def guestReplies : (op : ViewCall) → Except DartError (ViewReply op)
  | .userId => .ok (some "g1")
  | .now => .ok ⟨0, false⟩
  | _ => .error .unavailable

def reviewedHost : Managed User :=
  ⟨⟨"h1", none, none, none, none, none, none, none, none, none, false, none⟩, true⟩

def reviewedPosting : Managed Posting :=
  ⟨⟨"p1", none, none, none, none, none, none, none, none, some "h1", 0, 0, [], [], ∅, ∅⟩, true⟩

def oneReview : List (ReviewEvent ViewPostingState) :=
  [.change 4, .submit "Great stay", .answer 0 guestReplies, .answer 0 guestReplies]

def twoRatings : List (ReviewEvent ViewPostingState) :=
  [.change 4, .submit "Great stay", .answer 0 guestReplies, .change 5, .submit "Thanks again",
    .answer 0 guestReplies, .answer 0 guestReplies, .answer 0 guestReplies, .answer 0 guestReplies]

def twoReviews : List (ReviewEvent ViewPostingState) :=
  oneReview ++ [.answer 0 guestReplies, .submit "Thanks again", .answer 0 guestReplies,
    .answer 0 guestReplies]

theorem twoRatings_stored_as_displayed :
    Execution.Always (step (viewPostingCubit reviewedPosting)) WritesDisplayed
        (opened (viewPostingCubit reviewedPosting) {}) twoRatings ∧
      ∃ scr, Execution.run (step (viewPostingCubit reviewedPosting))
          (opened (viewPostingCubit reviewedPosting) {}) twoRatings = some scr ∧
        scr.written.map Prod.fst = [4, 5] := by
  refine ⟨(reviews_store_displayed reviewedPosting reviewedHost).1 {} twoRatings ?_, _, rfl, rfl⟩
  refine Execution.stepsMeet_cons (fun _ hmem _ => absurd hmem List.not_mem_nil) rfl
    (Execution.stepsMeet_cons (fun _ => .inl rfl) rfl (Execution.stepsMeet_cons trivial rfl ?_))
  refine Execution.stepsMeet_cons ?_ rfl (Execution.stepsMeet_cons (fun _ => .inl rfl) rfl
    (Execution.stepsMeet_cons trivial rfl (Execution.stepsMeet_cons trivial rfl
      (Execution.stepsMeet_cons trivial rfl (Execution.stepsMeet_cons trivial rfl trivial)))))
  -- the first submission has taken its rating and waits for the clock
  rintro submission hmem ⟨k, hk⟩
  cases List.mem_singleton.mp hmem
  cases hk

theorem twoReviews_store_hidden_rating :
    ¬ Execution.Always (step (viewPostingCubit reviewedPosting)) WritesDisplayed
      (opened (viewPostingCubit reviewedPosting) {}) twoReviews := by
  intro h
  obtain ⟨scr, hrun, hwritten⟩ : ∃ scr, Execution.run (step (viewPostingCubit reviewedPosting))
      (opened (viewPostingCubit reviewedPosting) {}) twoReviews = some scr ∧
        scr.written.map (fun w => (w.1, w.2.get "rating")) = [(4, .double 4), (0, .double 4)] :=
    ⟨_, rfl, rfl⟩
  have hmem : ((0 : ℚ), Value.double 4) ∈ scr.written.map (fun w => (w.1, w.2.get "rating")) := by
    rw [hwritten]
    exact List.mem_cons_of_mem _ List.mem_cons_self
  obtain ⟨w, hw, heq⟩ := List.mem_map.mp hmem
  have hdisplayed := h.final hrun w hw
  rw [(Prod.mk.inj heq).1, (Prod.mk.inj heq).2] at hdisplayed
  exact absurd hdisplayed (by decide)

end ReviewScreen

end AirBnbClone
