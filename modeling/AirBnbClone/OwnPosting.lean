import AirBnbClone.BookingScreen
import AirBnbClone.PostingScreen

/-!
# Booking one's own posting

The screen of a posting replaces Book Now by "Cannot Book Your Own Posting" once `isHost` is set.
The flag starts as `false`, it is set when the lookup of the user completes, and for a posting that
cannot be shown the lookup is not even started; `saveBooking` compares nothing. So it is enough that
a host who taps Book Now does so after the lookup.
-/

namespace AirBnbClone

open Async ViewPostingCubit BookPostingCubit

structure BookingFlow where
  view : PostingScreen
  screens : List BookingScreen

inductive FlowEvent
  | view (e : PostingEvent)
  | bookNow (now : DateTime)
  | booking (i : ℕ) (e : ScreenEvent)

section SignedIn

variable (userId : String)

def viewReplies (reply : (op : ViewCall) → Except DartError (ViewReply op)) :
    (op : ViewCall) → Except DartError (ViewReply op)
  | .userId => (reply .userId).map (fun _ => some userId)
  | op => reply op

def bookingReplies (reply : (op : Call) → Except DartError (Reply op)) :
    (op : Call) → Except DartError (Reply op)
  | .userId => (reply .userId).map (fun _ => some userId)
  | op => reply op

theorem eq_of_viewReplies {reply : (op : ViewCall) → Except DartError (ViewReply op)}
    {v : Option String} (h : viewReplies userId reply .userId = .ok v) : v = some userId := by
  obtain ⟨w, -, hv⟩ := (ExceptTraverse.map_eq_ok_iff _ _ _).mp h
  exact hv.symm

theorem eq_of_bookingReplies {reply : (op : Call) → Except DartError (Reply op)}
    {v : Option String} (h : bookingReplies userId reply .userId = .ok v) : v = some userId := by
  obtain ⟨w, -, hv⟩ := (ExceptTraverse.map_eq_ok_iff _ _ _).mp h
  exact hv.symm

def PostingEvent.signedIn : PostingEvent → PostingEvent
  | .userAnswered reply => .userAnswered (viewReplies userId reply)
  | .answer i reply => .answer i (viewReplies userId reply)
  | e => e

def ScreenEvent.signedIn : ScreenEvent → ScreenEvent
  | .answer i reply => .answer i (bookingReplies userId reply)
  | e => e

end SignedIn

namespace BookingFlow

def start (text : DoubleText) (posting : Managed Posting) (host : Option User) : BookingFlow :=
  ⟨PostingScreen.start text posting host, []⟩

variable (z : Zone) (describe : DartError → String) (posting : Managed Posting) (userId : String)

/-- Book Now is there as long as `isHost` is not set; it opens a new booking screen. -/
def step (s : BookingFlow) : FlowEvent → Option BookingFlow
  | .view e => (s.view.step z posting (e.signedIn userId)).map (fun view => { s with view := view })
  | .bookNow now =>
      if s.view.state.isHost then none
      else some { s with
        screens := s.screens ++ [BookingScreen.start (BookPostingState.initial now)] }
  | .booking i e =>
      (s.screens[i]?).bind (fun scr =>
        (scr.step z describe (some posting) (e.signedIn userId)).map (fun scr' =>
          { s with screens := s.screens.set i scr' }))

/-- No booking is created whose user is the host of the posting. -/
def NoOwnBooking (s : BookingFlow) : Prop :=
  ∀ scr ∈ s.screens, ∀ b ∈ scr.bookings, ∀ hostId, posting.object.hostId = some hostId →
    b.data.get "user_id" ≠ .string hostId

/-- The host does not tap Book Now before the lookup of the user has completed. -/
def WaitsForLookup (s : BookingFlow) : FlowEvent → Prop
  | .bookNow _ => posting.object.hostId = some userId → s.view.lookup = .completed
  | _ => True

instance (s : BookingFlow) (e : FlowEvent) : Decidable (WaitsForLookup posting userId s e) :=
  match e with
  | .bookNow _ => inferInstanceAs (Decidable (posting.object.hostId = some userId →
      s.view.lookup = .completed))
  | .view _ => .isTrue trivial
  | .booking _ _ => .isTrue trivial

end BookingFlow

namespace PostingScreen

variable {z : Zone} {posting : Managed Posting} {userId : String} {scr scr' : PostingScreen}

/-- Once the lookup has completed the flag of a host is set, and nothing under way changes it. -/
structure Flagged (posting : Managed Posting) (userId : String) (scr : PostingScreen) : Prop where
  flag : scr.lookup = .completed → posting.object.hostId = some userId → scr.state.isHost = true
  frames : ∀ p ∈ scr.processes, FramesHost p.program

theorem flagged_start (text : DoubleText) (host : Option User) :
    Flagged posting userId (start text posting host) := by
  unfold start
  split_ifs
  · exact ⟨nofun, nofun⟩
  · exact ⟨nofun, nofun⟩

theorem Flagged.advance (h : Flagged posting userId scr) {process : ViewProcess}
    (hframes : FramesHost process.program) : Flagged posting userId (scr.advance process) := by
  obtain ⟨hstate, hsettled⟩ := (hframes scr.state).settle
  refine ⟨?_, ?_⟩
  · rw [lookup_advance, state_advance, hstate]
    exact h.flag
  · intro p hp
    obtain hp | rfl := mem_processes_advance hp
    · exact h.frames p hp
    · exact hsettled

theorem Flagged.eraseIdx (h : Flagged posting userId scr) (i : ℕ) :
    Flagged posting userId { scr with processes := scr.processes.eraseIdx i } :=
  ⟨h.flag, fun p hp => h.frames p (List.mem_of_mem_eraseIdx hp)⟩

theorem flagged_userAnswered (h : Flagged posting userId scr)
    (reply : (op : ViewCall) → Except DartError (ViewReply op)) :
    Flagged posting userId (scr.userAnswered posting (viewReplies userId reply)) := by
  obtain ⟨error, -, hfailed⟩ | ⟨user, huser, hcompleted⟩ :=
    userAnswered_cases posting scr (viewReplies userId reply)
  · rw [hfailed]
    exact ⟨nofun, h.frames⟩
  · rw [hcompleted]
    refine ⟨?_, ?_⟩
    · intro _ hhost
      rw [eq_of_viewReplies userId huser]
      exact decide_eq_true hhost.symm
    · intro p hp
      rcases List.mem_append.mp hp with hp | hp
      · exact h.frames p hp
      · obtain ⟨u, -, hp⟩ := List.mem_flatMap.mp hp
        rcases List.mem_pair.mp hp with rfl | rfl
        · exact framesHost_lookUpFavourite u
        · exact framesHost_lookUpBookings u

theorem flagged_step {e : PostingEvent} (h : Flagged posting userId scr)
    (hstep : step z posting scr (e.signedIn userId) = some scr') : Flagged posting userId scr' := by
  obtain ⟨u, t, hu, rfl⟩ | rfl | ⟨reply, he, -, rfl⟩ | ⟨i, reply, action, op, k, -, hprocess, rfl⟩ |
    ⟨-, rfl⟩ | ⟨comment, -, rfl⟩ := step_cases hstep
  · refine ⟨?_, h.frames⟩
    intro hcompleted hhost
    change u.isHost.getD scr.state.isHost = true
    rw [hu]
    exact h.flag hcompleted hhost
  · exact h
  · cases e with
    | userAnswered reply' =>
        cases he
        exact flagged_userAnswered h reply'
    | _ => cases he
  · refine (h.eraseIdx i).advance ?_
    have hframes := h.frames _ (List.mem_of_getElem? hprocess)
    exact fun s => hframes s (reply op) s
  · exact h.advance framesHost_toggleFavourite
  · exact h.advance (framesHost_submitReview comment)

end PostingScreen

namespace BookingScreen

variable {z : Zone} {describe : DartError → String} {posting : Managed Posting} {userId : String}
  {scr scr' : BookingScreen}

def BooksFor (userId : String) (op : Call) : Prop :=
  ∀ data, op = .createBooking data → data.get "user_id" = .string userId

/-- The program books for the user, if need be once it knows who that is. -/
def Signs (userId : String) (p : CubitM Unit) : Prop :=
  Prog.Keeps (fun _ => True) (BooksFor userId) p ∨ ∃ k, p = .await .userId k ∧
    ∀ r, (∀ u, r = .ok (some u) → u = userId) → Prog.Keeps (fun _ => True) (BooksFor userId) (k r)

theorem signs_getPaymentIntent : Signs userId (getPaymentIntent z describe (some posting)) :=
  .inl (getPaymentIntent_keeps describe nofun (fun _ _ _ _ _ => trivial)
    (fun _ _ _ _ _ _ _ h => nomatch h))

theorem signs_saveBooking : Signs userId (saveBooking z (some posting)) := by
  have hother : ∀ op, op.collection ≠ some FirestoreCollection.booking → BooksFor userId op := by
    rintro _ hop data rfl
    exact absurd rfl hop
  obtain ⟨r, hdone⟩ | ⟨k, hk, hkeeps⟩ := saveBooking_asks (z := z) (I := fun _ => True) hother
    (fun _ _ _ _ _ => trivial) posting
  · rw [hdone]
    exact .inl trivial
  · refine .inr ⟨k, hk, ?_⟩
    intro r hr
    apply hkeeps r
    intro s price u checkIn checkOut hu _ _ _ _ data hdata
    cases hdata
    rw [hr u hu]
    rfl

structure Signed (userId : String) (scr : BookingScreen) : Prop where
  bookings : ∀ b ∈ scr.bookings, b.data.get "user_id" = .string userId
  processes : ∀ p ∈ scr.processes, Signs userId p.program

theorem signed_start (s : BookPostingState) : Signed userId (start s) := ⟨nofun, nofun⟩

theorem Signs.settle {p : CubitM Unit} (h : Signs userId p) (s : BookPostingState) :
    Signs userId (Prog.settle p s).1 := by
  obtain hkeeps | ⟨k, rfl, hk⟩ := h
  · exact .inl (hkeeps.settle trivial).1
  · exact .inr ⟨k, rfl, hk⟩

theorem Signed.advance (h : Signed userId scr) {process : BookingProcess}
    (hsigns : Signs userId process.program) : Signed userId (scr.advance process) := by
  refine ⟨?_, ?_⟩
  · rw [bookings_advance]
    exact h.bookings
  · intro p hp
    obtain hp | hp := mem_processes_advance hp
    · exact h.processes p hp
    · rw [hp]
      exact hsigns.settle scr.state

/-- The answer to a call leaves the rest of a function that signs; what it asks for is signed. -/
theorem Signed.answer (h : Signed userId scr) {i : ℕ} {op : Call}
    {k : Except DartError (Reply op) → CubitM Unit} {paidFor : Stay} {sheet : Option ℕ}
    (hprocess : scr.processes[i]? = some ⟨.await op k, paidFor, sheet⟩)
    (reply : (op : Call) → Except DartError (Reply op)) :
    Signed userId ((ask { scr with processes := scr.processes.eraseIdx i }
      ⟨.await op k, paidFor, sheet⟩ op).advance
        ⟨k (bookingReplies userId reply op), paidFor, sheet⟩) := by
  have herased : Signed userId { scr with processes := scr.processes.eraseIdx i } :=
    ⟨h.bookings, fun p hp => h.processes p (List.mem_of_mem_eraseIdx hp)⟩
  obtain ⟨hop, hk⟩ | ⟨k', hk', hkeeps⟩ := h.processes _ (List.mem_of_getElem? hprocess)
  · refine Signed.advance ?_ (.inl (hk _))
    unfold ask
    split
    · rename_i data
      refine ⟨?_, herased.processes⟩
      intro b hb
      rcases List.mem_append.mp hb with hb | hb
      · exact h.bookings b hb
      · rw [List.mem_singleton.mp hb]
        exact hop data rfl
    · exact herased
  · cases hk'
    refine herased.advance (.inl (hkeeps _ ?_))
    intro u hu
    exact Option.some.inj (eq_of_bookingReplies userId hu)

theorem signed_step {e : ScreenEvent} (h : Signed userId scr)
    (hstep : step z describe (some posting) scr (e.signedIn userId) = some scr') :
    Signed userId scr' := by
  cases e with
  | setCurrentTag tag =>
      simp only [ScreenEvent.signedIn, step] at hstep
      split_ifs at hstep
      cases hstep
      exact ⟨h.bookings, h.processes⟩
  | updateSelectedDate date =>
      simp only [ScreenEvent.signedIn, step] at hstep
      split_ifs at hstep
      cases hstep
      exact ⟨h.bookings, h.processes⟩
  | load name dates unselectable =>
      cases hstep
      exact ⟨h.bookings, h.processes⟩
  | press =>
      simp only [ScreenEvent.signedIn, step] at hstep
      split_ifs at hstep
      cases hstep
      exact h.advance signs_getPaymentIntent
  | answer i reply =>
      simp only [ScreenEvent.signedIn, step] at hstep
      split at hstep
      · rename_i op k paidFor sheet hprocess
        cases hstep
        exact h.answer hprocess reply
      · cases hstep
  | confirm i =>
      obtain ⟨sheet, -, rfl⟩ := Option.map_eq_some_iff.mp hstep
      have hsheets : Signed userId { scr with sheets := scr.sheets.eraseIdx i } :=
        ⟨h.bookings, h.processes⟩
      exact hsheets.advance signs_saveBooking
  | cancel i =>
      obtain ⟨sheet, -, rfl⟩ := Option.map_eq_some_iff.mp hstep
      exact ⟨h.bookings, h.processes⟩

end BookingScreen

namespace BookingFlow

open PostingScreen BookingScreen

variable {z : Zone} {describe : DartError → String} {posting : Managed Posting} {userId : String}
  {s s' : BookingFlow}

/-- A host has no booking screen, and every booking screen signs its bookings. -/
structure Inv (posting : Managed Posting) (userId : String) (s : BookingFlow) : Prop where
  view : Flagged posting userId s.view
  guest : posting.object.hostId = some userId → s.screens = []
  signed : ∀ scr ∈ s.screens, Signed userId scr

theorem Inv.noOwnBooking (h : Inv posting userId s) : NoOwnBooking posting s := by
  intro scr hscr b hb hostId hhost hown
  have huser : userId = hostId := by
    have hsigned := (h.signed scr hscr).bookings b hb
    rw [hown] at hsigned
    cases hsigned
    rfl
  subst huser
  rw [h.guest hhost] at hscr
  cases hscr

theorem inv_step {e : FlowEvent} (h : Inv posting userId s) (hC : WaitsForLookup posting userId s e)
    (hstep : step z describe posting userId s e = some s') : Inv posting userId s' := by
  cases e with
  | view e =>
      obtain ⟨view, hview, rfl⟩ := Option.map_eq_some_iff.mp hstep
      exact ⟨flagged_step h.view hview, h.guest, h.signed⟩
  | bookNow now =>
      simp only [step] at hstep
      split_ifs at hstep with hflag
      cases hstep
      refine ⟨h.view, ?_, ?_⟩
      · intro hhost
        exact absurd (h.view.flag (hC hhost) hhost) hflag
      · intro scr hscr
        rcases List.mem_append.mp hscr with hscr | hscr
        · exact h.signed scr hscr
        · rw [List.mem_singleton.mp hscr]
          exact signed_start _
  | booking i e =>
      obtain ⟨scr, hscr, hrest⟩ := Option.bind_eq_some_iff.mp hstep
      obtain ⟨scr', hscr', rfl⟩ := Option.map_eq_some_iff.mp hrest
      refine ⟨h.view, ?_, ?_⟩
      · intro hhost
        rw [h.guest hhost] at hscr
        cases hscr
      · intro scr'' hmem
        rcases List.mem_or_eq_of_mem_set hmem with hmem | rfl
        · exact h.signed scr'' hmem
        · exact signed_step (h.signed scr (List.mem_of_getElem? hscr)) hscr'

/-- In every run in which the host does not tap Book Now before the lookup of the user has
completed, nobody books an own posting. -/
theorem noOwnBooking_of_waits (z : Zone) (describe : DartError → String) (text : DoubleText)
    (posting : Managed Posting) (host : Option User) (userId : String) (events : List FlowEvent)
    (h : Execution.StepsMeet (step z describe posting userId) (WaitsForLookup posting userId)
      (start text posting host) events) :
    Execution.Always (step z describe posting userId) (NoOwnBooking posting)
      (start text posting host) events := by
  have hstart : Inv posting userId (start text posting host) :=
    ⟨flagged_start text host, fun _ => rfl, fun _ hscr => absurd hscr List.not_mem_nil⟩
  have hinv : Execution.Always (step z describe posting userId) (Inv posting userId)
      (start text posting host) events :=
    Execution.always_of_stepsMeet (fun s e s' hs hC hstep => inv_step hs hC hstep) hstart h
  exact hinv.mono (fun s hs => hs.noOwnBooking)

section Run

def flowReplies (userId : String) : (op : Call) → Except DartError (Reply op)
  | .userId => .ok (some userId)
  | .createPaymentIntent .. => .ok ⟨"pi_1", "secret"⟩
  | .createBooking _ => .ok ⟨⟨"b1", some "p1", some userId, none, none, none⟩, true⟩
  | _ => .error .unavailable

def bookTwoNights (userId : String) : List FlowEvent :=
  .bookNow ⟨0, false⟩ :: [.load (some "") (initialDates none ⟨0, false⟩) ∅,
    .updateSelectedDate (Zone.utc.date 1), .setCurrentTag "check_out",
    .updateSelectedDate (Zone.utc.date 3), .press, .answer 0 (flowReplies userId),
    .answer 0 (flowReplies userId), .confirm 0, .answer 0 (flowReplies userId),
    .answer 0 (flowReplies userId)].map (.booking 0)

def shownCabin : Managed Posting :=
  ⟨{ BookingScreen.cabin.object with
      name := some "Cabin"
      description := some "Quiet"
      images := ["1.jpg"] }, true⟩

theorem noOwnBooking_of_waits_guest : ∃ s,
    Execution.run (step Zone.utc (fun _ => "") shownCabin "g1") (start wholeText shownCabin none)
      (bookTwoNights "g1") = some s ∧
    (s.screens.flatMap BookingScreen.bookings).length = 1 ∧ NoOwnBooking shownCabin s := by
  have hmeet : Execution.StepsMeet (step Zone.utc (fun _ => "") shownCabin "g1")
      (WaitsForLookup shownCabin "g1") (start wholeText shownCabin none) (bookTwoNights "g1") := by
    decide +kernel
  have hrun : (Execution.run (step Zone.utc (fun _ => "") shownCabin "g1")
      (start wholeText shownCabin none) (bookTwoNights "g1")).map
        (fun s => (s.screens.flatMap BookingScreen.bookings).length) = some 1 := by
    decide +kernel
  obtain ⟨s, hs, hlength⟩ := Option.map_eq_some_iff.mp hrun
  exact ⟨s, hs, hlength, (noOwnBooking_of_waits Zone.utc (fun _ => "") wholeText shownCabin none
    "g1" (bookTwoNights "g1") hmeet).final hs⟩

/-- The cabin has no images, so its screen never looks up the user, and its host books it. -/
theorem host_books_cabin : ∃ s,
    Execution.run (step Zone.utc (fun _ => "") BookingScreen.cabin "h1")
      (start wholeText BookingScreen.cabin none) (bookTwoNights "h1") = some s ∧
    ¬ NoOwnBooking BookingScreen.cabin s := by
  have hrun : (Execution.run (step Zone.utc (fun _ => "") BookingScreen.cabin "h1")
      (start wholeText BookingScreen.cabin none) (bookTwoNights "h1")).map
        (fun s => s.screens.map (fun scr => scr.bookings.map (fun b => b.data.get "user_id"))) =
        some [[.string "h1"]] := by
    decide +kernel
  obtain ⟨s, hs, hscreens⟩ := Option.map_eq_some_iff.mp hrun
  refine ⟨s, hs, ?_⟩
  intro hown
  obtain ⟨scr, rest, hscr, hbookings, -⟩ := List.map_eq_cons_iff.mp hscreens
  obtain ⟨b, rest', hb, huser, -⟩ := List.map_eq_cons_iff.mp hbookings
  exact hown scr (hscr ▸ List.mem_cons_self) b (hb ▸ List.mem_cons_self) "h1" rfl huser

end Run

end BookingFlow

end AirBnbClone
