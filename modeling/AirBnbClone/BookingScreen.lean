import AirBnbClone.BookPostingCubit
import AirBnbClone.CallBudget
import AirBnbClone.Execution

/-!
# Paying and booking on one screen

Pressing Book creates a payment intent for the dates of that moment. The state that carries the
intent makes the screen open the payment sheet, and a confirmed sheet makes it save a booking for
the dates of *that* moment. In between the guest may tap other dates or press Book again. The screen
below keeps the functions that are under way, the open sheets and the bookings asked for; each of
them remembers the dates of its press.
-/

namespace AirBnbClone

open Async BookPostingState BookPostingCubit

abbrev Stay := Option DateTime × Option DateTime

def BookPostingState.stay (z : Zone) (s : BookPostingState) : Stay :=
  ((s.dates.lookup "check_in").map (DateTime.dateOnly z),
    (s.dates.lookup "check_out").map (DateTime.dateOnly z))

structure BookingProcess where
  program : CubitM Unit
  paidFor : Stay
  sheet : Option ℕ

structure PaymentSheet where
  number : ℕ
  intent : PaymentIntent
  paidFor : Stay

structure AskedBooking where
  sheet : Option ℕ
  paidFor : Stay
  data : Doc

structure BookingScreen where
  state : BookPostingState
  processes : List BookingProcess
  sheets : List PaymentSheet
  opened : ℕ
  bookings : List AskedBooking
  closed : Bool

inductive ScreenEvent
  | setCurrentTag (tag : String)
  | updateSelectedDate (date : DateTime)
  | load (name : Option String) (dates : DartMap DateTime) (unselectable : Finset DateTime)
  | press
  | answer (i : ℕ) (reply : (op : Call) → Except DartError (Reply op))
  | confirm (i : ℕ)
  | cancel (i : ℕ)

namespace BookingScreen

def start (s : BookPostingState) : BookingScreen := ⟨s, [], [], 0, [], false⟩

def newSheets (paidFor : Stay) (opened : ℕ) (states : List BookPostingState) : List PaymentSheet :=
  ((states.filterMap BookPostingState.paymentIntent).zipIdx opened).map
    (fun p => ⟨p.2, p.1, paidFor⟩)

/-- Run a function to its next await. After a `saveBooking` that does not throw, the screen is
popped. -/
def advance (scr : BookingScreen) (process : BookingProcess) : BookingScreen :=
  let settled := Prog.settle process.program scr.state
  let sheets := newSheets process.paidFor scr.opened (Prog.emitted process.program scr.state)
  let scr := { scr with
    state := settled.2
    sheets := scr.sheets ++ sheets
    opened := scr.opened + sheets.length }
  match settled.1 with
  | .done (.ok _) => { scr with closed := scr.closed || process.sheet.isSome }
  | .done (.error _) => scr
  | program => { scr with processes := scr.processes ++ [{ process with program := program }] }

/-- A booking may have been written even if the reply is an error. -/
def ask (scr : BookingScreen) (process : BookingProcess) : Call → BookingScreen
  | .createBooking data =>
      { scr with bookings := scr.bookings ++ [⟨process.sheet, process.paidFor, data⟩] }
  | _ => scr

variable (z : Zone) (describe : DartError → String) (posting : Option (Managed Posting))

def step (scr : BookingScreen) : ScreenEvent → Option BookingScreen
  | .setCurrentTag tag =>
      if scr.closed then none else some { scr with state := setCurrentTag tag scr.state }
  | .updateSelectedDate date =>
      if scr.closed then none else some { scr with state := updateSelectedDate date scr.state }
  | .load name dates unselectable =>
      some { scr with state := loaded name dates unselectable scr.state }
  | .press =>
      if scr.closed = false ∧ scr.state.canBook z = true ∧ scr.state.isSaving = false then
        some (scr.advance ⟨getPaymentIntent z describe posting, scr.state.stay z, none⟩)
      else none
  | .answer i reply =>
      match scr.processes[i]? with
      | some ⟨.await op k, paidFor, sheet⟩ =>
          let scr := { scr with processes := scr.processes.eraseIdx i }
          let scr := scr.ask ⟨.await op k, paidFor, sheet⟩ op
          some (scr.advance ⟨k (reply op), paidFor, sheet⟩)
      | _ => none
  | .confirm i =>
      (scr.sheets[i]?).map (fun sheet =>
        { scr with sheets := scr.sheets.eraseIdx i }.advance
          ⟨saveBooking z posting, sheet.paidFor, some sheet.number⟩)
  | .cancel i => (scr.sheets[i]?).map (fun _ => { scr with sheets := scr.sheets.eraseIdx i })

end BookingScreen

/-- The data of a booking are for the two days. -/
def Stay.Matches (stay : Stay) (data : Doc) : Prop :=
  ∃ inDate outDate, stay = (some inDate, some outDate) ∧
    data.get "check_in" = .int inDate.millisecondsSinceEpoch ∧
    data.get "check_out" = .int outDate.millisecondsSinceEpoch

/-- A moment of a night of the booking. -/
def AskedBooking.Covers (b : AskedBooking) (t : ℤ) : Prop :=
  ∃ checkIn checkOut, b.data.get "check_in" = .int checkIn ∧
    b.data.get "check_out" = .int checkOut ∧ checkIn ≤ t ∧ t < checkOut

namespace BookingScreen

/-- What was paid for is what is booked, once for each sheet and once for each night. -/
def BooksWhatWasPaid (scr : BookingScreen) : Prop :=
  (∀ b ∈ scr.bookings, b.paidFor.Matches b.data) ∧ (scr.bookings.map AskedBooking.sheet).Nodup ∧
    scr.bookings.Pairwise (fun b b' => ∀ t, ¬ (b.Covers t ∧ b'.Covers t))

/-- A payment is under way: a function is, or a sheet is open. -/
def Busy (scr : BookingScreen) : Prop := scr.processes ≠ [] ∨ scr.sheets ≠ []

/-- While a payment is under way, Book is not pressed again, and until the booking is being saved
the two days stay what they are. -/
def Steady (z : Zone) (scr : BookingScreen) : ScreenEvent → Prop
  | .press => ¬ scr.Busy
  | .updateSelectedDate date => scr.Busy → scr.state.isSaving = false →
      (updateSelectedDate date scr.state).stay z = scr.state.stay z
  | .load name dates unselectable => scr.Busy → scr.state.isSaving = false →
      (loaded name dates unselectable scr.state).stay z = scr.state.stay z
  | _ => True

instance (scr : BookingScreen) : Decidable scr.Busy :=
  inferInstanceAs (Decidable (scr.processes ≠ [] ∨ scr.sheets ≠ []))

instance (z : Zone) (scr : BookingScreen) (e : ScreenEvent) : Decidable (Steady z scr e) :=
  match e with
  | .press => inferInstanceAs (Decidable (¬ scr.Busy))
  | .updateSelectedDate date => inferInstanceAs (Decidable (scr.Busy →
      scr.state.isSaving = false → (updateSelectedDate date scr.state).stay z = scr.state.stay z))
  | .load name dates unselectable => inferInstanceAs (Decidable (scr.Busy →
      scr.state.isSaving = false →
        (loaded name dates unselectable scr.state).stay z = scr.state.stay z))
  | .setCurrentTag _ => .isTrue trivial
  | .answer _ _ => .isTrue trivial
  | .confirm _ => .isTrue trivial
  | .cancel _ => .isTrue trivial

section Programs

variable {z : Zone} {describe : DartError → String} {posting : Option (Managed Posting)}
  {paidFor : Stay} {s : BookPostingState}

/-- From a state on, the program asks for no booking, leaves the dates and the flag alone, and ends
when it has emitted a payment intent. -/
def Pays : CubitM Unit → BookPostingState → Prop
  | .done _, _ => True
  | .read k, s => Pays (k s) s
  | .emit s' k, s => s'.dates = s.dates ∧ s'.isSaving = s.isSaving ∧
      ((s'.paymentIntent = none ∧ Pays k s') ∨ ∃ r, k = .done r)
  | .await op k, _ => (∀ data, op ≠ .createBooking data) ∧ ∀ r s, Pays (k r) s

theorem Pays.settle {p : CubitM Unit} (h : Pays p s) :
    (∀ s', Pays (Prog.settle p s).1 s') ∧ (Prog.settle p s).2.dates = s.dates ∧
      (Prog.settle p s).2.isSaving = s.isSaving ∧
      ((Prog.emitted p s).filterMap BookPostingState.paymentIntent = [] ∨ ∃ intent r,
        (Prog.emitted p s).filterMap BookPostingState.paymentIntent = [intent] ∧
          (Prog.settle p s).1 = .done r) := by
  induction p generalizing s with
  | done r => exact ⟨fun _ => trivial, rfl, rfl, .inl rfl⟩
  | read k ih => exact ih s h
  | emit s' k ih =>
      obtain ⟨hdates, hsaving, ⟨hintent, hk⟩ | ⟨r, rfl⟩⟩ := h
      · obtain ⟨hpays, hdates', hsaving', hemitted⟩ := ih hk
        refine ⟨hpays, hdates'.trans hdates, hsaving'.trans hsaving, ?_⟩
        rw [Prog.emitted, List.filterMap_cons_none hintent]
        exact hemitted
      · refine ⟨fun _ => trivial, hdates, hsaving, ?_⟩
        cases hintent : s'.paymentIntent with
        | none => exact .inl (List.filterMap_cons_none hintent)
        | some intent => exact .inr ⟨intent, r, List.filterMap_cons_some hintent, rfl⟩
  | await op k ih => exact ⟨fun _ => h, rfl, rfl, .inl rfl⟩

theorem pays_emitWith (u : Update) (hdates : u.dates = none) (hsaving : u.isSaving = none) :
    Pays (Prog.emitWith (fun s => s.copyWith u)) s := by
  refine ⟨?_, ?_, .inr ⟨_, rfl⟩⟩
  · simp only [copyWith, hdates, Option.getD_none]
  · simp only [copyWith, hsaving, Option.getD_none]

theorem pays_getPaymentIntent : Pays (getPaymentIntent z describe posting) s := by
  cases posting with
  | none => trivial
  | some posting =>
      dsimp only [getPaymentIntent]
      split_ifs
      swap
      · trivial
      change Pays (ite _ _ _) s
      split_ifs
      swap
      · exact pays_emitWith _ rfl rfl
      cases posting.object.price with
      | none => trivial
      | some price =>
          refine ⟨nofun, ?_⟩
          intro r s
          match r with
          | .error e => exact pays_emitWith _ rfl rfl
          | .ok none => trivial
          | .ok (some userId) =>
              refine ⟨nofun, ?_⟩
              intro r s
              cases r with
              | error e => exact pays_emitWith _ rfl rfl
              | ok intent => exact pays_emitWith _ rfl rfl

def bookingCost : Call → ℕ
  | .createBooking _ => 1
  | _ => 0

theorem bookingCost_of_ne {op : Call} (h : ∀ data, op ≠ .createBooking data) :
    bookingCost op = 0 := by
  unfold bookingCost
  split
  · exact absurd rfl (h _)
  · rfl

/-- Every booking the call may write is for the two days. -/
def Books (paidFor : Stay) (op : Call) : Prop :=
  ∀ data, op = .createBooking data → paidFor.Matches data

/-- The program asks for at most so many bookings, all for the two days, emits no payment intent and
does not throw. -/
abbrev Saves (paidFor : Stay) : ℕ → CubitM Unit → Prop :=
  Prog.Within (fun s => s.paymentIntent = none) (Books paidFor) bookingCost (fun r => r = .ok ())

/-- As `Saves`, but the program may throw. -/
abbrev Writes (paidFor : Stay) : ℕ → CubitM Unit → Prop :=
  Prog.Within (fun s => s.paymentIntent = none) (Books paidFor) bookingCost (fun _ => True)

theorem writes_call_bind {op : Call} {f : Reply op → CubitM Unit} {n : ℕ}
    (hop : ∀ data, op ≠ .createBooking data) (hf : ∀ a, Writes paidFor n (f a)) :
    Writes paidFor n (Prog.call op >>= f) := by
  have hcost := bookingCost_of_ne hop
  apply Prog.within_call_bind (fun _ => trivial)
  · intro data hdata
    exact absurd hdata (hop data)
  · omega
  · intro a
    rw [hcost]
    exact hf a

theorem writes_createBookingAndUpdateHostEarning {postingId userId hostId : String}
    {inDate outDate : DateTime} {paymentAmount : ℚ} :
    Writes (some inDate, some outDate) 1 (createBookingAndUpdateHostEarning postingId userId hostId
      inDate outDate paymentAmount) := by
  unfold createBookingAndUpdateHostEarning
  apply Prog.within_call_bind (fun _ => trivial)
  · intro data hdata
    cases hdata
    exact ⟨inDate, outDate, rfl, rfl, rfl⟩
  · exact le_rfl
  · intro booking
    refine writes_call_bind nofun ?_
    intro user
    dsimp only
    split_ifs
    · exact writes_call_bind nofun (fun _ => trivial)
    · trivial

theorem writes_ensureConversationAndSendMessage (userId hostId postingName : String)
    (inDate outDate : DateTime) :
    Writes paidFor 0
      (ensureConversationAndSendMessage z userId hostId postingName inDate outDate) := by
  have hmessage (c text : String) : Writes paidFor 0 (do
      let now ← Await.now
      let _ ← Await.createMessage (messageData c userId text now)) :=
    writes_call_bind nofun (fun _ => writes_call_bind nofun (fun _ => trivial))
  unfold ensureConversationAndSendMessage
  refine writes_call_bind nofun ?_
  intro user
  dsimp only
  split_ifs
  · refine writes_call_bind nofun (fun now => writes_call_bind nofun ?_)
    intro existing
    cases existing with
    | some conversation => exact writes_call_bind nofun (fun _ => hmessage _ _)
    | none =>
        exact writes_call_bind nofun (fun _ => writes_call_bind nofun (fun _ => hmessage _ _))
  · trivial

theorem saves_bookStay (postingId userId hostId postingName : String) (inDate outDate : DateTime)
    (paymentAmount : ℚ) : Saves (some inDate, some outDate) 1
      (bookStay z postingId userId hostId postingName inDate outDate paymentAmount) := by
  intro s
  refine ⟨rfl, ?_⟩
  refine Prog.Within.tryCatch (fun _ => rfl) ?_
    (fun _ => Prog.within_emitWith (fun _ => rfl) rfl)
  refine Prog.Within.bind (m := 1) (n := 0) (fun _ => trivial)
    writes_createBookingAndUpdateHostEarning (fun _ => ?_)
  exact Prog.Within.bind (m := 0) (n := 0) (fun _ => trivial)
    (writes_ensureConversationAndSendMessage userId hostId postingName inDate outDate)
    (fun _ => Prog.within_emitWith (fun _ => rfl) trivial)

/-- Once `saveBooking` knows the user, it reads the dates; from there on it saves one booking for
them. Before that it may only throw. -/
def Starts (paidFor : Stay) (p : CubitM Unit) (s : BookPostingState) : Prop :=
  ((∃ e, (Prog.settle p s).1 = .done (.error e)) ∨ Saves paidFor 1 (Prog.settle p s).1) ∧
    ∀ s' ∈ Prog.emitted p s, s'.paymentIntent = none

theorem starts_read {k : BookPostingState → CubitM Unit} (h : Saves paidFor 1 (k s)) :
    Starts paidFor (.read k) s := by
  obtain ⟨hsettle, hemitted⟩ := h.settle s
  exact ⟨.inr hsettle, hemitted⟩

theorem saveBooking_cases (z : Zone) (posting : Option (Managed Posting)) :
    saveBooking z posting = .done (.ok ()) ∨ ∃ k, saveBooking z posting = .await .userId k ∧
      ∀ r s, Starts (s.stay z) (k r) s := by
  cases posting with
  | none => exact .inl rfl
  | some posting =>
      dsimp only [saveBooking]
      split_ifs
      swap
      · exact .inl rfl
      cases posting.object.hostId with
      | none => exact .inl rfl
      | some hostId =>
          cases posting.object.price with
          | none => exact .inl rfl
          | some price =>
              refine .inr ⟨_, rfl, ?_⟩
              intro r s
              match r with
              | .error e => exact ⟨.inl ⟨e, rfl⟩, List.forall_mem_nil _⟩
              | .ok none => exact ⟨.inr rfl, List.forall_mem_nil _⟩
              | .ok (some userId) =>
                  refine starts_read ?_
                  dsimp only [Prog.bind]
                  split
                  · rename_i checkIn checkOut hin hout
                    have hstay : s.stay z =
                        (some (checkIn.dateOnly z), some (checkOut.dateOnly z)) := by
                      simp only [stay, hin, hout, Option.map_some]
                    rw [hstay]
                    exact saves_bookStay _ _ _ _ _ _ _
                  · rfl

end Programs

variable {z : Zone} {describe : DartError → String} {posting : Option (Managed Posting)}
  {scr scr' : BookingScreen} {paidFor : Stay}

/-- How far the one payment under way has come. -/
inductive Phase (z : Zone) (scr : BookingScreen) : Prop
  | idle (processes : scr.processes = []) (sheets : scr.sheets = [])
      (bookings : scr.closed = false → scr.bookings = [])
  | paying (p : CubitM Unit) (paidFor : Stay) (processes : scr.processes = [⟨p, paidFor, none⟩])
      (sheets : scr.sheets = []) (pays : ∀ s, Pays p s) (isSaving : scr.state.isSaving = false)
      (stay : scr.state.stay z = paidFor) (bookings : scr.bookings = [])
  | asking (sheet : PaymentSheet) (processes : scr.processes = []) (sheets : scr.sheets = [sheet])
      (isSaving : scr.state.isSaving = false) (stay : scr.state.stay z = sheet.paidFor)
      (bookings : scr.bookings = [])
  | starting (k : Except DartError (Reply .userId) → CubitM Unit) (paidFor : Stay) (n : ℕ)
      (processes : scr.processes = [⟨.await .userId k, paidFor, some n⟩])
      (sheets : scr.sheets = []) (starts : ∀ r s, Starts (s.stay z) (k r) s)
      (isSaving : scr.state.isSaving = false) (stay : scr.state.stay z = paidFor)
      (bookings : scr.bookings = [])
  | saving (p : CubitM Unit) (paidFor : Stay) (n m : ℕ)
      (processes : scr.processes = [⟨p, paidFor, some n⟩]) (sheets : scr.sheets = [])
      (saves : Saves paidFor m p) (bookings : scr.bookings.length + m ≤ 1)

structure Inv (z : Zone) (scr : BookingScreen) : Prop where
  phase : Phase z scr
  paid : ∀ b ∈ scr.bookings, b.paidFor.Matches b.data
  single : scr.bookings.length ≤ 1

theorem Inv.booksWhatWasPaid (h : Inv z scr) : scr.BooksWhatWasPaid := by
  have hsingle := h.single
  refine ⟨h.paid, ?_⟩
  match hbookings : scr.bookings with
  | [] => exact ⟨List.nodup_nil, List.Pairwise.nil⟩
  | [b] => exact ⟨List.nodup_singleton _, List.pairwise_singleton _ _⟩
  | b :: b' :: bs =>
      rw [hbookings] at hsingle
      simp at hsingle

theorem inv_start (z : Zone) (s : BookPostingState) : Inv z (start s) :=
  ⟨.idle rfl rfl (fun _ => rfl), nofun, Nat.zero_le 1⟩

section Advance

variable {p : CubitM Unit} {sheet : Option ℕ}

@[simp] theorem bookings_advance (process : BookingProcess) :
    (scr.advance process).bookings = scr.bookings := by
  unfold advance
  dsimp only
  split <;> rfl

theorem mem_processes_advance {process q : BookingProcess}
    (h : q ∈ (scr.advance process).processes) :
    q ∈ scr.processes ∨ q.program = (Prog.settle process.program scr.state).1 := by
  unfold advance at h
  dsimp only at h
  split at h
  · exact .inl h
  · exact .inl h
  · rcases List.mem_append.mp h with h | h
    · exact .inl h
    · rw [List.mem_singleton.mp h]
      exact .inr rfl

theorem inv_advance {process : BookingProcess} (hphase : Phase z (scr.advance process))
    (hpaid : ∀ b ∈ scr.bookings, b.paidFor.Matches b.data) (hsingle : scr.bookings.length ≤ 1) :
    Inv z (scr.advance process) := by
  refine ⟨hphase, ?_, ?_⟩
  · rw [bookings_advance]
    exact hpaid
  · rw [bookings_advance]
    exact hsingle

theorem newSheets_of_none {states : List BookPostingState} (opened : ℕ)
    (h : states.filterMap BookPostingState.paymentIntent = []) :
    newSheets paidFor opened states = [] := by
  rw [newSheets, h]
  rfl

/-- A function that pays goes on, ends, or opens its sheet and ends. -/
theorem phase_advance_paying (hprocesses : scr.processes = []) (hsheets : scr.sheets = [])
    (hpays : Pays p scr.state) (hsaving : scr.state.isSaving = false)
    (hbookings : scr.bookings = []) :
    Phase z (scr.advance ⟨p, scr.state.stay z, none⟩) := by
  obtain ⟨hsettled, hdates, hflag, hemitted⟩ := hpays.settle
  have hstay : (Prog.settle p scr.state).2.stay z = scr.state.stay z := by
    simp only [BookPostingState.stay, hdates]
  unfold advance
  dsimp only
  obtain hnone | ⟨intent, r, hintent, hdone⟩ := hemitted
  · rw [newSheets_of_none _ hnone, List.append_nil]
    split
    · exact .idle hprocesses hsheets (fun _ => hbookings)
    · exact .idle hprocesses hsheets (fun _ => hbookings)
    · exact .paying _ _ (by rw [hprocesses]; rfl) hsheets hsettled (hflag.trans hsaving) hstay
        hbookings
  · have hsheet : newSheets (scr.state.stay z) scr.opened (Prog.emitted p scr.state) =
        [⟨scr.opened, intent, scr.state.stay z⟩] := by
      rw [newSheets, hintent]
      rfl
    rw [hsheet, hsheets, hdone]
    cases r with
    | ok a => exact .asking _ hprocesses rfl (hflag.trans hsaving) hstay hbookings
    | error e => exact .asking _ hprocesses rfl (hflag.trans hsaving) hstay hbookings

theorem phase_advance_saving {n m : ℕ} (hprocesses : scr.processes = [])
    (hsheets : scr.sheets = [])
    (hsettled : (scr.bookings = [] ∧ ∃ e, (Prog.settle p scr.state).1 = .done (.error e)) ∨
      (scr.bookings.length + m ≤ 1 ∧ Saves paidFor m (Prog.settle p scr.state).1))
    (hemitted : ∀ s ∈ Prog.emitted p scr.state, s.paymentIntent = none) :
    Phase z (scr.advance ⟨p, paidFor, some n⟩) := by
  have hnone : newSheets paidFor scr.opened (Prog.emitted p scr.state) = [] :=
    newSheets_of_none _ (List.filterMap_eq_nil_iff.mpr hemitted)
  unfold advance
  dsimp only
  rw [hnone, List.append_nil]
  split
  · rename_i r hr
    exact .idle hprocesses hsheets (fun hclosed => by simp at hclosed)
  · rename_i e hr
    obtain ⟨hbookings, -⟩ | ⟨-, hsaves⟩ := hsettled
    · exact .idle hprocesses hsheets (fun _ => hbookings)
    · rw [hr] at hsaves
      cases hsaves
  · rename_i hok herror
    obtain ⟨-, e, he⟩ | ⟨hbookings, hsaves⟩ := hsettled
    · exact absurd he (herror e)
    · exact .saving _ paidFor n m (by rw [hprocesses]; rfl) hsheets hsaves hbookings

end Advance

section Steps

theorem eq_of_getElem?_singleton {α : Type} {x y : α} {i : ℕ} (h : [x][i]? = some y) :
    i = 0 ∧ y = x := by
  cases i with
  | zero => exact ⟨rfl, (Option.some.inj h).symm⟩
  | succ i => cases h

/-- Only the days and the flag of the state matter, and those only before the booking is saved. -/
theorem phase_setState (h : Phase z scr) {s : BookPostingState}
    (hs : scr.Busy → scr.state.isSaving = false →
      s.stay z = scr.state.stay z ∧ s.isSaving = false) : Phase z { scr with state := s } := by
  cases h with
  | idle processes sheets bookings => exact .idle processes sheets bookings
  | paying p paidFor processes sheets pays isSaving stay bookings =>
      obtain ⟨hstay, hsaving⟩ := hs (.inl (by rw [processes]; exact List.cons_ne_nil _ _)) isSaving
      exact .paying p paidFor processes sheets pays hsaving (hstay.trans stay) bookings
  | asking sheet processes sheets isSaving stay bookings =>
      obtain ⟨hstay, hsaving⟩ := hs (.inr (by rw [sheets]; exact List.cons_ne_nil _ _)) isSaving
      exact .asking sheet processes sheets hsaving (hstay.trans stay) bookings
  | starting k paidFor n processes sheets starts isSaving stay bookings =>
      obtain ⟨hstay, hsaving⟩ := hs (.inl (by rw [processes]; exact List.cons_ne_nil _ _)) isSaving
      exact .starting k paidFor n processes sheets starts hsaving (hstay.trans stay) bookings
  | saving p paidFor n m processes sheets saves bookings =>
      exact .saving p paidFor n m processes sheets saves bookings

theorem ask_of_ne {process : BookingProcess} {op : Call} (h : ∀ data, op ≠ .createBooking data) :
    scr.ask process op = scr := by
  unfold ask
  split
  · exact absurd rfl (h _)
  · rfl

/-- A call adds the booking it asks for. -/
theorem exists_ask (scr : BookingScreen) (process : BookingProcess) (op : Call) : ∃ bs,
    scr.ask process op = { scr with bookings := bs } ∧
      bs.length = scr.bookings.length + bookingCost op ∧
      ((∀ b ∈ scr.bookings, b.paidFor.Matches b.data) → Books process.paidFor op →
        ∀ b ∈ bs, b.paidFor.Matches b.data) := by
  unfold ask
  split
  · rename_i data
    refine ⟨_, rfl, List.length_append, ?_⟩
    intro hpaid hbooks b hb
    rcases List.mem_append.mp hb with hb | hb
    · exact hpaid b hb
    · rw [List.mem_singleton.mp hb]
      exact hbooks data rfl
  · rename_i hop
    have hcost := bookingCost_of_ne hop
    exact ⟨scr.bookings, rfl, by rw [hcost, Nat.add_zero], fun hpaid _ => hpaid⟩

theorem inv_press (h : Inv z scr) (hidle : ¬ scr.Busy)
    (hstep : step z describe posting scr .press = some scr') : Inv z scr' := by
  simp only [step] at hstep
  split_ifs at hstep with hcan
  cases hstep
  obtain ⟨hclosed, -, hsaving⟩ := hcan
  have hprocesses : scr.processes = [] := by
    by_contra hne
    exact hidle (.inl hne)
  have hsheets : scr.sheets = [] := by
    by_contra hne
    exact hidle (.inr hne)
  have hbookings : scr.bookings = [] := by
    cases h.phase with
    | idle _ _ bookings => exact bookings hclosed
    | paying p paidFor processes => rw [hprocesses] at processes; cases processes
    | asking sheet _ sheets => rw [hsheets] at sheets; cases sheets
    | starting k paidFor n processes => rw [hprocesses] at processes; cases processes
    | saving p paidFor n m processes => rw [hprocesses] at processes; cases processes
  refine inv_advance ?_ h.paid h.single
  exact phase_advance_paying hprocesses hsheets pays_getPaymentIntent hsaving hbookings

/-- When a sheet is open, nothing else is under way. -/
theorem Phase.of_sheet (h : Phase z scr) {i : ℕ} {sheet : PaymentSheet}
    (hsheet : scr.sheets[i]? = some sheet) :
    scr.sheets.eraseIdx i = [] ∧ scr.processes = [] ∧ scr.state.isSaving = false ∧
      scr.state.stay z = sheet.paidFor ∧ scr.bookings = [] := by
  cases h with
  | asking sheet' processes sheets isSaving stay bookings =>
      rw [sheets] at hsheet
      obtain ⟨rfl, rfl⟩ := eq_of_getElem?_singleton hsheet
      rw [sheets]
      exact ⟨rfl, processes, isSaving, stay, bookings⟩
  | idle _ sheets | paying _ _ _ sheets | starting _ _ _ _ sheets | saving _ _ _ _ _ sheets =>
      rw [sheets] at hsheet
      cases hsheet

theorem inv_confirm (h : Inv z scr) {i : ℕ}
    (hstep : step z describe posting scr (.confirm i) = some scr') : Inv z scr' := by
  obtain ⟨sheet, hsheet, rfl⟩ := Option.map_eq_some_iff.mp hstep
  obtain ⟨hsheets, hprocesses, hsaving, hstay, hbookings⟩ := h.phase.of_sheet hsheet
  refine inv_advance ?_ h.paid h.single
  obtain hdone | ⟨k, hk, hstarts⟩ := saveBooking_cases z posting
  · rw [hdone]
    refine phase_advance_saving (m := 1) hprocesses hsheets (.inr ⟨?_, rfl⟩) nofun
    rw [hbookings]
    exact le_rfl
  · rw [hk]
    exact .starting k sheet.paidFor sheet.number (by rw [hprocesses]; rfl)
      (by rw [hsheets]; rfl) hstarts hsaving hstay hbookings

theorem inv_cancel (h : Inv z scr) {i : ℕ}
    (hstep : step z describe posting scr (.cancel i) = some scr') : Inv z scr' := by
  obtain ⟨sheet, hsheet, rfl⟩ := Option.map_eq_some_iff.mp hstep
  obtain ⟨hsheets, hprocesses, -, -, hbookings⟩ := h.phase.of_sheet hsheet
  exact ⟨.idle hprocesses hsheets (fun _ => hbookings), h.paid, h.single⟩

theorem inv_answer (h : Inv z scr) {i : ℕ} {reply : (op : Call) → Except DartError (Reply op)}
    (hstep : step z describe posting scr (.answer i reply) = some scr') : Inv z scr' := by
  simp only [step] at hstep
  split at hstep
  swap
  · cases hstep
  rename_i op k paidFor sheet hprocess
  cases hstep
  cases h.phase with
  | idle processes | asking _ processes =>
      rw [processes] at hprocess
      cases hprocess
  | paying p paidFor processes sheets pays isSaving stay bookings =>
      rw [processes] at hprocess ⊢
      obtain ⟨rfl, hp⟩ := eq_of_getElem?_singleton hprocess
      cases hp
      obtain ⟨hop, hk⟩ := pays scr.state
      rw [ask_of_ne hop]
      refine inv_advance ?_ h.paid h.single
      rw [← stay]
      exact phase_advance_paying rfl sheets (hk _ _) isSaving bookings
  | starting k' paidFor' n processes sheets starts isSaving stay bookings =>
      rw [processes] at hprocess ⊢
      obtain ⟨rfl, hp⟩ := eq_of_getElem?_singleton hprocess
      cases hp
      obtain ⟨hsettled, hemitted⟩ := starts (reply .userId) scr.state
      refine inv_advance ?_ h.paid h.single
      rw [← stay]
      refine phase_advance_saving (m := 1) rfl sheets ?_ hemitted
      obtain herror | hsaves := hsettled
      · exact .inl ⟨bookings, herror⟩
      · refine .inr ⟨?_, hsaves⟩
        change scr.bookings.length + 1 ≤ 1
        rw [bookings]
        exact le_rfl
  | saving p paidFor' n m processes sheets saves bookings =>
      rw [processes] at hprocess ⊢
      obtain ⟨rfl, hp⟩ := eq_of_getElem?_singleton hprocess
      cases hp
      obtain ⟨hop, hcost, hk⟩ := saves
      obtain ⟨hsettled, hemitted⟩ := (hk (reply op)).settle scr.state
      obtain ⟨bs, hask, hlength, hpaid⟩ := exists_ask { scr with processes := [] }
        ⟨.await op k, paidFor, some n⟩ op
      change Inv z (advance (ask { scr with processes := [] } _ op) _)
      rw [hask]
      have hbound : bs.length + (m - bookingCost op) ≤ 1 := by
        rw [hlength]
        change scr.bookings.length + bookingCost op + (m - bookingCost op) ≤ 1
        omega
      refine inv_advance ?_ (hpaid h.paid hop) (le_trans (Nat.le_add_right _ _) hbound)
      exact phase_advance_saving rfl sheets (.inr ⟨hbound, hsettled⟩) hemitted

theorem inv_step {e : ScreenEvent} (h : Inv z scr) (hC : Steady z scr e)
    (hstep : step z describe posting scr e = some scr') : Inv z scr' := by
  cases e with
  | setCurrentTag tag =>
      simp only [step] at hstep
      split_ifs at hstep
      cases hstep
      exact ⟨phase_setState h.phase (fun _ hsaving => ⟨rfl, hsaving⟩), h.paid, h.single⟩
  | updateSelectedDate date =>
      simp only [step] at hstep
      split_ifs at hstep
      cases hstep
      exact ⟨phase_setState h.phase (fun hbusy hsaving => ⟨hC hbusy hsaving, hsaving⟩), h.paid,
        h.single⟩
  | load name dates unselectable =>
      cases hstep
      exact ⟨phase_setState h.phase (fun hbusy hsaving => ⟨hC hbusy hsaving, rfl⟩), h.paid,
        h.single⟩
  | press => exact inv_press h hC hstep
  | answer i reply => exact inv_answer h hstep
  | confirm i => exact inv_confirm h hstep
  | cancel i => exact inv_cancel h hstep

end Steps

/-- In every run in which no payment under way is disturbed, what was paid for is what is booked. -/
theorem booksWhatWasPaid_of_steady (z : Zone) (describe : DartError → String)
    (posting : Option (Managed Posting)) (s : BookPostingState) (events : List ScreenEvent)
    (h : Execution.StepsMeet (step z describe posting) (Steady z) (start s) events) :
    Execution.Always (step z describe posting) BooksWhatWasPaid (start s) events := by
  have hinv : Execution.Always (step z describe posting) (Inv z) (start s) events :=
    Execution.always_of_stepsMeet (fun scr e scr' hs hC hstep => inv_step hs hC hstep)
      (inv_start z s) h
  exact hinv.mono (fun scr hs => hs.booksWhatWasPaid)

section Cabin

def cabin : Managed Posting :=
  ⟨⟨"p1", none, none, some 100, none, none, none, none, none, some "h1", 0, 0, [], [], ∅, ∅⟩, true⟩

def cabinReplies : (op : Call) → Except DartError (Reply op)
  | .userId => .ok (some "g1")
  | .createPaymentIntent .. => .ok ⟨"pi_1", "secret"⟩
  | .createBooking _ => .ok ⟨⟨"b1", some "p1", some "g1", none, none, none⟩, true⟩
  | _ => .error .unavailable

def cabinPaid : List ScreenEvent :=
  [.updateSelectedDate (Zone.utc.date 1), .setCurrentTag "check_out",
    .updateSelectedDate (Zone.utc.date 3), .press, .answer 0 cabinReplies, .answer 0 cabinReplies]

def cabinBooked : List ScreenEvent :=
  [.confirm 0, .answer 0 cabinReplies, .answer 0 cabinReplies, .answer 0 cabinReplies]

theorem booksWhatWasPaid_of_steady_cabin : ∃ scr,
    Execution.run (step Zone.utc (fun _ => "") (some cabin)) (start (initial ⟨0, false⟩))
      (cabinPaid ++ cabinBooked) = some scr ∧
    scr.bookings.length = 1 ∧ scr.closed = true ∧ scr.BooksWhatWasPaid := by
  have hmeet : Execution.StepsMeet (step Zone.utc (fun _ => "") (some cabin)) (Steady Zone.utc)
      (start (initial ⟨0, false⟩)) (cabinPaid ++ cabinBooked) := by
    decide +kernel
  have hrun : (Execution.run (step Zone.utc (fun _ => "") (some cabin))
      (start (initial ⟨0, false⟩)) (cabinPaid ++ cabinBooked)).map
        (fun scr => (scr.bookings.length, scr.closed)) = some (1, true) := by
    decide +kernel
  obtain ⟨scr, hscr, heq⟩ := Option.map_eq_some_iff.mp hrun
  obtain ⟨hlength, hclosed⟩ := Prod.mk.inj heq
  exact ⟨scr, hscr, hlength, hclosed, (booksWhatWasPaid_of_steady Zone.utc (fun _ => "")
    (some cabin) (initial ⟨0, false⟩) (cabinPaid ++ cabinBooked) hmeet).final hscr⟩

/-- Another check-out is tapped while the sheet is open: two nights are paid for, four booked. -/
theorem tap_during_payment_books_other_dates : ∃ scr,
    Execution.run (step Zone.utc (fun _ => "") (some cabin)) (start (initial ⟨0, false⟩))
      (cabinPaid ++ .updateSelectedDate (Zone.utc.date 5) :: cabinBooked) = some scr ∧
    ¬ scr.BooksWhatWasPaid := by
  have hrun : (Execution.run (step Zone.utc (fun _ => "") (some cabin))
      (start (initial ⟨0, false⟩))
      (cabinPaid ++ .updateSelectedDate (Zone.utc.date 5) :: cabinBooked)).map
        (fun scr => scr.bookings.map (fun b => (b.paidFor, b.data.get "check_out"))) =
      some [((some (Zone.utc.date 1), some (Zone.utc.date 3)),
        .int (Zone.utc.date 5).millisecondsSinceEpoch)] := by
    decide +kernel
  obtain ⟨scr, hscr, heq⟩ := Option.map_eq_some_iff.mp hrun
  refine ⟨scr, hscr, ?_⟩
  intro ⟨hmatches, _⟩
  obtain ⟨b, bs, hb, hbooking, -⟩ := List.map_eq_cons_iff.mp heq
  obtain ⟨hpaid, hdata⟩ := Prod.mk.inj hbooking
  obtain ⟨inDate, outDate, hstay, -, hout⟩ := hmatches b (hb ▸ List.mem_cons_self)
  rw [hdata] at hout
  rw [hpaid] at hstay
  cases hstay
  exact absurd hout (by decide)

end Cabin

end BookingScreen

end AirBnbClone
