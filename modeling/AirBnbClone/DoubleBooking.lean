import AirBnbClone.CallEffects
import AirBnbClone.Execution
import AirBnbClone.LoadedBookings

/-!
# Clients who book the same posting

Any number of clients load the bookings of a posting, choose a range that is free in what they have
loaded, pay and save, in any interleaving of their calls. The set of booked days is read once, so
two bookings share a night only when one of them is written after the other was, by a client who
had loaded the bookings before.
-/

namespace AirBnbClone

open Async FireStoreService RealmService BookPostingCubit BookPostingState

/-- The booking occupies the night that begins on day `n`. -/
def Occupies (z : Zone) (D : Doc) (n : ℤ) : Prop :=
  ∃ checkIn checkOut, D.get "check_in" = .int checkIn ∧ D.get "check_out" = .int checkOut ∧
    checkIn ≤ (z.date n).millisecondsSinceEpoch ∧ (z.date n).millisecondsSinceEpoch < checkOut

def NoDoubleBooking (z : Zone) (postingId : String) (f : Firestore) : Prop :=
  ∀ k k' D D' n, f.doc FirestoreCollection.booking k = some D →
    f.doc FirestoreCollection.booking k' = some D' → D.get "posting_id" = .string postingId →
    D'.get "posting_id" = .string postingId → Occupies z D n → Occupies z D' n → k = k'

section Nights

variable {z : Zone} {D : Doc}

theorem millisecondsSinceEpoch_date_lt_iff {m n : ℤ} :
    (z.date m).millisecondsSinceEpoch < (z.date n).millisecondsSinceEpoch ↔ m < n := by
  have hmono : (z.date m).microsecondsSinceEpoch < (z.date n).microsecondsSinceEpoch ↔ m < n :=
    (DateTime.date_strictMono z).lt_iff_lt
  have hm := DateTime.millisecondsSinceEpoch_date z m
  have hn := DateTime.millisecondsSinceEpoch_date z n
  omega

theorem occupies_iff {first last n : ℤ} (h : IsStay z D first last) :
    Occupies z D n ↔ first ≤ n ∧ n < last := by
  unfold Occupies
  rw [h.1, h.2]
  constructor
  · rintro ⟨checkIn, checkOut, hin, hout, hle, hlt⟩
    cases hin
    cases hout
    refine ⟨?_, millisecondsSinceEpoch_date_lt_iff.mp hlt⟩
    rw [← not_lt] at hle ⊢
    exact fun hlt => hle (millisecondsSinceEpoch_date_lt_iff.mpr hlt)
  · rintro ⟨hle, hlt⟩
    refine ⟨_, _, rfl, rfl, ?_, millisecondsSinceEpoch_date_lt_iff.mpr hlt⟩
    rw [← not_lt] at hle ⊢
    exact fun hlt => hle (millisecondsSinceEpoch_date_lt_iff.mp hlt)

end Nights

inductive Stage
  | fresh
  | loaded
  | picked
  deriving DecidableEq

/-- A booking screen; `seen` are the bookings that were stored when it was opened. -/
structure Client where
  stage : Stage
  state : BookPostingState
  prog : CubitM Unit
  realm : Realm
  readings : ℕ
  seen : List String

def Client.isIdle (c : Client) : Bool :=
  match c.prog with
  | .done _ => true
  | _ => false

structure Market (ι : Type) where
  remote : Firestore
  clients : ι → Client

/-- The posting is the cubit's object at that moment; all but its id may change over time. -/
inductive ClientAction (ι : Type)
  | load (i : ι) (posting : Managed Posting) (name : Option String)
      (dates : Option (DartMap DateTime)) (now : DateTime)
  | pick (i : ι) (checkIn checkOut : DateTime)
  | pay (i : ι) (posting : Managed Posting)
  | save (i : ι) (posting : Managed Posting)
  | resume (i : ι)

namespace Market

variable {ι : Type} [DecidableEq ι]

def nightsSelectable (z : Zone) (s : BookPostingState) (checkIn checkOut : DateTime) : Bool :=
  (List.range (checkOut.calendarDay z - checkIn.calendarDay z).toNat).all
    (fun i => s.isDaySelectable (z.date (checkIn.calendarDay z + i)))

def choose (checkIn checkOut : DateTime) (s : BookPostingState) : BookPostingState :=
  updateSelectedDate checkOut (setCurrentTag "check_out"
    (updateSelectedDate checkIn (setCurrentTag "check_in" s)))

def device (m : Market ι) (i : ι) : Device :=
  ⟨⟨m.remote, (m.clients i).realm⟩, (m.clients i).readings⟩

def setClient (m : Market ι) (i : ι) (f : Firestore) (c : Client) : Market ι :=
  ⟨f, Function.update m.clients i c⟩

def begin (m : Market ι) (i : ι) (prog : CubitM Unit) : Market ι :=
  let c := m.clients i
  let (prog, state) := Prog.settle prog c.state
  m.setClient i m.remote { c with prog := prog, state := state }

variable (z : Zone) (ids : AutoId) (env : ι → Environment) (describe : DartError → String)
  (postingId : String)

/-- Loading awaits a single call and is one step; paying and saving are as many steps as they have
calls. -/
def step (m : Market ι) : ClientAction ι → Option (Market ι)
  | .load i posting name dates now =>
      let c := m.clients i
      if c.stage = .fresh ∧ c.isIdle ∧ posting.object.id = postingId ∧ posting.isValid then
        match Prog.exec (Device.serve z ids (env i))
          (setupInitialValues z (some posting) name dates now) c.state (m.device i) with
        | (.ok _, state, d) => some (m.setClient i d.world.remote { c with
            stage := .loaded, state := state, realm := d.world.realm, readings := d.readings,
            seen := (m.remote.docs FirestoreCollection.booking).keys })
        | (.error _, state, d) => some (m.setClient i d.world.remote { c with
            state := state, realm := d.world.realm, readings := d.readings })
      else none
  | .pick i checkIn checkOut =>
      let c := m.clients i
      if c.stage ≠ .fresh ∧ nightsSelectable z c.state checkIn checkOut then
        some (m.setClient i m.remote { c with
          stage := .picked, state := choose checkIn checkOut c.state })
      else none
  | .pay i posting =>
      let c := m.clients i
      if c.stage = .picked ∧ c.isIdle ∧ posting.object.id = postingId then
        some (m.begin i (getPaymentIntent z describe (some posting)))
      else none
  | .save i posting =>
      let c := m.clients i
      if c.stage = .picked ∧ c.isIdle ∧ posting.object.id = postingId then
        some (m.begin i (saveBooking z (some posting)))
      else none
  | .resume i =>
      let c := m.clients i
      (Prog.resume (Device.serve z ids (env i)) c.prog c.state (m.device i)).map
        (fun next => m.setClient i next.2.2.world.remote { c with
          prog := next.1, state := next.2.1, realm := next.2.2.world.realm,
          readings := next.2.2.readings })

/-- When a booking is written, it shares no night with a booking stored since the client loaded,
and clock changes do not take a night from it. -/
def Current (m : Market ι) : ClientAction ι → Prop
  | .resume i =>
      ∀ data k, (m.clients i).prog = .await (.createBooking data) k →
        (∀ id D n, m.remote.doc FirestoreCollection.booking id = some D →
          D.get "posting_id" = .string postingId → Occupies z D n → Occupies z data n →
          id ∈ (m.clients i).seen) ∧
        ∀ first last, IsStay z data first last → first < last → KeepsItsNights z first last
  | _ => True

section Invariant

/-- The chosen range is free among the days `marked`. -/
def Chosen (marked : Finset DateTime) (s : BookPostingState) : Prop :=
  s.unselectableDates = marked ∧ ∀ checkIn checkOut n, s.dates.lookup "check_in" = some checkIn →
    s.dates.lookup "check_out" = some checkOut → checkIn.calendarDay z ≤ n →
    n < checkOut.calendarDay z → z.date n ∉ marked

def BooksUnmarked (marked : Finset DateTime) (op : Call) : Prop :=
  op.collection ≠ some FirestoreCollection.booking ∨ ∃ userId first last amount,
    op = .createBooking (bookingData postingId userId (z.date first) (z.date last) amount) ∧
    ∀ n, first ≤ n → n < last → z.date n ∉ marked

structure ClientSound (f : Firestore) (c : Client) : Prop where
  stored : ∀ id ∈ c.seen, (f.doc FirestoreCollection.booking id).isSome
  marked : c.stage ≠ .fresh → ∀ id ∈ c.seen, ∀ D n,
    f.doc FirestoreCollection.booking id = some D → D.get "posting_id" = .string postingId →
    Occupies z D n → z.date n ∈ c.state.unselectableDates
  chosen : c.stage = .picked → Chosen z c.state.unselectableDates c.state
  idle : c.stage ≠ .picked → c.isIdle = true
  books : Prog.Keeps (Chosen z c.state.unselectableDates)
    (BooksUnmarked z postingId c.state.unselectableDates) c.prog

/-- Bookings are stored under their own id, those of the posting as stays. -/
structure BookingsSound (f : Firestore) : Prop where
  own : ∀ k D, f.doc FirestoreCollection.booking k = some D → OwnId k D
  stays : ∀ k D, f.doc FirestoreCollection.booking k = some D →
    D.get "posting_id" = .string postingId →
    ∃ first last, IsStay z D first last ∧ (first < last → KeepsItsNights z first last)

structure Sound (m : Market ι) : Prop where
  bookings : BookingsSound z postingId m.remote
  noDouble : NoDoubleBooking z postingId m.remote
  clients : ∀ i, ClientSound z postingId m.remote (m.clients i)

variable {z ids env describe postingId} {m m' : Market ι} {f f' : Firestore} {c c' : Client}
  {i : ι}

theorem ClientSound.mono (hext : ∀ k D, f.doc FirestoreCollection.booking k = some D →
    f'.doc FirestoreCollection.booking k = some D) (h : ClientSound z postingId f c) :
    ClientSound z postingId f' c := by
  refine ⟨?_, ?_, h.chosen, h.idle, h.books⟩
  · intro id hid
    obtain ⟨D, hD⟩ := Option.isSome_iff_exists.mp (h.stored id hid)
    rw [hext id D hD]
    rfl
  · intro hstage id hid D n hD
    obtain ⟨D₀, hD₀⟩ := Option.isSome_iff_exists.mp (h.stored id hid)
    cases (hext id D₀ hD₀).symm.trans hD
    exact h.marked hstage id hid D n hD₀

/-- A step of one client, the others staying as they are. -/
theorem Sound.setClient (h : Sound z postingId m) (hbookings : BookingsSound z postingId f)
    (hnoDouble : NoDoubleBooking z postingId f)
    (hext : ∀ k D, m.remote.doc FirestoreCollection.booking k = some D →
      f.doc FirestoreCollection.booking k = some D) (hc : ClientSound z postingId f c) :
    Sound z postingId (m.setClient i f c) := by
  refine ⟨hbookings, hnoDouble, ?_⟩
  intro j
  by_cases hj : j = i
  · subst hj
    simpa only [Market.setClient, Function.update_self] using hc
  · simpa only [Market.setClient, Function.update_of_ne hj] using (h.clients j).mono hext

theorem Sound.setClient_of_docs_eq (h : Sound z postingId m)
    (hdocs : f.docs FirestoreCollection.booking = m.remote.docs FirestoreCollection.booking)
    (hc : ClientSound z postingId m.remote c) : Sound z postingId (m.setClient i f c) := by
  have hdoc (k : String) : f.doc FirestoreCollection.booking k =
      m.remote.doc FirestoreCollection.booking k := by
    unfold Firestore.doc
    rw [hdocs]
  have hext (k : String) (D : Doc) (hD : m.remote.doc FirestoreCollection.booking k = some D) :
      f.doc FirestoreCollection.booking k = some D := (hdoc k).trans hD
  refine h.setClient ⟨?_, ?_⟩ ?_ hext (hc.mono hext)
  · intro k D hD
    exact h.bookings.own k D ((hdoc k).symm.trans hD)
  · intro k D hD
    exact h.bookings.stays k D ((hdoc k).symm.trans hD)
  · intro k k' D D' n hD hD'
    exact h.noDouble k k' D D' n ((hdoc k).symm.trans hD) ((hdoc k').symm.trans hD')

theorem keeps_of_isIdle {I : BookPostingState → Prop} {P : Call → Prop}
    (h : c.isIdle = true) : Prog.Keeps I P c.prog := by
  unfold Client.isIdle at h
  split at h
  · rename_i hprog
    rw [hprog]
    trivial
  · cases h

theorem chosen_copyWith {marked : Finset DateTime} (s : BookPostingState) (u : Update)
    (hs : Chosen z marked s) (hdates : u.dates = none) (hmarked : u.unselectableDates = none) :
    Chosen z marked (s.copyWith u) := by
  simpa only [Chosen, copyWith, hdates, hmarked, Option.getD_none] using hs

theorem getPaymentIntent_booksUnmarked (describe : DartError → String) (marked : Finset DateTime)
    (posting : Managed Posting) : Prog.Keeps (Chosen z marked) (BooksUnmarked z postingId marked)
      (getPaymentIntent z describe (some posting)) :=
  getPaymentIntent_keeps describe (.inl nofun) chosen_copyWith (fun _ _ _ _ _ _ => .inl nofun)

theorem saveBooking_booksUnmarked (marked : Finset DateTime) {posting : Managed Posting}
    (hid : posting.object.id = postingId) :
    Prog.Keeps (Chosen z marked) (BooksUnmarked z postingId marked)
      (saveBooking z (some posting)) := by
  refine saveBooking_keeps (fun op h => .inl h) chosen_copyWith ?_
  intro s price userId checkIn checkOut hs _ hin hout
  rw [hid, DateTime.dateOnly_eq_date, DateTime.dateOnly_eq_date]
  exact .inr ⟨userId, _, _, _, rfl, fun n => hs.2 checkIn checkOut n hin hout⟩

/-- A client that goes on with a program, in a state with the same marked days. -/
theorem ClientSound.goOn (h : ClientSound z postingId f c) (hstage : c.stage = .picked)
    {prog : CubitM Unit} {s : BookPostingState} (realm : Realm) (readings : ℕ)
    (hbooks : Prog.Keeps (Chosen z c.state.unselectableDates)
      (BooksUnmarked z postingId c.state.unselectableDates) prog)
    (hchosen : Chosen z c.state.unselectableDates s) : ClientSound z postingId f
      { c with prog := prog, state := s, realm := realm, readings := readings } := by
  refine ⟨h.stored, ?_, ?_, fun hne => absurd hstage hne, ?_⟩
  · rw [hchosen.1]
    exact h.marked
  · intro _
    rw [hchosen.1]
    exact hchosen
  · rw [hchosen.1]
    exact hbooks

theorem Sound.begin (h : Sound z postingId m) (hstage : (m.clients i).stage = .picked)
    {prog : CubitM Unit} (hbooks : Prog.Keeps (Chosen z (m.clients i).state.unselectableDates)
      (BooksUnmarked z postingId (m.clients i).state.unselectableDates) prog) :
    Sound z postingId (m.begin i prog) := by
  have hclient := h.clients i
  obtain ⟨hkeeps, hchosen⟩ := hbooks.settle (hclient.chosen hstage)
  exact h.setClient_of_docs_eq rfl (hclient.goOn hstage _ _ hkeeps hchosen)

theorem not_mem_of_nightsSelectable {s : BookPostingState} {checkIn checkOut : DateTime}
    (h : nightsSelectable z s checkIn checkOut = true) {n : ℤ} (hle : checkIn.calendarDay z ≤ n)
    (hlt : n < checkOut.calendarDay z) : z.date n ∉ s.unselectableDates := by
  have hnight := List.all_eq_true.mp h (n - checkIn.calendarDay z).toNat
    (List.mem_range.mpr (by omega))
  have hn : checkIn.calendarDay z + ((n - checkIn.calendarDay z).toNat : ℤ) = n := by omega
  rw [hn] at hnight
  exact of_decide_eq_true hnight

theorem Sound.pick (h : Sound z postingId m) {checkIn checkOut : DateTime}
    (hstage : (m.clients i).stage ≠ .fresh)
    (hnights : nightsSelectable z (m.clients i).state checkIn checkOut = true) :
    Sound z postingId (m.setClient i m.remote { m.clients i with
      stage := .picked, state := choose checkIn checkOut (m.clients i).state }) := by
  have hclient := h.clients i
  refine h.setClient_of_docs_eq rfl
    ⟨hclient.stored, fun _ => hclient.marked hstage, ?_, fun hne => absurd rfl hne, hclient.books⟩
  refine fun _ => ⟨rfl, ?_⟩
  intro checkIn' checkOut' n hin hout hle hlt
  have hin' : some checkIn = some checkIn' := by
    refine Eq.trans ?_ hin
    change _ = (((m.clients i).state.dates.insert "check_in" checkIn).insert "check_out"
      checkOut).lookup "check_in"
    rw [FiniteMap.lookup_insert_eq_ite, FiniteMap.lookup_insert_eq_ite]
    rfl
  have hout' : some checkOut = some checkOut' := by
    refine Eq.trans ?_ hout
    change _ = (((m.clients i).state.dates.insert "check_in" checkIn).insert "check_out"
      checkOut).lookup "check_out"
    rw [FiniteMap.lookup_insert_eq_ite]
    rfl
  cases hin'
  cases hout'
  exact not_mem_of_nightsSelectable hnights hle hlt

theorem exec_setupInitialValues (ids : AutoId) (env : Environment) {posting : Managed Posting}
    (hvalid : posting.isValid = true) (name : Option String) (dates : Option (DartMap DateTime))
    (now : DateTime) (s : BookPostingState) (d : Device) :
    Prog.exec (Device.serve z ids env) (setupInitialValues z (some posting) name dates now) s d =
      match BookingRepository.getBookingsForPosting z posting.object.id none d.world with
      | (.ok bookings, w) => (.ok (), loaded name (initialDates dates now)
          (unselectableDates z (bookings.map Device.valid)) s, { d with world := w })
      | (.error e, w) => (.error e, s, { d with world := w }) := by
  simp only [setupInitialValues, getUnselectableDates, if_pos hvalid, Prog.exec_bind,
    Prog.exec_call, Device.serve, Device.answer]
  rcases BookingRepository.getBookingsForPosting z posting.object.id none d.world with
    ⟨_ | bookings, w⟩
  · rfl
  · rfl

theorem getBookingsForPosting_remote (id : String) (w : World) :
    (BookingRepository.getBookingsForPosting z id none w).2.remote = w.remote := by
  rw [getBookingsForPosting_world]
  rfl

/-- A client that has just loaded has every night of the stored bookings marked. -/
theorem ClientSound.load (hidle : c.isIdle = true) {bookings : List Booking} {w w' : World}
    (hbookings : BookingsSound z postingId w.remote)
    (hload : BookingRepository.getBookingsForPosting z postingId none w = (.ok bookings, w'))
    (name : Option String) (dates : DartMap DateTime) (realm : Realm) (readings : ℕ) :
    ClientSound z postingId w.remote { c with
      stage := .loaded
      state := loaded name dates (unselectableDates z (bookings.map Device.valid)) c.state
      realm := realm
      readings := readings
      seen := (w.remote.docs FirestoreCollection.booking).keys } := by
  refine ⟨?_, ?_, nofun, fun _ => hidle, keeps_of_isIdle (c := c) hidle⟩
  · intro id hid
    exact AList.lookup_isSome.mpr (AList.mem_keys.mp hid)
  · intro _ id _ D n hD hposting hn
    obtain ⟨first, last, hstay, hkeeps⟩ := hbookings.stays id D hD hposting
    obtain ⟨hfirst, hlast⟩ := (occupies_iff hstay).mp hn
    exact night_mem_unselectableDates hbookings.own hload hD hposting hstay
      (hkeeps (hfirst.trans_lt hlast)) hfirst hlast

omit [DecidableEq ι] in
/-- A booking for unmarked nights, written while no unseen booking shares one of them. -/
theorem Sound.createBooking (h : Sound z postingId m) {id userId : String} {first last : ℤ}
    {amount : ℚ} (hid : id ∉ m.remote.docs FirestoreCollection.booking) (hne : id ≠ "")
    (hf : f.docs FirestoreCollection.booking = (m.remote.docs FirestoreCollection.booking).insert id
      ((bookingData postingId userId (z.date first) (z.date last) amount).insert "id" (.string id)))
    (hunmarked : ∀ n, first ≤ n → n < last → z.date n ∉ (m.clients i).state.unselectableDates)
    (hpicked : (m.clients i).stage = .picked)
    (hseen : ∀ id D n, m.remote.doc FirestoreCollection.booking id = some D →
      D.get "posting_id" = .string postingId → Occupies z D n → first ≤ n → n < last →
      id ∈ (m.clients i).seen)
    (hkeeps : first < last → KeepsItsNights z first last) :
    BookingsSound z postingId f ∧ NoDoubleBooking z postingId f ∧
      ∀ k D, m.remote.doc FirestoreCollection.booking k = some D →
        f.doc FirestoreCollection.booking k = some D := by
  set data := (bookingData postingId userId (z.date first) (z.date last) amount).insert "id"
    (.string id)
  have hdoc (k : String) : f.doc FirestoreCollection.booking k =
      if k = id then some data else m.remote.doc FirestoreCollection.booking k := by
    unfold Firestore.doc
    rw [hf, FiniteMap.lookup_insert_eq_ite]
  have hfresh : m.remote.doc FirestoreCollection.booking id = none := AList.lookup_eq_none.mpr hid
  have hstay : IsStay z data first last := ⟨rfl, rfl⟩
  have hold (k : String) (D : Doc) (n : ℤ)
      (hD : m.remote.doc FirestoreCollection.booking k = some D)
      (hposting : D.get "posting_id" = .string postingId) (hn : Occupies z D n) :
      ¬ Occupies z data n := by
    intro hn'
    obtain ⟨hfirst, hlast⟩ := (occupies_iff hstay).mp hn'
    apply hunmarked n hfirst hlast
    exact (h.clients i).marked (by rw [hpicked]; decide) k (hseen k D n hD hposting hn hfirst hlast)
      D n hD hposting hn
  refine ⟨⟨?_, ?_⟩, ?_, ?_⟩
  · intro k D hD
    rw [hdoc] at hD
    split_ifs at hD with hk
    · cases hD
      exact ⟨hk ▸ hne, .inr (hk ▸ rfl)⟩
    · exact h.bookings.own k D hD
  · intro k D hD hposting
    rw [hdoc] at hD
    split_ifs at hD with hk
    · cases hD
      exact ⟨first, last, hstay, hkeeps⟩
    · exact h.bookings.stays k D hD hposting
  · intro k k' D D' n hD hD' hposting hposting' hn hn'
    rw [hdoc] at hD hD'
    split_ifs at hD hD' with hk hk' hk'
    · exact hk.trans hk'.symm
    · cases hD
      exact absurd hn (hold k' D' n hD' hposting' hn')
    · cases hD'
      exact absurd hn' (hold k D n hD hposting hn)
    · exact h.noDouble k k' D D' n hD hD' hposting hposting' hn hn'
  · intro k D hD
    rw [hdoc, if_neg, hD]
    rintro rfl
    rw [hfresh] at hD
    cases hD

theorem Sound.resume (h : Sound z postingId m)
    (hcurrent : Current z postingId m (.resume i))
    (hstep : step z ids env describe postingId m (.resume i) = some m') :
    Sound z postingId m' := by
  have hclient := h.clients i
  obtain ⟨next, hresume, rfl⟩ := Option.map_eq_some_iff.mp hstep
  generalize hprog : (m.clients i).prog = prog at hresume
  cases prog with
  | done r => cases hresume
  | read k => cases hresume
  | emit s k => cases hresume
  | await op k =>
      have hpicked : (m.clients i).stage = .picked := by
        by_contra hne
        have hidle := hclient.idle hne
        simp only [Client.isIdle, hprog] at hidle
        cases hidle
      have hbooks := hclient.books
      rw [hprog] at hbooks
      obtain ⟨hkeeps, hchosen⟩ := (hbooks.2
        (Device.serve z ids (env i) op (m.device i)).1).settle (hclient.chosen hpicked)
      cases hresume
      have hstores : Device.StoresAtMostOne op m.remote
          (Device.serve z ids (env i) op (m.device i)).2.world.remote :=
        Device.serve_storesAtMostOne op (m.device i)
      -- once the call is known, unification would evaluate its answer
      generalize hserve : Device.serve z ids (env i) op (m.device i) = answer
        at hkeeps hchosen hstores ⊢
      rcases hbooks.1 with hother | ⟨userId, first, last, amount, rfl, hunmarked⟩
      · exact h.setClient_of_docs_eq (hstores.docs_eq hother)
          (hclient.goOn hpicked _ _ hkeeps hchosen)
      · obtain ⟨hseen, hnights⟩ := hcurrent _ _ hprog
        have hstay : IsStay z (bookingData postingId userId (z.date first) (z.date last) amount)
          first last := ⟨rfl, rfl⟩
        have hdocs := congrArg (fun f => f.docs FirestoreCollection.booking)
          (Device.serve_createBooking_remote (d := m.device i) z ids (env i)
            (bookingData postingId userId (z.date first) (z.date last) amount))
        dsimp only [Firestore.set] at hdocs
        rw [hserve, Firestore.docs_putDoc_self] at hdocs
        obtain ⟨hbookings, hnoDouble, hext⟩ := h.createBooking (i := i)
          (ids.fresh (m.remote.docs FirestoreCollection.booking).keys) (ids.nonempty _) hdocs
          hunmarked hpicked
          (fun id D n hD hposting hn hfirst hlast =>
            hseen id D n hD hposting hn ((occupies_iff hstay).mpr ⟨hfirst, hlast⟩))
          (hnights first last hstay)
        exact h.setClient hbookings hnoDouble hext
          ((hclient.mono hext).goOn hpicked _ _ hkeeps hchosen)

theorem Sound.step {a : ClientAction ι} (h : Sound z postingId m)
    (hcurrent : Current z postingId m a)
    (hstep : Market.step z ids env describe postingId m a = some m') : Sound z postingId m' := by
  cases a with
  | load i posting name dates now =>
      simp only [Market.step] at hstep
      split_ifs at hstep with hguard
      obtain ⟨-, hidle, hid, hvalid⟩ := hguard
      rw [exec_setupInitialValues ids (env i) hvalid, hid] at hstep
      have hremote := getBookingsForPosting_remote (z := z) postingId (m.device i).world
      generalize hload : BookingRepository.getBookingsForPosting z postingId none
        (m.device i).world = reply at hstep hremote
      obtain ⟨result, w⟩ := reply
      have hdocs : w.remote.docs FirestoreCollection.booking =
          m.remote.docs FirestoreCollection.booking :=
        congrArg (fun f : Firestore => f.docs FirestoreCollection.booking) hremote
      cases result with
      | error e =>
          cases hstep
          have hclient := h.clients i
          exact h.setClient_of_docs_eq hdocs
            ⟨hclient.stored, hclient.marked, hclient.chosen, hclient.idle, hclient.books⟩
      | ok bookings =>
          cases hstep
          exact h.setClient_of_docs_eq hdocs
            (ClientSound.load hidle h.bookings hload name _ w.realm _)
  | pick i checkIn checkOut =>
      simp only [Market.step] at hstep
      split_ifs at hstep with hguard
      cases hstep
      exact h.pick hguard.1 hguard.2
  | pay i posting =>
      simp only [Market.step] at hstep
      split_ifs at hstep with hguard
      cases hstep
      exact h.begin hguard.1 (getPaymentIntent_booksUnmarked describe _ posting)
  | save i posting =>
      simp only [Market.step] at hstep
      split_ifs at hstep with hguard
      cases hstep
      exact h.begin hguard.1 (saveBooking_booksUnmarked _ hguard.2.2)
  | resume i => exact h.resume hcurrent hstep

end Invariant

def opened (f : Firestore) (state : ι → BookPostingState) (realm : ι → Realm) : Market ι :=
  ⟨f, fun i => ⟨.fresh, state i, pure (), realm i, 0, []⟩⟩

/-- As long as no booking is written for a night that was booked after its client had loaded the
bookings, no two bookings of the posting share a night. -/
theorem noDoubleBooking_of_current (z : Zone) (ids : AutoId) (env : ι → Environment)
    (describe : DartError → String) (postingId : String) (f : Firestore)
    (state : ι → BookPostingState) (realm : ι → Realm) (hbookings : BookingsSound z postingId f)
    (hnoDouble : NoDoubleBooking z postingId f) (actions : List (ClientAction ι))
    (hcurrent : Execution.StepsMeet (step z ids env describe postingId) (Current z postingId)
      (opened f state realm) actions) :
    Execution.Always (step z ids env describe postingId)
      (fun m => NoDoubleBooking z postingId m.remote) (opened f state realm) actions := by
  have hsound : Sound z postingId (opened f state realm) :=
    ⟨hbookings, hnoDouble, fun _ => ⟨nofun, nofun, nofun, fun _ => rfl, trivial⟩⟩
  refine (Execution.always_of_stepsMeet ?_ hsound hcurrent).mono (fun _ h => h.noDouble)
  intro m a m' h hc hs
  exact h.step hc hs

section TwoGuests

def lake (price : ℚ) : Managed Posting :=
  ⟨⟨"p1", some "Lake house", none, some price, none, none, none, none, none, some "h1", 0, 0, [],
    [], ∅, ∅⟩, true⟩

def guests (i : Bool) : Environment :=
  ⟨some (if i then "g1" else "g2"), fun _ _ _ => .ok ⟨"pi_1", "secret_1"⟩, fun _ => .utc 0⟩

def start : Market Bool :=
  opened Firestore.empty (fun _ => initial (.utc 0)) (fun _ => Realm.empty)

def payAndSave (i : Bool) (first last : ℤ) : List (ClientAction Bool) :=
  [.pick i (Zone.utc.date first) (Zone.utc.date last), .pay i (lake 50), .resume i, .resume i,
    .save i (lake 50), .resume i, .resume i]

def load (i : Bool) : ClientAction Bool := .load i (lake 50) none none (.utc 0)

/-- The night of day 10 may be booked when only that of day 8 has been. -/
theorem current_of_apart {m : Market Bool} {D : Doc} {userId : String} {amount : ℚ}
    {k : Except DartError (Reply (.createBooking _)) → CubitM Unit}
    (hdocs : (m.remote.docs FirestoreCollection.booking).entries = [⟨"x", D⟩])
    (hstay : IsStay Zone.utc D 8 9)
    (hprog : (m.clients false).prog = .await (.createBooking
      (bookingData "p1" userId (Zone.utc.date 10) (Zone.utc.date 11) amount)) k) :
    Current Zone.utc "p1" m (.resume false) := by
  intro data k' hcall
  cases hprog.symm.trans hcall
  refine ⟨?_, fun first last _ _ => keepsItsNights_fixed 0 _ first last⟩
  intro id D' n hD' _ hn hn'
  have hmem : (⟨id, D'⟩ : Sigma fun _ : String => Doc) ∈
      (m.remote.docs FirestoreCollection.booking).entries := AList.mem_lookup_iff.mp hD'
  rw [hdocs] at hmem
  cases List.mem_singleton.mp hmem
  have hother : IsStay Zone.utc (bookingData "p1" userId (Zone.utc.date 10) (Zone.utc.date 11)
    amount) 10 11 := ⟨rfl, rfl⟩
  have hbefore := ((occupies_iff hstay).mp hn).2
  have hafter := ((occupies_iff hother).mp hn').1
  omega

/-- Both guests load before either has booked, and take different nights. -/
theorem noDoubleBooking_of_current_apart :
    Execution.Always (step Zone.utc AutoId.longer guests (fun _ => "") "p1")
      (fun m => NoDoubleBooking Zone.utc "p1" m.remote) start
      (load true :: load false :: payAndSave true 8 9 ++ payAndSave false 10 11) := by
  refine noDoubleBooking_of_current Zone.utc AutoId.longer guests (fun _ => "") "p1"
    Firestore.empty _ _ ⟨nofun, nofun⟩ nofun _ ?_
  refine Execution.stepsMeet_cons trivial rfl (Execution.stepsMeet_cons trivial rfl
    (Execution.stepsMeet_cons trivial rfl (Execution.stepsMeet_cons trivial rfl
    (Execution.stepsMeet_cons nofun rfl (Execution.stepsMeet_cons nofun rfl
    (Execution.stepsMeet_cons trivial rfl (Execution.stepsMeet_cons nofun rfl ?_)))))))
  refine Execution.stepsMeet_cons (fun _ _ _ => ⟨nofun, fun first last _ _ =>
    keepsItsNights_fixed 0 _ first last⟩) rfl ?_
  refine Execution.stepsMeet_cons trivial rfl (Execution.stepsMeet_cons trivial rfl
    (Execution.stepsMeet_cons nofun rfl (Execution.stepsMeet_cons nofun rfl
    (Execution.stepsMeet_cons trivial rfl (Execution.stepsMeet_cons nofun rfl ?_)))))
  exact Execution.stepsMeet_cons (current_of_apart rfl ⟨rfl, rfl⟩ rfl) rfl trivial

/-- Both guests load before either has booked, and both get the night of day 8. -/
theorem night_booked_by_both : ∃ m,
    Execution.run (step Zone.utc AutoId.longer guests (fun _ => "") "p1") start
        (load true :: load false :: payAndSave true 8 9 ++ payAndSave false 8 9) = some m ∧
      (m.remote.docs FirestoreCollection.booking).keys = ["xx", "x"] ∧
      ¬ NoDoubleBooking Zone.utc "p1" m.remote := by
  refine ⟨_, rfl, rfl, ?_⟩
  intro h
  have hnight := h "x" "xx" _ _ 8 rfl rfl rfl rfl ⟨_, _, rfl, rfl, by decide, by decide⟩
    ⟨_, _, rfl, rfl, by decide, by decide⟩
  exact absurd hnight (by decide)

end TwoGuests

end Market

end AirBnbClone
