import AirBnbClone.BookingRequest
import AirBnbClone.CallEffects
import AirBnbClone.Execution

/-!
# Host earnings over successive bookings

A booking reads the earning of the guest and writes the sum to the host. The ledger below replays
any sequence of successful `saveBooking` runs, each on a device of its own, and keeps the bookings
they create; earnings are the sums of these bookings exactly as long as guest and host have the
same earning whenever a booking is saved.
-/

namespace AirBnbClone

open Async FirestoreMapper FireStoreService RealmService BookPostingCubit

section Earnings

/-- A stored number; anything else counts as nothing. -/
def amount : Value → ℚ
  | .int n => n
  | .double q => q
  | _ => 0

def storedEarning (f : Firestore) (userId : String) : ℚ :=
  match f.doc FirestoreCollection.user userId with
  | some D => amount (D.get "earning")
  | none => 0

/-- Users are stored under their own, non-empty id. -/
def UsersKeyed (f : Firestore) : Prop :=
  ∀ k D, f.doc FirestoreCollection.user k = some D →
    k ≠ "" ∧ (D.get "id" = .null ∨ D.get "id" = .string k)

def earningData (earning : ℚ) : Doc := DartMap.ofList [("earning", .double earning)]

variable {f f' : Firestore} {hostId : String} {D : Doc} {entry : FirestoreWrite}

theorem storedEarning_putDoc (q : ℚ) (k : String) :
    storedEarning (f.putDoc FirestoreCollection.user hostId (earningData q ∪ D) entry) k =
      if k = hostId then q else storedEarning f k := by
  unfold storedEarning
  rw [Firestore.doc_putDoc]
  by_cases hk : k = hostId
  · rw [if_pos ⟨rfl, hk⟩, if_pos hk]
    dsimp only
    rw [earningData, get_earning_union, if_pos rfl]
    rfl
  · rw [if_neg (fun h => hk h.2), if_neg hk]

theorem storedEarning_congr
    (h : f'.docs FirestoreCollection.user = f.docs FirestoreCollection.user) (k : String) :
    storedEarning f' k = storedEarning f k := by
  unfold storedEarning Firestore.doc
  rw [h]

theorem UsersKeyed.congr (h : f'.docs FirestoreCollection.user = f.docs FirestoreCollection.user)
    (hf : UsersKeyed f) : UsersKeyed f' := by
  intro k D hD
  unfold Firestore.doc at hD
  rw [h] at hD
  exact hf k D hD

theorem UsersKeyed.putDoc (hf : UsersKeyed f)
    (hD : f.doc FirestoreCollection.user hostId = some D) (q : ℚ) :
    UsersKeyed (f.putDoc FirestoreCollection.user hostId (earningData q ∪ D) entry) := by
  intro k D' hD'
  rw [Firestore.doc_putDoc] at hD'
  split_ifs at hD' with hk
  · cases hD'
    obtain ⟨-, rfl⟩ := hk
    rw [earningData, get_earning_union, if_neg (by decide)]
    exact hf k D hD
  · exact hf k D' hD'

/-- A decoded user has the earning that is stored. -/
theorem earning_of_fromMap_ok {z : Zone} {x : User} (h : fromMap z .user D = .ok x) :
    Cast.double? (D.get "earning") = .ok x.earning :=
  ExceptTraverse.map_injective (fun _ _ => Property.number?.inj)
    (Option.some.inj (getElem?_of_fromMap_ok h 11))

theorem amount_of_double? {v : Value} {q : Option ℚ} (h : Cast.double? v = .ok q) :
    amount v = q.getD 0 := by
  unfold Cast.double? at h
  split at h
  · cases h
    rfl
  · cases h
    rfl
  · cases h

/-- `getUser` returns what the remote database holds, whatever the device held before. -/
theorem earning_of_getUser {z : Zone} {id : String} {w : World} {u : User}
    (hkeyed : UsersKeyed w.remote) (h : (UserRepository.getUser z id w).1 = .ok u) :
    u.earning.getD 0 = storedEarning w.remote id := by
  obtain ⟨D, x, hD, hx, hrow, -⟩ := getUser_eq_ok h
  obtain ⟨hne, hid⟩ := hkeyed id D hD
  have hxid : x.id = id := id_of_fromDocumentSnapshot_ok hid hx
  rw [getEntity_createUnawaited_self (by rw [← hxid] at hne; exact hne), if_pos hxid.symm] at hrow
  cases hrow
  have hearning := earning_of_fromMap_ok hx
  rw [withSnapshotId_get_of_ne (by decide)] at hearning
  unfold storedEarning
  rw [hD]
  exact (amount_of_double? hearning).symm

end Earnings

section Effects

variable {z : Zone} {ids : AutoId} {env : Environment} {d d' : Device} {s s' : BookPostingState}
  {id : String}

theorem earning_of_serve_getUser {u : Managed User} (hkeyed : UsersKeyed d.world.remote)
    (h : (Device.serve z ids env (.getUser id) d).1 = .ok u) :
    u.isValid = true ∧ u.object.earning.getD 0 = storedEarning d.world.remote id := by
  obtain ⟨u', hu, rfl⟩ := (ExceptTraverse.map_eq_ok_iff _ _ _).mp h
  exact ⟨rfl, earning_of_getUser hkeyed hu⟩

theorem isSome_of_serve_getUser {u : Managed User}
    (h : (Device.serve z ids env (.getUser id) d).1 = .ok u) :
    (d.world.remote.doc FirestoreCollection.user id).isSome := by
  obtain ⟨u', hu, -⟩ := (ExceptTraverse.map_eq_ok_iff _ _ _).mp h
  obtain ⟨D, x, hD, -⟩ := getUser_eq_ok hu
  exact Option.isSome_iff_exists.mpr ⟨D, hD⟩

/-- A successful run stores the booking and gives the host the guest's earning plus the amount. -/
theorem createBookingAndUpdateHostEarning_ok {postingId userId hostId : String}
    {inDate outDate : DateTime} {paymentAmount : ℚ} (hkeyed : UsersKeyed d.world.remote)
    (h : Prog.exec (Device.serve z ids env) (createBookingAndUpdateHostEarning postingId userId
      hostId inDate outDate paymentAmount) s d = (.ok (), s', d')) :
    ∃ id D, id ∉ d.world.remote.docs FirestoreCollection.booking ∧
      d.world.remote.doc FirestoreCollection.user hostId = some D ∧
      d'.world.remote = (d.world.remote.set FirestoreCollection.booking id
        ((bookingData postingId userId inDate outDate paymentAmount).insert "id"
          (.string id))).putDoc FirestoreCollection.user hostId
        (earningData (storedEarning d.world.remote userId + paymentAmount) ∪ D)
        (.update FirestoreCollection.user hostId) := by
  unfold createBookingAndUpdateHostEarning at h
  obtain ⟨b, -, h⟩ := Prog.exec_call_bind_eq_ok h
  obtain ⟨u, hu, h⟩ := Prog.exec_call_bind_eq_ok h
  have hremote := Device.serve_createBooking_remote (d := d) z ids env
    (bookingData postingId userId inDate outDate paymentAmount)
  set d₁ := (Device.serve z ids env
    (.createBooking (bookingData postingId userId inDate outDate paymentAmount)) d).2
  have hdocs : d₁.world.remote.docs FirestoreCollection.user =
      d.world.remote.docs FirestoreCollection.user := by
    rw [hremote]
    exact Firestore.docs_putDoc_of_ne _ _ _ _ (by decide)
  obtain ⟨hvalid, hearning⟩ := earning_of_serve_getUser (hkeyed.congr hdocs) hu
  rw [storedEarning_congr hdocs] at hearning
  rw [if_pos hvalid, hearning] at h
  obtain ⟨u', hu', h⟩ := Prog.exec_call_bind_eq_ok h
  obtain ⟨D, hD, hupdate⟩ := Device.serve_updateUser_remote hu'
  rw [Device.serve_getUser_remote] at hD hupdate
  cases h
  refine ⟨_, D, ids.fresh (d.world.remote.docs FirestoreCollection.booking).keys, ?_, ?_⟩
  · unfold Firestore.doc at hD ⊢
    rw [← hdocs]
    exact hD
  · rw [hupdate, hremote]
    rfl

/-- The second helper leaves bookings and users alone. -/
theorem docs_ensureConversationAndSendMessage (z : Zone) (ids : AutoId) (env : Environment)
    (r : BookingRequest) (s : BookPostingState) (d : Device) {c : String}
    (hc : c = FirestoreCollection.booking ∨ c = FirestoreCollection.user) :
    (Prog.exec (Device.serve z ids env) (ensureConversationAndSendMessage z r.userId r.hostId
      r.postingName r.inDate r.outDate) s d).2.2.world.remote.docs c = d.world.remote.docs c := by
  have hkeeps : Prog.Keeps (fun _ => True) (fun op => op.collection ≠ some c)
      (ensureConversationAndSendMessage z r.userId r.hostId r.postingName r.inDate r.outDate) := by
    refine ensureConversationAndSendMessage_keeps ?_ _ _ _ _ _
    intro op hbooking huser
    rcases hc with rfl | rfl
    · exact hbooking
    · exact huser
  refine hkeeps.exec_rel (R := fun d d' : Device =>
    d'.world.remote.docs c = d.world.remote.docs c) (fun _ => rfl)
    (fun _ _ _ h h' => h'.trans h) ?_ trivial d
  intro op d hop
  exact (Device.serve_storesAtMostOne op d).docs_eq hop

/-- What a successful `try` block leaves of bookings and users. -/
theorem attempt_ok {r : BookingRequest} (hkeyed : UsersKeyed d.world.remote)
    (h : Prog.exec (Device.serve z ids env) (r.attempt z) s d = (.ok (), s', d')) :
    ∃ id D, id ∉ d.world.remote.docs FirestoreCollection.booking ∧
      d.world.remote.doc FirestoreCollection.user r.hostId = some D ∧
      d'.world.remote.docs FirestoreCollection.booking =
        (d.world.remote.docs FirestoreCollection.booking).insert id ((bookingData r.postingId
          r.userId r.inDate r.outDate r.paymentAmount).insert "id" (.string id)) ∧
      d'.world.remote.docs FirestoreCollection.user =
        (d.world.remote.putDoc FirestoreCollection.user r.hostId
          (earningData (storedEarning d.world.remote r.userId + r.paymentAmount) ∪ D)
          (.update FirestoreCollection.user r.hostId)).docs FirestoreCollection.user := by
  rw [BookingRequest.attempt, Prog.exec_bind] at h
  split at h
  swap
  · cases h
  rename_i s₁ d₁ hfirst
  obtain ⟨id, D, hid, hD, hremote⟩ := createBookingAndUpdateHostEarning_ok hkeyed hfirst
  have hdocs (c : String) (hc : c = FirestoreCollection.booking ∨ c = FirestoreCollection.user) :
      d'.world.remote.docs c = d₁.world.remote.docs c := by
    have hrest := docs_ensureConversationAndSendMessage z ids env r s₁ d₁ hc
    rwa [h] at hrest
  refine ⟨id, D, hid, hD, ?_, ?_⟩
  · rw [hdocs _ (.inl rfl), hremote, Firestore.docs_putDoc_of_ne _ _ _ _ (by decide)]
    exact Firestore.docs_putDoc_self _ _ _ _ _
  · rw [hdocs _ (.inr rfl), hremote]
    rfl

end Effects

structure Session where
  zone : Zone
  env : Environment
  realm : Realm
  readings : ℕ
  posting : Option (Managed Posting)
  state : BookPostingState

/-- The remote database and, with the host of its posting, every booking created so far. -/
structure Ledger where
  remote : Firestore
  created : List (String × Doc)

namespace Ledger

def newBookings (f f' : Firestore) : List Doc :=
  ((f'.docs FirestoreCollection.booking).entries.filter
    (fun e => decide (e.1 ∉ f.docs FirestoreCollection.booking))).map Sigma.snd

def request (x : Session) : Option BookingRequest :=
  BookingRequest.ofInputs x.zone x.posting x.env.userId x.state

def saveBookingBy (ids : AutoId) (f : Firestore) (x : Session) :
    Except DartError Unit × BookPostingState × Device :=
  Prog.exec (Device.serve x.zone ids x.env) (saveBooking x.zone x.posting) x.state
    ⟨⟨f, x.realm⟩, x.readings⟩

/-- A successful run of `saveBooking`: its guards pass and it shows no error. -/
def step (ids : AutoId) (l : Ledger) (x : Session) : Option Ledger :=
  match request x with
  | none => none
  | some r =>
      let run := saveBookingBy ids l.remote x
      if run.2.1.errorMessage.isSome then none
      else some ⟨run.2.2.world.remote, l.created ++
        (newBookings l.remote run.2.2.world.remote).map (fun b => (r.hostId, b))⟩

def total (created : List (String × Doc)) (hostId : String) : ℚ :=
  ((created.filter (fun b => b.1 = hostId)).map (fun b => amount (b.2.get "payment_amount"))).sum

/-- Every earning is the one in `f` plus the amounts of the bookings for the user's postings. -/
def Balanced (f : Firestore) (l : Ledger) : Prop :=
  ∀ h, storedEarning l.remote h = storedEarning f h + total l.created h

def Matched (l : Ledger) (x : Session) : Prop :=
  ∀ r, request x = some r → storedEarning l.remote r.userId = storedEarning l.remote r.hostId

variable {ids : AutoId} {l l' : Ledger} {x : Session} {f : Firestore}

theorem newBookings_insert {f f' : Firestore} {id : String} {data : Doc}
    (hid : id ∉ f.docs FirestoreCollection.booking)
    (h : f'.docs FirestoreCollection.booking =
      (f.docs FirestoreCollection.booking).insert id data) : newBookings f f' = [data] := by
  unfold newBookings
  rw [h, AList.entries_insert_of_notMem hid, List.filter_cons, if_pos (decide_eq_true hid)]
  have hold : (f.docs FirestoreCollection.booking).entries.filter
      (fun e => decide (e.1 ∉ f.docs FirestoreCollection.booking)) = [] := by
    rw [List.filter_eq_nil_iff]
    intro e he
    have hmem : e.1 ∈ f.docs FirestoreCollection.booking := List.mem_keys_of_mem he
    simpa using hmem
  rw [hold]
  rfl

theorem step_eq_some (hkeyed : UsersKeyed l.remote) (h : step ids l x = some l') :
    ∃ r b D, request x = some r ∧ amount (Doc.get b "payment_amount") = r.paymentAmount ∧
      l'.created = l.created ++ [(r.hostId, b)] ∧
      l.remote.doc FirestoreCollection.user r.hostId = some D ∧
      l'.remote.docs FirestoreCollection.user = (l.remote.putDoc FirestoreCollection.user r.hostId
        (earningData (storedEarning l.remote r.userId + r.paymentAmount) ∪ D)
        (.update FirestoreCollection.user r.hostId)).docs FirestoreCollection.user := by
  unfold step at h
  cases hr : request x with
  | none =>
      rw [hr] at h
      cases h
  | some r =>
      rw [hr] at h
      dsimp only at h
      obtain ⟨run, hrun⟩ : ∃ run, run = Prog.exec (Device.serve x.zone ids x.env)
        (r.attempt x.zone) (saving x.state) ⟨⟨l.remote, x.realm⟩, x.readings⟩ := ⟨_, rfl⟩
      have hsave : saveBookingBy ids l.remote x = (.ok (), finished x.state run.1, run.2.2) := by
        rw [hrun]
        exact exec_saveBooking_of_request rfl hr
      rw [hsave] at h
      obtain ⟨result, s', d'⟩ := run
      cases result with
      | error e => cases h
      | ok u =>
          obtain ⟨id, D, hid, hD, hbooking, huser⟩ := attempt_ok hkeyed hrun.symm
          change some (⟨d'.world.remote, l.created ++ (newBookings l.remote d'.world.remote).map
            (fun b => (r.hostId, b))⟩ : Ledger) = some l' at h
          rw [newBookings_insert hid hbooking] at h
          cases h
          exact ⟨r, _, D, rfl, rfl, rfl, hD, huser⟩

/-- A booking keeps the balance exactly when guest and host have earned the same. -/
theorem balanced_step_iff (hkeyed : UsersKeyed l.remote) (hl : Balanced f l)
    (h : step ids l x = some l') : Balanced f l' ↔ Matched l x := by
  obtain ⟨r, b, D, hr, hb, hcreated, hD, hdocs⟩ := step_eq_some hkeyed h
  have hearning (k : String) : storedEarning l'.remote k =
      if k = r.hostId then storedEarning l.remote r.userId + r.paymentAmount
      else storedEarning l.remote k := by
    rw [storedEarning_congr hdocs, storedEarning_putDoc]
  have htotal (k : String) : total l'.created k =
      total l.created k + if k = r.hostId then r.paymentAmount else 0 := by
    unfold total
    rw [hcreated, List.filter_append, List.map_append, List.sum_append, List.filter_singleton]
    by_cases hk : k = r.hostId
    · subst hk
      simp [hb]
    · simp [hk, Ne.symm hk]
  constructor
  · intro hl' r' hr'
    cases hr.symm.trans hr'
    have hhost := hl' r.hostId
    rw [hearning, if_pos rfl, htotal, if_pos rfl, ← add_assoc, ← hl] at hhost
    exact add_right_cancel hhost
  · intro hmatched k
    rw [hearning, htotal]
    split_ifs with hk
    · rw [hmatched r hr, hk, ← add_assoc, ← hl]
    · rw [add_zero, ← hl]

theorem usersKeyed_step (hkeyed : UsersKeyed l.remote) (h : step ids l x = some l') :
    UsersKeyed l'.remote := by
  obtain ⟨r, b, D, -, -, -, hD, hdocs⟩ := step_eq_some hkeyed h
  exact UsersKeyed.congr hdocs (hkeyed.putDoc hD _)

/-- Along successive successful bookings, earnings are the sums of the bookings exactly when guest
and host have earned the same each time. -/
theorem balanced_iff_matched (ids : AutoId) (f : Firestore) (hkeyed : UsersKeyed f)
    (sessions : List Session) {l : Ledger}
    (hrun : Execution.run (step ids) ⟨f, []⟩ sessions = some l) :
    Execution.Always (step ids) (Balanced f) ⟨f, []⟩ sessions ↔
      Execution.StepsMeet (step ids) Matched ⟨f, []⟩ sessions := by
  have hstart : Balanced f ⟨f, []⟩ := fun h => (add_zero _).symm
  constructor
  · intro h
    have hboth := (Execution.always_of_step (fun _ _ _ hk hs => usersKeyed_step hk hs) sessions
      hkeyed).and h
    refine Execution.stepsMeet_of_always ?_ hrun hboth
    intro l x l' hl hs hl'
    exact (balanced_step_iff hl.1 hl.2 hs).mp hl'.2
  · intro h
    refine (Execution.always_of_stepsMeet (P := fun l => UsersKeyed l.remote ∧ Balanced f l) ?_
      ⟨hkeyed, hstart⟩ h).mono (fun _ hl => hl.2)
    intro l x l' hl hx hs
    exact ⟨usersKeyed_step hl.1 hs, (balanced_step_iff hl.1 hl.2 hs).mpr hx⟩

section Bookings

theorem UsersKeyed.set {f : Firestore} {k : String} {D : Doc} (hf : UsersKeyed f) (hk : k ≠ "")
    (hD : D.get "id" = .null) : UsersKeyed (f.set FirestoreCollection.user k D) := by
  intro k' D' hD'
  unfold Firestore.set at hD'
  rw [Firestore.doc_putDoc] at hD'
  split_ifs at hD' with hself
  · cases hD'
    exact ⟨hself.2 ▸ hk, .inl hD⟩
  · exact hf k' D' hD'

def guestAndHostWith (earning : Doc) : Firestore :=
  (Firestore.empty.set FirestoreCollection.user "g1" ∅).set FirestoreCollection.user "h1" earning

theorem usersKeyed_guestAndHostWith {earning : Doc} (h : earning.get "id" = .null) :
    UsersKeyed (guestAndHostWith earning) :=
  UsersKeyed.set (UsersKeyed.set nofun (by decide) rfl) (by decide) h

def cabinSession : Session := ⟨Zone.utc, guest, Realm.empty, 0, some cabin, oneNight⟩

def lodge : Managed Posting :=
  ⟨⟨"p2", some "Lodge", none, some 80, none, none, none, none, none, some "h2", 0, 0, [], [], ∅, ∅⟩,
    true⟩

def guestAndTwoHosts : Firestore := (guestAndHostWith ∅).set FirestoreCollection.user "h2" ∅

/-- With nothing earned before, bookings at two hosts are balanced. -/
theorem balanced_iff_matched_twoHosts :
    Execution.Always (step AutoId.longer) (Balanced guestAndTwoHosts) ⟨guestAndTwoHosts, []⟩
      [cabinSession, { cabinSession with posting := some lodge }] := by
  have hkeyed : UsersKeyed guestAndTwoHosts :=
    UsersKeyed.set (usersKeyed_guestAndHostWith rfl) (by decide) rfl
  obtain ⟨l, hl⟩ : ∃ l, Execution.run (step AutoId.longer) ⟨guestAndTwoHosts, []⟩
    [cabinSession, { cabinSession with posting := some lodge }] = some l := ⟨_, rfl⟩
  refine (balanced_iff_matched AutoId.longer _ hkeyed _ hl).mpr
    (Execution.stepsMeet_cons ?_ rfl (Execution.stepsMeet_cons ?_ rfl trivial))
  · intro r hr
    cases hr
    rfl
  · intro r hr
    cases hr
    rfl

/-- A host who had earned 100 dollars is left with the 50 dollars of the new booking. -/
theorem host_earning_overwritten :
    storedEarning (guestAndHostWith (earningData 100)) "h1" = 100 ∧
      ∃ l, Execution.run (step AutoId.longer) ⟨guestAndHostWith (earningData 100), []⟩
          [cabinSession] = some l ∧
        storedEarning l.remote "h1" = 50 ∧ total l.created "h1" = 50 ∧
        ¬ Balanced (guestAndHostWith (earningData 100)) l := by
  obtain ⟨l, hl⟩ : ∃ l, Execution.run (step AutoId.longer)
    ⟨guestAndHostWith (earningData 100), []⟩ [cabinSession] = some l := ⟨_, rfl⟩
  obtain ⟨l', hstep, hl'⟩ := Execution.run_cons_eq_some hl
  cases hl'
  have hkeyed : UsersKeyed (guestAndHostWith (earningData 100)) := usersKeyed_guestAndHostWith rfl
  obtain ⟨r, b, D, hr, hb, hcreated, -, hdocs⟩ := step_eq_some hkeyed hstep
  cases hr
  have hamount : ((1 : ℤ) : ℚ) * 50 = 50 := by norm_num
  have hbefore : storedEarning (guestAndHostWith (earningData 100)) "h1" = 100 := rfl
  have hafter : storedEarning l.remote "h1" = 50 := by
    rw [storedEarning_congr hdocs, storedEarning_putDoc, if_pos rfl]
    exact (zero_add _).trans hamount
  have htotal : total l.created "h1" = 50 := by
    rw [hcreated]
    exact (add_zero _).trans (hb.trans hamount)
  refine ⟨hbefore, l, hl, hafter, htotal, ?_⟩
  intro h
  have hhost := h "h1"
  rw [hafter, hbefore, htotal] at hhost
  norm_num at hhost

end Bookings

end Ledger

end AirBnbClone
