import AirBnbClone.HostEarnings
import AirBnbClone.ReadWriteHistory

/-!
# Host earnings under concurrent bookings

Any number of guests run `_createBookingAndUpdateHostEarning` at the same time, each on a device of
its own. A step answers the call one of them is waiting for. Seen from the earnings, a run is a
transaction that reads the guest's earning and writes the host's, so that an interleaving without
conflict cycles leaves the earnings of some serial execution.
-/

namespace AirBnbClone

open Async FirestoreMapper FireStoreService RealmService BookPostingCubit ReadWrite

/-- Users are stored under their own id and can be read. -/
structure UsersWellFormed (f : Firestore) : Prop where
  keyed : UsersKeyed f
  decodes : ∀ z k D, f.doc FirestoreCollection.user k = some D →
    ∃ x, fromDocumentSnapshot z .user k D = .ok x

section Users

variable {f f' : Firestore} {hostId : String} {D : Doc} {entry : FirestoreWrite}

theorem UsersWellFormed.congr
    (h : f'.docs FirestoreCollection.user = f.docs FirestoreCollection.user)
    (hf : UsersWellFormed f) : UsersWellFormed f' := by
  refine ⟨hf.keyed.congr h, ?_⟩
  intro z k D hD
  unfold Firestore.doc at hD
  rw [h] at hD
  exact hf.decodes z k D hD

theorem UsersWellFormed.putDoc (hf : UsersWellFormed f)
    (hD : f.doc FirestoreCollection.user hostId = some D) (q : ℚ) :
    UsersWellFormed (f.putDoc FirestoreCollection.user hostId (earningData q ∪ D) entry) := by
  refine ⟨hf.keyed.putDoc hD q, ?_⟩
  intro z k D' hD'
  rw [Firestore.doc_putDoc] at hD'
  split_ifs at hD' with hk
  · cases hD'
    obtain ⟨-, rfl⟩ := hk
    obtain ⟨x, hx⟩ := hf.decodes z k D hD
    exact exists_fromDocumentSnapshot_earning q hx
  · exact hf.decodes z k D' hD'

theorem UsersWellFormed.canGetUser {w : World} (hf : UsersWellFormed w.remote) (z : Zone)
    {id : String} (h : (w.remote.doc FirestoreCollection.user id).isSome) : CanGetUser z id w := by
  obtain ⟨D, hD⟩ := Option.isSome_iff_exists.mp h
  obtain ⟨x, hx⟩ := hf.decodes z id D hD
  obtain ⟨hne, hid⟩ := hf.keyed id D hD
  have hxid : x.id = id := id_of_fromDocumentSnapshot_ok hid hx
  refine canGetUser_iff.mpr ⟨D, x, hD, hx, ?_⟩
  rw [getEntity_createUnawaited, if_pos ⟨(hxid.trans_ne hne : x.id ≠ ""), hxid.symm⟩]
  rfl

end Users

structure Booker where
  zone : Zone
  env : Environment
  realm : Realm
  readings : ℕ
  state : BookPostingState
  request : BookingRequest

namespace Booker

def program (b : Booker) : CubitM Unit :=
  createBookingAndUpdateHostEarning b.request.postingId b.request.userId b.request.hostId
    b.request.inDate b.request.outDate b.request.paymentAmount

def afterBooking (b : Booker) : CubitM Unit := do
  let user ← Await.getUser b.request.userId
  if user.isValid then
    let newEarning := user.object.earning.getD 0 + b.request.paymentAmount
    let _ ← Await.updateUser b.request.hostId (earningData newEarning)
  else pure ()

def afterUser (b : Booker) (newEarning : ℚ) : CubitM Unit := do
  let _ ← Await.updateUser b.request.hostId (earningData newEarning)

def txn (b : Booker) : Txn String ℚ :=
  ⟨b.request.userId, b.request.hostId, fun earning => earning + b.request.paymentAmount⟩

def device (b : Booker) (f : Firestore) : Device := ⟨⟨f, b.realm⟩, b.readings⟩

end Booker

structure Process where
  prog : CubitM Unit
  state : BookPostingState
  realm : Realm
  readings : ℕ

structure Pool (ι : Type) where
  remote : Firestore
  processes : ι → Process

namespace Pool

variable {ι : Type} [DecidableEq ι] (who : ι → Booker) (ids : AutoId)

def start (f : Firestore) : Pool ι :=
  ⟨f, fun i => ⟨(who i).program, (who i).state, (who i).realm, (who i).readings⟩⟩

def device (p : Pool ι) (i : ι) : Device :=
  ⟨⟨p.remote, (p.processes i).realm⟩, (p.processes i).readings⟩

/-- Answer the call that `i` is waiting for; no call fails. -/
def step (p : Pool ι) (i : ι) : Option (Pool ι) :=
  match (p.processes i).prog with
  | .await call k =>
      match Device.serve (who i).zone ids (who i).env call (p.device i) with
      | (.error _, _) => none
      | (.ok reply, d) =>
          let (prog, state) := Prog.settle (k (.ok reply)) (p.processes i).state
          some ⟨d.world.remote,
            Function.update p.processes i ⟨prog, state, d.world.realm, d.readings⟩⟩
  | _ => none

/-- The access to an earning that `i` performs next. -/
def event (p : Pool ι) (i : ι) : List (Event ι) :=
  match (p.processes i).prog with
  | .await (.getUser _) _ => [.read i]
  | .await (.updateUser _ _) _ => [.write i]
  | _ => []

def history : Pool ι → List ι → List (Event ι)
  | _, [] => []
  | p, i :: is => p.event i ++ (step who ids p i).elim [] (fun p' => history p' is)

/-- The same bookings one after the other, as far as all of them succeed. -/
def oneAfterTheOther : Firestore → List ι → Option Firestore
  | f, [] => some f
  | f, i :: order =>
      match Prog.exec (Device.serve (who i).zone ids (who i).env) (who i).program (who i).state
        ((who i).device f) with
      | (.ok _, _, d) => oneAfterTheOther d.world.remote order
      | (.error _, _, _) => none

def remaining (p : Pool ι) (i : ι) : List (Event ι) :=
  match (p.processes i).prog with
  | .await (.createBooking _) _ => [.read i, .write i]
  | .await (.getUser _) _ => [.read i, .write i]
  | .await (.updateUser _ _) _ => [.write i]
  | _ => []

/-- How far a run has come, after reading `held`; users that it has found were there in `f`. -/
inductive Phase (b : Booker) (f : Firestore) (held : ℚ) : CubitM Unit → Prop
  | starting : Phase b f held b.program
  | booked : Phase b f held b.afterBooking
  | read (guest : (f.doc FirestoreCollection.user b.request.userId).isSome) :
      Phase b f held (b.afterUser (held + b.request.paymentAmount))
  | finished (guest : (f.doc FirestoreCollection.user b.request.userId).isSome)
      (host : (f.doc FirestoreCollection.user b.request.hostId).isSome) : Phase b f held (pure ())

theorem Phase.users_of_done {b : Booker} {f : Firestore} {held : ℚ} {prog : CubitM Unit}
    (hdone : prog = pure ()) (h : Phase b f held prog) :
    (f.doc FirestoreCollection.user b.request.userId).isSome ∧
      (f.doc FirestoreCollection.user b.request.hostId).isSome := by
  have hne (call : Call) (k : Except DartError (Reply call) → CubitM Unit) :
      Prog.await call k ≠ pure () := nofun
  cases h with
  | starting => exact absurd hdone (hne _ _)
  | booked => exact absurd hdone (hne _ _)
  | read guest => exact absurd hdone (hne _ _)
  | finished guest host => exact ⟨guest, host⟩

/-- The pool reached from `f` and the transactions on its earnings. -/
structure Simulates (f : Firestore) (p : Pool ι) (a : State ι String ℚ) : Prop where
  store : a.store = storedEarning p.remote
  users : UsersWellFormed p.remote
  sameUsers : ∀ k, (p.remote.doc FirestoreCollection.user k).isSome =
    (f.doc FirestoreCollection.user k).isSome
  phase : ∀ i, Phase (who i) f (a.held i) (p.processes i).prog

variable {who ids} {f : Firestore} {p p' : Pool ι} {a : State ι String ℚ} {i : ι}

theorem step_of_await {call : Call} {k : Except DartError (Reply call) → CubitM Unit}
    (hprog : (p.processes i).prog = .await call k) (h : step who ids p i = some p') :
    ∃ reply, (Device.serve (who i).zone ids (who i).env call (p.device i)).1 = .ok reply ∧
      p'.remote = (Device.serve (who i).zone ids (who i).env call (p.device i)).2.world.remote ∧
      (p'.processes i).prog = (Prog.settle (k (.ok reply)) (p.processes i).state).1 := by
  unfold step at h
  rw [hprog] at h
  dsimp only at h
  split at h
  · cases h
  · rename_i reply d hserve
    cases h
    refine ⟨reply, by rw [hserve], by rw [hserve], ?_⟩
    simp only [Function.update_self]

theorem others_of_step (h : step who ids p i = some p') :
    ∀ j, j ≠ i → p'.processes j = p.processes j := by
  intro j hj
  unfold step at h
  split at h
  · split at h
    · cases h
    · cases h
      exact Function.update_of_ne hj _ _
  · cases h

theorem Simulates.of_phase (hsim : Simulates who f p a) (h : Pool.step who ids p i = some p')
    {a' : State ι String ℚ}
    (hstore : a'.store = storedEarning p'.remote) (husers : UsersWellFormed p'.remote)
    (hsame : ∀ k, (p'.remote.doc FirestoreCollection.user k).isSome =
      (p.remote.doc FirestoreCollection.user k).isSome)
    (hheld : ∀ j, j ≠ i → a'.held j = a.held j)
    (hphase : Phase (who i) f (a'.held i) (p'.processes i).prog) : Simulates who f p' a' := by
  refine ⟨hstore, husers, fun k => (hsame k).trans (hsim.sameUsers k), ?_⟩
  intro j
  by_cases hj : j = i
  · subst hj
    exact hphase
  · rw [hheld j hj, others_of_step h j hj]
    exact hsim.phase j

/-- The new booking touches no user. -/
theorem Simulates.step_createBooking (hsim : Simulates who f p a)
    (h : Pool.step who ids p i = some p') (hprog : (p.processes i).prog = (who i).program) :
    (p'.processes i).prog = (who i).afterBooking ∧ Simulates who f p' a := by
  obtain ⟨reply, -, hremote, hnext⟩ := step_of_await (hprog.trans rfl) h
  have hbooked : (p'.processes i).prog = (who i).afterBooking := hnext
  have hdocs : p'.remote.docs FirestoreCollection.user =
      p.remote.docs FirestoreCollection.user := by
    rw [hremote, Device.serve_createBooking_remote]
    exact Firestore.docs_putDoc_of_ne _ _ _ _ (by decide)
  refine ⟨hbooked, hsim.of_phase h ?_ (hsim.users.congr hdocs) ?_ (fun _ _ => rfl) ?_⟩
  · rw [hsim.store]
    funext k
    exact (storedEarning_congr hdocs k).symm
  · intro k
    unfold Firestore.doc
    rw [hdocs]
  · rw [hbooked]
    exact .booked

/-- The guest's earning is read and changes nothing. -/
theorem Simulates.step_getUser (hsim : Simulates who f p a)
    (h : Pool.step who ids p i = some p') (hprog : (p.processes i).prog = (who i).afterBooking) :
    (∃ q, (p'.processes i).prog = (who i).afterUser q) ∧
      Simulates who f p' (exec (fun j => (who j).txn) a [.read i]) := by
  obtain ⟨u, hreply, hremote, hnext⟩ := step_of_await (hprog.trans rfl) h
  obtain ⟨hvalid, hearning⟩ := earning_of_serve_getUser hsim.users.keyed hreply
  have hguest := isSome_of_serve_getUser hreply
  rw [Device.serve_getUser_remote] at hremote
  change p'.remote = p.remote at hremote
  have hread : (p'.processes i).prog =
      (who i).afterUser (u.object.earning.getD 0 + (who i).request.paymentAmount) := by
    rw [hnext]
    change (Prog.settle (if u.isValid then _ else _) _).1 = _
    rw [if_pos hvalid]
    rfl
  have hheld : (exec (fun j => (who j).txn) a [.read i]).held i =
      u.object.earning.getD 0 := by
    rw [hearning]
    apply (Function.update_self i _ a.held).trans
    rw [hsim.store]
    rfl
  refine ⟨⟨_, hread⟩, hsim.of_phase h ?_ (hremote ▸ hsim.users) (fun k => by rw [hremote]) ?_ ?_⟩
  · rw [hremote, ← hsim.store]
    rfl
  · intro j hj
    exact Function.update_of_ne hj _ _
  · rw [hread, ← hheld]
    exact .read ((hsim.sameUsers _).symm.trans hguest)

/-- The host's earning is written from what was read of the guest's. -/
theorem Simulates.step_updateUser (hsim : Simulates who f p a)
    (h : Pool.step who ids p i = some p')
    (guest : (f.doc FirestoreCollection.user (who i).request.userId).isSome)
    (hprog : (p.processes i).prog =
      (who i).afterUser (a.held i + (who i).request.paymentAmount)) :
    (p'.processes i).prog = pure () ∧
      Simulates who f p' (exec (fun j => (who j).txn) a [.write i]) := by
  obtain ⟨u, hreply, hremote, hnext⟩ := step_of_await (hprog.trans rfl) h
  obtain ⟨D, hD, hupdate⟩ := Device.serve_updateUser_remote hreply
  rw [hupdate] at hremote
  have hdone : (p'.processes i).prog = pure () := hnext
  refine ⟨hdone, hsim.of_phase h ?_ ?_ ?_ (fun _ _ => rfl) ?_⟩
  · funext k
    rw [hremote]
    refine Eq.trans ?_ (storedEarning_putDoc _ k).symm
    rw [show storedEarning (p.device i).world.remote = a.store from hsim.store.symm]
    exact Function.update_apply a.store _ _ k
  · rw [hremote]
    exact hsim.users.putDoc hD _
  · intro k
    rw [hremote, Firestore.doc_putDoc]
    split_ifs with hk
    · rw [hk.2]
      exact (congrArg Option.isSome hD).symm
    · rfl
  · rw [hdone]
    exact .finished guest ((hsim.sameUsers _).symm.trans (congrArg Option.isSome hD))

/-- One step of the pool is at most one access of the transactions. -/
theorem Simulates.step (hsim : Simulates who f p a) (h : Pool.step who ids p i = some p') :
    Simulates who f p' (exec (fun j => (who j).txn) a (p.event i)) ∧
      p.remaining i = p.event i ++ p'.remaining i := by
  have hphase := hsim.phase i
  generalize hprog : (p.processes i).prog = prog at hphase
  cases hphase with
  | starting =>
      obtain ⟨hnext, hsim'⟩ := hsim.step_createBooking h hprog
      simp only [event, remaining, hprog, hnext]
      exact ⟨hsim', rfl⟩
  | booked =>
      obtain ⟨⟨q, hnext⟩, hsim'⟩ := hsim.step_getUser h hprog
      simp only [event, remaining, hprog, hnext]
      exact ⟨hsim', rfl⟩
  | read guest =>
      obtain ⟨hnext, hsim'⟩ := hsim.step_updateUser h guest hprog
      simp only [event, remaining, hprog, hnext]
      exact ⟨hsim', rfl⟩
  | finished guest host =>
      unfold Pool.step at h
      rw [hprog] at h
      cases h

theorem remaining_of_others (h : Pool.step who ids p i = some p') {j : ι} (hj : j ≠ i) :
    p'.remaining j = p.remaining j := by
  unfold remaining
  rw [others_of_step h j hj]

theorem filter_event (p : Pool ι) (i j : ι) :
    (p.event i).filter (fun e => e.owner = j) = if j = i then p.event i else [] := by
  have howner : ∀ e ∈ p.event i, e.owner = i := by
    intro e he
    unfold event at he
    split at he
    · rw [List.mem_singleton.mp he]
      rfl
    · rw [List.mem_singleton.mp he]
      rfl
    · exact absurd he List.not_mem_nil
  split_ifs with hj
  · rw [List.filter_eq_self]
    intro e he
    exact decide_eq_true ((howner e he).trans hj.symm)
  · rw [List.filter_eq_nil_iff]
    intro e he hdec
    exact hj ((of_decide_eq_true hdec).symm.trans (howner e he))

/-- A run of the pool performs the accesses of its history and of nothing else. -/
theorem Simulates.run {is : List ι} (hsim : Simulates who f p a)
    (hrun : Execution.run (Pool.step who ids) p is = some p') :
    Simulates who f p' (exec (fun j => (who j).txn) a (history who ids p is)) ∧
      ∀ j, p.remaining j =
        (history who ids p is).filter (fun e => e.owner = j) ++ p'.remaining j := by
  induction is generalizing p a with
  | nil =>
      cases hrun
      exact ⟨hsim, fun j => rfl⟩
  | cons i is ih =>
      obtain ⟨q, hstep, hrest⟩ := Execution.run_cons_eq_some hrun
      obtain ⟨hq, hself⟩ := hsim.step hstep
      obtain ⟨hp', hremaining⟩ := ih hq hrest
      have hhistory : history who ids p (i :: is) = p.event i ++ history who ids q is := by
        simp only [history, hstep, Option.elim_some]
      rw [hhistory]
      refine ⟨?_, ?_⟩
      · rw [exec_append]
        exact hp'
      · intro j
        rw [List.filter_append, filter_event, List.append_assoc, ← hremaining j]
        split_ifs with hj
        · rw [hj]
          exact hself
        · exact (remaining_of_others hstep hj).symm

omit [DecidableEq ι] in
theorem simulates_start (hf : UsersWellFormed f) :
    Simulates who f (start who f) ⟨storedEarning f, fun _ => 0⟩ :=
  ⟨rfl, hf, fun _ => rfl, fun _ => .starting⟩

/-- A booking by guests and for hosts that exist succeeds. -/
theorem exec_program_ok (ids : AutoId) (b : Booker) (hf : UsersWellFormed f)
    (hguest : (f.doc FirestoreCollection.user b.request.userId).isSome)
    (hhost : (f.doc FirestoreCollection.user b.request.hostId).isSome)
    (hin : b.request.inDate.Storable) (hout : b.request.outDate.Storable) :
    ∃ s d, Prog.exec (Device.serve b.zone ids b.env) b.program b.state (b.device f) =
      (.ok (), s, d) := by
  obtain ⟨booking, d₁, hserve₁, hremote₁, -⟩ := Device.serve_createBooking b.zone ids b.env
    (b.device f) b.request.postingId b.request.userId b.request.paymentAmount hin hout
  have hdocs : d₁.world.remote.docs FirestoreCollection.user = f.docs FirestoreCollection.user := by
    rw [hremote₁]
    exact Firestore.docs_putDoc_of_ne _ _ _ _ (by decide)
  have hdoc (k : String) : d₁.world.remote.doc FirestoreCollection.user k =
      f.doc FirestoreCollection.user k := by
    unfold Firestore.doc
    rw [hdocs]
  obtain ⟨D, hD⟩ := Option.isSome_iff_exists.mp hhost
  have hcan : CanGetUser b.zone b.request.userId d₁.world :=
    (hf.congr hdocs).canGetUser b.zone (by rw [hdoc]; exact hguest)
  obtain ⟨u, d₂, hserve₂, hremote₂, -, -⟩ := Device.serve_getUser_ok ids b.env hcan
  obtain ⟨u', d₃, hserve₃, -, -⟩ := Device.serve_updateUser_ok b.zone ids b.env
    (u.earning.getD 0 + b.request.paymentAmount) (d := d₂) (by rw [hremote₂, hdoc, hD])
    (hf.keyed _ D hD).1
  refine ⟨b.state, d₃, ?_⟩
  unfold Booker.program createBookingAndUpdateHostEarning
  rw [Prog.exec_call_bind_ok hserve₁, Prog.exec_call_bind_ok hserve₂]
  dsimp only [Device.valid]
  simp only [↓reduceIte]
  rw [Prog.exec_call_bind_ok hserve₃]
  rfl

omit [DecidableEq ι] in
theorem oneAfterTheOther_eq_serial (ids : AutoId) (hdates : ∀ i, (who i).request.inDate.Storable ∧
    (who i).request.outDate.Storable) {order : List ι} (hf : UsersWellFormed f)
    (hexist : ∀ i ∈ order, (f.doc FirestoreCollection.user (who i).request.userId).isSome ∧
      (f.doc FirestoreCollection.user (who i).request.hostId).isSome) :
    ∃ f', oneAfterTheOther who ids f order = some f' ∧
      storedEarning f' = serial (fun j => (who j).txn) (storedEarning f) order := by
  induction order generalizing f with
  | nil => exact ⟨f, rfl, rfl⟩
  | cons i order ih =>
      obtain ⟨hguest, hhost⟩ := hexist i List.mem_cons_self
      obtain ⟨s, d, hexec⟩ := exec_program_ok ids (who i) hf hguest hhost (hdates i).1 (hdates i).2
      obtain ⟨id, D, -, hD, hremote⟩ := createBookingAndUpdateHostEarning_ok hf.keyed hexec
      dsimp only [Booker.device] at hD hremote
      have hset (data : Doc) : (f.set FirestoreCollection.booking id data).docs
          FirestoreCollection.user = f.docs FirestoreCollection.user :=
        Firestore.docs_putDoc_of_ne _ _ _ _ (by decide)
      have hwell : UsersWellFormed d.world.remote := by
        rw [hremote]
        refine (hf.congr (hset _)).putDoc ?_ _
        unfold Firestore.doc
        rw [hset]
        exact hD
      have hearning : storedEarning d.world.remote =
          perform (fun j => (who j).txn) (storedEarning f) i := by
        funext k
        rw [hremote, storedEarning_putDoc, storedEarning_congr (hset _)]
        exact (Function.update_apply (storedEarning f) _ _ k).symm
      have hkeep (k : String) (hk : (f.doc FirestoreCollection.user k).isSome) :
          (d.world.remote.doc FirestoreCollection.user k).isSome := by
        rw [hremote, Firestore.doc_putDoc]
        split_ifs
        · rfl
        · unfold Firestore.doc
          rw [hset]
          exact hk
      obtain ⟨f', hrest, hserial⟩ := ih hwell (fun j hj =>
        ⟨hkeep _ (hexist j (List.mem_cons_of_mem _ hj)).1,
          hkeep _ (hexist j (List.mem_cons_of_mem _ hj)).2⟩)
      refine ⟨f', ?_, ?_⟩
      · unfold oneAfterTheOther
        rw [hexec]
        exact hrest
      · rw [hserial, hearning]
        rfl

/-- When all runs are through, each has read and then written once. -/
theorem history_of_done {schedule : List ι} (hf : UsersWellFormed f)
    (hrun : Execution.run (Pool.step who ids) (start who f) schedule = some p)
    (hdone : ∀ i, (p.processes i).prog = pure ()) (i : ι) :
    (history who ids (start who f) schedule).filter (fun e => e.owner = i) =
      [.read i, .write i] := by
  obtain ⟨-, hremaining⟩ := (simulates_start hf).run hrun
  have hnone : p.remaining i = [] := by
    unfold remaining
    rw [hdone]
    rfl
  have hfilter := hremaining i
  rw [hnone, List.append_nil] at hfilter
  exact hfilter.symm

theorem users_of_done {schedule : List ι} (hf : UsersWellFormed f)
    (hrun : Execution.run (Pool.step who ids) (start who f) schedule = some p)
    (hdone : ∀ i, (p.processes i).prog = pure ()) (i : ι) :
    (f.doc FirestoreCollection.user (who i).request.userId).isSome ∧
      (f.doc FirestoreCollection.user (who i).request.hostId).isSome := by
  obtain ⟨hsim, -⟩ := (simulates_start hf).run hrun
  exact Phase.users_of_done (hdone i) (hsim.phase i)

theorem storedEarning_eq_serial {schedule : List ι} (hf : UsersWellFormed f)
    (hrun : Execution.run (Pool.step who ids) (start who f) schedule = some p)
    (hdone : ∀ i, (p.processes i).prog = pure ()) {order : List ι} (hnodup : order.Nodup)
    (hall : ∀ i, i ∈ order)
    (hagrees : Agrees (fun i => (who i).txn) order (history who ids (start who f) schedule)) :
    storedEarning p.remote = serial (fun j => (who j).txn) (storedEarning f) order := by
  obtain ⟨hsim, -⟩ := (simulates_start hf).run hrun
  have hcomplete : Complete order (history who ids (start who f) schedule) := by
    intro i
    rw [if_pos (hall i)]
    exact history_of_done hf hrun hdone i
  rw [← hsim.store]
  exact exec_store_eq_serial hnodup hcomplete hagrees _

/-- When some order of the bookings agrees with an interleaving on all conflicting accesses to
earnings, the earnings are those of the bookings made one after the other in that order. -/
theorem serialisable_of_agrees (ids : AutoId) (who : ι → Booker) (f : Firestore)
    (hf : UsersWellFormed f)
    (hdates : ∀ i, (who i).request.inDate.Storable ∧ (who i).request.outDate.Storable)
    (schedule : List ι) (p : Pool ι)
    (hrun : Execution.run (Pool.step who ids) (start who f) schedule = some p)
    (hdone : ∀ i, (p.processes i).prog = pure ()) (order : List ι) (hnodup : order.Nodup)
    (hall : ∀ i, i ∈ order)
    (hagrees : Agrees (fun i => (who i).txn) order (history who ids (start who f) schedule)) :
    ∃ f', oneAfterTheOther who ids f order = some f' ∧
      ∀ h, storedEarning p.remote h = storedEarning f' h := by
  obtain ⟨f', hf', hserial⟩ := oneAfterTheOther_eq_serial ids hdates hf
    (fun i (_ : i ∈ order) => users_of_done hf hrun hdone i)
  refine ⟨f', hf', fun h => ?_⟩
  rw [hserial, storedEarning_eq_serial hf hrun hdone hnodup hall hagrees]

/-- As long as no guest is another guest's host, every interleaving leaves the earnings of the
bookings made one after the other in some order. -/
theorem serialisable_of_guests_are_no_hosts {schedule : List ι} (hf : UsersWellFormed f)
    (hdates : ∀ i, (who i).request.inDate.Storable ∧ (who i).request.outDate.Storable)
    (hrun : Execution.run (Pool.step who ids) (start who f) schedule = some p)
    (hdone : ∀ i, (p.processes i).prog = pure ())
    (hguests : ∀ i j, i ≠ j → (who i).request.userId ≠ (who j).request.hostId) :
    ∃ order : List ι, order.Nodup ∧ (∀ i, i ∈ order) ∧
      ∃ f', oneAfterTheOther who ids f order = some f' ∧
        ∀ h, storedEarning p.remote h = storedEarning f' h := by
  have hhistory := history_of_done hf hrun hdone
  have hnodup : (writers (history who ids (start who f) schedule)).Nodup :=
    Started.writers_nodup fun i => (hhistory i) ▸ List.prefix_refl _
  have hall (i : ι) : i ∈ writers (history who ids (start who f) schedule) := by
    refine mem_writers_iff.mpr (List.mem_of_mem_filter (p := fun e => e.owner = i) ?_)
    rw [hhistory]
    exact List.mem_cons_of_mem _ (List.mem_singleton_self _)
  obtain ⟨f', hf', hserial⟩ := oneAfterTheOther_eq_serial ids hdates hf
    (fun i (_ : i ∈ writers _) => users_of_done hf hrun hdone i)
  refine ⟨_, hnodup, hall, f', hf', fun h => ?_⟩
  rw [hserial, storedEarning_eq_serial hf hrun hdone hnodup hall (agrees_writers hguests)]

section EachOther

def twoUsers : Firestore :=
  (Firestore.empty.set FirestoreCollection.user "u1" ∅).set FirestoreCollection.user "u2" ∅

def eachOther (i : Bool) : Booker :=
  ⟨Zone.utc, guest, Realm.empty, 0, oneNight,
    ⟨"p1", if i then "u1" else "u2", if i then "u2" else "u1", "Cabin", Zone.utc.date 8,
      Zone.utc.date 9, 50⟩⟩

theorem usersWellFormed_twoUsers : UsersWellFormed twoUsers := by
  have hdoc (k : String) (D : Doc) (hD : twoUsers.doc FirestoreCollection.user k = some D) :
      k ≠ "" ∧ D = ∅ := by
    unfold twoUsers Firestore.set at hD
    rw [Firestore.doc_putDoc, Firestore.doc_putDoc] at hD
    split_ifs at hD with h₂ h₁
    · cases hD
      exact ⟨h₂.2 ▸ by decide, rfl⟩
    · cases hD
      exact ⟨h₁.2 ▸ by decide, rfl⟩
    · cases hD
  refine ⟨?_, ?_⟩
  · intro k D hD
    obtain ⟨hk, rfl⟩ := hdoc k D hD
    exact ⟨hk, .inl rfl⟩
  · intro z k D hD
    obtain ⟨-, rfl⟩ := hdoc k D hD
    exact ⟨_, rfl⟩

theorem storable_eachOther (i : Bool) : (eachOther i).request.inDate.Storable ∧
    (eachOther i).request.outDate.Storable := by
  constructor <;> change DateTime.Storable (Zone.utc.date _) <;> decide +kernel

/-- Both bookings are created first, then one run after the other goes on. -/
theorem serialisable_of_agrees_inTurn : ∃ p f',
    Execution.run (Pool.step eachOther AutoId.longer) (start eachOther twoUsers)
        [true, false, true, true, false, false] = some p ∧
      oneAfterTheOther eachOther AutoId.longer twoUsers [true, false] = some f' ∧
      ∀ h, storedEarning p.remote h = storedEarning f' h := by
  obtain ⟨p, hp, hdone⟩ : ∃ p, Execution.run (Pool.step eachOther AutoId.longer)
      (start eachOther twoUsers) [true, false, true, true, false, false] = some p ∧
      ∀ i, (p.processes i).prog = pure () := ⟨_, rfl, fun i => by cases i <;> rfl⟩
  have hhistory : history eachOther AutoId.longer (start eachOther twoUsers)
      [true, false, true, true, false, false] =
      [.read true, .write true, .read false, .write false] := rfl
  have hagrees : Agrees (fun i => (eachOther i).txn) [true, false]
      (history eachOther AutoId.longer (start eachOther twoUsers)
        [true, false, true, true, false, false]) := by
    rw [hhistory]
    unfold Agrees
    decide
  obtain ⟨f', hf', hearnings⟩ := serialisable_of_agrees AutoId.longer eachOther twoUsers
    usersWellFormed_twoUsers storable_eachOther _ p hp hdone [true, false] (by decide) (by decide)
    hagrees
  exact ⟨p, f', hp, hf', hearnings⟩

/-- Users who book at each other's place at the same time both end with 50 dollars; one after the
other, the second would end with 100. -/
theorem bookings_of_each_other_not_serialisable : ∃ p,
    Execution.run (Pool.step eachOther AutoId.longer) (start eachOther twoUsers)
        [true, false, true, false, true, false] = some p ∧
      (∀ i, (p.processes i).prog = pure ()) ∧
      ∀ order : List Bool, order.Nodup → (∀ i, i ∈ order) →
        ∀ f', oneAfterTheOther eachOther AutoId.longer twoUsers order = some f' →
          ∃ h, storedEarning p.remote h ≠ storedEarning f' h := by
  obtain ⟨p, hp, hdone⟩ : ∃ p, Execution.run (Pool.step eachOther AutoId.longer)
      (start eachOther twoUsers) [true, false, true, false, true, false] = some p ∧
      ∀ i, (p.processes i).prog = pure () := ⟨_, rfl, fun i => by cases i <;> rfl⟩
  refine ⟨p, hp, hdone, ?_⟩
  obtain ⟨hsim, -⟩ := (simulates_start usersWellFormed_twoUsers).run hp
  have hstore := hsim.store
  rw [show history eachOther AutoId.longer (start eachOther twoUsers)
    [true, false, true, false, true, false] =
      [.read true, .read false, .write true, .write false] from rfl] at hstore
  have hfinal (h : String) (hh : h = "u1" ∨ h = "u2") : storedEarning p.remote h = 50 := by
    rw [← hstore]
    rcases hh with rfl | rfl <;> decide +kernel
  intro order hnodup hall f' hf'
  obtain ⟨f'', hf'', hserial⟩ := oneAfterTheOther_eq_serial AutoId.longer storable_eachOther
    usersWellFormed_twoUsers (fun i (_ : i ∈ order) => by cases i <;> exact ⟨rfl, rfl⟩)
  cases hf'.symm.trans hf''
  have hperm : order.Perm [true, false] :=
    (List.perm_ext_iff_of_nodup hnodup (by decide)).mpr (fun i => by cases i <;> simp [hall])
  obtain ⟨i, j, rfl⟩ := List.length_eq_two.mp hperm.length_eq
  -- in either order the second guest's earning counts the first booking as well
  cases i with
  | true =>
      cases j with
      | true => exact absurd hnodup (by decide)
      | false =>
          refine ⟨"u1", ?_⟩
          rw [hfinal "u1" (.inl rfl), hserial]
          decide +kernel
  | false =>
      cases j with
      | false => exact absurd hnodup (by decide)
      | true =>
          refine ⟨"u2", ?_⟩
          rw [hfinal "u2" (.inr rfl), hserial]
          decide +kernel

end EachOther

end Pool

end AirBnbClone
