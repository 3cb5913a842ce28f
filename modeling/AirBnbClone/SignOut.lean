import AirBnbClone.AuthRepository
import AirBnbClone.DocChanges
import AirBnbClone.Execution
import AirBnbClone.StoreConvergence

/-!
# Signing out

`signOut` awaits the removal of the token, the sign-out of the authentication service, the
cancellation of every listener and the deletion of every row. At each await the rest of the app may
move: listeners are started and stopped, snapshots are handled, and calls of `FireStoreService` that
were made before are answered. The session below keeps how far a sign-out has come, and how many
subscriptions there were when the last one returned.
-/

namespace AirBnbClone

open FireStoreService FirestoreMapper RealmService

inductive RealmListener
  | document (T : Model) (collection id : String)
  | collection (T : Model) (q : Query)

inductive ListenerEvent
  | document (event : Option Doc)
  | collection (changes : List DocumentChange)

structure RealmSubscription where
  listener : RealmListener
  active : Bool

inductive ServiceCall
  | createDoc (T : Model) (collection : String) (id : Option String) (data : Doc)
  | getDoc (T : Model) (collection id : String)
  | getCollection (T : Model) (builder : FirestoreQueryBuilder)
  | updateDoc (T : Model) (collection id : String) (data : Doc)

/-- The await at which a sign-out stands; of the listeners, those whose cancellation has not been
asked for yet. -/
inductive SignOutStage
  | removingToken
  | signingOut
  | cancellingDocuments (rest : List ℕ)
  | cancellingCollections (rest : List ℕ)
  | listenersRemoved
  | storeDeleted

namespace SignOutStage

open AuthRepository Async

def rest : SignOutStage → AuthM Unit
  | removingToken => signOut
  | signingOut => do
      await .signOut
      await .removeAllListeners
      await .deleteAll
      Prog.emitWith (fun _ => ⟨some false, none⟩)
  | cancellingDocuments _ | cancellingCollections _ | listenersRemoved => do
      await .removeAllListeners
      await .deleteAll
      Prog.emitWith (fun _ => ⟨some false, none⟩)
  | storeDeleted => do
      await .deleteAll
      Prog.emitWith (fun _ => ⟨some false, none⟩)

def documentsCleared : SignOutStage → Bool
  | removingToken | signingOut => false
  | _ => true

def collectionsCleared : SignOutStage → Bool
  | removingToken | signingOut | cancellingDocuments _ => false
  | _ => true

/-- The subscriptions that are in no map any more and still to be cancelled. -/
def remaining : SignOutStage → List ℕ
  | cancellingDocuments rest | cancellingCollections rest => rest
  | _ => []

end SignOutStage

/-- The maps refer to the subscriptions by their number. -/
structure AppSession where
  world : World
  observedDocuments : FiniteMap.Map (String × String) ℕ
  observedCollections : FiniteMap.Map Query ℕ
  subscriptions : List RealmSubscription
  calls : List ServiceCall
  stage : Option SignOutStage
  returned : Option ℕ

inductive SessionEvent
  | signOut
  | proceed (ok : Bool)
  | signIn
  | observe (listener : RealmListener)
  | removeDocListener (collection id : String)
  | removeCollectionListener (q : Query)
  | deliver (i : ℕ) (event : ListenerEvent)
  | request (call : ServiceCall)
  | reply (i : ℕ)
  | fail (i : ℕ)
  | remote (f : Firestore)

namespace AppSession

def start (w : World) : AppSession := ⟨w, ∅, ∅, [], [], none, none⟩

/-- `subscription.cancel()`: no event is delivered from now on. -/
def cancel (s : AppSession) (i : ℕ) : AppSession :=
  { s with subscriptions := s.subscriptions.modify i (fun sub => { sub with active := false }) }

def observe (s : AppSession) (listener : RealmListener) : AppSession :=
  let subscribed : AppSession := { s with subscriptions := s.subscriptions ++ [⟨listener, true⟩] }
  match listener with
  | .document _ collection id =>
      match s.observedDocuments.lookup (collection, id) with
      | some _ => s
      | none => { subscribed with
          observedDocuments := s.observedDocuments.insert (collection, id) s.subscriptions.length }
  | .collection _ q =>
      match s.observedCollections.lookup q with
      | some _ => s
      | none => { subscribed with
          observedCollections := s.observedCollections.insert q s.subscriptions.length }

def removeDocListener (s : AppSession) (collection id : String) : AppSession :=
  match s.observedDocuments.lookup (collection, id) with
  | some i => { s.cancel i with observedDocuments := s.observedDocuments.erase (collection, id) }
  | none => s

def removeCollectionListener (s : AppSession) (q : Query) : AppSession :=
  match s.observedCollections.lookup q with
  | some i => { s.cancel i with observedCollections := s.observedCollections.erase q }
  | none => s

/-- The second loop of `removeAllListeners`. -/
def cancelCollections (s : AppSession) : List ℕ → AppSession
  | [] => { s with stage := some .listenersRemoved }
  | i :: rest => { s.cancel i with stage := some (.cancellingCollections rest) }

/-- The first loop of `removeAllListeners`, and what follows it. -/
def cancelDocuments (s : AppSession) : List ℕ → AppSession
  | [] => cancelCollections { s with observedCollections := ∅ }
      (FiniteMap.values s.observedCollections)
  | i :: rest => { s.cancel i with stage := some (.cancellingDocuments rest) }

def removeAllListeners (s : AppSession) : AppSession :=
  cancelDocuments { s with observedDocuments := ∅ } (FiniteMap.values s.observedDocuments)

def setRealm (s : AppSession) (r : Realm) : AppSession :=
  { s with world := { s.world with realm := r } }

/-- What a sign-out awaits completes, or throws. Of the deletion only the transaction can fail,
which is caught and leaves the store as it is. -/
def proceed (s : AppSession) : SignOutStage → Bool → Option AppSession
  | .removingToken, true => some { s with stage := some .signingOut }
  | .signingOut, true => some s.removeAllListeners
  | .cancellingDocuments rest, true => some (s.cancelDocuments rest)
  | .cancellingCollections rest, true => some (s.cancelCollections rest)
  | .listenersRemoved, true =>
      some { s.setRealm (deleteAll s.world.realm) with stage := some .storeDeleted }
  | .listenersRemoved, false => some { s with stage := some .storeDeleted }
  | .storeDeleted, true => some { s with stage := none, returned := some s.subscriptions.length }
  | .storeDeleted, false => none
  | _, false => some { s with stage := none }

variable (z : Zone) (ids : AutoId)

/-- The callbacks of `observeDoc` and `observeCollection`. -/
def handle (r : Realm) : RealmListener → ListenerEvent → Option Realm
  | .document T _ id, .document event => some (onDocument z T id event r)
  | .collection T _, .collection changes => some (onDocChanges z T changes r)
  | _, _ => none

def answer (w : World) : ServiceCall → World
  | .createDoc T collection id data => (createDoc z ids T collection id data w).2
  | .getDoc T collection id => (getDoc z T collection id w).2
  | .getCollection T builder => (getCollection z T builder w).2
  | .updateDoc T collection id data => (updateDoc z T collection id data w).2

/-- The remote database is shared: it may be anything at any time. -/
def step (s : AppSession) : SessionEvent → Option AppSession
  | .signOut =>
      match s.stage with
      | none => some { s with stage := some .removingToken }
      | some _ => none
  | .proceed ok => s.stage.bind (fun stage => s.proceed stage ok)
  | .signIn => some { s with returned := none }
  | .observe listener => some (s.observe listener)
  | .removeDocListener collection id => some (s.removeDocListener collection id)
  | .removeCollectionListener q => some (s.removeCollectionListener q)
  | .deliver i event =>
      match s.subscriptions[i]? with
      | some ⟨listener, true⟩ => (handle z s.world.realm listener event).map s.setRealm
      | _ => none
  | .request call => some { s with calls := s.calls ++ [call] }
  | .reply i =>
      (s.calls[i]?).map (fun call =>
        { s with world := answer z ids s.world call, calls := s.calls.eraseIdx i })
  | .fail i => (s.calls[i]?).map (fun _ => { s with calls := s.calls.eraseIdx i })
  | .remote f => some { s with world := { s.world with remote := f } }

end AppSession

section Rows

variable (z : Zone) (ids : AutoId)

def decodedRows {T : Model} : Except DartError (Entity T) → List RowEvent
  | .ok e => [.upsert T e]
  | .error _ => []

def documentRows (T : Model) : List (Sigma fun _ : String => Doc) → List RowEvent
  | [] => []
  | ⟨id, d⟩ :: docs =>
      match fromDocumentSnapshot z T id d with
      | .ok e => .upsert T e :: documentRows T docs
      | .error _ => []

def changeRows (T : Model) : List DocumentChange → List RowEvent
  | [] => []
  | .added _ data :: changes | .modified _ data :: changes =>
      match fromMap z T data with
      | .ok e => .upsert T e :: changeRows T changes
      | .error _ => []
  | .removed id :: changes => .delete T id :: changeRows T changes

def RealmListener.rows : RealmListener → ListenerEvent → List RowEvent
  | .document T _ id, .document (some d) => decodedRows (fromDocumentSnapshot z T id d)
  | .document T _ id, .document none => [.delete T id]
  | .collection T _, .collection changes => changeRows z T changes
  | _, _ => []

def ServiceCall.rows (w : World) : ServiceCall → List RowEvent
  | .createDoc T collection id data => decodedRows (fromMap z T (newDoc ids collection id data w).2)
  | .getDoc T collection id =>
      match w.remote.doc collection id with
      | some d => decodedRows (fromDocumentSnapshot z T id d)
      | none => []
  | .getCollection T builder =>
      documentRows z T (builder.build.results (w.remote.docs builder.collection)).entries
  | .updateDoc T collection id data =>
      match w.remote.doc collection id with
      | some _ => decodedRows (fromMap z T (withId id data))
      | none => []

/-- The event stores no row: a row without an id is refused. -/
def RealmService.RowEvent.BringsNothing : RowEvent → Prop
  | .upsert T e => Entity.id T e = ""
  | .delete _ _ => True

def Realm.IsEmpty (r : Realm) : Prop := ∀ T id, r.find T id = none

variable {z ids} {T : Model} {r : Realm} {w : World}

theorem foldl_documentRows (docs : List (Sigma fun _ : String => Doc)) (r : Realm) :
    (storeAll z T docs r).2 = (documentRows z T docs).foldl RowEvent.apply r := by
  induction docs generalizing r with
  | nil => rfl
  | cons e docs ih =>
      obtain ⟨id, d⟩ := e
      unfold storeAll documentRows
      cases fromDocumentSnapshot z T id d with
      | ok e => exact ih (createUnawaited r T e)
      | error err => rfl

theorem foldl_changeRows (changes : List DocumentChange) (r : Realm) :
    onDocChanges z T changes r = (changeRows z T changes).foldl RowEvent.apply r := by
  induction changes generalizing r with
  | nil => rfl
  | cons change changes ih =>
      cases change with
      | added id data =>
          unfold onDocChanges changeRows
          cases fromMap z T data with
          | ok e => exact ih (createUnawaited r T e)
          | error err => rfl
      | modified id data =>
          unfold onDocChanges changeRows
          cases fromMap z T data with
          | ok e => exact ih (createUnawaited r T e)
          | error err => rfl
      | removed id => exact ih (deleteEntity r T id)

theorem foldl_rows_of_handle {listener : RealmListener} {event : ListenerEvent} {r' : Realm}
    (h : AppSession.handle z r listener event = some r') :
    r' = (listener.rows z event).foldl RowEvent.apply r := by
  cases listener with
  | document T collection id =>
      cases event with
      | collection changes => cases h
      | document event =>
          cases h
          cases event with
          | none => rfl
          | some d =>
              dsimp only [onDocument, RealmListener.rows]
              cases fromDocumentSnapshot z T id d <;> rfl
  | collection T q =>
      cases event with
      | document event => cases h
      | collection changes =>
          cases h
          exact foldl_changeRows changes r

theorem mirror_realm (data : Doc) (w : World) : (mirror z T data w).2.realm =
    (decodedRows (fromMap z T data)).foldl RowEvent.apply w.realm := by
  unfold mirror
  cases fromMap z T data <;> rfl

theorem realm_answer (call : ServiceCall) :
    (AppSession.answer z ids w call).realm = (call.rows z ids w).foldl RowEvent.apply w.realm := by
  cases call with
  | createDoc T collection id data =>
      have hmirror := mirror_realm (z := z) (T := T) (newDoc ids collection id data w).2
        ⟨w.remote.set collection (newDoc ids collection id data w).1
          (newDoc ids collection id data w).2, w.realm⟩
      unfold AppSession.answer createDoc
      dsimp only
      split
      all_goals
        rename_i hm
        rw [hm] at hmirror
        exact hmirror
  | getDoc T collection id =>
      dsimp only [AppSession.answer, getDoc, ServiceCall.rows]
      cases w.remote.doc collection id with
      | none => rfl
      | some d =>
          dsimp only
          cases fromDocumentSnapshot z T id d <;> rfl
  | getCollection T builder => exact foldl_documentRows _ _
  | updateDoc T collection id data =>
      dsimp only [AppSession.answer, updateDoc, ServiceCall.rows, Firestore.update]
      cases w.remote.doc collection id with
      | none => rfl
      | some d => exact mirror_realm _ _

theorem deleteEntity_of_isEmpty (hr : r.IsEmpty) (id : String) : deleteEntity r T id = r := by
  unfold deleteEntity
  rw [hr T id]

theorem apply_of_isEmpty (hr : r.IsEmpty) {event : RowEvent} (h : event.BringsNothing) :
    event.apply r = r := by
  cases event with
  | upsert T e => exact createUnawaited_of_empty h
  | delete T id => exact deleteEntity_of_isEmpty hr id

theorem foldl_apply_of_isEmpty (hr : r.IsEmpty) {events : List RowEvent}
    (h : ∀ event ∈ events, event.BringsNothing) : events.foldl RowEvent.apply r = r := by
  induction events with
  | nil => rfl
  | cons event events ih =>
      obtain ⟨hevent, hevents⟩ := List.forall_mem_cons.mp h
      rw [List.foldl_cons, apply_of_isEmpty hr hevent]
      exact ih hevents

theorem isEmpty_deleteAll (r : Realm) : (deleteAll r).IsEmpty := find_deleteAll r

end Rows

namespace AppSession

variable {z : Zone} {ids : AutoId} {s s' : AppSession}

/-- When what a sign-out awaits completes, the program of `signOut` goes on to its next await, or it
is still at `removeAllListeners`. -/
theorem rest_of_proceed {stage stage' : SignOutStage} (h : s.proceed stage true = some s')
    (hstage : s'.stage = some stage') : stage'.rest = stage.rest ∨
      ∃ op k reply, stage.rest = .await op k ∧ stage'.rest = k (.ok reply) := by
  have hcollections (s : AppSession) (subs : List ℕ)
      (h : (s.cancelCollections subs).stage = some stage') :
      stage'.rest = SignOutStage.listenersRemoved.rest := by
    cases subs <;> cases h <;> rfl
  have hdocuments (s : AppSession) (subs : List ℕ)
      (h : (s.cancelDocuments subs).stage = some stage') :
      stage'.rest = SignOutStage.listenersRemoved.rest := by
    cases subs with
    | nil => exact hcollections _ _ h
    | cons i rest =>
        cases h
        rfl
  cases stage with
  | removingToken =>
      cases h
      cases hstage
      exact .inr ⟨_, _, (), rfl, rfl⟩
  | signingOut =>
      cases h
      exact .inr ⟨_, _, (), rfl, hdocuments _ _ hstage⟩
  | cancellingDocuments rest =>
      cases h
      exact .inl (hdocuments _ _ hstage)
  | cancellingCollections rest =>
      cases h
      exact .inl (hcollections _ _ hstage)
  | listenersRemoved =>
      cases h
      cases hstage
      exact .inr ⟨_, _, (), rfl, rfl⟩
  | storeDeleted =>
      cases h
      cases hstage

/-- While a sign-out has returned and nobody has signed in since, there are no rows, and the
subscriptions there were at that moment are not active. -/
def LeavesNothing (s : AppSession) : Prop :=
  ∀ n, s.returned = some n → s.world.realm.IsEmpty ∧
    ∀ i < n, ∀ sub, s.subscriptions[i]? = some sub → sub.active = false

def Deleted (s : AppSession) : Prop := s.returned.isSome ∨ s.stage = some .storeDeleted

/-- No listener is started after its map has been cleared and before the sign-out returns, no
cancellation fails with others still to be asked for, the deletion does not fail, and no row comes
in after it. -/
def Undisturbed (z : Zone) (ids : AutoId) (s : AppSession) : SessionEvent → Prop
  | .observe (.document _ collection id) =>
      (∀ stage ∈ s.stage, stage.documentsCleared = false) ∨
        s.observedDocuments.lookup (collection, id) ≠ none
  | .observe (.collection _ q) =>
      (∀ stage ∈ s.stage, stage.collectionsCleared = false) ∨
        s.observedCollections.lookup q ≠ none
  | .proceed false => ∀ stage ∈ s.stage, stage.remaining = [] ∧
      (stage = .listenersRemoved → s.world.realm.IsEmpty)
  | .deliver i event => s.Deleted → ∀ sub, s.subscriptions[i]? = some sub →
      ∀ row ∈ sub.listener.rows z event, row.BringsNothing
  | .reply i => s.Deleted → ∀ call, s.calls[i]? = some call →
      ∀ row ∈ call.rows z ids s.world, row.BringsNothing
  | _ => True

/-- The subscriptions that are in no map any more and still to be cancelled. -/
def pending (s : AppSession) : List ℕ := (s.stage.map SignOutStage.remaining).getD []

/-- The subscription is in a map or still to be cancelled. -/
def Accounted (s : AppSession) (pending : List ℕ) (i : ℕ) : Prop :=
  i ∈ FiniteMap.values s.observedDocuments ∨ i ∈ FiniteMap.values s.observedCollections ∨
    i ∈ pending

structure Sound (s : AppSession) (pending : List ℕ) : Prop where
  accounted : ∀ i sub, s.subscriptions[i]? = some sub → sub.active = true → s.Accounted pending i
  bound : ∀ n, s.returned = some n → n ≤ s.subscriptions.length
  leavesNothing : s.LeavesNothing

structure Inv (s : AppSession) : Prop where
  sound : s.Sound s.pending
  documents : ∀ stage ∈ s.stage, stage.documentsCleared = true → s.observedDocuments = ∅
  collections : ∀ stage ∈ s.stage, stage.collectionsCleared = true → s.observedCollections = ∅
  deleted : s.stage = some .storeDeleted → s.world.realm.IsEmpty

theorem inv_start (w : World) : Inv (start w) where
  sound := ⟨fun _ _ hsub => by simp [start] at hsub, nofun, nofun⟩
  documents := nofun
  collections := nofun
  deleted := nofun

section Listeners

variable {pending : List ℕ}

theorem getElem?_cancel {i j : ℕ} {sub : RealmSubscription}
    (h : (s.cancel i).subscriptions[j]? = some sub) :
    ∃ sub₀, s.subscriptions[j]? = some sub₀ ∧ (i = j → sub.active = false) ∧
      (sub₀.active = false → sub.active = false) := by
  simp only [cancel, List.getElem?_modify, Option.map_eq_map, Option.map_eq_some_iff] at h
  obtain ⟨sub₀, hsub₀, rfl⟩ := h
  refine ⟨sub₀, hsub₀, ?_, ?_⟩
  · intro hij
    rw [if_pos hij]
  · intro hactive
    split_ifs
    · rfl
    · exact hactive

/-- A cancelled subscription need not be accounted for. -/
theorem Sound.cancelled {i : ℕ} {pending' : List ℕ} (h : s.Sound pending)
    (hsubscriptions : s'.subscriptions = (s.cancel i).subscriptions)
    (hreturned : s'.returned = s.returned) (hworld : s'.world = s.world)
    (hother : ∀ j, j ≠ i → s.Accounted pending j → s'.Accounted pending' j) :
    s'.Sound pending' where
  accounted j sub hsub hactive := by
    rw [hsubscriptions] at hsub
    obtain ⟨sub₀, hsub₀, hself, hkept⟩ := getElem?_cancel hsub
    apply hother
    · rintro rfl
      rw [hself rfl] at hactive
      cases hactive
    · apply h.accounted j sub₀ hsub₀
      by_contra hne
      rw [hkept (Bool.eq_false_of_not_eq_true hne)] at hactive
      cases hactive
  bound n hn := by
    rw [hsubscriptions, cancel, List.length_modify]
    exact h.bound n (hreturned ▸ hn)
  leavesNothing n hn := by
    obtain ⟨hempty, hinactive⟩ := h.leavesNothing n (hreturned ▸ hn)
    rw [hworld, hsubscriptions]
    refine ⟨hempty, ?_⟩
    intro j hj sub hsub
    obtain ⟨sub₀, hsub₀, -, hkept⟩ := getElem?_cancel hsub
    exact hkept (hinactive j hj sub₀ hsub₀)

theorem Sound.cancel {i : ℕ} (h : s.Sound (i :: pending)) : (s.cancel i).Sound pending := by
  refine h.cancelled rfl rfl rfl ?_
  intro j hj haccounted
  obtain hdoc | hcoll | hmem := haccounted
  · exact .inl hdoc
  · exact .inr (.inl hcoll)
  · exact .inr (.inr ((List.mem_cons.mp hmem).resolve_left hj))

/-- The first loop takes the documents' subscriptions out of their map. -/
theorem Sound.clearDocuments (h : s.Sound []) :
    Sound { s with observedDocuments := ∅ } (FiniteMap.values s.observedDocuments) where
  accounted i sub hsub hactive := by
    obtain hdoc | hcoll | hmem := h.accounted i sub hsub hactive
    · exact .inr (.inr hdoc)
    · exact .inr (.inl hcoll)
    · exact absurd hmem List.not_mem_nil
  bound := h.bound
  leavesNothing := h.leavesNothing

theorem Sound.clearCollections (h : s.Sound []) :
    Sound { s with observedCollections := ∅ } (FiniteMap.values s.observedCollections) where
  accounted i sub hsub hactive := by
    obtain hdoc | hcoll | hmem := h.accounted i sub hsub hactive
    · exact .inl hdoc
    · exact .inr (.inr hcoll)
    · exact absurd hmem List.not_mem_nil
  bound := h.bound
  leavesNothing := h.leavesNothing

theorem inv_cancelCollections {subs : List ℕ} (h : s.Sound subs) (hdoc : s.observedDocuments = ∅)
    (hcoll : s.observedCollections = ∅) : Inv (s.cancelCollections subs) := by
  cases subs with
  | nil =>
      exact ⟨⟨h.accounted, h.bound, h.leavesNothing⟩, fun _ _ _ => hdoc, fun _ _ _ => hcoll, nofun⟩
  | cons i rest =>
      have hcancel := h.cancel
      exact ⟨⟨hcancel.accounted, hcancel.bound, hcancel.leavesNothing⟩, fun _ _ _ => hdoc,
        fun _ _ _ => hcoll, nofun⟩

theorem inv_cancelDocuments {subs : List ℕ} (h : s.Sound subs) (hdoc : s.observedDocuments = ∅) :
    Inv (s.cancelDocuments subs) := by
  cases subs with
  | nil => exact inv_cancelCollections h.clearCollections hdoc rfl
  | cons i rest =>
      have hcancel := h.cancel
      refine ⟨⟨hcancel.accounted, hcancel.bound, hcancel.leavesNothing⟩, fun _ _ _ => hdoc, ?_,
        nofun⟩
      intro stage hstage hcleared
      cases hstage
      cases hcleared

/-- A new subscription is accounted for at once. -/
theorem Sound.subscribed (h : s.Sound pending) {listener : RealmListener}
    (hsubscriptions : s'.subscriptions = s.subscriptions ++ [⟨listener, true⟩])
    (hreturned : s'.returned = s.returned) (hworld : s'.world = s.world)
    (hold : ∀ i, s.Accounted pending i → s'.Accounted pending i)
    (hnew : s'.Accounted pending s.subscriptions.length) : s'.Sound pending where
  accounted i sub hsub hactive := by
    rw [hsubscriptions] at hsub
    by_cases hi : i < s.subscriptions.length
    · rw [List.getElem?_append_left hi] at hsub
      exact hold i (h.accounted i sub hsub hactive)
    · obtain ⟨hlt, -⟩ := List.getElem?_eq_some_iff.mp hsub
      rw [List.length_append, List.length_singleton] at hlt
      have hlast : i = s.subscriptions.length := by omega
      rw [hlast]
      exact hnew
  bound n hn := by
    have hle := h.bound n (hreturned ▸ hn)
    rw [hsubscriptions, List.length_append]
    omega
  leavesNothing n hn := by
    rw [hreturned] at hn
    obtain ⟨hempty, hinactive⟩ := h.leavesNothing n hn
    rw [hworld, hsubscriptions]
    refine ⟨hempty, ?_⟩
    intro i hi sub hsub
    rw [List.getElem?_append_left (hi.trans_le (h.bound n hn))] at hsub
    exact hinactive i hi sub hsub

theorem inv_observe {listener : RealmListener} (h : Inv s)
    (hC : Undisturbed z ids s (.observe listener)) : Inv (s.observe listener) := by
  cases listener with
  | document T collection id =>
      cases hkey : s.observedDocuments.lookup (collection, id) with
      | some i =>
          simp only [observe, hkey]
          exact h
      | none =>
          simp only [observe, hkey]
          have hopen := hC.resolve_right (not_not_intro hkey)
          refine ⟨?_, ?_, h.collections, h.deleted⟩
          · refine h.sound.subscribed rfl rfl rfl ?_ ?_
            · intro i haccounted
              exact haccounted.imp_left (FiniteMap.mem_values_insert_of_new hkey)
            · exact .inl (FiniteMap.mem_values_insert_self _ _ _)
          · intro stage hstage hcleared
            rw [hopen stage hstage] at hcleared
            cases hcleared
  | collection T q =>
      cases hkey : s.observedCollections.lookup q with
      | some i =>
          simp only [observe, hkey]
          exact h
      | none =>
          simp only [observe, hkey]
          have hopen := hC.resolve_right (not_not_intro hkey)
          refine ⟨?_, h.documents, ?_, h.deleted⟩
          · refine h.sound.subscribed rfl rfl rfl ?_ ?_
            · intro i haccounted
              exact haccounted.imp_right (Or.imp_left (FiniteMap.mem_values_insert_of_new hkey))
            · exact .inr (.inl (FiniteMap.mem_values_insert_self _ _ _))
          · intro stage hstage hcleared
            rw [hopen stage hstage] at hcleared
            cases hcleared

theorem inv_removeDocListener (h : Inv s) (collection id : String) :
    Inv (s.removeDocListener collection id) := by
  unfold removeDocListener
  cases hkey : s.observedDocuments.lookup (collection, id) with
  | none => exact h
  | some i =>
      refine ⟨?_, ?_, h.collections, h.deleted⟩
      · refine h.sound.cancelled rfl rfl rfl ?_
        intro j hj haccounted
        exact haccounted.imp_left (fun hmem => FiniteMap.mem_values_erase hkey hmem hj)
      · intro stage hstage hcleared
        rw [h.documents stage hstage hcleared] at hkey
        cases hkey

theorem inv_removeCollectionListener (h : Inv s) (q : Query) :
    Inv (s.removeCollectionListener q) := by
  unfold removeCollectionListener
  cases hkey : s.observedCollections.lookup q with
  | none => exact h
  | some i =>
      refine ⟨?_, h.documents, ?_, h.deleted⟩
      · refine h.sound.cancelled rfl rfl rfl ?_
        intro j hj haccounted
        exact haccounted.imp_right
          (Or.imp_left (fun hmem => FiniteMap.mem_values_erase hkey hmem hj))
      · intro stage hstage hcleared
        rw [h.collections stage hstage hcleared] at hkey
        cases hkey

end Listeners

section Steps

theorem Deleted.isEmpty (h : Inv s) (hdeleted : s.Deleted) : s.world.realm.IsEmpty := by
  obtain hreturned | hstage := hdeleted
  · obtain ⟨n, hn⟩ := Option.isSome_iff_exists.mp hreturned
    exact (h.sound.leavesNothing n hn).1
  · exact h.deleted hstage

/-- Only the store matters of the world, and that only after its deletion. -/
theorem inv_setWorld (h : Inv s) {w : World} {calls : List ServiceCall}
    (hw : s.Deleted → w.realm.IsEmpty) : Inv { s with world := w, calls := calls } := by
  refine ⟨⟨h.sound.accounted, h.sound.bound, ?_⟩, h.documents, h.collections, ?_⟩
  · intro n hn
    have hsome : s.returned.isSome := Option.isSome_of_eq_some hn
    exact ⟨hw (.inl hsome), (h.sound.leavesNothing n hn).2⟩
  · intro hstage
    exact hw (.inr hstage)

theorem isEmpty_of_rows {rows : List RowEvent} (h : Inv s)
    (hrows : s.Deleted → ∀ row ∈ rows, row.BringsNothing) (hdeleted : s.Deleted) :
    (rows.foldl RowEvent.apply s.world.realm).IsEmpty := by
  have hempty := hdeleted.isEmpty h
  rw [foldl_apply_of_isEmpty hempty (hrows hdeleted)]
  exact hempty

/-- Once the maps have been cleared and everything cancelled, no subscription is active. -/
theorem Inv.inactive (h : Inv s) (hstage : s.stage = some .storeDeleted) {i : ℕ}
    {sub : RealmSubscription} (hsub : s.subscriptions[i]? = some sub) : sub.active = false := by
  by_contra hactive
  have haccounted := h.sound.accounted i sub hsub (Bool.eq_true_of_not_eq_false hactive)
  rw [Accounted, h.documents _ hstage rfl, h.collections _ hstage rfl, pending, hstage]
    at haccounted
  obtain hmem | hmem | hmem := haccounted
  all_goals exact absurd hmem List.not_mem_nil

/-- A stage at which no map has been cleared yet, or no sign-out at all. -/
theorem inv_setStage (h : s.Sound []) {stage : Option SignOutStage}
    (hstage : stage = none ∨ stage = some .removingToken ∨ stage = some .signingOut) :
    Inv { s with stage := stage } := by
  obtain rfl | rfl | rfl := hstage
  · exact ⟨⟨h.accounted, h.bound, h.leavesNothing⟩, nofun, nofun, nofun⟩
  all_goals
    refine ⟨⟨h.accounted, h.bound, h.leavesNothing⟩, ?_, ?_, nofun⟩
    all_goals
      intro stage' hstage' hcleared
      cases hstage'
      cases hcleared

theorem inv_storeDeleted (h : s.Sound []) (hdoc : s.observedDocuments = ∅)
    (hcoll : s.observedCollections = ∅) {r : Realm} (hr : r.IsEmpty) :
    Inv { s.setRealm r with stage := some .storeDeleted } := by
  refine ⟨⟨h.accounted, h.bound, ?_⟩, fun _ _ _ => hdoc, fun _ _ _ => hcoll, fun _ => hr⟩
  intro n hn
  exact ⟨hr, (h.leavesNothing n hn).2⟩

theorem inv_proceed {stage : SignOutStage} {ok : Bool} (h : Inv s) (hstage : s.stage = some stage)
    (hC : Undisturbed z ids s (.proceed ok)) (hstep : s.proceed stage ok = some s') : Inv s' := by
  have hsound : s.Sound stage.remaining := by
    have hpending : s.pending = stage.remaining := by rw [pending, hstage]; rfl
    exact hpending ▸ h.sound
  cases ok with
  | false =>
      obtain ⟨hremaining, hempty⟩ := hC stage hstage
      rw [hremaining] at hsound
      cases stage with
      | storeDeleted => cases hstep
      | listenersRemoved =>
          cases hstep
          exact inv_storeDeleted hsound (h.documents _ hstage rfl) (h.collections _ hstage rfl)
            (hempty rfl)
      | _ =>
          cases hstep
          exact inv_setStage hsound (.inl rfl)
  | true =>
      cases stage with
      | removingToken =>
          cases hstep
          exact inv_setStage hsound (.inr (.inr rfl))
      | signingOut =>
          cases hstep
          exact inv_cancelDocuments hsound.clearDocuments rfl
      | cancellingDocuments rest =>
          cases hstep
          exact inv_cancelDocuments hsound (h.documents _ hstage rfl)
      | cancellingCollections rest =>
          cases hstep
          exact inv_cancelCollections hsound (h.documents _ hstage rfl)
            (h.collections _ hstage rfl)
      | listenersRemoved =>
          have hs' := Option.some.inj hstep
          rw [← hs']
          exact inv_storeDeleted hsound (h.documents _ hstage rfl) (h.collections _ hstage rfl)
            (isEmpty_deleteAll s.world.realm)
      | storeDeleted =>
          cases hstep
          refine ⟨⟨hsound.accounted, ?_, ?_⟩, nofun, nofun, nofun⟩
          · intro n hn
            cases hn
            exact le_rfl
          · intro n _
            exact ⟨h.deleted hstage, fun i _ sub hsub => h.inactive hstage hsub⟩

theorem inv_step {e : SessionEvent} (h : Inv s) (hC : Undisturbed z ids s e)
    (hstep : step z ids s e = some s') : Inv s' := by
  cases e with
  | signOut =>
      simp only [step] at hstep
      split at hstep
      · rename_i hstage
        cases hstep
        have hpending : s.pending = [] := by rw [pending, hstage]; rfl
        exact inv_setStage (hpending ▸ h.sound) (.inr (.inl rfl))
      · cases hstep
  | proceed ok =>
      obtain ⟨stage, hstage, hproceed⟩ := Option.bind_eq_some_iff.mp hstep
      exact inv_proceed h hstage hC hproceed
  | signIn =>
      cases hstep
      exact ⟨⟨h.sound.accounted, nofun, nofun⟩, h.documents, h.collections, h.deleted⟩
  | observe listener =>
      cases hstep
      exact inv_observe h hC
  | removeDocListener collection id =>
      cases hstep
      exact inv_removeDocListener h collection id
  | removeCollectionListener q =>
      cases hstep
      exact inv_removeCollectionListener h q
  | deliver i event =>
      simp only [step] at hstep
      split at hstep
      · rename_i listener hsub
        obtain ⟨r, hr, rfl⟩ := Option.map_eq_some_iff.mp hstep
        rw [foldl_rows_of_handle hr]
        exact inv_setWorld h (isEmpty_of_rows h (fun hdeleted => hC hdeleted _ hsub))
      · cases hstep
  | request call =>
      cases hstep
      exact inv_setWorld h (fun hdeleted => hdeleted.isEmpty h)
  | reply i =>
      obtain ⟨call, hcall, rfl⟩ := Option.map_eq_some_iff.mp hstep
      apply inv_setWorld h
      rw [realm_answer]
      exact isEmpty_of_rows h (fun hdeleted => hC hdeleted _ hcall)
  | fail i =>
      obtain ⟨call, -, rfl⟩ := Option.map_eq_some_iff.mp hstep
      exact inv_setWorld h (fun hdeleted => hdeleted.isEmpty h)
  | remote f =>
      cases hstep
      exact inv_setWorld h (fun hdeleted => hdeleted.isEmpty h)

end Steps

/-- In every run that is not disturbed, a sign-out that has returned has left nothing behind. -/
theorem leavesNothing_of_undisturbed (z : Zone) (ids : AutoId) (w : World)
    (events : List SessionEvent)
    (h : Execution.StepsMeet (step z ids) (Undisturbed z ids) (start w) events) :
    Execution.Always (step z ids) LeavesNothing (start w) events := by
  have hinv : Execution.Always (step z ids) Inv (start w) events :=
    Execution.always_of_stepsMeet (fun s e s' hs hC hstep => inv_step hs hC hstep) (inv_start w) h
  exact hinv.mono (fun s hs => hs.sound.leavesNothing)

section OneUser

def oneUser : World :=
  ⟨⟨Function.update (fun _ => ∅) FirestoreCollection.user
    (DartMap.ofList [("u1", DartMap.ofList [("id", .string "u1")])]), []⟩, Realm.empty⟩

def quietSignOut : List SessionEvent :=
  [.observe (.document .user FirestoreCollection.user "u1"),
    .deliver 0 (.document (oneUser.remote.doc FirestoreCollection.user "u1")),
    .request (.getDoc .user FirestoreCollection.user "u1"), .signOut, .proceed true, .proceed true,
    .proceed true, .proceed true, .proceed true, .fail 0]

theorem leavesNothing_of_undisturbed_quietSignOut : ∃ s,
    Execution.run (step Zone.utc AutoId.longer) (start oneUser) quietSignOut = some s ∧
      s.returned = some 1 ∧ s.world.realm.IsEmpty := by
  have hmeet : Execution.StepsMeet (step Zone.utc AutoId.longer)
      (Undisturbed Zone.utc AutoId.longer) (start oneUser) quietSignOut := by
    refine Execution.stepsMeet_cons (.inl nofun) rfl ?_
    refine Execution.stepsMeet_cons (fun hdeleted => ?_) rfl ?_
    · obtain hreturned | hstage := hdeleted
      · cases hreturned
      · cases hstage
    · iterate 8 refine Execution.stepsMeet_cons trivial rfl ?_
      trivial
  refine ⟨_, rfl, rfl, ?_⟩
  have hfinal := (leavesNothing_of_undisturbed Zone.utc AutoId.longer oneUser quietSignOut
    hmeet).final rfl
  exact (hfinal 1 rfl).1

def lateAnswer : List SessionEvent :=
  [.request (.getDoc .user FirestoreCollection.user "u1"), .signOut, .proceed true, .proceed true,
    .proceed true, .proceed true, .reply 0]

theorem late_answer_stays_behind : ∃ s,
    Execution.run (step Zone.utc AutoId.longer) (start oneUser) lateAnswer = some s ∧
      s.returned = some 0 ∧ (getEntity s.world.realm .user "u1").isSome ∧ ¬ s.LeavesNothing := by
  refine ⟨_, rfl, rfl, rfl, ?_⟩
  intro h
  have hnone := (h 0 rfl).1 .user "u1"
  cases hnone

end OneUser

end AppSession

end AirBnbClone
