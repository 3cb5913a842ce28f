import Mathlib.Algebra.Order.BigOperators.Group.List
import AirBnbClone.FirestoreMapper
import AirBnbClone.FirestoreQuery
import AirBnbClone.RealmService

/-!
# Firestore and `FireStoreService`

The remote database is a finite map of documents per collection, together with the history of the
writes it accepted. `FireStoreService` performs the remote operation first and mirrors it in the
local Realm afterwards; the future of the Realm write is not awaited, so its failure is silent.
-/

namespace AirBnbClone

namespace FirestoreCollection

def user : String := "users"
def posting : String := "postings"
def booking : String := "bookings"
def conversation : String := "conversations"
def message : String := "messages"
def favouritePosting : String := "favourite_postings"
def review : String := "reviews"

end FirestoreCollection

inductive FirestoreWrite
  | set (collection id : String)
  | update (collection id : String)
  | delete (collection id : String)
  deriving DecidableEq

def FirestoreWrite.collection : FirestoreWrite → String
  | .set collection _ => collection
  | .update collection _ => collection
  | .delete collection _ => collection

structure Firestore where
  docs : String → DartMap Doc
  history : List FirestoreWrite

namespace Firestore

def empty : Firestore := ⟨fun _ => ∅, []⟩

def doc (f : Firestore) (collection id : String) : Option Doc := (f.docs collection).lookup id

def putDoc (f : Firestore) (collection id : String) (data : Doc) (entry : FirestoreWrite) :
    Firestore :=
  ⟨Function.update f.docs collection ((f.docs collection).insert id data), f.history ++ [entry]⟩

/-- `doc.set(data)` replaces the whole document. -/
def set (f : Firestore) (collection id : String) (data : Doc) : Firestore :=
  f.putDoc collection id data (.set collection id)

/-- `doc.update(data)` merges the given top-level keys into an existing document. -/
def update (f : Firestore) (collection id : String) (data : Doc) : Except DartError Firestore :=
  match f.doc collection id with
  | none => .error .notFound
  | some d => .ok (f.putDoc collection id (data ∪ d) (.update collection id))

def delete (f : Firestore) (collection id : String) : Firestore :=
  ⟨Function.update f.docs collection ((f.docs collection).erase id),
    f.history ++ [.delete collection id]⟩

/-- How many accepted writes satisfy `p`. -/
def writes (f : Firestore) (p : FirestoreWrite → Bool) : ℕ := f.history.countP p

theorem writes_putDoc (f : Firestore) (collection id : String) (data : Doc)
    (entry : FirestoreWrite) (p : FirestoreWrite → Bool) :
    (f.putDoc collection id data entry).writes p = f.writes p + if p entry then 1 else 0 := by
  simp only [writes, putDoc, List.countP_append, List.countP_singleton]

theorem doc_putDoc (f : Firestore) (collection id : String) (data : Doc) (entry : FirestoreWrite)
    (c k : String) : (f.putDoc collection id data entry).doc c k =
      if c = collection ∧ k = id then some data else f.doc c k := by
  unfold doc putDoc
  dsimp only
  by_cases hc : c = collection
  · subst hc
    rw [Function.update_self, FiniteMap.lookup_insert_eq_ite]
    simp
  · rw [Function.update_of_ne hc, if_neg (fun h => hc h.1)]

theorem docs_putDoc_self (f : Firestore) (collection id : String) (data : Doc)
    (entry : FirestoreWrite) :
    (f.putDoc collection id data entry).docs collection = (f.docs collection).insert id data :=
  Function.update_self collection _ f.docs

theorem docs_putDoc_of_ne (f : Firestore) {collection c : String} (id : String) (data : Doc)
    (entry : FirestoreWrite) (h : c ≠ collection) :
    (f.putDoc collection id data entry).docs c = f.docs c :=
  Function.update_of_ne h _ _

end Firestore

/-- The generator behind `collection.doc()`: the new id differs from those in use. -/
structure AutoId where
  next : List String → String
  fresh : ∀ used, next used ∉ used
  nonempty : ∀ used, next used ≠ ""

/-- A generator that takes a string longer than all those in use. -/
def AutoId.longer : AutoId where
  next used := String.ofList (List.replicate ((used.map String.length).sum + 1) 'x')
  fresh used h := by
    have hle : (String.ofList (List.replicate ((used.map String.length).sum + 1) 'x')).length ≤
        (used.map String.length).sum :=
      List.single_le_sum (fun _ _ => Nat.zero_le _) _ (List.mem_map_of_mem h)
    rw [String.length_ofList, List.length_replicate] at hle
    omega
  nonempty used h := by
    have hlen := congrArg String.length h
    rw [String.length_ofList, List.length_replicate] at hlen
    exact absurd hlen (Nat.succ_ne_zero _)

/-- What a device's service acts on: the shared remote database and the device's own Realm. -/
structure World where
  remote : Firestore
  realm : Realm

namespace FireStoreService

open FirestoreMapper RealmService

def isNullOrEmpty (v : Value) : Bool := decide (v = .null ∨ v = .string "")

/-- `if (data["id"] == null || data["id"] == "") data["id"] = id`. -/
def withId (id : String) (data : Doc) : Doc :=
  if isNullOrEmpty (data.get "id") then data.insert "id" (.string id) else data

/-- The decoding and the unawaited Realm write that end `createDoc` and `updateDoc`. -/
def mirror (z : Zone) (T : Model) (data : Doc) (w : World) : Except DartError Unit × World :=
  match fromMap z T data with
  | .error e => (.error e, w)
  | .ok e => (.ok (), { w with realm := createUnawaited w.realm T e })

/-- The id under which `createDoc` stores a document, and the data it stores. -/
def newDoc (ids : AutoId) (collection : String) (id : Option String) (data : Doc) (w : World) :
    String × Doc :=
  let newId := ids.next (w.remote.docs collection).keys
  match id with
  | none => (newId, data.insert "id" (.string newId))
  | some i => if i = "" then (newId, data.insert "id" (.string newId)) else (i, withId i data)

def createDoc (z : Zone) (ids : AutoId) (T : Model) (collection : String) (id : Option String)
    (data : Doc) (w : World) : Except DartError String × World :=
  let doc := newDoc ids collection id data w
  match mirror z T doc.2 { w with remote := w.remote.set collection doc.1 doc.2 } with
  | (.error e, w) => (.error e, w)
  | (.ok (), w) => (.ok doc.1, w)

/-- The snapshot is the document, or nothing if it does not exist. -/
def getDoc (z : Zone) (T : Model) (collection id : String) (w : World) :
    Except DartError (Option Doc) × World :=
  match w.remote.doc collection id with
  | none => (.ok none, w)
  | some d =>
      match fromDocumentSnapshot z T id d with
      | .error e => (.error e, w)
      | .ok e => (.ok (some d), { w with realm := createUnawaited w.realm T e })

/-- The `map` of `getCollection`: a document that does not decode ends it with the error, and the
rows before it stay written. -/
def storeAll (z : Zone) (T : Model) : List (Sigma fun _ : String => Doc) → Realm →
    Except DartError Unit × Realm
  | [], r => (.ok (), r)
  | ⟨id, d⟩ :: docs, r =>
      match fromDocumentSnapshot z T id d with
      | .error e => (.error e, r)
      | .ok e => storeAll z T docs (createUnawaited r T e)

def getCollection (z : Zone) (T : Model) (builder : FirestoreQueryBuilder) (w : World) :
    Except DartError Unit × World :=
  let docs := builder.build.results (w.remote.docs builder.collection)
  let (result, realm) := storeAll z T docs.entries w.realm
  (result, { w with realm := realm })

def updateDoc (z : Zone) (T : Model) (collection id : String) (data : Doc) (w : World) :
    Except DartError Unit × World :=
  match w.remote.update collection id data with
  | .error e => (.error e, w)
  | .ok remote => mirror z T (withId id data) { w with remote := remote }

def deleteDoc (T : Model) (collection id : String) (w : World) : World :=
  { remote := w.remote.delete collection id, realm := deleteEntity w.realm T id }

variable {z : Zone} {T : Model} {id : String} {data : Doc}

theorem get_withId (k : String) :
    (withId id data).get k =
      if k = "id" ∧ isNullOrEmpty (data.get "id") then .string id else data.get k := by
  unfold withId
  split_ifs with h₁ h₂ h₂
  · rw [Doc.get_insert, if_pos h₂.1]
  · rw [Doc.get_insert, if_neg (fun hk => h₂ ⟨hk, h₁⟩)]
  · exact absurd h₂.2 h₁
  · rfl

theorem mirror_eq_ok {w w' : World} (h : mirror z T data w = (.ok (), w')) :
    ∃ e, fromMap z T data = .ok e ∧ w' = { w with realm := createUnawaited w.realm T e } := by
  unfold mirror at h
  cases he : fromMap z T data with
  | error e => simp [he] at h
  | ok e => exact ⟨e, rfl, by simpa [he] using h.symm⟩

theorem updateDoc_eq_ok {collection : String} {w w' : World}
    (h : updateDoc z T collection id data w = (.ok (), w')) :
    ∃ D e, w.remote.doc collection id = some D ∧ fromMap z T (withId id data) = .ok e ∧
      w' = ⟨w.remote.putDoc collection id (data ∪ D) (.update collection id),
        createUnawaited w.realm T e⟩ := by
  unfold updateDoc Firestore.update at h
  cases hD : w.remote.doc collection id with
  | none => simp [hD] at h
  | some D =>
      rw [hD] at h
      obtain ⟨e, he, hw⟩ := mirror_eq_ok h
      exact ⟨D, e, rfl, he, hw⟩

end FireStoreService

section Rows

open FirestoreMapper FireStoreService RealmService

variable {z : Zone} {T : Model} {docs : List (Sigma fun _ : String => Doc)} {r r' : Realm}

/-- Documents that hold their own, non-empty id or none. -/
def OwnId (k : String) (D : Doc) : Prop := k ≠ "" ∧ (D.get "id" = .null ∨ D.get "id" = .string k)

theorem getEntity_storeAll_of_notMem {k : String} (hown : ∀ e ∈ docs, OwnId e.1 e.2)
    (hk : k ∉ docs.map Sigma.fst) (h : storeAll z T docs r = (.ok (), r')) :
    getEntity r' T k = getEntity r T k := by
  induction docs generalizing r with
  | nil =>
      cases h
      rfl
  | cons e docs ih =>
      obtain ⟨he, hdocs⟩ := List.forall_mem_cons.mp hown
      rw [List.map_cons, List.mem_cons, not_or] at hk
      unfold storeAll at h
      cases hx : fromDocumentSnapshot z T e.1 e.2 with
      | error err =>
          rw [hx] at h
          cases h
      | ok x =>
          rw [hx] at h
          have hid : Entity.id T x = e.1 := id_of_fromDocumentSnapshot_ok he.2 hx
          rw [ih hdocs hk.2 h, getEntity_createUnawaited, if_neg]
          rintro ⟨-, hke⟩
          exact hk.1 (hke.trans hid)

/-- Once all documents are stored, each can be read back. -/
theorem getEntity_storeAll (hown : ∀ e ∈ docs, OwnId e.1 e.2) (hnodup : docs.NodupKeys)
    (h : storeAll z T docs r = (.ok (), r')) {e : Sigma fun _ : String => Doc} (he : e ∈ docs) :
    ∃ x, fromDocumentSnapshot z T e.1 e.2 = .ok x ∧ getEntity r' T e.1 = some x := by
  induction docs generalizing r with
  | nil => exact absurd he List.not_mem_nil
  | cons e' docs ih =>
      obtain ⟨he', hdocs⟩ := List.forall_mem_cons.mp hown
      obtain ⟨hnotMem, hnodup'⟩ := List.nodupKeys_cons.mp hnodup
      unfold storeAll at h
      cases hx : fromDocumentSnapshot z T e'.1 e'.2 with
      | error err =>
          rw [hx] at h
          cases h
      | ok x =>
          rw [hx] at h
          rcases List.mem_cons.mp he with rfl | he
          · have hid : Entity.id T x = e.1 := id_of_fromDocumentSnapshot_ok he'.2 hx
            refine ⟨x, hx, ?_⟩
            rw [getEntity_storeAll_of_notMem hdocs hnotMem h, getEntity_createUnawaited,
              if_pos ⟨hid ▸ he'.1, hid.symm⟩]
          · exact ih hdocs hnodup' h he

/-- Documents under their own ids that all decode. -/
structure Readable (z : Zone) (T : Model) (docs : DartMap Doc) : Prop where
  own : ∀ k D, docs.lookup k = some D → OwnId k D
  decodes : ∀ k D, docs.lookup k = some D → ∃ x, fromDocumentSnapshot z T k D = .ok x

theorem readable_empty (z : Zone) (T : Model) : Readable z T ∅ where
  own k D h := by cases h
  decodes k D h := by cases h

theorem Readable.insert {docs : DartMap Doc} (h : Readable z T docs) {k : String} {D : Doc}
    (hown : OwnId k D) (hdecodes : ∃ x, fromDocumentSnapshot z T k D = .ok x) :
    Readable z T (docs.insert k D) := by
  have hcases {k' : String} {D' : Doc} (h' : (docs.insert k D).lookup k' = some D') :
      k' = k ∧ D' = D ∨ docs.lookup k' = some D' := by
    rw [FiniteMap.lookup_insert_eq_ite] at h'
    split_ifs at h' with hk
    · exact .inl ⟨hk, (Option.some.inj h').symm⟩
    · exact .inr h'
  constructor
  · intro k' D' h'
    obtain ⟨rfl, rfl⟩ | h' := hcases h'
    · exact hown
    · exact h.own k' D' h'
  · intro k' D' h'
    obtain ⟨rfl, rfl⟩ | h' := hcases h'
    · exact hdecodes
    · exact h.decodes k' D' h'

theorem exists_storeAll (h : ∀ e ∈ docs, ∃ x, fromDocumentSnapshot z T e.1 e.2 = .ok x)
    (r : Realm) : ∃ r', storeAll z T docs r = (.ok (), r') := by
  induction docs generalizing r with
  | nil => exact ⟨r, rfl⟩
  | cons e docs ih =>
      obtain ⟨⟨x, hx⟩, hdocs⟩ := List.forall_mem_cons.mp h
      obtain ⟨r', hr'⟩ := ih hdocs (createUnawaited r T x)
      refine ⟨r', ?_⟩
      simpa only [storeAll, hx] using hr'

/-- A fetch replaces the rows of the documents it selects and keeps the others. -/
theorem getCollection_of_readable {builder : FirestoreQueryBuilder} {w : World}
    (h : Readable z T (w.remote.docs builder.collection)) :
    ∃ r', getCollection z T builder w = (.ok (), { w with realm := r' }) ∧
      ∀ k, (∀ D, (builder.build.results (w.remote.docs builder.collection)).lookup k = some D →
          ∃ x, fromDocumentSnapshot z T k D = .ok x ∧ getEntity r' T k = some x) ∧
        ((builder.build.results (w.remote.docs builder.collection)).lookup k = none →
          getEntity r' T k = getEntity w.realm T k) := by
  set docs := builder.build.results (w.remote.docs builder.collection) with hdocs
  have hmem (e : Sigma fun _ : String => Doc) (he : e ∈ docs.entries) :
      (w.remote.docs builder.collection).lookup e.1 = some e.2 :=
    AList.mem_lookup_iff.mpr (Query.mem_entries_of_results he)
  have hown : ∀ e ∈ docs.entries, OwnId e.1 e.2 := fun e he => h.own e.1 e.2 (hmem e he)
  obtain ⟨r', hr'⟩ := exists_storeAll (r := w.realm)
    (fun e he => h.decodes e.1 e.2 (hmem e he))
  refine ⟨r', ?_, ?_⟩
  · simp only [getCollection, ← hdocs, hr']
  · intro k
    constructor
    · intro D hD
      exact getEntity_storeAll hown docs.nodupKeys hr' (AList.mem_lookup_iff.mp hD)
    · intro hk
      exact getEntity_storeAll_of_notMem hown (AList.lookup_eq_none.mp hk) hr'

end Rows

end AirBnbClone
