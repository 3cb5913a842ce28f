import AirBnbClone.DocChanges
import AirBnbClone.Execution
import AirBnbClone.StoreConvergence

/-!
# A listener keeps the rows a fresh fetch would write

One listener follows a query and is the only writer of its type. It applies the changes of each
snapshot, in whatever order they are listed, to the rows it has; `getCollection` decodes the whole
result into an empty store. After every snapshot both hold the same entities, although the two
paths decode a document by different functions.
-/

namespace AirBnbClone

open FirestoreMapper RealmService FireStoreService QuerySnapshot KeyedEvents

namespace DocumentChange

def id : DocumentChange → String
  | added id _ => id
  | modified id _ => id
  | removed id => id

/-- The change carries a document that decodes to a row with the document's own id. -/
def Decodes (z : Zone) (T : Model) : DocumentChange → Prop
  | added id data => DecodesAs z T id data
  | modified id data => DecodesAs z T id data
  | removed _ => True

def apply (z : Zone) (T : Model) (r : Realm) : DocumentChange → Realm
  | added id data | modified id data =>
      match fromMap z T data with
      | .ok e => if Entity.id T e = id then createUnawaited r T e else r
      | .error _ => r
  | removed id => deleteEntity r T id

end DocumentChange

section Changes

variable {z : Zone} {T : Model} {old new : DartMap Doc} {r : Realm}

theorem onDocChanges_eq_foldl {changes : List DocumentChange}
    (h : ∀ c ∈ changes, c.Decodes z T) (r : Realm) :
    onDocChanges z T changes r = changes.foldl (DocumentChange.apply z T) r := by
  induction changes generalizing r with
  | nil => rfl
  | cons c changes ih =>
      obtain ⟨hc, hchanges⟩ := List.forall_mem_cons.mp h
      rw [List.foldl_cons, ← ih hchanges]
      cases c with
      | added id data =>
          obtain ⟨x, hx, hid⟩ := DecodesAs.exists_ok hc
          simp only [onDocChanges, DocumentChange.apply, hx, if_pos hid]
      | modified id data =>
          obtain ⟨x, hx, hid⟩ := DecodesAs.exists_ok hc
          simp only [onDocChanges, DocumentChange.apply, hx, if_pos hid]
      | removed id => rfl

theorem id_of_upsertion? {e : Sigma fun _ : String => Doc} {c : DocumentChange}
    (h : upsertion? old e = some c) : c.id = e.1 := by
  unfold upsertion? at h
  split at h
  · cases h
    rfl
  · split_ifs at h
    cases h
    rfl

theorem ids_removals : (removals old new).map DocumentChange.id =
    old.keys.filter (fun id => (new.lookup id).isNone) := by
  rw [removals, List.map_map]
  exact List.map_id _

theorem ids_upsertions (es : List (Sigma fun _ : String => Doc)) :
    ((es.filterMap (upsertion? old)).map DocumentChange.id).Sublist (es.map Sigma.fst) := by
  induction es with
  | nil => exact List.Sublist.refl _
  | cons e es ih =>
      rw [List.filterMap_cons]
      cases hu : upsertion? old e with
      | none => exact ih.cons _
      | some c =>
          rw [List.map_cons, List.map_cons, id_of_upsertion? hu]
          exact ih.cons_cons _

/-- A document is listed once. -/
theorem ids_docChanges_nodup : ((docChanges old new).map DocumentChange.id).Nodup := by
  have hnew : (((additionsFirst old new).filterMap (upsertion? old)).map
      DocumentChange.id).Nodup :=
    List.Nodup.sublist (ids_upsertions _) (additionsFirst_nodupKeys old new)
  rw [docChanges, List.map_append, ids_removals, List.nodup_append']
  refine ⟨old.nodupKeys.filter _, hnew, ?_⟩
  intro id hold hid
  have hmem : id ∈ new :=
    ((additionsFirst_perm old new).map Sigma.fst).subset ((ids_upsertions _).subset hid)
  have hnone := (List.mem_filter.mp hold).2
  rw [Option.isNone_iff_eq_none, AList.lookup_eq_none] at hnone
  exact hnone hmem

theorem decodes_docChanges (h : ∀ e ∈ new.entries, DecodesAs z T e.1 e.2) :
    ∀ c ∈ docChanges old new, c.Decodes z T := by
  intro c hc
  rcases List.mem_append.mp hc with hc | hc
  · obtain ⟨id, -, rfl⟩ := List.mem_map.mp hc
    trivial
  · obtain ⟨e, hmem, hu⟩ := List.mem_filterMap.mp hc
    have he := (additionsFirst_perm old new).subset hmem
    unfold upsertion? at hu
    split at hu
    · cases hu
      exact h e he
    · split_ifs at hu
      cases hu
      exact h e he

theorem getEntity_apply_self {r' : Realm} (c : DocumentChange)
    (h : getEntity r T c.id = getEntity r' T c.id) :
    getEntity (c.apply z T r) T c.id = getEntity (c.apply z T r') T c.id := by
  have hwrite (id : String) (data : Doc) (h : getEntity r T id = getEntity r' T id) :
      getEntity (DocumentChange.apply z T r (.added id data)) T id =
        getEntity (DocumentChange.apply z T r' (.added id data)) T id := by
    simp only [DocumentChange.apply]
    split
    · split_ifs
      · rw [getEntity_createUnawaited, getEntity_createUnawaited, h]
      · exact h
    · exact h
  cases c with
  | added id data => exact hwrite id data h
  | modified id data => exact hwrite id data h
  | removed id =>
      change getEntity (deleteEntity r T id) T id = getEntity (deleteEntity r' T id) T id
      rw [getEntity_deleteEntity_self, getEntity_deleteEntity_self, if_pos rfl, if_pos rfl]

theorem getEntity_apply_of_ne (c : DocumentChange) {k : String} (hk : k ≠ c.id) :
    getEntity (c.apply z T r) T k = getEntity r T k := by
  have hwrite (id : String) (data : Doc) (h : k ≠ id) :
      getEntity (DocumentChange.apply z T r (.added id data)) T k = getEntity r T k := by
    simp only [DocumentChange.apply]
    split
    · split_ifs with hid
      · rw [getEntity_createUnawaited, if_neg]
        rintro ⟨-, rfl⟩
        exact h hid
      · rfl
    · rfl
  cases c with
  | added id data => exact hwrite id data hk
  | modified id data => exact hwrite id data hk
  | removed id => exact (getEntity_deleteEntity_self id k).trans (if_neg hk)

/-- Reordering the changes of a snapshot does not change the rows. -/
theorem getEntity_onDocChanges_perm (hnew : ∀ e ∈ new.entries, DecodesAs z T e.1 e.2)
    {changes : List DocumentChange} (h : changes.Perm (docChanges old new)) (r : Realm)
    (k : String) : getEntity (onDocChanges z T changes r) T k =
      getEntity (onDocChanges z T (docChanges old new) r) T k := by
  have hdecodes : ∀ c ∈ docChanges old new, c.Decodes z T := decodes_docChanges hnew
  rw [onDocChanges_eq_foldl hdecodes,
    onDocChanges_eq_foldl (fun c hc => hdecodes c (h.mem_iff.mp hc))]
  exact view_foldl_perm (fun r k => getEntity r T k) (fun _ _ c => getEntity_apply_self c)
    (fun _ c _ => getEntity_apply_of_ne c) r ids_docChanges_nodup h k

end Changes

section Fresh

variable {z : Zone} {T : Model} {docs : DartMap Doc}

def decodedRow (z : Zone) (T : Model) (docs : DartMap Doc) (id : String) : Option (Entity T) :=
  (docs.lookup id).bind (fun d => (fromMap z T d).toOption)

theorem id_of_decodesAs {id : String} {d : Doc} (h : DecodesAs z T id d) :
    d.get "id" = .string id := by
  obtain ⟨x, hx, hid⟩ := h.exists_ok
  have hstring := idString_of_fromMap_ok hx
  rw [hid] at hstring
  unfold Cast.idString at hstring
  split at hstring
  · exact absurd (Except.ok.inj hstring).symm h.1
  · rename_i s hs
    rw [hs, Except.ok.inj hstring]
  · cases hstring

/-- The two decoders agree on a document that holds its id. -/
theorem fromDocumentSnapshot_of_decodesAs {id : String} {d : Doc} (h : DecodesAs z T id d) :
    fromDocumentSnapshot z T id d = fromMap z T d := by
  unfold fromDocumentSnapshot withSnapshotId
  rw [id_of_decodesAs h, if_neg (by simp)]

theorem exists_fromDocumentSnapshot {id : String} {d : Doc} (h : DecodesAs z T id d) :
    ∃ x, fromDocumentSnapshot z T id d = .ok x := by
  obtain ⟨x, hx, -⟩ := h.exists_ok
  exact ⟨x, (fromDocumentSnapshot_of_decodesAs h).trans hx⟩

theorem getEntity_fresh (h : ∀ e ∈ docs.entries, DecodesAs z T e.1 e.2) {fresh : Realm}
    (hfresh : storeAll z T docs.entries Realm.empty = (.ok (), fresh)) (id : String) :
    getEntity fresh T id = decodedRow z T docs id := by
  have hown : ∀ e ∈ docs.entries, OwnId e.1 e.2 := by
    intro e he
    exact ⟨(h e he).1, .inr (id_of_decodesAs (h e he))⟩
  unfold decodedRow
  cases hd : docs.lookup id with
  | none =>
      rw [getEntity_storeAll_of_notMem hown (AList.lookup_eq_none.mp hd) hfresh]
      rfl
  | some d =>
      have hmem := AList.mem_lookup_iff.mp hd
      obtain ⟨x, hx, hrow⟩ := getEntity_storeAll hown docs.nodupKeys hfresh hmem
      rw [fromDocumentSnapshot_of_decodesAs (h _ hmem)] at hx
      rw [hrow, Option.bind_some, hx]
      rfl

end Fresh

structure Sync where
  shown : DartMap Doc
  realm : Realm

inductive SyncEvent
  | snapshot (result : DartMap Doc) (changes : List DocumentChange)
  | other (event : RowEvent)

namespace Sync

variable (z : Zone) (T : Model)

def step (s : Sync) : SyncEvent → Option Sync
  | .snapshot result changes => some ⟨result, onDocChanges z T changes s.realm⟩
  | .other event => some ⟨s.shown, event.apply s.realm⟩

/-- Results are well typed, their changes list each difference once, and nobody else writes rows of
the listener's type. -/
def Proper (s : Sync) : SyncEvent → Prop
  | .snapshot result changes => (∀ e ∈ result.entries, DecodesAs z T e.1 e.2) ∧
      changes.Perm (docChanges s.shown result)
  | .other event => event.key.1 ≠ T

/-- The rows are those that `getCollection` writes into an empty store. -/
def IsFresh (s : Sync) : Prop :=
  ∃ fresh, storeAll z T s.shown.entries Realm.empty = (.ok (), fresh) ∧
    ∀ id, getEntity s.realm T id = getEntity fresh T id

structure Inv (s : Sync) : Prop where
  decodes : ∀ e ∈ s.shown.entries, DecodesAs z T e.1 e.2
  rows : ∀ id, getEntity s.realm T id = decodedRow z T s.shown id

variable {z T} {s s' : Sync}

theorem Inv.isFresh (h : Inv z T s) : IsFresh z T s := by
  obtain ⟨fresh, hfresh⟩ :=
    exists_storeAll (fun e he => exists_fromDocumentSnapshot (h.decodes e he)) Realm.empty
  refine ⟨fresh, hfresh, ?_⟩
  intro id
  rw [h.rows, getEntity_fresh h.decodes hfresh]

theorem inv_snapshot (h : Inv z T s) {result : DartMap Doc} {changes : List DocumentChange}
    (hresult : ∀ e ∈ result.entries, DecodesAs z T e.1 e.2)
    (hchanges : changes.Perm (docChanges s.shown result)) :
    Inv z T ⟨result, onDocChanges z T changes s.realm⟩ := by
  refine ⟨hresult, ?_⟩
  intro id
  change getEntity (onDocChanges z T changes s.realm) T id = decodedRow z T result id
  rw [getEntity_onDocChanges_perm hresult hchanges]
  unfold decodedRow
  cases hd : result.lookup id with
  | none =>
      have hnot : ¬ Writes s.shown result id := by
        rintro ⟨⟨k, d⟩, he, rfl, -⟩
        rw [AList.mem_lookup_iff.mpr he] at hd
        cases hd
      rw [getEntity_onDocChanges_of_not_writes hresult _ hnot, Option.bind_none]
      split_ifs with hremoves
      · rfl
      · have hnone : s.shown.lookup id = none := by
          by_contra hne
          exact hremoves ⟨Option.isSome_iff_ne_none.mpr hne, by rw [hd]; rfl⟩
        rw [h.rows, decodedRow, hnone, Option.bind_none]
  | some d =>
      rw [Option.bind_some]
      by_cases hw : Writes s.shown result id
      · exact getEntity_onDocChanges_of_writes hresult _ hd hw
      · have hremoves : ¬ Removes s.shown result id := by
          rintro ⟨-, hnone⟩
          rw [hd] at hnone
          cases hnone
        obtain ⟨d₀, hd₀, hsame⟩ := exists_sameFields hd hw
        rw [getEntity_onDocChanges_of_not_writes hresult _ hw, if_neg hremoves, h.rows, decodedRow,
          hd₀, Option.bind_some, fromMap_of_sameFields hsame]

theorem getEntity_event_of_ne {event : RowEvent} (h : event.key.1 ≠ T) (r : Realm) (id : String) :
    getEntity (event.apply r) T id = getEntity r T id := by
  have hbare : bareRow (event.apply r) (T, id) = bareRow r (T, id) := by
    apply bareRow_apply_of_ne
    intro hkey
    exact h (congrArg Prod.fst hkey).symm
  have hentity := congrArg (Option.map Row.entity) hbare
  unfold bareRow at hentity
  rw [Option.map_map, Option.map_map] at hentity
  exact hentity

theorem inv_step (h : Inv z T s) {event : SyncEvent} (hproper : Proper z T s event)
    (hs : step z T s event = some s') : Inv z T s' := by
  cases event with
  | snapshot result changes =>
      cases hs
      exact inv_snapshot h hproper.1 hproper.2
  | other event =>
      cases hs
      refine ⟨h.decodes, ?_⟩
      intro id
      exact (getEntity_event_of_ne hproper s.realm id).trans (h.rows id)

/-- Starting without rows of its type, a listener has after every snapshot exactly the rows that a
fetch of the same result writes into an empty store. -/
theorem rows_eq_fresh_fetch (z : Zone) (T : Model) (r : Realm)
    (hr : ∀ id, getEntity r T id = none) (events : List SyncEvent)
    (h : Execution.StepsMeet (step z T) (Proper z T) ⟨∅, r⟩ events) :
    Execution.Always (step z T) (IsFresh z T) ⟨∅, r⟩ events := by
  have hstart : Inv z T ⟨∅, r⟩ := ⟨nofun, fun id => hr id⟩
  apply (Execution.always_of_stepsMeet _ hstart h).mono (fun _ hs => hs.isFresh)
  intro s event s' hs hproper hstep
  exact inv_step hs hproper hstep

def guestsResult : DartMap Doc :=
  DartMap.ofList [("g1", DartMap.ofList [("id", .string "g1"), ("city", .string "Hanoi")])]

def comesBack : List SyncEvent :=
  [.snapshot guestsResult (docChanges ∅ guestsResult), .snapshot ∅ (docChanges guestsResult ∅),
    .other (.upsert .posting flat), .snapshot guestsResult (docChanges ∅ guestsResult)]

theorem rows_eq_fresh_fetch_comesBack :
    Execution.Always (step Zone.utc .user) (IsFresh Zone.utc .user) ⟨∅, Realm.empty⟩ comesBack := by
  have hresult : ∀ e ∈ guestsResult.entries, DecodesAs Zone.utc .user e.1 e.2 := by decide
  refine rows_eq_fresh_fetch Zone.utc .user Realm.empty (fun _ => rfl) comesBack ?_
  exact Execution.stepsMeet_cons ⟨hresult, List.Perm.refl _⟩ rfl
    (Execution.stepsMeet_cons ⟨nofun, List.Perm.refl _⟩ rfl
      (Execution.stepsMeet_cons (fun h : Model.posting = Model.user => nomatch h) rfl
        (Execution.stepsMeet_cons ⟨hresult, List.Perm.refl _⟩ rfl trivial)))

end Sync

end AirBnbClone
