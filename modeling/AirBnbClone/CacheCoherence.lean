import AirBnbClone.Execution
import AirBnbClone.LocalMirror

/-!
# The local store as a cache of the database

A device calls `FireStoreService` again and again, and nobody else writes. Each call changes the
database first and the local store afterwards, and may end with an error in between. The store stays
a cache of the database, each row being the document under its id, exactly in the runs in which
every document keeps its own id, an update leaves out only fields that are at their default, and
data that does not decode is written only where the store has no row.
-/

namespace AirBnbClone

open FirestoreMapper FireStoreService RealmService

def FirestoreCollection.of : Model → String
  | .user => user
  | .posting => posting
  | .booking => booking
  | .favouritePosting => favouritePosting
  | .message => message
  | .review => review
  | .conversation => conversation

theorem FirestoreCollection.of_injective : Function.Injective FirestoreCollection.of := by
  intro S T h
  cases S <;> cases T <;> first | rfl | exact absurd h (by decide)

inductive StoreCall
  | createDoc (T : Model) (id : Option String) (data : Doc)
  | getDoc (T : Model) (id : String)
  | getCollection (T : Model) (builder : FirestoreQueryBuilder)
      (own : builder.collection = FirestoreCollection.of T)
  | updateDoc (T : Model) (id : String) (data : Doc)
  | deleteDoc (T : Model) (id : String)

/-- Documents are stored under their own ids, and every row is the document under its id. -/
structure Mirrored (z : Zone) (w : World) : Prop where
  own : ∀ T k D, w.remote.doc (FirestoreCollection.of T) k = some D → OwnId k D
  rows : ∀ T k e, getEntity w.realm T k = some e → ∃ D,
    w.remote.doc (FirestoreCollection.of T) k = some D ∧ fromDocumentSnapshot z T k D = .ok e

namespace StoreCall

variable (z : Zone) (ids : AutoId)

def perform (w : World) : StoreCall → World
  | .createDoc T id data =>
      (FireStoreService.createDoc z ids T (FirestoreCollection.of T) id data w).2
  | .getDoc T id => (FireStoreService.getDoc z T (FirestoreCollection.of T) id w).2
  | .getCollection T builder _ => (FireStoreService.getCollection z T builder w).2
  | .updateDoc T id data =>
      (FireStoreService.updateDoc z T (FirestoreCollection.of T) id data w).2
  | .deleteDoc T id => FireStoreService.deleteDoc T (FirestoreCollection.of T) id w

def Decodes (T : Model) (data : Doc) : Prop := ∃ e, fromMap z T data = .ok e

/-- The document that a call writes keeps its own id, an update mentions every field that is not at
its default, and there is no row if the data of the call does not decode. -/
def Fits (w : World) : StoreCall → Prop
  | .createDoc T id data =>
      let doc := newDoc ids (FirestoreCollection.of T) id data w
      OwnId doc.1 doc.2 ∧ (Decodes z T doc.2 ∨ getEntity w.realm T doc.1 = none)
  | .updateDoc T id data => ∀ D, w.remote.doc (FirestoreCollection.of T) id = some D →
      OwnId id (data ∪ D) ∧ (Decodes z T (withId id data) → UnmentionedAreDefault z T data D) ∧
        (Decodes z T (withId id data) ∨ getEntity w.realm T id = none)
  | _ => True

/-- The row that is rebuilt from `data`, or the old row if `data` does not decode, is that of the
document `D`. -/
def RowFits (T : Model) (k : String) (data D : Doc) (w : World) : Prop :=
  match fromMap z T data with
  | .ok e => fromDocumentSnapshot z T k D = .ok e
  | .error _ => ∀ row, getEntity w.realm T k = some row → fromDocumentSnapshot z T k D = .ok row

variable {z ids} {w : World} {T : Model} {k : String} {data D : Doc}

/-- Documents and rows after a write of one document. -/
theorem own_putDoc_iff (hw : Mirrored z w) (entry : FirestoreWrite) :
    (∀ S k' D', (w.remote.putDoc (FirestoreCollection.of T) k D entry).doc
      (FirestoreCollection.of S) k' = some D' → OwnId k' D') ↔ OwnId k D := by
  constructor
  · intro h
    exact h T k D (by rw [Firestore.doc_putDoc, if_pos ⟨rfl, rfl⟩])
  · intro hown S k' D' hD'
    rw [Firestore.doc_putDoc] at hD'
    split at hD'
    · next hk =>
        cases hD'
        exact hk.2 ▸ hown
    · exact hw.own S k' D' hD'

/-- A row that was there before and is not that of the document written still has its document. -/
theorem exists_doc_putDoc (hw : Mirrored z w) (entry : FirestoreWrite) {S : Model} {k' : String}
    {e : Entity S} (hne : ¬ (S = T ∧ k' = k)) (he : getEntity w.realm S k' = some e) :
    ∃ D', (w.remote.putDoc (FirestoreCollection.of T) k D entry).doc
        (FirestoreCollection.of S) k' = some D' ∧ fromDocumentSnapshot z S k' D' = .ok e := by
  obtain ⟨D', hD', hdec⟩ := hw.rows S k' e he
  refine ⟨D', ?_, hdec⟩
  rwa [Firestore.doc_putDoc, if_neg (fun h => hne ⟨FirestoreCollection.of_injective h.1, h.2⟩)]

/-- A write of a document whose row is mirrored from `data` keeps the cache if and only if the
document keeps its id and the row fits it. -/
theorem mirrored_mirror_iff (hw : Mirrored z w) (hid : OwnId k D → data.get "id" = .string k)
    (entry : FirestoreWrite) :
    Mirrored z (mirror z T data
      { w with remote := w.remote.putDoc (FirestoreCollection.of T) k D entry }).2 ↔
      OwnId k D ∧ RowFits z T k data D w := by
  have hself : (w.remote.putDoc (FirestoreCollection.of T) k D entry).doc
      (FirestoreCollection.of T) k = some D := by
    rw [Firestore.doc_putDoc, if_pos ⟨rfl, rfl⟩]
  unfold mirror RowFits
  cases hdec : fromMap z T data with
  | error err =>
      dsimp only
      constructor
      · rintro ⟨hown, hrows⟩
        refine ⟨(own_putDoc_iff hw entry).mp hown, fun row hrow => ?_⟩
        obtain ⟨D', hD', he⟩ := hrows T k row hrow
        cases hself.symm.trans hD'
        exact he
      · rintro ⟨hown, hfits⟩
        refine ⟨(own_putDoc_iff hw entry).mpr hown, fun S k' e he => ?_⟩
        by_cases hne : S = T ∧ k' = k
        · obtain ⟨rfl, rfl⟩ := hne
          exact ⟨D, hself, hfits e he⟩
        · exact exists_doc_putDoc hw entry hne he
  | ok e =>
      dsimp only
      constructor
      · rintro ⟨hown, hrows⟩
        have hownD := (own_putDoc_iff hw entry).mp hown
        refine ⟨hownD, ?_⟩
        have hek : Entity.id T e = k := by
          have hstr := idString_of_fromMap_ok hdec
          rw [hid hownD] at hstr
          exact (Except.ok.inj hstr).symm
        obtain ⟨D', hD', he⟩ := hrows T k e (by
          rw [getEntity_createUnawaited, hek, if_pos ⟨hownD.1, rfl⟩])
        cases hself.symm.trans hD'
        exact he
      · rintro ⟨hownD, hfits⟩
        have hek : Entity.id T e = k := by
          have hstr := idString_of_fromMap_ok hdec
          rw [hid hownD] at hstr
          exact (Except.ok.inj hstr).symm
        refine ⟨(own_putDoc_iff hw entry).mpr hownD, fun S k' e' he' => ?_⟩
        by_cases hS : S = T
        · subst hS
          rw [getEntity_createUnawaited, hek] at he'
          split at he'
          · next hk =>
              cases he'
              exact ⟨D, hk.2 ▸ hself, hk.2 ▸ hfits⟩
          · next hk =>
              exact exists_doc_putDoc hw entry (fun h => hk ⟨hownD.1, h.2⟩) he'
        · rw [getEntity_createUnawaited_of_ne hS] at he'
          exact exists_doc_putDoc hw entry (fun h => hS h.1) he'

/-- A row that is written from the document under its id. -/
theorem mirrored_created (hw : Mirrored z w) {e : Entity T}
    (hD : w.remote.doc (FirestoreCollection.of T) k = some D)
    (he : fromDocumentSnapshot z T k D = .ok e) :
    Mirrored z { w with realm := createUnawaited w.realm T e } := by
  have hek : Entity.id T e = k := id_of_fromDocumentSnapshot_ok (hw.own T k D hD).2 he
  refine ⟨hw.own, fun S k' e' he' => ?_⟩
  by_cases hS : S = T
  · subst hS
    rw [getEntity_createUnawaited, hek] at he'
    split at he'
    · next hk =>
        cases he'
        exact ⟨D, hk.2 ▸ hD, hk.2 ▸ he⟩
    · exact hw.rows S k' e' he'
  · rw [getEntity_createUnawaited_of_ne hS] at he'
    exact hw.rows S k' e' he'

theorem mirrored_storeAll {docs : List (Sigma fun _ : String => Doc)} (hw : Mirrored z w)
    (hdocs : ∀ d ∈ docs, w.remote.doc (FirestoreCollection.of T) d.1 = some d.2) :
    Mirrored z { w with realm := (storeAll z T docs w.realm).2 } := by
  induction docs generalizing w with
  | nil => exact hw
  | cons d docs ih =>
      obtain ⟨hd, hdocs⟩ := List.forall_mem_cons.mp hdocs
      unfold storeAll
      cases he : fromDocumentSnapshot z T d.1 d.2 with
      | error err => exact hw
      | ok e => exact ih (mirrored_created hw hd he) hdocs

theorem getEntity_deleteEntity_of_ne {r : Realm} {S : Model} (hS : S ≠ T) (id k' : String) :
    getEntity (deleteEntity r T id) S k' = getEntity r S k' := by
  unfold deleteEntity
  cases r.find T id with
  | none => rfl
  | some row =>
      unfold getEntity
      dsimp only
      rw [Realm.find_delete_of_ne hS, Option.map_map]
      rfl

theorem mirrored_deleteDoc (hw : Mirrored z w) (T : Model) (id : String) :
    Mirrored z (FireStoreService.deleteDoc T (FirestoreCollection.of T) id w) := by
  have hdoc (S : Model) (k' : String) :
      (w.remote.delete (FirestoreCollection.of T) id).doc (FirestoreCollection.of S) k' =
        if S = T ∧ k' = id then none else w.remote.doc (FirestoreCollection.of S) k' := by
    unfold Firestore.doc Firestore.delete
    dsimp only
    by_cases hS : S = T
    · subst hS
      rw [Function.update_self, FiniteMap.lookup_erase_eq_ite]
      simp
    · rw [Function.update_of_ne (fun h => hS (FirestoreCollection.of_injective h)),
        if_neg (fun h => hS h.1)]
  constructor
  · intro S k' D' hD'
    change (w.remote.delete (FirestoreCollection.of T) id).doc (FirestoreCollection.of S) k' =
      some D' at hD'
    rw [hdoc] at hD'
    split at hD'
    · cases hD'
    · exact hw.own S k' D' hD'
  · intro S k' e he
    change getEntity (deleteEntity w.realm T id) S k' = some e at he
    have hkept : ¬ (S = T ∧ k' = id) ∧ getEntity w.realm S k' = some e := by
      by_cases hS : S = T
      · subst hS
        rw [getEntity_deleteEntity_self] at he
        split at he
        · cases he
        · next hk => exact ⟨fun h => hk h.2, he⟩
      · rw [getEntity_deleteEntity_of_ne hS] at he
        exact ⟨fun h => hS h.1, he⟩
    obtain ⟨D', hD', hdec⟩ := hw.rows S k' e hkept.2
    refine ⟨D', ?_, hdec⟩
    change (w.remote.delete (FirestoreCollection.of T) id).doc (FirestoreCollection.of S) k' =
      some D'
    rw [hdoc, if_neg hkept.1, hD']

theorem mirrored_getDoc (hw : Mirrored z w) (T : Model) (id : String) :
    Mirrored z (FireStoreService.getDoc z T (FirestoreCollection.of T) id w).2 := by
  unfold FireStoreService.getDoc
  cases hD : w.remote.doc (FirestoreCollection.of T) id with
  | none => exact hw
  | some D =>
      dsimp only
      cases he : fromDocumentSnapshot z T id D with
      | error err => exact hw
      | ok e => exact mirrored_created hw hD he

theorem mirrored_getCollection (hw : Mirrored z w) (T : Model) (builder : FirestoreQueryBuilder)
    (own : builder.collection = FirestoreCollection.of T) :
    Mirrored z (FireStoreService.getCollection z T builder w).2 := by
  apply mirrored_storeAll hw
  intro d hd
  have hmem := Query.mem_entries_of_results hd
  rw [own] at hmem
  exact AList.mem_lookup_iff.mpr hmem

/-- The data that `createDoc` stores holds the id that it is stored under, unless it holds
another. -/
theorem get_id_newDoc (id : Option String) (data : Doc)
    (hown : OwnId (newDoc ids (FirestoreCollection.of T) id data w).1
      (newDoc ids (FirestoreCollection.of T) id data w).2) :
    (newDoc ids (FirestoreCollection.of T) id data w).2.get "id" =
      .string (newDoc ids (FirestoreCollection.of T) id data w).1 := by
  revert hown
  unfold newDoc
  cases id with
  | none =>
      intro _
      exact (Doc.get_insert ..).trans (if_pos rfl)
  | some i =>
      dsimp only
      split_ifs
      · intro _
        exact (Doc.get_insert ..).trans (if_pos rfl)
      · rintro ⟨-, hnull | hi⟩
        · rw [get_withId] at hnull ⊢
          split_ifs at hnull ⊢ with hempty
          · rfl
          · rw [hnull] at hempty
            exact absurd ⟨rfl, by decide⟩ hempty
        · exact hi

/-- The data that an update decodes holds the id of the document, unless the merged document holds
another. -/
theorem get_id_withId {id : String} (hown : OwnId id (data ∪ D)) :
    (withId id data).get "id" = .string id := by
  rw [get_withId]
  split_ifs with hempty
  · rfl
  · have hmem : "id" ∈ data := by
      by_contra hmem
      rw [Doc.get_of_notMem hmem] at hempty
      exact hempty ⟨rfl, by decide⟩
    have hid := hown.2
    rw [Doc.get_union, if_pos hmem] at hid
    refine hid.resolve_left (fun hnull => ?_)
    rw [hnull] at hempty
    exact hempty ⟨rfl, by decide⟩

/-- Every decoder takes a missing field. -/
theorem exists_decode_null {f : FieldDecoder} (hf : f ∈ fieldDecoders z T) :
    ∃ p, f.decode .null = .ok p := by
  revert f
  cases T <;> simp [fieldDecoders, field, Cast.idString, Cast.string?, Cast.bool?,
    Cast.boolOrFalse, Cast.double?, Cast.num?, Cast.link, Cast.strings, Cast.intMap,
    Cast.numOrZero, Cast.parseDateTime, Cast.stringSet, Except.map]

theorem rowFits_created_iff (hid : D.get "id" = .string k) :
    RowFits z T k D D w ↔ Decodes z T D ∨ getEntity w.realm T k = none := by
  have hsnapshot : fromDocumentSnapshot z T k D = fromMap z T D := by
    unfold fromDocumentSnapshot withSnapshotId
    rw [hid, if_neg (by simp)]
  unfold RowFits Decodes
  rw [hsnapshot]
  cases fromMap z T D with
  | error err => simp [Option.eq_none_iff_forall_ne_some]
  | ok e => simp

/-- Away from the id, an update and the document that it leaves read alike under the keys that the
update mentions, and the update reads as an absent field under the others. -/
theorem decode_updated_iff {id : String} (hown : OwnId id (data ∪ D)) (f : FieldDecoder) :
    f.decode ((withId id data).get f.key) =
        f.decode ((withSnapshotId id (data ∪ D)).get f.key) ↔
      (f.key ≠ "id" → f.key ∉ data → f.decode (D.get f.key) = f.decode .null) := by
  by_cases hk : f.key = "id"
  · rw [hk, get_id_withId hown, withSnapshotId_get_id hown.2]
    simp
  · rw [withSnapshotId_get_of_ne hk, get_withId, if_neg (fun h => hk h.1), Doc.get_union]
    by_cases hm : f.key ∈ data
    · simp [hm]
    · rw [if_neg hm, Doc.get_of_notMem hm]
      simp only [ne_eq, hk, not_false_eq_true, true_implies, hm]
      exact eq_comm

/-- The document that an update leaves decodes to the rebuilt row if and only if the update
mentions every field that is not at its default. -/
theorem fromDocumentSnapshot_union_iff {id : String} (hown : OwnId id (data ∪ D)) {e : Entity T}
    (he : fromMap z T (withId id data) = .ok e) :
    fromDocumentSnapshot z T id (data ∪ D) = .ok e ↔ UnmentionedAreDefault z T data D := by
  constructor
  · intro hm f hf
    exact (decode_updated_iff hown f).mp ((entity_eq_iff he hm).mp rfl f hf)
  · intro hall
    rw [← he]
    exact (fromMap_congr (fun f hf => (decode_updated_iff hown f).mpr (hall f hf))).symm

/-- If the document that an update leaves decodes, so does the update. -/
theorem decodes_of_union {id : String} (hown : OwnId id (data ∪ D)) {e : Entity T}
    (he : fromDocumentSnapshot z T id (data ∪ D) = .ok e) : Decodes z T (withId id data) := by
  apply exists_fromMap_ok
  intro f hf
  by_cases hall : f.key ≠ "id" → f.key ∉ data → f.decode (D.get f.key) = f.decode .null
  · rw [(decode_updated_iff hown f).mpr hall]
    exact decode_ok_of_fromMap_ok he f hf
  · push Not at hall
    rw [get_withId, if_neg (fun h => hall.1 h.1), Doc.get_of_notMem hall.2.1]
    exact exists_decode_null hf

theorem rowFits_updated_iff {id : String} (hown : OwnId id (data ∪ D)) :
    RowFits z T id (withId id data) (data ∪ D) w ↔
      (Decodes z T (withId id data) → UnmentionedAreDefault z T data D) ∧
        (Decodes z T (withId id data) ∨ getEntity w.realm T id = none) := by
  have hunion := fun e => decodes_of_union (z := z) (T := T) hown (e := e)
  unfold RowFits
  unfold Decodes at hunion ⊢
  cases he : fromMap z T (withId id data) with
  | error err =>
      simp only [he, reduceCtorEq, exists_false, imp_false, false_implies, true_and, false_or]
        at hunion ⊢
      constructor
      · intro hrow
        rw [Option.eq_none_iff_forall_ne_some]
        intro row hmem
        exact hunion row (hrow row hmem)
      · intro hnone row hrow
        rw [hnone] at hrow
        cases hrow
  | ok e => simpa using fromDocumentSnapshot_union_iff hown he

theorem createDoc_snd (collection : String) (id : Option String) (data : Doc) (w : World) :
    (FireStoreService.createDoc z ids T collection id data w).2 =
      (mirror z T (newDoc ids collection id data w).2 { w with
        remote := w.remote.set collection (newDoc ids collection id data w).1
          (newDoc ids collection id data w).2 }).2 := by
  unfold FireStoreService.createDoc
  dsimp only
  split
  · next h => rw [h]
  · next h => rw [h]

theorem mirrored_createDoc_iff (hw : Mirrored z w) (T : Model) (id : Option String) (data : Doc) :
    Mirrored z (FireStoreService.createDoc z ids T (FirestoreCollection.of T) id data w).2 ↔
      Fits z ids w (.createDoc T id data) := by
  rw [createDoc_snd]
  refine (mirrored_mirror_iff hw (fun hown => get_id_newDoc id data hown) _).trans ?_
  exact and_congr_right (fun hown => rowFits_created_iff (get_id_newDoc id data hown))

theorem mirrored_updateDoc_iff (hw : Mirrored z w) (T : Model) (id : String) (data : Doc) :
    Mirrored z (FireStoreService.updateDoc z T (FirestoreCollection.of T) id data w).2 ↔
      Fits z ids w (.updateDoc T id data) := by
  unfold FireStoreService.updateDoc Firestore.update
  cases hD : w.remote.doc (FirestoreCollection.of T) id with
  | none => exact iff_of_true hw (fun D h => absurd (hD.symm.trans h) (by simp))
  | some D =>
      refine (mirrored_mirror_iff hw (fun hown => get_id_withId hown) _).trans
        ((and_congr_right rowFits_updated_iff).trans ?_)
      constructor
      · intro h D' hD'
        cases hD.symm.trans hD'
        exact h
      · intro h
        exact h D hD

/-- A call keeps the cache if and only if what it writes fits. -/
theorem mirrored_perform_iff (hw : Mirrored z w) (call : StoreCall) :
    Mirrored z (perform z ids w call) ↔ Fits z ids w call := by
  cases call with
  | createDoc T id data => exact mirrored_createDoc_iff hw T id data
  | getDoc T id => exact iff_of_true (mirrored_getDoc hw T id) trivial
  | getCollection T builder own =>
      exact iff_of_true (mirrored_getCollection hw T builder own) trivial
  | updateDoc T id data => exact mirrored_updateDoc_iff hw T id data
  | deleteDoc T id => exact iff_of_true (mirrored_deleteDoc hw T id) trivial

variable (z ids) in
def step (w : World) (call : StoreCall) : Option World := some (perform z ids w call)

/-- The store is a cache of the database, whose documents stay under their own ids, all along a run
of calls if and only if every call of the run fits. -/
theorem always_mirrored_iff (z : Zone) (ids : AutoId) (w : World) (calls : List StoreCall)
    (hw : Mirrored z w) :
    Execution.Always (step z ids) (Mirrored z) w calls ↔
      Execution.StepsMeet (step z ids) (Fits z ids) w calls := by
  refine Execution.always_iff_stepsMeet (R := fun _ => True) (fun _ _ _ _ _ => trivial)
    (fun w call h => by cases h) ?_ calls hw trivial
  intro w call w' _ hw h
  cases h
  exact mirrored_perform_iff hw call

/-- A fresh database with a fresh store. -/
theorem mirrored_empty (z : Zone) : Mirrored z ⟨Firestore.empty, Realm.empty⟩ where
  own T k D h := by
    change none = some D at h
    cases h
  rows T k e h := by
    change none = some e at h
    cases h

def earningCalls : List StoreCall :=
  [.createDoc .user (some "u1") earningOnlyDoc,
    .updateDoc .user "u1" (DartMap.ofList [("earning", .double 125)]), .deleteDoc .user "u1"]

theorem always_mirrored_iff_earningCalls :
    Execution.Always (step Zone.utc AutoId.longer) (Mirrored Zone.utc)
      ⟨Firestore.empty, Realm.empty⟩ earningCalls := by
  refine (always_mirrored_iff Zone.utc AutoId.longer ⟨Firestore.empty, Realm.empty⟩ earningCalls
    (mirrored_empty Zone.utc)).mpr ?_
  refine Execution.stepsMeet_cons ⟨⟨by decide, .inr rfl⟩, .inl ⟨earningOnlyRow, rfl⟩⟩ rfl
    (Execution.stepsMeet_cons ?_ rfl (Execution.stepsMeet_cons trivial rfl trivial))
  intro D hD
  obtain rfl : earningOnlyDoc = D := Option.some.inj hD
  refine ⟨⟨by decide, .inr rfl⟩, fun _ => ?_,
    .inl ⟨{ earningOnlyRow with earning := some 125 }, rfl⟩⟩
  intro f hf
  simp only [fieldDecoders, List.mem_cons, List.not_mem_nil, or_false] at hf
  rcases hf with rfl | rfl | rfl | rfl | rfl | rfl | rfl | rfl | rfl | rfl | rfl | rfl <;>
    intro hk hn <;> first | rfl | exact absurd rfl hk | exact absurd (by decide) hn

end StoreCall

end AirBnbClone
