import AirBnbClone.DocChanges

/-!
# The read paths of `FireStoreService`

A document reaches the local store through a one-shot read or through a listener. Three of the
paths decode the snapshot, whose id stands in for a missing `id` field; the collection listener
decodes the bare data, and what it then creates has no primary key and is dropped in silence.
-/

namespace AirBnbClone

open FirestoreMapper FireStoreService RealmService

def SameStore (r r' : Realm) : Prop := ∀ S k, r.find S k = r'.find S k

structure DocumentRead where
  world : World
  collection : String
  builder : FirestoreQueryBuilder
  id : String
  data : Doc
  exists_remote : world.remote.doc collection id = some data
  selected : (builder.build.results (world.remote.docs builder.collection)).entries = [⟨id, data⟩]
  ownId : OwnId id data

inductive ReadPath
  | getDoc
  | getCollection
  | observeDoc
  | observeAdded
  | observeModified
  deriving DecidableEq

def ReadPath.store (z : Zone) (T : Model) (s : DocumentRead) : ReadPath → Realm
  | .getDoc => (FireStoreService.getDoc z T s.collection s.id s.world).2.realm
  | .getCollection => (FireStoreService.getCollection z T s.builder s.world).2.realm
  | .observeDoc => onDocument z T s.id (some s.data) s.world.realm
  | .observeAdded => onDocChanges z T [.added s.id s.data] s.world.realm
  | .observeModified => onDocChanges z T [.modified s.id s.data] s.world.realm

namespace DocumentRead

/-- Every field but the id is of a type that its decoder accepts. -/
def WellTyped (z : Zone) (T : Model) (s : DocumentRead) : Prop :=
  ∀ f ∈ fieldDecoders z T, f.key ≠ "id" → ∃ p, f.decode (s.data.get f.key) = .ok p

/-- All paths lead to one store, which has the decoded document under its id, and either listener
deletes the row once the document is removed. -/
structure PathsAgree (z : Zone) (T : Model) (s : DocumentRead) : Prop where
  sameStore : ∀ p q : ReadPath, SameStore (p.store z T s) (q.store z T s)
  decoded : ∃ e, fromDocumentSnapshot z T s.id s.data = .ok e ∧
    ∀ p : ReadPath, getEntity (p.store z T s) T s.id = some e
  deleted : ∀ r : Realm, (onDocument z T s.id none r).find T s.id = none ∧
    (onDocChanges z T [.removed s.id] r).find T s.id = none

/-- The row of the decoded document, its links resolved in the store, is there already. -/
def AlreadyStored (z : Zone) (T : Model) (s : DocumentRead) : Prop :=
  ∃ e, fromDocumentSnapshot z T s.id s.data = .ok e ∧ s.world.realm.find T s.id =
    some (linkOutgoing s.world.realm (RealmRelationshipRegistry.getOutgoingRelationships T)
      ⟨e, noLinks⟩)

section Decoding

variable {z : Zone} {T : Model} {d : Doc}

theorem exists_fromMap_of_text
    (h : ∀ f ∈ fieldDecoders z T, f.key ≠ "id" → ∃ p, f.decode (d.get f.key) = .ok p)
    (hid : ∃ k, Cast.idString (d.get "id") = .ok k) : ∃ e, fromMap z T d = .ok e := by
  obtain ⟨k, hk⟩ := hid
  apply exists_fromMap_ok
  intro f hf
  by_cases hkey : f.key = "id"
  · rw [decode_of_key_id hf hkey, hkey]
    exact ⟨.text k, congrArg (Except.map Property.text) hk⟩
  · exact h f hf hkey

end Decoding

variable {z : Zone} {T : Model} {s : DocumentRead} {e : Entity T} {p : ReadPath}

theorem WellTyped.exists_decoded (h : s.WellTyped z T) :
    ∃ e, fromDocumentSnapshot z T s.id s.data = .ok e := by
  apply exists_fromMap_of_text
  · intro f hf hkey
    rw [withSnapshotId_get_of_ne hkey]
    exact h f hf hkey
  · rw [withSnapshotId_get_id s.ownId.2]
    exact ⟨s.id, rfl⟩

/-- A snapshot with an `id` field is decoded to what its bare data is decoded to. -/
theorem fromMap_of_id (hid : s.data.get "id" ≠ .null)
    (he : fromDocumentSnapshot z T s.id s.data = .ok e) : fromMap z T s.data = .ok e := by
  rwa [fromDocumentSnapshot, withSnapshotId, if_neg hid] at he

theorem wellTyped_of_fromMap (he : fromMap z T s.data = .ok e) : s.WellTyped z T :=
  fun f hf _ => decode_ok_of_fromMap_ok he f hf

/-- Without an `id` field the bare data is decoded to an entity with no primary key. -/
theorem WellTyped.exists_keyless (h : s.WellTyped z T) (hid : s.data.get "id" = .null) :
    ∃ e, fromMap z T s.data = .ok e ∧ Entity.id T e = "" := by
  obtain ⟨e, he⟩ := exists_fromMap_of_text h ⟨"", by rw [hid]; rfl⟩
  refine ⟨e, he, ?_⟩
  have hkey := idString_of_fromMap_ok he
  rw [hid] at hkey
  exact (Except.ok.inj hkey).symm

/-- The paths that decode the snapshot write its entity. -/
theorem store_of_snapshot (he : fromDocumentSnapshot z T s.id s.data = .ok e)
    (hp : p ≠ .observeAdded) (hp' : p ≠ .observeModified) :
    p.store z T s = createUnawaited s.world.realm T e := by
  cases p with
  | getDoc => simp only [ReadPath.store, FireStoreService.getDoc, s.exists_remote, he]
  | getCollection =>
      simp only [ReadPath.store, FireStoreService.getCollection, s.selected, storeAll, he]
  | observeDoc => simp only [ReadPath.store, onDocument, he]
  | observeAdded => exact absurd rfl hp
  | observeModified => exact absurd rfl hp'

/-- The collection listener writes the entity of the bare data. -/
theorem store_of_change (he : fromMap z T s.data = .ok e)
    (hp : p = .observeAdded ∨ p = .observeModified) :
    p.store z T s = createUnawaited s.world.realm T e := by
  obtain rfl | rfl := hp <;> simp only [ReadPath.store, onDocChanges, he]

theorem store_of_id (hid : s.data.get "id" ≠ .null)
    (he : fromDocumentSnapshot z T s.id s.data = .ok e) (p : ReadPath) :
    p.store z T s = createUnawaited s.world.realm T e := by
  by_cases hp : p = .observeAdded ∨ p = .observeModified
  · exact store_of_change (fromMap_of_id hid he) hp
  · rw [not_or] at hp
    exact store_of_snapshot he hp.1 hp.2

/-- A change without an `id` field leaves the store as it was. -/
theorem WellTyped.store_of_keyless (h : s.WellTyped z T) (hid : s.data.get "id" = .null)
    (hp : p = .observeAdded ∨ p = .observeModified) : p.store z T s = s.world.realm := by
  obtain ⟨e, he, hempty⟩ := h.exists_keyless hid
  rw [store_of_change he hp, createUnawaited_of_empty hempty]

theorem entity_id_eq (he : fromDocumentSnapshot z T s.id s.data = .ok e) : Entity.id T e = s.id :=
  id_of_fromDocumentSnapshot_ok s.ownId.2 he

theorem getEntity_created (he : fromDocumentSnapshot z T s.id s.data = .ok e) :
    getEntity (createUnawaited s.world.realm T e) T s.id = some e := by
  rw [getEntity_createUnawaited, entity_id_eq he, if_pos ⟨s.ownId.1, rfl⟩]

theorem find_deleted (r : Realm) : (onDocument z T s.id none r).find T s.id = none ∧
    (onDocChanges z T [.removed s.id] r).find T s.id = none := by
  have hdeleted : (deleteEntity r T s.id).find T s.id = none := by
    have hrow := getEntity_deleteEntity_self (r := r) (T := T) s.id s.id
    rw [if_pos rfl] at hrow
    exact Option.map_eq_none_iff.mp hrow
  exact ⟨hdeleted, hdeleted⟩

/-- Writing a row again that is stored with the same links changes nothing. -/
theorem sameStore_created_of_stored (hid : Entity.id T e = s.id)
    (hrow : s.world.realm.find T s.id = some (linkOutgoing s.world.realm
      (RealmRelationshipRegistry.getOutgoingRelationships T) ⟨e, noLinks⟩)) :
    SameStore (createUnawaited s.world.realm T e) s.world.realm := by
  intro S k
  rw [createUnawaited_of_ne (hid ▸ s.ownId.1), hid, hrow]
  simp only [Option.isNone_some, Bool.false_eq_true, if_false]
  by_cases hS : S = T
  · subst hS
    rw [Realm.find_add_self, linkOutgoing_entity, hid]
    split_ifs with hk
    · rw [hk, hrow]
    · rfl
  · exact Realm.find_add_of_ne _ hS

/-- If writing the decoded document changes nothing, its row is there already. -/
theorem stored_of_sameStore (hid : Entity.id T e = s.id)
    (h : SameStore (createUnawaited s.world.realm T e) s.world.realm) :
    s.world.realm.find T s.id = some (linkOutgoing s.world.realm
      (RealmRelationshipRegistry.getOutgoingRelationships T) ⟨e, noLinks⟩) := by
  have hrow : getEntity s.world.realm T s.id = some e := by
    rw [getEntity, ← h T s.id, ← getEntity, getEntity_createUnawaited, hid,
      if_pos ⟨s.ownId.1, rfl⟩]
  obtain ⟨row, hfind, -⟩ := Option.map_eq_some_iff.mp hrow
  rw [← h T s.id, createUnawaited_of_ne (hid ▸ s.ownId.1), hid, hfind]
  simp only [Option.isNone_some, Bool.false_eq_true, if_false]
  rw [Realm.find_add_self, linkOutgoing_entity, if_pos hid.symm]

theorem pathsAgree_of_store {r : Realm} (he : fromDocumentSnapshot z T s.id s.data = .ok e)
    (hr : getEntity r T s.id = some e) (h : ∀ p : ReadPath, SameStore (p.store z T s) r) :
    PathsAgree z T s where
  sameStore p q S k := (h p S k).trans (h q S k).symm
  decoded := by
    refine ⟨e, he, fun p => ?_⟩
    rw [getEntity, h p T s.id]
    exact hr
  deleted := find_deleted

end DocumentRead

open DocumentRead

/-- The read paths agree on a document exactly if it has an `id` field or its row is in the store
already: the collection listener drops every other change to a document without one. -/
theorem pathsAgree_iff (z : Zone) (T : Model) (s : DocumentRead) (h : s.WellTyped z T) :
    PathsAgree z T s ↔ s.data.get "id" ≠ .null ∨ s.AlreadyStored z T := by
  obtain ⟨e, he⟩ := h.exists_decoded
  have hid := entity_id_eq he
  have hcreated : SameStore (ReadPath.store z T s .getDoc) (createUnawaited s.world.realm T e) := by
    rw [store_of_snapshot he (by decide) (by decide)]
    exact fun S k => rfl
  constructor
  · intro hagree
    by_contra hnot
    rw [not_or, not_not] at hnot
    obtain ⟨hnull, hnotStored⟩ := hnot
    have hdropped := h.store_of_keyless hnull (p := .observeAdded) (.inl rfl)
    refine hnotStored ⟨e, he, stored_of_sameStore hid (fun S k => ?_)⟩
    rw [← hcreated S k, hagree.sameStore .getDoc .observeAdded S k, hdropped]
  · rintro (hpresent | ⟨e', he', hrow⟩)
    · apply pathsAgree_of_store he (getEntity_created he)
      intro p S k
      rw [store_of_id hpresent he p]
    · obtain rfl : e = e' := Except.ok.inj (he.symm.trans he')
      by_cases hnull : s.data.get "id" = .null
      · apply pathsAgree_of_store he (getEntity_created he)
        intro p S k
        by_cases hp : p = .observeAdded ∨ p = .observeModified
        · rw [h.store_of_keyless hnull hp, sameStore_created_of_stored hid hrow S k]
        · rw [not_or] at hp
          rw [store_of_snapshot he hp.1 hp.2]
      · apply pathsAgree_of_store he (getEntity_created he)
        intro p S k
        rw [store_of_id hnull he p]

def readReview (data : Doc) (h : OwnId "r1" data) : DocumentRead where
  world := ⟨Firestore.empty.set FirestoreCollection.review "r1" data, Realm.empty⟩
  collection := FirestoreCollection.review
  builder := FirestoreQueryBuilder.new FirestoreCollection.review
  id := "r1"
  data := data
  exists_remote := rfl
  selected := rfl
  ownId := h

theorem pathsAgree_iff_withId : PathsAgree Zone.utc .review
    (readReview (DartMap.ofList [("id", .string "r1"), ("rating", .double 4)])
      ⟨by decide, .inr (by decide)⟩) := by
  have hdecoded : fromMap Zone.utc .review
      (DartMap.ofList [("id", .string "r1"), ("rating", .double 4)]) =
        .ok (⟨"r1", 4, none, none, none, none, none⟩ : Review) := by decide
  exact (pathsAgree_iff Zone.utc .review _ (wellTyped_of_fromMap hdecoded)).mpr
    (.inl (by decide))

def bareReview : DocumentRead :=
  readReview (DartMap.ofList [("rating", .double 4)]) ⟨by decide, .inl (by decide)⟩

/-- A one-shot read stores the review, the collection listener does not. -/
theorem bareReview_is_dropped : bareReview.WellTyped Zone.utc .review ∧
    ¬ PathsAgree Zone.utc .review bareReview := by
  have hbare : fromMap Zone.utc .review bareReview.data =
      .ok (⟨"", 4, none, none, none, none, none⟩ : Review) := by decide
  refine ⟨wellTyped_of_fromMap hbare, fun hagree => ?_⟩
  obtain ⟨e, -, hstored⟩ := hagree.decoded
  have hdropped : getEntity (ReadPath.observeAdded.store Zone.utc .review bareReview) .review
      bareReview.id = none := by
    rw [store_of_change hbare (.inl rfl), createUnawaited_of_empty rfl]
    rfl
  rw [hstored] at hdropped
  cases hdropped

end AirBnbClone
