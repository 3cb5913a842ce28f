import AirBnbClone.Realm

/-!
# `RealmService` and the relationship registry

A relationship names a foreign-key property and the link property it fills. `createFromEntity`
resolves the outgoing relationships of the entity it is given, stores it, and, when the row is new,
back-fills the incoming ones. All of it happens inside one write block.
-/

namespace AirBnbClone

structure RealmRelationship where
  model : Model
  relationKey : String
  relationshipProperty : String
  deriving DecidableEq

structure RealmRelationshipHelper where
  outgoing : List RealmRelationship
  incoming : List RealmRelationship

namespace UserRelationshipExtension

def realmOutgoingRelationships : List RealmRelationship := []

def realmIncomingRelationships : List RealmRelationship :=
  [⟨.posting, "hostId", "host"⟩, ⟨.booking, "userId", "user"⟩,
    ⟨.favouritePosting, "userId", "user"⟩, ⟨.review, "userId", "user"⟩,
    ⟨.message, "senderId", "sender"⟩]

end UserRelationshipExtension

namespace PostingRelationshipExtension

def realmOutgoingRelationships : List RealmRelationship := [⟨.user, "hostId", "host"⟩]

def realmIncomingRelationships : List RealmRelationship :=
  [⟨.booking, "postingId", "posting"⟩, ⟨.favouritePosting, "postingId", "posting"⟩]

end PostingRelationshipExtension

namespace BookingRelationshipExtension

def realmOutgoingRelationships : List RealmRelationship :=
  [⟨.posting, "postingId", "posting"⟩, ⟨.user, "userId", "user"⟩]

def realmIncomingRelationships : List RealmRelationship := []

end BookingRelationshipExtension

namespace FavouritePostingRelationshipExtension

def realmOutgoingRelationships : List RealmRelationship :=
  [⟨.posting, "postingId", "posting"⟩, ⟨.user, "userId", "user"⟩]

def realmIncomingRelationships : List RealmRelationship := []

end FavouritePostingRelationshipExtension

namespace ReviewRelationshipExtension

def realmOutgoingRelationships : List RealmRelationship := [⟨.user, "userId", "user"⟩]

def realmIncomingRelationships : List RealmRelationship := []

end ReviewRelationshipExtension

namespace MessageRelationshipExtension

def realmOutgoingRelationships : List RealmRelationship := [⟨.user, "senderId", "sender"⟩]

def realmIncomingRelationships : List RealmRelationship := []

end MessageRelationshipExtension

namespace RealmRelationshipRegistry

/-- `_helpers`: every registered model but `Conversation` takes part in linking. -/
def helpers : Model → Option RealmRelationshipHelper
  | .user => some ⟨UserRelationshipExtension.realmOutgoingRelationships,
      UserRelationshipExtension.realmIncomingRelationships⟩
  | .posting => some ⟨PostingRelationshipExtension.realmOutgoingRelationships,
      PostingRelationshipExtension.realmIncomingRelationships⟩
  | .booking => some ⟨BookingRelationshipExtension.realmOutgoingRelationships,
      BookingRelationshipExtension.realmIncomingRelationships⟩
  | .favouritePosting => some ⟨FavouritePostingRelationshipExtension.realmOutgoingRelationships,
      FavouritePostingRelationshipExtension.realmIncomingRelationships⟩
  | .review => some ⟨ReviewRelationshipExtension.realmOutgoingRelationships,
      ReviewRelationshipExtension.realmIncomingRelationships⟩
  | .message => some ⟨MessageRelationshipExtension.realmOutgoingRelationships,
      MessageRelationshipExtension.realmIncomingRelationships⟩
  | .conversation => none

def getOutgoingRelationships (T : Model) : List RealmRelationship :=
  ((helpers T).map RealmRelationshipHelper.outgoing).getD []

def getIncomingRelationships (T : Model) : List RealmRelationship :=
  ((helpers T).map RealmRelationshipHelper.incoming).getD []

end RealmRelationshipRegistry

namespace RealmRelationship

def getReferencedEntity (rel : RealmRelationship) (r : Realm) {S : Model} (source : Row S) :
    Option (Row rel.model) :=
  match Entity.foreignKey S source.entity rel.relationKey with
  | none => none
  | some id => if id = "" then none else r.find rel.model id

/-- The rows `getReferencingEntities` selects: the key names `id` and the link is still null. -/
def IsReferencing (rel : RealmRelationship) (id : String) (S : Model) (e : Entity S)
    (links : Links) : Prop :=
  S = rel.model ∧ Entity.foreignKey S e rel.relationKey = some id ∧
    links rel.relationshipProperty = none

instance (rel : RealmRelationship) (id : String) (S : Model) (e : Entity S) (links : Links) :
    Decidable (rel.IsReferencing id S e links) :=
  inferInstanceAs (Decidable (_ ∧ _ ∧ _))

end RealmRelationship

def Row.setLink {S : Model} (row : Row S) (prop id : String) : Row S :=
  ⟨row.entity, Function.update row.links prop (some id)⟩

namespace RealmService

open RealmRelationshipRegistry

/-- The loop over the outgoing relationships. -/
def linkOutgoing (r : Realm) {S : Model} (rels : List RealmRelationship) (row : Row S) : Row S :=
  rels.foldl (fun row rel =>
    match rel.getReferencedEntity r row with
    | some related => row.setLink rel.relationshipProperty (Entity.id rel.model related.entity)
    | none => row) row

/-- The loop over the incoming relationships. -/
def linkIncoming (id : String) (rels : List RealmRelationship) (r : Realm) : Realm :=
  rels.foldl (fun r rel => r.relink (fun S e links =>
    if rel.IsReferencing id S e links
    then Function.update links rel.relationshipProperty (some id) else links)) r

/-- The managed object that is returned is the row then stored under the entity's key. -/
def createFromEntity (r : Realm) (T : Model) (e : Entity T) (update : Bool) :
    Except DartError Realm :=
  let entityId := Entity.id T e
  if entityId = "" then .error (.exception "Entity ID cannot be empty")
  else
    let row := linkOutgoing r (getOutgoingRelationships T) ⟨e, noLinks⟩
    let isNew := (r.find T entityId).isNone
    if isNew = false ∧ update = false then .error (.exception "Object already exists")
    else
      let r' := r.add T row
      if isNew then .ok (linkIncoming entityId (getIncomingRelationships T) r') else .ok r'

/-- A call of `createFromEntity(e, update: true)` whose future is not awaited: its error reaches
nobody. -/
def createUnawaited (r : Realm) (T : Model) (e : Entity T) : Realm :=
  match createFromEntity r T e true with
  | .ok r' => r'
  | .error _ => r

def getEntity (r : Realm) (T : Model) (id : String) : Option (Entity T) :=
  (r.find T id).map Row.entity

def deleteEntity (r : Realm) (T : Model) (id : String) : Realm :=
  match r.find T id with
  | some _ => r.delete T id
  | none => r

/-- The order of the types in the Realm configuration. -/
def schema : List Model :=
  [.user, .posting, .booking, .favouritePosting, .message, .review, .conversation]

def deleteAll (r : Realm) : Realm :=
  schema.reverse.foldl (fun r T => if r.all T = [] then r else r.deleteMany T) r

variable {r : Realm} {S T : Model} {e : Entity T}

theorem linkOutgoing_entity (rels : List RealmRelationship) (row : Row S) :
    (linkOutgoing r rels row).entity = row.entity := by
  induction rels generalizing row with
  | nil => rfl
  | cons rel rels ih =>
      simp only [linkOutgoing, List.foldl_cons]
      split
      · exact ih _
      · exact ih _

/-- What the incoming loop does to the links of one row. -/
def backfill (id : String) (rels : List RealmRelationship) (S : Model) (e : Entity S)
    (links : Links) : Links :=
  rels.foldl (fun links rel => if rel.IsReferencing id S e links
    then Function.update links rel.relationshipProperty (some id) else links) links

theorem find_linkIncoming (id : String) (rels : List RealmRelationship) (r : Realm) (k : String) :
    (linkIncoming id rels r).find S k =
      (r.find S k).map (fun row => ⟨row.entity, backfill id rels S row.entity row.links⟩) := by
  induction rels generalizing r with
  | nil => cases h : r.find S k <;> simp [linkIncoming, backfill, h]
  | cons rel rels ih =>
      simp only [linkIncoming, List.foldl_cons]
      rw [← linkIncoming, ih, Realm.find_relink, Option.map_map]
      rfl

theorem createUnawaited_of_empty (h : Entity.id T e = "") : createUnawaited r T e = r := by
  simp only [createUnawaited, createFromEntity, if_pos h]

theorem createUnawaited_of_ne (h : Entity.id T e ≠ "") :
    createUnawaited r T e =
      if (r.find T (Entity.id T e)).isNone then
        linkIncoming (Entity.id T e) (getIncomingRelationships T)
          (r.add T (linkOutgoing r (getOutgoingRelationships T) ⟨e, noLinks⟩))
      else r.add T (linkOutgoing r (getOutgoingRelationships T) ⟨e, noLinks⟩) := by
  simp only [createUnawaited, createFromEntity, if_neg h]
  by_cases hn : (r.find T (Entity.id T e)).isNone <;> simp [hn]

theorem id_of_getEntity {id : String} (h : getEntity r T id = some e) : Entity.id T e = id := by
  obtain ⟨row, hrow, rfl⟩ := Option.map_eq_some_iff.mp h
  exact Realm.id_of_find hrow

theorem getEntity_linkIncoming (id : String) (rels : List RealmRelationship) (k : String) :
    getEntity (linkIncoming id rels r) S k = getEntity r S k := by
  unfold getEntity
  rw [find_linkIncoming, Option.map_map]
  rfl

theorem getEntity_createUnawaited_self (h : Entity.id T e ≠ "") (k : String) :
    getEntity (createUnawaited r T e) T k =
      if k = Entity.id T e then some e else getEntity r T k := by
  have hadd : getEntity (r.add T (linkOutgoing r (getOutgoingRelationships T) ⟨e, noLinks⟩)) T k =
      if k = Entity.id T e then some e else getEntity r T k := by
    unfold getEntity
    rw [Realm.find_add_self, linkOutgoing_entity]
    split_ifs with hk
    · rw [Option.map_some, linkOutgoing_entity]
    · rfl
  rw [createUnawaited_of_ne h]
  split_ifs with hn hk hk <;> simpa only [getEntity_linkIncoming, hk, if_true, if_false] using hadd

theorem getEntity_createUnawaited_of_ne (hS : S ≠ T) (k : String) :
    getEntity (createUnawaited r T e) S k = getEntity r S k := by
  by_cases h : Entity.id T e = ""
  · rw [createUnawaited_of_empty h]
  · have hadd (row : Row T) : getEntity (r.add T row) S k = getEntity r S k := by
      unfold getEntity
      rw [Realm.find_add_of_ne _ hS]
    rw [createUnawaited_of_ne h]
    split_ifs
    · rw [getEntity_linkIncoming, hadd]
    · rw [hadd]

/-- A row is never lost by a write, and what a write leaves of it depends on nothing else. -/
theorem getEntity_createUnawaited (k : String) : getEntity (createUnawaited r T e) T k =
    if Entity.id T e ≠ "" ∧ k = Entity.id T e then some e else getEntity r T k := by
  by_cases h : Entity.id T e = ""
  · rw [createUnawaited_of_empty h, if_neg (fun hc => hc.1 h)]
  · rw [getEntity_createUnawaited_self h]
    simp only [h, ne_eq, not_false_eq_true, true_and]

theorem getEntity_deleteEntity_self (id k : String) :
    getEntity (deleteEntity r T id) T k = if k = id then none else getEntity r T k := by
  unfold deleteEntity
  cases h : r.find T id with
  | some row =>
      unfold getEntity
      simp only [Realm.find_delete_self]
      split_ifs
      · rfl
      · rw [Option.map_map]
        rfl
  | none =>
      simp only
      split_ifs with hk
      · subst hk
        simp [getEntity, h]
      · rfl

end RealmService

end AirBnbClone
