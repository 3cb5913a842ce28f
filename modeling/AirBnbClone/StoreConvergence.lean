import AirBnbClone.KeyedEvents
import AirBnbClone.LinkCoherence

/-!
# The local store does not depend on the order of arrival

Users, postings, bookings, favourites, messages, reviews and conversations arrive on independent
listeners. Apart from its links a row is decided by the events of its own document, and in a
coherent store the links are decided by the rows. Every interleaving that keeps the order of the
events of each document therefore leaves the same store.
-/

namespace AirBnbClone.RealmService

open RealmRelationshipRegistry KeyedEvents

/-- An event of one document, as a listener applies it. -/
inductive RowEvent
  | upsert (T : Model) (e : Entity T)
  | delete (T : Model) (id : String)

namespace RowEvent

def key : RowEvent → Model × String
  | upsert T e => (T, Entity.id T e)
  | delete T id => (T, id)

def apply (r : Realm) : RowEvent → Realm
  | upsert T e => createUnawaited r T e
  | delete T id => deleteEntity r T id

end RowEvent

/-- A row without the links of the schema. -/
def bare {S : Model} (row : Row S) : Row S :=
  ⟨row.entity, fun prop => if Realm.linkTarget S prop = none then row.links prop else none⟩

def bareRow (r : Realm) (k : Model × String) : Option (Row k.1) := (r.find k.1 k.2).map bare

section Registry

theorem exists_outgoing_of_linkTarget {S : Model} {prop : String}
    (h : Realm.linkTarget S prop ≠ none) :
    ∃ rel ∈ getOutgoingRelationships S, rel.relationshipProperty = prop := by
  unfold Realm.linkTarget at h
  split at h
  all_goals first
    | exact absurd rfl h
    | decide

theorem linkTarget_of_incoming {T : Model} {rel : RealmRelationship}
    (h : rel ∈ getIncomingRelationships T) :
    Realm.linkTarget rel.model rel.relationshipProperty ≠ none := by
  revert rel
  cases T <;> decide

end Registry

variable {r r' : Realm} {S T : Model}

theorem bare_backfill (id : String) (e : Entity S) (links : Links) :
    bare ⟨e, backfill id (getIncomingRelationships T) S e links⟩ = bare ⟨e, links⟩ := by
  unfold bare
  congr 1
  funext prop
  split_ifs with hprop
  · dsimp only
    rw [backfill_apply, if_neg]
    rintro ⟨-, rel, hrel, rfl, rfl, -⟩
    exact linkTarget_of_incoming hrel hprop
  · rfl

theorem bare_linkOutgoing (e : Entity T) :
    bare (linkOutgoing r (getOutgoingRelationships T) ⟨e, noLinks⟩) = ⟨e, noLinks⟩ := by
  unfold bare
  rw [linkOutgoing_entity]
  congr 1
  funext prop
  split_ifs with hprop
  · apply linkOutgoing_links_of_notMem
    intro hmem
    obtain ⟨rel, hrel, rfl⟩ := List.mem_map.mp hmem
    rw [linkTarget_outgoing hrel] at hprop
    cases hprop
  · rfl

theorem bare_unlink (id : String) (row : Row S) :
    bare ⟨row.entity, Realm.unlink T (· == id) S row.links⟩ = bare row := by
  unfold bare
  congr 1
  funext prop
  split_ifs with hprop
  · dsimp only [Realm.unlink]
    rw [if_neg]
    rintro ⟨htarget, -⟩
    rw [hprop] at htarget
    cases htarget
  · rfl

theorem bareRow_linkIncoming (id : String) (k : Model × String) :
    bareRow (linkIncoming id (getIncomingRelationships T) r) k = bareRow r k := by
  unfold bareRow
  rw [find_linkIncoming, Option.map_map]
  congr 1
  funext row
  exact bare_backfill id row.entity row.links

theorem bareRow_createUnawaited_self (e : Entity T) (h : Entity.id T e ≠ "") :
    bareRow (createUnawaited r T e) (T, Entity.id T e) = some ⟨e, noLinks⟩ := by
  have hadd : bareRow (r.add T (linkOutgoing r (getOutgoingRelationships T) ⟨e, noLinks⟩))
      (T, Entity.id T e) = some ⟨e, noLinks⟩ := by
    unfold bareRow
    rw [Realm.find_add_self, linkOutgoing_entity, if_pos rfl, Option.map_some, bare_linkOutgoing]
  rw [createUnawaited_of_ne h]
  split_ifs
  · rw [bareRow_linkIncoming, hadd]
  · exact hadd

theorem bareRow_createUnawaited_of_ne (e : Entity T) {k : Model × String}
    (hk : k ≠ (T, Entity.id T e)) : bareRow (createUnawaited r T e) k = bareRow r k := by
  obtain ⟨S, id⟩ := k
  have hadd : bareRow (r.add T (linkOutgoing r (getOutgoingRelationships T) ⟨e, noLinks⟩))
      (S, id) = bareRow r (S, id) := by
    unfold bareRow
    by_cases hS : S = T
    · subst hS
      rw [Realm.find_add_self, linkOutgoing_entity, if_neg]
      rintro rfl
      exact hk rfl
    · rw [Realm.find_add_of_ne _ hS]
  by_cases h : Entity.id T e = ""
  · rw [createUnawaited_of_empty h]
  · rw [createUnawaited_of_ne h]
    split_ifs
    · rw [bareRow_linkIncoming, hadd]
    · exact hadd

theorem bareRow_deleteEntity_self (id : String) : bareRow (deleteEntity r T id) (T, id) = none := by
  unfold deleteEntity bareRow
  cases h : r.find T id with
  | none => rw [h, Option.map_none]
  | some row => rw [Realm.find_delete_self, if_pos rfl, Option.map_none]

theorem bareRow_deleteEntity_of_ne {id : String} {k : Model × String} (hk : k ≠ (T, id)) :
    bareRow (deleteEntity r T id) k = bareRow r k := by
  obtain ⟨S, id'⟩ := k
  unfold deleteEntity bareRow
  cases h : r.find T id with
  | none => rfl
  | some row =>
      have hfind : (r.delete T id).find S id' = (r.find S id').map
          (fun row => ⟨row.entity, Realm.unlink T (· == id) S row.links⟩) := by
        by_cases hS : S = T
        · subst hS
          rw [Realm.find_delete_self, if_neg]
          rintro rfl
          exact hk rfl
        · exact Realm.find_delete_of_ne hS id'
      rw [hfind, Option.map_map]
      congr 1
      funext row
      exact bare_unlink id row

/-- What an event makes of its document's row depends on that row alone. -/
theorem bareRow_apply_self (event : RowEvent) (h : bareRow r event.key = bareRow r' event.key) :
    bareRow (event.apply r) event.key = bareRow (event.apply r') event.key := by
  cases event with
  | upsert T e =>
      by_cases hid : Entity.id T e = ""
      · simpa only [RowEvent.apply, createUnawaited_of_empty hid] using h
      · exact (bareRow_createUnawaited_self e hid).trans (bareRow_createUnawaited_self e hid).symm
  | delete T id => exact (bareRow_deleteEntity_self id).trans (bareRow_deleteEntity_self id).symm

theorem bareRow_apply_of_ne (event : RowEvent) {k : Model × String} (hk : k ≠ event.key) :
    bareRow (event.apply r) k = bareRow r k := by
  cases event with
  | upsert T e => exact bareRow_createUnawaited_of_ne e hk
  | delete T id => exact bareRow_deleteEntity_of_ne hk

theorem coherent_events (hr : Coherent r) (events : List RowEvent) :
    Coherent (events.foldl RowEvent.apply r) := by
  induction events generalizing r with
  | nil => exact hr
  | cons event events ih =>
      apply ih
      cases event with
      | upsert T e => exact coherent_createUnawaited hr e
      | delete T id => exact coherent_deleteEntity hr id

/-- In coherent stores the links are decided by the rows. -/
theorem find_eq_of_bareRow_eq (hr : Coherent r) (hr' : Coherent r')
    (h : ∀ k, bareRow r k = bareRow r' k) (S : Model) (id : String) :
    r.find S id = r'.find S id := by
  have hsome (U : Model) (k : String) : (r'.find U k).isSome = (r.find U k).isSome := by
    have hk := congrArg Option.isSome (h (U, k))
    simpa only [bareRow, Option.isSome_map] using hk.symm
  have hid := h (S, id)
  unfold bareRow at hid
  dsimp only at hid
  cases hrow : r.find S id with
  | none =>
      rw [hrow, Option.map_none] at hid
      rw [Option.map_eq_none_iff.mp hid.symm]
  | some row =>
      rw [hrow, Option.map_some] at hid
      obtain ⟨row', hrow', hbare⟩ := Option.map_eq_some_iff.mp hid.symm
      have hentity : (bare row').entity = (bare row).entity := by rw [hbare]
      change row'.entity = row.entity at hentity
      have hlinks : row'.links = row.links := by
        funext prop
        by_cases hprop : Realm.linkTarget S prop = none
        · have hp := congrFun (congrArg Row.links hbare) prop
          simpa only [bare, if_pos hprop] using hp
        · obtain ⟨rel, hrel, rfl⟩ := exists_outgoing_of_linkTarget hprop
          rw [hr' S id row' hrow' rel hrel, hr S id row hrow rel hrel, hentity]
          exact resolvedLink_congr (fun key _ => hsome _ key)
      rw [hrow']
      obtain ⟨entity, links⟩ := row
      obtain ⟨entity', links'⟩ := row'
      cases hentity
      cases hlinks
      rfl

/-- Two interleavings of the same per-document streams leave the same rows and links. -/
theorem store_eq_of_interleavings {r : Realm} (hr : Coherent r)
    {streams : Model × String → List RowEvent} {events events' : List RowEvent}
    (h : IsInterleaving RowEvent.key streams events)
    (h' : IsInterleaving RowEvent.key streams events') (T : Model) (id : String) :
    (events.foldl RowEvent.apply r).find T id = (events'.foldl RowEvent.apply r).find T id := by
  apply find_eq_of_bareRow_eq (coherent_events hr events) (coherent_events hr events')
  intro k
  exact view_foldl_eq bareRow (fun _ _ event => bareRow_apply_self event)
    (fun _ event _ => bareRow_apply_of_ne event) r h h' k

def host : User := ⟨"h1", none, none, none, none, none, none, none, none, none, false, none⟩

def flat : Posting :=
  ⟨"p1", none, none, none, none, none, none, none, none, some "h1", 0, 0, [], [], ∅, ∅⟩

/-- A posting that arrives before its host is linked like one that arrives after. -/
theorem store_eq_of_interleavings_hostLast :
    ([RowEvent.upsert .user host, .upsert .posting flat].foldl RowEvent.apply Realm.empty).find
        .posting "p1" =
      ([RowEvent.upsert .posting flat, .upsert .user host].foldl RowEvent.apply Realm.empty).find
        .posting "p1" := by
  have hempty : Coherent Realm.empty := by
    intro S id row h
    cases h
  have hstreams : IsInterleaving RowEvent.key
      (fun k => [RowEvent.upsert .user host, .upsert .posting flat].filter (fun e => e.key = k))
      [.upsert .posting flat, .upsert .user host] := by
    intro k
    by_cases hk : RowEvent.key (.upsert .user host) = k
    · subst hk
      rfl
    · simp [List.filter_cons, hk]
  exact store_eq_of_interleavings hempty (fun _ => rfl) hstreams .posting "p1"

end AirBnbClone.RealmService
