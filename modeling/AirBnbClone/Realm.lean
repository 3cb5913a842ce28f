import AirBnbClone.Models

/-!
# The local Realm database

A row is an entity together with its object links, a property name being mapped to the primary key
of the linked object. `add` overwrites every property of the row it stores, nulls included, and
deleting an object nulls every link to it. Rows are stored under their own primary key, which is
part of the store and not a fact to be proved again after each operation.
-/

namespace AirBnbClone

abbrev Links := String → Option String

structure Row (T : Model) where
  entity : Entity T
  links : Links

def noLinks : Links := fun _ => none

structure Realm where
  table : (T : Model) → DartMap (Row T)
  keyed : ∀ T id row, (table T).lookup id = some row → Entity.id T row.entity = id

namespace Realm

def empty : Realm where
  table _ := ∅
  keyed T id row h := by simp at h

def find (r : Realm) (T : Model) (id : String) : Option (Row T) := (r.table T).lookup id

def all (r : Realm) (T : Model) : List (Row T) := FiniteMap.values (r.table T)

/-- Replace one table by rows stored under their own key. -/
def setTable (r : Realm) (T : Model) (t : DartMap (Row T))
    (h : ∀ id row, t.lookup id = some row → Entity.id T row.entity = id) : Realm where
  table := Function.update r.table T t
  keyed S id row hrow := by
    by_cases hS : S = T
    · subst hS
      rw [Function.update_self] at hrow
      exact h id row hrow
    · rw [Function.update_of_ne hS] at hrow
      exact r.keyed S id row hrow

/-- `realm.add(object, update: true)`. -/
def add (r : Realm) (T : Model) (row : Row T) : Realm :=
  r.setTable T ((r.table T).insert (Entity.id T row.entity) row) (by
    intro id row' h
    rw [FiniteMap.lookup_insert_eq_ite] at h
    split_ifs at h with hid
    · cases h
      exact hid.symm
    · exact r.keyed T id row' h)

/-- Change the links of every row, looking only at that row. -/
def relink (r : Realm) (f : (S : Model) → Entity S → Links → Links) : Realm where
  table S := FiniteMap.mapValues (fun _ row => ⟨row.entity, f S row.entity row.links⟩) (r.table S)
  keyed S id row h := by
    rw [FiniteMap.lookup_mapValues, Option.map_eq_some_iff] at h
    obtain ⟨row', hrow, rfl⟩ := h
    exact r.keyed S id row' hrow

/-- The type an object property of the schema links to. -/
def linkTarget : Model → String → Option Model
  | .posting, "host" => some .user
  | .booking, "posting" => some .posting
  | .booking, "user" => some .user
  | .favouritePosting, "posting" => some .posting
  | .favouritePosting, "user" => some .user
  | .message, "sender" => some .user
  | .review, "user" => some .user
  | _, _ => none

/-- Null the links to the objects of type `T` whose key satisfies `gone`. -/
def unlink (T : Model) (gone : String → Bool) (S : Model) (links : Links) : Links := fun prop =>
  if linkTarget S prop = some T ∧ ((links prop).any gone) then none else links prop

/-- `realm.delete(object)`. -/
def delete (r : Realm) (T : Model) (id : String) : Realm :=
  (r.setTable T ((r.table T).erase id) (by
    intro k row h
    rw [FiniteMap.lookup_erase_eq_ite] at h
    split_ifs at h
    exact r.keyed T k row h)).relink (fun S _ links => unlink T (· == id) S links)

/-- `realm.deleteMany(realm.dynamic.all(name))`. -/
def deleteMany (r : Realm) (T : Model) : Realm :=
  (r.setTable T ∅ (by
    intro k row h
    simp at h)).relink (fun S _ links => unlink T (fun _ => true) S links)

variable {r : Realm} {S T : Model} {id : String}

theorem id_of_find {row : Row T} (h : r.find T id = some row) : Entity.id T row.entity = id :=
  r.keyed T id row h

theorem find_setTable_self (t : DartMap (Row T)) (h) :
    (r.setTable T t h).find T id = t.lookup id := by
  change AList.lookup id (Function.update r.table T t T) = _
  rw [Function.update_self]

theorem find_setTable_of_ne (t : DartMap (Row T)) (h) (hS : S ≠ T) :
    (r.setTable T t h).find S id = r.find S id := by
  change AList.lookup id (Function.update r.table T t S) = _
  rw [Function.update_of_ne hS]
  rfl

theorem find_relink (f : (S : Model) → Entity S → Links → Links) :
    (r.relink f).find S id =
      (r.find S id).map (fun row => ⟨row.entity, f S row.entity row.links⟩) :=
  FiniteMap.lookup_mapValues _ _ _

theorem find_add_self (row : Row T) :
    (r.add T row).find T id = if id = Entity.id T row.entity then some row else r.find T id := by
  rw [add, find_setTable_self, FiniteMap.lookup_insert_eq_ite]
  rfl

theorem find_add_of_ne (row : Row T) (h : S ≠ T) : (r.add T row).find S id = r.find S id := by
  rw [add, find_setTable_of_ne _ _ h]

theorem find_delete_self (k : String) :
    (r.delete T id).find T k = if k = id then none else
      (r.find T k).map (fun row => ⟨row.entity, unlink T (· == id) T row.links⟩) := by
  rw [delete, find_relink, find_setTable_self, FiniteMap.lookup_erase_eq_ite]
  split_ifs <;> rfl

theorem find_delete_of_ne (h : S ≠ T) (k : String) :
    (r.delete T id).find S k =
      (r.find S k).map (fun row => ⟨row.entity, unlink T (· == id) S row.links⟩) := by
  rw [delete, find_relink, find_setTable_of_ne _ _ h]

theorem find_deleteMany_self (k : String) : (r.deleteMany T).find T k = none := by
  rw [deleteMany, find_relink, find_setTable_self]
  rfl

theorem find_deleteMany_of_ne (h : S ≠ T) (k : String) :
    (r.deleteMany T).find S k =
      (r.find S k).map (fun row => ⟨row.entity, unlink T (fun _ => true) S row.links⟩) := by
  rw [deleteMany, find_relink, find_setTable_of_ne _ _ h]

theorem mem_all_iff (row : Row T) : row ∈ r.all T ↔ ∃ id, r.find T id = some row :=
  FiniteMap.mem_values_iff _ _

theorem nodup_ids (r : Realm) (T : Model) :
    ((r.all T).map (fun row => Entity.id T row.entity)).Nodup := by
  have hkeys : (r.all T).map (fun row => Entity.id T row.entity) =
      (r.table T).entries.map Sigma.fst := by
    unfold all FiniteMap.values
    rw [List.map_map]
    apply List.map_congr_left
    intro e he
    exact r.keyed T e.1 e.2 (AList.mem_lookup_iff.mpr he)
  rw [hkeys]
  exact (r.table T).nodupKeys

theorem mem_entities_iff (e : Entity T) :
    e ∈ (r.all T).map Row.entity ↔ (r.find T (Entity.id T e)).map Row.entity = some e := by
  constructor
  · intro h
    obtain ⟨row, hrow, rfl⟩ := List.mem_map.mp h
    obtain ⟨k, hk⟩ := (mem_all_iff row).mp hrow
    rw [id_of_find hk, hk]
    rfl
  · intro h
    obtain ⟨row, hrow, rfl⟩ := Option.map_eq_some_iff.mp h
    exact List.mem_map_of_mem ((mem_all_iff row).mpr ⟨_, hrow⟩)

end Realm

end AirBnbClone
