import AirBnbClone.RealmService

/-!
# Link coherence of the local store

A store is coherent when every registered link of every row is what its foreign key says: the
object of that key if it is stored, and null otherwise. Links are written on two paths, forwards on
every upsert and backwards only when a row is new, and the two meet because the registry lists each
relationship once on either side.
-/

namespace AirBnbClone.RealmService

open RealmRelationshipRegistry

/-- The object a foreign key resolves to in `r`, by its primary key. -/
def resolvedLink (r : Realm) (rel : RealmRelationship) (S : Model) (e : Entity S) : Option String :=
  match Entity.foreignKey S e rel.relationKey with
  | none => none
  | some key => if key ≠ "" ∧ (r.find rel.model key).isSome then some key else none

def Coherent (r : Realm) : Prop :=
  ∀ S id row, r.find S id = some row → ∀ rel ∈ getOutgoingRelationships S,
    row.links rel.relationshipProperty = resolvedLink r rel S row.entity

inductive StoreOp
  | createFromEntity (T : Model) (e : Entity T)
  | deleteEntity (T : Model) (id : String)
  | deleteAll

def StoreOp.apply (r : Realm) : StoreOp → Realm
  | .createFromEntity T e => createUnawaited r T e
  | .deleteEntity T id => RealmService.deleteEntity r T id
  | .deleteAll => RealmService.deleteAll r

section Registry

theorem outgoing_properties_nodup (S : Model) :
    ((getOutgoingRelationships S).map RealmRelationship.relationshipProperty).Nodup := by
  cases S <;> decide

theorem outgoing_registered_incoming {S : Model} {rel : RealmRelationship}
    (h : rel ∈ getOutgoingRelationships S) :
    ⟨S, rel.relationKey, rel.relationshipProperty⟩ ∈ getIncomingRelationships rel.model := by
  revert rel
  cases S <;> decide

theorem incoming_determines_outgoing {S T : Model} {rel rel' : RealmRelationship}
    (h : rel ∈ getOutgoingRelationships S) (h' : rel' ∈ getIncomingRelationships T)
    (hS : rel'.model = S) (hp : rel'.relationshipProperty = rel.relationshipProperty) :
    rel.model = T ∧ rel.relationKey = rel'.relationKey := by
  have all : ∀ rel ∈ getOutgoingRelationships S, ∀ rel' ∈ getIncomingRelationships T,
      rel'.model = S → rel'.relationshipProperty = rel.relationshipProperty →
        rel.model = T ∧ rel.relationKey = rel'.relationKey := by
    cases S <;> cases T <;> decide
  exact all rel h rel' h' hS hp

theorem linkTarget_outgoing {S : Model} {rel : RealmRelationship}
    (h : rel ∈ getOutgoingRelationships S) :
    Realm.linkTarget S rel.relationshipProperty = some rel.model := by
  revert rel
  cases S <;> decide

theorem mem_schema (T : Model) : T ∈ schema := by
  cases T <;> decide

end Registry

variable {r r' : Realm} {S T : Model}

theorem getReferencedEntity_eq_resolvedLink (rel : RealmRelationship) (row : Row S) :
    (rel.getReferencedEntity r row).map (fun u => Entity.id rel.model u.entity) =
      resolvedLink r rel S row.entity := by
  unfold RealmRelationship.getReferencedEntity resolvedLink
  cases Entity.foreignKey S row.entity rel.relationKey with
  | none => rfl
  | some key =>
      by_cases hk : key = ""
      · simp [hk]
      · cases hf : r.find rel.model key with
        | none => simp [hk, hf]
        | some u => simpa [hk, hf] using Realm.id_of_find hf

theorem resolvedLink_congr {rel : RealmRelationship} {e : Entity S}
    (h : ∀ key, Entity.foreignKey S e rel.relationKey = some key →
      (r'.find rel.model key).isSome = (r.find rel.model key).isSome) :
    resolvedLink r' rel S e = resolvedLink r rel S e := by
  unfold resolvedLink
  cases hk : Entity.foreignKey S e rel.relationKey with
  | none => rfl
  | some key => simp only [h key hk]

theorem linkOutgoing_links_of_notMem (prop : String) (rels : List RealmRelationship) (row : Row S)
    (h : prop ∉ rels.map RealmRelationship.relationshipProperty) :
    (linkOutgoing r rels row).links prop = row.links prop := by
  induction rels generalizing row with
  | nil => rfl
  | cons rel rels ih =>
      simp only [List.map_cons, List.mem_cons, not_or] at h
      simp only [linkOutgoing, List.foldl_cons]
      split
      · rw [← linkOutgoing, ih _ h.2]
        exact Function.update_of_ne h.1 _ _
      · rw [← linkOutgoing, ih _ h.2]

/-- The outgoing loop leaves each link at what its key resolves to. -/
theorem linkOutgoing_links {rels : List RealmRelationship} {row : Row S}
    (hn : (rels.map RealmRelationship.relationshipProperty).Nodup) (hl : row.links = noLinks)
    {rel : RealmRelationship} (h : rel ∈ rels) :
    (linkOutgoing r rels row).links rel.relationshipProperty =
      resolvedLink r rel S row.entity := by
  suffices key : ∀ row : Row S, row.links rel.relationshipProperty = none →
      (linkOutgoing r rels row).links rel.relationshipProperty = resolvedLink r rel S row.entity by
    exact key row (by rw [hl]; rfl)
  clear hl row
  intro row hl
  induction rels generalizing row with
  | nil => cases h
  | cons rel₀ rels ih =>
      simp only [List.map_cons, List.nodup_cons] at hn
      have hres := getReferencedEntity_eq_resolvedLink (r := r) rel row
      simp only [linkOutgoing, List.foldl_cons]
      rcases List.mem_cons.mp h with rfl | hmem
      · split
        · rename_i u hu
          rw [hu] at hres
          rw [← linkOutgoing, linkOutgoing_links_of_notMem _ _ _ hn.1, ← hres]
          exact Function.update_self _ _ _
        · rename_i hu
          rw [hu] at hres
          rw [← linkOutgoing, linkOutgoing_links_of_notMem _ _ _ hn.1, ← hres, hl]
          rfl
      · have hne : rel.relationshipProperty ≠ rel₀.relationshipProperty := by
          intro he
          exact hn.1 (he ▸ List.mem_map_of_mem hmem)
        split
        · exact ih hn.2 hmem _ ((Function.update_of_ne hne _ _).trans hl)
        · exact ih hn.2 hmem _ hl

/-- The incoming loop fills exactly the null links whose key names the new row. -/
theorem backfill_apply (id : String) (rels : List RealmRelationship) (e : Entity S) (links : Links)
    (prop : String) :
    backfill id rels S e links prop =
      if links prop = none ∧ ∃ rel ∈ rels, rel.model = S ∧ rel.relationshipProperty = prop ∧
          Entity.foreignKey S e rel.relationKey = some id
      then some id else links prop := by
  induction rels generalizing links with
  | nil => simp [backfill]
  | cons rel rels ih =>
      rw [backfill, List.foldl_cons, ← backfill, ih]
      by_cases href : rel.IsReferencing id S e links
      · obtain ⟨hS, hk, hl⟩ := href
        by_cases hp : rel.relationshipProperty = prop
        · subst hp
          simp [RealmRelationship.IsReferencing, hl, ← hS, hk]
        · have hu : Function.update links rel.relationshipProperty (some id) prop = links prop :=
            Function.update_of_ne (fun he => hp he.symm) _ _
          simp only [if_pos (show rel.IsReferencing id S e links from ⟨hS, hk, hl⟩), hu,
            List.exists_mem_cons_iff, hp, false_and, and_false, false_or]
      · have hhead : ¬ (links prop = none ∧ rel.model = S ∧ rel.relationshipProperty = prop ∧
            Entity.foreignKey S e rel.relationKey = some id) := by
          rintro ⟨hl, hS, rfl, hk⟩
          exact href ⟨hS.symm, hk, hl⟩
        simp only [if_neg href, List.exists_mem_cons_iff]
        by_cases hl : links prop = none
        · have hfalse : ¬ (rel.model = S ∧ rel.relationshipProperty = prop ∧
              Entity.foreignKey S e rel.relationKey = some id) := fun hc => hhead ⟨hl, hc⟩
          simp only [hfalse, false_or]
        · simp only [hl, false_and]

theorem isSome_find_add (row : Row T) (U : Model) (k : String) :
    ((r.add T row).find U k).isSome =
      ((r.find U k).isSome || decide (U = T ∧ k = Entity.id T row.entity)) := by
  by_cases hU : U = T
  · subst hU
    rw [Realm.find_add_self]
    by_cases hk : k = Entity.id U row.entity <;> simp [hk]
  · rw [Realm.find_add_of_ne row hU]
    simp [hU]

/-- Before the back-fill every row, the new one included, has the links that its keys resolve to in
the old store. -/
theorem links_after_add (hr : Coherent r) (e : Entity T) {id : String} {row : Row S}
    (h : (r.add T (linkOutgoing r (getOutgoingRelationships T) ⟨e, noLinks⟩)).find S id = some row)
    {rel : RealmRelationship} (hrel : rel ∈ getOutgoingRelationships S) :
    row.links rel.relationshipProperty = resolvedLink r rel S row.entity := by
  by_cases hS : S = T
  · subst hS
    rw [Realm.find_add_self] at h
    split_ifs at h
    · cases h
      rw [linkOutgoing_entity]
      exact linkOutgoing_links (outgoing_properties_nodup S) rfl hrel
    · exact hr S id row h rel hrel
  · rw [Realm.find_add_of_ne _ hS] at h
    exact hr S id row h rel hrel

theorem coherent_add_of_stored (hr : Coherent r) (e : Entity T)
    (hold : (r.find T (Entity.id T e)).isSome) :
    Coherent (r.add T (linkOutgoing r (getOutgoingRelationships T) ⟨e, noLinks⟩)) := by
  intro S id row h rel hrel
  rw [links_after_add hr e h hrel]
  symm
  apply resolvedLink_congr
  intro key _
  rw [isSome_find_add, linkOutgoing_entity]
  by_cases hk : rel.model = T ∧ key = Entity.id T e
  · obtain ⟨hT, rfl⟩ := hk
    subst hT
    simp [hold]
  · simp [hk]

theorem coherent_linkIncoming_of_new (hr : Coherent r) (e : Entity T) (hid : Entity.id T e ≠ "")
    (hnew : r.find T (Entity.id T e) = none) :
    Coherent (linkIncoming (Entity.id T e) (getIncomingRelationships T)
      (r.add T (linkOutgoing r (getOutgoingRelationships T) ⟨e, noLinks⟩))) := by
  intro S id row h rel hrel
  rw [find_linkIncoming, Option.map_eq_some_iff] at h
  obtain ⟨row₀, h₀, rfl⟩ := h
  have hbase := links_after_add hr e h₀ hrel
  have hsome (U : Model) (k : String) :
      ((linkIncoming (Entity.id T e) (getIncomingRelationships T)
        (r.add T (linkOutgoing r (getOutgoingRelationships T) ⟨e, noLinks⟩))).find U k).isSome =
      ((r.find U k).isSome || decide (U = T ∧ k = Entity.id T e)) := by
    rw [find_linkIncoming, Option.isSome_map, isSome_find_add, linkOutgoing_entity]
  dsimp only
  rw [backfill_apply, hbase]
  by_cases hnow : rel.model = T ∧ Entity.foreignKey S row₀.entity rel.relationKey =
      some (Entity.id T e)
  · obtain ⟨rfl, hk⟩ := hnow
    have hin : ∃ rel' ∈ getIncomingRelationships rel.model, rel'.model = S ∧
        rel'.relationshipProperty = rel.relationshipProperty ∧
        Entity.foreignKey S row₀.entity rel'.relationKey = some (Entity.id rel.model e) :=
      ⟨_, outgoing_registered_incoming hrel, rfl, rfl, hk⟩
    have hnone : resolvedLink r rel S row₀.entity = none := by simp [resolvedLink, hk, hnew]
    rw [if_pos ⟨hnone, hin⟩]
    simp [resolvedLink, hk, hid, hsome]
  · have hkeep : resolvedLink (linkIncoming (Entity.id T e) (getIncomingRelationships T)
        (r.add T (linkOutgoing r (getOutgoingRelationships T) ⟨e, noLinks⟩))) rel S row₀.entity =
        resolvedLink r rel S row₀.entity := by
      apply resolvedLink_congr
      intro key hkey
      rw [hsome]
      have hne : ¬ (rel.model = T ∧ key = Entity.id T e) := by
        rintro ⟨hT, rfl⟩
        exact hnow ⟨hT, hkey⟩
      simp [hne]
    rw [hkeep, if_neg]
    rintro ⟨_, rel', hrel', hS, hp, hk⟩
    obtain ⟨hT, hkey⟩ := incoming_determines_outgoing hrel hrel' hS hp
    exact hnow ⟨hT, hkey ▸ hk⟩

theorem coherent_createUnawaited (hr : Coherent r) (e : Entity T) :
    Coherent (createUnawaited r T e) := by
  by_cases hid : Entity.id T e = ""
  · rw [createUnawaited_of_empty hid]
    exact hr
  · rw [createUnawaited_of_ne hid]
    cases hf : r.find T (Entity.id T e) with
    | none => exact coherent_linkIncoming_of_new hr e hid hf
    | some row => exact coherent_add_of_stored hr e (by rw [hf]; rfl)

theorem isSome_find_delete (id : String) (U : Model) (k : String) :
    ((r.delete T id).find U k).isSome =
      ((r.find U k).isSome && !decide (U = T ∧ k = id)) := by
  by_cases hU : U = T
  · subst hU
    rw [Realm.find_delete_self]
    by_cases hk : k = id <;> simp [hk]
  · rw [Realm.find_delete_of_ne hU]
    simp [hU]

/-- A surviving row was stored before, with its links to the deleted object nulled. -/
theorem find_delete_eq_some {id k : String} {row : Row S}
    (h : (r.delete T id).find S k = some row) :
    ∃ row₀, r.find S k = some row₀ ∧
      row = ⟨row₀.entity, Realm.unlink T (· == id) S row₀.links⟩ := by
  by_cases hS : S = T
  · subst hS
    rw [Realm.find_delete_self] at h
    split_ifs at h
    obtain ⟨row₀, h₀, rfl⟩ := Option.map_eq_some_iff.mp h
    exact ⟨row₀, h₀, rfl⟩
  · rw [Realm.find_delete_of_ne hS] at h
    obtain ⟨row₀, h₀, rfl⟩ := Option.map_eq_some_iff.mp h
    exact ⟨row₀, h₀, rfl⟩

theorem coherent_delete (hr : Coherent r) (id : String) : Coherent (r.delete T id) := by
  intro S k row h rel hrel
  obtain ⟨row₀, h₀, rfl⟩ := find_delete_eq_some h
  have hbase := hr S k row₀ h₀ rel hrel
  simp only [Realm.unlink, linkTarget_outgoing hrel, Option.some.injEq, hbase]
  unfold resolvedLink
  cases Entity.foreignKey S row₀.entity rel.relationKey with
  | none => simp
  | some key =>
      simp only [isSome_find_delete]
      by_cases hT : rel.model = T
      · by_cases hk : key = id
        · subst hk
          by_cases hs : key ≠ "" ∧ (r.find rel.model key).isSome <;> simp [hT, hs]
        · by_cases hs : key ≠ "" ∧ (r.find rel.model key).isSome <;> simp [hT, hk, hs]
      · simp [hT]

theorem coherent_deleteEntity (hr : Coherent r) (id : String) :
    Coherent (deleteEntity r T id) := by
  unfold deleteEntity
  cases r.find T id with
  | none => exact hr
  | some row => exact coherent_delete hr id

theorem find_deleteMany_of_none {k : String} (h : r.find S k = none) :
    (r.deleteMany T).find S k = none := by
  by_cases hS : S = T
  · subst hS
    exact Realm.find_deleteMany_self k
  · rw [Realm.find_deleteMany_of_ne hS, h]
    rfl

/-- The loop of `deleteAll` empties each table it visits and fills none. -/
theorem find_deleteAll_loop (Ts : List Model) (r : Realm) (U : Model) (k : String)
    (h : U ∈ Ts ∨ r.find U k = none) :
    (Ts.foldl (fun r T => if r.all T = [] then r else r.deleteMany T) r).find U k = none := by
  induction Ts generalizing r with
  | nil => exact h.resolve_left (List.not_mem_nil)
  | cons T Ts ih =>
      rw [List.foldl_cons]
      apply ih
      by_cases hU : U = T
      · subst hU
        right
        split_ifs with hall
        · cases hf : r.find U k with
          | none => rfl
          | some row =>
              have hmem : row ∈ r.all U := (Realm.mem_all_iff row).mpr ⟨k, hf⟩
              rw [hall] at hmem
              cases hmem
        · exact Realm.find_deleteMany_self k
      · rcases h with h | h
        · exact Or.inl ((List.mem_cons.mp h).resolve_left hU)
        · right
          split_ifs
          · exact h
          · exact find_deleteMany_of_none h

theorem find_deleteAll (r : Realm) (T : Model) (k : String) : (deleteAll r).find T k = none :=
  find_deleteAll_loop _ r T k (Or.inl (List.mem_reverse.mpr (mem_schema T)))

theorem coherent_apply (hr : Coherent r) (op : StoreOp) : Coherent (op.apply r) := by
  cases op with
  | createFromEntity T e => exact coherent_createUnawaited hr e
  | deleteEntity T id => exact coherent_deleteEntity hr id
  | deleteAll =>
      intro S id row h
      rw [StoreOp.apply, find_deleteAll] at h
      cases h

theorem coherent_foldl (hr : Coherent r) (ops : List StoreOp) :
    Coherent (ops.foldl StoreOp.apply r) := by
  induction ops generalizing r with
  | nil => exact hr
  | cons op ops ih => exact ih (coherent_apply hr op)

/-- Whatever is stored and deleted, in whatever order, every registered link of every row is the
object its foreign key names if that object is stored, and null otherwise. -/
theorem links_coherent_of_reachable (ops : List StoreOp) :
    Coherent (ops.foldl StoreOp.apply Realm.empty) := by
  have hempty : Coherent Realm.empty := by
    intro S id row h
    cases h
  exact coherent_foldl hempty ops

end AirBnbClone.RealmService
