import AirBnbClone.FirestoreQuery
import AirBnbClone.FireStoreService

/-!
# Snapshot listeners

A query snapshot carries the difference between two consecutive result sets. The handlers below
are the callbacks that `observeDoc` and `observeCollection` install; what a handler does to the
rows of its own type is determined by the two result sets alone.
-/

namespace AirBnbClone

inductive DocumentChange
  | added (id : String) (data : Doc)
  | modified (id : String) (data : Doc)
  | removed (id : String)

/-- Documents with the same fields; the order of the entries is not part of a document. -/
abbrev SameFields (d d' : Doc) : Prop := d.entries.Perm d'.entries

namespace QuerySnapshot

def removals (old new : DartMap Doc) : List DocumentChange :=
  (old.keys.filter (fun id => (new.lookup id).isNone)).map DocumentChange.removed

def upsertion? (old : DartMap Doc) (e : Sigma fun _ : String => Doc) : Option DocumentChange :=
  match old.lookup e.1 with
  | none => some (.added e.1 e.2)
  | some d => if SameFields d e.2 then none else some (.modified e.1 e.2)

/-- The documents of a result in the order in which their changes are listed. -/
def additionsFirst (old new : DartMap Doc) : List (Sigma fun _ : String => Doc) :=
  new.entries.filter (fun e => (old.lookup e.1).isNone) ++
    new.entries.filter (fun e => !(old.lookup e.1).isNone)

/-- `event.docChanges` of a snapshot whose result set is `new` and whose predecessor was `old`: what
was removed, what was added and what was modified. -/
def docChanges (old new : DartMap Doc) : List DocumentChange :=
  removals old new ++ (additionsFirst old new).filterMap (upsertion? old)

def Writes (old new : DartMap Doc) (id : String) : Prop :=
  ∃ e ∈ new.entries, e.1 = id ∧ (upsertion? old e).isSome

def Removes (old new : DartMap Doc) (id : String) : Prop :=
  (old.lookup id).isSome ∧ (new.lookup id).isNone

instance (old new : DartMap Doc) (id : String) : Decidable (Writes old new id) :=
  inferInstanceAs (Decidable (∃ e ∈ new.entries, _))

instance (old new : DartMap Doc) (id : String) : Decidable (Removes old new id) :=
  inferInstanceAs (Decidable (_ ∧ _))

variable {old new : DartMap Doc} {id : String}

theorem additionsFirst_perm (old new : DartMap Doc) :
    (additionsFirst old new).Perm new.entries :=
  List.filter_append_perm _ _

theorem additionsFirst_nodupKeys (old new : DartMap Doc) : (additionsFirst old new).NodupKeys :=
  (List.perm_nodupKeys (additionsFirst_perm old new)).mpr new.nodupKeys

/-- A document that stays in the result and is not reported has kept its fields. -/
theorem exists_sameFields {d : Doc} (hd : new.lookup id = some d) (h : ¬ Writes old new id) :
    ∃ d₀, old.lookup id = some d₀ ∧ SameFields d₀ d := by
  have hnone : upsertion? old ⟨id, d⟩ = none := by
    by_contra hne
    exact h ⟨⟨id, d⟩, AList.mem_lookup_iff.mp hd, rfl, Option.isSome_iff_ne_none.mpr hne⟩
  unfold upsertion? at hnone
  cases hold : old.lookup id with
  | none => simp [hold] at hnone
  | some d₀ =>
      refine ⟨d₀, rfl, ?_⟩
      by_contra hp
      simp [hold, hp] at hnone

end QuerySnapshot

namespace FireStoreService

open FirestoreMapper RealmService QuerySnapshot

def onDocument (z : Zone) (T : Model) (id : String) (event : Option Doc) (r : Realm) : Realm :=
  match event with
  | some d =>
      match fromDocumentSnapshot z T id d with
      | .ok e => createUnawaited r T e
      | .error _ => r
  | none => deleteEntity r T id

/-- The callback of `observeCollection`: an exception ends the loop over the changes. -/
def onDocChanges (z : Zone) (T : Model) : List DocumentChange → Realm → Realm
  | [], r => r
  | .added _ data :: changes, r | .modified _ data :: changes, r =>
      match fromMap z T data with
      | .ok e => onDocChanges z T changes (createUnawaited r T e)
      | .error _ => r
  | .removed id :: changes, r => onDocChanges z T changes (deleteEntity r T id)

/-- The document decodes to a row stored under the document's own id. -/
def DecodesAs (z : Zone) (T : Model) (id : String) (d : Doc) : Prop :=
  id ≠ "" ∧ (fromMap z T d).toOption.map (Entity.id T) = some id

instance (z : Zone) (T : Model) (id : String) (d : Doc) : Decidable (DecodesAs z T id d) :=
  inferInstanceAs (Decidable (_ ∧ _))

variable {z : Zone} {T : Model}

theorem DecodesAs.exists_ok {id : String} {d : Doc} (h : DecodesAs z T id d) :
    ∃ e, fromMap z T d = .ok e ∧ Entity.id T e = id := by
  obtain ⟨-, h⟩ := h
  cases he : fromMap z T d with
  | error e => simp [he, Except.toOption] at h
  | ok e => exact ⟨e, rfl, by simpa [he, Except.toOption] using h⟩

theorem fromMap_of_sameFields {d d' : Doc} (h : SameFields d d') :
    fromMap z T d = fromMap z T d' := by
  apply fromMap_congr
  intro f _
  unfold Doc.get
  rw [AList.perm_lookup h]

theorem onDocChanges_removed_append (ids : List String) (changes : List DocumentChange)
    (r : Realm) : onDocChanges z T (ids.map DocumentChange.removed ++ changes) r =
      onDocChanges z T changes (ids.foldl (fun r id => deleteEntity r T id) r) := by
  induction ids generalizing r with
  | nil => rfl
  | cons id ids ih => exact ih _

theorem getEntity_foldl_deleteEntity (ids : List String) (r : Realm) (k : String) :
    getEntity (ids.foldl (fun r id => deleteEntity r T id) r) T k =
      if k ∈ ids then none else getEntity r T k := by
  induction ids generalizing r with
  | nil => rfl
  | cons id ids ih =>
      rw [List.foldl_cons, ih, getEntity_deleteEntity_self]
      by_cases hk : k ∈ ids <;> by_cases hid : k = id <;> simp [hk, hid]

/-- A reported document is written and its write does not touch the other rows. -/
theorem onDocChanges_upsertion_cons (old : DartMap Doc) {e : Sigma fun _ : String => Doc}
    (es : List (Sigma fun _ : String => Doc)) (r : Realm) (hdec : DecodesAs z T e.1 e.2) :
    ∃ r', (onDocChanges z T ((e :: es).filterMap (upsertion? old)) r =
        onDocChanges z T (es.filterMap (upsertion? old)) r') ∧
      ∀ k, getEntity r' T k = if k = e.1 ∧ (upsertion? old e).isSome
        then (fromMap z T e.2).toOption else getEntity r T k := by
  obtain ⟨x, hx, hid⟩ := hdec.exists_ok
  have hwrite : ∀ k, getEntity (createUnawaited r T x) T k =
      if k = e.1 then some x else getEntity r T k := by
    intro k
    rw [getEntity_createUnawaited_self (hid ▸ hdec.1), hid]
  rw [List.filterMap_cons]
  cases hu : upsertion? old e with
  | none => exact ⟨r, rfl, fun k => by simp⟩
  | some change =>
      refine ⟨createUnawaited r T x, ?_, ?_⟩
      · unfold upsertion? at hu
        cases hl : old.lookup e.1 with
        | none =>
            rw [hl] at hu
            cases hu
            simp only [onDocChanges, hx]
        | some d =>
            rw [hl] at hu
            simp only at hu
            split_ifs at hu
            cases hu
            simp only [onDocChanges, hx]
      · intro k
        rw [hwrite, hx]
        simp [Except.toOption]

theorem getEntity_onDocChanges_upsertions {old : DartMap Doc}
    {es : List (Sigma fun _ : String => Doc)} (hnodup : es.NodupKeys)
    (hdec : ∀ e ∈ es, DecodesAs z T e.1 e.2) (r : Realm) (k : String) :
    (∀ e ∈ es, e.1 = k → (upsertion? old e).isSome →
      getEntity (onDocChanges z T (es.filterMap (upsertion? old)) r) T k =
        (fromMap z T e.2).toOption) ∧
    ((¬ ∃ e ∈ es, e.1 = k ∧ (upsertion? old e).isSome) →
      getEntity (onDocChanges z T (es.filterMap (upsertion? old)) r) T k = getEntity r T k) := by
  induction es generalizing r with
  | nil => exact ⟨fun e he => absurd he List.not_mem_nil, fun _ => rfl⟩
  | cons e₀ es ih =>
      obtain ⟨hfresh, hnodup⟩ := List.nodupKeys_cons.mp hnodup
      obtain ⟨r', heq, hr'⟩ := onDocChanges_upsertion_cons old es r
        (hdec e₀ List.mem_cons_self)
      have ih := ih hnodup (fun e he => hdec e (List.mem_cons_of_mem _ he)) r'
      rw [heq]
      constructor
      · intro e he hk hsome
        rcases List.mem_cons.mp he with rfl | he
        · -- no later entry has this key, so the row written here is final
          rw [ih.2, hr', if_pos ⟨hk.symm, hsome⟩]
          rintro ⟨e', he', hk', -⟩
          exact hfresh (List.mem_map.mpr ⟨e', he', hk'.trans hk.symm⟩)
        · exact ih.1 e he hk hsome
      · intro hnot
        rw [ih.2 (fun ⟨e, he, h⟩ => hnot ⟨e, List.mem_cons_of_mem _ he, h⟩), hr', if_neg]
        rintro ⟨rfl, hsome⟩
        exact hnot ⟨e₀, List.mem_cons_self, rfl, hsome⟩

variable {old new : DartMap Doc} {id : String}

theorem getEntity_onDocChanges_of_writes
    (hdec : ∀ e ∈ new.entries, DecodesAs z T e.1 e.2) (r : Realm) {d : Doc}
    (hd : new.lookup id = some d) (h : Writes old new id) :
    getEntity (onDocChanges z T (docChanges old new) r) T id = (fromMap z T d).toOption := by
  obtain ⟨⟨k, d'⟩, he, rfl, hsome⟩ := h
  have hdd : d' = d := Option.some.inj ((AList.mem_lookup_iff.mpr he).symm.trans hd)
  subst hdd
  have hperm := additionsFirst_perm old new
  rw [docChanges, removals, onDocChanges_removed_append]
  exact (getEntity_onDocChanges_upsertions (additionsFirst_nodupKeys old new)
    (fun e he => hdec e (hperm.subset he)) _ k).1 _ (hperm.mem_iff.mpr he) rfl hsome

theorem getEntity_onDocChanges_of_not_writes
    (hdec : ∀ e ∈ new.entries, DecodesAs z T e.1 e.2) (r : Realm) (h : ¬ Writes old new id) :
    getEntity (onDocChanges z T (docChanges old new) r) T id =
      if Removes old new id then none else getEntity r T id := by
  have hperm := additionsFirst_perm old new
  have hkept : ¬ ∃ e ∈ additionsFirst old new, e.1 = id ∧ (upsertion? old e).isSome :=
    fun ⟨e, he, hwrite⟩ => h ⟨e, hperm.subset he, hwrite⟩
  rw [docChanges, removals, onDocChanges_removed_append,
    (getEntity_onDocChanges_upsertions (additionsFirst_nodupKeys old new)
      (fun e he => hdec e (hperm.subset he)) _ id).2 hkept, getEntity_foldl_deleteEntity]
  congr 1
  rw [List.mem_filter, Removes, AList.lookup_isSome, AList.mem_keys]

end FireStoreService

end AirBnbClone
