import Mathlib.Data.List.AList

/-!
# Finite maps read through their lookups

Association lists with distinct keys are used as finite maps. Everything below is stated on
`AList.lookup`, so that a development never inspects the order of the entries. Mathlib supplies
insertion, erasure and the left-biased union; rewriting every value in place is added here.
-/

namespace FiniteMap

variable {κ α β : Type} [DecidableEq κ]

/-- A finite map from `κ` to `α`. -/
abbrev Map (κ α : Type) := AList (fun _ : κ => α)

theorem lookup_insert_eq_ite (m : Map κ α) (k k' : κ) (v : α) :
    (m.insert k v).lookup k' = if k' = k then some v else m.lookup k' := by
  by_cases h : k' = k
  · subst h
    simp
  · rw [AList.lookup_insert_ne h, if_neg h]

theorem lookup_erase_eq_ite (m : Map κ α) (k k' : κ) :
    (m.erase k).lookup k' = if k' = k then none else m.lookup k' := by
  by_cases h : k' = k
  · subst h
    simp
  · rw [AList.lookup_erase_ne h, if_neg h]

theorem lookup_union_eq_ite (m n : Map κ α) (k : κ) :
    (m ∪ n).lookup k = if k ∈ m then m.lookup k else n.lookup k := by
  by_cases h : k ∈ m
  · rw [AList.lookup_union_left h, if_pos h]
  · rw [AList.lookup_union_right h, if_neg h]

theorem mem_iff_lookup_ne_none (m : Map κ α) (k : κ) : k ∈ m ↔ m.lookup k ≠ none := by
  rw [Ne, AList.lookup_eq_none, not_not]

theorem lookup_union_eq_or (m n : Map κ α) (k : κ) :
    (m ∪ n).lookup k = (m.lookup k).or (n.lookup k) := by
  rw [lookup_union_eq_ite]
  split_ifs with h
  · obtain ⟨v, hv⟩ := Option.isSome_iff_exists.mp (AList.lookup_isSome.mpr h)
    rw [hv, Option.some_or]
  · rw [AList.lookup_eq_none.mpr h, Option.none_or]

theorem mem_of_lookup_eq_some {m : Map κ α} {k : κ} {v : α} (h : m.lookup k = some v) : k ∈ m := by
  rw [mem_iff_lookup_ne_none, h]
  exact Option.some_ne_none v

theorem mem_entries_insert {m : Map κ α} {k : κ} {v : α} {e : Sigma fun _ : κ => α} :
    e ∈ (m.insert k v).entries ↔ e = ⟨k, v⟩ ∨ (e.1 ≠ k ∧ e ∈ m.entries) := by
  obtain ⟨k', w⟩ := e
  rw [← AList.mem_lookup_iff, ← AList.mem_lookup_iff, Option.mem_def, Option.mem_def,
    lookup_insert_eq_ite]
  by_cases h : k' = k
  · subst h
    simp [eq_comm]
  · simp [h]

theorem mem_entries_of_erase {m : Map κ α} {k : κ} {e : Sigma fun _ : κ => α}
    (h : e ∈ (m.erase k).entries) : e ∈ m.entries := by
  rw [← AList.mem_lookup_iff, Option.mem_def, lookup_erase_eq_ite] at h
  split_ifs at h
  exact AList.mem_lookup_iff.mp h

/-- Rewrite every value in place, with access to its key. -/
def mapValues (f : κ → α → β) (m : Map κ α) : Map κ β where
  entries := m.entries.map (fun e => ⟨e.1, f e.1 e.2⟩)
  nodupKeys := by
    have h := m.nodupKeys
    simpa only [List.NodupKeys, List.keys, List.map_map, Function.comp_def] using h

theorem dlookup_map_entries (f : κ → α → β) (k : κ) (l : List (Sigma fun _ : κ => α)) :
    List.dlookup k (l.map (fun e => (⟨e.1, f e.1 e.2⟩ : Sigma fun _ : κ => β))) =
      (List.dlookup k l).map (f k) := by
  induction l with
  | nil => rfl
  | cons e l ih =>
      obtain ⟨k', v⟩ := e
      by_cases h : k = k'
      · subst h
        simp only [List.map_cons, List.dlookup_cons_eq, Option.map_some]
      · rw [List.map_cons, List.dlookup_cons_ne _ _ h, List.dlookup_cons_ne _ _ h, ih]

@[simp] theorem lookup_mapValues (f : κ → α → β) (m : Map κ α) (k : κ) :
    (mapValues f m).lookup k = (m.lookup k).map (f k) :=
  dlookup_map_entries f k m.entries

def values (m : Map κ α) : List α := m.entries.map Sigma.snd

theorem mem_values_iff (m : Map κ α) (v : α) : v ∈ values m ↔ ∃ k, m.lookup k = some v := by
  constructor
  · intro h
    obtain ⟨⟨k, w⟩, hmem, rfl⟩ := List.mem_map.mp h
    exact ⟨k, AList.mem_lookup_iff.mpr hmem⟩
  · rintro ⟨k, h⟩
    exact List.mem_map.mpr ⟨⟨k, v⟩, AList.mem_lookup_iff.mp h, rfl⟩

theorem mem_values_insert_self (m : Map κ α) (k : κ) (v : α) : v ∈ values (m.insert k v) :=
  (mem_values_iff _ v).mpr ⟨k, AList.lookup_insert m⟩

theorem mem_values_insert_of_new {m : Map κ α} {k : κ} (hk : m.lookup k = none) {v w : α}
    (hw : w ∈ values m) : w ∈ values (m.insert k v) := by
  obtain ⟨k', hk'⟩ := (mem_values_iff m w).mp hw
  refine (mem_values_iff _ w).mpr ⟨k', ?_⟩
  rw [lookup_insert_eq_ite, if_neg, hk']
  rintro rfl
  rw [hk] at hk'
  cases hk'

/-- Erasing a key loses no value but its own. -/
theorem mem_values_erase {m : Map κ α} {k : κ} {v w : α} (hk : m.lookup k = some v)
    (hw : w ∈ values m) (hne : w ≠ v) : w ∈ values (m.erase k) := by
  obtain ⟨k', hk'⟩ := (mem_values_iff m w).mp hw
  refine (mem_values_iff _ w).mpr ⟨k', ?_⟩
  rw [lookup_erase_eq_ite, if_neg, hk']
  rintro rfl
  rw [hk] at hk'
  exact hne (Option.some.inj hk').symm

end FiniteMap
