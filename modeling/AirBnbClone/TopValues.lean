import Mathlib.Data.List.Sort

/-!
# The largest values of a list

`largest k l` are the `k` largest values of `l` in descending order. Sorting records by an order
that refines the descending order of a value, and truncating, gives the largest values. A list
between the `k` largest of another and that other has the same `k` largest.
-/

namespace TopValues

open List

variable {α β : Type*} [LinearOrder β] {k : ℕ}

def largest (k : ℕ) (l : List β) : List β := (l.insertionSort (· ≥ ·)).take k

theorem pairwise_sort (l : List β) : (l.insertionSort (· ≥ ·)).Pairwise (· ≥ ·) :=
  pairwise_insertionSort _ _

theorem largest_of_pairwise {l : List β} (h : l.Pairwise (· ≥ ·)) : largest k l = l.take k := by
  rw [largest, h.insertionSort_eq]

theorem largest_map {γ : Type*} [LinearOrder γ] {f : β → γ} (hf : StrictMono f) (l : List β) :
    largest k (l.map f) = (largest k l).map f := by
  rw [largest, largest, map_take, map_insertionSort (· ≥ ·) (· ≥ ·) f l]
  intro a _ b _
  exact hf.le_iff_le.symm

/-- Inserting by a relation that refines the descending order of `v` keeps that order. -/
theorem pairwise_orderedInsert {r : α → α → Prop} [DecidableRel r] {v : α → β} {a : α} {l : List α}
    (hr : ∀ b ∈ l, r a b → v b ≤ v a) (hr' : ∀ b ∈ l, ¬ r a b → v a ≤ v b)
    (h : l.Pairwise (fun b c => v c ≤ v b)) :
    (l.orderedInsert r a).Pairwise (fun b c => v c ≤ v b) := by
  induction l with
  | nil => exact pairwise_singleton _ _
  | cons b l ih =>
      rw [orderedInsert_cons]
      obtain ⟨hb, hl⟩ := pairwise_cons.mp h
      split_ifs with hab
      · refine pairwise_cons.mpr ⟨fun c hc => ?_, h⟩
        have hba := hr b mem_cons_self hab
        obtain rfl | hc := mem_cons.mp hc
        · exact hba
        · exact (hb c hc).trans hba
      · refine pairwise_cons.mpr ⟨fun c hc => ?_, ih (fun c hc => hr c (mem_cons_of_mem b hc))
          (fun c hc => hr' c (mem_cons_of_mem b hc)) hl⟩
        obtain rfl | hc := mem_orderedInsert r |>.mp hc
        · exact hr' b mem_cons_self hab
        · exact hb c hc

theorem pairwise_insertionSort_of {r : α → α → Prop} [DecidableRel r] {v : α → β} {l : List α}
    (hr : ∀ a ∈ l, ∀ b ∈ l, r a b → v b ≤ v a) (hr' : ∀ a ∈ l, ∀ b ∈ l, ¬ r a b → v a ≤ v b) :
    (l.insertionSort r).Pairwise (fun b c => v c ≤ v b) := by
  induction l with
  | nil => exact Pairwise.nil
  | cons a l ih =>
      rw [insertionSort_cons]
      apply pairwise_orderedInsert
      · intro b hb
        rw [mem_insertionSort] at hb
        exact hr a mem_cons_self b (mem_cons_of_mem a hb)
      · intro b hb
        rw [mem_insertionSort] at hb
        exact hr' a mem_cons_self b (mem_cons_of_mem a hb)
      · exact ih (fun b hb c hc => hr b (mem_cons_of_mem a hb) c (mem_cons_of_mem a hc))
          (fun b hb c hc => hr' b (mem_cons_of_mem a hb) c (mem_cons_of_mem a hc))

/-- The first records in such an order have the largest values. -/
theorem map_take_insertionSort {r : α → α → Prop} [DecidableRel r] {v : α → β} {l : List α}
    (hr : ∀ a ∈ l, ∀ b ∈ l, r a b → v b ≤ v a) (hr' : ∀ a ∈ l, ∀ b ∈ l, ¬ r a b → v a ≤ v b) :
    ((l.insertionSort r).take k).map v = largest k (l.map v) := by
  rw [map_take, largest]
  congr 1
  apply Perm.eq_of_pairwise' (r := (· ≥ ·))
  · exact pairwise_map.mpr (pairwise_insertionSort_of hr hr')
  · exact pairwise_sort _
  · exact ((perm_insertionSort r l).map v).trans (perm_insertionSort _ _).symm

theorem take_eq_take_of_sublist {l₁ l₂ : List β} (h₂ : l₂.Pairwise (· ≥ ·)) (hsub : l₁ <+ l₂)
    (htop : l₂.take k <+ l₁) : l₁.take k = l₂.take k := by
  induction k generalizing l₁ l₂ with
  | zero => rfl
  | succ k ih =>
      cases l₂ with
      | nil => rw [sublist_nil.mp hsub]
      | cons a l₂ =>
          obtain ⟨ha, hl₂⟩ := pairwise_cons.mp h₂
          rw [take_succ_cons] at htop ⊢
          cases l₁ with
          | nil => cases htop
          | cons b l₁ =>
              -- the head of the sublist is the largest value, since that value occurs in it
              have hab : b = a := by
                have hmem := htop.subset mem_cons_self
                have hge : a ≤ b := by
                  obtain rfl | hmem := mem_cons.mp hmem
                  · exact le_rfl
                  · exact (pairwise_cons.mp (h₂.sublist hsub)).1 a hmem
                obtain rfl | hb := mem_cons.mp (hsub.subset mem_cons_self)
                · rfl
                · exact le_antisymm (ha b hb) hge
              subst hab
              rw [take_succ_cons, ih hl₂ (cons_sublist_cons.mp hsub) (cons_sublist_cons.mp htop)]

/-- A list between the `k` largest values of another and that other has the same `k` largest. -/
theorem largest_eq_of_subperm {l₁ l₂ : List β} (hsub : l₁ <+~ l₂) (htop : largest k l₂ <+~ l₁) :
    largest k l₁ = largest k l₂ := by
  have hperm₁ := perm_insertionSort (· ≥ ·) l₁
  have hperm₂ := perm_insertionSort (· ≥ ·) l₂
  apply take_eq_take_of_sublist (pairwise_sort l₂)
  · exact sublist_of_subperm_of_pairwise
      (hperm₁.subperm_right.mpr (hperm₂.subperm_left.mpr hsub)) (pairwise_sort l₁)
      (pairwise_sort l₂)
  · exact sublist_of_subperm_of_pairwise (hperm₁.symm.subperm_left.mp htop)
      ((pairwise_sort l₂).sublist (take_sublist _ _)) (pairwise_sort l₁)

/-- Records with distinct keys whose key and value occur among others have at most their values. -/
theorem map_subperm_of_keys {γ κ δ : Type*} {l : List α} {l' : List γ} {key : α → κ} {v : α → δ}
    {k : γ → κ} {v' : γ → δ} (hkeys : (l.map key).Nodup)
    (h : ∀ a ∈ l, ∃ b ∈ l', k b = key a ∧ v' b = v a) : l.map v <+~ l'.map v' := by
  have hpairs : l.map (fun a => (key a, v a)) <+~ l'.map (fun b => (k b, v' b)) := by
    apply subperm_of_subset
    · apply Nodup.of_map Prod.fst
      rwa [map_map]
    · intro p hp
      obtain ⟨a, ha, rfl⟩ := mem_map.mp hp
      obtain ⟨b, hb, hkey, hv⟩ := h a ha
      exact mem_map.mpr ⟨b, hb, by rw [hkey, hv]⟩
  obtain ⟨l'', hperm, hsub⟩ := hpairs
  have hperm' := hperm.map Prod.snd
  have hsub' := hsub.map Prod.snd
  rw [map_map] at hperm' hsub'
  exact ⟨_, hperm', hsub'⟩

end TopValues
