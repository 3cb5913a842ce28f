import Mathlib.Data.List.Forall2
import Mathlib.Tactic.Common

/-!
# Traversing a list in `Except`

How `map` passes through `bind`, and when a traversal succeeds: its results are then the
element-wise results, so two traversals of one list are compared element by element.
-/

namespace ExceptTraverse

variable {ε α β γ : Type}

theorem ok_bind (a : α) (k : α → Except ε β) : (Except.ok a >>= k) = k a := rfl

theorem map_bind_eq (x : Except ε α) (g : α → Except ε β) (f : β → γ) :
    (x >>= g).map f = x >>= fun a => (g a).map f := by
  cases x <;> rfl

theorem bind_map_eq (x : Except ε α) (f : α → β) (k : β → Except ε γ) :
    (x.map f) >>= k = x >>= fun a => k (f a) := by
  cases x <;> rfl

theorem map_eq_ok_iff (x : Except ε α) (f : α → β) (b : β) :
    x.map f = .ok b ↔ ∃ a, x = .ok a ∧ f a = b := by
  cases x with
  | error e => simp [Except.map]
  | ok a => simp [Except.map]

theorem map_injective {f : α → β} (hf : Function.Injective f) :
    Function.Injective (Except.map f : Except ε α → Except ε β) := by
  intro x y h
  cases x <;> cases y <;> simp_all [Except.map, hf.eq_iff]

theorem mapM_eq_ok_iff (g : α → Except ε β) (l : List α) (ys : List β) :
    l.mapM g = .ok ys ↔ l.map g = ys.map .ok := by
  induction l generalizing ys with
  | nil =>
      rw [List.mapM_nil]
      constructor
      · intro h
        cases h
        rfl
      · intro h
        cases ys with
        | nil => rfl
        | cons y ys => simp at h
  | cons a l ih =>
      rw [List.mapM_cons]
      cases hg : g a with
      | error e =>
          constructor
          · intro h
            cases h
          · intro h
            cases ys <;> simp [hg] at h
      | ok b =>
          cases hl : l.mapM g with
          | error e =>
              constructor
              · intro h
                simp [bind, Except.bind] at h
              · intro h
                cases ys with
                | nil => simp at h
                | cons y ys =>
                    simp only [List.map_cons, List.cons.injEq] at h
                    rw [← ih, hl] at h
                    cases h.2
          | ok zs =>
              have hz := (ih zs).mp hl
              constructor
              · intro h
                have he : b :: zs = ys := by
                  simpa [hl, bind, Except.bind, pure, Except.pure] using h
                rw [← he, List.map_cons, List.map_cons, hg, hz]
              · intro h
                cases ys with
                | nil => simp at h
                | cons y ys =>
                    simp only [List.map_cons, List.cons.injEq, hg, Except.ok.injEq] at h
                    obtain ⟨rfl, h⟩ := h
                    rw [(ih ys).mpr h] at hl
                    cases hl
                    rfl

/-- A successful traversal gives one result per element. -/
theorem forall₂_of_mapM_ok {g : α → Except ε β} {l : List α} {ys : List β}
    (h : l.mapM g = .ok ys) : List.Forall₂ (fun a b => g a = .ok b) l ys := by
  rw [mapM_eq_ok_iff, ← List.forall₂_eq_eq_eq, List.forall₂_map_left_iff,
    List.forall₂_map_right_iff] at h
  exact h

theorem mapM_congr {g g' : α → Except ε β} {l : List α} (h : ∀ a ∈ l, g a = g' a) :
    l.mapM g = l.mapM g' := by
  induction l with
  | nil => rfl
  | cons a l ih =>
      rw [List.mapM_cons, List.mapM_cons, h a List.mem_cons_self,
        ih (fun b hb => h b (List.mem_cons_of_mem a hb))]

/-- Two successful traversals of one list give the same results exactly when they agree on every
element. -/
theorem eq_iff_of_mapM_ok {g g' : α → Except ε β} {l : List α} {ys ys' : List β}
    (h : l.mapM g = .ok ys) (h' : l.mapM g' = .ok ys') : ys = ys' ↔ ∀ a ∈ l, g a = g' a := by
  constructor
  · intro he
    subst he
    rw [mapM_eq_ok_iff] at h h'
    exact List.map_inj_left.mp (h.trans h'.symm)
  · intro hg
    rw [mapM_congr hg, h'] at h
    exact (Except.ok.inj h).symm

/-- A traversal succeeds when it succeeds on every element. -/
theorem exists_mapM_ok {g : α → Except ε β} {l : List α} (h : ∀ a ∈ l, ∃ b, g a = .ok b) :
    ∃ ys, l.mapM g = .ok ys := by
  induction l with
  | nil => exact ⟨[], rfl⟩
  | cons a l ih =>
      obtain ⟨b, hb⟩ := h a List.mem_cons_self
      obtain ⟨ys, hys⟩ := ih (fun c hc => h c (List.mem_cons_of_mem a hc))
      refine ⟨b :: ys, ?_⟩
      rw [mapM_eq_ok_iff] at hys ⊢
      rw [List.map_cons, List.map_cons, hb, hys]

theorem ok_of_mapM_ok {g : α → Except ε β} {l : List α} {ys : List β} (h : l.mapM g = .ok ys) :
    ∀ a ∈ l, ∃ b, g a = .ok b := by
  intro a ha
  rw [mapM_eq_ok_iff] at h
  have hmem : g a ∈ ys.map Except.ok := h ▸ List.mem_map_of_mem ha
  obtain ⟨b, _, hb⟩ := List.mem_map.mp hmem
  exact ⟨b, hb.symm⟩

end ExceptTraverse
