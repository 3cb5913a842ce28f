import Mathlib.Data.List.Basic
import Mathlib.Tactic.Common

/-!
# Events on independent cells

A state is observed through cells. An event belongs to one cell: it changes no other, and what it
makes of its own depends on that cell alone. The content of a cell after a sequence of events is
then decided by the events of that cell in their order, whatever happens in between.
-/

namespace KeyedEvents

variable {σ E K : Type} [DecidableEq K] {V : K → Type} {f : σ → E → σ} {key : E → K}
  (view : σ → (k : K) → V k)

/-- Interleavings of one family of streams, a stream for each cell. -/
def IsInterleaving (key : E → K) (streams : K → List E) (es : List E) : Prop :=
  ∀ k, es.filter (fun e => key e = k) = streams k

/-- The events of other cells can be left out. -/
theorem view_foldl_filter
    (hself : ∀ s s' e, view s (key e) = view s' (key e) →
      view (f s e) (key e) = view (f s' e) (key e))
    (hother : ∀ s e k, k ≠ key e → view (f s e) k = view s k) {s s' : σ} {k : K}
    (h : view s k = view s' k) (es : List E) :
    view (es.foldl f s) k = view ((es.filter (fun e => key e = k)).foldl f s') k := by
  induction es generalizing s s' with
  | nil => exact h
  | cons e es ih =>
      by_cases hk : key e = k
      · subst hk
        rw [List.filter_cons_of_pos (by simp), List.foldl_cons, List.foldl_cons]
        exact ih (hself s s' e h)
      · rw [List.filter_cons_of_neg (by simpa using hk), List.foldl_cons]
        exact ih ((hother s e k (fun he => hk he.symm)).trans h)

theorem view_foldl_eq
    (hself : ∀ s s' e, view s (key e) = view s' (key e) →
      view (f s e) (key e) = view (f s' e) (key e))
    (hother : ∀ s e k, k ≠ key e → view (f s e) k = view s k) (s : σ) {streams : K → List E}
    {es es' : List E} (h : IsInterleaving key streams es) (h' : IsInterleaving key streams es')
    (k : K) : view (es.foldl f s) k = view (es'.foldl f s) k := by
  rw [view_foldl_filter view hself hother rfl es, view_foldl_filter view hself hother rfl es',
    h k, h' k]

/-- When no cell has two events, a cell's events do not depend on the order of the list. -/
theorem filter_key_eq_of_perm {es es' : List E} (hnodup : (es'.map key).Nodup)
    (h : es.Perm es') (k : K) :
    es.filter (fun e => key e = k) = es'.filter (fun e => key e = k) := by
  have hperm := h.filter (fun e => decide (key e = k))
  have hkeys : ((es'.filter (fun e => key e = k)).map key).Nodup :=
    List.Nodup.sublist (List.filter_sublist.map _) hnodup
  have hrep : (es'.filter (fun e => key e = k)).map key =
      List.replicate (es'.filter (fun e => key e = k)).length k := by
    rw [List.eq_replicate_iff, List.length_map]
    refine ⟨rfl, ?_⟩
    intro k' hk'
    obtain ⟨e, he, rfl⟩ := List.mem_map.mp hk'
    simpa using (List.mem_filter.mp he).2
  rw [hrep, List.nodup_replicate] at hkeys
  generalize es'.filter (fun e => key e = k) = l at hperm hkeys
  cases l with
  | nil => exact hperm.eq_nil
  | cons e l =>
      have hnil : l = [] := by simpa using hkeys
      subst hnil
      exact hperm.eq_singleton

theorem view_foldl_perm
    (hself : ∀ s s' e, view s (key e) = view s' (key e) →
      view (f s e) (key e) = view (f s' e) (key e))
    (hother : ∀ s e k, k ≠ key e → view (f s e) k = view s k) (s : σ) {es es' : List E}
    (hnodup : (es'.map key).Nodup) (h : es.Perm es') (k : K) :
    view (es.foldl f s) k = view (es'.foldl f s) k :=
  view_foldl_eq view hself hother s (fun k => filter_key_eq_of_perm hnodup h k) (fun _ => rfl) k

end KeyedEvents
