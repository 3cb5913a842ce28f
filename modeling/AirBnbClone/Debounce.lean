import Mathlib.Data.List.Infix
import Mathlib.Tactic.Common

/-!
# Debounced streams

A debounced stream holds an event back until a window that the event opens has passed. An event that
comes before takes the place of the one held back; one that comes just when the window ends may do
so or not. `Delivers` is all that is known of such an operator, and an `Operator` is one of which
it is known.
-/

namespace Debounce

variable {σ α : Type}

structure Timed (α : Type) where
  time : ℕ
  value : α
  deriving DecidableEq

def InOrder (source : List (Timed α)) : Prop := source.Pairwise (fun e e' => e.time ≤ e'.time)

instance (source : List (Timed α)) : Decidable (InOrder source) :=
  inferInstanceAs (Decidable (List.Pairwise _ _))

/-- `window s a` is what the function that opens the windows is left with after the event `a`, and
how long its window is. -/
inductive Delivers (window : σ → α → σ × ℕ) : σ → List (Timed α) → List (Timed α) → Prop
  | nil (s : σ) : Delivers window s [] []
  | last (s : σ) (e : Timed α) :
      Delivers window s [e] [⟨e.time + (window s e.value).2, e.value⟩]
  | replaced {s : σ} {e e' : Timed α} {source out : List (Timed α)}
      (h : e'.time ≤ e.time + (window s e.value).2)
      (hrest : Delivers window (window s e.value).1 (e' :: source) out) :
      Delivers window s (e :: e' :: source) out
  | passed {s : σ} {e e' : Timed α} {source out : List (Timed α)}
      (h : e.time + (window s e.value).2 ≤ e'.time)
      (hrest : Delivers window (window s e.value).1 (e' :: source) out) :
      Delivers window s (e :: e' :: source) (⟨e.time + (window s e.value).2, e.value⟩ :: out)

structure Operator where
  debounce : {σ α : Type} → (σ → α → σ × ℕ) → σ → List (Timed α) → List (Timed α)
  delivers : ∀ {σ α : Type} (window : σ → α → σ × ℕ) (s : σ) (source : List (Timed α)),
    Delivers window s source (debounce window s source)

def eager (window : σ → α → σ × ℕ) : σ → List (Timed α) → List (Timed α)
  | _, [] => []
  | s, [e] => [⟨e.time + (window s e.value).2, e.value⟩]
  | s, e :: e' :: source =>
      if e.time + (window s e.value).2 ≤ e'.time then
        ⟨e.time + (window s e.value).2, e.value⟩ :: eager window (window s e.value).1 (e' :: source)
      else eager window (window s e.value).1 (e' :: source)

theorem delivers_eager (window : σ → α → σ × ℕ) (s : σ) (source : List (Timed α)) :
    Delivers window s source (eager window s source) := by
  induction source generalizing s with
  | nil => exact .nil s
  | cons e source ih =>
      cases source with
      | nil => exact .last s e
      | cons e' source =>
          unfold eager
          split_ifs with h
          · exact .passed h (ih _)
          · exact .replaced (not_le.mp h).le (ih _)

def Operator.eager : Operator := ⟨Debounce.eager, delivers_eager⟩

variable {window : σ → α → σ × ℕ} {s : σ} {source out : List (Timed α)} {e : Timed α} {d : ℕ}

theorem InOrder.head_le (h : InOrder (e :: source)) : ∀ e' ∈ source, e.time ≤ e'.time :=
  (List.pairwise_cons.mp h).1

theorem InOrder.tail (h : InOrder (e :: source)) : InOrder source := (List.pairwise_cons.mp h).2

namespace Delivers

/-- Nothing is made up, repeated or reordered. -/
theorem values_sublist (h : Delivers window s source out) :
    (out.map Timed.value).Sublist (source.map Timed.value) := by
  induction h with
  | nil s => exact List.Sublist.refl _
  | last s e => exact List.Sublist.refl _
  | replaced h hrest ih => exact ih.cons _
  | passed h hrest ih => exact ih.cons_cons _

/-- The last event is delivered once its window has passed. -/
theorem getLast?_eq (h : Delivers window s source out) (he : source.getLast? = some e) :
    ∃ s', out.getLast? = some ⟨e.time + (window s' e.value).2, e.value⟩ := by
  induction h with
  | nil s => cases he
  | last s e' =>
      cases he
      exact ⟨s, rfl⟩
  | replaced h hrest ih => exact ih (List.getLast?_cons_cons ▸ he)
  | passed h hrest ih =>
      obtain ⟨s', hs'⟩ := ih (List.getLast?_cons_cons ▸ he)
      refine ⟨s', ?_⟩
      rw [List.getLast?_cons, hs']
      rfl

/-- A delivery is that of an event whose window passed before the next one. -/
theorem exists_event (h : Delivers window s source out) (hs : InOrder source) {x : Timed α}
    (hx : x ∈ out) : ∃ before e after s', source = before ++ e :: after ∧
      x = ⟨e.time + (window s' e.value).2, e.value⟩ ∧ ∀ e' ∈ after, x.time ≤ e'.time := by
  induction h with
  | nil s => exact absurd hx List.not_mem_nil
  | last s e =>
      refine ⟨[], e, [], s, rfl, List.mem_singleton.mp hx, ?_⟩
      exact fun _ he' => absurd he' List.not_mem_nil
  | replaced h hrest ih =>
      obtain ⟨before, e, after, s', hsource, hevent⟩ := ih hs.tail hx
      exact ⟨_ :: before, e, after, s', by rw [hsource]; rfl, hevent⟩
  | @passed s e e' source out h hrest ih =>
      rcases List.mem_cons.mp hx with rfl | hx
      · refine ⟨[], e, e' :: source, s, rfl, rfl, ?_⟩
        intro e'' he''
        rcases List.mem_cons.mp he'' with rfl | he''
        · exact h
        · exact h.trans (hs.tail.head_le e'' he'')
      · obtain ⟨before, e, after, s', hsource, hevent⟩ := ih hs.tail hx
        exact ⟨_ :: before, e, after, s', by rw [hsource]; rfl, hevent⟩

/-- No delivery is earlier than the window of the first event. -/
theorem add_le_time (h : Delivers window s source out) (hs : InOrder source)
    (hlater : ∀ s a a', d ≤ (window (window s a).1 a').2) (hnow : ∀ a, d ≤ (window s a).2)
    (he : source.head? = some e) : ∀ x ∈ out, e.time + d ≤ x.time := by
  induction h generalizing e with
  | nil s => cases he
  | last s e' =>
      cases he
      intro x hx
      rw [List.mem_singleton.mp hx]
      exact Nat.add_le_add_left (hnow _) _
  | replaced h hrest ih =>
      cases he
      intro x hx
      have hle := ih hs.tail (hlater _ _) rfl x hx
      have hfirst := hs.head_le _ List.mem_cons_self
      omega
  | passed h hrest ih =>
      cases he
      intro x hx
      rcases List.mem_cons.mp hx with rfl | hx
      · exact Nat.add_le_add_left (hnow _) _
      · have hle := ih hs.tail (hlater _ _) rfl x hx
        have hfirst := hs.head_le _ List.mem_cons_self
        omega

/-- Deliveries are as far from each other as every window but the first is long. -/
theorem spaced (h : Delivers window s source out) (hs : InOrder source)
    (hlater : ∀ s a a', d ≤ (window (window s a).1 a').2) :
    out.Pairwise (fun x y => x.time + d ≤ y.time) := by
  induction h with
  | nil s => exact List.Pairwise.nil
  | last s e => exact List.pairwise_singleton _ _
  | replaced h hrest ih => exact ih hs.tail
  | passed h hrest ih =>
      refine List.pairwise_cons.mpr ⟨?_, ih hs.tail⟩
      intro x hx
      have hle := hrest.add_le_time hs.tail hlater (hlater _ _) rfl x hx
      exact (Nat.add_le_add_right h d).trans hle

/-- An event whose window has passed before the next event comes is delivered. -/
theorem head?_eq (h : Delivers window s (e :: source) out)
    (halone : ∀ e' ∈ source, e.time + (window s e.value).2 < e'.time) :
    out.head? = some ⟨e.time + (window s e.value).2, e.value⟩ := by
  cases h with
  | last => rfl
  | replaced h hrest => exact absurd h (not_le.mpr (halone _ List.mem_cons_self))
  | passed h hrest => rfl

end Delivers

end Debounce
