import AirBnbClone.AsyncProgram

/-!
# Programs with a budget

A program runs from await to await. `emitted` are the states it emits on the way to its next await.
`Within` bounds what a program does whatever the replies: the states it emits, the calls it makes
and what they cost together, and how it ends.
-/

namespace Async.Prog

variable {Op : Type} {Reply : Op → Type} {σ ε α β : Type}

def emitted : Prog Reply σ ε α → σ → List σ
  | done _, _ => []
  | read k, s => emitted (k s) s
  | emit s k, _ => s :: emitted k s
  | await _ _, _ => []

def Within (E : σ → Prop) (P : Op → Prop) (cost : Op → ℕ) (R : Except ε α → Prop) :
    ℕ → Prog Reply σ ε α → Prop
  | _, done r => R r
  | n, read k => ∀ s, Within E P cost R n (k s)
  | n, emit s k => E s ∧ Within E P cost R n k
  | n, await op k => P op ∧ cost op ≤ n ∧ ∀ r, Within E P cost R (n - cost op) (k r)

variable {E : σ → Prop} {P : Op → Prop} {cost : Op → ℕ}

theorem Within.mono {R : Except ε α → Prop} {p : Prog Reply σ ε α} {m n : ℕ}
    (h : Within E P cost R m p) (hmn : m ≤ n) : Within E P cost R n p := by
  induction p generalizing m n with
  | done r => exact h
  | read k ih => exact fun s => ih s (h s) hmn
  | emit s k ih => exact ⟨h.1, ih h.2 hmn⟩
  | await op k ih =>
      obtain ⟨hP, hcost, hk⟩ := h
      exact ⟨hP, by omega, fun r => ih r (hk r) (by omega)⟩

theorem Within.bind {R : Except ε β → Prop} (hR : ∀ e, R (.error e)) {p : Prog Reply σ ε α}
    {f : α → Prog Reply σ ε β} {m n : ℕ} (hp : Within E P cost (fun _ => True) m p)
    (hf : ∀ a, Within E P cost R n (f a)) : Within E P cost R (m + n) (p >>= f) := by
  change Within E P cost R (m + n) (Prog.bind p f)
  induction p generalizing m with
  | done r =>
      cases r with
      | ok a => exact (hf a).mono (Nat.le_add_left n m)
      | error e => exact hR e
  | read k ih => exact fun s => ih s (hp s)
  | emit s k ih => exact ⟨hp.1, ih hp.2⟩
  | await op k ih =>
      obtain ⟨hP, hcost, hk⟩ := hp
      refine ⟨hP, by omega, ?_⟩
      intro r
      have hrest := ih r (hk r)
      rwa [← Nat.sub_add_comm hcost] at hrest

theorem Within.tryCatch {R : Except ε α → Prop} (hR : ∀ a, R (.ok a)) {p : Prog Reply σ ε α}
    {h : ε → Prog Reply σ ε α} {n : ℕ} (hp : Within E P cost (fun _ => True) n p)
    (hh : ∀ e, Within E P cost R 0 (h e)) : Within E P cost R n (Prog.tryCatch p h) := by
  induction p generalizing n with
  | done r =>
      cases r with
      | ok a => exact hR a
      | error e => exact (hh e).mono (Nat.zero_le n)
  | read k ih => exact fun s => ih s (hp s)
  | emit s k ih => exact ⟨hp.1, ih hp.2⟩
  | await op k ih => exact ⟨hp.1, hp.2.1, fun r => ih r (hp.2.2 r)⟩

theorem within_call_bind {R : Except ε β → Prop} (hR : ∀ e, R (.error e)) {op : Op}
    {f : Reply op → Prog Reply σ ε β} {n : ℕ} (hP : P op) (hcost : cost op ≤ n)
    (hf : ∀ a, Within E P cost R (n - cost op) (f a)) : Within E P cost R n (call op >>= f) := by
  refine ⟨hP, hcost, ?_⟩
  intro r
  cases r with
  | ok a => exact hf a
  | error e => exact hR e

theorem within_state_bind {R : Except ε β → Prop} {f : σ → Prog Reply σ ε β} {n : ℕ}
    (hf : ∀ s, Within E P cost R n (f s)) : Within E P cost R n (state >>= f) := hf

theorem within_emitWith {R : Except ε Unit → Prop} {f : σ → σ} {n : ℕ} (hf : ∀ s, E (f s))
    (hR : R (.ok ())) : Within E P cost R n (emitWith f : Prog Reply σ ε Unit) :=
  fun s => ⟨hf s, hR⟩

theorem Within.settle {R : Except ε α → Prop} {p : Prog Reply σ ε α} {n : ℕ}
    (h : Within E P cost R n p) (s : σ) :
    Within E P cost R n (settle p s).1 ∧ ∀ s' ∈ emitted p s, E s' := by
  induction p generalizing s with
  | done r => exact ⟨h, nofun⟩
  | read k ih => exact ih s (h s) s
  | emit s₀ k ih =>
      obtain ⟨hsettle, hemitted⟩ := ih h.2 s₀
      exact ⟨hsettle, List.forall_mem_cons.mpr ⟨h.1, hemitted⟩⟩
  | await op k ih => exact ⟨h, nofun⟩

end Async.Prog
