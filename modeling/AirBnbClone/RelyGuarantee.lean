import AirBnbClone.AsyncProgram

/-!
# Programs over a shared state

Several asynchronous programs act on one shared state. A program is safe from a state if, whatever
the others did as long as the invariant holds and the state has only grown, answering its next call
keeps the invariant, lets the state grow, and leaves a safe program. Safety survives the steps of
the others, so that a pool of safe programs keeps the invariant in every interleaving.
-/

namespace Async.Prog

variable {Op : Type} {Reply : Op → Type} {σ ε α Ω : Type}
  (inv : Ω → Prop) (grows : Ω → Ω → Prop)
  (effect : (op : Op) → Ω → Except ε (Reply op) → Ω → Prop)

/-- `effect op w r w'` means that the call `op`, made in `w`, may be answered by `r` and leave
`w'`. -/
def Safe : Prog Reply σ ε α → Ω → Prop
  | done _, _ => True
  | read k, w => ∀ s, Safe (k s) w
  | emit _ k, w => Safe k w
  | await op k, w => ∀ w', grows w w' → inv w' → ∀ r w'', effect op w' r w'' →
      inv w'' ∧ grows w' w'' ∧ Safe (k r) w''

variable {inv grows effect}

/-- The others may move: the state a program is safe from may grow. -/
theorem Safe.mono (htrans : ∀ w₁ w₂ w₃, grows w₁ w₂ → grows w₂ w₃ → grows w₁ w₃)
    {p : Prog Reply σ ε α} {w w' : Ω} (h : Safe inv grows effect p w) (hw : grows w w') :
    Safe inv grows effect p w' := by
  induction p with
  | done r => trivial
  | read k ih => exact fun s => ih s (h s)
  | emit s k ih => exact ih h
  | await op k ih => exact fun v hv hinv => h v (htrans _ _ _ hw hv) hinv

theorem Safe.settle {p : Prog Reply σ ε α} {w : Ω} (h : Safe inv grows effect p w) (s : σ) :
    Safe inv grows effect (settle p s).1 w := by
  induction p generalizing s with
  | done r => trivial
  | read k ih => exact ih s (h s) s
  | emit s' k ih => exact ih h s'
  | await op k ih => exact h

/-- An error reply is thrown, so that only the good replies are carried on with. -/
theorem safe_call_bind {op : Op} {f : Reply op → Prog Reply σ ε α} {w : Ω}
    (h : ∀ w', grows w w' → inv w' → ∀ r w'', effect op w' r w'' →
      inv w'' ∧ grows w' w'' ∧ ∀ a, r = .ok a → Safe inv grows effect (f a) w'') :
    Safe inv grows effect (call op >>= f) w := by
  intro w' hw hinv r w'' heffect
  obtain ⟨hinv', hgrows, hnext⟩ := h w' hw hinv r w'' heffect
  refine ⟨hinv', hgrows, ?_⟩
  cases r with
  | error e => trivial
  | ok a => exact hnext a rfl

/-- A call that leaves the shared state alone. -/
theorem safe_read_bind (hrefl : ∀ w, grows w w) {op : Op} {f : Reply op → Prog Reply σ ε α} {w : Ω}
    (hop : ∀ w r w', effect op w r w' → w' = w)
    (h : ∀ w' a, grows w w' → inv w' → effect op w' (.ok a) w' →
      Safe inv grows effect (f a) w') : Safe inv grows effect (call op >>= f) w := by
  apply safe_call_bind
  intro w' hw hinv r w'' heffect
  cases hop w' r w'' heffect
  refine ⟨hinv, hrefl w', ?_⟩
  rintro a rfl
  exact h w' a hw hinv heffect

/-- A pool of programs, each with the state of its owner, around a shared state. -/
structure Pool (ι : Type) (Reply : Op → Type) (σ ε α Ω : Type) where
  shared : Ω
  processes : ι → Prog Reply σ ε α × σ

/-- One process has moved, and with it the shared state. -/
def Pool.move {ι : Type} [DecidableEq ι] (p : Pool ι Reply σ ε α Ω) (i : ι) (w : Ω)
    (process : Prog Reply σ ε α × σ) : Pool ι Reply σ ε α Ω :=
  ⟨w, Function.update p.processes i process⟩

/-- The invariant holds and every program is safe under the effects of its own calls. -/
structure Pool.Sound {ι : Type} (inv : Ω → Prop) (grows : Ω → Ω → Prop)
    (effect : ι → (op : Op) → Ω → Except ε (Reply op) → Ω → Prop)
    (p : Pool ι Reply σ ε α Ω) : Prop where
  holds : inv p.shared
  safe : ∀ i, Safe inv grows (effect i) (p.processes i).1 p.shared

namespace Pool.Sound

variable {ι : Type} [DecidableEq ι]
  {effect : ι → (op : Op) → Ω → Except ε (Reply op) → Ω → Prop} {p : Pool ι Reply σ ε α Ω} {i : ι}

theorem move {w : Ω} {process : Prog Reply σ ε α × σ} (hinv : inv w)
    (hmoved : Safe inv grows (effect i) process.1 w)
    (hothers : ∀ j, Safe inv grows (effect j) (p.processes j).1 w) :
    (p.move i w process).Sound inv grows effect := by
  refine ⟨hinv, ?_⟩
  intro j
  change Safe inv grows (effect j) (Function.update p.processes i process j).1 w
  by_cases hj : j = i
  · subst hj
    rw [Function.update_self]
    exact hmoved
  · rw [Function.update_of_ne hj]
    exact hothers j

/-- One process starts a safe program. -/
theorem begin (h : p.Sound inv grows effect) {prog : Prog Reply σ ε α}
    (hprog : Safe inv grows (effect i) prog p.shared) (s : σ) :
    (p.move i p.shared (settle prog s)).Sound inv grows effect :=
  move h.holds (hprog.settle s) h.safe

/-- The call that one process waits for is answered. -/
theorem answer (hrefl : ∀ w, grows w w)
    (htrans : ∀ w₁ w₂ w₃, grows w₁ w₂ → grows w₂ w₃ → grows w₁ w₃) (h : p.Sound inv grows effect)
    {op : Op} {k : Except ε (Reply op) → Prog Reply σ ε α}
    (hprog : (p.processes i).1 = await op k) {r : Except ε (Reply op)} {w : Ω}
    (heffect : effect i op p.shared r w) (s : σ) :
    grows p.shared w ∧ (p.move i w (settle (k r) s)).Sound inv grows effect := by
  have hsafe := h.safe i
  rw [hprog] at hsafe
  obtain ⟨hinv, hgrows, hnext⟩ := hsafe p.shared (hrefl _) h.holds r w heffect
  exact ⟨hgrows, move hinv (hnext.settle s) (fun j => (h.safe j).mono htrans hgrows)⟩

end Pool.Sound

end Async.Prog
