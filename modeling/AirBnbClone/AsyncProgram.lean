import Mathlib.Tactic.Common

/-!
# Asynchronous programs

An asynchronous function reads and emits the state of its owner and awaits calls, whose replies
may be errors. It is a tree: between two awaits it runs alone, at an await the rest of the system
may move. `exec` runs a program to its end against a handler, `resume` runs it to its next await,
so that one definition serves both the sequential and the interleaved reading of the same code.
-/

namespace Async

inductive Prog {Op : Type} (Reply : Op → Type) (σ ε α : Type)
  | done (result : Except ε α)
  | read (k : σ → Prog Reply σ ε α)
  | emit (s : σ) (k : Prog Reply σ ε α)
  | await (op : Op) (k : Except ε (Reply op) → Prog Reply σ ε α)

namespace Prog

variable {Op : Type} {Reply : Op → Type} {σ ε α β γ ω : Type}

def bind : Prog Reply σ ε α → (α → Prog Reply σ ε β) → Prog Reply σ ε β
  | done (.ok a), f => f a
  | done (.error e), _ => done (.error e)
  | read k, f => read (fun s => bind (k s) f)
  | emit s k, f => emit s (bind k f)
  | await op k, f => await op (fun r => bind (k r) f)

def tryCatch : Prog Reply σ ε α → (ε → Prog Reply σ ε α) → Prog Reply σ ε α
  | done (.ok a), _ => done (.ok a)
  | done (.error e), h => h e
  | read k, h => read (fun s => tryCatch (k s) h)
  | emit s k, h => emit s (tryCatch k h)
  | await op k, h => await op (fun r => tryCatch (k r) h)

instance : Monad (Prog Reply σ ε) where
  pure a := done (.ok a)
  bind := bind

def state : Prog Reply σ ε σ := read (fun s => done (.ok s))

def emitWith (f : σ → σ) : Prog Reply σ ε Unit := read (fun s => emit (f s) (done (.ok ())))

/-- Await a call; an error reply is thrown. -/
def call (op : Op) : Prog Reply σ ε (Reply op) := await op done

/-- Run to the end, every call being answered at once by the handler. -/
def exec (handle : (op : Op) → ω → Except ε (Reply op) × ω) :
    Prog Reply σ ε α → σ → ω → Except ε α × σ × ω
  | done r, s, w => (r, s, w)
  | read k, s, w => exec handle (k s) s w
  | emit s k, _, w => exec handle k s w
  | await op k, s, w => exec handle (k (handle op w).1) s (handle op w).2

/-- The calls that `exec` makes, in order. -/
def trace (handle : (op : Op) → ω → Except ε (Reply op) × ω) :
    Prog Reply σ ε α → σ → ω → List Op
  | done _, _, _ => []
  | read k, s, w => trace handle (k s) s w
  | emit s k, _, w => trace handle k s w
  | await op k, s, w => op :: trace handle (k (handle op w).1) s (handle op w).2

/-- Run to the next await or to the end. -/
def settle : Prog Reply σ ε α → σ → Prog Reply σ ε α × σ
  | done r, s => (done r, s)
  | read k, s => settle (k s) s
  | emit s k, _ => settle k s
  | await op k, s => (await op k, s)

/-- Answer the call a program is waiting for and let it run to its next await. -/
def resume (handle : (op : Op) → ω → Except ε (Reply op) × ω) :
    Prog Reply σ ε α → σ → ω → Option (Prog Reply σ ε α × σ × ω)
  | await op k, s, w =>
      let p := settle (k (handle op w).1) s
      some (p.1, p.2, (handle op w).2)
  | _, _, _ => none

variable {handle : (op : Op) → ω → Except ε (Reply op) × ω}

@[simp] theorem exec_pure (a : α) (s : σ) (w : ω) :
    exec handle (pure a : Prog Reply σ ε α) s w = (.ok a, s, w) := rfl

@[simp] theorem exec_state (s : σ) (w : ω) :
    exec handle (state : Prog Reply σ ε σ) s w = (.ok s, s, w) := rfl

@[simp] theorem exec_emitWith (f : σ → σ) (s : σ) (w : ω) :
    exec handle (emitWith f : Prog Reply σ ε Unit) s w = (.ok (), f s, w) := rfl

@[simp] theorem exec_call (op : Op) (s : σ) (w : ω) :
    exec handle (call op : Prog Reply σ ε (Reply op)) s w =
      ((handle op w).1, s, (handle op w).2) := rfl

theorem exec_bind (p : Prog Reply σ ε α) (f : α → Prog Reply σ ε β) (s : σ) (w : ω) :
    exec handle (p >>= f) s w =
      match exec handle p s w with
      | (.ok a, s', w') => exec handle (f a) s' w'
      | (.error e, s', w') => (.error e, s', w') := by
  change exec handle (bind p f) s w = _
  induction p generalizing s w with
  | done r => cases r <;> rfl
  | read k ih => exact ih s s w
  | emit s' k ih => exact ih s' w
  | await op k ih => exact ih _ s _

theorem exec_tryCatch (p : Prog Reply σ ε α) (h : ε → Prog Reply σ ε α) (s : σ) (w : ω) :
    exec handle (tryCatch p h) s w =
      match exec handle p s w with
      | (.ok a, s', w') => (.ok a, s', w')
      | (.error e, s', w') => exec handle (h e) s' w' := by
  induction p generalizing s w with
  | done r => cases r <;> rfl
  | read k ih => exact ih s s w
  | emit s' k ih => exact ih s' w
  | await op k ih => exact ih _ s _

theorem exec_call_bind_ok {op : Op} {f : Reply op → Prog Reply σ ε β} {s : σ} {w w' : ω}
    {r : Reply op} (h : handle op w = (.ok r, w')) :
    exec handle (call op >>= f) s w = exec handle (f r) s w' := by
  rw [exec_bind, exec_call, h]

theorem exec_call_bind_error {op : Op} {f : Reply op → Prog Reply σ ε β} {s : σ} {w : ω} {e : ε}
    (h : (handle op w).1 = .error e) :
    exec handle (call op >>= f) s w = (.error e, s, (handle op w).2) := by
  rw [exec_bind, exec_call, h]

/-- A program that ends well got a reply to its first call. -/
theorem exec_call_bind_eq_ok {op : Op} {f : Reply op → Prog Reply σ ε β} {s s' : σ} {w w' : ω}
    {b : β} (h : exec handle (call op >>= f) s w = (.ok b, s', w')) :
    ∃ r, (handle op w).1 = .ok r ∧ exec handle (f r) s (handle op w).2 = (.ok b, s', w') := by
  rw [exec_bind, exec_call] at h
  cases hr : (handle op w).1 with
  | ok r =>
      rw [hr] at h
      exact ⟨r, rfl, h⟩
  | error e =>
      rw [hr] at h
      cases h

/-- Whatever the replies, the program only makes calls in `P` and only emits states in `I`,
provided the states it reads are in `I`. -/
def Keeps (I : σ → Prop) (P : Op → Prop) : Prog Reply σ ε α → Prop
  | done _ => True
  | read k => ∀ s, I s → Keeps I P (k s)
  | emit s k => I s ∧ Keeps I P k
  | await op k => P op ∧ ∀ r, Keeps I P (k r)

variable {I : σ → Prop} {P : Op → Prop}

theorem Keeps.bind {p : Prog Reply σ ε α} {f : α → Prog Reply σ ε β} (hp : Keeps I P p)
    (hf : ∀ a, Keeps I P (f a)) : Keeps I P (p >>= f) := by
  change Keeps I P (Prog.bind p f)
  induction p with
  | done r =>
      cases r with
      | ok a => exact hf a
      | error e => trivial
  | read k ih => exact fun s hs => ih s (hp s hs)
  | emit s k ih => exact ⟨hp.1, ih hp.2⟩
  | await op k ih => exact ⟨hp.1, fun r => ih r (hp.2 r)⟩

theorem Keeps.tryCatch {p : Prog Reply σ ε α} {h : ε → Prog Reply σ ε α} (hp : Keeps I P p)
    (hh : ∀ e, Keeps I P (h e)) : Keeps I P (Prog.tryCatch p h) := by
  induction p with
  | done r =>
      cases r with
      | ok a => trivial
      | error e => exact hh e
  | read k ih => exact fun s hs => ih s (hp s hs)
  | emit s k ih => exact ⟨hp.1, ih hp.2⟩
  | await op k ih => exact ⟨hp.1, fun r => ih r (hp.2 r)⟩

theorem Keeps.settle {p : Prog Reply σ ε α} {s : σ} (hp : Keeps I P p) (hs : I s) :
    Keeps I P (settle p s).1 ∧ I (settle p s).2 := by
  induction p generalizing s with
  | done r => exact ⟨trivial, hs⟩
  | read k ih => exact ih s (hp s hs) hs
  | emit s' k ih => exact ih hp.2 hp.1
  | await op k ih => exact ⟨hp, hs⟩

theorem settle_done_or_await (p : Prog Reply σ ε α) (s : σ) :
    (∃ r, (Prog.settle p s).1 = done r) ∨ ∃ op k, (Prog.settle p s).1 = await op k := by
  induction p generalizing s with
  | done r => exact .inl ⟨r, rfl⟩
  | read k ih => exact ih s s
  | emit s' k ih => exact ih s'
  | await op k ih => exact .inr ⟨op, k, rfl⟩

theorem Keeps.of_mem_trace {p : Prog Reply σ ε α} {s : σ} {w : ω} {op : Op} (hp : Keeps I P p)
    (hs : I s) (h : op ∈ trace handle p s w) : P op := by
  induction p generalizing s w with
  | done r => exact absurd h List.not_mem_nil
  | read k ih => exact ih s (hp s hs) hs h
  | emit s' k ih => exact ih hp.2 hp.1 h
  | await op' k ih =>
      rcases List.mem_cons.mp h with rfl | h
      · exact hp.1
      · exact ih _ (hp.2 _) hs h

theorem Keeps.exec_state {p : Prog Reply σ ε α} {s : σ} (hp : Keeps I P p) (hs : I s) (w : ω) :
    I (exec handle p s w).2.1 := by
  induction p generalizing s w with
  | done r => exact hs
  | read k ih => exact ih s (hp s hs) hs w
  | emit s' k ih => exact ih hp.2 hp.1 w
  | await op k ih => exact ih _ (hp.2 _) hs _

/-- What every call in `P` does to the handler's state, a program that keeps to `P` does. -/
theorem Keeps.exec_rel {R : ω → ω → Prop} (hrefl : ∀ w, R w w)
    (htrans : ∀ w₁ w₂ w₃, R w₁ w₂ → R w₂ w₃ → R w₁ w₃)
    (hR : ∀ op w, P op → R w (handle op w).2) {p : Prog Reply σ ε α} {s : σ} (hp : Keeps I P p)
    (hs : I s) (w : ω) : R w (exec handle p s w).2.2 := by
  induction p generalizing s w with
  | done r => exact hrefl w
  | read k ih => exact ih s (hp s hs) hs w
  | emit s' k ih => exact ih hp.2 hp.1 w
  | await op k ih => exact htrans _ _ _ (hR op w hp.1) (ih _ (hp.2 _) hs _)

theorem keeps_true (p : Prog Reply σ ε α) : Keeps (fun _ => True) (fun _ => True) p := by
  induction p with
  | done r => trivial
  | read k ih => exact fun s _ => ih s
  | emit s k ih => exact ⟨trivial, ih⟩
  | await op k ih => exact ⟨trivial, ih⟩

/-- What every call does to the handler's state, every program does. -/
theorem exec_rel {R : ω → ω → Prop} (hrefl : ∀ w, R w w)
    (htrans : ∀ w₁ w₂ w₃, R w₁ w₂ → R w₂ w₃ → R w₁ w₃) (hR : ∀ op w, R w (handle op w).2)
    (p : Prog Reply σ ε α) (s : σ) (w : ω) : R w (exec handle p s w).2.2 :=
  (keeps_true p).exec_rel hrefl htrans (fun op w _ => hR op w) trivial w

theorem keeps_call {op : Op} (h : P op) : Keeps I P (call op : Prog Reply σ ε (Reply op)) :=
  ⟨h, fun _ => trivial⟩

theorem keeps_emitWith {f : σ → σ} (h : ∀ s, I s → I (f s)) :
    Keeps I P (emitWith f : Prog Reply σ ε Unit) :=
  fun s hs => ⟨h s hs, trivial⟩

theorem keeps_state_bind {f : σ → Prog Reply σ ε β} (h : ∀ s, I s → Keeps I P (f s)) :
    Keeps I P (state >>= f) := h

/-- Run from a state, the program leaves a part of it as it is; after an await it runs from the
state it finds then. -/
def Frames (f : σ → γ) : Prog Reply σ ε α → σ → Prop
  | done _, _ => True
  | read k, s => Frames f (k s) s
  | emit s' k, s => f s' = f s ∧ Frames f k s'
  | await _ k, _ => ∀ r s, Frames f (k r) s

theorem Frames.settle {f : σ → γ} {p : Prog Reply σ ε α} {s : σ} (h : Frames f p s) :
    f (Prog.settle p s).2 = f s ∧ ∀ s', Frames f (Prog.settle p s).1 s' := by
  induction p generalizing s with
  | done r => exact ⟨rfl, fun _ => trivial⟩
  | read k ih => exact ih s h
  | emit s₁ k ih =>
      obtain ⟨hstate, hrest⟩ := ih h.2
      exact ⟨hstate.trans h.1, hrest⟩
  | await op k ih => exact ⟨rfl, fun _ => h⟩

theorem Frames.bind {f : σ → γ} {p : Prog Reply σ ε α} {g : α → Prog Reply σ ε β} {s : σ}
    (h : Frames f p s) (hg : ∀ a s, Frames f (g a) s) : Frames f (p >>= g) s := by
  change Frames f (Prog.bind p g) s
  induction p generalizing s with
  | done r =>
      cases r with
      | ok a => exact hg a s
      | error e => trivial
  | read k ih => exact ih s h
  | emit s' k ih => exact ⟨h.1, ih h.2⟩
  | await op k ih => exact fun r s' => ih r (h r s')

theorem Frames.tryCatch {f : σ → γ} {p : Prog Reply σ ε α} {g : ε → Prog Reply σ ε α} {s : σ}
    (h : Frames f p s) (hg : ∀ e s, Frames f (g e) s) : Frames f (Prog.tryCatch p g) s := by
  induction p generalizing s with
  | done r =>
      cases r with
      | ok a => trivial
      | error e => exact hg e s
  | read k ih => exact ih s h
  | emit s' k ih => exact ⟨h.1, ih h.2⟩
  | await op k ih => exact fun r s' => ih r (h r s')

theorem frames_call_bind {f : σ → γ} {op : Op} {g : Reply op → Prog Reply σ ε β}
    (h : ∀ a s, Frames f (g a) s) (s : σ) : Frames f (call op >>= g) s := by
  intro r s'
  cases r with
  | ok a => exact h a s'
  | error e => trivial

theorem frames_emitWith {f : σ → γ} {g : σ → σ} (h : ∀ s, f (g s) = f s) (s : σ) :
    Frames f (emitWith g : Prog Reply σ ε Unit) s :=
  ⟨h s, trivial⟩

theorem frames_state_bind {f : σ → γ} {g : σ → Prog Reply σ ε β} {s : σ}
    (h : Frames f (g s) s) : Frames f (state >>= g) s := h

end Prog

end Async
