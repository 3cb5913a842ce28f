import AirBnbClone.CallBudget

/-!
# Programs with a history

What an asynchronous program may do next depends on what it was answered and what it has emitted.
`record` and `note` keep a history of both, and `Ensures` states what holds of a program after a
history: of the states it emits, given the same of those it reads, of the calls it makes, and of
its result. The rules follow the constructs from which programs are built.
-/

namespace Async.Prog

variable {Op : Type} {Reply : Op → Type} {σ ε α β η : Type}

section Logic

variable (record : (op : Op) → Except ε (Reply op) → η → η) (note : σ → η → η)
  (I : η → σ → Prop) (P : η → Op → Prop)

def Ensures (R : η → Except ε α → Prop) : η → Prog Reply σ ε α → Prop
  | h, done r => R h r
  | h, read k => ∀ s, I h s → Ensures R h (k s)
  | h, emit s k => I (note s h) s ∧ Ensures R (note s h) k
  | h, await op k => P h op ∧ ∀ r, Ensures R (record op r h) (k r)

def noted (p : Prog Reply σ ε α) (s : σ) (h : η) : η :=
  (emitted p s).foldl (fun h s => note s h) h

end Logic

variable {record : (op : Op) → Except ε (Reply op) → η → η} {note : σ → η → η}
  {I : η → σ → Prop} {P : η → Op → Prop} {h : η}

theorem Ensures.mono {R Q : η → Except ε α → Prop} (hRQ : ∀ h r, R h r → Q h r)
    {p : Prog Reply σ ε α} (hp : Ensures record note I P R h p) :
    Ensures record note I P Q h p := by
  induction p generalizing h with
  | done r => exact hRQ h r hp
  | read k ih => exact fun s hs => ih s (hp s hs)
  | emit s k ih => exact ⟨hp.1, ih hp.2⟩
  | await op k ih => exact ⟨hp.1, fun r => ih r (hp.2 r)⟩

/-- What is to hold of the whole after the first part. -/
theorem Ensures.bind {R : η → Except ε β → Prop} {Q : η → Except ε α → Prop}
    {p : Prog Reply σ ε α} {f : α → Prog Reply σ ε β} (hp : Ensures record note I P Q h p)
    (hok : ∀ h a, Q h (.ok a) → Ensures record note I P R h (f a))
    (herror : ∀ h e, Q h (.error e) → R h (.error e)) :
    Ensures record note I P R h (p >>= f) := by
  change Ensures record note I P R h (Prog.bind p f)
  induction p generalizing h with
  | done r =>
      cases r with
      | ok a => exact hok h a hp
      | error e => exact herror h e hp
  | read k ih => exact fun s hs => ih s (hp s hs)
  | emit s k ih => exact ⟨hp.1, ih hp.2⟩
  | await op k ih => exact ⟨hp.1, fun r => ih r (hp.2 r)⟩

theorem Ensures.tryCatch {R Q : η → Except ε α → Prop} {p : Prog Reply σ ε α}
    {f : ε → Prog Reply σ ε α} (hp : Ensures record note I P Q h p)
    (hok : ∀ h a, Q h (.ok a) → R h (.ok a))
    (herror : ∀ h e, Q h (.error e) → Ensures record note I P R h (f e)) :
    Ensures record note I P R h (Prog.tryCatch p f) := by
  induction p generalizing h with
  | done r =>
      cases r with
      | ok a => exact hok h a hp
      | error e => exact herror h e hp
  | read k ih => exact fun s hs => ih s (hp s hs)
  | emit s k ih => exact ⟨hp.1, ih hp.2⟩
  | await op k ih => exact ⟨hp.1, fun r => ih r (hp.2 r)⟩

theorem ensures_state_bind {R : η → Except ε β → Prop} {f : σ → Prog Reply σ ε β}
    (hf : ∀ s, I h s → Ensures record note I P R h (f s)) :
    Ensures record note I P R h (state >>= f) := hf

theorem ensures_emitWith_bind {R : η → Except ε β → Prop} {g : σ → σ}
    {f : Unit → Prog Reply σ ε β}
    (hf : ∀ s, I h s → I (note (g s) h) (g s) ∧ Ensures record note I P R (note (g s) h) (f ())) :
    Ensures record note I P R h (emitWith g >>= f) := hf

/-- An error reply is thrown. -/
theorem ensures_call_bind {R : η → Except ε β → Prop} {op : Op} {f : Reply op → Prog Reply σ ε β}
    (hop : P h op) (hok : ∀ a, Ensures record note I P R (record op (.ok a) h) (f a))
    (herror : ∀ e, R (record op (.error e) h) (.error e)) :
    Ensures record note I P R h (call op >>= f) := by
  refine ⟨hop, ?_⟩
  intro r
  cases r with
  | ok a => exact hok a
  | error e => exact herror e

/-- A program that comes to rest leaves a state and a history that fit. -/
theorem Ensures.settle {R : η → Except ε α → Prop} {p : Prog Reply σ ε α} {s : σ}
    (hp : Ensures record note I P R h p) (hs : I h s) :
    Ensures record note I P R (noted note p s h) (Prog.settle p s).1 ∧
      I (noted note p s h) (Prog.settle p s).2 := by
  induction p generalizing h s with
  | done r => exact ⟨hp, hs⟩
  | read k ih => exact ih s (hp s hs) hs
  | emit s' k ih => exact ih hp.2 hp.1
  | await op k ih => exact ⟨hp, hs⟩

end Async.Prog
