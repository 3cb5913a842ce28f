import Mathlib.Data.List.Infix
import Mathlib.Tactic.Common

/-!
# Runs of a guarded step function

A system is a partial step function: `step s a = none` means that action `a` is not enabled in
state `s`. `Always P` asks for `P` in every state a run passes through, `StepsMeet C` asks that
every action of the run satisfies `C` in the state in which it is taken. The rules below turn
one-step facts into facts about whole runs, in both directions.
-/

namespace Execution

variable {σ α : Type} (step : σ → α → Option σ)

/-- Take the actions in order; the run is `none` as soon as one of them is not enabled. -/
def run : σ → List α → Option σ
  | s, [] => some s
  | s, a :: as => (step s a).bind (fun s' => run s' as)

def Always (P : σ → Prop) : σ → List α → Prop
  | s, [] => P s
  | s, a :: as => P s ∧ ∀ s', step s a = some s' → Always P s' as

def StepsMeet (C : σ → α → Prop) : σ → List α → Prop
  | _, [] => True
  | s, a :: as => C s a ∧ ∀ s', step s a = some s' → StepsMeet C s' as

def decidableStepsMeet (C : σ → α → Prop) [∀ s a, Decidable (C s a)] :
    (s : σ) → (as : List α) → Decidable (StepsMeet step C s as)
  | _, [] => .isTrue trivial
  | s, a :: as =>
      match h : step s a with
      | none => decidable_of_iff (C s a) (by simp [StepsMeet, h])
      | some s' =>
          have := decidableStepsMeet C s' as
          decidable_of_iff (C s a ∧ StepsMeet step C s' as) (by simp [StepsMeet, h])

instance (C : σ → α → Prop) [∀ s a, Decidable (C s a)] (s : σ) (as : List α) :
    Decidable (StepsMeet step C s as) :=
  decidableStepsMeet step C s as

variable {step} {P Q : σ → Prop} {C : σ → α → Prop}

theorem run_cons_eq_some {s t : σ} {a : α} {as : List α} (h : run step s (a :: as) = some t) :
    ∃ s', step s a = some s' ∧ run step s' as = some t := by
  simpa only [run, Option.bind_eq_some_iff] using h

theorem stepsMeet_cons {s s' : σ} {a : α} {as : List α} (hC : C s a) (hs : step s a = some s')
    (h : StepsMeet step C s' as) : StepsMeet step C s (a :: as) := by
  refine ⟨hC, ?_⟩
  intro s'' hs''
  cases hs.symm.trans hs''
  exact h

theorem run_append (s : σ) (as bs : List α) :
    run step s (as ++ bs) = (run step s as).bind (fun s' => run step s' bs) := by
  induction as generalizing s with
  | nil => rfl
  | cons a as ih =>
      simp only [List.cons_append, run, Option.bind_assoc]
      congr 1
      funext s'
      exact ih s'

theorem Always.head {s : σ} {as : List α} (h : Always step P s as) : P s := by
  cases as with
  | nil => exact h
  | cons a as => exact h.1

theorem Always.final {s t : σ} {as : List α} (h : Always step P s as)
    (hr : run step s as = some t) : P t := by
  induction as generalizing s with
  | nil =>
      cases hr
      exact h
  | cons a as ih =>
      obtain ⟨s', hs, hrest⟩ := run_cons_eq_some hr
      exact ih (h.2 s' hs) hrest

theorem Always.mono {s : σ} {as : List α} (hPQ : ∀ s, P s → Q s) (h : Always step P s as) :
    Always step Q s as := by
  induction as generalizing s with
  | nil => exact hPQ s h
  | cons a as ih => exact ⟨hPQ s h.1, fun s' hs => ih (h.2 s' hs)⟩

/-- An invariant that a step can only break together with `Q` holds as long as `Q` does. -/
theorem Always.strengthen (hstep : ∀ s a s', P s → step s a = some s' → Q s' → P s') {s : σ}
    {as : List α} (hs : P s) (h : Always step Q s as) : Always step P s as := by
  induction as generalizing s with
  | nil => exact hs
  | cons a as ih =>
      exact ⟨hs, fun s' h' => ih (hstep s a s' hs h' (h.2 s' h').head) (h.2 s' h')⟩

/-- The invariant rule for runs whose steps all meet a condition. -/
theorem always_of_stepsMeet (hstep : ∀ s a s', P s → C s a → step s a = some s' → P s')
    {s : σ} {as : List α} (hs : P s) (hC : StepsMeet step C s as) : Always step P s as := by
  induction as generalizing s with
  | nil => exact hs
  | cons a as ih =>
      refine ⟨hs, ?_⟩
      intro s' h
      exact ih (hstep s a s' hs hC.1 h) (hC.2 s' h)

/-- The plain invariant rule. -/
theorem always_of_step (hstep : ∀ s a s', P s → step s a = some s' → P s')
    {s : σ} (as : List α) (hs : P s) : Always step P s as := by
  induction as generalizing s with
  | nil => exact hs
  | cons a as ih => exact ⟨hs, fun s' h => ih (hstep s a s' hs h)⟩

/-- When a step out of a `P`-state into a `P`-state must meet `C`, every completed run that stays
in `P` meets `C` throughout. -/
theorem stepsMeet_of_always (hback : ∀ s a s', P s → step s a = some s' → P s' → C s a)
    {s t : σ} {as : List α} (hr : run step s as = some t) (h : Always step P s as) :
    StepsMeet step C s as := by
  induction as generalizing s with
  | nil => trivial
  | cons a as ih =>
      obtain ⟨s', hs, hrest⟩ := run_cons_eq_some hr
      refine ⟨hback s a s' h.1 hs (h.2 s' hs).head, ?_⟩
      intro s'' hs'
      have he : s'' = s' := Option.some.inj (hs'.symm.trans hs)
      subst he
      exact ih hrest (h.2 _ hs)

/-- When an invariant makes `C` the exact condition for a step to meet `D` and stay in `P`, the
runs that do both throughout are those whose steps all meet `C`. -/
theorem always_and_stepsMeet_iff {R : σ → Prop} {D : σ → α → Prop}
    (hR : ∀ s a s', R s → step s a = some s' → R s')
    (hdis : ∀ s a, step s a = none → (D s a ↔ C s a))
    (hexact : ∀ s a s', R s → P s → step s a = some s' → (P s' ∧ D s a ↔ C s a))
    {s : σ} (as : List α) (hs : P s) (hr : R s) :
    Always step P s as ∧ StepsMeet step D s as ↔ StepsMeet step C s as := by
  induction as generalizing s with
  | nil => exact ⟨fun _ => trivial, fun _ => ⟨hs, trivial⟩⟩
  | cons a as ih =>
      cases hstep : step s a with
      | none =>
          simp only [Always, StepsMeet, hstep, reduceCtorEq, false_implies, implies_true, and_true]
          exact ⟨fun h => (hdis s a hstep).mp h.2, fun h => ⟨hs, (hdis s a hstep).mpr h⟩⟩
      | some s' =>
          simp only [Always, StepsMeet, hstep, Option.some.injEq, forall_eq']
          have hone := hexact s a s' hr hs hstep
          constructor
          · rintro ⟨⟨-, h⟩, hd, hmeet⟩
            exact ⟨hone.mp ⟨h.head, hd⟩, (ih h.head (hR s a s' hr hstep)).mp ⟨h, hmeet⟩⟩
          · rintro ⟨hc, h⟩
            obtain ⟨hs', hd⟩ := hone.mpr hc
            obtain ⟨halways, hmeet⟩ := (ih hs' (hR s a s' hr hstep)).mpr h
            exact ⟨⟨hs, halways⟩, hd, hmeet⟩

theorem stepsMeet_true (s : σ) (as : List α) : StepsMeet step (fun _ _ => True) s as := by
  induction as generalizing s with
  | nil => trivial
  | cons a as ih => exact ⟨trivial, fun s' _ => ih s'⟩

/-- When an invariant makes `C` the exact condition for a step to stay in `P`, the runs that stay
in `P` are those whose steps all meet `C`. -/
theorem always_iff_stepsMeet {R : σ → Prop} (hR : ∀ s a s', R s → step s a = some s' → R s')
    (hdis : ∀ s a, step s a = none → C s a)
    (hexact : ∀ s a s', R s → P s → step s a = some s' → (P s' ↔ C s a))
    {s : σ} (as : List α) (hs : P s) (hr : R s) : Always step P s as ↔ StepsMeet step C s as := by
  rw [← always_and_stepsMeet_iff (D := fun _ _ => True) hR
    (fun s a h => iff_of_true trivial (hdis s a h))
    (fun s a s' hr hs h => (and_iff_left trivial).trans (hexact s a s' hr hs h)) as hs hr]
  exact (and_iff_left (stepsMeet_true s as)).symm

theorem Always.and {s : σ} {as : List α} (hP : Always step P s as) (hQ : Always step Q s as) :
    Always step (fun s => P s ∧ Q s) s as := by
  induction as generalizing s with
  | nil => exact ⟨hP, hQ⟩
  | cons a as ih => exact ⟨⟨hP.1, hQ.1⟩, fun s' hs => ih (hP.2 s' hs) (hQ.2 s' hs)⟩

end Execution
