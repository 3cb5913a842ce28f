import AirBnbClone.ReadWriteHistory

/-!
# Where a written value comes from

In a history of read-then-write transactions, however they are interleaved, the value of a register
is an initial one that was handed on: a transaction read it and wrote the next, another read that
and wrote the next, and so on. The transactions that handed it on are distinct and wrote in this
order; the others have left no trace in the register.
-/

namespace ReadWrite

variable {ι κ V : Type} (txn : ι → Txn κ V)

/-- Each transaction of the list reads what the one before it wrote. -/
def Path : κ → List ι → κ → Prop
  | k₀, [], k => k₀ = k
  | k₀, i :: l, k => (txn i).source = k₀ ∧ Path (txn i).target l k

/-- What the transactions of a list make of a value, one after the other. -/
def handOn (v : V) (l : List ι) : V := l.foldl (fun v i => (txn i).compute v) v

/-- The value is an initial one that a path of the writers has handed on to the register. -/
def Traced (init : κ → V) (order : List ι) (v : V) (k : κ) : Prop :=
  ∃ k₀ l, l.Sublist order ∧ Path txn k₀ l k ∧ v = handOn txn (init k₀) l

variable {txn} {init : κ → V} {order order' : List ι} {v : V} {k k₀ : κ} {i : ι} {l : List ι}
  {es : List (Event ι)}

theorem Path.snoc (h : Path txn k₀ l (txn i).source) : Path txn k₀ (l ++ [i]) (txn i).target := by
  induction l generalizing k₀ with
  | nil => exact ⟨h.symm, rfl⟩
  | cons j l ih => exact ⟨h.1, ih h.2⟩

theorem traced_init (init : κ → V) (order : List ι) (k : κ) : Traced txn init order (init k) k :=
  ⟨k, [], List.nil_sublist _, rfl, rfl⟩

theorem Traced.mono (h : Traced txn init order v k) (ho : order.Sublist order') :
    Traced txn init order' v k := by
  obtain ⟨k₀, l, hl, hpath, hv⟩ := h
  exact ⟨k₀, l, hl.trans ho, hpath, hv⟩

/-- A transaction hands on what it has read. -/
theorem Traced.compute (h : Traced txn init order v (txn i).source) :
    Traced txn init (order ++ [i]) ((txn i).compute v) (txn i).target := by
  obtain ⟨k₀, l, hl, hpath, rfl⟩ := h
  refine ⟨k₀, l ++ [i], hl.append (List.Sublist.refl _), hpath.snoc, ?_⟩
  rw [handOn, handOn, List.foldl_append]
  rfl

/-- A transaction that has written has nothing left to do. -/
theorem rest_eq_nil {es rest : List (Event ι)} (h : [.read i, .write i] = es ++ rest)
    (hwrite : .write i ∈ es) : rest = [] := by
  cases es with
  | nil => exact absurd hwrite List.not_mem_nil
  | cons e es =>
      rw [List.cons_append, List.cons.injEq] at h
      obtain ⟨rfl, h⟩ := h
      cases es with
      | nil => cases List.mem_singleton.mp hwrite
      | cons e' es =>
          rw [List.cons_append, List.cons.injEq] at h
          exact (List.append_eq_nil_iff.mp h.2.symm).2

section Histories

variable [DecidableEq ι] [DecidableEq κ] {s : State ι κ V}

theorem Started.read_mem (h : Started (es ++ [.write i])) : .read i ∈ es := by
  have hmem : Event.read i ∈ es.filter (fun e => e.owner = i) := by
    rw [h.filter_eq]
    exact List.mem_cons_self
  exact (List.mem_filter.mp hmem).1

/-- In every history, each register holds a value that was handed on to it, and each transaction one
that was handed on to the register it has read. -/
theorem traced_exec (h : Started es) :
    (∀ k, Traced txn s.store (writers es) ((exec txn s es).store k) k) ∧
      ∀ i, .read i ∈ es →
        Traced txn s.store (writers es) ((exec txn s es).held i) (txn i).source := by
  induction es using List.reverseRecOn with
  | nil => exact ⟨fun k => traced_init s.store _ k, fun i hi => absurd hi List.not_mem_nil⟩
  | append_singleton es e ih =>
      obtain ⟨hstore, hheld⟩ := ih h.of_append
      have hgrows : (writers es).Sublist (writers (es ++ [e])) := by
        rw [writers_append]
        exact List.sublist_append_left _ _
      have hexec : exec txn s (es ++ [e]) = step txn (exec txn s es) e := exec_append es [e]
      rw [hexec]
      cases e with
      | read i =>
          refine ⟨fun k => (hstore k).mono hgrows, ?_⟩
          intro j hj
          by_cases hji : j = i
          · subst hji
            simp only [step, State.setHeld, Function.update_self]
            exact (hstore _).mono hgrows
          · simp only [step, State.setHeld, Function.update_of_ne hji]
            refine (hheld j ?_).mono hgrows
            rcases List.mem_append.mp hj with hj | hj
            · exact hj
            · cases List.mem_singleton.mp hj
              exact absurd rfl hji
      | write i =>
          constructor
          · intro k
            by_cases hk : k = (txn i).target
            · subst hk
              simp only [step, State.setStore, Function.update_self, writers_append]
              exact (hheld i h.read_mem).compute
            · simp only [step, State.setStore, Function.update_of_ne hk]
              exact (hstore k).mono hgrows
          · intro j hj
            refine (hheld j ?_).mono hgrows
            rcases List.mem_append.mp hj with hj | hj
            · exact hj
            · cases List.mem_singleton.mp hj

end Histories

end ReadWrite
