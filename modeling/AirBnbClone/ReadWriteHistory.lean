import Mathlib.Data.List.Induction
import Mathlib.Data.List.Nodup
import Mathlib.Logic.Function.Basic
import Mathlib.Tactic.Common

/-!
# Histories of read-then-write transactions

A transaction reads one register and later writes a function of what it read to another. Accesses
of two transactions to one register conflict unless both are reads. A history that agrees with a
serial order on all conflicts leaves the registers as that serial order does.
-/

namespace ReadWrite

variable {ι κ V : Type}

structure Txn (κ V : Type) where
  source : κ
  target : κ
  compute : V → V

inductive Event (ι : Type)
  | read (i : ι)
  | write (i : ι)
  deriving DecidableEq

namespace Event

def owner : Event ι → ι
  | read i => i
  | write i => i

def isWrite : Event ι → Bool
  | read _ => false
  | write _ => true

def register (txn : ι → Txn κ V) : Event ι → κ
  | read i => (txn i).source
  | write i => (txn i).target

end Event

/-- The registers, and what each transaction has read. -/
structure State (ι κ V : Type) where
  store : κ → V
  held : ι → V

theorem sublist_of_sublist_append_singleton {i j last : ι} {order : List ι} (hj : j ≠ last)
    (h : [i, j].Sublist (order ++ [last])) : [i, j].Sublist order := by
  obtain ⟨l₁, l₂, heq, h₁, h₂⟩ := List.sublist_append_iff.mp h
  cases l₂ with
  | nil =>
      rw [List.append_nil] at heq
      rw [heq]
      exact h₁
  | cons b l =>
      exfalso
      have hlen : (b :: l).length ≤ 1 := h₂.length_le
      have hl : l = [] := List.eq_nil_of_length_eq_zero (by simpa using hlen)
      subst hl
      have hb : b = last := List.mem_singleton.mp (h₂.subset (List.mem_singleton_self b))
      have hlast : [i, j].getLast? = (l₁ ++ [b]).getLast? := congrArg List.getLast? heq
      simp only [List.getLast?_append, List.getLast?_singleton, List.getLast?_cons_cons,
        Option.some_or, Option.some.injEq] at hlast
      exact hj (hlast.trans hb)

section Serial

variable [DecidableEq ι] [DecidableEq κ] (txn : ι → Txn κ V)

def State.setStore (s : State ι κ V) (k : κ) (v : V) : State ι κ V :=
  { s with store := Function.update s.store k v }

def State.setHeld (s : State ι κ V) (i : ι) (v : V) : State ι κ V :=
  { s with held := Function.update s.held i v }

def step (s : State ι κ V) : Event ι → State ι κ V
  | .read i => s.setHeld i (s.store (txn i).source)
  | .write i => s.setStore (txn i).target ((txn i).compute (s.held i))

def exec (s : State ι κ V) (es : List (Event ι)) : State ι κ V := es.foldl (step txn) s

def perform (store : κ → V) (i : ι) : κ → V :=
  Function.update store (txn i).target ((txn i).compute (store (txn i).source))

def serial (store : κ → V) (order : List ι) : κ → V := order.foldl (perform txn) store

def Conflict (e e' : Event ι) : Prop :=
  e.owner ≠ e'.owner ∧ e.register txn = e'.register txn ∧ (e.isWrite ∨ e'.isWrite)

instance (e e' : Event ι) : Decidable (Conflict txn e e') := inferInstanceAs (Decidable (_ ∧ _ ∧ _))

/-- Conflicting accesses happen in the serial order. -/
def Agrees (order : List ι) (es : List (Event ι)) : Prop :=
  es.Pairwise (fun e e' => Conflict txn e e' → [e.owner, e'.owner].Sublist order)

/-- Every transaction of the order reads and then writes, once each, and no other does anything. -/
def Complete (order : List ι) (es : List (Event ι)) : Prop :=
  ∀ i, es.filter (fun e => e.owner = i) = if i ∈ order then [.read i, .write i] else []

variable {txn} {s : State ι κ V} {es : List (Event ι)} {last : ι} {k : κ}

theorem exec_append (es es' : List (Event ι)) :
    exec txn s (es ++ es') = exec txn (exec txn s es) es' :=
  List.foldl_append

theorem step_setHeld {e : Event ι} (h : e.owner ≠ last) (v : V) :
    step txn (s.setHeld last v) e = (step txn s e).setHeld last v := by
  cases e with
  | read i =>
      change i ≠ last at h
      simp only [step, State.setHeld]
      rw [Function.update_comm h]
  | write i =>
      change i ≠ last at h
      simp only [step, State.setHeld, State.setStore]
      rw [Function.update_of_ne h]

/-- What a transaction holds matters to nobody else. -/
theorem exec_setHeld (h : ∀ e ∈ es, e.owner ≠ last) (v : V) (s : State ι κ V) :
    exec txn (s.setHeld last v) es = (exec txn s es).setHeld last v := by
  induction es generalizing s with
  | nil => rfl
  | cons e es ih =>
      obtain ⟨he, hes⟩ := List.forall_mem_cons.mp h
      simp only [exec, List.foldl_cons]
      rw [step_setHeld he]
      exact ih hes (step txn s e)

theorem step_setStore {e : Event ι} (h : e.register txn ≠ k) (v : V) :
    step txn (s.setStore k v) e = (step txn s e).setStore k v := by
  cases e with
  | read i =>
      change (txn i).source ≠ k at h
      simp only [step, State.setHeld, State.setStore]
      rw [Function.update_of_ne h]
  | write i =>
      change (txn i).target ≠ k at h
      simp only [step, State.setStore]
      rw [Function.update_comm h]

/-- A register that is not accessed can be set before or after. -/
theorem exec_setStore (h : ∀ e ∈ es, e.register txn ≠ k) (v : V) (s : State ι κ V) :
    exec txn (s.setStore k v) es = (exec txn s es).setStore k v := by
  induction es generalizing s with
  | nil => rfl
  | cons e es ih =>
      obtain ⟨he, hes⟩ := List.forall_mem_cons.mp h
      simp only [exec, List.foldl_cons]
      rw [step_setStore he]
      exact ih hes (step txn s e)

theorem exec_store_of_no_write (h : ∀ e ∈ es, e.isWrite → e.register txn ≠ k)
    (s : State ι κ V) : (exec txn s es).store k = s.store k := by
  induction es generalizing s with
  | nil => rfl
  | cons e es ih =>
      obtain ⟨he, hes⟩ := List.forall_mem_cons.mp h
      simp only [exec, List.foldl_cons]
      apply (ih hes (step txn s e)).trans
      cases e with
      | read i => rfl
      | write i => exact Function.update_of_ne (he rfl).symm _ _

/-- A transaction after which nobody writes what it read or touches what it wrote may as well be
performed at the end. -/
theorem exec_store_last {before between after : List (Event ι)}
    (howner : ∀ e ∈ between ++ after, e.owner ≠ last)
    (hsource : ∀ e ∈ between ++ after, e.isWrite → e.register txn ≠ (txn last).source)
    (htarget : ∀ e ∈ after, e.register txn ≠ (txn last).target) :
    (exec txn s (before ++ .read last :: (between ++ .write last :: after))).store =
      perform txn (exec txn s (before ++ (between ++ after))).store last := by
  have hbetween : ∀ e ∈ between, e.owner ≠ last :=
    fun e he => howner e (List.mem_append_left _ he)
  have hafter : ∀ e ∈ after, e.owner ≠ last :=
    fun e he => howner e (List.mem_append_right _ he)
  rw [exec_append, exec_append]
  set s₁ := exec txn s before
  have hvalue : (exec txn s₁ (between ++ after)).store (txn last).source =
      s₁.store (txn last).source := exec_store_of_no_write hsource s₁
  set v := s₁.store (txn last).source
  have hsteps : exec txn s₁ (.read last :: (between ++ .write last :: after)) =
      exec txn (step txn (exec txn (s₁.setHeld last v) between) (.write last)) after :=
    exec_append between (.write last :: after)
  have hwrite : step txn ((exec txn s₁ between).setHeld last v) (.write last) =
      ((exec txn s₁ between).setHeld last v).setStore (txn last).target
        ((txn last).compute v) := by
    simp only [step, State.setHeld, Function.update_self]
  rw [hsteps, exec_setHeld hbetween, hwrite, exec_setStore htarget, exec_setHeld hafter,
    ← exec_append, perform, hvalue]
  rfl

/-- The accesses of one transaction cut a complete history in three. -/
theorem Complete.split {order : List ι} (h : Complete (order ++ [last]) es) :
    ∃ before between after, es = before ++ .read last :: (between ++ .write last :: after) ∧
      ∀ e ∈ before ++ (between ++ after), e.owner ≠ last := by
  have hlast := h last
  rw [if_pos (List.mem_append_right _ (List.mem_singleton_self last))] at hlast
  obtain ⟨before, rest, rfl, hbefore, -, hrest⟩ := List.filter_eq_cons_iff.mp hlast
  obtain ⟨between, after, rfl, hbetween, -, hafter⟩ := List.filter_eq_cons_iff.mp hrest
  refine ⟨before, between, after, rfl, ?_⟩
  intro e he heq
  have hmem : e ∈ before ∨ e ∈ between ∨ e ∈ after := by
    simpa only [List.mem_append] using he
  rcases hmem with he | he | he
  · exact hbefore e he (decide_eq_true heq)
  · exact hbetween e he (decide_eq_true heq)
  · exact List.filter_eq_nil_iff.mp hafter e he (decide_eq_true heq)

/-- Without its last transaction a complete history is complete for the others. -/
theorem Complete.remove {order : List ι} {before between after : List (Event ι)}
    (hnotMem : last ∉ order)
    (howner : ∀ e ∈ before ++ (between ++ after), e.owner ≠ last)
    (h : Complete (order ++ [last]) (before ++ .read last :: (between ++ .write last :: after))) :
    Complete order (before ++ (between ++ after)) := by
  intro i
  by_cases hi : i = last
  · subst hi
    rw [if_neg hnotMem, List.filter_eq_nil_iff]
    intro e he hdec
    exact howner e he (of_decide_eq_true hdec)
  · have hne : ¬ last = i := fun h => hi h.symm
    have hfilter := h i
    simp only [List.filter_append, List.filter_cons, Event.owner, hne, decide_false,
      Bool.false_eq_true, if_false] at hfilter ⊢
    rw [hfilter]
    simp only [List.mem_append, List.mem_singleton, hi, or_false]

/-- The serial order determines the outcome of every history that agrees with it. -/
theorem exec_store_eq_serial {order : List ι} (hnodup : order.Nodup)
    (hcomplete : Complete order es) (hagrees : Agrees txn order es) (s : State ι κ V) :
    (exec txn s es).store = serial txn s.store order := by
  induction order using List.reverseRecOn generalizing es with
  | nil =>
      have hnil : es = [] := by
        rw [List.eq_nil_iff_forall_not_mem]
        intro e he
        have hmem : e ∈ es.filter (fun e' => e'.owner = e.owner) :=
          List.mem_filter.mpr ⟨he, decide_eq_true rfl⟩
        rw [hcomplete e.owner] at hmem
        exact List.not_mem_nil hmem
      rw [hnil]
      rfl
  | append_singleton order last ih =>
      obtain ⟨before, between, after, rfl, howner⟩ := hcomplete.split
      have hnotMem : last ∉ order := by
        intro hmem
        exact List.disjoint_of_nodup_append hnodup hmem (List.mem_singleton_self last)
      have hfirst : ∀ {e e' : Event ι}, e.owner = last → e'.owner ≠ last →
          (Conflict txn e e' → [e.owner, e'.owner].Sublist (order ++ [last])) →
          ¬ Conflict txn e e' := by
        intro e e' he he' h hc
        have hsub := sublist_of_sublist_append_singleton he' (h hc)
        exact hnotMem (he ▸ hsub.subset List.mem_cons_self)
      have hrest : ∀ e ∈ between ++ after, e.owner ≠ last :=
        fun e he => howner e (List.mem_append_right _ he)
      obtain ⟨-, hcons, -⟩ := List.pairwise_append.mp hagrees
      obtain ⟨hread, hcons⟩ := List.pairwise_cons.mp hcons
      obtain ⟨-, hcons, -⟩ := List.pairwise_append.mp hcons
      obtain ⟨hwrite, -⟩ := List.pairwise_cons.mp hcons
      rw [exec_store_last hrest, ih (List.nodup_append.mp hnodup).1
        (hcomplete.remove hnotMem howner), serial, serial, List.foldl_append]
      · rfl
      · have hsub : (before ++ (between ++ after)).Sublist
            (before ++ .read last :: (between ++ .write last :: after)) :=
          ((((List.Sublist.refl after).cons _).append_left between).cons _).append_left before
        apply (List.Pairwise.sublist hsub hagrees).imp_of_mem
        intro e e' he he' h hc
        exact sublist_of_sublist_append_singleton (howner e' he') (h hc)
      · intro e he hw hreg
        refine hfirst (e := .read last) rfl (hrest e he) (hread e ?_)
          ⟨(hrest e he).symm, hreg.symm, .inr hw⟩
        rcases List.mem_append.mp he with he | he
        · exact List.mem_append_left _ he
        · exact List.mem_append_right _ (List.mem_cons_of_mem _ he)
      · intro e he hreg
        have hne := hrest e (List.mem_append_right _ he)
        exact hfirst (e := .write last) rfl hne (hwrite e he) ⟨hne.symm, hreg.symm, .inl rfl⟩

end Serial

section Writers

/-- The transactions in the order of their writes. -/
def writers (es : List (Event ι)) : List ι :=
  es.filterMap (fun e => match e with
    | .read _ => none
    | .write i => some i)

/-- Every transaction reads once at most, and writes once at most, after it has read. -/
def Started [DecidableEq ι] (es : List (Event ι)) : Prop :=
  ∀ i, es.filter (fun e => e.owner = i) <+: [.read i, .write i]

variable {txn : ι → Txn κ V} {es : List (Event ι)} {i : ι}

theorem writers_append (es es' : List (Event ι)) :
    writers (es ++ es') = writers es ++ writers es' :=
  List.filterMap_append

theorem mem_writers_iff : i ∈ writers es ↔ .write i ∈ es := by
  unfold writers
  rw [List.mem_filterMap]
  constructor
  · rintro ⟨e, he, hi⟩
    cases e with
    | read j => cases hi
    | write j =>
        cases hi
        exact he
  · exact fun h => ⟨_, h, rfl⟩

theorem isWrite_of_conflict (hdisjoint : ∀ i j, i ≠ j → (txn i).source ≠ (txn j).target)
    {e e' : Event ι} (h : Conflict txn e e') : e = .write e.owner ∧ e' = .write e'.owner := by
  obtain ⟨howner, hregister, hwrite⟩ := h
  cases e with
  | read i =>
      cases e' with
      | read j => exact absurd hwrite (by simp [Event.isWrite])
      | write j => exact absurd hregister (hdisjoint i j howner)
  | write i =>
      cases e' with
      | read j => exact absurd hregister.symm (hdisjoint j i howner.symm)
      | write j => exact ⟨rfl, rfl⟩

/-- Where nobody reads what another writes, the order of the writes explains the history. -/
theorem agrees_writers (hdisjoint : ∀ i j, i ≠ j → (txn i).source ≠ (txn j).target) :
    Agrees txn (writers es) es := by
  induction es with
  | nil => exact .nil
  | cons e es ih =>
      have hrest : (writers es).Sublist (writers (e :: es)) :=
        (List.sublist_cons_self e es).filterMap _
      refine List.pairwise_cons.mpr ⟨?_, ih.imp (fun h hc => (h hc).trans hrest)⟩
      intro e' he' hc
      obtain ⟨he, hother⟩ := isWrite_of_conflict hdisjoint hc
      have hmem : e'.owner ∈ writers es := mem_writers_iff.mpr (hother ▸ he')
      have hfirst : writers (e :: es) = e.owner :: writers es := by
        rw [he]
        rfl
      rw [hfirst]
      exact (List.singleton_sublist.mpr hmem).cons_cons _

variable [DecidableEq ι]

theorem Started.of_append {es' : List (Event ι)} (h : Started (es ++ es')) : Started es := by
  intro i
  have hi := h i
  rw [List.filter_append] at hi
  exact (List.prefix_append _ _).trans hi

/-- A transaction that writes has read and done nothing else. -/
theorem Started.filter_eq (h : Started (es ++ [.write i])) :
    es.filter (fun e => e.owner = i) = [.read i] := by
  have hsingle : [Event.write i].filter (fun e => e.owner = i) = [.write i] := by
    simp [Event.owner]
  obtain ⟨rest, hrest⟩ := h i
  rw [List.filter_append, hsingle, List.append_assoc] at hrest
  cases hfilter : es.filter (fun e => e.owner = i) with
  | nil =>
      rw [hfilter] at hrest
      cases hrest
  | cons e es' =>
      rw [hfilter, List.cons_append, List.cons.injEq] at hrest
      obtain ⟨rfl, hrest⟩ := hrest
      cases es' with
      | nil => rfl
      | cons e' es' =>
          have hlen := congrArg List.length hrest
          simp at hlen

theorem Started.writers_nodup (h : Started es) : (writers es).Nodup := by
  induction es using List.reverseRecOn with
  | nil => exact List.nodup_nil
  | append_singleton es e ih =>
      have hes := ih h.of_append
      rw [writers_append]
      cases e with
      | read i =>
          change (writers es ++ []).Nodup
          rwa [List.append_nil]
      | write i =>
          refine List.nodup_append'.mpr ⟨hes, List.nodup_singleton i, ?_⟩
          intro j hj hji
          have hwrite : Event.write i ∈ es := by
            rw [← mem_writers_iff, ← List.mem_singleton.mp hji]
            exact hj
          have hfilter : Event.write i ∈ es.filter (fun e => e.owner = i) :=
            List.mem_filter.mpr ⟨hwrite, decide_eq_true rfl⟩
          rw [h.filter_eq] at hfilter
          cases List.mem_singleton.mp hfilter

end Writers

end ReadWrite
