import Mathlib.Data.List.Perm.Basic
import AirBnbClone.AsyncProgram
import AirBnbClone.Execution

/-!
# Owners that are closed while their functions are under way

The owner of a state runs asynchronous functions and listens to a stream through a subscription that
it keeps in a field. Closing it cancels the subscription in the field, while a function that awaits
a call goes on later. A state it emits is refused then, but a subscription it opens is not. A table
sums up what a function does from one await to the next; the end of the owner is quiet when no
answer comes too late by that table.
-/

namespace Disposal

open Async

structure Life where
  isClosed : Bool := false
  /-- A state was emitted after the end. -/
  refused : Bool := false
  /-- The number of the subscription in the field. -/
  field : Option ℕ := none
  opened : ℕ := 0
  active : List ℕ := []
  timer : Bool := false

namespace Life

def listen (l : Life) : Life :=
  { l with field := some l.opened, opened := l.opened + 1, active := l.opened :: l.active }

def cancel (l : Life) : Life :=
  { l with active := l.active.filter (fun n => decide (l.field ≠ some n)) }

def forget (l : Life) : Life := { l with field := none }

def startTimer (l : Life) : Life := { l with timer := true }

def cancelTimer (l : Life) : Life := { l with timer := false }

def close (l : Life) : Life := { l with isClosed := true }

end Life

structure Owner (σ : Type) where
  state : σ
  life : Life := {}

section Programs

variable {Op : Type} {Reply : Op → Type} {σ ε α : Type}

def onLife (f : Life → Life) : Prog Reply (Owner σ) ε Unit :=
  Prog.emitWith (fun o => { o with life := f o.life })

def onState (f : σ → σ) : Prog Reply (Owner σ) ε Unit :=
  Prog.emitWith (fun o => { o with state := f o.state })

/-- A program of the state, run by the owner. A refused emit throws `refusal` and ends the program:
what catches the error may do nothing but emit again. -/
def lift (refusal : ε) : Prog Reply σ ε α → Prog Reply (Owner σ) ε α
  | .done result => .done result
  | .read k => .read (fun o => lift refusal (k o.state))
  | .emit s k => .read (fun o =>
      if o.life.isClosed then
        .emit { o with life := { o.life with refused := true } } (.done (.error refusal))
      else .emit { o with state := s } (lift refusal k))
  | .await op k => .await op (fun reply => lift refusal (k reply))

def emit (refusal : ε) (f : σ → σ) : Prog Reply (Owner σ) ε Unit := lift refusal (Prog.emitWith f)

end Programs

/-- What a function does to its owner's life from one await to the next. -/
inductive Effect
  | nothing
  | listen
  | cancel
  | forget
  | startTimer
  deriving DecidableEq

def Effect.apply : Effect → Life → Life
  | .nothing, l => l
  | .listen, l => l.listen
  | .cancel, l => l.cancel
  | .forget, l => l.forget
  | .startTimer, l => l.startTimer

section Machine

variable {Op : Type} {Reply : Op → Type} {σ ε Task : Type}

/-- The functions of an owner by their tasks, each of which returns the tasks it starts and does not
wait for. `opening` are those that the constructor leaves awaiting a call. -/
structure Code {Op : Type} (Reply : Op → Type) (σ ε Task : Type) where
  state : σ
  life : Life := {}
  opening : List Task
  program : Task → Prog Reply (Owner σ) ε (List Task)
  isMethod : Task → Bool
  isListener : Task → Bool
  onTimer : Option Task := none
  /-- The end awaits the cancellation of the subscription. -/
  waits : Bool
  /-- The field is emptied then. -/
  forgets : Bool := false
  cancelsTimer : Bool := false
  clear : σ → σ := id

/-- What awaits a call. -/
structure Process {Op : Type} (Reply : Op → Type) (σ ε Task : Type) where
  task : Task
  program : Prog Reply (Owner σ) ε (List Task)

/-- `closings` counts the calls of `close` that await a cancellation. -/
structure Running {Op : Type} (Reply : Op → Type) (σ ε Task : Type) where
  owner : Owner σ
  pending : List (Process Reply σ ε Task)
  closings : ℕ := 0

inductive Event {Op : Type} (Reply : Op → Type) (ε Task : Type)
  | call (t : Task)
  | stream (subscription : ℕ) (t : Task)
  | answer (i : ℕ) (reply : (op : Op) → Except ε (Reply op))
  | timerFires
  | close
  | cancelled (ok : Bool)

namespace Code

variable (code : Code Reply σ ε Task)

def process (t : Task) : Process Reply σ ε Task := ⟨t, code.program t⟩

def rest (t : Task) : Prog Reply (Owner σ) ε (List Task) → List (Process Reply σ ε Task)
  | .done (.ok tasks) => tasks.map code.process
  | .done (.error _) => []
  | program => [⟨t, program⟩]

/-- What `close` does at once. -/
def dispose (o : Owner σ) : Owner σ where
  state := code.clear o.state
  life := (if code.cancelsTimer then o.life.cancelTimer else o.life).cancel

def start : Running Reply σ ε Task := ⟨⟨code.state, code.life⟩, code.opening.map code.process, 0⟩

end Code

namespace Running

variable (code : Code Reply σ ε Task) (r : Running Reply σ ε Task)

def advance (t : Task) (program : Prog Reply (Owner σ) ε (List Task)) : Running Reply σ ε Task :=
  { r with
    owner := (Prog.settle program r.owner).2
    pending := r.pending ++ code.rest t (Prog.settle program r.owner).1 }

def step (r : Running Reply σ ε Task) : Event Reply ε Task → Option (Running Reply σ ε Task)
  | .call t => if code.isMethod t then some (r.advance code t (code.program t)) else none
  | .stream n t =>
      if n ∈ r.owner.life.active ∧ code.isListener t = true then
        some (r.advance code t (code.program t))
      else none
  | .answer i reply =>
      match r.pending[i]? with
      | some ⟨t, .await op k⟩ =>
          some ({ r with pending := r.pending.eraseIdx i }.advance code t (k (reply op)))
      | _ => none
  | .timerFires =>
      match code.onTimer with
      | some t =>
          if r.owner.life.timer then
            some ({ r with owner := ⟨r.owner.state, r.owner.life.cancelTimer⟩ }.advance code t
              (code.program t))
          else none
      | none => none
  | .close =>
      let o := code.dispose r.owner
      if code.waits then some { r with owner := o, closings := r.closings + 1 }
      else some { r with owner := ⟨o.state, o.life.close⟩ }
  | .cancelled ok =>
      if 0 < r.closings then
        let life := if code.forgets then r.owner.life.forget else r.owner.life
        if ok then some { r with owner := ⟨r.owner.state, life.close⟩, closings := r.closings - 1 }
        else some { r with closings := r.closings - 1 }
      else none

/-- After the end no subscription is active and no emit was executed. -/
def Silent : Prop :=
  r.owner.life.isClosed = true → r.owner.life.active = [] ∧ r.owner.life.refused = false

end Running

/-- For every task whether it emits, and what it does, before its first await and after an answer;
and whether it is the task that opens the subscription. -/
structure Table {Op : Type} (Reply : Op → Type) (ε Task : Type) where
  observes : Task → Bool
  emitsAtOnce : Task → Bool
  atOnce : Task → Effect
  emits : Task → (op : Op) → Except ε (Reply op) → Bool
  effect : Task → (op : Op) → Except ε (Reply op) → Effect

namespace Table

/-- Up to its next await the program has the effect, unless it emits a state that is refused. With
the opening of a subscription it ends. -/
def Segment (emits : Bool) (e : Effect) (o : Owner σ)
    (program : Prog Reply (Owner σ) ε (List Task)) : Prop :=
  o.life.isClosed = true ∧ emits = true ∨
    (Prog.settle program o).2.life = e.apply o.life ∧
      (e = .listen → ∃ result, (Prog.settle program o).1 = .done result)

variable (table : Table Reply ε Task)

/-- After every answer the program does what the table says, and it starts no other observer. -/
def Obeys (t : Task) : Prog Reply (Owner σ) ε (List Task) → Prop
  | .done (.ok tasks) => ∀ t' ∈ tasks, table.observes t' = false
  | .done (.error _) => True
  | .read k => ∀ o, Obeys t (k o)
  | .emit _ k => Obeys t k
  | .await op k => ∀ reply, Obeys t (k reply) ∧
      ∀ o, Segment (table.emits t op reply) (table.effect t op reply) o (k reply)

/-- The table describes the code, whose constructor starts at most one observer. -/
structure Describes (code : Code Reply σ ε Task) : Prop where
  obeys : ∀ t, table.Obeys t (code.program t)
  callable : ∀ t, code.isMethod t = true ∨ code.isListener t = true ∨ code.onTimer = some t →
    table.observes t = false ∧ table.atOnce t ≠ .listen ∧ table.atOnce t ≠ .forget ∧
      ∀ o, Segment (table.emitsAtOnce t) (table.atOnce t) o (code.program t)
  observes : ∀ t op reply, table.effect t op reply = .listen → table.observes t = true
  fresh : code.life.isClosed = false ∧ code.life.refused = false
  held : ∀ n ∈ code.life.active, code.life.field = some n
  opening : code.opening.countP table.observes + code.life.active.length ≤ 1

/-- After the end no task emits any more; no subscription is opened after `close` was called, and
none is active when the field is emptied. -/
def Quiet (code : Code Reply σ ε Task) (r : Running Reply σ ε Task) : Event Reply ε Task → Prop
  | .call t => code.isMethod t = true → r.owner.life.isClosed = true → table.emitsAtOnce t = false
  | .answer i reply => ∀ t op k, r.pending[i]? = some ⟨t, .await op k⟩ →
      (r.owner.life.isClosed = true → table.emits t op (reply op) = false) ∧
      (table.effect t op (reply op) = .listen → r.owner.life.isClosed = false ∧ r.closings = 0) ∧
      (table.effect t op (reply op) = .forget → r.owner.life.active = [])
  | .timerFires => ∀ t, code.onTimer = some t → r.owner.life.timer = true →
      r.owner.life.isClosed = true → table.emitsAtOnce t = false
  | .stream _ _ => True
  | .close => True
  | .cancelled _ => True

end Table

section Lifted

variable {table : Table Reply ε Task} {t : Task} {refusal : ε}

def Still {α : Type} : Prog Reply σ ε α → Prop
  | .done _ => True
  | .read k => ∀ s, Still (k s)
  | .emit _ _ => False
  | .await _ _ => True

/-- The table tells every answer after which a program of the state emits. -/
def Tells (table : Table Reply ε Task) (t : Task) : Prog Reply σ ε (List Task) → Prop
  | .done (.ok tasks) => ∀ t' ∈ tasks, table.observes t' = false
  | .done (.error _) => True
  | .read k => ∀ s, Tells table t (k s)
  | .emit _ k => Tells table t k
  | .await op k => ∀ reply, Tells table t (k reply) ∧ table.effect t op reply = .nothing ∧
      (table.emits t op reply = false → Still (k reply))

theorem settle_lift_open {α : Type} (p : Prog Reply σ ε α) {o : Owner σ}
    (h : o.life.isClosed = false) : (Prog.settle (lift refusal p) o).2.life = o.life := by
  induction p generalizing o with
  | done result => rfl
  | read k ih => exact ih o.state h
  | emit s k ih =>
      simp only [lift, Prog.settle, h, Bool.false_eq_true, if_false]
      exact ih h
  | await op k ih => rfl

theorem settle_lift_still {α : Type} {p : Prog Reply σ ε α} (h : Still p) (o : Owner σ) :
    (Prog.settle (lift refusal p) o).2.life = o.life := by
  induction p generalizing o with
  | done result => rfl
  | read k ih => exact ih o.state (h o.state) o
  | emit s k ih => exact h.elim
  | await op k ih => rfl

theorem startsNone (table : Table Reply ε Task) :
    ∀ t' ∈ ([] : List Task), table.observes t' = false :=
  fun _ ht => absurd ht List.not_mem_nil

/-- A segment that opens nothing is described by the life it leaves. -/
theorem segment_of_life {program : Prog Reply (Owner σ) ε (List Task)} {emits : Bool} {e : Effect}
    {o : Owner σ} (he : e ≠ .listen) (h : (Prog.settle program o).2.life = e.apply o.life) :
    Table.Segment emits e o program :=
  .inr ⟨h, fun hlisten => absurd hlisten he⟩

/-- A program of the state does nothing but emit, and is refused only where the table says so. -/
theorem segment_lift {p : Prog Reply σ ε (List Task)} {emits : Bool}
    (h : emits = false → Still p) (o : Owner σ) :
    Table.Segment emits .nothing o (lift refusal p) := by
  cases hclosed : o.life.isClosed with
  | false => exact segment_of_life Effect.noConfusion (settle_lift_open p hclosed)
  | true =>
      cases emits with
      | true => exact .inl ⟨hclosed, rfl⟩
      | false => exact segment_of_life Effect.noConfusion (settle_lift_still (h rfl) o)

theorem obeys_lift {p : Prog Reply σ ε (List Task)} (h : Tells table t p) :
    table.Obeys t (lift refusal p) := by
  induction p with
  | done result => cases result <;> exact h
  | read k ih => exact fun o => ih o.state (h o.state)
  | emit s k ih =>
      intro o
      dsimp only
      split_ifs
      · trivial
      · exact ih h
  | await op k ih =>
      intro reply
      obtain ⟨htells, heffect, hstill⟩ := h reply
      refine ⟨ih reply htells, fun o => ?_⟩
      rw [heffect]
      exact segment_lift hstill o

/-- A program of the state that is called observes nothing. -/
theorem callable_lift {p : Prog Reply σ ε (List Task)} (hobserves : table.observes t = false)
    (heffect : table.atOnce t = .nothing) (hstill : table.emitsAtOnce t = false → Still p) :
    table.observes t = false ∧ table.atOnce t ≠ .listen ∧ table.atOnce t ≠ .forget ∧
      ∀ o, Table.Segment (table.emitsAtOnce t) (table.atOnce t) o (lift refusal p) := by
  rw [heffect]
  exact ⟨hobserves, Effect.noConfusion, Effect.noConfusion, segment_lift hstill⟩

/-- What a result is shown as is emitted at once, unless it is an error. -/
theorem tells_emit_result {α : Type} (result : Except ε α) (f : α → σ → σ) :
    Tells table t (do
      let a ← Prog.done result
      Prog.emitWith (f a)
      pure []) := by
  cases result with
  | error e => trivial
  | ok a => exact fun _ => startsNone table

/-- Where the table says that a task emits after every answer it tells enough. -/
theorem tells_of_emits {α : Type} (p : Prog Reply σ ε α)
    (h : ∀ op reply, table.effect t op reply = .nothing ∧ table.emits t op reply = true) :
    Tells table t (p >>= fun _ => pure []) := by
  change Tells table t (Prog.bind p _)
  induction p with
  | done result => cases result with
      | error e => trivial
      | ok a => exact startsNone table
  | read k ih => exact ih
  | emit s k ih => exact ih
  | await op k ih =>
      intro reply
      refine ⟨ih reply, (h op reply).1, fun hfalse => ?_⟩
      exact absurd ((h op reply).2.symm.trans hfalse) Bool.false_ne_true.symm

theorem obeys_emit_bind {f : σ → σ} {k : Unit → Prog Reply (Owner σ) ε (List Task)}
    (h : table.Obeys t (k ())) : table.Obeys t (emit refusal f >>= k) := by
  intro o o'
  dsimp only
  split_ifs
  · trivial
  · exact h

theorem settle_emit_bind_open {f : σ → σ} {k : Unit → Prog Reply (Owner σ) ε (List Task)}
    {o : Owner σ} (h : o.life.isClosed = false) : Prog.settle (emit refusal f >>= k) o =
      Prog.settle (k ()) { o with state := f o.state } := by
  change Prog.settle (Prog.bind (if o.life.isClosed = true then _ else _) k) o = _
  rw [h, if_neg Bool.false_ne_true]
  rfl

/-- What follows an emit is done by the open owner only. -/
theorem segment_emit_bind {f : σ → σ} {k : Unit → Prog Reply (Owner σ) ε (List Task)} {e : Effect}
    (h : ∀ o, (Prog.settle (k ()) o).2.life = e.apply o.life ∧
      (e = .listen → ∃ result, (Prog.settle (k ()) o).1 = .done result)) (o : Owner σ) :
    Table.Segment true e o (emit refusal f >>= k) := by
  cases hclosed : o.life.isClosed with
  | true => exact .inl ⟨hclosed, rfl⟩
  | false =>
      refine .inr ?_
      rw [settle_emit_bind_open hclosed]
      exact h { o with state := f o.state }

end Lifted

section Invariant

/-- The life while the end is quiet. -/
structure Held (l : Life) (closings : ℕ) : Prop where
  silent : l.isClosed = true → l.active = []
  refused : l.refused = false
  closing : 0 < closings → l.active = []
  held : ∀ n ∈ l.active, l.field = some n

namespace Held

variable {l : Life} {closings : ℕ}

theorem of_nil {l' : Life} (hrefused : l'.refused = false) (hnil : l'.active = []) :
    Held l' closings :=
  ⟨fun _ => hnil, hrefused, fun _ => hnil, fun _ hn => absurd (hnil ▸ hn) List.not_mem_nil⟩

theorem active_cancel (h : Held l closings) : l.cancel.active = [] := by
  apply List.filter_eq_nil_iff.mpr
  intro n hn
  rw [decide_eq_true_eq, not_not]
  exact h.held n hn

theorem apply (h : Held l closings) {e : Effect}
    (hlisten : e = .listen → l.isClosed = false ∧ closings = 0 ∧ l.active = [])
    (hforget : e = .forget → l.active = []) : Held (e.apply l) closings := by
  cases e with
  | nothing => exact h
  | startTimer => exact ⟨h.silent, h.refused, h.closing, h.held⟩
  | cancel => exact of_nil h.refused h.active_cancel
  | forget => exact of_nil h.refused (hforget rfl)
  | listen =>
      obtain ⟨hopen, hnone, hnil⟩ := hlisten rfl
      refine ⟨fun hclosed => ?_, h.refused, fun hclosing => ?_, fun n hn => ?_⟩
      · exact absurd (hopen.symm.trans hclosed) Bool.false_ne_true
      · exact absurd hnone hclosing.ne'
      · obtain rfl | hn := List.mem_cons.mp hn
        · rfl
        · exact absurd (hnil ▸ hn) List.not_mem_nil

theorem length_apply {e : Effect} (hlisten : e ≠ .listen) :
    (e.apply l).active.length ≤ l.active.length := by
  cases e with
  | listen => exact absurd rfl hlisten
  | cancel => exact List.length_filter_le _ _
  | _ => exact le_refl _

end Held

variable {code : Code Reply σ ε Task} {table : Table Reply ε Task} {r r' : Running Reply σ ε Task}
  {t : Task} {program : Prog Reply (Owner σ) ε (List Task)}

theorem obeys_settle (h : table.Obeys t program) (o : Owner σ) :
    table.Obeys t (Prog.settle program o).1 := by
  induction program generalizing o with
  | done result => exact h
  | read k ih => exact ih o (h o) o
  | emit s k ih => exact ih h s
  | await op k ih => exact h

theorem obeys_of_mem_rest (hcode : table.Describes code) (h : table.Obeys t program) :
    ∀ q ∈ code.rest t program, table.Obeys q.task q.program := by
  intro q hq
  match program with
  | .done (.ok tasks) =>
      obtain ⟨t', -, rfl⟩ := List.mem_map.mp hq
      exact hcode.obeys t'
  | .done (.error _) => exact absurd hq List.not_mem_nil
  | .read k | .emit s k | .await op k =>
      cases List.mem_singleton.mp hq
      exact h

theorem countP_rest_done {result : Except ε (List Task)}
    (h : table.Obeys (σ := σ) t (.done result)) :
    (code.rest t (.done result)).countP (fun q => table.observes q.task) = 0 := by
  cases result with
  | error e => rfl
  | ok tasks =>
      apply List.countP_eq_zero.mpr
      intro q hq
      obtain ⟨t', ht', rfl⟩ := List.mem_map.mp hq
      exact Bool.eq_false_iff.mp (h t' ht')

theorem countP_rest_le (code : Code Reply σ ε Task) (h : table.Obeys t program) :
    (code.rest t program).countP (fun q => table.observes q.task) ≤
      if table.observes t then 1 else 0 := by
  cases program with
  | done result =>
      rw [countP_rest_done h]
      exact Nat.zero_le _
  | read k | emit s k | await op k =>
      exact List.countP_singleton.le

/-- Every awaiting function obeys the table, and there is one observer at most: one that is yet to
open the subscription, or the one that is active. -/
structure Inv (code : Code Reply σ ε Task) (table : Table Reply ε Task)
    (r : Running Reply σ ε Task) : Prop where
  programs : ∀ q ∈ r.pending, table.Obeys q.task q.program
  life : Held r.owner.life r.closings
  observers : r.pending.countP (fun q => table.observes q.task) + r.owner.life.active.length ≤ 1

theorem Inv.silent (h : Inv code table r) : r.Silent :=
  fun hclosed => ⟨h.life.silent hclosed, h.life.refused⟩

theorem inv_start (hcode : table.Describes code) : Inv code table code.start := by
  refine ⟨fun q hq => ?_, ⟨fun hclosed => ?_, hcode.fresh.2, fun h => absurd h (lt_irrefl _),
    hcode.held⟩, ?_⟩
  · obtain ⟨t, -, rfl⟩ := List.mem_map.mp hq
    exact hcode.obeys t
  · exact absurd (hcode.fresh.1.symm.trans hclosed) Bool.false_ne_true
  · have hopening := hcode.opening
    unfold Code.start
    rw [List.countP_map]
    exact hopening

/-- A function that runs to its next await keeps the invariant, provided that its emit is not
refused, and that it opens a subscription in the open owner and as the only observer. -/
theorem inv_advance (hcode : table.Describes code) (h : Inv code table r) {emits : Bool}
    {e : Effect} (hprogram : table.Obeys t program)
    (hsegment : Table.Segment emits e r.owner program)
    (hemits : r.owner.life.isClosed = true → emits = false)
    (hlisten : e = .listen →
      table.observes t = true ∧ r.owner.life.isClosed = false ∧ r.closings = 0)
    (hforget : e = .forget → r.owner.life.active = [])
    (hobservers : r.pending.countP (fun q => table.observes q.task) +
      (if table.observes t then 1 else 0) + r.owner.life.active.length ≤ 1) :
    Inv code table (r.advance code t program) := by
  obtain ⟨hlife, hdone⟩ : (Prog.settle program r.owner).2.life = e.apply r.owner.life ∧ _ := by
    refine hsegment.resolve_left ?_
    rintro ⟨hclosed, htrue⟩
    exact Bool.false_ne_true ((hemits hclosed).symm.trans htrue)
  have hsettled := obeys_settle hprogram r.owner
  have hactive : e = .listen → r.owner.life.active = [] := by
    intro he
    rw [if_pos (hlisten he).1] at hobservers
    exact List.length_eq_zero_iff.mp (by omega)
  have hheld : Held (e.apply r.owner.life) r.closings :=
    h.life.apply (fun he => ⟨(hlisten he).2.1, (hlisten he).2.2, hactive he⟩) hforget
  refine ⟨fun q hq => ?_, ?_, ?_⟩
  · exact (List.mem_append.mp hq).elim (h.programs q) (obeys_of_mem_rest hcode hsettled q)
  · exact hlife ▸ hheld
  · unfold Running.advance
    rw [List.countP_append, hlife]
    by_cases he : e = .listen
    · obtain ⟨result, hresult⟩ := hdone he
      rw [hresult] at hsettled ⊢
      rw [countP_rest_done hsettled, he]
      change _ + (r.owner.life.active.length + 1) ≤ 1
      rw [if_pos (hlisten he).1] at hobservers
      omega
    · have hrest := countP_rest_le code hsettled
      have hlength := Held.length_apply (l := r.owner.life) he
      omega

theorem inv_callable (hcode : table.Describes code) (h : Inv code table r)
    (ht : code.isMethod t = true ∨ code.isListener t = true ∨ code.onTimer = some t)
    (hemits : r.owner.life.isClosed = true → table.emitsAtOnce t = false) :
    Inv code table (r.advance code t (code.program t)) := by
  obtain ⟨hobserves, hlisten, hforget, hsegment⟩ := hcode.callable t ht
  refine inv_advance hcode h (hcode.obeys t) (hsegment r.owner) hemits
    (fun he => absurd he hlisten) (fun he => absurd he hforget) ?_
  rw [hobserves]
  exact h.observers

theorem inv_answer (hcode : table.Describes code) (h : Inv code table r) {i : ℕ}
    {reply : (op : Op) → Except ε (Reply op)} (hquiet : table.Quiet code r (.answer i reply))
    (hstep : r.step code (.answer i reply) = some r') : Inv code table r' := by
  simp only [Running.step] at hstep
  split at hstep
  · rename_i t op k hpending
    cases hstep
    obtain ⟨hobeys, hsegment⟩ := h.programs _ (List.mem_of_getElem? hpending) (reply op)
    obtain ⟨hemits, hlisten, hforget⟩ := hquiet t op k hpending
    have hi := (List.getElem?_eq_some_iff.mp hpending).1
    have hget := (List.getElem?_eq_some_iff.mp hpending).2
    have hcount := (List.getElem_cons_eraseIdx_perm hi).countP_eq
      (fun q : Process Reply σ ε Task => table.observes q.task)
    rw [List.countP_cons, hget] at hcount
    have hobservers := h.observers
    refine inv_advance hcode ⟨fun q hq => ?_, h.life, ?_⟩
      hobeys (hsegment r.owner) hemits
      (fun he => ⟨hcode.observes t op (reply op) he, hlisten he⟩) hforget ?_
    · exact h.programs q (List.mem_of_mem_eraseIdx hq)
    · change _ + r.owner.life.active.length ≤ 1
      dsimp only at *
      omega
    · change _ + _ + r.owner.life.active.length ≤ 1
      dsimp only at *
      omega
  · cases hstep

theorem dispose_eq (code : Code Reply σ ε Task) (o : Owner σ) :
    (code.dispose o).life.active = o.life.cancel.active ∧
      (code.dispose o).life.refused = o.life.refused := by
  unfold Code.dispose
  split_ifs <;> exact ⟨rfl, rfl⟩

theorem inv_close (h : Inv code table r) (hstep : r.step code .close = some r') :
    Inv code table r' := by
  obtain ⟨hactive, hrefused⟩ := dispose_eq code r.owner
  rw [h.life.active_cancel] at hactive
  rw [h.life.refused] at hrefused
  have hobservers : r.pending.countP (fun q => table.observes q.task) + 0 ≤ 1 :=
    (Nat.le_add_right _ _).trans h.observers
  simp only [Running.step] at hstep
  split_ifs at hstep
  · cases hstep
    exact ⟨h.programs, .of_nil hrefused hactive, by rw [hactive]; exact hobservers⟩
  · cases hstep
    refine ⟨h.programs, .of_nil hrefused hactive, ?_⟩
    change _ + (code.dispose r.owner).life.active.length ≤ 1
    rw [hactive]
    exact hobservers

theorem inv_cancelled (h : Inv code table r) {ok : Bool}
    (hstep : r.step code (.cancelled ok) = some r') : Inv code table r' := by
  simp only [Running.step] at hstep
  by_cases hclosing : 0 < r.closings
  · have hnil := h.life.closing hclosing
    rw [if_pos hclosing] at hstep
    split_ifs at hstep <;> cases hstep <;>
      exact ⟨h.programs, .of_nil h.life.refused hnil, h.observers⟩
  · rw [if_neg hclosing] at hstep
    cases hstep

theorem inv_step (hcode : table.Describes code) (h : Inv code table r)
    {event : Event Reply ε Task} (hquiet : table.Quiet code r event)
    (hstep : r.step code event = some r') : Inv code table r' := by
  cases event with
  | call t =>
      simp only [Running.step] at hstep
      split_ifs at hstep with hmethod
      cases hstep
      exact inv_callable hcode h (.inl hmethod) (hquiet hmethod)
  | stream n t =>
      simp only [Running.step] at hstep
      split_ifs at hstep with hactive
      cases hstep
      refine inv_callable hcode h (.inr (.inl hactive.2)) (fun hclosed => ?_)
      exact absurd (h.life.silent hclosed ▸ hactive.1) List.not_mem_nil
  | answer i reply => exact inv_answer hcode h hquiet hstep
  | timerFires =>
      simp only [Running.step] at hstep
      split at hstep
      · rename_i t ht
        split_ifs at hstep with htimer
        cases hstep
        refine inv_callable hcode ⟨h.programs, ?_, h.observers⟩ (.inr (.inr ht))
          (hquiet t ht htimer)
        exact ⟨h.life.silent, h.life.refused, h.life.closing, h.life.held⟩
      · cases hstep
  | close => exact inv_close h hstep
  | cancelled ok => exact inv_cancelled h hstep

/-- The owner is silent after its end in every run that is quiet by the table. -/
theorem silent_of_quiet (hcode : table.Describes code) (events : List (Event Reply ε Task))
    (h : Execution.StepsMeet (Running.step code) (table.Quiet code) code.start events) :
    Execution.Always (Running.step code) Running.Silent code.start events := by
  have halways := Execution.always_of_stepsMeet
    (fun _ _ _ hinv hquiet hstep => inv_step hcode hinv hquiet hstep) (inv_start hcode) h
  exact halways.mono (fun _ hinv => hinv.silent)

end Invariant

end Machine

end Disposal
