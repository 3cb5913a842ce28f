import AirBnbClone.BookPostingCubit
import AirBnbClone.CallBudget
import AirBnbClone.Execution

/-!
# One payment sheet per payment intent

The state of the booking screen is also the channel through which the screen is told of a payment
intent or of an error. `copyWith` drops both, so that no later state repeats them. The cubit below
is open: its functions may be called at any time and interleave at their awaits.
-/

namespace AirBnbClone

open Async BookPostingState BookPostingCubit

/-- The payment intent that a reply brings. -/
def intentOf : (op : Call) → Except DartError (Reply op) → Option PaymentIntent
  | .createPaymentIntent .., .ok intent => some intent
  | _, _ => none

def hasFailed {α : Type} : Except DartError α → Bool
  | .ok _ => false
  | .error _ => true

/-- One function runs to its next await: it was resumed by an error or refuses to go on, or by a
reply that brings an intent; and it emits states. -/
structure CubitStep where
  failed : Bool
  intent : Option PaymentIntent
  emitted : List BookPostingState

structure OpenCubit where
  state : BookPostingState
  processes : List (CubitM Unit)
  steps : List CubitStep

inductive CubitEvent
  | setCurrentTag (tag : String)
  | updateSelectedDate (date : DateTime)
  | getPaymentIntent
  | saveBooking
  | proceed (i : ℕ) (reply : (op : Call) → Except DartError (Reply op))

/-- The listener of the screen: `listenWhen` and the sheet that is presented. -/
def presentedSheet (s : BookPostingState) : Option PaymentIntent :=
  if s.errorMessage ≠ none ∨ s.paymentIntent ≠ none then s.paymentIntent else none

namespace OpenCubit

def advance (c : OpenCubit) (failed : Bool) (intent : Option PaymentIntent)
    (program : CubitM Unit) : OpenCubit where
  state := (Prog.settle program c.state).2
  processes :=
    match (Prog.settle program c.state).1 with
    | .done _ => c.processes
    | program => c.processes ++ [program]
  steps := c.steps ++ [⟨failed, intent, Prog.emitted program c.state⟩]

variable (z : Zone) (describe : DartError → String) (posting : Option (Managed Posting))

/-- The constructor calls `_setupInitialValues`, whose first await may have nothing to wait for. -/
def start (name : Option String) (datesParam : Option (DartMap DateTime)) (now : DateTime) :
    OpenCubit :=
  ⟨initial now, [setupInitialValues z posting name datesParam now], []⟩

/-- `getPaymentIntent` answers that there is no night to be paid. -/
def refuses (s : BookPostingState) : Bool :=
  posting.any Managed.isValid && decide (s.bookDates z ≤ 0)

def step (c : OpenCubit) : CubitEvent → Option OpenCubit
  | .setCurrentTag tag =>
      some (c.advance false none (Prog.emitWith (BookPostingCubit.setCurrentTag tag)))
  | .updateSelectedDate date =>
      some (c.advance false none (Prog.emitWith (BookPostingCubit.updateSelectedDate date)))
  | .getPaymentIntent => some (c.advance (refuses z posting c.state) none
      (BookPostingCubit.getPaymentIntent z describe posting))
  | .saveBooking => some (c.advance false none (BookPostingCubit.saveBooking z posting))
  | .proceed i reply =>
      match c.processes[i]? with
      | some (.await op k) => some ({ c with processes := c.processes.eraseIdx i }.advance
          (hasFailed (reply op)) (intentOf op (reply op)) (k (reply op)))
      | some program => some ({ c with processes := c.processes.eraseIdx i }.advance false none
          program)
      | none => none

def emitted (c : OpenCubit) : List BookPostingState := c.steps.flatMap CubitStep.emitted

def intents (c : OpenCubit) : List PaymentIntent := c.steps.filterMap CubitStep.intent

end OpenCubit

/-- The intent that came in is emitted once, and an error at most once, by the function that has
failed. -/
structure CubitStep.IsOneShot (step : CubitStep) : Prop where
  intent : step.emitted.filterMap BookPostingState.paymentIntent = step.intent.toList
  error : step.emitted.filterMap BookPostingState.errorMessage = [] ∨
    step.failed = true ∧ ∃ message,
      step.emitted.filterMap BookPostingState.errorMessage = [message]

/-- The states with an intent are those of the replies, in order, each opens one sheet, and every
error is emitted by the function that has failed, as it fails. -/
structure OpenCubit.IsOneShot (c : OpenCubit) : Prop where
  intents : c.emitted.filterMap BookPostingState.paymentIntent = c.intents
  sheets : c.emitted.filterMap presentedSheet = c.intents
  steps : ∀ step ∈ c.steps, step.IsOneShot

namespace BookPostingCubit

variable {α β : Type} {mayFail : Bool} {due : Option PaymentIntent} {s : BookPostingState}
  {z : Zone} {describe : DartError → String} {posting : Option (Managed Posting)}

/-- Run from a state to its next await, the program emits the intent that is due and no other, and
an error only if it may fail, and once. After an await the reply decides. -/
def Reports : Bool → Option PaymentIntent → CubitM α → BookPostingState → Prop
  | _, due, .done (.ok _), _ => due = none
  | mayFail, due, .done (.error _), _ => mayFail = true ∧ due = none
  | mayFail, due, .read k, s => Reports mayFail due (k s) s
  | mayFail, due, .emit s' k, _ => (s'.errorMessage = none ∨ mayFail = true) ∧
      (s'.paymentIntent = none ∨ s'.paymentIntent = due) ∧
      Reports (mayFail && s'.errorMessage.isNone)
        (if s'.paymentIntent.isSome then none else due) k s'
  | _, due, .await op k, _ => due = none ∧
      ∀ r s, Reports (hasFailed r) (intentOf op r) (k r) s

theorem intentOf_error (op : Call) (e : DartError) : intentOf op (.error e) = none := by
  cases op <;> rfl

/-- What is emitted on the way to the next await, and what remains. -/
theorem Reports.settle {p : CubitM α} (h : Reports mayFail due p s) :
    (Prog.emitted p s).filterMap BookPostingState.paymentIntent = due.toList ∧
    ((Prog.emitted p s).filterMap BookPostingState.errorMessage = [] ∨ mayFail = true ∧
      ∃ message, (Prog.emitted p s).filterMap BookPostingState.errorMessage = [message]) ∧
    ((∃ r, (Prog.settle p s).1 = .done r) ∨ ∀ s', Reports false none (Prog.settle p s).1 s') := by
  induction p generalizing mayFail due s with
  | done r =>
      cases r with
      | ok a =>
          cases h
          exact ⟨rfl, .inl rfl, .inl ⟨_, rfl⟩⟩
      | error e =>
          obtain ⟨-, rfl⟩ := h
          exact ⟨rfl, .inl rfl, .inl ⟨_, rfl⟩⟩
  | read k ih => exact ih s h
  | emit s' k ih =>
      obtain ⟨herror, hintent, hrest⟩ := h
      obtain ⟨hintents, herrors, hremains⟩ := ih hrest
      refine ⟨?_, ?_, hremains⟩
      · rw [Prog.emitted]
        cases hs' : s'.paymentIntent with
        | none =>
            rw [List.filterMap_cons_none hs', hintents, hs']
            rfl
        | some intent =>
            rw [List.filterMap_cons_some hs', hintents, hs', ← hintent.resolve_left (by simp [hs']),
              hs']
            rfl
      · rw [Prog.emitted]
        cases hs' : s'.errorMessage with
        | none =>
            rw [List.filterMap_cons_none hs']
            rw [hs'] at herrors
            simpa using herrors
        | some message =>
            have hfail : mayFail = true := herror.resolve_left (by simp [hs'])
            rw [hs'] at herrors
            have hnone := herrors.resolve_right (by simp)
            rw [List.filterMap_cons_some hs', hnone]
            exact .inr ⟨hfail, message, rfl⟩
  | await op k ih =>
      obtain ⟨rfl, hk⟩ := h
      exact ⟨rfl, .inl rfl, .inr fun _ => ⟨rfl, hk⟩⟩

theorem Reports.tryCatch {p : CubitM α} {h : DartError → CubitM α}
    (hp : Reports mayFail due p s) (hh : ∀ e s', Reports true none (h e) s') :
    Reports mayFail due (Prog.tryCatch p h) s := by
  induction p generalizing mayFail due s with
  | done r =>
      cases r with
      | ok a => exact hp
      | error e =>
          obtain ⟨rfl, rfl⟩ := hp
          exact hh e s
  | read k ih => exact ih s hp
  | emit s' k ih => exact ⟨hp.1, hp.2.1, ih hp.2.2⟩
  | await op k ih => exact ⟨hp.1, fun r s' => ih r (hp.2 r s')⟩

theorem reports_call_bind {op : Call} {f : Reply op → CubitM β}
    (hf : ∀ a s', Reports false (intentOf op (.ok a)) (f a) s') :
    Reports mayFail none (Prog.call op >>= f) s := by
  refine ⟨rfl, ?_⟩
  intro r s'
  cases r with
  | ok a => exact hf a s'
  | error e => exact ⟨rfl, intentOf_error op e⟩

theorem reports_state_bind {f : BookPostingState → CubitM β} (h : Reports mayFail due (f s) s) :
    Reports mayFail due (Prog.state >>= f) s := h

theorem reports_emitWith {u : Update} (herror : u.errorMessage = none ∨ mayFail = true)
    (hintent : u.paymentIntent = due) :
    Reports mayFail due (Prog.emitWith (fun s => s.copyWith u)) s := by
  refine ⟨herror, .inr hintent, ?_⟩
  cases due with
  | none => exact ite_self none
  | some intent => exact if_pos (by simp [copyWith, hintent])

/-- A program without intents that only fails as a call fails. -/
abbrev Quiet (p : CubitM α) : Prop := ∀ mayFail s, Reports mayFail none p s

theorem Quiet.bind {p : CubitM α} {f : α → CubitM β} (hp : Quiet p) (hf : ∀ a, Quiet (f a)) :
    Quiet (p >>= f) := by
  have hbind : ∀ {mayFail due s}, Reports mayFail due p s →
      Reports mayFail due (Prog.bind p f) s := by
    clear hp
    induction p with
    | done r =>
        intro mayFail due s hp
        cases r with
        | ok a =>
            cases hp
            exact hf a mayFail s
        | error e => exact hp
    | read k ih => exact fun hp => ih _ hp
    | emit s' k ih => exact fun hp => ⟨hp.1, hp.2.1, ih hp.2.2⟩
    | await op k ih => exact fun hp => ⟨hp.1, fun r s' => ih r (hp.2 r s')⟩
  exact fun mayFail s => hbind (hp mayFail s)

theorem quiet_pure (a : α) : Quiet (pure a : CubitM α) := fun _ _ => rfl

theorem quiet_call_bind {op : Call} {f : Reply op → CubitM β}
    (hop : ∀ a, intentOf op (.ok a) = none) (hf : ∀ a, Quiet (f a)) :
    Quiet (Prog.call op >>= f) := by
  intro mayFail s
  apply reports_call_bind
  intro a s'
  rw [hop]
  exact hf a false s'

theorem quiet_emitWith {u : Update} (herror : u.errorMessage = none)
    (hintent : u.paymentIntent = none) : Quiet (Prog.emitWith (fun s => s.copyWith u)) :=
  fun _ _ => reports_emitWith (.inl herror) hintent

theorem quiet_setupInitialValues (name : Option String) (datesParam : Option (DartMap DateTime))
    (now : DateTime) : Quiet (setupInitialValues z posting name datesParam now) := by
  have hload : ∀ unselectable, Quiet (Prog.emitWith (loaded name (initialDates datesParam now)
      unselectable) : CubitM Unit) := fun _ _ _ => ⟨.inl rfl, .inl rfl, rfl⟩
  unfold setupInitialValues getUnselectableDates
  cases posting with
  | none => exact hload _
  | some posting =>
      dsimp only
      split_ifs
      · have hbookings : Quiet (do
            let bookings ← Await.getBookingsForPosting posting.object.id none
            pure (unselectableDates z bookings) : CubitM (Finset DateTime)) :=
          quiet_call_bind (fun _ => rfl) (fun _ => quiet_pure _)
        exact hbookings.bind hload
      · exact hload _

theorem quiet_createBookingAndUpdateHostEarning (postingId userId hostId : String)
    (inDate outDate : DateTime) (paymentAmount : ℚ) :
    Quiet (createBookingAndUpdateHostEarning postingId userId hostId inDate outDate
      paymentAmount) := by
  unfold createBookingAndUpdateHostEarning
  refine quiet_call_bind (fun _ => rfl) (fun _ => quiet_call_bind (fun _ => rfl) ?_)
  intro user
  dsimp only
  split_ifs
  · exact quiet_call_bind (fun _ => rfl) (fun _ => quiet_pure ())
  · exact quiet_pure ()

theorem quiet_ensureConversationAndSendMessage (userId hostId postingName : String)
    (inDate outDate : DateTime) :
    Quiet (ensureConversationAndSendMessage z userId hostId postingName inDate outDate) := by
  have hmessage (c text : String) : Quiet (do
      let now ← Await.now
      let _ ← Await.createMessage (messageData c userId text now) : CubitM Unit) :=
    quiet_call_bind (fun _ => rfl) (fun _ =>
      quiet_call_bind (fun _ => rfl) (fun _ => quiet_pure ()))
  unfold ensureConversationAndSendMessage
  refine quiet_call_bind (fun _ => rfl) ?_
  intro user
  dsimp only
  split_ifs
  · refine quiet_call_bind (fun _ => rfl) (fun now => quiet_call_bind (fun _ => rfl) ?_)
    intro existing
    cases existing with
    | some conversation => exact quiet_call_bind (fun _ => rfl) (fun _ => hmessage _ _)
    | none => exact quiet_call_bind (fun _ => rfl) (fun _ =>
        quiet_call_bind (fun _ => rfl) (fun _ => hmessage _ _))
  · exact quiet_pure ()

/-- What fails is caught. -/
theorem quiet_bookStay (postingId userId hostId postingName : String) (inDate outDate : DateTime)
    (paymentAmount : ℚ) : Quiet
      (bookStay z postingId userId hostId postingName inDate outDate paymentAmount) := by
  refine (quiet_emitWith rfl rfl).bind (fun _ => ?_)
  intro mayFail s
  refine Reports.tryCatch ?_ (fun e s' => reports_emitWith (.inr rfl) rfl)
  refine (quiet_createBookingAndUpdateHostEarning _ _ _ _ _ _).bind (fun _ => ?_) mayFail s
  exact (quiet_ensureConversationAndSendMessage _ _ _ _ _).bind
    (fun _ => quiet_emitWith rfl rfl)

theorem quiet_saveBooking : Quiet (saveBooking z posting) := by
  cases posting with
  | none => exact quiet_pure ()
  | some posting =>
      dsimp only [saveBooking]
      split_ifs
      swap
      · exact quiet_pure ()
      cases posting.object.hostId with
      | none => exact quiet_pure ()
      | some hostId =>
          cases posting.object.price with
          | none => exact quiet_pure ()
          | some price =>
              refine quiet_call_bind (fun _ => rfl) ?_
              intro userId
              cases userId with
              | none => exact quiet_pure ()
              | some userId =>
                  intro mayFail s
                  apply reports_state_bind
                  split
                  · exact quiet_bookStay _ _ _ _ _ _ _ mayFail s
                  · rfl

theorem reports_getPaymentIntent : Reports (OpenCubit.refuses z posting s) none
    (getPaymentIntent z describe posting) s := by
  cases posting with
  | none => rfl
  | some posting =>
      dsimp only [getPaymentIntent]
      split_ifs with hvalid
      swap
      · rfl
      change Reports _ none (ite _ _ _) s
      split_ifs with hnights
      swap
      · refine reports_emitWith (.inr ?_) rfl
        simpa [OpenCubit.refuses, hvalid] using hnights
      cases posting.object.price with
      | none => rfl
      | some price =>
          refine Reports.tryCatch ?_ (fun e s' => reports_emitWith (.inr rfl) rfl)
          apply reports_call_bind
          intro userId s
          cases userId with
          | none => rfl
          | some userId =>
              apply reports_call_bind
              intro intent s
              exact reports_emitWith (.inl rfl) rfl

end BookPostingCubit

namespace OpenCubit

variable {z : Zone} {describe : DartError → String} {posting : Option (Managed Posting)}
  {c c' : OpenCubit} {mayFail : Bool} {due : Option PaymentIntent} {p : CubitM Unit}

theorem filterMap_presentedSheet (states : List BookPostingState) :
    states.filterMap presentedSheet = states.filterMap BookPostingState.paymentIntent := by
  refine List.filterMap_congr (fun s _ => ?_)
  unfold presentedSheet
  cases hs : s.paymentIntent with
  | none => exact ite_self none
  | some intent => simp

/-- The states with an intent are the replies' when every step emits its own. -/
theorem isOneShot_of_steps (h : ∀ step ∈ c.steps, step.IsOneShot) : c.IsOneShot := by
  have hintents : c.emitted.filterMap BookPostingState.paymentIntent = c.intents := by
    unfold emitted intents
    rw [List.filterMap_flatMap, List.filterMap_eq_flatMap_toList]
    exact List.flatMap_congr (fun step hstep => (h step hstep).intent)
  refine ⟨hintents, ?_, h⟩
  rw [filterMap_presentedSheet]
  exact hintents

/-- Every function under way reports as its next reply decides. -/
structure Inv (c : OpenCubit) : Prop where
  processes : ∀ p ∈ c.processes, ∀ s, Reports false none p s
  steps : ∀ step ∈ c.steps, step.IsOneShot

theorem inv_advance (h : Inv c) (hp : Reports mayFail due p c.state) :
    Inv (c.advance mayFail due p) := by
  obtain ⟨hintents, herrors, hremains⟩ := hp.settle
  constructor
  · intro q hq s
    unfold advance at hq
    dsimp only at hq
    split at hq
    · exact h.processes q hq s
    · rename_i hdone
      rcases List.mem_append.mp hq with hq | hq
      · exact h.processes q hq s
      · cases List.mem_singleton.mp hq
        exact hremains.resolve_left (fun ⟨r, hr⟩ => hdone r hr) s
  · intro step hstep
    rcases List.mem_append.mp hstep with hstep | hstep
    · exact h.steps step hstep
    · cases List.mem_singleton.mp hstep
      exact ⟨hintents, herrors⟩

theorem inv_eraseIdx (h : Inv c) (i : ℕ) :
    Inv { c with processes := c.processes.eraseIdx i } :=
  ⟨fun p hp => h.processes p (List.mem_of_mem_eraseIdx hp), h.steps⟩

theorem inv_step {e : CubitEvent} (h : Inv c) (hstep : step z describe posting c e = some c') :
    Inv c' := by
  cases e with
  | setCurrentTag tag =>
      cases hstep
      exact inv_advance h (quiet_emitWith rfl rfl false c.state)
  | updateSelectedDate date =>
      cases hstep
      exact inv_advance h ⟨.inl rfl, .inl rfl, rfl⟩
  | getPaymentIntent =>
      cases hstep
      exact inv_advance h reports_getPaymentIntent
  | saveBooking =>
      cases hstep
      exact inv_advance h (quiet_saveBooking false c.state)
  | proceed i reply =>
      simp only [step] at hstep
      split at hstep
      · rename_i op k hprocess
        cases hstep
        have hp := h.processes _ (List.mem_of_getElem? hprocess) c.state
        exact inv_advance (inv_eraseIdx h i) (hp.2 (reply op) c.state)
      · rename_i p hawait hprocess
        cases hstep
        exact inv_advance (inv_eraseIdx h i)
          (h.processes p (List.mem_of_getElem? hprocess) c.state)
      · cases hstep

end OpenCubit

/-- In every run of an open cubit the intents that came in are emitted once each, in order, and
presented once each; an error is emitted by the function that has failed, as it fails, and never
again. -/
theorem payment_intents_are_oneShot (z : Zone) (describe : DartError → String)
    (posting : Option (Managed Posting)) (name : Option String)
    (datesParam : Option (DartMap DateTime)) (now : DateTime) (events : List CubitEvent) :
    Execution.Always (OpenCubit.step z describe posting) OpenCubit.IsOneShot
      (OpenCubit.start z posting name datesParam now) events := by
  have hstart : OpenCubit.Inv (OpenCubit.start z posting name datesParam now) := by
    refine ⟨?_, nofun⟩
    intro p hp s
    cases List.mem_singleton.mp hp
    exact quiet_setupInitialValues name datesParam now false s
  exact (Execution.always_of_step (fun _ _ _ h hstep => OpenCubit.inv_step h hstep) events
    hstart).mono (fun _ h => OpenCubit.isOneShot_of_steps h.steps)

end AirBnbClone
