import Mathlib.Data.List.GetD
import AirBnbClone.Execution
import AirBnbClone.RepositoryQueries

/-!
# Subscriptions shared by several streams

`observeDoc` and `observeCollection` start at most one Firestore subscription per key, while the
cancellation of any stream of that key stops the subscription for all of them. The log records, in
the order of their calls, which keys were observed and which were cancelled; whether a key has a
subscription is decided by its latest mark.
-/

namespace AirBnbClone

inductive StreamStatus
  | returned
  | listening
  | cancelled
  deriving DecidableEq

structure ObservedStream where
  call : ObserveCall
  status : StreamStatus
  deriving DecidableEq

structure FirestoreSubscription where
  key : ListenerKey
  active : Bool
  deriving DecidableEq

inductive Mark
  | observed
  | cancelled
  deriving DecidableEq

/-- `observed` is `_observedDocuments` and `_observedCollections` together; it refers to the
subscriptions by their number. -/
structure SubscriptionState where
  observed : FiniteMap.Map ListenerKey ℕ
  subscriptions : List FirestoreSubscription
  streams : List ObservedStream
  log : List (ListenerKey × Mark)

inductive StreamEvent
  | observe (call : ObserveCall)
  | listen (stream : ℕ)
  | cancel (stream : ℕ)
  deriving DecidableEq

namespace SubscriptionState

def start : SubscriptionState := ⟨∅, [], [], []⟩

def addListener (s : SubscriptionState) (key : ListenerKey) : SubscriptionState :=
  match s.observed.lookup key with
  | some _ => s
  | none =>
      { s with
        observed := s.observed.insert key s.subscriptions.length
        subscriptions := s.subscriptions ++ [⟨key, true⟩] }

def removeListener (s : SubscriptionState) (key : ListenerKey) : SubscriptionState :=
  match s.observed.lookup key with
  | some i =>
      { s with
        observed := s.observed.erase key
        subscriptions := s.subscriptions.modify i (fun sub => { sub with active := false }) }
  | none => s

def setStatus (s : SubscriptionState) (i : ℕ) (status : StreamStatus) : SubscriptionState :=
  { s with streams := s.streams.modify i (fun stream => { stream with status := status }) }

def mark (s : SubscriptionState) (key : ListenerKey) (m : Mark) : SubscriptionState :=
  { s with log := (key, m) :: s.log }

/-- A stream is listened to once, and its `doOnCancel` callback runs once. -/
def step (s : SubscriptionState) : StreamEvent → Option SubscriptionState
  | .observe call =>
      let s := (s.addListener call.key).mark call.key .observed
      some { s with streams := s.streams ++ [⟨call, .returned⟩] }
  | .listen i =>
      match s.streams[i]? with
      | some ⟨_, .returned⟩ => some (s.setStatus i .listening)
      | _ => none
  | .cancel i =>
      match s.streams[i]? with
      | some ⟨call, .listening⟩ =>
          some (((s.setStatus i .cancelled).removeListener call.key).mark call.key .cancelled)
      | _ => none

def lastMark (s : SubscriptionState) (key : ListenerKey) : Option Mark :=
  (s.log.find? (fun m => m.1 = key)).map Prod.snd

def HasSubscription (s : SubscriptionState) (key : ListenerKey) : Prop :=
  ∃ sub ∈ s.subscriptions, sub.key = key ∧ sub.active = true

def IsListening (s : SubscriptionState) (key : ListenerKey) : Prop :=
  ∃ stream ∈ s.streams, stream.call.key = key ∧ stream.status = .listening

/-- Some stream of the key has been returned and all of them have been cancelled. -/
def IsAbandoned (s : SubscriptionState) (key : ListenerKey) : Prop :=
  (∃ stream ∈ s.streams, stream.call.key = key) ∧
    ∀ stream ∈ s.streams, stream.call.key = key → stream.status = .cancelled

/-- A key has a subscription while one of its streams is listened to, and none once all of them
are cancelled. -/
def Lively (s : SubscriptionState) : Prop :=
  ∀ key, (s.IsListening key → s.HasSubscription key) ∧ (s.IsAbandoned key → ¬ s.HasSubscription key)

/-- A stream is cancelled while no other stream of its key is listened to, and is listened to
while no stream of its key was cancelled since the key was last observed. -/
def Unshared (s : SubscriptionState) : StreamEvent → Prop
  | .observe _ => True
  | .listen i => ∀ stream, s.streams[i]? = some stream → stream.status = .returned →
      s.lastMark stream.call.key = some .observed
  | .cancel i => ∀ stream, s.streams[i]? = some stream → stream.status = .listening →
      ∀ j stream', j ≠ i → s.streams[j]? = some stream' → stream'.call.key = stream.call.key →
        stream'.status ≠ .listening

/-- The registered subscriptions are exactly the active ones. -/
structure Registered (s : SubscriptionState) : Prop where
  mapped : ∀ key i, s.observed.lookup key = some i → s.subscriptions[i]? = some ⟨key, true⟩
  owned : ∀ key i, s.subscriptions[i]? = some ⟨key, true⟩ → s.observed.lookup key = some i

structure Inv (s : SubscriptionState) : Prop where
  registered : s.Registered
  marked : ∀ key, (s.observed.lookup key).isSome ↔ s.lastMark key = some .observed
  awaited : ∀ key, s.lastMark key = some .observed →
    ∃ stream ∈ s.streams, stream.call.key = key ∧ stream.status ≠ .cancelled

variable {s s' : SubscriptionState} {key k : ListenerKey}

theorem lastMark_mark (m : Mark) :
    (s.mark key m).lastMark k = if k = key then some m else s.lastMark k := by
  by_cases h : k = key
  · simp [lastMark, mark, h]
  · simp [lastMark, mark, h, Ne.symm h]

theorem Inv.hasSubscription_iff (h : Inv s) :
    s.HasSubscription key ↔ s.lastMark key = some .observed := by
  rw [← h.marked]
  constructor
  · rintro ⟨⟨k, active⟩, hmem, rfl, rfl⟩
    obtain ⟨i, hi⟩ := List.mem_iff_getElem?.mp hmem
    rw [h.registered.owned k i hi]
    rfl
  · intro hsome
    obtain ⟨i, hi⟩ := Option.isSome_iff_exists.mp hsome
    exact ⟨⟨key, true⟩, List.mem_of_getElem? (h.registered.mapped key i hi), rfl, rfl⟩

theorem Registered.congr (h : s.Registered) (ho : s'.observed = s.observed)
    (hsub : s'.subscriptions = s.subscriptions) : s'.Registered := by
  constructor
  · rw [ho, hsub]
    exact h.mapped
  · rw [ho, hsub]
    exact h.owned

theorem Registered.addListener (h : s.Registered) (key : ListenerKey) :
    (s.addListener key).Registered := by
  unfold SubscriptionState.addListener
  cases hk : s.observed.lookup key with
  | some i => exact h
  | none =>
      constructor
      · intro k i hi
        simp only [FiniteMap.lookup_insert_eq_ite] at hi
        split_ifs at hi with hkk
        · cases hi
          rw [hkk]
          exact List.getElem?_concat_length
        · have hsub := h.mapped k i hi
          obtain ⟨hlt, -⟩ := List.getElem?_eq_some_iff.mp hsub
          exact (List.getElem?_append_left hlt).trans hsub
      · intro k i hi
        simp only [FiniteMap.lookup_insert_eq_ite]
        rcases Nat.lt_trichotomy i s.subscriptions.length with hlt | rfl | hgt
        · have hsub := h.owned k i ((List.getElem?_append_left hlt).symm.trans hi)
          have hne : k ≠ key := by
            rintro rfl
            rw [hk] at hsub
            cases hsub
          rw [if_neg hne, hsub]
        · have hkey : key = k := by simpa using hi
          rw [if_pos hkey.symm]
        · have hnone : (s.subscriptions ++ [⟨key, true⟩])[i]? = none := by
            rw [List.getElem?_eq_none_iff, List.length_append, List.length_singleton]
            omega
          rw [hnone] at hi
          cases hi

theorem Registered.removeListener (h : s.Registered) (key : ListenerKey) :
    (s.removeListener key).Registered := by
  unfold SubscriptionState.removeListener
  cases hk : s.observed.lookup key with
  | none => exact h
  | some i₀ =>
      constructor
      · intro k i hi
        simp only [FiniteMap.lookup_erase_eq_ite] at hi
        split_ifs at hi with hkk
        have hsub := h.mapped k i hi
        have hne : i₀ ≠ i := by
          rintro rfl
          have heq := (h.mapped key i₀ hk).symm.trans hsub
          simp only [Option.some.injEq, FirestoreSubscription.mk.injEq] at heq
          exact hkk heq.1.symm
        simp [hne, hsub]
      · intro k i hi
        simp only [FiniteMap.lookup_erase_eq_ite]
        simp only [List.getElem?_modify, Option.map_eq_map, Option.map_eq_some_iff] at hi
        obtain ⟨sub, hsub, heq⟩ := hi
        split_ifs at heq with hii
        · cases heq
        · subst heq
          have hlk := h.owned k i hsub
          have hne : k ≠ key := by
            rintro rfl
            exact hii (Option.some.inj (hk.symm.trans hlk))
          rw [if_neg hne, hlk]

theorem isSome_lookup_addListener :
    ((s.addListener key).observed.lookup k).isSome ↔ k = key ∨ (s.observed.lookup k).isSome := by
  unfold addListener
  cases hk : s.observed.lookup key with
  | some i =>
      constructor
      · exact .inr
      · rintro (rfl | h)
        · rw [hk]
          rfl
        · exact h
  | none =>
      simp only [FiniteMap.lookup_insert_eq_ite]
      split_ifs with h <;> simp [h]

theorem isSome_lookup_removeListener :
    ((s.removeListener key).observed.lookup k).isSome ↔
      k ≠ key ∧ (s.observed.lookup k).isSome := by
  unfold removeListener
  cases hk : s.observed.lookup key with
  | some i =>
      simp only [FiniteMap.lookup_erase_eq_ite]
      split_ifs with h <;> simp [h]
  | none =>
      constructor
      · intro h
        refine ⟨?_, h⟩
        rintro rfl
        rw [hk] at h
        cases h
      · exact And.right

@[simp] theorem streams_addListener : (s.addListener key).streams = s.streams := by
  unfold addListener
  split <;> rfl

@[simp] theorem streams_removeListener : (s.removeListener key).streams = s.streams := by
  unfold removeListener
  split <;> rfl

@[simp] theorem log_addListener : (s.addListener key).log = s.log := by
  unfold addListener
  split <;> rfl

@[simp] theorem log_removeListener : (s.removeListener key).log = s.log := by
  unfold removeListener
  split <;> rfl

theorem getElem?_setStatus (i j : ℕ) (status : StreamStatus) :
    (s.setStatus i status).streams[j]? =
      (s.streams[j]?).map
        (fun stream => if i = j then { stream with status := status } else stream) := by
  rw [setStatus, List.getElem?_modify]
  rfl

theorem step_cases {a : StreamEvent} (h : step s a = some s') :
    (∃ call, a = .observe call ∧ s' =
      { (s.addListener call.key).mark call.key .observed with
        streams := s.streams ++ [⟨call, .returned⟩] }) ∨
    (∃ i call, a = .listen i ∧ s.streams[i]? = some ⟨call, .returned⟩ ∧
      s' = s.setStatus i .listening) ∨
    (∃ i call, a = .cancel i ∧ s.streams[i]? = some ⟨call, .listening⟩ ∧
      s' = ((s.setStatus i .cancelled).removeListener call.key).mark call.key .cancelled) := by
  cases a with
  | observe call =>
      cases h
      refine .inl ⟨call, rfl, ?_⟩
      simp [mark]
  | listen i =>
      simp only [step] at h
      split at h
      · rename_i call hi
        exact .inr (.inl ⟨i, call, rfl, hi, (Option.some.inj h).symm⟩)
      · cases h
  | cancel i =>
      simp only [step] at h
      split at h
      · rename_i call hi
        exact .inr (.inr ⟨i, call, rfl, hi, (Option.some.inj h).symm⟩)
      · cases h

theorem inv_start : Inv start where
  registered := ⟨by simp [start], by simp [start]⟩
  marked _ := by simp [start, lastMark]
  awaited _ h := by simp [start, lastMark] at h

theorem inv_observe (hs : Inv s) (call : ObserveCall) :
    Inv { (s.addListener call.key).mark call.key .observed with
      streams := s.streams ++ [⟨call, .returned⟩] } where
  registered := (hs.registered.addListener call.key).congr rfl rfl
  marked k := by
    change ((s.addListener call.key).observed.lookup k).isSome ↔
      ((s.addListener call.key).mark call.key .observed).lastMark k = _
    rw [isSome_lookup_addListener, lastMark_mark, hs.marked]
    by_cases hk : k = call.key <;> simp [hk, lastMark]
  awaited k hk := by
    have hk : ((s.addListener call.key).mark call.key .observed).lastMark k = some .observed := hk
    by_cases hkey : k = call.key
    · exact ⟨_, List.mem_append_right _ (List.mem_singleton_self _), hkey.symm, by simp⟩
    · rw [lastMark_mark, if_neg hkey] at hk
      have hold : s.lastMark k = some .observed := by simpa [lastMark] using hk
      obtain ⟨stream, hmem, hstream⟩ := hs.awaited k hold
      exact ⟨stream, List.mem_append_left _ hmem, hstream⟩

theorem inv_listen (hs : Inv s) {i : ℕ} : Inv (s.setStatus i .listening) where
  registered := hs.registered.congr rfl rfl
  marked := hs.marked
  awaited k hk := by
    obtain ⟨stream, hmem, hkey, hstatus⟩ := hs.awaited k hk
    obtain ⟨j, hj⟩ := List.mem_iff_getElem?.mp hmem
    refine ⟨if i = j then { stream with status := .listening } else stream,
      List.mem_of_getElem? (i := j) ?_, ?_, ?_⟩
    · rw [getElem?_setStatus, hj]
      rfl
    · split_ifs <;> exact hkey
    · split_ifs
      · simp
      · exact hstatus

theorem inv_cancel (hs : Inv s) {i : ℕ} {call : ObserveCall} {status : StreamStatus}
    (hi : s.streams[i]? = some ⟨call, status⟩) :
    Inv (((s.setStatus i .cancelled).removeListener call.key).mark call.key .cancelled) where
  registered := by
    have hreg : (s.setStatus i .cancelled).Registered := hs.registered.congr rfl rfl
    exact (hreg.removeListener call.key).congr rfl rfl
  marked k := by
    change (((s.setStatus i .cancelled).removeListener call.key).observed.lookup k).isSome ↔ _
    rw [isSome_lookup_removeListener, lastMark_mark]
    by_cases hk : k = call.key
    · simp [hk]
    · have hold := hs.marked k
      simp only [lastMark] at hold
      simpa [hk, lastMark, setStatus] using hold
  awaited k hk := by
    rw [lastMark_mark] at hk
    split_ifs at hk with hkey
    · cases hk
    · have hold : s.lastMark k = some .observed := by simpa [lastMark, setStatus] using hk
      obtain ⟨stream, hmem, hstream, hstatus⟩ := hs.awaited k hold
      obtain ⟨j, hj⟩ := List.mem_iff_getElem?.mp hmem
      have hij : i ≠ j := by
        rintro rfl
        rw [hi] at hj
        cases hj
        exact hkey hstream.symm
      refine ⟨stream, ?_, hstream, hstatus⟩
      simp only [mark, streams_removeListener]
      refine List.mem_of_getElem? (i := j) ?_
      rw [getElem?_setStatus, hj, Option.map_some, if_neg hij]

theorem inv_step (a : StreamEvent) (hs : Inv s) (h : step s a = some s') : Inv s' := by
  obtain ⟨call, -, rfl⟩ | ⟨i, call, -, -, rfl⟩ | ⟨i, call, -, hi, rfl⟩ := step_cases h
  · exact inv_observe hs call
  · exact inv_listen hs
  · exact inv_cancel hs hi

/-- Nothing is left subscribed once all streams are cancelled; what can fail is the other half. -/
theorem Inv.lively_iff (hs : Inv s) :
    Lively s ↔ ∀ key, s.IsListening key → s.lastMark key = some .observed := by
  constructor
  · intro h key hl
    exact hs.hasSubscription_iff.mp ((h key).1 hl)
  · intro h key
    refine ⟨fun hl => hs.hasSubscription_iff.mpr (h key hl), ?_⟩
    rintro ⟨-, hall⟩ hsub
    obtain ⟨stream, hmem, hkey, hstatus⟩ := hs.awaited key (hs.hasSubscription_iff.mp hsub)
    exact hstatus (hall stream hmem hkey)

theorem isListening_iff : s.IsListening key ↔ ∃ (j : ℕ) (stream : ObservedStream),
    s.streams[j]? = some stream ∧ stream.call.key = key ∧ stream.status = .listening := by
  constructor
  · rintro ⟨stream, hmem, h⟩
    obtain ⟨j, hj⟩ := List.mem_iff_getElem?.mp hmem
    exact ⟨j, stream, hj, h⟩
  · rintro ⟨j, stream, hj, h⟩
    exact ⟨stream, List.mem_of_getElem? hj, h⟩

/-- The streams listened to after `setStatus i status` are the other ones, and `i` itself if that
is its new status. -/
theorem isListening_setStatus {i : ℕ} {call : ObserveCall} {old status : StreamStatus}
    (hi : s.streams[i]? = some ⟨call, old⟩) :
    (s.setStatus i status).IsListening key ↔ (call.key = key ∧ status = .listening) ∨
      ∃ j stream, j ≠ i ∧ s.streams[j]? = some stream ∧ stream.call.key = key ∧
        stream.status = .listening := by
  rw [isListening_iff]
  constructor
  · rintro ⟨j, stream, hj, hkey, hstatus⟩
    rw [getElem?_setStatus, Option.map_eq_some_iff] at hj
    obtain ⟨stream₀, hj₀, rfl⟩ := hj
    by_cases hij : i = j
    · subst hij
      rw [hi] at hj₀
      cases hj₀
      rw [if_pos rfl] at hkey hstatus
      exact .inl ⟨hkey, hstatus⟩
    · rw [if_neg hij] at hkey hstatus
      exact .inr ⟨j, stream₀, Ne.symm hij, hj₀, hkey, hstatus⟩
  · rintro (⟨hkey, hstatus⟩ | ⟨j, stream, hij, hj, hkey, hstatus⟩)
    · refine ⟨i, ⟨call, status⟩, ?_, hkey, hstatus⟩
      rw [getElem?_setStatus, hi, Option.map_some, if_pos rfl]
    · refine ⟨j, stream, ?_, hkey, hstatus⟩
      rw [getElem?_setStatus, hj, Option.map_some, if_neg (Ne.symm hij)]

theorem lively_listen_iff (hs : Inv s) (hl : Lively s) {i : ℕ} {call : ObserveCall}
    (hi : s.streams[i]? = some ⟨call, .returned⟩) :
    Lively (s.setStatus i .listening) ↔ Unshared s (.listen i) := by
  rw [(inv_listen hs).lively_iff]
  constructor
  · rintro h stream hstream -
    rw [hi] at hstream
    cases hstream
    exact h _ ((isListening_setStatus hi).mpr (.inl ⟨rfl, rfl⟩))
  · intro h key hlisten
    rcases (isListening_setStatus hi).mp hlisten with ⟨rfl, -⟩ | ⟨j, stream, -, hj, hkey, hstatus⟩
    · exact h _ hi rfl
    · exact hs.lively_iff.mp hl key (isListening_iff.mpr ⟨j, stream, hj, hkey, hstatus⟩)

theorem lively_cancel_iff (hs : Inv s) (hl : Lively s) {i : ℕ} {call : ObserveCall}
    (hi : s.streams[i]? = some ⟨call, .listening⟩) :
    Lively (((s.setStatus i .cancelled).removeListener call.key).mark call.key .cancelled) ↔
      Unshared s (.cancel i) := by
  have hlisten : ∀ key,
      (((s.setStatus i .cancelled).removeListener call.key).mark call.key .cancelled).IsListening
        key ↔ (s.setStatus i .cancelled).IsListening key := by
    intro key
    simp only [IsListening, mark, streams_removeListener]
  rw [(inv_cancel hs hi).lively_iff]
  constructor
  · rintro h stream hstream - j stream' hji hj hkey hstatus
    rw [hi] at hstream
    cases hstream
    have hmark := h call.key ((hlisten _).mpr ((isListening_setStatus hi).mpr
      (.inr ⟨j, stream', hji, hj, hkey, hstatus⟩)))
    rw [lastMark_mark, if_pos rfl] at hmark
    cases hmark
  · intro h key hkey
    rcases (isListening_setStatus hi).mp ((hlisten key).mp hkey) with
      ⟨-, hstatus⟩ | ⟨j, stream, hji, hj, hk, hstatus⟩
    · cases hstatus
    · have hne : key ≠ call.key := by
        rintro rfl
        exact h _ hi rfl j stream hji hj hk hstatus
      have hold := hs.lively_iff.mp hl key (isListening_iff.mpr ⟨j, stream, hj, hk, hstatus⟩)
      rw [lastMark_mark, if_neg hne]
      simpa [lastMark, setStatus] using hold

theorem lively_observe (hs : Inv s) (hl : Lively s) (call : ObserveCall) :
    Lively { (s.addListener call.key).mark call.key .observed with
      streams := s.streams ++ [⟨call, .returned⟩] } := by
  rw [(inv_observe hs call).lively_iff]
  rintro key ⟨stream, hmem, hkey, hstatus⟩
  rcases List.mem_append.mp hmem with hmem | hmem
  · have hold := hs.lively_iff.mp hl key ⟨stream, hmem, hkey, hstatus⟩
    change ((s.addListener call.key).mark call.key .observed).lastMark key = _
    rw [lastMark_mark]
    split_ifs
    · rfl
    · simpa [lastMark] using hold
  · rw [List.mem_singleton.mp hmem] at hstatus
    cases hstatus

theorem lively_step_iff (a : StreamEvent) (hs : Inv s) (hl : Lively s) (h : step s a = some s') :
    Lively s' ↔ Unshared s a := by
  obtain ⟨call, rfl, rfl⟩ | ⟨i, call, rfl, hi, rfl⟩ | ⟨i, call, rfl, hi, rfl⟩ := step_cases h
  · exact ⟨fun _ => trivial, fun _ => lively_observe hs hl call⟩
  · exact lively_listen_iff hs hl hi
  · exact lively_cancel_iff hs hl hi

theorem unshared_of_disabled {a : StreamEvent} (h : step s a = none) : Unshared s a := by
  cases a with
  | observe call => trivial
  | listen i =>
      rintro ⟨call, status⟩ hi rfl
      simp [step, hi] at h
  | cancel i =>
      rintro ⟨call, status⟩ hi rfl
      simp [step, hi] at h

theorem lively_start : Lively start :=
  inv_start.lively_iff.mpr (fun _ ⟨_, hmem, _⟩ => absurd hmem List.not_mem_nil)

/-- Subscriptions live as long as they are needed exactly in the runs that never cancel a stream
whose key another stream is listened to, nor listen to a stream whose key was cancelled in the
meantime. -/
theorem lively_iff_unshared (events : List StreamEvent) :
    Execution.Always step Lively start events ↔ Execution.StepsMeet step Unshared start events :=
  Execution.always_iff_stepsMeet (fun _ a _ hs h => inv_step a hs h)
    (fun _ _ h => unshared_of_disabled h) (fun _ a _ hs hl h => lively_step_iff a hs hl h) events
    lively_start inv_start

def twoPostingScreens : List StreamEvent :=
  [.observe (.observePostings "h1"), .listen 0, .observe (.observePostings "h1"), .listen 1,
    .cancel 0]

theorem second_screen_loses_subscription :
    ¬ Execution.Always step Lively start twoPostingScreens := by
  intro h
  have hrun : (Execution.run step start twoPostingScreens).map
      (fun s => (s.subscriptions, s.streams)) =
      some ([⟨(ObserveCall.observePostings "h1").key, false⟩],
        [⟨.observePostings "h1", .cancelled⟩, ⟨.observePostings "h1", .listening⟩]) := rfl
  obtain ⟨s, hs, heq⟩ := Option.map_eq_some_iff.mp hrun
  simp only [Prod.mk.injEq] at heq
  obtain ⟨hsub, hstreams⟩ := heq
  have hlisten : s.IsListening (ObserveCall.observePostings "h1").key :=
    ⟨⟨.observePostings "h1", .listening⟩, by simp [hstreams], rfl, rfl⟩
  obtain ⟨sub, hmem, -, hactive⟩ := (h.final hs _).1 hlisten
  rw [hsub, List.mem_singleton] at hmem
  rw [hmem] at hactive
  cases hactive

end SubscriptionState

end AirBnbClone
