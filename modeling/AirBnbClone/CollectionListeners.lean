import AirBnbClone.DocChanges
import AirBnbClone.Execution
import AirBnbClone.RepositoryQueries

/-!
# Listeners that share one collection

Every remote write sends each active listener the new result set of its query; a listener handles
its snapshots in the order in which they were sent and the listeners are scheduled in any order.
A snapshot that drops a document deletes the document's row, whoever else still shows it.
-/

namespace AirBnbClone

open FirestoreMapper RealmService FireStoreService QuerySnapshot

/-- The last result set a listener has handled and those it has yet to handle. -/
structure Listener where
  shown : DartMap Doc
  pending : List (DartMap Doc)

structure ListenerState where
  docs : DartMap Doc
  listeners : FiniteMap.Map Query Listener
  realm : Realm

inductive ListenerAction
  | observe (q : Query)
  | set (id : String) (data : Doc)
  | delete (id : String)
  | deliver (q : Query)

namespace ListenerState

def publish (s : ListenerState) (docs : DartMap Doc) : ListenerState where
  docs := docs
  listeners := FiniteMap.mapValues
    (fun q l => ⟨l.shown, l.pending ++ [q.results docs]⟩) s.listeners
  realm := s.realm

variable (z : Zone) (T : Model)

/-- `observe` starts a listener unless the query has one; `deliver` handles one snapshot. -/
def step (s : ListenerState) : ListenerAction → Option ListenerState
  | .observe q =>
      match s.listeners.lookup q with
      | some _ => some s
      | none => some { s with listeners := s.listeners.insert q ⟨∅, [q.results s.docs]⟩ }
  | .set id data => some (s.publish (s.docs.insert id data))
  | .delete id => some (s.publish (s.docs.erase id))
  | .deliver q =>
      match s.listeners.lookup q with
      | some ⟨shown, snapshot :: pending⟩ =>
          some { s with
            listeners := s.listeners.insert q ⟨snapshot, pending⟩
            realm := onDocChanges z T (docChanges shown snapshot) s.realm }
      | _ => none

end ListenerState

namespace Listener

/-- A snapshot yet to be handled reports the document as added or modified. -/
def WillWrite (l : Listener) (id : String) : Prop :=
  ¬ (l.shown :: l.pending).IsChain (fun s s' => ¬ Writes s s' id)

/-- A snapshot yet to be handled reports the document at all. -/
def WillChange (l : Listener) (id : String) : Prop :=
  ¬ (l.shown :: l.pending).IsChain (fun s s' => ¬ (Writes s s' id ∨ Removes s s' id))

instance (l : Listener) (id : String) : Decidable (l.WillWrite id) :=
  inferInstanceAs (Decidable (¬ _))

instance (l : Listener) (id : String) : Decidable (l.WillChange id) :=
  inferInstanceAs (Decidable (¬ _))

def latest (l : Listener) : DartMap Doc := l.pending.getLastD l.shown

variable {l : Listener} {id : String}

theorem WillWrite.append (h : l.WillWrite id) (snapshot : DartMap Doc) :
    WillWrite ⟨l.shown, l.pending ++ [snapshot]⟩ id := by
  intro hchain
  exact h (List.IsChain.left_of_append hchain)

theorem WillChange.append (h : l.WillChange id) (snapshot : DartMap Doc) :
    WillChange ⟨l.shown, l.pending ++ [snapshot]⟩ id := by
  intro hchain
  exact h (List.IsChain.left_of_append hchain)

theorem WillWrite.tail {shown snapshot : DartMap Doc} {pending : List (DartMap Doc)}
    (h : WillWrite ⟨shown, snapshot :: pending⟩ id) (hne : ¬ Writes shown snapshot id) :
    WillWrite ⟨snapshot, pending⟩ id := by
  intro hchain
  exact h (List.isChain_cons_cons.mpr ⟨hne, hchain⟩)

theorem WillChange.tail {shown snapshot : DartMap Doc} {pending : List (DartMap Doc)}
    (h : WillChange ⟨shown, snapshot :: pending⟩ id) (hw : ¬ Writes shown snapshot id)
    (hr : ¬ Removes shown snapshot id) : WillChange ⟨snapshot, pending⟩ id := by
  intro hchain
  exact h (List.isChain_cons_cons.mpr ⟨fun hc => hc.elim hw hr, hchain⟩)

theorem not_willWrite_of_settled (h : l.pending = []) : ¬ l.WillWrite id := by
  intro hw
  exact hw (by rw [h]; exact List.isChain_singleton _)

theorem not_willChange_of_settled (h : l.pending = []) : ¬ l.WillChange id := by
  intro hw
  exact hw (by rw [h]; exact List.isChain_singleton _)

end Listener

namespace ListenerState

variable (z : Zone) (T : Model)

def Settled (s : ListenerState) : Prop := ∀ p ∈ s.listeners.entries, p.2.pending = []

instance (s : ListenerState) : Decidable s.Settled :=
  inferInstanceAs (Decidable (∀ p ∈ s.listeners.entries, _))

/-- Once settled, the store holds every document that some listener's query selects. -/
def Complete (s : ListenerState) : Prop :=
  s.Settled → ∀ p ∈ s.listeners.entries, ∀ id d, (p.1.results s.docs).lookup id = some d →
    ∃ x, fromMap z T d = .ok x ∧ getEntity s.realm T id = some x

/-- The documents that `snapshot` drops from listener `q` are shown by no other listener, unless
a snapshot yet to be handled reports them again. -/
def DropsOnlyItsOwn (s : ListenerState) (q : Query) (shown snapshot : DartMap Doc) : Prop :=
  ∀ id ∈ shown.keys, Removes shown snapshot id → ∀ p ∈ s.listeners.entries, p.1 ≠ q →
    id ∈ p.2.shown → p.2.WillChange id ∨ ∃ n ∈ s.listeners.entries, n.2.WillWrite id

/-- What a step must satisfy: a written document decodes under its own id, and a snapshot only
drops documents that no other listener depends on. -/
def Considerate (s : ListenerState) : ListenerAction → Prop
  | .observe _ => True
  | .set id data => DecodesAs z T id data
  | .delete _ => True
  | .deliver q => ∀ l ∈ s.listeners.lookup q, ∀ snapshot ∈ l.pending.head?,
      s.DropsOnlyItsOwn q l.shown snapshot

instance (s : ListenerState) (q : Query) (shown snapshot : DartMap Doc) :
    Decidable (s.DropsOnlyItsOwn q shown snapshot) :=
  inferInstanceAs (Decidable (∀ id ∈ shown.keys, _))

instance (s : ListenerState) (a : ListenerAction) : Decidable (Considerate z T s a) :=
  match a with
  | .observe _ => .isTrue trivial
  | .set id data => inferInstanceAs (Decidable (DecodesAs z T id data))
  | .delete _ => .isTrue trivial
  | .deliver q => inferInstanceAs (Decidable (∀ l ∈ s.listeners.lookup q,
      ∀ snapshot ∈ l.pending.head?, s.DropsOnlyItsOwn q l.shown snapshot))

def start (realm : Realm) : ListenerState := ⟨∅, ∅, realm⟩

/-- The row of a document is the one some listener shows. -/
def Held (s : ListenerState) (id : String) : Prop :=
  ∃ p ∈ s.listeners.entries, ∃ d x, p.2.shown.lookup id = some d ∧ fromMap z T d = .ok x ∧
    getEntity s.realm T id = some x

structure Inv (s : ListenerState) : Prop where
  docs_decode : ∀ e ∈ s.docs.entries, DecodesAs z T e.1 e.2
  pending_decode : ∀ p ∈ s.listeners.entries, ∀ snapshot ∈ p.2.pending, ∀ e ∈ snapshot.entries,
    DecodesAs z T e.1 e.2
  latest : ∀ p ∈ s.listeners.entries, p.2.latest = p.1.results s.docs
  held : ∀ p ∈ s.listeners.entries, ∀ id, id ∈ p.2.shown →
    Held z T s id ∨ p.2.WillChange id ∨ ∃ n ∈ s.listeners.entries, n.2.WillWrite id

variable {z : Zone} {T : Model} {s s' : ListenerState}

theorem results_decode {docs : DartMap Doc} (h : ∀ e ∈ docs.entries, DecodesAs z T e.1 e.2)
    (q : Query) : ∀ e ∈ (q.results docs).entries, DecodesAs z T e.1 e.2 := by
  intro e he
  exact h e (AList.mem_lookup_iff.mp (Query.mem_of_lookup_results (AList.mem_lookup_iff.mpr he)).1)

theorem inv_start (realm : Realm) : Inv z T (start realm) where
  docs_decode _ he := absurd he List.not_mem_nil
  pending_decode _ hp := absurd hp List.not_mem_nil
  latest _ hp := absurd hp List.not_mem_nil
  held _ hp := absurd hp List.not_mem_nil

theorem inv_publish (hs : Inv z T s) {docs : DartMap Doc}
    (hdocs : ∀ e ∈ docs.entries, DecodesAs z T e.1 e.2) : Inv z T (s.publish docs) where
  docs_decode := hdocs
  pending_decode p hmem snapshot hsnap := by
    obtain ⟨p, hp, rfl⟩ := List.mem_map.mp hmem
    rcases List.mem_append.mp hsnap with hsnap | hsnap
    · exact hs.pending_decode p hp snapshot hsnap
    · rw [List.mem_singleton.mp hsnap]
      exact results_decode hdocs p.1
  latest p hmem := by
    obtain ⟨p, hp, rfl⟩ := List.mem_map.mp hmem
    simp only [Listener.latest, List.getLastD_concat]
    rfl
  held p hmem id hid := by
    obtain ⟨p, hp, rfl⟩ := List.mem_map.mp hmem
    rcases hs.held p hp id hid with ⟨m, hm, hheld⟩ | hc | ⟨n, hn, hw⟩
    · exact .inl ⟨_, List.mem_map.mpr ⟨m, hm, rfl⟩, hheld⟩
    · exact .inr (.inl (hc.append _))
    · exact .inr (.inr ⟨_, List.mem_map.mpr ⟨n, hn, rfl⟩, hw.append _⟩)

theorem inv_observe (hs : Inv z T s) {q : Query} (hq : s.listeners.lookup q = none) :
    Inv z T { s with listeners := s.listeners.insert q ⟨∅, [q.results s.docs]⟩ } := by
  have hmem : ∀ p ∈ s.listeners.entries,
      p ∈ (s.listeners.insert q ⟨∅, [q.results s.docs]⟩).entries := by
    intro p hp
    refine FiniteMap.mem_entries_insert.mpr (.inr ⟨?_, hp⟩)
    rintro rfl
    exact AList.lookup_eq_none.mp hq (AList.mem_keys.mpr (List.mem_map.mpr ⟨p, hp, rfl⟩))
  refine ⟨hs.docs_decode, ?_, ?_, ?_⟩
  · intro p hp snapshot hsnap
    rcases FiniteMap.mem_entries_insert.mp hp with rfl | ⟨-, hp⟩
    · rw [List.mem_singleton.mp hsnap]
      exact results_decode hs.docs_decode q
    · exact hs.pending_decode p hp snapshot hsnap
  · intro p hp
    rcases FiniteMap.mem_entries_insert.mp hp with rfl | ⟨-, hp⟩
    · rfl
    · exact hs.latest p hp
  · intro p hp id hid
    rcases FiniteMap.mem_entries_insert.mp hp with rfl | ⟨-, hp⟩
    · exact absurd hid (AList.notMem_empty id)
    · rcases hs.held p hp id hid with ⟨m, hm, hheld⟩ | hc | ⟨n, hn, hw⟩
      · exact .inl ⟨m, hmem m hm, hheld⟩
      · exact .inr (.inl hc)
      · exact .inr (.inr ⟨n, hmem n hn, hw⟩)

section Deliver

variable {q : Query} {shown snapshot : DartMap Doc} {pending : List (DartMap Doc)}

def delivered (z : Zone) (T : Model) (s : ListenerState) (q : Query)
    (shown snapshot : DartMap Doc) (pending : List (DartMap Doc)) : ListenerState :=
  { s with
    listeners := s.listeners.insert q ⟨snapshot, pending⟩
    realm := onDocChanges z T (docChanges shown snapshot) s.realm }

theorem mem_delivered_of_ne {p : Sigma fun _ : Query => Listener} (hp : p ∈ s.listeners.entries)
    (hne : p.1 ≠ q) : p ∈ (delivered z T s q shown snapshot pending).listeners.entries :=
  FiniteMap.mem_entries_insert.mpr (.inr ⟨hne, hp⟩)

theorem mem_delivered_self :
    ⟨q, ⟨snapshot, pending⟩⟩ ∈ (delivered z T s q shown snapshot pending).listeners.entries :=
  FiniteMap.mem_entries_insert.mpr (.inl rfl)

theorem eq_of_mem_of_lookup {p : Sigma fun _ : Query => Listener}
    (hp : p ∈ s.listeners.entries) {l : Listener} (hl : s.listeners.lookup p.1 = some l) :
    p.2 = l :=
  Option.some.inj ((AList.mem_lookup_iff.mpr hp).symm.trans hl)

/-- A write the state was waiting for is still to come unless this snapshot performs it. -/
theorem willWrite_delivered (hq : s.listeners.lookup q = some ⟨shown, snapshot :: pending⟩)
    {id : String} (hne : ¬ Writes shown snapshot id)
    (h : ∃ n ∈ s.listeners.entries, n.2.WillWrite id) :
    ∃ n ∈ (delivered z T s q shown snapshot pending).listeners.entries, n.2.WillWrite id := by
  obtain ⟨n, hn, hw⟩ := h
  by_cases hnq : n.1 = q
  · refine ⟨_, mem_delivered_self, ?_⟩
    rw [eq_of_mem_of_lookup hn (hnq ▸ hq)] at hw
    exact hw.tail hne
  · exact ⟨n, mem_delivered_of_ne hn hnq, hw⟩

/-- A row that this snapshot does not report stays the one some listener shows. -/
theorem held_delivered (hq : s.listeners.lookup q = some ⟨shown, snapshot :: pending⟩)
    (hdec : ∀ e ∈ snapshot.entries, DecodesAs z T e.1 e.2) {id : String}
    (hw : ¬ Writes shown snapshot id) (hr : ¬ Removes shown snapshot id) (h : Held z T s id) :
    Held z T (delivered z T s q shown snapshot pending) id := by
  obtain ⟨p, hp, d, x, hd, hx, hrow⟩ := h
  have hrow' : getEntity (delivered z T s q shown snapshot pending).realm T id = some x := by
    simp only [delivered]
    rw [getEntity_onDocChanges_of_not_writes hdec _ hw, if_neg hr, hrow]
  by_cases hpq : p.1 = q
  · rw [eq_of_mem_of_lookup hp (hpq ▸ hq)] at hd
    have hd : shown.lookup id = some d := hd
    cases hd' : snapshot.lookup id with
    | none =>
        refine absurd ?_ hr
        rw [Removes, hd, hd']
        exact ⟨rfl, rfl⟩
    | some d' =>
        obtain ⟨d₀, hd₀, hsame⟩ := exists_sameFields hd' hw
        have hdd : d₀ = d := Option.some.inj (hd₀.symm.trans hd)
        subst hdd
        exact ⟨_, mem_delivered_self, d', x, hd', (fromMap_of_sameFields hsame).symm.trans hx,
          hrow'⟩
  · exact ⟨p, mem_delivered_of_ne hp hpq, d, x, hd, hx, hrow'⟩

theorem held_of_writes (hdec : ∀ e ∈ snapshot.entries, DecodesAs z T e.1 e.2) {id : String}
    (hw : Writes shown snapshot id) :
    Held z T (delivered z T s q shown snapshot pending) id := by
  obtain ⟨⟨k, d⟩, he, rfl, hsome⟩ := hw
  have hd : snapshot.lookup k = some d := AList.mem_lookup_iff.mpr he
  obtain ⟨x, hx, -⟩ := (hdec ⟨k, d⟩ he).exists_ok
  refine ⟨_, mem_delivered_self, d, x, hd, hx, ?_⟩
  simp only [delivered]
  rw [getEntity_onDocChanges_of_writes hdec _ hd ⟨⟨k, d⟩, he, rfl, hsome⟩, hx]
  rfl

theorem inv_deliver (hs : Inv z T s)
    (hq : s.listeners.lookup q = some ⟨shown, snapshot :: pending⟩)
    (hc : Considerate z T s (.deliver q)) :
    Inv z T (delivered z T s q shown snapshot pending) := by
  have hqmem : ⟨q, ⟨shown, snapshot :: pending⟩⟩ ∈ s.listeners.entries :=
    AList.mem_lookup_iff.mp hq
  have hdec := hs.pending_decode _ hqmem snapshot List.mem_cons_self
  have hc : s.DropsOnlyItsOwn q shown snapshot := hc _ hq snapshot rfl
  refine ⟨hs.docs_decode, ?_, ?_, ?_⟩
  · intro p hp snapshot' hsnap
    rcases FiniteMap.mem_entries_insert.mp hp with rfl | ⟨-, hp⟩
    · exact hs.pending_decode _ hqmem snapshot' (List.mem_cons_of_mem _ hsnap)
    · exact hs.pending_decode p hp snapshot' hsnap
  · intro p hp
    rcases FiniteMap.mem_entries_insert.mp hp with rfl | ⟨-, hp⟩
    · have hlatest := hs.latest _ hqmem
      rw [Listener.latest, List.getLastD_cons] at hlatest
      exact hlatest
    · exact hs.latest p hp
  · intro p hp id hid
    by_cases hw : Writes shown snapshot id
    · exact .inl (held_of_writes hdec hw)
    rcases FiniteMap.mem_entries_insert.mp hp with rfl | ⟨hpq, hp⟩
    · -- the listener itself: the document stayed in its result with the same fields
      obtain ⟨d, hd⟩ := Option.isSome_iff_exists.mp (AList.lookup_isSome.mpr hid)
      obtain ⟨d₀, hd₀, -⟩ := exists_sameFields hd hw
      have hr : ¬ Removes shown snapshot id := by
        rintro ⟨-, hnone⟩
        rw [hd] at hnone
        cases hnone
      have hid₀ : id ∈ shown := FiniteMap.mem_of_lookup_eq_some hd₀
      rcases hs.held _ hqmem id hid₀ with hheld | hch | hwr
      · exact .inl (held_delivered hq hdec hw hr hheld)
      · exact .inr (.inl (hch.tail hw hr))
      · exact .inr (.inr (willWrite_delivered hq hw hwr))
    · by_cases hr : Removes shown snapshot id
      · have hkey : id ∈ shown.keys := AList.mem_keys.mp (AList.lookup_isSome.mp hr.1)
        rcases hc id hkey hr p hp hpq hid with hch | hwr
        · exact .inr (.inl hch)
        · exact .inr (.inr (willWrite_delivered hq hw hwr))
      · rcases hs.held p hp id hid with hheld | hch | hwr
        · exact .inl (held_delivered hq hdec hw hr hheld)
        · exact .inr (.inl hch)
        · exact .inr (.inr (willWrite_delivered hq hw hwr))

end Deliver

theorem inv_step (a : ListenerAction) (hs : Inv z T s) (hc : Considerate z T s a)
    (h : step z T s a = some s') : Inv z T s' := by
  cases a with
  | observe q =>
      simp only [step] at h
      cases hq : s.listeners.lookup q with
      | some l =>
          rw [hq] at h
          cases h
          exact hs
      | none =>
          rw [hq] at h
          cases h
          exact inv_observe hs hq
  | set id data =>
      cases h
      apply inv_publish hs
      intro e he
      rcases FiniteMap.mem_entries_insert.mp he with rfl | ⟨-, he⟩
      · exact hc
      · exact hs.docs_decode e he
  | delete id =>
      cases h
      exact inv_publish hs (fun e he => hs.docs_decode e (FiniteMap.mem_entries_of_erase he))
  | deliver q =>
      simp only [step] at h
      split at h
      · rename_i shown snapshot pending hq
        cases h
        exact inv_deliver hs hq hc
      · cases h

theorem Inv.complete (hs : Inv z T s) : Complete z T s := by
  intro hsettled p hp id d hd
  have hshown : ∀ m ∈ s.listeners.entries, m.2.shown = m.1.results s.docs := by
    intro m hm
    have hlatest := hs.latest m hm
    rwa [Listener.latest, hsettled m hm, List.getLastD_nil] at hlatest
  have hid : id ∈ p.2.shown := by
    rw [hshown p hp]
    exact FiniteMap.mem_of_lookup_eq_some hd
  rcases hs.held p hp id hid with ⟨m, hm, d', x, hd', hx, hrow⟩ | hch | ⟨n, hn, hwr⟩
  · rw [hshown m hm] at hd'
    have hdd : d' = d := Option.some.inj ((Query.mem_of_lookup_results hd').1.symm.trans
      (Query.mem_of_lookup_results hd).1)
    subst hdd
    exact ⟨x, hx, hrow⟩
  · exact absurd hch (Listener.not_willChange_of_settled (hsettled p hp))
  · exact absurd hwr (Listener.not_willWrite_of_settled (hsettled n hn))

/-- No document is lost in a run in which no listener drops a document that another still shows,
unless a later snapshot reports the document again. -/
theorem complete_of_considerate (z : Zone) (T : Model) (realm : Realm)
    (actions : List ListenerAction)
    (h : Execution.StepsMeet (step z T) (Considerate z T) (start realm) actions) :
    Execution.Always (step z T) (Complete z T) (start realm) actions :=
  (Execution.always_of_stepsMeet (fun _ a _ hs hc hstep => inv_step a hs hc hstep)
    (inv_start realm) h).mono (fun _ hs => hs.complete)

section Reviews

def review (id : String) (createdAt : ℤ) : Doc :=
  DartMap.ofList [("id", .string id), ("target_type", .string "posting"),
    ("target_id", .string "p1"), ("created_at", .int createdAt)]

def newestReviews : Query := (ReviewRepository.reviewsForTargetQuery "posting" "p1" (some 3)).build

def allReviews : Query := (ReviewRepository.reviewsForTargetQuery "posting" "p1" none).build

/-- Three reviews are shown on both screens when a fourth arrives. -/
def fourthReview : List ListenerAction :=
  [.set "r1" (review "r1" 1), .set "r2" (review "r2" 2), .set "r3" (review "r3" 3),
    .observe newestReviews, .observe allReviews, .deliver newestReviews, .deliver allReviews,
    .set "r4" (review "r4" 4), .deliver allReviews, .deliver newestReviews]

theorem fourth_review_deletes_the_first :
    ¬ Execution.Always (step Zone.utc .review) (Complete Zone.utc .review) (start Realm.empty)
      fourthReview := by
  intro h
  have hrun : (Execution.run (step Zone.utc .review) (start Realm.empty) fourthReview).map
      (fun s => (decide s.Settled, s.listeners.keys, (allReviews.results s.docs).lookup "r1",
        getEntity s.realm .review "r1")) =
      some (true, [newestReviews, allReviews], some (review "r1" 1), none) := rfl
  obtain ⟨s, hs, heq⟩ := Option.map_eq_some_iff.mp hrun
  simp only [Prod.mk.injEq, decide_eq_true_eq] at heq
  obtain ⟨hsettled, hkeys, hresult, hrow⟩ := heq
  have hmem : allReviews ∈ s.listeners.keys := by
    rw [hkeys]
    exact List.mem_cons_of_mem _ List.mem_cons_self
  obtain ⟨p, hp, hpq⟩ := List.mem_map.mp hmem
  obtain ⟨x, -, hx⟩ := h.final hs hsettled p hp "r1" (review "r1" 1) (by rw [hpq, hresult])
  rw [hrow] at hx
  cases hx

/-- A review that is deleted remotely is dropped by one listener while the other still shows it;
the other has yet to hear of the deletion. -/
def deletedReview : List ListenerAction :=
  [.set "r1" (review "r1" 1), .set "r2" (review "r2" 2), .observe newestReviews,
    .observe allReviews, .deliver newestReviews, .deliver allReviews, .delete "r1",
    .deliver allReviews, .deliver newestReviews]

theorem complete_of_considerate_deletedReview :
    Execution.StepsMeet (step Zone.utc .review) (Considerate Zone.utc .review) (start Realm.empty)
        deletedReview ∧
      Execution.Always (step Zone.utc .review) (Complete Zone.utc .review) (start Realm.empty)
        deletedReview := by
  have h : Execution.StepsMeet (step Zone.utc .review) (Considerate Zone.utc .review)
      (start Realm.empty) deletedReview := by decide +kernel
  exact ⟨h, complete_of_considerate Zone.utc .review Realm.empty deletedReview h⟩

end Reviews

end ListenerState

end AirBnbClone
