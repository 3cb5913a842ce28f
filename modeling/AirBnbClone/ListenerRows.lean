import AirBnbClone.CollectionListeners

/-!
# No row outlives its document

The listeners of a collection write and delete the same rows, each by its own snapshots, which come
at any time. Whatever they do to each other's rows, none is left over: once all snapshots have been
handled, a row that was not there at first is what a current document decodes to, and the query of
some listener selects it.
-/

namespace AirBnbClone

open FirestoreMapper FireStoreService QuerySnapshot RealmService

namespace ListenerState

variable (z : Zone) (T : Model)

/-- A written document decodes under its own id. -/
def WellTyped (_ : ListenerState) : ListenerAction → Prop
  | .set id data => DecodesAs z T id data
  | _ => True

instance (s : ListenerState) (a : ListenerAction) : Decidable (WellTyped z T s a) :=
  match a with
  | .set id data => inferInstanceAs (Decidable (DecodesAs z T id data))
  | .observe _ => .isTrue trivial
  | .delete _ => .isTrue trivial
  | .deliver _ => .isTrue trivial

/-- The snapshots to be handled decode, and the last of them is the result of the query. -/
structure Fed (s : ListenerState) : Prop where
  docs_decode : ∀ e ∈ s.docs.entries, DecodesAs z T e.1 e.2
  pending_decode : ∀ p ∈ s.listeners.entries, ∀ snapshot ∈ p.2.pending, ∀ e ∈ snapshot.entries,
    DecodesAs z T e.1 e.2
  latest : ∀ p ∈ s.listeners.entries, p.2.latest = p.1.results s.docs

/-- Apart from some ids, a row is one that a listener shows, or will be written once more. -/
def RowsShown (stale : Set String) (s : ListenerState) : Prop :=
  ∀ id ∉ stale, (getEntity s.realm T id).isSome →
    Held z T s id ∨ ∃ n ∈ s.listeners.entries, n.2.WillWrite id

def Selected (s : ListenerState) (id : String) (x : Entity T) : Prop :=
  ∃ p ∈ s.listeners.entries, ∃ d, (p.1.results s.docs).lookup id = some d ∧ fromMap z T d = .ok x

variable {z : Zone} {T : Model} {s s' : ListenerState} {stale : Set String} {id : String}

section Step

theorem fed_publish (hs : Fed z T s) {docs : DartMap Doc}
    (hdocs : ∀ e ∈ docs.entries, DecodesAs z T e.1 e.2) : Fed z T (s.publish docs) where
  docs_decode := hdocs
  pending_decode p hmem snapshot hsnap := by
    obtain ⟨p, hp, rfl⟩ := List.mem_map.mp hmem
    rcases List.mem_append.mp hsnap with hsnap | hsnap
    · exact hs.pending_decode p hp snapshot hsnap
    · rw [List.mem_singleton.mp hsnap]
      exact results_decode hdocs p.1
  latest p hmem := by
    obtain ⟨p, hp, rfl⟩ := List.mem_map.mp hmem
    simp only [Listener.latest, List.getLastD_concat]
    rfl

theorem rowsShown_publish (hs : RowsShown z T stale s) (docs : DartMap Doc) :
    RowsShown z T stale (s.publish docs) := by
  intro id hid hrow
  rcases hs id hid hrow with ⟨m, hm, hheld⟩ | ⟨n, hn, hw⟩
  · exact .inl ⟨_, List.mem_map.mpr ⟨m, hm, rfl⟩, hheld⟩
  · exact .inr ⟨_, List.mem_map.mpr ⟨n, hn, rfl⟩, hw.append _⟩

/-- A new listener awaits the result of its query; the others stay as they are. -/
theorem mem_observed {q : Query} (hq : s.listeners.lookup q = none)
    {p : Sigma fun _ : Query => Listener} (hp : p ∈ s.listeners.entries) :
    p ∈ (s.listeners.insert q ⟨∅, [q.results s.docs]⟩).entries := by
  refine FiniteMap.mem_entries_insert.mpr (.inr ⟨?_, hp⟩)
  rintro rfl
  exact AList.lookup_eq_none.mp hq (AList.mem_keys.mpr (List.mem_map.mpr ⟨p, hp, rfl⟩))

theorem fed_observe (hs : Fed z T s) (q : Query) :
    Fed z T { s with listeners := s.listeners.insert q ⟨∅, [q.results s.docs]⟩ } := by
  refine ⟨hs.docs_decode, ?_, ?_⟩
  · intro p hp snapshot hsnap
    rcases FiniteMap.mem_entries_insert.mp hp with rfl | ⟨-, hp⟩
    · rw [List.mem_singleton.mp hsnap]
      exact results_decode hs.docs_decode q
    · exact hs.pending_decode p hp snapshot hsnap
  · intro p hp
    rcases FiniteMap.mem_entries_insert.mp hp with rfl | ⟨-, hp⟩
    · rfl
    · exact hs.latest p hp

theorem rowsShown_observe (hs : RowsShown z T stale s) {q : Query}
    (hq : s.listeners.lookup q = none) :
    RowsShown z T stale { s with listeners := s.listeners.insert q ⟨∅, [q.results s.docs]⟩ } := by
  intro id hid hrow
  rcases hs id hid hrow with ⟨m, hm, hheld⟩ | ⟨n, hn, hw⟩
  · exact .inl ⟨m, mem_observed hq hm, hheld⟩
  · exact .inr ⟨n, mem_observed hq hn, hw⟩

section Deliver

variable {q : Query} {shown snapshot : DartMap Doc} {pending : List (DartMap Doc)}
  (hq : s.listeners.lookup q = some ⟨shown, snapshot :: pending⟩)

include hq

theorem fed_deliver (hs : Fed z T s) : Fed z T (delivered z T s q shown snapshot pending) := by
  have hqmem : ⟨q, ⟨shown, snapshot :: pending⟩⟩ ∈ s.listeners.entries := AList.mem_lookup_iff.mp hq
  refine ⟨hs.docs_decode, ?_, ?_⟩
  · intro p hp snapshot' hsnap
    rcases FiniteMap.mem_entries_insert.mp hp with rfl | ⟨-, hp⟩
    · exact hs.pending_decode _ hqmem snapshot' (List.mem_cons_of_mem _ hsnap)
    · exact hs.pending_decode p hp snapshot' hsnap
  · intro p hp
    rcases FiniteMap.mem_entries_insert.mp hp with rfl | ⟨-, hp⟩
    · have hlatest := hs.latest _ hqmem
      rw [Listener.latest, List.getLastD_cons] at hlatest
      exact hlatest
    · exact hs.latest p hp

/-- A document that the listener drops loses its row, whoever has written it. -/
theorem rowsShown_deliver (hs : RowsShown z T stale s)
    (hdec : ∀ e ∈ snapshot.entries, DecodesAs z T e.1 e.2) :
    RowsShown z T stale (delivered z T s q shown snapshot pending) := by
  intro id hid hrow
  by_cases hw : Writes shown snapshot id
  · exact .inl (held_of_writes hdec hw)
  change (getEntity (onDocChanges z T (docChanges shown snapshot) s.realm) T id).isSome at hrow
  rw [getEntity_onDocChanges_of_not_writes hdec _ hw] at hrow
  split_ifs at hrow with hr
  · cases hrow
  · rcases hs id hid hrow with hheld | hwr
    · exact .inl (held_delivered hq hdec hw hr hheld)
    · exact .inr (willWrite_delivered hq hw hwr)

end Deliver

theorem fed_rowsShown_step (a : ListenerAction) (hs : Fed z T s ∧ RowsShown z T stale s)
    (ha : WellTyped z T s a) (h : step z T s a = some s') :
    Fed z T s' ∧ RowsShown z T stale s' := by
  obtain ⟨hfed, hrows⟩ := hs
  cases a with
  | observe q =>
      simp only [step] at h
      cases hq : s.listeners.lookup q with
      | some l =>
          rw [hq] at h
          cases h
          exact ⟨hfed, hrows⟩
      | none =>
          rw [hq] at h
          cases h
          exact ⟨fed_observe hfed q, rowsShown_observe hrows hq⟩
  | set id data =>
      cases h
      refine ⟨fed_publish hfed fun e he => ?_, rowsShown_publish hrows _⟩
      rcases FiniteMap.mem_entries_insert.mp he with rfl | ⟨-, he⟩
      · exact ha
      · exact hfed.docs_decode e he
  | delete id =>
      cases h
      exact ⟨fed_publish hfed fun e he => hfed.docs_decode e (FiniteMap.mem_entries_of_erase he),
        rowsShown_publish hrows _⟩
  | deliver q =>
      simp only [step] at h
      split at h
      · rename_i shown snapshot pending hq
        cases h
        have hdec := hfed.pending_decode _ (AList.mem_lookup_iff.mp hq) snapshot List.mem_cons_self
        exact ⟨fed_deliver hq hfed, rowsShown_deliver hq hrows hdec⟩
      · cases h

end Step

theorem Fed.shown_eq (hs : Fed z T s) (hsettled : s.Settled) {p : Sigma fun _ : Query => Listener}
    (hp : p ∈ s.listeners.entries) : p.2.shown = p.1.results s.docs := by
  have hlatest := hs.latest p hp
  rwa [Listener.latest, hsettled p hp, List.getLastD_nil] at hlatest

theorem RowsShown.selected (hs : RowsShown z T stale s) (hfed : Fed z T s) (hsettled : s.Settled)
    (hid : id ∉ stale) {x : Entity T} (hrow : getEntity s.realm T id = some x) :
    Selected z T s id x := by
  rcases hs id hid (by rw [hrow]; rfl) with ⟨p, hp, d, y, hd, hy, hheld⟩ | ⟨n, hn, hw⟩
  · cases hrow.symm.trans hheld
    rw [hfed.shown_eq hsettled hp] at hd
    exact ⟨p, hp, d, hd, hy⟩
  · exact absurd hw (Listener.not_willWrite_of_settled (hsettled n hn))

end ListenerState

end AirBnbClone
