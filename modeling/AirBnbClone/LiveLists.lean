import AirBnbClone.FetchThenRead
import AirBnbClone.IncrementalSync
import AirBnbClone.NewestReviews
import AirBnbClone.StreamExtension

/-!
# What a screen shows once everything has settled

A list screen listens, through `firstThenDebounce`, to the changes of a local query, whose rows a
listener of the remote query writes. Snapshots, other writes and change notices come at any times.
Half a second after the last notice the list is that of the remote documents: none is missing, none
is shown twice, and none is left over but those that were deleted while nobody listened.
-/

namespace AirBnbClone

open Debounce FirestoreMapper FireStoreService QuerySnapshot RealmService

def decodedDocs (z : Zone) (T : Model) (docs : DartMap Doc) : List (Entity T) :=
  docs.entries.filterMap (fun e => (fromMap z T e.2).toOption)

section Decoded

variable {z : Zone} {T : Model} {docs : DartMap Doc}

theorem decodedRow_eq_some_iff {id : String} {x : Entity T} : decodedRow z T docs id = some x ↔
    ∃ d, docs.lookup id = some d ∧ fromMap z T d = .ok x := by
  unfold decodedRow
  rw [Option.bind_eq_some_iff]
  refine exists_congr fun d => and_congr_right fun _ => ?_
  cases fromMap z T d with
  | error e => exact iff_of_false nofun nofun
  | ok y => exact ⟨fun h => congrArg Except.ok (Option.some.inj h), fun h => by cases h; rfl⟩

theorem mem_decodedDocs_iff (h : ∀ e ∈ docs.entries, DecodesAs z T e.1 e.2) (x : Entity T) :
    x ∈ decodedDocs z T docs ↔ decodedRow z T docs (Entity.id T x) = some x := by
  unfold decodedDocs decodedRow
  rw [List.mem_filterMap]
  constructor
  · rintro ⟨e, he, hx⟩
    obtain ⟨y, hy, hid⟩ := (h e he).exists_ok
    rw [hy] at hx
    cases hx
    rw [hid, AList.mem_lookup_iff.mpr he]
    exact congrArg Except.toOption hy
  · intro hx
    obtain ⟨d, hd, hdecode⟩ := Option.bind_eq_some_iff.mp hx
    exact ⟨_, AList.mem_lookup_iff.mp hd, hdecode⟩

theorem nodup_decodedDocs (h : ∀ e ∈ docs.entries, DecodesAs z T e.1 e.2) :
    (decodedDocs z T docs).Nodup := by
  have hnodup := docs.nodupKeys
  unfold decodedDocs
  generalize docs.entries = es at h hnodup
  induction es with
  | nil => exact List.nodup_nil
  | cons e es ih =>
      obtain ⟨he, hes⟩ := List.forall_mem_cons.mp h
      obtain ⟨hnotMem, hrest⟩ := List.nodupKeys_cons.mp hnodup
      obtain ⟨x, hx, hid⟩ := he.exists_ok
      rw [List.filterMap_cons, hx]
      refine List.nodup_cons.mpr ⟨?_, ih hes hrest⟩
      intro hmem
      obtain ⟨e', he', hx'⟩ := List.mem_filterMap.mp hmem
      obtain ⟨y, hy, hid'⟩ := (hes e' he').exists_ok
      rw [hy] at hx'
      cases hx'
      apply hnotMem
      rw [← hid, hid']
      exact List.mem_map_of_mem he'

end Decoded

/-- The two queries of a method that observes a collection, without a limit. -/
structure ObservedQuery where
  model : Model
  remote : FirestoreQueryBuilder
  rows : RealmQueryBuilder
  clauses : List Rql.Clause
  sorts : List (String × Bool)
  represents : rows.Represents clauses (sorts.map (fun s => .sort s.1 s.2))
  unlimited : rows.limit? = none
  /-- What the remote query selects, the local one selects once it is decoded. -/
  agrees : ∀ z d e, fromMap z model d = .ok e → remote.build.accepts d = true →
    rows.accepts model e = true

namespace ObservedQuery

open RealmQueryBuilder

/-- Queries that compare texts and do not sort. -/
def ofEqualities (T : Model) (collection : String) (fs : List TextEquality)
    (hfs : ∀ z, ∀ f ∈ fs, f.Reads z T) (remote : FirestoreQueryBuilder) (rows : RealmQueryBuilder)
    (hremote : remote = remoteEqualities collection fs) (hrows : rows = localEqualities fs) :
    ObservedQuery where
  model := T
  remote := remote
  rows := rows
  clauses := fs.mapIdx (fun n f => .compare ⟨f.name, .equal, n⟩)
  sorts := []
  represents := hrows ▸ represents_localEqualities (hfs Zone.utc)
  unlimited := hrows ▸ limit?_localEqualities
  agrees z d e he haccepts := by
    rwa [hremote, accepts_equalities he collection fs (hfs z), ← hrows] at haccepts

def postings (hostId : String) : ObservedQuery :=
  ofEqualities .posting FirestoreCollection.posting [⟨"host_id", "hostId", hostId⟩]
    (by
      intro z
      simp only [List.forall_mem_cons]
      exact ⟨⟨9, rfl, rfl⟩, nofun⟩)
    (PostingRepository.observePostingsQuery hostId) (PostingRepository.localPostings hostId) rfl rfl

def favouritePostings (userId : String) : ObservedQuery :=
  ofEqualities .favouritePosting FirestoreCollection.favouritePosting
    [⟨"user_id", "userId", userId⟩]
    (by
      intro z
      simp only [List.forall_mem_cons]
      exact ⟨⟨3, rfl, rfl⟩, nofun⟩)
    (FavouritePostingRepository.favouritePostingsQuery userId)
    (FavouritePostingRepository.localFavouritePostings userId) rfl rfl

def messages (conversationId : String) : ObservedQuery where
  model := .message
  remote := MessageRepository.messagesQuery conversationId
  rows := MessageRepository.localMessages conversationId
  clauses := [.compare ⟨"conversationId", .equal, 0⟩]
  sorts := [("createdAt", false)]
  represents := (represents_new.equal (by decide) (.string conversationId)).sort (by decide) false
  unlimited := rfl
  agrees z d e he haccepts := by rwa [accepts_messages he conversationId] at haccepts

/-- The review lists, of which `ViewReviewCubit` observes that of a target. -/
def reviews (m : ReviewList) : ObservedQuery where
  model := .review
  remote := m.remoteQuery none
  rows := m.localQuery none
  clauses := m.equalities.mapIdx (fun n f => .compare ⟨f.name, .equal, n⟩)
  sorts := [("createdAt", true)]
  represents := represents_localQuery m none
  unlimited := by cases m <;> rfl
  agrees z d e he haccepts := by
    rw [ReviewList.remoteQuery_eq] at haccepts
    rw [accepts_local he (m.reads z) (represents_localQuery m none) (queryValues_localQuery m none)]
    have hfilters := (Bool.and_eq_true_iff.mp haccepts).1
    rw [List.all_eq_true] at hfilters ⊢
    intro f hf
    apply hfilters (.where ⟨f.key, .isEqualTo, .string f.text⟩)
    cases m <;> exact List.mem_map_of_mem (f := fun f : TextEquality =>
      Filter.where ⟨f.key, .isEqualTo, .string f.text⟩) hf

variable (q : ObservedQuery) {r : Realm} {z : Zone} {docs : DartMap Doc}

def shown (r : Realm) : List (Entity q.model) := getEntities r q.model q.rows

theorem perm_foldl_sorts {α : Type} (property : α → String → Option Property)
    (sorts : List (String × Bool)) (rows : List α) :
    ((sorts.map (fun s => Rql.Descriptor.sort s.1 s.2)).foldl
      (fun rows d => d.apply property rows) rows).Perm rows := by
  induction sorts generalizing rows with
  | nil => exact List.Perm.refl _
  | cons s sorts ih => exact (ih _).trans (List.perm_insertionSort _ _)

theorem shown_perm (r : Realm) : (q.shown r).Perm
    (((r.all q.model).map Row.entity).filter (fun e => q.rows.accepts q.model e)) := by
  unfold shown getEntities
  have hnone : limitDescriptors none = [] := rfl
  rw [q.represents.select_eq, q.unlimited, hnone, List.append_nil]
  exact perm_foldl_sorts _ _ _

def decoded (z : Zone) (docs : DartMap Doc) : List (Entity q.model) := decodedDocs z q.model docs

variable {q}

variable (q) in
/-- The stored row of an id, if the local query selects it. -/
def row (r : Realm) (id : String) : Option (Entity q.model) :=
  (getEntity r q.model id).filter (fun e => q.rows.accepts q.model e)

theorem nodup_shown (r : Realm) : (q.shown r).Nodup := by
  rw [(q.shown_perm r).nodup_iff]
  have hids := Realm.nodup_ids r q.model
  rw [show (fun row : Row q.model => Entity.id q.model row.entity) =
    Entity.id q.model ∘ Row.entity from rfl, ← List.map_map] at hids
  exact (List.Nodup.of_map _ hids).filter _

theorem mem_shown_iff {e : Entity q.model} :
    e ∈ q.shown r ↔ q.row r (Entity.id q.model e) = some e := by
  rw [(q.shown_perm r).mem_iff, List.mem_filter, Realm.mem_entities_iff, row, getEntity,
    Option.filter_eq_some_iff]

end ObservedQuery

namespace Sync

variable (z : Zone) (T : Model)

def handle (s : Sync) : SyncEvent → Sync
  | .snapshot result changes => ⟨result, onDocChanges z T changes s.realm⟩
  | .other event => ⟨s.shown, event.apply s.realm⟩

variable {z T} {s : Sync} {event : SyncEvent}

theorem step_eq_handle : step z T s event = some (handle z T s event) := by
  cases event <;> rfl

end Sync

/-- The document has been in one of the snapshots. -/
def Came (events : List SyncEvent) (id : String) : Prop :=
  ∃ result changes, SyncEvent.snapshot result changes ∈ events ∧ id ∈ result

namespace ObservedQuery

section Tracking

variable (q : ObservedQuery) (z : Zone)

/-- Snapshots are well-typed results of the query, whose changes list each difference once. What
other functions write leaves the rows that the list shows as they are: what the device itself stores
remotely comes in a snapshot before it is mirrored. -/
def Orderly (s : Sync) : SyncEvent → Prop
  | .snapshot result changes => Sync.Proper z q.model s (.snapshot result changes) ∧
      ∃ docs, result = q.remote.build.results docs
  | .other event => ∀ id, q.row (event.apply s.realm) id = q.row s.realm id

/-- The rows that the list shows after some events: of the documents that have come in a snapshot
what they decode to, and otherwise those stored at first. -/
structure Tracks (first : Realm) (events : List SyncEvent) (s : Sync) : Prop where
  decodes : ∀ e ∈ s.shown.entries, DecodesAs z q.model e.1 e.2
  came : ∀ id ∈ s.shown, Came events id
  rows : ∀ id, Came events id → q.row s.realm id = decodedRow z q.model s.shown id
  others : ∀ id, ¬ Came events id → q.row s.realm id = q.row first id

variable {q z} {first : Realm} {events : List SyncEvent} {s : Sync}

theorem came_append_iff {event : SyncEvent} {id : String} : Came (events ++ [event]) id ↔
    Came events id ∨ ∃ result changes, event = .snapshot result changes ∧ id ∈ result := by
  constructor
  · rintro ⟨result, changes, hmem, hid⟩
    rcases List.mem_append.mp hmem with hmem | hmem
    · exact .inl ⟨result, changes, hmem, hid⟩
    · exact .inr ⟨result, changes, (List.mem_singleton.mp hmem).symm, hid⟩
  · rintro (⟨result, changes, hmem, hid⟩ | ⟨result, changes, rfl, hid⟩)
    · exact ⟨result, changes, List.mem_append_left _ hmem, hid⟩
    · exact ⟨result, changes, by simp, hid⟩

theorem row_congr {r r' : Realm} {id : String}
    (h : getEntity r q.model id = getEntity r' q.model id) : q.row r id = q.row r' id := by
  rw [row, h, row]

/-- The row of a document of a result is selected. -/
theorem row_of_decodedRow {docs result : DartMap Doc}
    (hresult : result = q.remote.build.results docs) {r : Realm} {id : String}
    (hrow : getEntity r q.model id = decodedRow z q.model result id) :
    q.row r id = decodedRow z q.model result id := by
  rw [row, hrow]
  cases he : decodedRow z q.model result id with
  | none => rfl
  | some e =>
      obtain ⟨d, hd, hdecoded⟩ := decodedRow_eq_some_iff.mp he
      rw [hresult] at hd
      have haccepts := (Query.mem_of_lookup_results hd).2
      exact Option.filter_eq_some_iff.mpr ⟨rfl, q.agrees z d e hdecoded haccepts⟩

section Snapshot

variable {result : DartMap Doc} {changes : List DocumentChange} {id : String}
  (hresult : ∀ e ∈ result.entries, DecodesAs z q.model e.1 e.2)
  (hchanges : changes.Perm (QuerySnapshot.docChanges s.shown result))

include hresult hchanges

/-- A document that is not in the snapshot loses its row if it was in the one before. -/
theorem row_snapshot_of_notMem (hid : result.lookup id = none) :
    q.row (onDocChanges z q.model changes s.realm) id =
      if (s.shown.lookup id).isSome then none else q.row s.realm id := by
  have hnot : ¬ QuerySnapshot.Writes s.shown result id := by
    rintro ⟨⟨k, d⟩, he, rfl, -⟩
    rw [AList.mem_lookup_iff.mpr he] at hid
    cases hid
  have hremoves : QuerySnapshot.Removes s.shown result id ↔ (s.shown.lookup id).isSome := by
    rw [QuerySnapshot.Removes, hid]
    exact and_iff_left rfl
  rw [row, getEntity_onDocChanges_perm hresult hchanges,
    getEntity_onDocChanges_of_not_writes hresult _ hnot]
  simp only [hremoves]
  split_ifs
  · rfl
  · rfl

/-- A document of the snapshot has its row, if it had the one of the snapshot before. -/
theorem row_snapshot_of_mem {docs : DartMap Doc} (hdocs : result = q.remote.build.results docs)
    {d : Doc} (hid : result.lookup id = some d)
    (hrow : id ∈ s.shown → q.row s.realm id = decodedRow z q.model s.shown id) :
    q.row (onDocChanges z q.model changes s.realm) id = decodedRow z q.model result id := by
  have hentity := getEntity_onDocChanges_perm (z := z) (T := q.model) hresult hchanges s.realm id
  have hdecoded : decodedRow z q.model result id = (fromMap z q.model d).toOption := by
    rw [decodedRow, hid, Option.bind_some]
  by_cases hw : QuerySnapshot.Writes s.shown result id
  · rw [getEntity_onDocChanges_of_writes hresult _ hid hw, ← hdecoded] at hentity
    exact row_of_decodedRow hdocs hentity
  · have hremoves : ¬ QuerySnapshot.Removes s.shown result id := by
      rintro ⟨-, hnone⟩
      rw [hid] at hnone
      cases hnone
    obtain ⟨d₀, hd₀, hsame⟩ := exists_sameFields hid hw
    rw [getEntity_onDocChanges_of_not_writes hresult _ hw, if_neg hremoves] at hentity
    have hmem : id ∈ s.shown := AList.lookup_isSome.mp (by rw [hd₀]; rfl)
    rw [row_congr hentity, hrow hmem, hdecoded, decodedRow, hd₀, Option.bind_some,
      fromMap_of_sameFields hsame]

end Snapshot

theorem Tracks.snapshot (h : q.Tracks z first events s) {result : DartMap Doc}
    {changes : List DocumentChange} (horderly : q.Orderly z s (.snapshot result changes)) :
    q.Tracks z first (events ++ [.snapshot result changes])
      ⟨result, onDocChanges z q.model changes s.realm⟩ := by
  obtain ⟨⟨hresult, hchanges⟩, docs, hdocs⟩ := horderly
  have hmem (id : String) (hid : id ∈ s.shown) :
      q.row s.realm id = decodedRow z q.model s.shown id := h.rows id (h.came id hid)
  refine ⟨hresult, ?_, ?_, ?_⟩
  · exact fun id hid => came_append_iff.mpr (.inr ⟨result, changes, rfl, hid⟩)
  · intro id hcame
    change q.row (onDocChanges z q.model changes s.realm) id = decodedRow z q.model result id
    cases hd : result.lookup id with
    | some d => exact row_snapshot_of_mem hresult hchanges hdocs hd (hmem id)
    | none =>
        have hbefore : Came events id := by
          rcases came_append_iff.mp hcame with hbefore | ⟨_, _, hevent, hid⟩
          · exact hbefore
          · cases hevent
            rw [← AList.lookup_isSome, hd] at hid
            cases hid
        rw [row_snapshot_of_notMem hresult hchanges hd, h.rows id hbefore, decodedRow, decodedRow,
          hd]
        cases s.shown.lookup id with
        | none => rfl
        | some d => rfl
  · intro id hnot
    change q.row (onDocChanges z q.model changes s.realm) id = q.row first id
    rw [came_append_iff, not_or] at hnot
    have hnone : result.lookup id = none :=
      AList.lookup_eq_none.mpr fun hid => hnot.2 ⟨result, changes, rfl, hid⟩
    have hshown : s.shown.lookup id = none :=
      AList.lookup_eq_none.mpr fun hid => hnot.1 (h.came id hid)
    rw [row_snapshot_of_notMem hresult hchanges hnone, hshown, h.others id hnot.1]
    rfl

theorem Tracks.handle (h : q.Tracks z first events s) {event : SyncEvent}
    (horderly : q.Orderly z s event) :
    q.Tracks z first (events ++ [event]) (Sync.handle z q.model s event) := by
  cases event with
  | snapshot result changes => exact h.snapshot horderly
  | other event =>
      have hcame (id : String) : Came (events ++ [.other event]) id ↔ Came events id := by
        rw [came_append_iff, or_iff_left]
        rintro ⟨_, _, hevent, -⟩
        cases hevent
      refine ⟨h.decodes, fun id hid => (hcame id).mpr (h.came id hid), ?_, ?_⟩
      · exact fun id hid => (horderly id).trans (h.rows id ((hcame id).mp hid))
      · exact fun id hid => (horderly id).trans (h.others id (fun h' => hid ((hcame id).mpr h')))

theorem Tracks.foldl (h : q.Tracks z first events s) {later : List SyncEvent}
    (horderly : Execution.StepsMeet (Sync.step z q.model) (q.Orderly z) s later) :
    q.Tracks z first (events ++ later) (later.foldl (Sync.handle z q.model) s) := by
  induction later generalizing events s with
  | nil => rwa [List.append_nil]
  | cons event later ih =>
      have hrest := horderly.2 _ Sync.step_eq_handle
      have hnext := ih (h.handle horderly.1) hrest
      rwa [List.append_assoc, List.singleton_append] at hnext

theorem orderly_of_ne {event : RowEvent} (h : event.key.1 ≠ q.model) :
    q.Orderly z s (.other event) :=
  fun id => row_congr (Sync.getEntity_event_of_ne h s.realm id)

/-- A row that is there already may be written again. -/
theorem orderly_upsert {e : Entity q.model} (h : q.row s.realm (Entity.id q.model e) = some e) :
    q.Orderly z s (.other (.upsert q.model e)) := by
  intro id
  apply row_congr
  change getEntity (createUnawaited s.realm q.model e) q.model id = _
  rw [getEntity_createUnawaited]
  split_ifs with hid
  · rw [hid.2, (Option.filter_eq_some_iff.mp h).1]
  · rfl

theorem tracks_start (first : Realm) : q.Tracks z first [] ⟨∅, first⟩ where
  decodes := nofun
  came _ hid := absurd hid (AList.notMem_empty _)
  rows _ := by
    rintro ⟨_, _, hmem, -⟩
    exact absurd hmem List.not_mem_nil
  others _ _ := rfl

/-- The list is that of the last result exactly if all that it showed at first has come in a
snapshot. -/
theorem Tracks.shown_perm_iff (h : q.Tracks z first events s) :
    (q.shown s.realm).Perm (q.decoded z s.shown) ↔
      ∀ e ∈ q.shown first, Came events (Entity.id q.model e) := by
  rw [decoded, List.perm_ext_iff_of_nodup (nodup_shown s.realm) (nodup_decodedDocs h.decodes)]
  simp only [mem_shown_iff, mem_decodedDocs_iff h.decodes]
  constructor
  · intro hrows e he
    by_contra hnot
    have hrow := (h.others _ hnot).trans he
    obtain ⟨d, hd, -⟩ := decodedRow_eq_some_iff.mp ((hrows e).mp hrow)
    exact hnot (h.came _ (AList.lookup_isSome.mp (by rw [hd]; rfl)))
  · intro hfirst x
    by_cases hcame : Came events (Entity.id q.model x)
    · rw [h.rows _ hcame]
    · refine iff_of_false (fun hrow => ?_) (fun hrow => ?_)
      · exact hcame (hfirst x ((h.others _ hcame).symm.trans hrow))
      · obtain ⟨d, hd, -⟩ := decodedRow_eq_some_iff.mp hrow
        exact hcame (h.came _ (AList.lookup_isSome.mp (by rw [hd]; rfl)))

end Tracking

end ObservedQuery

/-- The lists that are shown as their query has them. -/
inductive ListScreen
  | myPostings (hostId : String)
  | saved (userId : String)
  | chat (conversationId : String)
  | reviews (targetType targetId : String)

namespace ListScreen

def query : ListScreen → ObservedQuery
  | myPostings hostId => .postings hostId
  | saved userId => .favouritePostings userId
  | chat conversationId => .messages conversationId
  | reviews targetType targetId => .reviews (.forTarget targetType targetId)

variable (z : Zone) (screen : ListScreen) (r : Realm)

def after (events : List (Timed SyncEvent)) : Sync :=
  (events.map Timed.value).foldl (Sync.handle z screen.query.model) ⟨∅, r⟩

def resultsAt (events : List (Timed SyncEvent)) (t : ℕ) : List (Entity screen.query.model) :=
  screen.query.shown (screen.after z r (events.takeWhile (fun e => e.time ≤ t))).realm

/-- Whenever an event changes the local results, their listeners are told then or later. -/
def Notified (events : List (Timed SyncEvent)) (notices : List (Timed Unit)) : Prop :=
  ∀ before e rest, events = before ++ e :: rest →
    screen.query.shown (screen.after z r (before ++ [e])).realm ≠
      screen.query.shown (screen.after z r before).realm → ∃ n ∈ notices, e.time ≤ n.time

variable {z screen r} {events : List (Timed SyncEvent)} {notices : List (Timed Unit)}

section View

variable {β : Type} {view : Realm → β}

variable (z screen r view) in
/-- Whenever an event changes what is seen of the local database, its listeners are told then or
later. -/
def NotifiedOf (events : List (Timed SyncEvent)) (notices : List (Timed Unit)) : Prop :=
  ∀ before e rest, events = before ++ e :: rest →
    view (screen.after z r (before ++ [e])).realm ≠ view (screen.after z r before).realm →
      ∃ n ∈ notices, e.time ≤ n.time

variable (z screen r) in
def storeAt (events : List (Timed SyncEvent)) (t : ℕ) : Realm :=
  (screen.after z r (events.takeWhile (fun e => e.time ≤ t))).realm

/-- Events after the last notice change nothing that is seen. -/
theorem view_after_append (hnotified : NotifiedOf z screen r view events notices) {t : ℕ}
    (ht : ∀ n ∈ notices, n.time ≤ t) (before rest : List (Timed SyncEvent))
    (hsplit : events = before ++ rest) (hrest : ∀ e ∈ rest, t < e.time) :
    view (screen.after z r (before ++ rest)).realm = view (screen.after z r before).realm := by
  induction rest generalizing before with
  | nil => rw [List.append_nil]
  | cons e rest ih =>
      obtain ⟨he, hrest⟩ := List.forall_mem_cons.mp hrest
      have hcons : before ++ e :: rest = (before ++ [e]) ++ rest := by
        rw [List.append_assoc, List.singleton_append]
      rw [hcons, ih (before ++ [e]) (hsplit.trans hcons) hrest]
      by_contra hne
      obtain ⟨n, hn, hle⟩ := hnotified before e rest hsplit hne
      exact absurd (he.trans_le hle) (not_lt.mpr (ht n hn))

/-- Once all notices have come, what is seen is what will be. -/
theorem view_storeAt (hevents : InOrder events)
    (hnotified : NotifiedOf z screen r view events notices) {t : ℕ}
    (ht : ∀ n ∈ notices, n.time ≤ t) :
    view (screen.storeAt z r events t) = view (screen.after z r events).realm := by
  have hsplit := List.takeWhile_append_dropWhile (p := fun e : Timed SyncEvent => e.time ≤ t)
    (l := events)
  unfold storeAt
  conv_rhs => rw [← hsplit]
  refine (view_after_append hnotified ht _ _ hsplit.symm ?_).symm
  intro e he
  have hsorted : InOrder (events.dropWhile (fun e => e.time ≤ t)) :=
    List.Pairwise.sublist (List.dropWhile_sublist _) hevents
  cases hdrop : events.dropWhile (fun e => e.time ≤ t) with
  | nil =>
      rw [hdrop] at he
      exact absurd he List.not_mem_nil
  | cons first rest =>
      have hfirst : t < first.time := by
        have hhead := List.head?_dropWhile_not (fun e : Timed SyncEvent => decide (e.time ≤ t))
          events
        rw [hdrop] at hhead
        simpa using hhead
      rw [hdrop] at he hsorted
      rcases List.mem_cons.mp he with rfl | he
      · exact hfirst
      · exact hfirst.trans_le (hsorted.head_le e he)

end View

/-- Once all notices have come the results are what they will be. -/
theorem resultsAt_eq (hevents : InOrder events) (hnotified : screen.Notified z r events notices)
    {t : ℕ} (ht : ∀ n ∈ notices, n.time ≤ t) :
    screen.resultsAt z r events t = screen.query.shown (screen.after z r events).realm :=
  @view_storeAt z screen r events notices _ screen.query.shown hevents hnotified t ht

theorem time_le_last {n : Timed Unit} (hnotices : InOrder notices)
    (hn : notices.getLast? = some n) : ∀ m ∈ notices, m.time ≤ n.time := by
  obtain ⟨before, rfl⟩ := List.getLast?_eq_some_iff.mp hn
  intro m hm
  rcases List.mem_append.mp hm with hm | hm
  · exact (List.pairwise_append.mp hnotices).2.2 m hm n (List.mem_singleton_self n)
  · rw [List.mem_singleton.mp hm]

variable (screen r) in
def AllCame (events : List (Timed SyncEvent)) : Prop :=
  ∀ e ∈ screen.query.shown r, Came (events.map Timed.value) (Entity.id screen.query.model e)

/-- The local results are in the end the rows that the remote documents decode to, exactly if all
that was there at first has come. -/
theorem shown_after_perm_iff {docs : DartMap Doc}
    (horderly : Execution.StepsMeet (Sync.step z screen.query.model) (screen.query.Orderly z)
      ⟨∅, r⟩ (events.map Timed.value))
    (hremote : (screen.after z r events).shown = screen.query.remote.build.results docs) :
    (screen.query.shown (screen.after z r events).realm).Perm
      (screen.query.decoded z (screen.query.remote.build.results docs)) ↔
        screen.AllCame r events := by
  have htracks := (ObservedQuery.tracks_start r).foldl horderly
  rw [← hremote]
  exact htracks.shown_perm_iff

/-- If the snapshots are well-typed results of the query and what other functions write leaves the
rows of the list as they are, at whatever times all this comes: the list a screen was last given
half a second after the last notice has exactly the rows that the remote documents decode to, if and
only if all that was stored before has come in a snapshot. What was deleted while nobody listened
stays on the list. -/
theorem settled_list_is_remote (op : Operator) (z : Zone) (screen : ListScreen) (r : Realm)
    (docs : DartMap Doc) (events : List (Timed SyncEvent)) (notices : List (Timed Unit))
    (n : Timed Unit) (hevents : InOrder events) (hnotices : InOrder notices)
    (hn : notices.getLast? = some n)
    (horderly : Execution.StepsMeet (Sync.step z screen.query.model) (screen.query.Orderly z)
      ⟨∅, r⟩ (events.map Timed.value))
    (hremote : (screen.after z r events).shown = screen.query.remote.build.results docs)
    (hnotified : screen.Notified z r events notices) :
    ∃ x, (firstThenDebounce op 500 notices).getLast? = some x ∧ x.time ≤ n.time + 500 ∧
      ((screen.resultsAt z r events x.time).Perm
        (screen.query.decoded z (screen.query.remote.build.results docs)) ↔
          screen.AllCame r events) := by
  obtain ⟨x, hx, -, hle, hsoon⟩ := exists_last_heard op 500 hn
  refine ⟨x, hx, hsoon, ?_⟩
  rw [resultsAt_eq hevents hnotified (fun m hm => (time_le_last hnotices hn m hm).trans hle)]
  exact shown_after_perm_iff horderly hremote

def storedReviews : Realm :=
  (Realm.empty.add .review ⟨reviewRow "r1" 3, noLinks⟩).add .review
    ⟨{ reviewRow "r9" 4 with targetId := some "p9" }, noLinks⟩

def oneReview : DartMap Doc := DartMap.ofList [("r1", reviewDoc "r1" 5)]

def reviewComes : List (Timed SyncEvent) :=
  [⟨100, .snapshot oneReview (docChanges ∅ oneReview)⟩,
    ⟨140, .other (.upsert .review (reviewRow "r1" 5))⟩]

theorem allCame_reviewComes : AllCame (.reviews "posting" "p1") storedReviews reviewComes := by
  have hshown : (reviews "posting" "p1").query.shown storedReviews = [reviewRow "r1" 3] := rfl
  unfold AllCame
  rw [hshown]
  refine List.forall_mem_singleton.mpr ⟨_, _, List.mem_cons_self, ?_⟩
  decide

theorem settled_list_is_remote_reviewComes : ∃ x : Timed Unit, x.time ≤ 650 ∧
    (resultsAt Zone.utc (.reviews "posting" "p1") storedReviews reviewComes x.time).Perm
      [reviewRow "r1" 5] := by
  have hresult : ∀ e ∈ oneReview.entries, DecodesAs Zone.utc .review e.1 e.2 := by decide
  have hearly : ∀ e ∈ reviewComes, e.time ≤ 150 := by
    simp [reviewComes]
  obtain ⟨x, -, hsoon, hperm⟩ := settled_list_is_remote Operator.eager Zone.utc
    (.reviews "posting" "p1") storedReviews oneReview reviewComes [⟨0, ()⟩, ⟨150, ()⟩]
    ⟨150, ()⟩ (by simp [InOrder, reviewComes]) (by decide) rfl
    (Execution.stepsMeet_cons ⟨⟨hresult, List.Perm.refl _⟩, oneReview, rfl⟩ rfl
      (Execution.stepsMeet_cons (ObservedQuery.orderly_upsert rfl) rfl trivial))
    rfl (fun _ e _ hsplit _ => ⟨⟨150, ()⟩, by simp, hearly e (by simp [hsplit])⟩)
  exact ⟨x, hsoon, hperm.mpr allCame_reviewComes⟩

end ListScreen

end AirBnbClone
