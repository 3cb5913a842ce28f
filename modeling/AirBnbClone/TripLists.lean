import AirBnbClone.LinkedItems
import AirBnbClone.ListenerRows
import AirBnbClone.TripsCubit

/-!
# The two lists of the Trips screen

The two listeners of the Trips screen write the bookings of one store, each those on its side of the
moment at which the screen was made. A listener that drops a booking deletes its row, also if the
other has written it. As long as bookings keep their check-out this never happens, in whatever order
the snapshots come: in the end each booking is listed once, on its side, with the posting it names.
-/

namespace AirBnbClone

open FirestoreMapper FireStoreService QuerySnapshot RealmService

namespace TripsScreen

open ListenerState TripsCubit

/-- The stream that lists a booking with this check-out, in milliseconds. -/
def side (nowMs ms : ℤ) : TripsStream := if nowMs ≤ ms then .upcoming else .previous

/-- A booking document as `saveBooking` writes it: its check-out is stored in milliseconds. -/
structure ChecksOutAt (z : Zone) (id : String) (d : Doc) (ms : ℤ) : Prop where
  decodes : DecodesAs z .booking id d
  checkOut : d.get "check_out" = .int ms

def remoteBookings (z : Zone) (nowMs : ℤ) (docs : DartMap Doc) (stream : TripsStream) :
    List Booking :=
  decodedDocs z .booking ((remoteQuery nowMs stream).build.results docs)

def namedPosting (r : Realm) (b : Booking) : Option Posting :=
  referenced r ⟨.posting, "postingId", "posting"⟩ .booking b

def tripItem (z : Zone) (text : DoubleText) (r : Realm) (b : Booking) : TripGridItemModel :=
  bookingToTripModel z text (b, namedPosting r b)

section Sides

variable {z : Zone} {nowMs ms : ℤ} {stream : TripsStream} {id : String} {d : Doc} {b : Booking}
  {r : Realm}

theorem side_eq_upcoming_iff : side nowMs ms = .upcoming ↔ nowMs ≤ ms := by
  unfold side
  split_ifs with h
  · exact iff_of_true rfl h
  · exact iff_of_false nofun h

theorem side_eq_previous_iff : side nowMs ms = .previous ↔ ms < nowMs := by
  unfold side
  split_ifs with h
  · exact iff_of_false nofun (not_lt.mpr h)
  · exact iff_of_true rfl (not_le.mp h)

theorem lookup_checkOut (h : d.get "check_out" = .int ms) :
    d.lookup "check_out" = some (.int ms) := by
  unfold Doc.get at h
  cases hd : d.lookup "check_out" with
  | none =>
      rw [hd] at h
      cases h
  | some v =>
      rw [hd, Option.getD_some] at h
      rw [h]

theorem order_int (a b : ℤ) : Value.order (.int a) (.int b) = compare a b := by
  rfl

/-- A remote query selects the bookings on its side. -/
theorem accepts_iff (h : d.get "check_out" = .int ms) :
    (remoteQuery nowMs stream).build.accepts d = true ↔ side nowMs ms = stream := by
  have hlookup := lookup_checkOut h
  cases stream with
  | upcoming =>
      rw [side_eq_upcoming_iff]
      refine (Bool.eq_iff_iff.mp (accepts_where _ _)).trans ?_
      simp [Condition.accepts, hlookup, order_int, Value.typeOrder, compare_lt_iff_lt]
      exact fun _ => rfl
  | previous =>
      rw [side_eq_previous_iff]
      refine (Bool.eq_iff_iff.mp (accepts_where _ _)).trans ?_
      simp [Condition.accepts, hlookup, order_int, Value.typeOrder, compare_lt_iff_lt]
      exact fun _ => rfl

theorem checkOut_of_fromMap (hb : fromMap z .booking d = .ok b) (h : d.get "check_out" = .int ms) :
    b.checkOut = some (ms * 1000) := by
  have hfield : (fieldDecoders z .booking)[6]? =
      some (field "check_out" (Cast.parseDateTime z) .date?) := rfl
  have hname : (propertyNames .booking)[6]? = some "checkOut" := rfl
  obtain ⟨a, ha, hp⟩ := property_of_fromMap_ok hb hname hfield
  rw [h] at ha
  simp only [Cast.parseDateTime, DateTime.fromMillisecondsSinceEpoch] at ha
  split_ifs at ha
  cases ha
  obtain ⟨_, _, _, _, _, _⟩ := b
  cases hp
  rfl

/-- So does a local query. -/
theorem inRange_iff (hb : fromMap z .booking d = .ok b) (h : d.get "check_out" = .int ms) :
    InRange nowMs stream b ↔ side nowMs ms = stream := by
  have hcheckOut := checkOut_of_fromMap hb h
  cases stream with
  | upcoming =>
      rw [side_eq_upcoming_iff, InRange]
      simp only [hcheckOut, Option.some.injEq, exists_eq_left']
      omega
  | previous =>
      rw [side_eq_previous_iff, InRange]
      simp only [hcheckOut, Option.some.injEq, exists_eq_left']
      omega

theorem build_injective {stream stream' : TripsStream}
    (h : (remoteQuery nowMs stream).build = (remoteQuery nowMs stream').build) :
    stream = stream' := by
  have hdoc : Doc.get (DartMap.ofList [("check_out", .int nowMs)]) "check_out" = .int nowMs := rfl
  have hside : side nowMs nowMs = .upcoming := side_eq_upcoming_iff.mpr le_rfl
  have hsame : .upcoming = stream ↔ TripsStream.upcoming = stream' := by
    rw [← hside, ← accepts_iff hdoc, ← accepts_iff hdoc, h]
  cases stream with
  | upcoming => exact hsame.mp rfl
  | previous =>
      cases stream' with
      | upcoming => exact absurd (hsame.mpr rfl) nofun
      | previous => rfl

end Sides

section Store

variable (z : Zone) (nowMs : ℤ) (checkOut : String → ℤ)

/-- Both listeners are there and no others, and each is sent the bookings on its side. -/
structure Listening (s : ListenerState) : Prop where
  listeners : ∀ p ∈ s.listeners.entries, ∃ stream, p.1 = (remoteQuery nowMs stream).build
  both : ∀ stream, ∃ p ∈ s.listeners.entries, p.1 = (remoteQuery nowMs stream).build
  docs : ∀ e ∈ s.docs.entries, ChecksOutAt z e.1 e.2 (checkOut e.1)
  sides : ∀ p ∈ s.listeners.entries, ∀ result ∈ p.2.shown :: p.2.pending, ∀ id ∈ result,
    p.1 = (remoteQuery nowMs (side nowMs (checkOut id))).build

/-- Bookings are written with the check-out they keep, and nothing else listens to them. -/
def KeepsCheckOut : ListenerAction → Prop
  | .observe _ => False
  | .set id data => ChecksOutAt z id data (checkOut id)
  | .delete _ => True
  | .deliver _ => True

variable {z nowMs checkOut} {s s' : ListenerState} {docs : DartMap Doc} {stream : TripsStream}
  {id : String}

theorem side_of_mem_results (hdocs : ∀ e ∈ docs.entries, ChecksOutAt z e.1 e.2 (checkOut e.1))
    (hid : id ∈ (remoteQuery nowMs stream).build.results docs) :
    side nowMs (checkOut id) = stream := by
  obtain ⟨d, hd⟩ := Option.isSome_iff_exists.mp (AList.lookup_isSome.mpr hid)
  obtain ⟨hlookup, haccepts⟩ := Query.mem_of_lookup_results hd
  exact (accepts_iff (hdocs _ (AList.mem_lookup_iff.mp hlookup)).checkOut).mp haccepts

/-- A listener only shows what the other never does. -/
theorem Listening.considerate (h : Listening z nowMs checkOut s) {a : ListenerAction}
    (ha : KeepsCheckOut z checkOut a) : Considerate z .booking s a := by
  cases a with
  | observe q => trivial
  | set id data => exact ha.decodes
  | delete id => trivial
  | deliver q =>
      intro l hl snapshot _ id hid _ p hp hne hshown
      have hq := h.sides ⟨q, l⟩ (AList.mem_lookup_iff.mp hl) _ List.mem_cons_self id hid
      exact absurd ((h.sides p hp _ List.mem_cons_self id hshown).trans hq.symm) hne

theorem Listening.publish (h : Listening z nowMs checkOut s)
    (hdocs : ∀ e ∈ docs.entries, ChecksOutAt z e.1 e.2 (checkOut e.1)) :
    Listening z nowMs checkOut (s.publish docs) := by
  refine ⟨?_, ?_, hdocs, ?_⟩
  · intro p hmem
    obtain ⟨p, hp, rfl⟩ := List.mem_map.mp hmem
    exact h.listeners p hp
  · intro stream
    obtain ⟨p, hp, hstream⟩ := h.both stream
    exact ⟨_, List.mem_map.mpr ⟨p, hp, rfl⟩, hstream⟩
  · intro p hmem result hresult id hid
    obtain ⟨p, hp, rfl⟩ := List.mem_map.mp hmem
    have hcases : result ∈ p.2.shown :: p.2.pending ∨ result = p.1.results docs := by
      rcases List.mem_cons.mp hresult with hshown | hpending
      · exact .inl (hshown ▸ List.mem_cons_self)
      · exact (List.mem_append.mp hpending).imp (List.mem_cons_of_mem _) List.mem_singleton.mp
    rcases hcases with hold | rfl
    · exact h.sides p hp result hold id hid
    · obtain ⟨stream, hstream⟩ := h.listeners p hp
      rw [hstream] at hid
      rw [side_of_mem_results hdocs hid]
      exact hstream

theorem Listening.delivered (h : Listening z nowMs checkOut s) {q : Query}
    {shown snapshot : DartMap Doc} {pending : List (DartMap Doc)}
    (hq : s.listeners.lookup q = some ⟨shown, snapshot :: pending⟩) :
    Listening z nowMs checkOut (delivered z .booking s q shown snapshot pending) := by
  have hqmem : ⟨q, ⟨shown, snapshot :: pending⟩⟩ ∈ s.listeners.entries := AList.mem_lookup_iff.mp hq
  refine ⟨?_, ?_, h.docs, ?_⟩
  · intro p hp
    rcases FiniteMap.mem_entries_insert.mp hp with rfl | ⟨-, hp⟩
    · obtain ⟨stream, hstream⟩ := h.listeners _ hqmem
      exact ⟨stream, hstream⟩
    · exact h.listeners p hp
  · intro stream
    obtain ⟨p, hp, hstream⟩ := h.both stream
    by_cases hpq : p.1 = q
    · exact ⟨_, mem_delivered_self, hpq ▸ hstream⟩
    · exact ⟨p, mem_delivered_of_ne hp hpq, hstream⟩
  · intro p hp result hresult
    rcases FiniteMap.mem_entries_insert.mp hp with rfl | ⟨-, hp⟩
    · exact h.sides _ hqmem result (List.mem_cons_of_mem _ hresult)
    · exact h.sides p hp result hresult

theorem Listening.step (h : Listening z nowMs checkOut s) {a : ListenerAction}
    (ha : KeepsCheckOut z checkOut a) (hstep : ListenerState.step z .booking s a = some s') :
    Listening z nowMs checkOut s' := by
  cases a with
  | observe q => exact ha.elim
  | set id data =>
      cases hstep
      refine h.publish fun e he => ?_
      rcases FiniteMap.mem_entries_insert.mp he with rfl | ⟨-, he⟩
      · exact ha
      · exact h.docs e he
  | delete id =>
      cases hstep
      exact h.publish fun e he => h.docs e (FiniteMap.mem_entries_of_erase he)
  | deliver q =>
      simp only [ListenerState.step] at hstep
      split at hstep
      · rename_i shown snapshot pending hq
        cases hstep
        exact h.delivered hq
      · cases hstep

variable (z nowMs checkOut) in
/-- What holds of the store while the screen is open. -/
structure StoreInv (s : ListenerState) : Prop where
  inv : ListenerState.Inv z .booking s
  rows : RowsShown z .booking ∅ s
  listening : Listening z nowMs checkOut s
  coherent : Coherent s.realm

theorem StoreInv.step (h : StoreInv z nowMs checkOut s) {a : ListenerAction}
    (ha : KeepsCheckOut z checkOut a) (hstep : ListenerState.step z .booking s a = some s') :
    StoreInv z nowMs checkOut s' := by
  have hconsiderate := h.listening.considerate ha
  have htyped : WellTyped z .booking s a := by
    cases a with
    | set id data => exact ha.decodes
    | observe q => trivial
    | delete id => trivial
    | deliver q => trivial
  have hfed : Fed z .booking s := ⟨h.inv.docs_decode, h.inv.pending_decode, h.inv.latest⟩
  refine ⟨ListenerState.inv_step a h.inv hconsiderate hstep,
    (fed_rowsShown_step a ⟨hfed, h.rows⟩ htyped hstep).2, h.listening.step ha hstep, ?_⟩
  cases a with
  | observe q => exact ha.elim
  | set id data =>
      cases hstep
      exact h.coherent
  | delete id =>
      cases hstep
      exact h.coherent
  | deliver q =>
      simp only [ListenerState.step] at hstep
      split at hstep
      · cases hstep
        exact ListScreen.coherent_onDocChanges h.coherent _
      · cases hstep

/-- Other functions leave the bookings as they are. -/
theorem StoreInv.stored (h : StoreInv z nowMs checkOut s) {realm : Realm} (hr : Coherent realm)
    (hsame : ∀ id, getEntity realm .booking id = getEntity s.realm .booking id) :
    StoreInv z nowMs checkOut { s with realm := realm } := by
  have hheld (id : String) (hid : Held z .booking s id) :
      Held z .booking { s with realm := realm } id := by
    obtain ⟨p, hp, d, x, hd, hx, hrow⟩ := hid
    exact ⟨p, hp, d, x, hd, hx, (hsame id).trans hrow⟩
  refine ⟨⟨h.inv.docs_decode, h.inv.pending_decode, h.inv.latest, ?_⟩, ?_, ?_, hr⟩
  · exact fun p hp id hid => (h.inv.held p hp id hid).imp_left (hheld id)
  · exact fun id hid hrow => (h.rows id hid (hsame id ▸ hrow)).imp_left (hheld id)
  · exact ⟨h.listening.listeners, h.listening.both, h.listening.docs, h.listening.sides⟩

/-- Once the snapshots have been handled, the local bookings are the remote ones. -/
theorem StoreInv.row_eq (h : StoreInv z nowMs checkOut s) (hsettled : s.Settled) (id : String) :
    getEntity s.realm .booking id = decodedRow z .booking s.docs id := by
  have hfed : Fed z .booking s := ⟨h.inv.docs_decode, h.inv.pending_decode, h.inv.latest⟩
  cases hrow : getEntity s.realm .booking id with
  | some b =>
      obtain ⟨p, hp, d, hd, hdecode⟩ := h.rows.selected hfed hsettled (Set.notMem_empty id) hrow
      rw [decodedRow, (Query.mem_of_lookup_results hd).1, Option.bind_some, hdecode]
      rfl
  | none =>
      cases hd : s.docs.lookup id with
      | none => rw [decodedRow, hd, Option.bind_none]
      | some d =>
          have hmem := AList.mem_lookup_iff.mp hd
          obtain ⟨p, hp, hstream⟩ := h.listening.both (side nowMs (checkOut id))
          have haccepts : p.1.accepts d = true := by
            rw [hstream]
            exact (accepts_iff (h.listening.docs _ hmem).checkOut).mpr rfl
          have hlimit : p.1.limit = none := by
            rw [hstream]
            cases side nowMs (checkOut id) <;> rfl
          have hresult := AList.mem_lookup_iff.mpr (Query.mem_entries_results hlimit hmem haccepts)
          obtain ⟨b, -, hb⟩ := h.inv.complete hsettled p hp id d hresult
          cases hrow.symm.trans hb

def started (s : ListenerState) (q : Query) : ListenerState :=
  { s with listeners := s.listeners.insert q ⟨∅, [q.results s.docs]⟩ }

variable (nowMs docs) in
def opened (realm : Realm) : ListenerState :=
  started (started ⟨docs, ∅, realm⟩ (remoteQuery nowMs .upcoming).build)
    (remoteQuery nowMs .previous).build

theorem lookup_previous (realm : Realm) :
    (started ⟨docs, ∅, realm⟩ (remoteQuery nowMs .upcoming).build).listeners.lookup
      (remoteQuery nowMs .previous).build = none := by
  have hne : (remoteQuery nowMs .previous).build ≠ (remoteQuery nowMs .upcoming).build :=
    fun h => absurd (build_injective h) nofun
  exact AList.lookup_insert_ne hne

theorem listen_eq (realm : Realm) : listen z nowMs ⟨docs, ∅, realm⟩ = opened nowMs docs realm := by
  have hfirst : ListenerState.step z .booking ⟨docs, ∅, realm⟩
      (.observe (remoteQuery nowMs .upcoming).build) =
        some (started ⟨docs, ∅, realm⟩ (remoteQuery nowMs .upcoming).build) := rfl
  have hsecond : ListenerState.step z .booking
      (started ⟨docs, ∅, realm⟩ (remoteQuery nowMs .upcoming).build)
        (.observe (remoteQuery nowMs .previous).build) = some (opened nowMs docs realm) := by
    rw [ListenerState.step, lookup_previous]
    rfl
  rw [listen, List.foldl_cons, hfirst, Option.getD_some, List.foldl_cons, hsecond,
    Option.getD_some, List.foldl_nil]

theorem mem_opened_iff {realm : Realm} {p : Sigma fun _ : Query => Listener} :
    p ∈ (opened nowMs docs realm).listeners.entries ↔ ∃ stream,
      p = ⟨(remoteQuery nowMs stream).build,
        ⟨∅, [(remoteQuery nowMs stream).build.results docs]⟩⟩ := by
  constructor
  · intro hp
    rcases FiniteMap.mem_entries_insert.mp hp with rfl | ⟨-, hp⟩
    · exact ⟨.previous, rfl⟩
    · rcases FiniteMap.mem_entries_insert.mp hp with rfl | ⟨-, hp⟩
      · exact ⟨.upcoming, rfl⟩
      · exact absurd hp List.not_mem_nil
  · rintro ⟨stream, rfl⟩
    cases stream with
    | upcoming =>
        refine FiniteMap.mem_entries_insert.mpr
          (.inr ⟨?_, FiniteMap.mem_entries_insert.mpr (.inl rfl)⟩)
        exact fun h => absurd (build_injective h) nofun
    | previous => exact FiniteMap.mem_entries_insert.mpr (.inl rfl)

/-- The first snapshot reports all documents. -/
theorem willWrite_first {result : DartMap Doc} (hid : id ∈ result) :
    Listener.WillWrite ⟨∅, [result]⟩ id := by
  intro hchain
  refine (List.isChain_cons_cons.mp hchain).1 ?_
  obtain ⟨d, hd⟩ := Option.isSome_iff_exists.mp (AList.lookup_isSome.mpr hid)
  exact ⟨⟨id, d⟩, AList.mem_lookup_iff.mp hd, rfl, rfl⟩

theorem storeInv_opened {realm : Realm}
    (hdocs : ∀ e ∈ docs.entries, ChecksOutAt z e.1 e.2 (checkOut e.1)) (hr : Coherent realm)
    (hstored : ∀ id, (getEntity realm .booking id).isSome → id ∈ docs) :
    StoreInv z nowMs checkOut (opened nowMs docs realm) := by
  refine ⟨?_, ?_, ?_, hr⟩
  · have hempty : ListenerState.Inv z .booking ⟨docs, ∅, realm⟩ :=
      ⟨fun e he => (hdocs e he).decodes, fun _ hp => absurd hp List.not_mem_nil,
        fun _ hp => absurd hp List.not_mem_nil, fun _ hp => absurd hp List.not_mem_nil⟩
    exact inv_observe (inv_observe hempty rfl) (lookup_previous realm)
  · intro id _ hrow
    obtain ⟨d, hd⟩ := Option.isSome_iff_exists.mp (AList.lookup_isSome.mpr (hstored id hrow))
    have hmem := AList.mem_lookup_iff.mp hd
    have hresult : id ∈ (remoteQuery nowMs (side nowMs (checkOut id))).build.results docs := by
      have hlimit : (remoteQuery nowMs (side nowMs (checkOut id))).build.limit = none := by
        cases side nowMs (checkOut id) <;> rfl
      have hentry := Query.mem_entries_results hlimit hmem
        ((accepts_iff (hdocs _ hmem).checkOut).mpr rfl)
      exact FiniteMap.mem_of_lookup_eq_some (AList.mem_lookup_iff.mpr hentry)
    exact .inr ⟨_, mem_opened_iff.mpr ⟨_, rfl⟩, willWrite_first hresult⟩
  · refine ⟨?_, fun stream => ⟨_, mem_opened_iff.mpr ⟨stream, rfl⟩, rfl⟩, hdocs, ?_⟩
    · intro p hp
      obtain ⟨stream, rfl⟩ := mem_opened_iff.mp hp
      exact ⟨stream, rfl⟩
    · intro p hp result hresult id hid
      obtain ⟨stream, rfl⟩ := mem_opened_iff.mp hp
      rcases List.mem_cons.mp hresult with rfl | hresult
      · exact absurd hid (AList.notMem_empty id)
      · rw [List.mem_singleton.mp hresult] at hid
        rw [side_of_mem_results hdocs hid]

end Store

section Remote

variable {z : Zone} {nowMs : ℤ} {checkOut : String → ℤ} {docs : DartMap Doc} {stream : TripsStream}
  (hdocs : ∀ e ∈ docs.entries, ChecksOutAt z e.1 e.2 (checkOut e.1))

include hdocs

theorem mem_remoteBookings_iff {b : Booking} : b ∈ remoteBookings z nowMs docs stream ↔
    decodedRow z .booking docs b.id = some b ∧ InRange nowMs stream b := by
  have hall : ∀ e ∈ docs.entries, DecodesAs z .booking e.1 e.2 := fun e he => (hdocs e he).decodes
  unfold remoteBookings
  rw [mem_decodedDocs_iff (results_decode hall _), decodedRow_eq_some_iff, decodedRow_eq_some_iff]
  constructor
  · rintro ⟨d, hd, hb⟩
    obtain ⟨hlookup, haccepts⟩ := Query.mem_of_lookup_results hd
    have hdoc := hdocs _ (AList.mem_lookup_iff.mp hlookup)
    exact ⟨⟨d, hlookup, hb⟩,
      (inRange_iff hb hdoc.checkOut).mpr ((accepts_iff hdoc.checkOut).mp haccepts)⟩
  · rintro ⟨⟨d, hd, hb⟩, hrange⟩
    have hmem := AList.mem_lookup_iff.mp hd
    have hside := (inRange_iff hb (hdocs _ hmem).checkOut).mp hrange
    have hlimit : (remoteQuery nowMs stream).build.limit = none := by cases stream <;> rfl
    have hentry := Query.mem_entries_results hlimit hmem
      ((accepts_iff (hdocs _ hmem).checkOut).mpr hside)
    exact ⟨d, AList.mem_lookup_iff.mpr hentry, hb⟩

theorem nodup_remoteBookings : (remoteBookings z nowMs docs stream).Nodup :=
  nodup_decodedDocs (results_decode (fun e he => (hdocs e he).decodes) _)

/-- Each booking is on one side. -/
theorem remoteBookings_append_perm :
    (remoteBookings z nowMs docs .upcoming ++ remoteBookings z nowMs docs .previous).Perm
      (decodedDocs z .booking docs) := by
  have hall : ∀ e ∈ docs.entries, DecodesAs z .booking e.1 e.2 := fun e he => (hdocs e he).decodes
  have hdisjoint : (remoteBookings z nowMs docs .upcoming).Disjoint
      (remoteBookings z nowMs docs .previous) := by
    intro b hupcoming hprevious
    obtain ⟨t, ht, hle⟩ := ((mem_remoteBookings_iff hdocs).mp hupcoming).2
    obtain ⟨t', ht', hlt⟩ := ((mem_remoteBookings_iff hdocs).mp hprevious).2
    cases ht.symm.trans ht'
    exact absurd hlt (not_lt.mpr hle)
  have hnodup := (nodup_remoteBookings hdocs).append (nodup_remoteBookings hdocs) hdisjoint
  rw [List.perm_ext_iff_of_nodup hnodup (nodup_decodedDocs hall)]
  intro b
  rw [List.mem_append, mem_remoteBookings_iff hdocs, mem_remoteBookings_iff hdocs,
    mem_decodedDocs_iff hall, ← and_or_left]
  refine and_iff_left_of_imp fun hrow => ?_
  obtain ⟨d, hd, hb⟩ := decodedRow_eq_some_iff.mp hrow
  have hcheckOut : b.checkOut ≠ none := by
    rw [checkOut_of_fromMap hb (hdocs _ (AList.mem_lookup_iff.mp hd)).checkOut]
    nofun
  obtain ⟨stream, hrange⟩ := exists_inRange nowMs hcheckOut
  cases stream with
  | upcoming => exact .inl hrange
  | previous => exact .inr hrange

end Remote

section Screen

variable (z : Zone) (text : DoubleText) (nowMs : ℤ) (checkOut : String → ℤ)

/-- Bookings keep their check-out, and other functions leave those that are stored as they are. -/
def Undisturbed (s : TripsScreen) : TripsEvent → Prop
  | .remote a => KeepsCheckOut z checkOut a
  | .stored realm => Coherent realm ∧
      ∀ id, getEntity realm .booking id = getEntity s.store.realm .booking id
  | .deliver _ => True

/-- Each list has an entry for every remote booking on its side, and together they have one for
each. -/
structure ListsRemote (s : TripsScreen) : Prop where
  trips : ∀ stream, (s.state.trips stream).Perm
    ((remoteBookings z nowMs s.store.docs stream).map (tripItem z text s.store.realm))
  all : (s.state.upcomingTrips ++ s.state.previousTrips).Perm
    ((decodedDocs z .booking s.store.docs).map (tripItem z text s.store.realm))

variable {z text nowMs checkOut} {s s' : TripsScreen} {e : TripsEvent} {r : Realm}
  {stream : TripsStream}

theorem results_eq_map (r : Realm) : results r nowMs stream =
    ((results r nowMs stream).map Prod.fst).map (fun b => (b, linkedPosting r b)) := by
  unfold results
  cases localQuery nowMs stream with
  | none => rfl
  | some query =>
      dsimp only
      rw [List.map_map, List.map_map]
      rfl

theorem nodup_results (hnow : |nowMs| ≤ DateTime.maxMillisecondsSinceEpoch) (r : Realm) :
    ((results r nowMs stream).map Prod.fst).Nodup := by
  obtain ⟨query, cs, hquery, hrepresents, hlimit, -⟩ := exists_localQuery hnow stream
  unfold results
  rw [hquery]
  dsimp only
  rw [List.map_map]
  exact (List.map_id _).symm ▸ nodup_getEntities hrepresents hlimit r .booking

theorem linkedPosting_eq (hr : Coherent r) {b : Booking}
    (hb : getEntity r .booking b.id = some b) : linkedPosting r b = namedPosting r b :=
  @linkedObject_eq r hr .booking ⟨.posting, "postingId", "posting"⟩ (by decide) b hb

/-- The results of a stream are the remote bookings on its side. -/
theorem results_perm (hnow : |nowMs| ≤ DateTime.maxMillisecondsSinceEpoch) {s : ListenerState}
    (h : StoreInv z nowMs checkOut s) (hsettled : s.Settled) :
    ((results s.realm nowMs stream).map Prod.fst).Perm
      (remoteBookings z nowMs s.docs stream) := by
  have hnodup : (remoteBookings z nowMs s.docs stream).Nodup :=
    nodup_remoteBookings h.listening.docs
  rw [List.perm_ext_iff_of_nodup (nodup_results hnow s.realm) hnodup]
  intro b
  have hrow : getEntity s.realm .booking b.id = decodedRow z .booking s.docs b.id :=
    h.row_eq hsettled b.id
  rw [mem_results_iff hnow, Realm.mem_entities_iff, mem_remoteBookings_iff h.listening.docs,
    ← hrow]
  rfl

theorem storeInv_step (h : StoreInv z nowMs checkOut s.store)
    (he : Undisturbed z checkOut s e) (hstep : step z text nowMs s e = some s') :
    StoreInv z nowMs checkOut s'.store := by
  cases e with
  | remote a =>
      obtain ⟨store, hstore, rfl⟩ := Option.map_eq_some_iff.mp hstep
      exact h.step he hstore
  | stored realm =>
      cases hstep
      exact h.stored he.1 he.2
  | deliver stream =>
      simp only [step] at hstep
      split_ifs at hstep
      cases hstep
      exact h

theorem trips_perm (hnow : |nowMs| ≤ DateTime.maxMillisecondsSinceEpoch) (h : Inv z text nowMs s)
    (hstore : StoreInv z nowMs checkOut s.store) (hsettled : s.store.Settled)
    (hcurrent : (s.observed stream).pending = false) :
    (s.state.trips stream).Perm
      ((remoteBookings z nowMs s.store.docs stream).map (tripItem z text s.store.realm)) := by
  rw [h.entries, h.current stream hcurrent, results_eq_map, bookingsToTripModels, List.map_map]
  have hitems : ∀ b ∈ (results s.store.realm nowMs stream).map Prod.fst,
      bookingToTripModel z text (b, linkedPosting s.store.realm b) =
        tripItem z text s.store.realm b := by
    intro b hb
    have hstored := (@Realm.mem_entities_iff s.store.realm .booking b).mp
      ((mem_results_iff hnow).mp hb).1
    rw [tripItem, linkedPosting_eq hstore.coherent hstored]
  exact (List.map_congr_left hitems) ▸ (results_perm hnow hstore hsettled).map _

/-- If every booking that is stored at the opening is one of the remote database, nobody else
listens to bookings, and all are well typed and keep their check-out: whatever is booked and
cancelled, in whatever order the snapshots come and whatever else is stored meanwhile, when all
snapshots have been handled and both streams have delivered, each remote booking is listed once, on
its side, with the posting it names. -/
theorem lists_remote_bookings (z : Zone) (text : DoubleText) (now : DateTime) (hnow : now.Storable)
    (docs : DartMap Doc) (realm : Realm) (checkOut : String → ℤ)
    (hdocs : ∀ e ∈ docs.entries, ChecksOutAt z e.1 e.2 (checkOut e.1)) (hr : Coherent realm)
    (hstored : ∀ id, (getEntity realm .booking id).isSome → id ∈ docs) (events : List TripsEvent)
    (h : Execution.StepsMeet (step z text now.millisecondsSinceEpoch) (Undisturbed z checkOut)
      (start z now.millisecondsSinceEpoch ⟨docs, ∅, realm⟩) events) :
    Execution.Always (step z text now.millisecondsSinceEpoch) (fun s => s.store.Settled →
        (∀ stream, (s.observed stream).pending = false) →
          ListsRemote z text now.millisecondsSinceEpoch s)
      (start z now.millisecondsSinceEpoch ⟨docs, ∅, realm⟩) events := by
  have hopened : StoreInv z now.millisecondsSinceEpoch checkOut
      (start z now.millisecondsSinceEpoch ⟨docs, ∅, realm⟩).store := by
    change StoreInv z _ checkOut (listen z _ ⟨docs, ∅, realm⟩)
    rw [listen_eq]
    exact storeInv_opened hdocs hr hstored
  refine (Execution.always_of_stepsMeet
    (P := fun s => Inv z text now.millisecondsSinceEpoch s ∧ StoreInv z _ checkOut s.store)
    (fun _ _ _ hs he hstep => ⟨inv_step hs.1 hstep, storeInv_step hs.2 he hstep⟩)
    ⟨inv_start _, hopened⟩ h).mono ?_
  rintro s ⟨hinv, hstore⟩ hsettled hcurrent
  have htrips (stream : TripsStream) := trips_perm hnow hinv hstore hsettled (hcurrent stream)
  refine ⟨htrips, ((htrips .upcoming).append (htrips .previous)).trans ?_⟩
  rw [← List.map_append]
  exact (remoteBookings_append_perm hstore.listening.docs).map _

def pastStay : DartMap Doc := DartMap.ofList [("b1", secondNight)]

def nextStay : Doc := DartMap.ofList [("id", .string "b2"), ("posting_id", .string "p1"),
  ("user_id", .string "g1"), ("check_in", .int 259200000), ("check_out", .int 345600000)]

def pastStored : Realm :=
  StoreOp.apply Realm.empty
    (.createFromEntity .booking ⟨"b1", some "p1", some "g1", none, none, none⟩)

def stayBooked : List TripsEvent :=
  [.remote (.deliver (BookingRepository.checkOutBeforeQuery 200000000).build),
    .remote (.set "b2" nextStay),
    .remote (.deliver (BookingRepository.checkOutFromQuery 200000000).build),
    .remote (.deliver (BookingRepository.checkOutFromQuery 200000000).build),
    .remote (.deliver (BookingRepository.checkOutBeforeQuery 200000000).build),
    .deliver .upcoming, .deliver .previous]

theorem mem_pastStay (id : String) (hid : (getEntity pastStored .booking id).isSome) :
    id ∈ pastStay := by
  rw [pastStored, StoreOp.apply, getEntity_createUnawaited] at hid
  split_ifs at hid with hsame
  · rw [hsame.2]
    decide
  · cases hid

theorem lists_remote_bookings_stayBooked : ∃ s,
    Execution.run (step Zone.utc wholeText 200000000)
      (start Zone.utc 200000000 ⟨pastStay, ∅, pastStored⟩) stayBooked = some s ∧
    s.state.upcomingTrips.map (fun item => item.id) = ["b2"] ∧
    ListsRemote Zone.utc wholeText 200000000 s := by
  have hrun : (Execution.run (step Zone.utc wholeText 200000000)
      (start Zone.utc 200000000 ⟨pastStay, ∅, pastStored⟩) stayBooked).map (fun s =>
        (s.state.upcomingTrips.map (fun item => item.id), decide s.store.Settled,
          (s.observed .upcoming).pending, (s.observed .previous).pending)) =
        some (["b2"], true, false, false) := by
    decide +kernel
  obtain ⟨s, hs, hitems⟩ := Option.map_eq_some_iff.mp hrun
  simp only [Prod.mk.injEq, decide_eq_true_eq] at hitems
  obtain ⟨hupcoming, hsettled, hpending, hpending'⟩ := hitems
  have hdocs : ∀ e ∈ pastStay.entries, ChecksOutAt Zone.utc e.1 e.2
      (if e.1 = "b1" then 172800000 else 345600000) :=
    List.forall_mem_cons.mpr ⟨⟨by decide, rfl⟩, nofun⟩
  have halways := lists_remote_bookings Zone.utc wholeText ⟨200000000000, true⟩ (by decide) pastStay
    pastStored (fun id => if id = "b1" then 172800000 else 345600000) hdocs
    (links_coherent_of_reachable [_]) mem_pastStay stayBooked
    (Execution.stepsMeet_cons trivial rfl (Execution.stepsMeet_cons ⟨by decide, rfl⟩ rfl
      (Execution.stepsMeet_cons trivial rfl (Execution.stepsMeet_cons trivial rfl
        (Execution.stepsMeet_cons trivial rfl (Execution.stepsMeet_cons trivial rfl
          (Execution.stepsMeet_cons trivial rfl trivial)))))))
  exact ⟨s, hs, hupcoming, halways.final hs hsettled (fun stream => by cases stream <;> assumption)⟩

end Screen

end TripsScreen

end AirBnbClone
