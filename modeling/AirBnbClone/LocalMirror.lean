import AirBnbClone.FireStoreService

/-!
# When an update keeps the local row equal to the remote document

Firestore merges a partial map into the document, while the local row is rebuilt from the partial
map alone. The two agree exactly when the map leaves the document's identity alone and every field
that it does not mention reads, in the document, as an absent field would.
-/

namespace AirBnbClone.FireStoreService

open FirestoreMapper RealmService

variable {z : Zone} {T : Model} {id : String} {data D : Doc}

/-- Fields missing from `data` are ones that `D` leaves at their default. -/
def UnmentionedAreDefault (z : Zone) (T : Model) (data D : Doc) : Prop :=
  ∀ f ∈ fieldDecoders z T, f.key ≠ "id" → f.key ∉ data → f.decode (D.get f.key) = f.decode .null

def KeepsIdentity (id : String) (data : Doc) : Prop :=
  data.lookup "id" = none ∨ data.lookup "id" = some (.string id)

theorem idString_eq_ok_iff (v : Value) (s : String) :
    Cast.idString v = .ok s ↔ v = .string s ∨ (v = .null ∧ s = "") := by
  constructor
  · intro h
    unfold Cast.idString at h
    split at h
    · exact Or.inr ⟨rfl, (Except.ok.inj h).symm⟩
    · exact Or.inl (congrArg Value.string (Except.ok.inj h))
    · cases h
  · rintro (rfl | ⟨rfl, rfl⟩) <;> rfl

/-- The document that the row is rebuilt from. -/
theorem get_withId_of_keepsIdentity (h : KeepsIdentity id data) (k : String) :
    (withId id data).get k = if k = "id" then .string id else data.get k := by
  rw [get_withId]
  by_cases hk : k = "id"
  · subst hk
    rcases h with h | h
    · simp [Doc.get, h, isNullOrEmpty]
    · simp [Doc.get, h]
  · simp [hk]

theorem decode_id_of_keepsIdentity (hid : Cast.idString (D.get "id") = .ok id)
    (h : KeepsIdentity id data) : Cast.idString ((data ∪ D).get "id") = .ok id := by
  rw [Doc.get_union]
  rcases h with h | h
  · rw [if_neg (AList.lookup_eq_none.mp h)]
    exact hid
  · rw [if_pos (FiniteMap.mem_of_lookup_eq_some h)]
    simp [Doc.get, h, Cast.idString]

/-- Under every key, the partial map and the merged document read alike or the key is one that
`data` does not mention. -/
theorem decode_withId_eq_iff (hD : Cast.idString (D.get "id") = .ok id) (h : KeepsIdentity id data)
    {f : FieldDecoder} (hf : f ∈ fieldDecoders z T) :
    f.decode ((withId id data).get f.key) = f.decode ((data ∪ D).get f.key) ↔
      (f.key ≠ "id" → f.key ∉ data → f.decode (D.get f.key) = f.decode .null) := by
  by_cases hk : f.key = "id"
  · simp only [decode_of_key_id hf hk, hk, get_withId_of_keepsIdentity h, if_true,
      decode_id_of_keepsIdentity hD h, ne_eq, not_true_eq_false, false_implies, iff_true]
    rfl
  · rw [get_withId_of_keepsIdentity h, if_neg hk, Doc.get_union]
    by_cases hm : f.key ∈ data
    · simp [hm]
    · simp only [Doc.get_of_notMem hm, ne_eq, hk, not_false_eq_true, true_implies, hm]
      exact eq_comm

theorem exists_merged {row e : Entity T} (hrow : fromMap z T D = .ok row)
    (he : fromMap z T (withId id data) = .ok e) (hid : Entity.id T row = id)
    (h : KeepsIdentity id data) : ∃ m, fromMap z T (data ∪ D) = .ok m := by
  have hD : Cast.idString (D.get "id") = .ok id := hid ▸ idString_of_fromMap_ok hrow
  apply exists_fromMap_ok
  intro f hf
  by_cases hm : f.key ∉ data
  · rw [Doc.get_union, if_neg hm]
    exact decode_ok_of_fromMap_ok hrow f hf
  · have heq := (decode_withId_eq_iff (z := z) (T := T) hD h hf).mpr (fun _ hn => absurd hn hm)
    rw [← heq]
    exact decode_ok_of_fromMap_ok he f hf

/-- With the identity kept, the rebuilt row is the merged document exactly when `data` leaves out
only defaults. -/
theorem rebuilt_eq_merged_iff {row e m : Entity T} (hrow : fromMap z T D = .ok row)
    (he : fromMap z T (withId id data) = .ok e) (hm : fromMap z T (data ∪ D) = .ok m)
    (hid : Entity.id T row = id) (h : KeepsIdentity id data) :
    e = m ↔ UnmentionedAreDefault z T data D := by
  have hD : Cast.idString (D.get "id") = .ok id := hid ▸ idString_of_fromMap_ok hrow
  rw [entity_eq_iff he hm]
  constructor
  · intro hall f hf
    exact (decode_withId_eq_iff hD h hf).mp (hall f hf)
  · intro hall f hf
    exact (decode_withId_eq_iff hD h hf).mpr (hall f hf)

/-- A map that names another identity, or none, is decoded under a key that is not `id`. -/
theorem merged_id_ne {m : Entity T} (hne : id ≠ "") (hm : fromMap z T (data ∪ D) = .ok m)
    (h : ¬ KeepsIdentity id data) : Entity.id T m ≠ id := by
  intro hid
  have hstr := idString_of_fromMap_ok hm
  rw [hid, idString_eq_ok_iff] at hstr
  have hmem : "id" ∈ data := by
    by_contra hn
    exact h (Or.inl (AList.lookup_eq_none.mpr hn))
  rw [Doc.get_union, if_pos hmem] at hstr
  rcases hstr with hs | ⟨_, hs⟩
  · obtain ⟨v, hv⟩ := Option.ne_none_iff_exists'.mp ((FiniteMap.mem_iff_lookup_ne_none _ _).mp hmem)
    have hvs : v = .string id := by simpa [Doc.get, hv] using hs
    exact h (Or.inr (hvs ▸ hv))
  · exact hne hs

/-- After an update that returns normally, the local row is the decoded merged document if and only
if the map keeps the identity and leaves out only fields that are at their default. -/
theorem updateDoc_mirrors_iff (z : Zone) (T : Model) (collection id : String) (data D : Doc)
    (w w' : World) (row : Entity T) (hne : id ≠ "") (hD : w.remote.doc collection id = some D)
    (hdec : fromMap z T D = .ok row) (hrow : getEntity w.realm T id = some row)
    (hup : updateDoc z T collection id data w = (.ok (), w')) :
    (∃ m, fromMap z T (data ∪ D) = .ok m ∧ getEntity w'.realm T id = some m) ↔
      KeepsIdentity id data ∧ UnmentionedAreDefault z T data D := by
  obtain ⟨D', e, hD', he, rfl⟩ := updateDoc_eq_ok hup
  obtain rfl : D' = D := Option.some.inj (hD'.symm.trans hD)
  have hid := id_of_getEntity hrow
  by_cases hk : KeepsIdentity id data
  · obtain ⟨m, hm⟩ := exists_merged hdec he hid hk
    have heid : Entity.id T e = id := by
      have hstr := idString_of_fromMap_ok he
      rw [get_withId_of_keepsIdentity hk, if_pos rfl] at hstr
      exact (Except.ok.inj hstr).symm
    have hnew : getEntity (createUnawaited w.realm T e) T id = some e := by
      rw [getEntity_createUnawaited_self (heid ▸ hne), if_pos heid.symm]
    simp only [hk, true_and, hnew, hm, Except.ok.injEq, Option.some.injEq, exists_eq_left']
    exact rebuilt_eq_merged_iff hdec he hm hid hk
  · simp only [hk, false_and, iff_false]
    rintro ⟨m, hm, hlocal⟩
    exact merged_id_ne hne hm hk (id_of_getEntity hlocal)

def deviceHolding (T : Model) (collection id : String) (D : Doc) (e : Entity T) : World :=
  ⟨Firestore.empty.set collection id D, createUnawaited Realm.empty T e⟩

def guestDoc : Doc :=
  DartMap.ofList [("id", .string "u1"), ("email", .string "ann@mail.com"), ("earning", .double 5)]

def guestRow : User :=
  ⟨"u1", some "ann@mail.com", none, none, none, none, none, none, none, none, false, some 5⟩

/-- `updateUser("u1", {"earning": 125.0})` erases the local e-mail address. -/
theorem updateDoc_drops_email :
    ∃ w w' : World, w.remote.doc "users" "u1" = some guestDoc ∧
      fromMap Zone.utc .user guestDoc = .ok guestRow ∧
      getEntity w.realm .user "u1" = some guestRow ∧
      updateDoc Zone.utc .user "users" "u1" (DartMap.ofList [("earning", .double 125)]) w =
        (.ok (), w') ∧
      ¬ ∃ m, fromMap Zone.utc .user (DartMap.ofList [("earning", .double 125)] ∪ guestDoc) = .ok m ∧
        getEntity w'.realm .user "u1" = some m := by
  refine ⟨deviceHolding .user "users" "u1" guestDoc guestRow, _, rfl, rfl, rfl, rfl, ?_⟩
  rintro ⟨m, hm, hlocal⟩
  have hmerged : m = { guestRow with earning := some 125 } := (Except.ok.inj hm).symm
  have hrebuilt : some { guestRow with email := none, earning := some 125 } = some m := hlocal
  rw [hmerged] at hrebuilt
  exact absurd (congrArg (Option.map User.email) hrebuilt) (by decide)

def earningOnlyDoc : Doc := DartMap.ofList [("id", .string "u1"), ("earning", .double 5)]

def earningOnlyRow : User :=
  ⟨"u1", none, none, none, none, none, none, none, none, none, false, some 5⟩

theorem updateDoc_mirrors_iff_earningOnly :
    ∃ m,
      fromMap Zone.utc .user (DartMap.ofList [("earning", .double 125)] ∪ earningOnlyDoc) = .ok m ∧
      getEntity (updateDoc Zone.utc .user "users" "u1" (DartMap.ofList [("earning", .double 125)])
        (deviceHolding .user "users" "u1" earningOnlyDoc earningOnlyRow)).2.realm .user "u1" =
        some m := by
  refine (updateDoc_mirrors_iff Zone.utc .user "users" "u1"
    (DartMap.ofList [("earning", .double 125)]) earningOnlyDoc
    (deviceHolding .user "users" "u1" earningOnlyDoc earningOnlyRow) _ earningOnlyRow
    (by decide) rfl rfl rfl rfl).mpr ⟨Or.inl rfl, ?_⟩
  intro f hf
  simp only [fieldDecoders, List.mem_cons, List.not_mem_nil, or_false] at hf
  rcases hf with rfl | rfl | rfl | rfl | rfl | rfl | rfl | rfl | rfl | rfl | rfl | rfl <;>
    intro hk hn <;> first | rfl | exact absurd rfl hk | exact absurd (by decide) hn

end AirBnbClone.FireStoreService
