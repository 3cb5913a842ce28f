import AirBnbClone.FetchThenRead

/-!
# The search of the Explore screen

`getPostingsForExplore` fetches by order comparisons on three fields and filters the local rows by
a substring search in the same fields. The comparisons come in pairs that no text can fail together,
so that each field a posting has is accepted. The results are also ordered by the three fields,
though, and a posting that lacks one of them is not fetched, whatever the others contain.
-/

namespace AirBnbClone

open FirestoreMapper FireStoreService RealmService RealmQueryBuilder

namespace PostingRepository

/-- The end of the range of texts that start with the search text. -/
def upperBound (searchTxt : String) : String := searchTxt ++ "\uf8ff"

/-- Both comparisons of one field with the search text. -/
def textRange (field searchTxt : String) : List Condition :=
  [⟨field, .isGreaterThanOrEqualTo, .string searchTxt⟩,
    ⟨field, .isLessThanOrEqualTo, .string (upperBound searchTxt)⟩]

def searchFilter (searchTxt : String) : Filter :=
  .or (textRange "name" searchTxt ++ textRange "address" searchTxt ++ textRange "type" searchTxt)

def exploreQuery (searchTxt : String) : FirestoreQueryBuilder :=
  let query := FirestoreQueryBuilder.new FirestoreCollection.posting
  if searchTxt ≠ "" then query.filter (searchFilter searchTxt) else query

def localExplore (searchTxt : String) : RealmQueryBuilder :=
  if searchTxt ≠ "" then RealmQueryBuilder.new.orContains ["name", "address", "type"] searchTxt
  else RealmQueryBuilder.new

def getPostingsForExplore [Rql.CaseFolding] (z : Zone) (searchTxt : String) (w : World) :
    Except DartError (List Posting) × World :=
  match getCollection z .posting (exploreQuery searchTxt) w with
  | (.error e, w) => (.error e, w)
  | (.ok (), w) => (.ok (getEntities w.realm .posting (localExplore searchTxt)), w)

end PostingRepository

open PostingRepository

/-- The text contains the search text, up to the case of its letters. -/
def ContainsFold [Rql.CaseFolding] (searchTxt text : String) : Prop :=
  Rql.CaseFolding.fold searchTxt <:+: Rql.CaseFolding.fold text

def Searched [Rql.CaseFolding] (searchTxt : String) (D : Doc) : Prop :=
  searchTxt = "" ∨ ∃ key ∈ ["name", "address", "type"], ∃ text,
    D.get key = .string text ∧ ContainsFold searchTxt text

def HasSearchedFields (D : Doc) : Prop :=
  ∀ key ∈ ["name", "address", "type"], (D.lookup key).isSome

instance (D : Doc) : Decidable (HasSearchedFields D) :=
  inferInstanceAs (Decidable (∀ key ∈ ["name", "address", "type"], (D.lookup key).isSome))

section Range

theorem le_append (s t : String) : s ≤ s ++ t := by
  rw [← String.not_lt]
  intro hlt
  have hlists : ¬ s.toList ++ t.toList < s.toList := List.not_lt.mpr List.le_append_left
  rw [← String.toList_append] at hlists
  exact hlists hlt

/-- No text lies before a prefix and after an extension of it. -/
theorem le_or_le_append (s t v : String) : s ≤ v ∨ v ≤ s ++ t := by
  obtain h | h := String.le_total s v
  · exact .inl h
  · exact .inr (String.le_trans h (le_append s t))

variable {key searchTxt text : String} {D : Doc}

theorem accepts_textRange (hkey : D.get key = .string text) :
    ∃ c ∈ textRange key searchTxt, c.accepts D = true := by
  have hlookup : D.lookup key = some (.string text) :=
    Doc.lookup_of_get hkey (by simp [Value.string])
  obtain hle | hle := le_or_le_append searchTxt "\uf8ff" text
  · refine ⟨_, List.mem_cons_self, ?_⟩
    have horder : compareOfLessAndEq text searchTxt ≠ .lt := by
      rw [Ne, compareOfLessAndEq_eq_lt]
      exact String.not_lt.mpr hle
    simp only [Condition.accepts, hlookup, Bool.and_eq_true, bne_iff_ne]
    exact ⟨rfl, horder⟩
  · refine ⟨_, List.mem_cons_of_mem _ List.mem_cons_self, ?_⟩
    have horder : compareOfLessAndEq text (upperBound searchTxt) ≠ .gt := by
      rw [Ne, compareOfLessAndEq_eq_gt String.le_antisymm String.le_total String.not_le]
      exact String.not_lt.mpr hle
    simp only [Condition.accepts, hlookup, Bool.and_eq_true, bne_iff_ne]
    exact ⟨rfl, horder⟩

theorem mem_searchFilter_iff {c : Condition} : c ∈ (searchFilter searchTxt).flattened ↔
    ∃ key ∈ ["name", "address", "type"], c ∈ textRange key searchTxt := by
  simp only [searchFilter, Filter.flattened, List.mem_append, List.exists_mem_cons_iff,
    List.not_mem_nil, false_and, exists_const, or_false, or_assoc]

theorem accepts_searchFilter (hkey : key ∈ ["name", "address", "type"])
    (htext : D.get key = .string text) : (searchFilter searchTxt).accepts D = true := by
  obtain ⟨c, hc, haccepts⟩ : ∃ c ∈ textRange key searchTxt, c.accepts D = true :=
    accepts_textRange htext
  exact List.any_eq_true.mpr ⟨c, mem_searchFilter_iff.mpr ⟨key, hkey, hc⟩, haccepts⟩

/-- The documents of a search are also ordered by the three fields. -/
theorem accepts_search_iff {b : FirestoreQueryBuilder}
    (hfilter : b.filter? = some (searchFilter searchTxt)) (horder : b.orderByQueries = []) :
    b.build.accepts D = true ↔
      (searchFilter searchTxt).accepts D = true ∧ HasSearchedFields D := by
  rw [Query.accepts_build_iff hfilter, horder]
  refine and_congr_right fun _ => ?_
  constructor
  · rintro ⟨-, hfields⟩ key hkey
    exact hfields ⟨key, .isGreaterThanOrEqualTo, .string searchTxt⟩
      (mem_searchFilter_iff.mpr ⟨key, hkey, List.mem_cons_self⟩) rfl
  · intro hfields
    refine ⟨List.forall_mem_nil _, fun c hc _ => ?_⟩
    obtain ⟨key, hkey, hc⟩ := mem_searchFilter_iff.mp hc
    have hcfield : c.field = key := by
      simp only [textRange, List.mem_cons, List.not_mem_nil, or_false] at hc
      rcases hc with rfl | rfl <;> rfl
    rw [hcfield]
    exact hfields key hkey

/-- A text is searched among the documents that have all three fields. -/
theorem accepts_exploreQuery_iff [Rql.CaseFolding] (h : Searched searchTxt D) :
    (exploreQuery searchTxt).build.accepts D = true ↔ searchTxt = "" ∨ HasSearchedFields D := by
  unfold exploreQuery
  by_cases hempty : searchTxt = ""
  · rw [if_neg (not_not.mpr hempty)]
    exact iff_of_true rfl (.inl hempty)
  · obtain ⟨key, hkey, text, htext, -⟩ := h.resolve_left hempty
    rw [if_pos hempty, accepts_search_iff rfl rfl, or_iff_right hempty]
    exact and_iff_right (accepts_searchFilter hkey htext)

end Range

section Local

variable {z : Zone} {T : Model} {searchTxt text : String} {D : Doc}

theorem represents_localExplore (h : searchTxt ≠ "") : (localExplore searchTxt).Represents
    [.anyOf ⟨"name", .containsFold, 0⟩ [⟨"address", .containsFold, 0⟩, ⟨"type", .containsFold, 0⟩]]
    [] := by
  have hfields : ∀ f ∈ ["address", "type"], Rql.Plain f.toList := by decide
  rw [localExplore, if_pos h]
  exact represents_new.orContains (by decide) hfields h

theorem exists_represents_localExplore (searchTxt : String) :
    ∃ cs, (localExplore searchTxt).Represents cs [] := by
  by_cases h : searchTxt = ""
  · rw [localExplore, if_neg (not_not.mpr h)]
    exact ⟨_, represents_new⟩
  · exact ⟨_, represents_localExplore h⟩

theorem limit?_localExplore (searchTxt : String) : (localExplore searchTxt).limit? = none := by
  unfold localExplore RealmQueryBuilder.orContains
  split_ifs <;> rfl

theorem queryValues_localExplore (h : searchTxt ≠ "") :
    (localExplore searchTxt).queryValues = [.string searchTxt] := by
  have hempty : ¬ searchTxt.isEmpty = true := by simpa using h
  rw [localExplore, if_pos h, RealmQueryBuilder.orContains, if_neg hempty]
  rfl

/-- A text field and the property decoded from it contain the same. -/
theorem accepts_containsFold [Rql.CaseFolding] {e : Entity T} (he : fromMap z T D = .ok e)
    {key name : String} {i n : ℕ} {values : List Scalar} (hname : (propertyNames T)[i]? = some name)
    (hfield : (fieldDecoders z T)[i]? = some (field key Cast.string? .text?))
    (hkey : D.get key = .string text) (hvalue : values[n]? = some (.string searchTxt))
    (hcontains : ContainsFold searchTxt text) :
    Rql.Comparison.accepts values (Entity.property T e) ⟨name, .containsFold, n⟩ = true := by
  obtain ⟨a, ha, hproperty⟩ := property_of_fromMap_ok he hname hfield
  rw [hkey] at ha
  cases ha
  simp only [Rql.Comparison.accepts, hproperty, hvalue]
  exact decide_eq_true hcontains

/-- The row of a posting that is searched for is found. -/
theorem accepts_localExplore [Rql.CaseFolding] {k : String} {e : Posting} (h : Searched searchTxt D)
    (he : fromDocumentSnapshot z .posting k D = .ok e) :
    (localExplore searchTxt).accepts .posting e = true := by
  by_cases hempty : searchTxt = ""
  · rw [localExplore, if_neg (not_not.mpr hempty)]
    exact represents_new.accepts_eq .posting e
  · obtain ⟨key, hkey, text, htext, hcontains⟩ := h.resolve_left hempty
    have hvalue : (localExplore searchTxt).queryValues[0]? = some (.string searchTxt) := by
      rw [queryValues_localExplore hempty]
      rfl
    rw [(represents_localExplore hempty).accepts_eq]
    simp only [List.all_cons, List.all_nil, Bool.and_true, Rql.Clause.accepts, List.any_cons,
      List.any_nil, Bool.or_false, Bool.or_eq_true]
    have hget (hid : key ≠ "id") : (withSnapshotId k D).get key = .string text := by
      rw [withSnapshotId_get_of_ne hid, htext]
    simp only [List.mem_cons, List.not_mem_nil, or_false] at hkey
    obtain rfl | rfl | rfl := hkey
    · exact .inl (accepts_containsFold (i := 1) he rfl rfl (hget (by decide)) hvalue hcontains)
    · exact .inr (.inl
        (accepts_containsFold (i := 5) he rfl rfl (hget (by decide)) hvalue hcontains))
    · exact .inr (.inr
        (accepts_containsFold (i := 2) he rfl rfl (hget (by decide)) hvalue hcontains))

end Local

theorem limit_exploreQuery (searchTxt : String) : (exploreQuery searchTxt).build.limit = none := by
  unfold exploreQuery
  split_ifs <;> rfl

theorem collection_exploreQuery (searchTxt : String) :
    (exploreQuery searchTxt).collection = FirestoreCollection.posting := by
  unfold exploreQuery
  split_ifs <;> rfl

/-- A remote posting that the search is for is fetched, and its row is part of the answer, exactly
if nothing is searched for or the posting has all the fields that are searched. -/
theorem explore_search_complete_iff [Rql.CaseFolding] (z : Zone) (searchTxt : String) (w : World)
    (hread : Readable z .posting (w.remote.docs FirestoreCollection.posting)) :
    ∃ postings w', getPostingsForExplore z searchTxt w = (.ok postings, w') ∧
      ∀ k D, w.remote.doc FirestoreCollection.posting k = some D → Searched searchTxt D →
        ((((exploreQuery searchTxt).build.results
            (w.remote.docs FirestoreCollection.posting)).lookup k = some D ∧
          ∃ e ∈ postings, fromDocumentSnapshot z .posting k D = .ok e) ↔
        (searchTxt = "" ∨ HasSearchedFields D)) := by
  have hreadable : Readable z .posting (w.remote.docs (exploreQuery searchTxt).collection) := by
    rwa [collection_exploreQuery]
  obtain ⟨r', hfetch, hrows⟩ := getCollection_of_readable hreadable
  rw [collection_exploreQuery] at hrows
  refine ⟨getEntities r' .posting (localExplore searchTxt), { w with realm := r' }, ?_, ?_⟩
  · simp only [getPostingsForExplore, hfetch]
  intro k D hD hsearched
  rw [← accepts_exploreQuery_iff hsearched]
  constructor
  · rintro ⟨hselected, -⟩
    exact (Query.mem_of_lookup_results hselected).2
  · intro haccepts
    have hselected : ((exploreQuery searchTxt).build.results
        (w.remote.docs FirestoreCollection.posting)).lookup k = some D :=
      AList.mem_lookup_iff.mpr (Query.mem_entries_results (limit_exploreQuery searchTxt)
        (AList.mem_lookup_iff.mp hD) haccepts)
    obtain ⟨e, he, hrow⟩ := (hrows k).1 D hselected
    have hid : Entity.id .posting e = k := id_of_getEntity hrow
    obtain ⟨cs, hrepresents⟩ := exists_represents_localExplore searchTxt
    refine ⟨hselected, e, ?_, he⟩
    rw [mem_getEntities_iff hrepresents (limit?_localExplore searchTxt), hid]
    exact ⟨hrow, accepts_localExplore hsearched he⟩

def postingWorld (D : Doc) : World where
  remote := Firestore.empty.set FirestoreCollection.posting "p1" D
  realm := Realm.empty

theorem readable_postingWorld {D : Doc} (hid : OwnId "p1" D)
    (hdecodes : ∃ e, fromDocumentSnapshot Zone.utc .posting "p1" D = .ok e) :
    Readable Zone.utc .posting ((postingWorld D).remote.docs FirestoreCollection.posting) :=
  (readable_empty _ _).insert hid hdecodes

def seaView : Doc :=
  DartMap.ofList [("name", .string "Loft"), ("address", .string "1 Sea View"),
    ("type", .string "Flat")]

theorem explore_search_complete_seaView :
    ∃ postings w',
      getPostingsForExplore Zone.utc "sea" (postingWorld seaView) = (.ok postings, w') ∧
      ∃ e ∈ postings, fromDocumentSnapshot Zone.utc .posting "p1" seaView = .ok e := by
  obtain ⟨postings, w', hcall, hall⟩ := explore_search_complete_iff Zone.utc "sea"
    (postingWorld seaView) (readable_postingWorld ⟨by decide, .inl rfl⟩ ⟨_, rfl⟩)
  have hsearched : Searched "sea" seaView :=
    .inr ⟨"address", by decide, "1 Sea View", rfl, ['1', ' '], [' ', 'v', 'i', 'e', 'w'], by decide⟩
  exact ⟨postings, w', hcall, ((hall "p1" seaView rfl hsearched).mpr (.inr (by decide))).2⟩

def untypedSeaView : Doc :=
  DartMap.ofList [("name", .string "Loft"), ("address", .string "1 Sea View")]

/-- It contains the search text and is not selected, and the answer is empty. -/
theorem untypedSeaView_is_missed :
    Readable Zone.utc .posting
        ((postingWorld untypedSeaView).remote.docs FirestoreCollection.posting) ∧
      Searched "sea" untypedSeaView ∧
      ((exploreQuery "sea").build.results ((postingWorld untypedSeaView).remote.docs
        FirestoreCollection.posting)).lookup "p1" = none ∧
      (getPostingsForExplore Zone.utc "sea" (postingWorld untypedSeaView)).1 = .ok [] := by
  refine ⟨readable_postingWorld ⟨by decide, .inl rfl⟩ ⟨_, rfl⟩, ?_, ?_, ?_⟩
  · exact .inr ⟨"address", by decide, "1 Sea View", rfl, ['1', ' '], [' ', 'v', 'i', 'e', 'w'],
      by decide⟩
  · decide
  · decide

end AirBnbClone
