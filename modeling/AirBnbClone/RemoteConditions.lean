import AirBnbClone.ExploreSearch

/-!
# The conditions of a remote query

`FirestoreQueryBuilder` keeps the equalities, the filter, the orders and the limit apart. `build`
puts them together, but leaves the equalities out once a filter is set, so that a search among the
postings of a host searches the postings of all hosts. The filter of a search narrows nothing down:
every text lies after the search text or before the end of its range.
-/

namespace AirBnbClone

inductive FirestoreCall
  | equalTo (field : String) (value : Value)
  | filter (f : Filter)
  | orderBy (field : String) (descending : Bool)
  | limit (maxResults : ℤ)

namespace FirestoreCall

def apply (b : FirestoreQueryBuilder) : FirestoreCall → FirestoreQueryBuilder
  | equalTo field value => b.equalTo field value
  | filter f => b.filter f
  | orderBy field descending => b.orderBy field descending
  | limit maxResults => b.limit maxResults

def equality? : FirestoreCall → Option Condition
  | equalTo field value => some ⟨field, .isEqualTo, value⟩
  | _ => none

def filter? : FirestoreCall → Option Filter
  | filter f => some f
  | _ => none

def orderBy? : FirestoreCall → Option (String × Bool)
  | orderBy field descending => some (field, descending)
  | _ => none

def limit? : FirestoreCall → Option ℤ
  | limit maxResults => some maxResults
  | _ => none

end FirestoreCall

def queryOf (collection : String) (calls : List FirestoreCall) : Query :=
  (calls.foldl FirestoreCall.apply (.new collection)).build

def lastPositive (limits : List ℤ) : Option ℕ :=
  (limits.filter (fun lim => decide (0 < lim))).getLast?.map Int.toNat

/-- Every condition that was added counts. -/
structure AppliesAll (collection : String) (calls : List FirestoreCall) : Prop where
  equalities : ∀ docs, ∀ e ∈ ((queryOf collection calls).results docs).entries,
    ∀ c ∈ calls.filterMap FirestoreCall.equality?, c.accepts e.2 = true
  filter : ∀ docs, ∀ e ∈ ((queryOf collection calls).results docs).entries,
    ∀ f ∈ (calls.filterMap FirestoreCall.filter?).getLast?, f.accepts e.2 = true
  ordered : (queryOf collection calls).orderBy = calls.filterMap FirestoreCall.orderBy?
  limited : (queryOf collection calls).limit =
    lastPositive (calls.filterMap FirestoreCall.limit?)

/-- The equalities follow from the filter, if there is one, for the documents with the fields that
are ordered by and those of its range comparisons. -/
def FilterImplies (calls : List FirestoreCall) : Prop :=
  ∀ f ∈ (calls.filterMap FirestoreCall.filter?).getLast?, ∀ d : Doc, f.accepts d = true →
    (∀ o ∈ calls.filterMap FirestoreCall.orderBy?, (d.lookup o.1).isSome) →
    (∀ c ∈ f.flattened, c.comparison.isInequality = true → (d.lookup c.field).isSome) →
    ∀ c ∈ calls.filterMap FirestoreCall.equality?, c.accepts d = true

/-- No positive limit is taken back by a limit that is not. -/
def LimitsKept (calls : List FirestoreCall) : Prop :=
  ∀ lim ∈ (calls.filterMap FirestoreCall.limit?).getLast?,
    0 < lim ∨ ∀ lim' ∈ calls.filterMap FirestoreCall.limit?, lim' ≤ 0

section Builder

open FirestoreCall

theorem foldl_apply (collection : String) (calls : List FirestoreCall) :
    calls.foldl apply (.new collection) = {
      collection := collection
      equalQueries := (calls.filterMap equality?).map (fun c => (c.field, c.value))
      orderByQueries := calls.filterMap orderBy?
      limit? := (calls.filterMap FirestoreCall.limit?).getLast?
      filter? := (calls.filterMap FirestoreCall.filter?).getLast? } := by
  induction calls using List.reverseRecOn with
  | nil => rfl
  | append_singleton calls c ih =>
      rw [List.foldl_append, ih]
      cases c with
      | equalTo field value =>
          simp [apply, equality?, orderBy?, FirestoreCall.limit?, FirestoreCall.filter?,
            FirestoreQueryBuilder.equalTo]
      | filter f =>
          simp [apply, equality?, orderBy?, FirestoreCall.limit?, FirestoreCall.filter?,
            FirestoreQueryBuilder.filter]
      | orderBy field descending =>
          simp [apply, equality?, orderBy?, FirestoreCall.limit?, FirestoreCall.filter?,
            FirestoreQueryBuilder.orderBy]
      | limit maxResults =>
          simp [apply, equality?, orderBy?, FirestoreCall.limit?, FirestoreCall.filter?,
            FirestoreQueryBuilder.limit]

theorem equality_of_mem {calls : List FirestoreCall} {c : Condition}
    (h : c ∈ calls.filterMap equality?) : c.comparison = .isEqualTo := by
  obtain ⟨call, -, hcall⟩ := List.mem_filterMap.mp h
  cases call <;> cases hcall
  rfl

variable {collection : String} {calls : List FirestoreCall}

theorem orderBy_queryOf : (queryOf collection calls).orderBy = calls.filterMap orderBy? := by
  rw [queryOf, foldl_apply]
  rfl

theorem accepts_queryOf_iff {d : Doc} : (queryOf collection calls).accepts d = true ↔
    (match (calls.filterMap FirestoreCall.filter?).getLast? with
      | some f => f.accepts d = true ∧
          ∀ c ∈ f.flattened, c.comparison.isInequality = true → (d.lookup c.field).isSome
      | none => ∀ c ∈ calls.filterMap equality?, c.accepts d = true) ∧
    ∀ o ∈ calls.filterMap orderBy?, (d.lookup o.1).isSome := by
  rw [queryOf, foldl_apply]
  cases hfilter : (calls.filterMap FirestoreCall.filter?).getLast? with
  | some f => rw [Query.accepts_build_iff rfl, and_assoc, and_comm (b := ∀ c ∈ f.flattened, _)]
  | none =>
      rw [Query.accepts_build_eq rfl, Bool.and_eq_true]
      refine and_congr (List.all_eq_true.trans ?_) List.all_eq_true
      rw [List.forall_mem_map]
      refine forall₂_congr (fun c hc => ?_)
      obtain ⟨field, comparison, value⟩ := c
      cases equality_of_mem hc
      rfl

theorem limit_queryOf : (queryOf collection calls).limit =
    ((calls.filterMap FirestoreCall.limit?).getLast?.filter (fun lim => decide (0 < lim))).map
      Int.toNat := by
  rw [queryOf, foldl_apply]
  unfold FirestoreQueryBuilder.build
  cases (calls.filterMap FirestoreCall.limit?).getLast? with
  | none => rfl
  | some lim =>
      dsimp only
      by_cases hpos : 0 < lim
      · rw [if_pos hpos, Option.filter_some_pos (by simpa using hpos)]
        rfl
      · rw [if_neg hpos, Option.filter_some_neg (by simpa using hpos)]
        rfl

/-- A query that accepts a document selects it when it is the only one. -/
theorem mem_results_singleton {d : Doc} (h : (queryOf collection calls).accepts d = true)
    (id : String) :
    ⟨id, d⟩ ∈ ((queryOf collection calls).results (AList.singleton id d)).entries := by
  have hfilter : (AList.singleton id d : DartMap Doc).entries.filter
      (fun e => (queryOf collection calls).accepts e.2) = [⟨id, d⟩] :=
    List.filter_eq_self.mpr (by simpa [AList.singleton] using h)
  change _ ∈ Query.truncate _ (List.insertionSort _ (List.filter _ _))
  rw [hfilter, limit_queryOf]
  cases hlimit : (calls.filterMap FirestoreCall.limit?).getLast?.filter
      (fun lim => decide (0 < lim)) with
  | none => exact List.mem_singleton_self _
  | some lim =>
      have hpos : 0 < lim := by simpa using (Option.filter_eq_some_iff.mp hlimit).2
      obtain ⟨n, rfl⟩ := Int.eq_succ_of_zero_lt hpos
      exact List.mem_cons_self

theorem limited_iff : (queryOf collection calls).limit =
    lastPositive (calls.filterMap FirestoreCall.limit?) ↔ LimitsKept calls := by
  rw [limit_queryOf, lastPositive, LimitsKept]
  generalize calls.filterMap FirestoreCall.limit? = limits
  induction limits using List.reverseRecOn with
  | nil => simp
  | append_singleton limits lim _ =>
      rw [List.getLast?_concat, List.filter_append]
      by_cases hpos : 0 < lim
      · simp [hpos]
      · have hlast : [lim].filter (fun lim => decide (0 < lim)) = [] := by simp [hpos]
        have hall : (∀ lim' ∈ limits ++ [lim], lim' ≤ 0) ↔ ∀ lim' ∈ limits, lim' ≤ 0 := by
          rw [List.forall_mem_append, List.forall_mem_singleton, and_iff_left (not_lt.mp hpos)]
        rw [Option.filter_some_neg (by simpa using hpos), Option.map_none, hlast, List.append_nil,
          eq_comm, Option.map_eq_none_iff, List.getLast?_eq_none_iff, List.filter_eq_nil_iff]
        simp only [Option.mem_def, Option.some.injEq, forall_eq', hpos, false_or, hall,
          decide_eq_true_eq, not_lt]

end Builder

/-- The query applies everything exactly when no filter hides an equality and no limit is taken
back. -/
theorem appliesAll_iff (collection : String) (calls : List FirestoreCall) :
    AppliesAll collection calls ↔ FilterImplies calls ∧ LimitsKept calls := by
  constructor
  · intro h
    refine ⟨?_, limited_iff.mp h.limited⟩
    intro f hf d haccepts horder hfields c hc
    have hquery : (queryOf collection calls).accepts d = true := by
      rw [accepts_queryOf_iff, Option.mem_def.mp hf]
      exact ⟨⟨haccepts, hfields⟩, horder⟩
    exact h.equalities _ _ (mem_results_singleton hquery "") c hc
  · rintro ⟨himplies, hkept⟩
    have haccepts : ∀ docs, ∀ e ∈ ((queryOf collection calls).results docs).entries,
        (queryOf collection calls).accepts e.2 = true := fun docs e he =>
      (Query.mem_of_lookup_results (AList.mem_lookup_iff.mpr he)).2
    refine ⟨?_, ?_, orderBy_queryOf, limited_iff.mpr hkept⟩
    · intro docs e he
      obtain ⟨hfilter, horder⟩ := accepts_queryOf_iff.mp (haccepts docs e he)
      cases hf : (calls.filterMap FirestoreCall.filter?).getLast? with
      | some f =>
          rw [hf] at hfilter
          exact himplies f hf e.2 hfilter.1 horder hfilter.2
      | none =>
          rw [hf] at hfilter
          exact hfilter
    · intro docs e he f hf
      have hfilter := (accepts_queryOf_iff.mp (haccepts docs e he)).1
      rw [Option.mem_def.mp hf] at hfilter
      exact hfilter.1

namespace PostingRepository

def postingsQuery (hostId searchTxt : String) : FirestoreQueryBuilder :=
  let query := (FirestoreQueryBuilder.new FirestoreCollection.posting).equalTo "host_id"
    (.string hostId)
  if searchTxt ≠ "" then query.filter (searchFilter searchTxt) else query

def OwnPostings (hostId searchTxt : String) : Prop :=
  ∀ docs, ∀ e ∈ ((postingsQuery hostId searchTxt).build.results docs).entries,
    e.2.get "host_id" = .string hostId

/-- The document has a text in one of the fields that are searched. -/
def HasText (D : Doc) : Prop :=
  ∃ key ∈ ["name", "address", "type"], ∃ text, D.get key = .string text

def InRange (searchTxt : String) (D : Doc) : Prop :=
  ∃ key ∈ ["name", "address", "type"], ∃ text, D.get key = .string text ∧
    searchTxt ≤ text ∧ text ≤ upperBound searchTxt

end PostingRepository

section Search

open PostingRepository

variable {key searchTxt : String} {D : Doc}

theorem eq_string_of_typeOrder {v : Value} {s : String}
    (h : v.typeOrder = (Value.string s).typeOrder) : ∃ text, v = .string text := by
  cases v with
  | scalar a =>
      cases a with
      | string text => exact ⟨text, rfl⟩
      | _ => exact absurd h nofun
  | list vs => exact absurd h nofun
  | map kvs => exact absurd h nofun

/-- A range comparison accepts only values of the type of its bound. -/
theorem typeOrder_of_accepts {c : Condition}
    (hc : c.comparison = .isGreaterThanOrEqualTo ∨ c.comparison = .isLessThanOrEqualTo)
    (h : c.accepts D = true) : (D.get c.field).typeOrder = c.value.typeOrder := by
  unfold Condition.accepts at h
  unfold Doc.get
  cases hlookup : D.lookup c.field with
  | none => simp [hlookup] at h
  | some v =>
      rcases hc with hc | hc
      · simp only [hlookup, hc, Bool.and_eq_true, beq_iff_eq] at h
        exact h.1
      · simp only [hlookup, hc, Bool.and_eq_true, beq_iff_eq] at h
        exact h.1

/-- Only a text is compared with a text. -/
theorem get_of_accepts_textRange {c : Condition} (hc : c ∈ textRange key searchTxt)
    (h : c.accepts D = true) : ∃ text, D.get key = .string text := by
  rcases List.mem_cons.mp hc with rfl | hc
  · exact eq_string_of_typeOrder (typeOrder_of_accepts (.inl rfl) h)
  · cases List.mem_singleton.mp hc
    exact eq_string_of_typeOrder (typeOrder_of_accepts (.inr rfl) h)

/-- The six comparisons accept every document with a text in one of the fields. -/
theorem accepts_searchFilter_iff (searchTxt : String) (D : Doc) :
    (searchFilter searchTxt).accepts D = true ↔ HasText D := by
  constructor
  · intro h
    obtain ⟨c, hc, haccepts⟩ := List.any_eq_true.mp h
    obtain ⟨key, hkey, hc⟩ := mem_searchFilter_iff.mp hc
    exact ⟨key, hkey, get_of_accepts_textRange hc haccepts⟩
  · rintro ⟨key, hkey, text, htext⟩
    exact accepts_searchFilter hkey htext

theorem filters_exploreQuery (h : searchTxt ≠ "") :
    (exploreQuery searchTxt).build.filters = [searchFilter searchTxt] := by
  rw [exploreQuery, if_pos h]
  rfl

theorem filters_postingsQuery (h : searchTxt ≠ "") (hostId : String) :
    (postingsQuery hostId searchTxt).build.filters = [searchFilter searchTxt] := by
  rw [postingsQuery, if_pos h]
  rfl

theorem build_postingsQuery (h : searchTxt ≠ "") (hostId : String) :
    (postingsQuery hostId searchTxt).build = queryOf FirestoreCollection.posting
      [.equalTo "host_id" (.string hostId), .filter (searchFilter searchTxt)] := by
  rw [postingsQuery, if_pos h]
  rfl

theorem accepts_postingsQuery_iff (h : searchTxt ≠ "") (hostId : String) (D : Doc) :
    (postingsQuery hostId searchTxt).build.accepts D = true ↔ HasText D ∧ HasSearchedFields D := by
  rw [← accepts_searchFilter_iff searchTxt, postingsQuery, if_pos h]
  exact accepts_search_iff rfl rfl

def othersPosting (hostId : String) : Doc :=
  DartMap.ofList [("host_id", .string (hostId ++ "2")), ("name", .string ""),
    ("address", .string ""), ("type", .string "")]

theorem get_othersPosting (hostId : String) :
    (othersPosting hostId).get "name" = .string "" ∧
      (othersPosting hostId).get "host_id" = .string (hostId ++ "2") := by
  simp only [othersPosting, DartMap.ofList, List.foldl_cons, List.foldl_nil, Doc.get_insert]
  exact ⟨rfl, rfl⟩

theorem hasSearchedFields_othersPosting (hostId : String) :
    HasSearchedFields (othersPosting hostId) := by
  simp only [HasSearchedFields, othersPosting, DartMap.ofList, List.foldl_cons, List.foldl_nil,
    List.forall_mem_cons, FiniteMap.lookup_insert_eq_ite]
  exact ⟨rfl, rfl, rfl, List.forall_mem_nil _⟩

/-- A search among the postings of a host is a search among all postings. -/
theorem ownPostings_iff (hostId searchTxt : String) :
    OwnPostings hostId searchTxt ↔ searchTxt = "" := by
  constructor
  · intro h
    by_contra hne
    obtain ⟨hname, hother⟩ := get_othersPosting hostId
    have haccepts := (accepts_postingsQuery_iff hne hostId (othersPosting hostId)).mpr
      ⟨⟨"name", List.mem_cons_self, "", hname⟩, hasSearchedFields_othersPosting hostId⟩
    rw [OwnPostings, build_postingsQuery hne] at h
    rw [build_postingsQuery hne] at haccepts
    have hhost := hother.symm.trans (h _ _ (mem_results_singleton haccepts "p2"))
    simp [Value.string] at hhost
  · rintro rfl docs e he
    have haccepts := (Query.mem_of_lookup_results (AList.mem_lookup_iff.mpr he)).2
    have hhost : Condition.accepts ⟨"host_id", .isEqualTo, .string hostId⟩ e.2 = true := by
      rw [Query.accepts_build_eq rfl, Bool.and_eq_true, List.all_eq_true] at haccepts
      exact haccepts.1 _ List.mem_cons_self
    exact (accepts_isEqualTo_iff hostId).mp hhost

end Search

def othersVilla : Doc :=
  DartMap.ofList [("host_id", .string "h2"), ("name", .string "Villa"),
    ("address", .string "2 Sea View"), ("type", .string "Villa")]

/-- The filter of both searches lies within the prefix range of the search text exactly for the
documents with a text in the range, and for those without a text in any field, which it rejects. -/
theorem filter_narrows_iff {searchTxt : String} (h : searchTxt ≠ "") (D : Doc) :
    (((∀ f ∈ (PostingRepository.exploreQuery searchTxt).build.filters, f.accepts D = true) →
        PostingRepository.InRange searchTxt D) ↔
      (¬ PostingRepository.HasText D ∨ PostingRepository.InRange searchTxt D)) ∧
    ∀ hostId,
      ((∀ f ∈ (PostingRepository.postingsQuery hostId searchTxt).build.filters,
          f.accepts D = true) → PostingRepository.InRange searchTxt D) ↔
        (¬ PostingRepository.HasText D ∨ PostingRepository.InRange searchTxt D) := by
  constructor
  · rw [filters_exploreQuery h, List.forall_mem_singleton, accepts_searchFilter_iff, imp_iff_not_or]
  · intro hostId
    rw [filters_postingsQuery h, List.forall_mem_singleton, accepts_searchFilter_iff,
      imp_iff_not_or]

def hut : Doc :=
  DartMap.ofList [("name", .string "Hut"), ("address", .string "3 Hill Lane"),
    ("type", .string "Cabin")]

/-- The filter of the search for a villa accepts a hut, and the search fetches it. -/
theorem hut_is_not_narrowed_out :
    ((∀ f ∈ (PostingRepository.exploreQuery "Villa").build.filters, f.accepts hut = true) ∧
        (PostingRepository.exploreQuery "Villa").build.accepts hut = true) ∧
      ((∀ f ∈ (PostingRepository.postingsQuery "h1" "Villa").build.filters, f.accepts hut = true) ∧
        (PostingRepository.postingsQuery "h1" "Villa").build.accepts hut = true) ∧
      ¬ PostingRepository.InRange "Villa" hut := by
  refine ⟨⟨by decide, by decide⟩, ⟨by decide, by decide⟩, ?_⟩
  rintro ⟨key, hkey, text, hkeyText, hle, hend⟩
  simp only [List.mem_cons, List.not_mem_nil, or_false] at hkey
  rcases hkey with rfl | rfl | rfl
  · cases (show "Hut" = text from Scalar.string.inj (Value.scalar.inj hkeyText))
    exact absurd hle (by decide)
  · cases (show "3 Hill Lane" = text from Scalar.string.inj (Value.scalar.inj hkeyText))
    exact absurd hle (by decide)
  · cases (show "Cabin" = text from Scalar.string.inj (Value.scalar.inj hkeyText))
    exact absurd hle (by decide)

/-- A villa is accepted and in range. -/
theorem villa_is_narrowed_to :
    ((∀ f ∈ (PostingRepository.exploreQuery "Villa").build.filters, f.accepts othersVilla = true) →
        PostingRepository.InRange "Villa" othersVilla) ∧
      (PostingRepository.exploreQuery "Villa").build.accepts othersVilla = true :=
  ⟨(filter_narrows_iff (by decide) othersVilla).1.mpr (.inr
    ⟨"name", List.mem_cons_self, "Villa", rfl, by decide, by decide⟩), by decide⟩

end AirBnbClone
