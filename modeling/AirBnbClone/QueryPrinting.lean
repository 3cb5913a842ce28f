import AirBnbClone.RealmQueryBuilder

/-!
# The query that a sequence of builder calls prints

The filter methods share a text, a counter and a list of values. Every call that filters adds one
clause, numbers it by the clauses before it and adds one value, so that the text is read back as the
conjunction of what was asked for.
-/

namespace AirBnbClone

namespace RealmQueryBuilder

inductive FilterCall
  | equal (field : String) (value : Scalar)
  | like (field value : String)
  | greaterThanOrEqualTo (field : String) (value : Scalar)
  | lessThan (field : String) (value : Scalar)
  | contains (field : String) (value : Scalar)
  /-- The list of fields is `field :: fields`. -/
  | orContains (field : String) (fields : List String) (value : String)

namespace FilterCall

def apply (b : RealmQueryBuilder) : FilterCall → RealmQueryBuilder
  | equal field value => b.equal field value
  | like field value => b.like field value
  | greaterThanOrEqualTo field value => b.greaterThanOrEqualTo field value
  | lessThan field value => b.lessThan field value
  | contains field value => b.contains field value
  | orContains field fields value => b.orContains (field :: fields) value

def fields : FilterCall → List String
  | equal field _ | like field _ | greaterThanOrEqualTo field _ | lessThan field _
  | contains field _ => [field]
  | orContains field fields _ => field :: fields

/-- A search for the empty text filters nothing. -/
def emits : FilterCall → Bool
  | orContains _ _ value => !value.isEmpty
  | _ => true

def value : FilterCall → Scalar
  | equal _ value | greaterThanOrEqualTo _ value | lessThan _ value | contains _ value => value
  | like _ value | orContains _ _ value => .string value

/-- The clause of a call in the text, with the placeholder `i`. -/
def text (i : ℕ) : FilterCall → String
  | equal field _ => field ++ " == $" ++ toString i
  | like field _ => field ++ " LIKE $" ++ toString i
  | greaterThanOrEqualTo field _ => field ++ " >= $" ++ toString i
  | lessThan field _ => field ++ " < $" ++ toString i
  | contains field _ => field ++ " CONTAINS $" ++ toString i
  | orContains field fields _ => "(" ++ " OR ".intercalate
      ((field :: fields).map (fun f => f ++ " CONTAINS[c] $" ++ toString i)) ++ ")"

def clause (i : ℕ) : FilterCall → Rql.Clause
  | equal field _ => .compare ⟨field, .equal, i⟩
  | like field _ => .compare ⟨field, .like, i⟩
  | greaterThanOrEqualTo field _ => .compare ⟨field, .greaterThanOrEqual, i⟩
  | lessThan field _ => .compare ⟨field, .lessThan, i⟩
  | contains field _ => .compare ⟨field, .contains, i⟩
  | orContains field fields _ => .anyOf ⟨field, .containsFold, i⟩
      (fields.map (fun f => ⟨f, .containsFold, i⟩))

/-- What a call asks of an object. -/
def requested [Rql.CaseFolding] (property : String → Option FirestoreMapper.Property) :
    FilterCall → Bool
  | equal field value => (property field).any (Rql.holds .equal · value)
  | like field value => (property field).any (Rql.holds .like · (.string value))
  | greaterThanOrEqualTo field value => (property field).any (Rql.holds .greaterThanOrEqual · value)
  | lessThan field value => (property field).any (Rql.holds .lessThan · value)
  | contains field value => (property field).any (Rql.holds .contains · value)
  | orContains field fields value => value.isEmpty ||
      (field :: fields).any (fun f => (property f).any (Rql.holds .containsFold · (.string value)))

end FilterCall

inductive DescriptorCall
  | sortAscending (field : String)
  | sortDescending (field : String)
  | limit (maxResults : ℤ)

namespace DescriptorCall

def apply (b : RealmQueryBuilder) : DescriptorCall → RealmQueryBuilder
  | sortAscending field => b.sortAscending field
  | sortDescending field => b.sortDescending field
  | limit maxResults => b.limit maxResults

/-- The field of a sort, and whether it is descending. -/
def sort? : DescriptorCall → Option (String × Bool)
  | sortAscending field => some (field, false)
  | sortDescending field => some (field, true)
  | limit _ => none

def limit? : DescriptorCall → Option ℤ
  | limit maxResults => some maxResults
  | _ => none

end DescriptorCall

/-- The filters first, then the sorts and the limits. -/
def build (filters : List FilterCall) (rest : List DescriptorCall) : RealmQueryBuilder :=
  rest.foldl DescriptorCall.apply (filters.foldl FilterCall.apply new)

/-- The clauses joined by `AND`. -/
def conjunction (filters : List FilterCall) : String :=
  if filters = [] then "TRUEPREDICATE" else " AND ".intercalate (filters.mapIdx FilterCall.text)

def sortText (s : String × Bool) : String :=
  " SORT(" ++ s.1 ++ " " ++ (if s.2 then "DESC" else "ASC") ++ ")"

def limitText : Option ℤ → String
  | some lim => if 0 < lim then " LIMIT(" ++ toString lim ++ ")" else ""
  | none => ""

end RealmQueryBuilder

def Rql.Clause.placeholders : Rql.Clause → List ℕ
  | .compare c => [c.placeholder]
  | .anyOf c cs => (c :: cs).map Rql.Comparison.placeholder

namespace RealmQueryBuilder

structure Prints (b : RealmQueryBuilder) (filters : List FilterCall) (rest : List DescriptorCall) :
    Prop where
  text : b.getQueryString = conjunction (filters.filter FilterCall.emits) ++
    String.join ((rest.filterMap DescriptorCall.sort?).map sortText) ++
    limitText (rest.filterMap DescriptorCall.limit?).getLast?
  values : b.getQueryValues = (filters.filter FilterCall.emits).map FilterCall.value
  /-- The text is read clause by clause; the `i`-th has the `i`-th value and no other. -/
  parsed : ∃ q, Rql.parse b.getQueryString = some q ∧
    q.clauses = (filters.filter FilterCall.emits).mapIdx FilterCall.clause ∧
    q.clauses.length = b.getQueryValues.length ∧
    (∀ (i : ℕ) (c : Rql.Clause), q.clauses[i]? = some c → ∀ j ∈ c.placeholders, j = i) ∧
    q.descriptors = (rest.filterMap DescriptorCall.sort?).map (fun s => .sort s.1 s.2) ++
      limitDescriptors (rest.filterMap DescriptorCall.limit?).getLast? ∧
    ∀ [Rql.CaseFolding] (property : String → Option FirestoreMapper.Property),
      q.accepts b.getQueryValues property = filters.all (·.requested property)

section Filters

variable {b : RealmQueryBuilder} {filters : List FilterCall} {c : FilterCall}

/-- What the builder has printed after the filters that emit a clause. -/
structure Printed (b : RealmQueryBuilder) (filters : List FilterCall) : Prop where
  represents : b.Represents (filters.mapIdx FilterCall.clause) []
  text : b.queryString = " AND ".intercalate (filters.mapIdx FilterCall.text)
  values : b.queryValues = filters.map FilterCall.value
  limit : b.limit? = none

theorem Printed.number (h : b.Printed filters) : b.queryNumber = filters.length := by
  rw [h.represents.number, List.length_mapIdx]

/-- A clause is joined to the ones before it. -/
theorem Printed.joined (h : b.Printed filters) (c : FilterCall) :
    b.joined ++ c.text b.queryNumber =
      " AND ".intercalate ((filters ++ [c]).mapIdx FilterCall.text) := by
  rw [List.mapIdx_concat, ← h.number, RealmQueryBuilder.joined]
  by_cases hfilters : filters = []
  · subst hfilters
    rw [if_neg (by simp [h.number]), h.text]
    simp
  · have htexts : filters.mapIdx FilterCall.text ≠ [] := by
      simpa only [ne_eq, List.mapIdx_eq_nil_iff] using hfilters
    rw [if_pos (h.number ▸ List.length_pos_of_ne_nil hfilters), h.text,
      String.intercalate_append_of_ne_nil htexts (List.cons_ne_nil _ _),
      String.intercalate_singleton]

theorem printed_new : new.Printed [] where
  represents := represents_new
  text := rfl
  values := rfl
  limit := rfl

theorem Printed.filter (h : b.Printed filters) {operator field : String} {op : Rql.Operator}
    {value : Scalar} (hop : operator.toList = op.symbol) (hfield : Rql.Plain field.toList)
    (hclause : ∀ i, c.clause i = .compare ⟨field, op, i⟩) (hvalue : c.value = value)
    (htext : ∀ i, (c.text i).toList = (field ++ " " ++ operator ++ " $" ++ toString i).toList) :
    (b.filter operator field value).Printed (filters ++ [c]) where
  represents := by
    have hnext := h.represents.filter hop hfield value
    rwa [List.length_mapIdx, ← hclause, ← List.mapIdx_concat] at hnext
  text := by
    rw [← h.joined, String.toList_inj.mp (htext b.queryNumber)]
    rfl
  values := by
    rw [List.map_append, ← h.values, List.map_singleton, hvalue]
    rfl
  limit := h.limit

theorem Printed.orContains (h : b.Printed filters) {field value : String} {fields : List String}
    (hfields : ∀ f ∈ field :: fields, Rql.Plain f.toList) (hvalue : value.isEmpty = false) :
    (b.orContains (field :: fields) value).Printed
      (filters ++ [.orContains field fields value]) := by
  obtain ⟨hfield, hfields⟩ := List.forall_mem_cons.mp hfields
  have hne : value ≠ "" := by simpa using hvalue
  have hnext := h.represents.orContains hfield hfields hne
  rw [List.length_mapIdx] at hnext
  have heq : b.orContains (field :: fields) value = { b with
      queryString := b.joined ++ FilterCall.text b.queryNumber (.orContains field fields value)
      queryValues := b.queryValues ++ [.string value]
      queryNumber := b.queryNumber + 1 } := by
    simp only [RealmQueryBuilder.orContains, hvalue]
    rfl
  constructor
  · rw [List.mapIdx_concat]
    exact hnext
  · rw [heq]
    exact h.joined _
  · rw [heq, List.map_append, ← h.values]
    rfl
  · rw [heq]
    exact h.limit

/-- A call appends its clause, or leaves everything as it is. -/
theorem Printed.apply (h : b.Printed filters) (hfields : ∀ f ∈ c.fields, Rql.Plain f.toList) :
    (c.apply b).Printed (filters ++ if c.emits then [c] else []) := by
  cases c with
  | equal field value =>
      exact h.filter rfl (hfields field List.mem_cons_self) (fun _ => rfl) rfl
        (fun i => by simp [FilterCall.text])
  | like field value =>
      exact h.filter rfl (hfields field List.mem_cons_self) (fun _ => rfl) rfl
        (fun i => by simp [FilterCall.text])
  | greaterThanOrEqualTo field value =>
      exact h.filter rfl (hfields field List.mem_cons_self) (fun _ => rfl) rfl
        (fun i => by simp [FilterCall.text])
  | lessThan field value =>
      exact h.filter rfl (hfields field List.mem_cons_self) (fun _ => rfl) rfl
        (fun i => by simp [FilterCall.text])
  | contains field value =>
      exact h.filter rfl (hfields field List.mem_cons_self) (fun _ => rfl) rfl
        (fun i => by simp [FilterCall.text])
  | orContains field fields value =>
      cases hvalue : value.isEmpty with
      | true =>
          simpa [FilterCall.emits, FilterCall.apply, RealmQueryBuilder.orContains, hvalue] using h
      | false =>
          simpa [FilterCall.emits, FilterCall.apply, hvalue] using h.orContains hfields hvalue

theorem printed_foldl (calls : List FilterCall) {b : RealmQueryBuilder}
    {filters : List FilterCall} (h : b.Printed filters)
    (hfields : ∀ c ∈ calls, ∀ f ∈ c.fields, Rql.Plain f.toList) :
    (calls.foldl FilterCall.apply b).Printed (filters ++ calls.filter FilterCall.emits) := by
  induction calls generalizing b filters with
  | nil => simpa using h
  | cons c calls ih =>
      obtain ⟨hc, hcalls⟩ := List.forall_mem_cons.mp hfields
      have hnext := ih (h.apply hc) hcalls
      rw [List.append_assoc] at hnext
      rw [List.filter_cons, List.foldl_cons]
      split_ifs at hnext ⊢ with hemits
      · exact hnext
      · exact hnext

end Filters

section Descriptors

variable {b : RealmQueryBuilder} {filters : List FilterCall} {rest : List DescriptorCall}

structure PrintedRest (b : RealmQueryBuilder) (filters : List FilterCall)
    (rest : List DescriptorCall) : Prop where
  represents : b.Represents (filters.mapIdx FilterCall.clause)
    ((rest.filterMap DescriptorCall.sort?).map (fun s => .sort s.1 s.2))
  text : b.predicate =
    conjunction filters ++ String.join ((rest.filterMap DescriptorCall.sort?).map sortText)
  values : b.queryValues = filters.map FilterCall.value
  limit : b.limit? = (rest.filterMap DescriptorCall.limit?).getLast?

theorem predicate_sort (b : RealmQueryBuilder) (field direction : String) :
    (b.sort field direction).predicate =
      b.predicate ++ (" SORT(" ++ field ++ " " ++ direction ++ ")") := by
  have hne : (b.sort field direction).queryString.isEmpty = false := by
    simp [RealmQueryBuilder.sort]
  rw [predicate, if_neg (by simp [hne])]
  rfl

theorem Printed.printedRest (h : b.Printed filters) : b.PrintedRest filters [] where
  represents := h.represents
  text := by
    unfold predicate conjunction
    by_cases hfilters : filters = []
    · subst hfilters
      rw [h.text]
      rfl
    · have hclauses : filters.mapIdx FilterCall.clause ≠ [] := by
        simpa only [ne_eq, List.mapIdx_eq_nil_iff] using hfilters
      rw [ne_empty_of_lex (h.represents.text (.inl hclauses)), if_neg hfilters, h.text]
      simp
  values := h.values
  limit := h.limit

theorem PrintedRest.sort (h : b.PrintedRest filters rest) {c : DescriptorCall} {field : String}
    {descending : Bool} (hc : c.sort? = some (field, descending)) (hlimit : c.limit? = none)
    (hfield : Rql.Plain field.toList) :
    (b.sort field (if descending then "DESC" else "ASC")).PrintedRest filters (rest ++ [c]) := by
  have hsorts : (rest ++ [c]).filterMap DescriptorCall.sort? =
      rest.filterMap DescriptorCall.sort? ++ [(field, descending)] := by
    rw [List.filterMap_append, List.filterMap_cons_some hc, List.filterMap_nil]
  have hlimits : (rest ++ [c]).filterMap DescriptorCall.limit? =
      rest.filterMap DescriptorCall.limit? := by
    rw [List.filterMap_append, List.filterMap_cons_none hlimit, List.filterMap_nil,
      List.append_nil]
  constructor
  · rw [hsorts, List.map_append]
    exact h.represents.sort hfield descending
  · rw [hsorts, predicate_sort, h.text, List.map_append, String.join_append, String.append_assoc]
    simp [sortText]
  · exact h.values
  · rw [hlimits]
    exact h.limit

theorem PrintedRest.apply (h : b.PrintedRest filters rest) {c : DescriptorCall}
    (hfield : ∀ s ∈ c.sort?, Rql.Plain s.1.toList) :
    (c.apply b).PrintedRest filters (rest ++ [c]) := by
  cases c with
  | sortAscending field =>
      have hsort := h.sort (c := .sortAscending field) rfl rfl (hfield _ rfl)
      exact hsort
  | sortDescending field =>
      have hsort := h.sort (c := .sortDescending field) rfl rfl (hfield _ rfl)
      exact hsort
  | limit maxResults =>
      have hsorts : (rest ++ [DescriptorCall.limit maxResults]).filterMap DescriptorCall.sort? =
          rest.filterMap DescriptorCall.sort? := by
        simp [DescriptorCall.sort?]
      constructor
      · rw [hsorts]
        exact ⟨h.represents.number, h.represents.empty, h.represents.text⟩
      · rw [hsorts]
        exact h.text
      · exact h.values
      · simp [DescriptorCall.apply, RealmQueryBuilder.limit, DescriptorCall.limit?]

theorem printedRest_foldl (calls : List DescriptorCall) {b : RealmQueryBuilder}
    {rest : List DescriptorCall} (h : b.PrintedRest filters rest)
    (hfields : ∀ c ∈ calls, ∀ s ∈ c.sort?, Rql.Plain s.1.toList) :
    (calls.foldl DescriptorCall.apply b).PrintedRest filters (rest ++ calls) := by
  induction calls generalizing b rest with
  | nil => simpa using h
  | cons c calls ih =>
      obtain ⟨hc, hcalls⟩ := List.forall_mem_cons.mp hfields
      have hnext := ih (h.apply hc) hcalls
      rwa [List.append_assoc] at hnext

end Descriptors

section Meaning

theorem placeholders_clause (c : FilterCall) (i : ℕ) : ∀ j ∈ (c.clause i).placeholders, j = i := by
  cases c with
  | orContains field fields value =>
      intro j hj
      simp only [FilterCall.clause, Rql.Clause.placeholders, List.map_cons, List.map_map,
        List.mem_cons, List.mem_map] at hj
      rcases hj with rfl | ⟨f, -, rfl⟩
      · rfl
      · rfl
  | _ => simp [FilterCall.clause, Rql.Clause.placeholders]

/-- A comparison with the value of its own call. -/
theorem accepts_compare [Rql.CaseFolding] {values : List Scalar}
    {property : String → Option FirestoreMapper.Property} {i : ℕ} {value : Scalar}
    (h : values[i]? = some value) (field : String) (op : Rql.Operator) :
    Rql.Comparison.accepts values property ⟨field, op, i⟩ =
      (property field).any (Rql.holds op · value) := by
  unfold Rql.Comparison.accepts
  rw [h]
  cases property field <;> rfl

theorem accepts_clause [Rql.CaseFolding] {values : List Scalar}
    {property : String → Option FirestoreMapper.Property} {c : FilterCall} {i : ℕ}
    (h : values[i]? = some c.value) (hemits : c.emits = true) :
    (c.clause i).accepts values property = c.requested property := by
  cases c with
  | orContains field fields value =>
      have hvalue : value.isEmpty = false := by simpa [FilterCall.emits] using hemits
      rw [FilterCall.clause, Rql.Clause.accepts, FilterCall.requested, hvalue, Bool.false_or,
        List.any_cons, List.any_cons, List.any_map, accepts_compare h]
      congr 2
      funext f
      exact accepts_compare h f .containsFold
  | _ => exact accepts_compare h _ _

/-- A call that emits nothing asks for nothing. -/
theorem requested_of_not_emits [Rql.CaseFolding] {c : FilterCall} (h : c.emits = false)
    (property : String → Option FirestoreMapper.Property) : c.requested property = true := by
  cases c with
  | orContains field fields value =>
      have hvalue : value.isEmpty = true := by simpa [FilterCall.emits] using h
      rw [FilterCall.requested, hvalue, Bool.true_or]
  | _ => cases h

theorem accepts_eq_requested [Rql.CaseFolding] (filters : List FilterCall)
    (ds : List Rql.Descriptor) (property : String → Option FirestoreMapper.Property) :
    Rql.Query.accepts ((filters.filter FilterCall.emits).map FilterCall.value) property
        ⟨(filters.filter FilterCall.emits).mapIdx FilterCall.clause, ds⟩ =
      filters.all (·.requested property) := by
  have hclause (i : ℕ) (hi : i < (filters.filter FilterCall.emits).length) :
      ((filters.filter FilterCall.emits)[i].clause i).accepts
          ((filters.filter FilterCall.emits).map FilterCall.value) property =
        (filters.filter FilterCall.emits)[i].requested property :=
    accepts_clause (by simp [hi]) (List.of_mem_filter (List.getElem_mem hi))
  rw [Rql.Query.accepts, Bool.eq_iff_iff, List.all_eq_true, List.all_eq_true]
  constructor
  · intro h c hc
    cases hemits : c.emits with
    | false => exact requested_of_not_emits hemits property
    | true =>
        obtain ⟨i, hi, rfl⟩ := List.getElem_of_mem (List.mem_filter.mpr ⟨hc, hemits⟩)
        rw [← hclause i hi]
        exact h _ (List.mem_mapIdx.mpr ⟨i, hi, rfl⟩)
  · intro h c hc
    obtain ⟨i, hi, rfl⟩ := List.mem_mapIdx.mp hc
    rw [hclause i hi]
    exact h _ (List.mem_filter.mp (List.getElem_mem hi)).1

end Meaning

theorem getQueryString_eq (b : RealmQueryBuilder) :
    b.getQueryString = b.predicate ++ limitText b.limit? := by
  unfold getQueryString limitText
  cases b.limit? with
  | none => simp
  | some lim =>
      dsimp only
      split_ifs <;> simp

/-- Whatever filters are asked for, with whatever sorts and limits after them, the builder prints
the query. -/
theorem prints_of_calls {filters : List FilterCall} {rest : List DescriptorCall}
    (hfilters : ∀ c ∈ filters, ∀ f ∈ c.fields, Rql.Plain f.toList)
    (hrest : ∀ c ∈ rest, ∀ s ∈ c.sort?, Rql.Plain s.1.toList) :
    (build filters rest).Prints filters rest := by
  have hprinted := printed_foldl filters printed_new hfilters
  have h := printedRest_foldl rest hprinted.printedRest hrest
  rw [List.nil_append, List.nil_append] at h
  change PrintedRest (build filters rest) _ _ at h
  constructor
  · rw [getQueryString_eq, h.text, h.limit]
  · exact h.values
  · refine ⟨_, h.represents.parse, rfl, ?_, ?_, ?_, ?_⟩
    · rw [getQueryValues, h.values, List.length_mapIdx, List.length_map]
    · intro i c hc
      rw [List.getElem?_mapIdx] at hc
      obtain ⟨call, -, rfl⟩ := Option.map_eq_some_iff.mp hc
      exact placeholders_clause call i
    · rw [h.limit]
    · intro _ property
      rw [getQueryValues, h.values]
      exact accepts_eq_requested filters _ property

/-- Postings of a host below a price whose name or address contains a text, the newest three. -/
theorem prints_postingSearch :
    (build [.equal "hostId" (.string "h1"), .orContains "name" ["address"] "Villa",
        .orContains "type" [] "", .lessThan "price" (.double 90)]
      [.sortDescending "createdAt", .limit 3]).getQueryString =
        "hostId == $0 AND (name CONTAINS[c] $1 OR address CONTAINS[c] $1) AND price < $2" ++
          " SORT(createdAt DESC) LIMIT(3)" ∧
      (build [.equal "hostId" (.string "h1"), .orContains "name" ["address"] "Villa",
        .orContains "type" [] "", .lessThan "price" (.double 90)]
      [.sortDescending "createdAt", .limit 3]).Prints
        [.equal "hostId" (.string "h1"), .orContains "name" ["address"] "Villa",
          .orContains "type" [] "", .lessThan "price" (.double 90)]
        [.sortDescending "createdAt", .limit 3] :=
  ⟨by decide, prints_of_calls (by decide) (by decide)⟩

end RealmQueryBuilder

end AirBnbClone
