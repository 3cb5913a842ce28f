import Mathlib.Data.List.Dedup
import Mathlib.Data.List.Sort
import AirBnbClone.DartValue

/-!
# Queries

`FirestoreQueryBuilder` collects conditions and `build` turns them into a `Query`, a value that
compares structurally. A query selects documents of a collection, sorts them and truncates the
list; its result is again a finite map, whose entries are in the order of the query. The fields of
range comparisons are ordered by whether the caller asks for it or not, and a document without a
field that is ordered by is not selected, even if another branch of a disjunction accepts it.
-/

namespace AirBnbClone

namespace Scalar

/-- The position of a value's type in Firestore's ordering of types. -/
def typeOrder : Scalar → ℕ
  | .null => 0
  | .bool _ => 1
  | .int _ => 2
  | .double _ => 2
  | .dateTime _ => 3
  | .string _ => 4
  | .foreign _ => 5

/-- Numbers compare by value whatever their representation, strings by code points. -/
def order : Scalar → Scalar → Ordering
  | .bool a, .bool b => compare a b
  | .int a, .int b => compare a b
  | .int a, .double b => compareOfLessAndEq (a : ℚ) b
  | .double a, .int b => compareOfLessAndEq a (b : ℚ)
  | .double a, .double b => compareOfLessAndEq a b
  | .dateTime a, .dateTime b => compare a.microsecondsSinceEpoch b.microsecondsSinceEpoch
  | .string a, .string b => compareOfLessAndEq a b
  | .foreign a, .foreign b => compareOfLessAndEq a b
  | a, b => compare a.typeOrder b.typeOrder

def orderList : List Scalar → List Scalar → Ordering
  | [], [] => .eq
  | [], _ :: _ => .lt
  | _ :: _, [] => .gt
  | a :: as, b :: bs => (order a b).then (orderList as bs)

end Scalar

namespace Value

def typeOrder : Value → ℕ
  | .scalar s => s.typeOrder
  | .list _ => 6
  | .map _ => 7

def order : Value → Value → Ordering
  | .scalar a, .scalar b => a.order b
  | .list as, .list bs => Scalar.orderList as bs
  | .map as, .map bs =>
      (compare (as.map Prod.fst) (bs.map Prod.fst)).then
        (Scalar.orderList (as.map Prod.snd) (bs.map Prod.snd))
  | a, b => compare a.typeOrder b.typeOrder

end Value

inductive Comparison
  | isEqualTo
  | isGreaterThanOrEqualTo
  | isLessThanOrEqualTo
  | isLessThan
  | arrayContains
  deriving DecidableEq

def Comparison.isInequality : Comparison → Bool
  | .isGreaterThanOrEqualTo | .isLessThanOrEqualTo | .isLessThan => true
  | .isEqualTo | .arrayContains => false

structure Condition where
  field : String
  comparison : Comparison
  value : Value
  deriving DecidableEq

/-- `Filter(…)` and `Filter.or(…)` of such, as deep as the repositories nest them. -/
inductive Filter
  | where (c : Condition)
  | or (cs : List Condition)
  deriving DecidableEq

/-- A range comparison only accepts values of the type it compares with. -/
def Condition.accepts (c : Condition) (d : Doc) : Bool :=
  match d.lookup c.field with
  | none => false
  | some v =>
      match c.comparison with
      | .isEqualTo => v.order c.value == .eq
      | .isGreaterThanOrEqualTo => v.typeOrder == c.value.typeOrder && v.order c.value != .lt
      | .isLessThanOrEqualTo => v.typeOrder == c.value.typeOrder && v.order c.value != .gt
      | .isLessThan => v.typeOrder == c.value.typeOrder && v.order c.value == .lt
      | .arrayContains =>
          match v with
          | .list vs => vs.any (fun s => Value.order (.scalar s) c.value == .eq)
          | _ => false

theorem Condition.isSome_of_accepts {c : Condition} {d : Doc} (h : c.accepts d = true) :
    (d.lookup c.field).isSome := by
  unfold Condition.accepts at h
  cases hlookup : d.lookup c.field with
  | none => simp [hlookup] at h
  | some v => rfl

def Filter.accepts : Filter → Doc → Bool
  | .where c, d => c.accepts d
  | .or cs, d => cs.any (fun c => c.accepts d)

def Filter.flattened : Filter → List Condition
  | .where c => [c]
  | .or cs => cs

structure Query where
  collection : String
  filters : List Filter
  orderBy : List (String × Bool)
  limit : Option ℕ
  deriving DecidableEq

structure FirestoreQueryBuilder where
  collection : String
  equalQueries : List (String × Value)
  orderByQueries : List (String × Bool)
  limit? : Option ℤ
  filter? : Option Filter
  deriving DecidableEq

namespace FirestoreQueryBuilder

def new (collection : String) : FirestoreQueryBuilder := ⟨collection, [], [], none, none⟩

def equalTo (b : FirestoreQueryBuilder) (field : String) (value : Value) : FirestoreQueryBuilder :=
  { b with equalQueries := b.equalQueries ++ [(field, value)] }

def filter (b : FirestoreQueryBuilder) (f : Filter) : FirestoreQueryBuilder :=
  { b with filter? := some f }

def orderBy (b : FirestoreQueryBuilder) (field : String) (descending : Bool) :
    FirestoreQueryBuilder :=
  { b with orderByQueries := b.orderByQueries ++ [(field, descending)] }

def limit (b : FirestoreQueryBuilder) (maxResults : ℤ) : FirestoreQueryBuilder :=
  { b with limit? := some maxResults }

/-- A filter takes the place of the equalities. -/
def build (b : FirestoreQueryBuilder) : Query where
  collection := b.collection
  filters :=
    match b.filter? with
    | some f => [f]
    | none => b.equalQueries.map (fun fv => .where ⟨fv.1, .isEqualTo, fv.2⟩)
  orderBy := b.orderByQueries
  limit :=
    match b.limit? with
    | some lim => if 0 < lim then some lim.toNat else none
    | none => none

end FirestoreQueryBuilder

namespace Query

def inequalityFilterFields (q : Query) : List String :=
  (((q.filters.flatMap Filter.flattened).filter (fun c => c.comparison.isInequality)).map
    Condition.field).dedup.insertionSort (· ≤ ·)

/-- The direction of the last explicit order, in which implicit orders follow. -/
def lastDescending (q : Query) : Bool := (q.orderBy.getLast?.map Prod.snd).getD false

/-- The explicit orders, and then one for each other field of a range comparison. -/
def normalizedOrderBys (q : Query) : List (String × Bool) :=
  q.orderBy ++ (q.inequalityFilterFields.filter (fun f => f ∉ q.orderBy.map Prod.fst)).map
    (fun f => (f, q.lastDescending))

/-- A document without a field it is to be ordered by is not part of the result. -/
def accepts (q : Query) (d : Doc) : Bool :=
  q.filters.all (fun f => f.accepts d) &&
    q.normalizedOrderBys.all (fun o => (d.lookup o.1).isSome)

def directed (descending : Bool) (o : Ordering) : Ordering := if descending then o.swap else o

/-- The order of the results: the fields in turn, then the document id in the last direction. -/
def order (q : Query) (a b : Sigma fun _ : String => Doc) : Ordering :=
  q.normalizedOrderBys.foldr
    (fun o rest => (directed o.2 ((a.2.get o.1).order (b.2.get o.1))).then rest)
    (directed q.lastDescending (compareOfLessAndEq a.1 b.1))

section Normalized

variable {q : Query} {d : Doc}

theorem mem_inequalityFilterFields_iff {field : String} : field ∈ q.inequalityFilterFields ↔
    ∃ f ∈ q.filters, ∃ c ∈ f.flattened, c.comparison.isInequality = true ∧ c.field = field := by
  unfold inequalityFilterFields
  simp only [List.mem_insertionSort, List.mem_dedup, List.mem_map, List.mem_filter,
    List.mem_flatMap]
  constructor
  · rintro ⟨c, ⟨⟨f, hf, hc⟩, hinequality⟩, hfield⟩
    exact ⟨f, hf, c, hc, hinequality, hfield⟩
  · rintro ⟨f, hf, c, hc, hinequality, hfield⟩
    exact ⟨c, ⟨⟨f, hf, hc⟩, hinequality⟩, hfield⟩

/-- A document has the fields it is ordered by explicitly and those of the range comparisons. -/
theorem accepts_iff : q.accepts d = true ↔ (∀ f ∈ q.filters, f.accepts d = true) ∧
    (∀ o ∈ q.orderBy, (d.lookup o.1).isSome) ∧
      ∀ field ∈ q.inequalityFilterFields, (d.lookup field).isSome := by
  rw [accepts, Bool.and_eq_true, List.all_eq_true, List.all_eq_true, normalizedOrderBys,
    List.forall_mem_append, List.forall_mem_map]
  refine and_congr_right fun _ => and_congr_right fun hexplicit => ?_
  constructor
  · intro himplicit field hfield
    by_cases hmem : field ∈ q.orderBy.map Prod.fst
    · obtain ⟨o, ho, rfl⟩ := List.mem_map.mp hmem
      exact hexplicit o ho
    · exact himplicit field (List.mem_filter.mpr ⟨hfield, decide_eq_true hmem⟩)
  · intro hall field hfield
    exact hall field (List.mem_filter.mp hfield).1

/-- Nothing is ordered by implicitly if there are no range comparisons. -/
theorem inequalityFilterFields_eq_nil
    (h : ∀ f ∈ q.filters, ∀ c ∈ f.flattened, c.comparison.isInequality = false) :
    q.inequalityFilterFields = [] := by
  refine List.eq_nil_iff_forall_not_mem.mpr fun field hfield => ?_
  obtain ⟨f, hf, c, hc, hinequality, -⟩ := mem_inequalityFilterFields_iff.mp hfield
  rw [h f hf c hc] at hinequality
  cases hinequality

theorem normalizedOrderBys_eq (h : q.inequalityFilterFields = []) :
    q.normalizedOrderBys = q.orderBy := by
  rw [normalizedOrderBys, h, List.filter_nil, List.map_nil, List.append_nil]

variable {b : FirestoreQueryBuilder}

theorem inequalityFilterFields_build (h : b.filter? = none) :
    b.build.inequalityFilterFields = [] := by
  apply inequalityFilterFields_eq_nil
  intro f hf c hc
  unfold FirestoreQueryBuilder.build at hf
  rw [h] at hf
  obtain ⟨fv, -, rfl⟩ := List.mem_map.mp hf
  rw [List.mem_singleton.mp hc]
  rfl

/-- Without a filter the equalities and the explicit orders are all that counts. -/
theorem accepts_build_eq (h : b.filter? = none) : b.build.accepts d =
    (b.equalQueries.all (fun fv => Condition.accepts ⟨fv.1, .isEqualTo, fv.2⟩ d) &&
      b.orderByQueries.all (fun o => (d.lookup o.1).isSome)) := by
  rw [accepts, normalizedOrderBys_eq (inequalityFilterFields_build h)]
  simp only [FirestoreQueryBuilder.build, h, List.all_map]
  rfl

/-- A filter also asks for the fields of all its range comparisons. -/
theorem accepts_build_iff {f : Filter} (h : b.filter? = some f) : b.build.accepts d = true ↔
    f.accepts d = true ∧ (∀ o ∈ b.orderByQueries, (d.lookup o.1).isSome) ∧
      ∀ c ∈ f.flattened, c.comparison.isInequality = true → (d.lookup c.field).isSome := by
  have hfilters : b.build.filters = [f] := by
    rw [FirestoreQueryBuilder.build, h]
  rw [accepts_iff, hfilters, List.forall_mem_singleton]
  refine and_congr_right fun _ => and_congr_right fun _ => ?_
  simp only [mem_inequalityFilterFields_iff, hfilters, List.mem_singleton, exists_eq_left]
  constructor
  · exact fun hall c hc hinequality => hall c.field ⟨c, hc, hinequality, rfl⟩
  · rintro hall field ⟨c, hc, hinequality, rfl⟩
    exact hall c hc hinequality

/-- A single condition already asks for its own field. -/
theorem accepts_build_where {c : Condition} (h : b.filter? = some (.where c))
    (horder : b.orderByQueries = []) : b.build.accepts d = c.accepts d := by
  rw [Bool.eq_iff_iff, accepts_build_iff h, horder]
  refine ⟨And.left, fun hc => ⟨hc, List.forall_mem_nil _, ?_⟩⟩
  intro c' hc' _
  rw [List.mem_singleton.mp hc']
  exact Condition.isSome_of_accepts hc

end Normalized

def truncate {α : Type} (limit : Option ℕ) (l : List α) : List α :=
  match limit with
  | some n => l.take n
  | none => l

theorem truncate_sublist {α : Type} (limit : Option ℕ) (l : List α) :
    (truncate limit l).Sublist l := by
  cases limit with
  | none => exact List.Sublist.refl l
  | some n => exact List.take_sublist n l

def results (q : Query) (docs : DartMap Doc) : DartMap Doc where
  entries := truncate q.limit
    ((docs.entries.filter (fun e => q.accepts e.2)).insertionSort (fun a b => q.order a b ≠ .gt))
  nodupKeys := by
    have hfilter := docs.nodupKeys.sublist
      (List.filter_sublist (p := fun e : Sigma fun _ : String => Doc => q.accepts e.2))
    exact ((List.perm_nodupKeys (List.perm_insertionSort _ _)).mpr hfilter).sublist
      (truncate_sublist _ _)

theorem mem_of_lookup_results {q : Query} {docs : DartMap Doc} {id : String} {d : Doc}
    (h : (q.results docs).lookup id = some d) : docs.lookup id = some d ∧ q.accepts d = true := by
  have hmem : ⟨id, d⟩ ∈ (q.results docs).entries := AList.mem_lookup_iff.mp h
  have hsorted := (truncate_sublist _ _).subset hmem
  rw [List.mem_insertionSort, List.mem_filter] at hsorted
  exact ⟨AList.mem_lookup_iff.mpr hsorted.1, hsorted.2⟩

theorem mem_entries_results {q : Query} {docs : DartMap Doc} (hlimit : q.limit = none)
    {e : Sigma fun _ : String => Doc} (he : e ∈ docs.entries) (haccepts : q.accepts e.2 = true) :
    e ∈ (q.results docs).entries := by
  simp only [results, hlimit, truncate, List.mem_insertionSort, List.mem_filter]
  exact ⟨he, haccepts⟩

theorem mem_entries_of_results {q : Query} {docs : DartMap Doc}
    {e : Sigma fun _ : String => Doc} (he : e ∈ (q.results docs).entries) : e ∈ docs.entries :=
  AList.mem_lookup_iff.mp (mem_of_lookup_results (AList.mem_lookup_iff.mpr he)).1

end Query

end AirBnbClone
