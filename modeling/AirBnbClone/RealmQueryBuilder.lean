import AirBnbClone.RealmQueryLanguage
import AirBnbClone.Realm

/-!
# The local query builder

`RealmQueryBuilder` appends to a query text and collects the values of its placeholders. As long as
the filters come before the sorts, the text is read as the query that was asked for.
-/

namespace AirBnbClone

structure RealmQueryBuilder where
  queryNumber : ℕ
  queryString : String
  queryValues : List Scalar
  limit? : Option ℤ

namespace RealmQueryBuilder

def new : RealmQueryBuilder := ⟨0, "", [], none⟩

/-- `if (_queryNumber > 0) _queryString += " AND "`. -/
def joined (b : RealmQueryBuilder) : String :=
  if 0 < b.queryNumber then b.queryString ++ " AND " else b.queryString

/-- The filter methods differ in their operator only. -/
def filter (b : RealmQueryBuilder) (operator field : String) (value : Scalar) :
    RealmQueryBuilder :=
  { b with
    queryString := b.joined ++ (field ++ " " ++ operator ++ " $" ++ toString b.queryNumber)
    queryValues := b.queryValues ++ [value]
    queryNumber := b.queryNumber + 1 }

def equal (b : RealmQueryBuilder) (field : String) (value : Scalar) : RealmQueryBuilder :=
  b.filter "==" field value

def like (b : RealmQueryBuilder) (field value : String) : RealmQueryBuilder :=
  b.filter "LIKE" field (.string value)

def greaterThanOrEqualTo (b : RealmQueryBuilder) (field : String) (value : Scalar) :
    RealmQueryBuilder :=
  b.filter ">=" field value

def lessThan (b : RealmQueryBuilder) (field : String) (value : Scalar) : RealmQueryBuilder :=
  b.filter "<" field value

def contains (b : RealmQueryBuilder) (field : String) (value : Scalar) : RealmQueryBuilder :=
  b.filter "CONTAINS" field value

/-- All parts share one placeholder. -/
def orContains (b : RealmQueryBuilder) (fields : List String) (value : String) :
    RealmQueryBuilder :=
  if value.isEmpty then b
  else
    let parts := " OR ".intercalate
      (fields.map (fun f => f ++ " CONTAINS[c] $" ++ toString b.queryNumber))
    { b with
      queryString := b.joined ++ ("(" ++ parts ++ ")")
      queryValues := b.queryValues ++ [.string value]
      queryNumber := b.queryNumber + 1 }

/-- `_queryString.isEmpty ? "TRUEPREDICATE" : _queryString`. -/
def predicate (b : RealmQueryBuilder) : String :=
  if b.queryString.isEmpty then "TRUEPREDICATE" else b.queryString

/-- The two sort methods differ in their direction only. -/
def sort (b : RealmQueryBuilder) (field direction : String) : RealmQueryBuilder :=
  { b with queryString := b.predicate ++ (" SORT(" ++ field ++ " " ++ direction ++ ")") }

def sortAscending (b : RealmQueryBuilder) (field : String) : RealmQueryBuilder :=
  b.sort field "ASC"

def sortDescending (b : RealmQueryBuilder) (field : String) : RealmQueryBuilder :=
  b.sort field "DESC"

def limit (b : RealmQueryBuilder) (maxResults : ℤ) : RealmQueryBuilder :=
  { b with limit? := some maxResults }

def getQueryString (b : RealmQueryBuilder) : String :=
  match b.limit? with
  | some lim => if 0 < lim then b.predicate ++ (" LIMIT(" ++ toString lim ++ ")") else b.predicate
  | none => b.predicate

def getQueryValues (b : RealmQueryBuilder) : List Scalar := b.queryValues

/-- A text that is no query selects nothing. -/
def accepts [Rql.CaseFolding] (b : RealmQueryBuilder) (T : Model) (e : Entity T) : Bool :=
  (Rql.parse b.getQueryString).any (fun q => q.accepts b.getQueryValues (Entity.property T e))

def select [Rql.CaseFolding] (b : RealmQueryBuilder) (T : Model) (rows : List (Entity T)) :
    List (Entity T) :=
  match Rql.parse b.getQueryString with
  | some q => q.select b.getQueryValues (Entity.property T) rows
  | none => []

section Printing

open Rql

variable {b : RealmQueryBuilder} {cs : List Clause} {ds : List Descriptor} {c : Clause}
  {field text : String}

/-- The text of the builder is the query with the clauses `cs` and the sorts `ds`. -/
structure Represents (b : RealmQueryBuilder) (cs : List Clause) (ds : List Descriptor) : Prop where
  number : b.queryNumber = cs.length
  empty : cs = [] → ds = [] → b.queryString = ""
  text : cs ≠ [] ∨ ds ≠ [] → lex b.queryString.toList = Query.tokens ⟨cs, ds⟩

theorem represents_new : new.Represents [] [] where
  number := rfl
  empty _ _ := rfl
  text h := h.elim (absurd rfl) (absurd rfl)

theorem ne_empty_of_lex {q : Rql.Query} (h : lex text.toList = q.tokens) :
    text.isEmpty = false := by
  rw [Bool.eq_false_iff]
  intro hempty
  rw [String.isEmpty_iff.mp hempty] at h
  obtain ⟨_ | ⟨c, cs⟩, ds⟩ := q
  · exact List.cons_ne_nil _ _ h.symm
  · have hlen := congrArg List.length h
    have hpos := tokens_pos c
    simp only [Query.tokens, predicateTokens, List.length_append] at hlen
    simp at hlen
    omega

theorem lex_comparison (hfield : Plain field.toList) {operator : String} {op : Rql.Operator}
    (hop : operator.toList = op.symbol) (n : ℕ) :
    lex (field ++ " " ++ operator ++ " $" ++ toString n).toList =
      Comparison.tokens ⟨field, op, n⟩ := by
  have htext : (field ++ " " ++ operator ++ " $" ++ toString n).toList =
      field.toList ++ ' ' :: (op.symbol ++ ' ' :: '$' :: Nat.toDigits 10 n) := by
    simp [hop]
  rw [htext, lex_space, lex_space, lex_plain hfield, lex_plain (plain_symbol op),
    lex_plain (plain_placeholder n)]
  rfl

/-- A clause is joined to the ones before it. -/
theorem lex_joined (h : b.Represents cs []) (htext : lex text.toList = c.tokens) :
    lex (b.joined ++ text).toList = Query.tokens ⟨cs ++ [c], []⟩ := by
  unfold joined
  rw [h.number]
  by_cases hcs : cs = []
  · subst hcs
    rw [if_neg (by simp), h.empty rfl rfl]
    simp [htext, Query.tokens, predicateTokens, andTokens]
  · have happend : (b.queryString ++ " AND " ++ text).toList =
        b.queryString.toList ++ ' ' :: (['A', 'N', 'D'] ++ ' ' :: text.toList) := by
      simp
    rw [if_pos (List.length_pos_of_ne_nil hcs), happend, lex_space, lex_space, h.text (.inl hcs),
      htext, lex_plain (by decide)]
    simp [Query.tokens, predicateTokens_append hcs]

theorem Represents.filter (h : b.Represents cs []) {operator : String} {op : Rql.Operator}
    (hop : operator.toList = op.symbol) (hfield : Plain field.toList) (value : Scalar) :
    (b.filter operator field value).Represents (cs ++ [.compare ⟨field, op, cs.length⟩]) [] where
  number := by simp [RealmQueryBuilder.filter, h.number]
  empty hc := absurd hc (by simp)
  text _ := by
    rw [← h.number]
    apply lex_joined h
    exact lex_comparison hfield hop b.queryNumber

theorem Represents.equal (h : b.Represents cs []) (hfield : Plain field.toList) (value : Scalar) :
    (b.equal field value).Represents (cs ++ [.compare ⟨field, .equal, cs.length⟩]) [] :=
  h.filter rfl hfield value

theorem Represents.greaterThanOrEqualTo (h : b.Represents cs []) (hfield : Plain field.toList)
    (value : Scalar) : (b.greaterThanOrEqualTo field value).Represents
      (cs ++ [.compare ⟨field, .greaterThanOrEqual, cs.length⟩]) [] :=
  h.filter rfl hfield value

theorem Represents.lessThan (h : b.Represents cs []) (hfield : Plain field.toList)
    (value : Scalar) : (b.lessThan field value).Represents
      (cs ++ [.compare ⟨field, .lessThan, cs.length⟩]) [] :=
  h.filter rfl hfield value

theorem lex_parts {op : Rql.Operator} {operator : String} (hop : operator.toList = op.symbol)
    (n : ℕ) {fields : List String} (hfields : ∀ f ∈ fields, Plain f.toList)
    (hfield : Plain field.toList) :
    lex (" OR ".intercalate ((field :: fields).map
        (fun f => f ++ " " ++ operator ++ " $" ++ toString n))).toList ++ [.closeParen] =
      Comparison.tokens ⟨field, op, n⟩ ++ orTokens (fields.map (fun f => ⟨f, op, n⟩)) := by
  induction fields generalizing field with
  | nil =>
      rw [List.map_singleton, String.intercalate_singleton, lex_comparison hfield hop]
      rfl
  | cons g fields ih =>
      obtain ⟨hg, hfields⟩ := List.forall_mem_cons.mp hfields
      have happend (s t : String) : (s ++ " OR " ++ t).toList =
          s.toList ++ ' ' :: (['O', 'R'] ++ ' ' :: t.toList) := by
        simp
      have hrest := ih hfields hg
      rw [List.map_cons] at hrest
      rw [List.map_cons, List.map_cons, String.intercalate_cons_cons, happend, lex_space, lex_space,
        lex_comparison hfield hop, lex_plain (by decide), List.append_assoc, List.append_assoc,
        hrest]
      rfl

/-- The disjunction is one clause with one value. -/
theorem Represents.orContains (h : b.Represents cs []) {fields : List String}
    (hfield : Plain field.toList) (hfields : ∀ f ∈ fields, Plain f.toList) {value : String}
    (hvalue : value ≠ "") :
    (b.orContains (field :: fields) value).Represents
      (cs ++ [.anyOf ⟨field, .containsFold, cs.length⟩
        (fields.map (fun f => ⟨f, .containsFold, cs.length⟩))]) [] := by
  have hempty : value.isEmpty = false := by simpa using hvalue
  simp only [RealmQueryBuilder.orContains, hempty]
  constructor
  · simp [h.number]
  · intro hc
    simp at hc
  · intro _
    apply lex_joined h
    have hpart (f : String) : f ++ " CONTAINS[c] $" ++ toString b.queryNumber =
        f ++ " " ++ "CONTAINS[c]" ++ " $" ++ toString b.queryNumber := by
      simp [String.append_assoc]
    have happend (parts : String) : ("(" ++ parts ++ ")").toList =
        [] ++ '(' :: (parts.toList ++ ')' :: []) := by
      simp
    have hoperator : "CONTAINS[c]".toList = Rql.Operator.containsFold.symbol := rfl
    simp only [hpart]
    rw [happend, lex_openParen, lex_closeParen, lex_nil, h.number, List.nil_append,
      lex_parts hoperator cs.length hfields hfield]
    rfl

theorem Represents.lex_predicate (h : b.Represents cs ds) :
    lex b.predicate.toList = Query.tokens ⟨cs, ds⟩ := by
  unfold predicate
  by_cases hempty : cs = [] ∧ ds = []
  · obtain ⟨rfl, rfl⟩ := hempty
    rw [h.empty rfl rfl]
    decide
  · have htext := h.text (by tauto)
    rw [if_neg (by simp [ne_empty_of_lex htext]), htext]

theorem Represents.sort (h : b.Represents cs ds) (hfield : Plain field.toList) (descending : Bool) :
    (b.sort field (if descending then "DESC" else "ASC")).Represents cs
      (ds ++ [.sort field descending]) where
  number := h.number
  empty _ hd := absurd hd (by simp)
  text _ := by
    have happend (s direction : String) :
        (s ++ (" SORT(" ++ field ++ " " ++ direction ++ ")")).toList
        = s.toList ++ ' ' :: (['S', 'O', 'R', 'T'] ++ '(' :: (field.toList ++
          ' ' :: (direction.toList ++ ')' :: []))) := by
      simp
    have hdirection : Plain (if descending then "DESC" else "ASC").toList := by
      cases descending <;> decide
    change lex (_ ++ (" SORT(" ++ field ++ " " ++ _ ++ ")")).toList = _
    rw [happend, lex_space, lex_openParen, lex_space, lex_closeParen, h.lex_predicate,
      lex_plain hfield, lex_plain hdirection, lex_plain (by decide)]
    cases descending <;> simp [Query.tokens, Descriptor.tokens]

/-- What a limit adds to the query. -/
def limitDescriptors : Option ℤ → List Descriptor
  | some lim => if 0 < lim then [.limit lim.toNat] else []
  | none => []

/-- The builder's text is read as the query it represents, cut off at its limit. -/
theorem Represents.parse (h : b.Represents cs ds) :
    Rql.parse b.getQueryString = some ⟨cs, ds ++ limitDescriptors b.limit?⟩ := by
  apply parse_of_lex
  unfold getQueryString limitDescriptors
  cases b.limit? with
  | none => simpa using h.lex_predicate
  | some lim =>
      dsimp only
      split_ifs with hpos
      · obtain ⟨n, rfl⟩ := Int.eq_ofNat_of_zero_le hpos.le
        have happend (s : String) : (s ++ (" LIMIT(" ++ toString (n : ℤ) ++ ")")).toList =
            s.toList ++ ' ' :: (['L', 'I', 'M', 'I', 'T'] ++ '(' :: (Nat.toDigits 10 n ++
              ')' :: [])) := by
          rw [show toString (n : ℤ) = Nat.repr n from rfl]
          simp
        rw [happend, lex_space, lex_openParen, lex_closeParen, h.lex_predicate,
          lex_plain (plain_digits n), lex_plain (by decide)]
        simp [Query.tokens, Descriptor.tokens]
      · simpa using h.lex_predicate

theorem Represents.accepts_eq [CaseFolding] (h : b.Represents cs ds) (T : Model) (e : Entity T) :
    b.accepts T e = cs.all (fun c => c.accepts b.queryValues (Entity.property T e)) := by
  rw [accepts, h.parse]
  rfl

theorem Represents.select_eq [CaseFolding] (h : b.Represents cs ds) (T : Model)
    (rows : List (Entity T)) : b.select T rows = (ds ++ limitDescriptors b.limit?).foldl
      (fun rows d => d.apply (Entity.property T) rows) (rows.filter (fun e => b.accepts T e)) := by
  simp only [select, h.parse, Rql.Query.select, h.accepts_eq]
  rfl

end Printing

end RealmQueryBuilder

/-- `realm.query<T>(query.getQueryString(), query.getQueryValues())`. -/
def RealmService.getEntities [Rql.CaseFolding] (r : Realm) (T : Model)
    (query : RealmQueryBuilder) : List (Entity T) :=
  query.select T ((r.all T).map Row.entity)

/-- A query without sorts and limit filters the rows. -/
theorem RealmService.mem_getEntities_iff [Rql.CaseFolding] {b : RealmQueryBuilder}
    {cs : List Rql.Clause} (h : b.Represents cs []) (hlimit : b.limit? = none) (r : Realm)
    (T : Model) (e : Entity T) : e ∈ getEntities r T b ↔
      (r.find T (Entity.id T e)).map Row.entity = some e ∧ b.accepts T e = true := by
  rw [getEntities, h.select_eq, hlimit]
  exact List.mem_filter.trans (and_congr_left fun _ => Realm.mem_entities_iff e)

theorem RealmService.nodup_getEntities [Rql.CaseFolding] {b : RealmQueryBuilder}
    {cs : List Rql.Clause} (h : b.Represents cs []) (hlimit : b.limit? = none) (r : Realm)
    (T : Model) : (getEntities r T b).Nodup := by
  rw [getEntities, h.select_eq, hlimit]
  have hids := Realm.nodup_ids r T
  rw [show (fun row : Row T => Entity.id T row.entity) = Entity.id T ∘ Row.entity from rfl,
    ← List.map_map] at hids
  exact (List.Nodup.of_map _ hids).filter _

end AirBnbClone
