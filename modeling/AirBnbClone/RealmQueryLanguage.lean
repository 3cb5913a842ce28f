import AirBnbClone.FirestoreMapper
import AirBnbClone.FirestoreQuery

/-!
# The fragment of the Realm query language that the builder prints

A query is text with placeholders `$0`, `$1`, …: comparisons and parenthesised disjunctions joined
by `AND`, then `SORT` and `LIMIT` descriptors. `parse` reads such a text and `select` runs it on a
list of rows. A query that prints to a text is the one that is read from it.
-/

namespace AirBnbClone

open FirestoreMapper

/-- The names of the schema's properties, in the order of `FirestoreMapper.properties`. -/
def propertyNames : Model → List String
  | .user => ["id", "email", "bio", "city", "country", "firstName", "lastName", "fullName",
      "imageUrl", "isHost", "isCurrentlyHosting", "earning"]
  | .posting => ["id", "name", "type", "price", "description", "address", "city", "country",
      "rating", "hostId", "host", "images", "amenities", "beds", "bathrooms", "lat", "lon"]
  | .booking => ["id", "postingId", "posting", "userId", "user", "checkIn", "checkOut",
      "paymentAmount"]
  | .favouritePosting => ["id", "postingId", "posting", "userId", "user", "createdAt"]
  | .message => ["id", "senderId", "conversationId", "text", "createdAt", "sender"]
  | .review => ["id", "rating", "comment", "userId", "user", "targetType", "targetId", "createdAt"]
  | .conversation => ["id", "members", "avatar", "name", "lastMessage", "lastMessageAt",
      "createdAt"]

def Entity.property (T : Model) (e : Entity T) (name : String) : Option Property :=
  ((propertyNames T).zip (properties T e)).lookup name

namespace Rql

inductive Operator
  | equal
  | like
  | greaterThanOrEqual
  | lessThan
  | contains
  | containsFold
  deriving DecidableEq

structure Comparison where
  field : String
  operator : Operator
  placeholder : ℕ
  deriving DecidableEq

inductive Clause
  | compare (c : Comparison)
  | anyOf (c : Comparison) (cs : List Comparison)
  deriving DecidableEq

inductive Descriptor
  | sort (field : String) (descending : Bool)
  | limit (n : ℕ)
  deriving DecidableEq

structure Query where
  clauses : List Clause
  descriptors : List Descriptor
  deriving DecidableEq

section Meaning

/-- The value a property is compared by; collections and links have none. -/
def scalar : Property → Option Scalar
  | .text s => some (.string s)
  | .text? s => some (s.elim .null .string)
  | .flag b => some (.bool b)
  | .flag? b => some (b.elim .null .bool)
  | .number q => some (.double q)
  | .number? q => some (q.elim .null .double)
  | .date? t => some (t.elim .null (fun t => .dateTime (.utc t)))
  | .texts _ | .textSet _ | .counts _ | .noLink => none

/-- `?` stands for one character and `*` for any number of them. -/
def wildcard : List Char → List Char → Bool
  | [], s => s.isEmpty
  | '*' :: p, s => s.tails.any (wildcard p)
  | '?' :: p, _ :: s => wildcard p s
  | c :: p, d :: s => c == d && wildcard p s
  | _ :: _, [] => false

/-- How the database folds the letters of a text for `CONTAINS[c]`, which disregards their case. -/
class CaseFolding where
  fold : String → List Char

/-- Folds the letters of ASCII. Where no `CONTAINS[c]` is asked, no result depends on it. -/
instance : CaseFolding where
  fold s := s.toList.map Char.toLower

variable [CaseFolding]

/-- An order comparison with null is false, whichever side it is on. -/
def holds (op : Operator) (p : Property) (v : Scalar) : Bool :=
  match op, p, v with
  | .equal, p, v => (scalar p).any (fun s => s.order v == .eq)
  | .greaterThanOrEqual, p, v =>
      (scalar p).any (fun s => s != .null && s.typeOrder == v.typeOrder && s.order v != .lt)
  | .lessThan, p, v =>
      (scalar p).any (fun s => s != .null && s.typeOrder == v.typeOrder && s.order v == .lt)
  | .contains, .texts l, .string v => l.contains v
  | .contains, .textSet s, .string v => decide (v ∈ s)
  | .like, p, .string v =>
      match scalar p with
      | some (.string s) => wildcard v.toList s.toList
      | _ => false
  | .contains, p, .string v =>
      match scalar p with
      | some (.string s) => decide (v.toList <:+: s.toList)
      | _ => false
  | .containsFold, p, .string v =>
      match scalar p with
      | some (.string s) => decide (CaseFolding.fold v <:+: CaseFolding.fold s)
      | _ => false
  | _, _, _ => false

variable (values : List Scalar) (property : String → Option Property)

def Comparison.accepts (c : Comparison) : Bool :=
  match property c.field, values[c.placeholder]? with
  | some p, some v => holds c.operator p v
  | _, _ => false

def Clause.accepts : Clause → Bool
  | .compare c => c.accepts values property
  | .anyOf c cs => (c :: cs).any (fun c => c.accepts values property)

def Query.accepts (q : Query) : Bool := q.clauses.all (fun c => c.accepts values property)

end Meaning

/-- Nulls sort before everything else. -/
def order (p p' : Option Property) : Ordering :=
  match p.bind scalar, p'.bind scalar with
  | some a, some b => Scalar.order a b
  | none, some _ => .lt
  | some _, none => .gt
  | none, none => .eq

/-- `SORT` is stable, `LIMIT` keeps the first rows. -/
def Descriptor.apply {α : Type} (property : α → String → Option Property) :
    Descriptor → List α → List α
  | .sort field descending, rows => rows.insertionSort (fun a b =>
      AirBnbClone.Query.directed descending (order (property a field) (property b field)) ≠ .gt)
  | .limit n, rows => rows.take n

def Query.select [CaseFolding] {α : Type} (values : List Scalar)
    (property : α → String → Option Property) (q : Query) (rows : List α) : List α :=
  q.descriptors.foldl (fun rows d => d.apply property rows)
    (rows.filter (fun row => q.accepts values (property row)))

section Syntax

inductive Token
  | word (w : List Char)
  | openParen
  | closeParen
  deriving DecidableEq

def flush : List Char → List Token
  | [] => []
  | w => [.word w]

/-- Words end at a space or a parenthesis; `w` is the word read so far. -/
def lexFrom (w : List Char) : List Char → List Token
  | [] => flush w
  | c :: cs =>
      if c = ' ' then flush w ++ lexFrom [] cs
      else if c = '(' then flush w ++ .openParen :: lexFrom [] cs
      else if c = ')' then flush w ++ .closeParen :: lexFrom [] cs
      else lexFrom (w ++ [c]) cs

def lex (cs : List Char) : List Token := lexFrom [] cs

def Operator.symbol : Operator → List Char
  | .equal => ['=', '=']
  | .like => ['L', 'I', 'K', 'E']
  | .greaterThanOrEqual => ['>', '=']
  | .lessThan => ['<']
  | .contains => ['C', 'O', 'N', 'T', 'A', 'I', 'N', 'S']
  | .containsFold => ['C', 'O', 'N', 'T', 'A', 'I', 'N', 'S', '[', 'c', ']']

def readOperator (w : List Char) : Option Operator :=
  [.equal, .like, .greaterThanOrEqual, .lessThan, .contains, .containsFold].find?
    (fun op : Operator => op.symbol = w)

def readNumber (w : List Char) : Option ℕ :=
  if w ≠ [] ∧ w.all Char.isDigit then some (Nat.ofDigitChars 10 w 0) else none

def readPlaceholder : List Char → Option ℕ
  | '$' :: w => readNumber w
  | _ => none

def readDirection (w : List Char) : Option Bool :=
  if w = ['A', 'S', 'C'] then some false
  else if w = ['D', 'E', 'S', 'C'] then some true
  else none

def readComparison (field op placeholder : List Char) : Option Comparison := do
  let op ← readOperator op
  let i ← readPlaceholder placeholder
  return ⟨String.ofList field, op, i⟩

/-- What follows the first comparison of a disjunction. -/
def readOr : List Token → Option (List Comparison × List Token)
  | .closeParen :: rest => some ([], rest)
  | .word w :: .word field :: .word op :: .word placeholder :: rest =>
      if w = ['O', 'R'] then do
        let c ← readComparison field op placeholder
        let (cs, rest) ← readOr rest
        return (c :: cs, rest)
      else none
  | _ => none

def readClause : List Token → Option (Clause × List Token)
  | .openParen :: .word field :: .word op :: .word placeholder :: rest => do
      let c ← readComparison field op placeholder
      let (cs, rest) ← readOr rest
      return (.anyOf c cs, rest)
  | .word field :: .word op :: .word placeholder :: rest => do
      let c ← readComparison field op placeholder
      return (.compare c, rest)
  | _ => none

/-- At most `fuel` clauses joined by `AND`. -/
def readClauses : ℕ → List Token → Option (List Clause × List Token)
  | 0, _ => none
  | fuel + 1, tokens => do
      let (c, rest) ← readClause tokens
      match rest with
      | .word w :: rest' =>
          if w = ['A', 'N', 'D'] then do
            let (cs, rest) ← readClauses fuel rest'
            return (c :: cs, rest)
          else return ([c], rest)
      | _ => return ([c], rest)

def readDescriptors : List Token → Option (List Descriptor)
  | [] => some []
  | .word w :: .openParen :: .word field :: .word direction :: .closeParen :: rest =>
      if w = ['S', 'O', 'R', 'T'] then do
        let descending ← readDirection direction
        let ds ← readDescriptors rest
        return .sort (String.ofList field) descending :: ds
      else none
  | .word w :: .openParen :: .word n :: .closeParen :: rest =>
      if w = ['L', 'I', 'M', 'I', 'T'] then do
        let n ← readNumber n
        let ds ← readDescriptors rest
        return .limit n :: ds
      else none
  | _ => none

def truePredicate : List Char := "TRUEPREDICATE".toList

def readQuery (tokens : List Token) : Option Query :=
  match readClauses tokens.length tokens with
  | some (clauses, rest) => (readDescriptors rest).map (fun ds => ⟨clauses, ds⟩)
  | none =>
      match tokens with
      | .word w :: rest =>
          if w = truePredicate then (readDescriptors rest).map (fun ds => ⟨[], ds⟩) else none
      | _ => none

def parse (text : String) : Option Query := readQuery (lex text.toList)

end Syntax

section Lexing

/-- A word of a query text: not empty and without a space or a parenthesis. -/
def Plain (w : List Char) : Prop := w ≠ [] ∧ ∀ c ∈ w, c ≠ ' ' ∧ c ≠ '(' ∧ c ≠ ')'

-- the characters of the word are tried, not all characters there are
instance (w : List Char) : Decidable (Plain w) :=
  have := List.decidableBAll (fun c => c ≠ ' ' ∧ c ≠ '(' ∧ c ≠ ')') w
  inferInstanceAs (Decidable (w ≠ [] ∧ ∀ c ∈ w, c ≠ ' ' ∧ c ≠ '(' ∧ c ≠ ')'))

theorem flush_of_ne_nil {w : List Char} (h : w ≠ []) : flush w = [.word w] := by
  cases w with
  | nil => exact absurd rfl h
  | cons c w => rfl

theorem lexFrom_space (w a b : List Char) :
    lexFrom w (a ++ ' ' :: b) = lexFrom w a ++ lex b := by
  induction a generalizing w with
  | nil => simp [lexFrom, lex]
  | cons c a ih =>
      simp only [List.cons_append, lexFrom, ih]
      split_ifs <;> simp

theorem lexFrom_openParen (w a b : List Char) :
    lexFrom w (a ++ '(' :: b) = lexFrom w a ++ .openParen :: lex b := by
  induction a generalizing w with
  | nil => simp [lexFrom, lex]
  | cons c a ih =>
      simp only [List.cons_append, lexFrom, ih]
      split_ifs <;> simp

theorem lexFrom_closeParen (w a b : List Char) :
    lexFrom w (a ++ ')' :: b) = lexFrom w a ++ .closeParen :: lex b := by
  induction a generalizing w with
  | nil => simp [lexFrom, lex]
  | cons c a ih =>
      simp only [List.cons_append, lexFrom, ih]
      split_ifs <;> simp

theorem lexFrom_word (w u : List Char) (h : ∀ c ∈ u, c ≠ ' ' ∧ c ≠ '(' ∧ c ≠ ')') :
    lexFrom w u = flush (w ++ u) := by
  induction u generalizing w with
  | nil => simp [lexFrom]
  | cons c u ih =>
      obtain ⟨hspace, hopen, hclose⟩ := h c List.mem_cons_self
      rw [lexFrom, if_neg hspace, if_neg hopen, if_neg hclose,
        ih _ (fun d hd => h d (List.mem_cons_of_mem c hd)), List.append_assoc]
      rfl

@[simp] theorem lex_nil : lex [] = [] := rfl

@[simp] theorem lex_space (a b : List Char) : lex (a ++ ' ' :: b) = lex a ++ lex b :=
  lexFrom_space [] a b

@[simp] theorem lex_openParen (a b : List Char) :
    lex (a ++ '(' :: b) = lex a ++ .openParen :: lex b :=
  lexFrom_openParen [] a b

@[simp] theorem lex_closeParen (a b : List Char) :
    lex (a ++ ')' :: b) = lex a ++ .closeParen :: lex b :=
  lexFrom_closeParen [] a b

theorem lex_plain {w : List Char} (h : Plain w) : lex w = [.word w] := by
  rw [lex, lexFrom_word [] w h.2, List.nil_append, flush_of_ne_nil h.1]

theorem plain_digits (n : ℕ) : Plain (Nat.toDigits 10 n) := by
  refine ⟨Nat.toDigits_ne_nil, fun c hc => ?_⟩
  have hdigit := Nat.isDigit_of_mem_toDigits (by decide) (by decide) hc
  refine ⟨?_, ?_, ?_⟩ <;> (rintro rfl; exact absurd hdigit (by decide))

theorem plain_placeholder (n : ℕ) : Plain ('$' :: Nat.toDigits 10 n) := by
  refine ⟨List.cons_ne_nil _ _, fun c hc => ?_⟩
  rcases List.mem_cons.mp hc with rfl | hc
  · decide
  · exact (plain_digits n).2 c hc

theorem plain_symbol (op : Operator) : Plain op.symbol := by cases op <;> decide

end Lexing

section Tokens

def Comparison.tokens (c : Comparison) : List Token :=
  [.word c.field.toList, .word c.operator.symbol, .word ('$' :: Nat.toDigits 10 c.placeholder)]

def orTokens : List Comparison → List Token
  | [] => [.closeParen]
  | c :: cs => .word ['O', 'R'] :: (c.tokens ++ orTokens cs)

def Clause.tokens : Clause → List Token
  | .compare c => c.tokens
  | .anyOf c cs => .openParen :: (c.tokens ++ orTokens cs)

def andTokens : List Clause → List Token
  | [] => []
  | c :: cs => .word ['A', 'N', 'D'] :: (c.tokens ++ andTokens cs)

def Descriptor.tokens : Descriptor → List Token
  | .sort field descending => [.word ['S', 'O', 'R', 'T'], .openParen, .word field.toList,
      .word (if descending then ['D', 'E', 'S', 'C'] else ['A', 'S', 'C']), .closeParen]
  | .limit n => [.word ['L', 'I', 'M', 'I', 'T'], .openParen, .word (Nat.toDigits 10 n),
      .closeParen]

def predicateTokens : List Clause → List Token
  | [] => [.word truePredicate]
  | c :: cs => c.tokens ++ andTokens cs

def Query.tokens (q : Query) : List Token :=
  predicateTokens q.clauses ++ q.descriptors.flatMap Descriptor.tokens

theorem andTokens_append (cs ds : List Clause) :
    andTokens (cs ++ ds) = andTokens cs ++ andTokens ds := by
  induction cs with
  | nil => rfl
  | cons c cs ih => simp [andTokens, ih]

theorem predicateTokens_append {cs : List Clause} (h : cs ≠ []) (c : Clause) :
    predicateTokens (cs ++ [c]) = predicateTokens cs ++ .word ['A', 'N', 'D'] :: c.tokens := by
  cases cs with
  | nil => exact absurd rfl h
  | cons d cs => simp [predicateTokens, andTokens_append, andTokens]

theorem readOperator_symbol (op : Operator) : readOperator op.symbol = some op := by
  cases op <;> rfl

theorem readNumber_digits (n : ℕ) : readNumber (Nat.toDigits 10 n) = some n := by
  have hall : (Nat.toDigits 10 n).all Char.isDigit = true := by
    rw [List.all_eq_true]
    intro c hc
    exact Nat.isDigit_of_mem_toDigits (by decide) (by decide) hc
  rw [readNumber, if_pos ⟨Nat.toDigits_ne_nil, hall⟩,
    Nat.ofDigitChars_toDigits (by decide) (by decide)]

theorem readComparison_tokens (c : Comparison) :
    readComparison c.field.toList c.operator.symbol ('$' :: Nat.toDigits 10 c.placeholder) =
      some c := by
  simp [readComparison, readOperator_symbol, readPlaceholder, readNumber_digits]

theorem readOr_tokens (cs : List Comparison) (rest : List Token) :
    readOr (orTokens cs ++ rest) = some (cs, rest) := by
  induction cs with
  | nil => rfl
  | cons c cs ih =>
      simp only [orTokens, Comparison.tokens, List.cons_append, List.nil_append, readOr, if_true,
        readComparison_tokens, ih]
      rfl

theorem readClause_tokens (c : Clause) (rest : List Token) :
    readClause (c.tokens ++ rest) = some (c, rest) := by
  cases c with
  | compare c =>
      simp only [Clause.tokens, Comparison.tokens, List.cons_append, List.nil_append, readClause,
        readComparison_tokens]
      rfl
  | anyOf c cs =>
      simp only [Clause.tokens, Comparison.tokens, List.cons_append, List.nil_append, readClause,
        readComparison_tokens]
      change ((readOr (orTokens cs ++ rest)).bind fun r => some (Clause.anyOf c r.1, r.2)) = _
      rw [readOr_tokens]
      rfl

theorem readDescriptors_tokens (ds : List Descriptor) :
    readDescriptors (ds.flatMap Descriptor.tokens) = some ds := by
  induction ds with
  | nil => rfl
  | cons d ds ih =>
      cases d with
      | sort field descending =>
          cases descending <;>
            simp [Descriptor.tokens, readDescriptors, readDirection, ih]
      | limit n => simp [Descriptor.tokens, readDescriptors, readNumber_digits, ih]

/-- The clauses end where the descriptors begin. -/
theorem readClauses_tokens (c : Clause) (cs : List Clause) (ds : List Descriptor) (fuel : ℕ)
    (h : cs.length < fuel) :
    readClauses fuel (c.tokens ++ (andTokens cs ++ ds.flatMap Descriptor.tokens)) =
      some (c :: cs, ds.flatMap Descriptor.tokens) := by
  induction cs generalizing c fuel with
  | nil =>
      obtain ⟨fuel, rfl⟩ := Nat.exists_eq_add_of_lt h
      cases ds with
      | nil =>
          have hlast := readClause_tokens c []
          rw [List.append_nil] at hlast
          simp [readClauses, andTokens, hlast]
      | cons d ds => cases d <;> simp [readClauses, readClause_tokens, andTokens, Descriptor.tokens]
  | cons c' cs ih =>
      cases fuel with
      | zero => exact absurd h (Nat.not_lt_zero _)
      | succ fuel =>
          have hrest := ih c' fuel (Nat.lt_of_succ_lt_succ h)
          simp [readClauses, readClause_tokens, andTokens, hrest]

theorem length_le_andTokens (cs : List Clause) : cs.length ≤ (andTokens cs).length := by
  induction cs with
  | nil => exact Nat.le_refl 0
  | cons c cs ih =>
      simp only [andTokens, List.length_cons, List.length_append]
      omega

theorem tokens_pos (c : Clause) : 0 < c.tokens.length := by
  cases c <;> exact Nat.succ_pos _

/-- A query is read back from its tokens. -/
theorem readQuery_tokens (q : Query) : readQuery q.tokens = some q := by
  obtain ⟨clauses, ds⟩ := q
  cases clauses with
  | nil =>
      have hnone : readClauses (Query.tokens ⟨[], ds⟩).length (Query.tokens ⟨[], ds⟩) = none := by
        cases ds with
        | nil => rfl
        | cons d ds => cases d <;> rfl
      simp only [readQuery, hnone]
      simp [Query.tokens, predicateTokens, readDescriptors_tokens]
  | cons c cs =>
      have hfuel : cs.length < (Query.tokens ⟨c :: cs, ds⟩).length := by
        have hcs := length_le_andTokens cs
        have hc := tokens_pos c
        simp only [Query.tokens, predicateTokens, List.length_append]
        omega
      have hread : readClauses (Query.tokens ⟨c :: cs, ds⟩).length (Query.tokens ⟨c :: cs, ds⟩) =
          some (c :: cs, ds.flatMap Descriptor.tokens) := by
        rw [← readClauses_tokens c cs ds _ hfuel, ← List.append_assoc]
        rfl
      simp only [readQuery, hread, readDescriptors_tokens, Option.map_some]

/-- A text that lexes to the tokens of a query is read as that query. -/
theorem parse_of_lex {text : String} {q : Query} (h : lex text.toList = q.tokens) :
    parse text = some q := by
  rw [parse, h, readQuery_tokens]

end Tokens

end Rql

end AirBnbClone
