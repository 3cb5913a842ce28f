import Mathlib.Algebra.Field.Rat
import Mathlib.Data.Finmap
import AirBnbClone.DateTimeParse
import AirBnbClone.DoubleRounding
import AirBnbClone.FiniteMap

/-!
# Dynamic values and the casts of the decoders

`Map<String, dynamic>` is a finite map to `Value`; a missing key reads as `null`. A double is the
rational it stands for; an integer is rounded when it becomes one. The casts below are the ones the
`fromFirestore` functions perform, each failing with a type error exactly where the Dart runtime
does.
-/

namespace AirBnbClone

inductive DartError
  | typeError
  | rangeError
  | notFound
  | unavailable
  | exception (message : String)
  deriving DecidableEq

/-- `foreign` stands for the values no decoder looks into: timestamps, references, bytes. -/
inductive Scalar
  | null
  | bool (b : Bool)
  | int (n : ℤ)
  | double (q : ℚ)
  | string (s : String)
  | dateTime (t : DateTime)
  | foreign (kind : String)
  deriving DecidableEq

/-- Lists and maps are modelled to the depth to which the decoders read them. -/
inductive Value
  | scalar (s : Scalar)
  | list (vs : List Scalar)
  | map (kvs : List (String × Scalar))
  deriving DecidableEq

namespace Value

@[match_pattern] abbrev null : Value := .scalar .null
@[match_pattern] abbrev bool (b : Bool) : Value := .scalar (.bool b)
@[match_pattern] abbrev int (n : ℤ) : Value := .scalar (.int n)
@[match_pattern] abbrev double (q : ℚ) : Value := .scalar (.double q)
@[match_pattern] abbrev string (s : String) : Value := .scalar (.string s)
@[match_pattern] abbrev dateTime (t : DateTime) : Value := .scalar (.dateTime t)

end Value

abbrev DartMap (α : Type) := FiniteMap.Map String α

abbrev Doc := DartMap Value

/-- A map literal; a later entry wins, as in Dart. -/
def DartMap.ofList {α : Type} (kvs : List (String × α)) : DartMap α :=
  kvs.foldl (fun m kv => m.insert kv.1 kv.2) ∅

/-- `data[key]`. -/
def Doc.get (d : Doc) (key : String) : Value := (d.lookup key).getD .null

theorem Doc.get_insert (d : Doc) (k k' : String) (v : Value) :
    Doc.get (d.insert k v) k' = if k' = k then v else Doc.get d k' := by
  unfold Doc.get
  rw [FiniteMap.lookup_insert_eq_ite]
  split_ifs <;> rfl

theorem Doc.get_union (d d' : Doc) (k : String) :
    Doc.get (d ∪ d') k = if k ∈ d then Doc.get d k else Doc.get d' k := by
  unfold Doc.get
  rw [FiniteMap.lookup_union_eq_ite]
  split_ifs <;> rfl

theorem Doc.lookup_of_get {d : Doc} {k : String} {v : Value} (h : d.get k = v)
    (hv : v ≠ .null) : d.lookup k = some v := by
  unfold Doc.get at h
  cases hlookup : d.lookup k with
  | none =>
      rw [hlookup] at h
      exact absurd h.symm hv
  | some v' =>
      rw [hlookup] at h
      exact congrArg some h

theorem Doc.get_of_notMem {d : Doc} {k : String} (h : k ∉ d) : Doc.get d k = .null := by
  unfold Doc.get
  rw [AList.lookup_eq_none.mpr h, Option.getD_none]

namespace Cast

/-- `data['id'] ?? ""` in a `String` position. -/
def idString : Value → Except DartError String
  | .null => .ok ""
  | .string s => .ok s
  | _ => .error .typeError

def string? : Value → Except DartError (Option String)
  | .null => .ok none
  | .string s => .ok (some s)
  | _ => .error .typeError

def bool? : Value → Except DartError (Option Bool)
  | .null => .ok none
  | .bool b => .ok (some b)
  | _ => .error .typeError

/-- `data[key] ?? false`. -/
def boolOrFalse : Value → Except DartError Bool
  | .null => .ok false
  | .bool b => .ok b
  | _ => .error .typeError

/-- A `dynamic` in a `double?` position: an integer is a type error. -/
def double? : Value → Except DartError (Option ℚ)
  | .null => .ok none
  | .double q => .ok (some q)
  | _ => .error .typeError

/-- `(data[key] as num?)?.toDouble()`. -/
def num? : Value → Except DartError (Option ℚ)
  | .null => .ok none
  | .int n => .ok (some (DoubleRounding.toDouble n))
  | .double q => .ok (some q)
  | _ => .error .typeError

/-- `(data[key] as num?)?.toDouble() ?? 0.0`. -/
def numOrZero (v : Value) : Except DartError ℚ := (num? v).map (fun q => q.getD 0)

/-- `data[key] as Model?`: a document never holds a Realm object. -/
def link : Value → Except DartError Unit
  | .null => .ok ()
  | _ => .error .typeError

def stringItem : Scalar → Except DartError String
  | .string s => .ok s
  | _ => .error .typeError

def intItem : String × Scalar → Except DartError (Sigma fun _ : String => ℤ)
  | (k, .int n) => .ok ⟨k, n⟩
  | _ => .error .typeError

/-- `List<String>.from(data[key] ?? [])`. -/
def strings : Value → Except DartError (List String)
  | .null => .ok []
  | .list vs => vs.mapM stringItem
  | _ => .error .typeError

/-- `Set<String>.from(data[key] ?? [])`. -/
def stringSet (v : Value) : Except DartError (Finset String) := (strings v).map List.toFinset

/-- `Map<String, int>.from(data[key] ?? {})`. -/
def intMap : Value → Except DartError (Finmap fun _ : String => ℤ)
  | .null => .ok ∅
  | .map kvs => (kvs.mapM intItem).map List.toFinmap
  | _ => .error .typeError

/-- `_parseDateTime`, the same in every helper that has it. Realm keeps the instant of a date and
drops its zone, so the instant is what the entity holds. -/
def parseDateTime (z : Zone) : Value → Except DartError (Option ℤ)
  | .dateTime t => .ok (some t.microsecondsSinceEpoch)
  | .int ms =>
      match DateTime.fromMillisecondsSinceEpoch ms with
      | some t => .ok (some t.microsecondsSinceEpoch)
      | none => .error .rangeError
  | .string s => .ok ((DateTime.tryParse z s).map DateTime.microsecondsSinceEpoch)
  | _ => .ok none

end Cast

end AirBnbClone
