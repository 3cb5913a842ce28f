import Mathlib.Algebra.Field.Rat
import Mathlib.Data.List.Nodup

/-!
# JSON values and map literals

A decoded JSON object is the list of its entries, in the order in which they were written; a missing
key reads as `null`. A map literal leaves out the entries whose value is absent, so that what is
read back under a key is its value where the keys are distinct.
-/

/-- `foreign` stands for an object that is only passed on. -/
inductive JsonValue
  | null
  | bool (b : Bool)
  | int (n : ℤ)
  | double (q : ℚ)
  | string (s : String)
  | list (vs : List JsonValue)
  | map (entries : List (String × JsonValue))
  | foreign (kind : String)

abbrev JsonMap := List (String × JsonValue)

/-- `if (value != null)`. -/
def JsonValue.notNull : JsonValue → Option JsonValue
  | .null => none
  | v => some v

@[simp] theorem JsonValue.getD_notNull (v : JsonValue) : v.notNull.getD .null = v := by
  cases v <;> rfl

namespace JsonMap

/-- `json[key]`. -/
def get (json : JsonMap) (key : String) : JsonValue := (json.lookup key).getD .null

/-- The literal with the entries `'key': value` and `if (value != null) 'key': value`. -/
def literal (fields : List (String × Option JsonValue)) : JsonMap :=
  fields.filterMap (fun field => field.2.map (Prod.mk field.1))

section Literal

variable {fields : List (String × Option JsonValue)}

theorem literal_cons (key : String) (v : Option JsonValue) :
    literal ((key, v) :: fields) = (v.map (Prod.mk key)).toList ++ literal fields := by
  cases v <;> rfl

theorem key_mem_of_mem_literal {entry : String × JsonValue} (h : entry ∈ literal fields) :
    entry.1 ∈ fields.map Prod.fst := by
  obtain ⟨⟨key, v⟩, hmem, hentry⟩ := List.mem_filterMap.mp h
  obtain ⟨v', -, rfl⟩ := Option.map_eq_some_iff.mp hentry
  exact List.mem_map_of_mem hmem

theorem lookup_literal_of_notMem {key : String} (h : key ∉ fields.map Prod.fst) :
    (literal fields).lookup key = none := by
  rw [List.lookup_eq_none_iff]
  intro entry hentry
  rw [bne_iff_ne]
  rintro rfl
  exact h (key_mem_of_mem_literal hentry)

theorem lookup_literal (hkeys : (fields.map Prod.fst).Nodup) (key : String) :
    (literal fields).lookup key = (fields.lookup key).join := by
  induction fields with
  | nil => rfl
  | cons field fields ih =>
      obtain ⟨key', v⟩ := field
      rw [List.map_cons, List.nodup_cons] at hkeys
      obtain ⟨hnew, hkeys⟩ := hkeys
      rw [literal_cons, List.lookup_cons]
      by_cases hkey : key = key'
      · subst hkey
        rw [beq_self_eq_true]
        cases v with
        | none => exact lookup_literal_of_notMem hnew
        | some v => exact List.lookup_cons_self
      · rw [beq_false_of_ne hkey, ← ih hkeys]
        cases v with
        | none => rfl
        | some v =>
            rw [Option.map_some, Option.toList_some, List.singleton_append, List.lookup_cons,
              beq_false_of_ne hkey]

theorem get_literal (hkeys : (fields.map Prod.fst).Nodup) (key : String) :
    (literal fields).get key = (fields.lookup key).join.getD .null := by
  unfold get
  rw [lookup_literal hkeys]

end Literal

end JsonMap
