import Mathlib.Tactic.Common
import AirBnbClone.SplitText

/-!
# Percent encoding

A text is encoded byte by byte in UTF-8: a byte whose character is kept stands for itself, any other
becomes an escape of two upper-case hexadecimal digits. A form joins its pairs with `&` and each key
to its value with `=`, and is read back by splitting at these and decoding, whether or not the
reader takes `+` for a space.
-/

namespace PercentEncoding

def hexDigit (n : ℕ) : Char := Char.ofNat (if n < 10 then 48 + n else 55 + n)

def hexValue (c : Char) : Option ℕ :=
  if '0' ≤ c ∧ c ≤ '9' then some (c.toNat - 48)
  else if 'A' ≤ c ∧ c ≤ 'F' then some (c.toNat - 55)
  else if 'a' ≤ c ∧ c ≤ 'f' then some (c.toNat - 87)
  else none

theorem hexValue_hexDigit : ∀ n < 16, hexValue (hexDigit n) = some n := by decide

/-- The characters that an encoder may keep: ASCII without the two that a decoder reads. -/
structure Keeps (kept : Char → Bool) : Prop where
  ascii : ∀ c, kept c = true → c.toNat < 128
  escapes_percent : kept '%' = false
  escapes_plus : kept '+' = false

variable (kept : Char → Bool)

def encodeByte (b : UInt8) : List Char :=
  if kept (Char.ofNat b.toNat) then [Char.ofNat b.toNat]
  else ['%', hexDigit (b.toNat / 16), hexDigit (b.toNat % 16)]

def encode (s : String) : String :=
  String.ofList (s.toUTF8.data.toList.flatMap (encodeByte kept))

/-- A truncated or invalid escape is an error, as is a character outside ASCII. -/
def decodeBytes (plusToSpace : Bool) : List Char → Option (List UInt8)
  | [] => some []
  | c :: rest =>
      if c = '%' then
        match rest with
        | hi :: lo :: rest => do
            let h ← hexValue hi
            let l ← hexValue lo
            (decodeBytes plusToSpace rest).map (UInt8.ofNat (16 * h + l) :: ·)
        | _ => none
      else if c.toNat < 128 then
        let byte := if plusToSpace && c == '+' then 32 else c.toNat
        (decodeBytes plusToSpace rest).map (UInt8.ofNat byte :: ·)
      else none

def decode (plusToSpace : Bool) (s : String) : Option String := do
  let bytes ← decodeBytes plusToSpace s.toList
  String.fromUTF8? ⟨bytes.toArray⟩

def encodePair (pair : String × String) : String :=
  encode kept pair.1 ++ "=" ++ encode kept pair.2

def encodeForm (pairs : List (String × String)) : String :=
  "&".intercalate (pairs.map (encodePair kept))

def decodePair (plusToSpace : Bool) (part : String) : Option (String × String) := do
  let (key, value) ← SplitText.splitFirst '=' part
  let key ← decode plusToSpace key
  let value ← decode plusToSpace value
  pure (key, value)

def decodeForm (plusToSpace : Bool) (form : String) : Option (List (String × String)) :=
  (form.splitOn "&").mapM (decodePair plusToSpace)

section Component

variable {kept} {plusToSpace : Bool}

theorem decodeBytes_escape (b : UInt8) (rest : List Char) :
    decodeBytes plusToSpace ('%' :: hexDigit (b.toNat / 16) :: hexDigit (b.toNat % 16) :: rest) =
      (decodeBytes plusToSpace rest).map (b :: ·) := by
  have hb : b.toNat < 256 := b.toNat_lt
  have hbyte : UInt8.ofNat (16 * (b.toNat / 16) + b.toNat % 16) = b := by
    rw [Nat.div_add_mod]
    exact UInt8.ofNat_toNat
  rw [decodeBytes, if_pos rfl, hexValue_hexDigit _ (by omega), hexValue_hexDigit _ (by omega)]
  simp only [Option.bind_eq_bind, Option.bind_some, hbyte]

theorem decodeBytes_kept (hkept : Keeps kept) {b : UInt8} (h : kept (Char.ofNat b.toNat) = true)
    (rest : List Char) : decodeBytes plusToSpace (Char.ofNat b.toNat :: rest) =
      (decodeBytes plusToSpace rest).map (b :: ·) := by
  have hpercent : Char.ofNat b.toNat ≠ '%' := fun hc => by
    rw [hc, hkept.escapes_percent] at h
    cases h
  have hplus : (Char.ofNat b.toNat == '+') = false := beq_false_of_ne (fun hc => by
    rw [hc, hkept.escapes_plus] at h
    cases h)
  have hb : b.toNat < 256 := b.toNat_lt
  have hvalid : b.toNat.isValidChar := .inl (by omega)
  have hcode : (Char.ofNat b.toNat).toNat = b.toNat := by
    rw [Char.ofNat, dif_pos hvalid]
    rfl
  have hascii : b.toNat < 128 := hcode ▸ hkept.ascii _ h
  rw [decodeBytes.eq_def]
  simp only [if_neg hpercent, hcode, if_pos hascii, hplus, Bool.and_false, Bool.false_eq_true,
    if_false, UInt8.ofNat_toNat]

theorem decodeBytes_encodeByte (hkept : Keeps kept) (b : UInt8) (rest : List Char) :
    decodeBytes plusToSpace (encodeByte kept b ++ rest) =
      (decodeBytes plusToSpace rest).map (b :: ·) := by
  unfold encodeByte
  split_ifs with h
  · exact decodeBytes_kept hkept h rest
  · exact decodeBytes_escape b rest

theorem decodeBytes_flatMap (hkept : Keeps kept) (bytes : List UInt8) :
    decodeBytes plusToSpace (bytes.flatMap (encodeByte kept)) = some bytes := by
  induction bytes with
  | nil => rfl
  | cons b bytes ih =>
      rw [List.flatMap_cons, decodeBytes_encodeByte hkept, ih]
      rfl

theorem decode_encode (hkept : Keeps kept) (s : String) :
    decode plusToSpace (encode kept s) = some s := by
  unfold decode encode
  rw [String.toList_ofList, decodeBytes_flatMap hkept]
  exact dif_pos s.isValidUTF8

/-- An encoded text holds only kept characters and those of escapes. -/
theorem notMem_encode {sep : Char} (hsep : kept sep = false) (hpercent : sep ≠ '%')
    (hhex : hexValue sep = none) (s : String) : sep ∉ (encode kept s).toList := by
  intro hmem
  rw [encode, String.toList_ofList] at hmem
  obtain ⟨b, -, hb⟩ := List.mem_flatMap.mp hmem
  have hlt : b.toNat < 256 := b.toNat_lt
  have hdigit (n : ℕ) (hn : n < 16) : sep ≠ hexDigit n := by
    rintro rfl
    rw [hexValue_hexDigit n hn] at hhex
    cases hhex
  unfold encodeByte at hb
  split_ifs at hb with hkept
  · rw [List.mem_singleton] at hb
    rw [← hb, hsep] at hkept
    cases hkept
  · simp only [List.mem_cons, List.not_mem_nil, or_false] at hb
    obtain hb | hb | hb := hb
    · exact hpercent hb
    · exact hdigit _ (by omega) hb
    · exact hdigit _ (by omega) hb

end Component

section Form

variable {kept} {plusToSpace : Bool}

/-- No kept character is one of a form's own. -/
structure KeepsForm (kept : Char → Bool) : Prop extends Keeps kept where
  escapes_amp : kept '&' = false
  escapes_equals : kept '=' = false

theorem decodePair_encodePair (hkept : KeepsForm kept) (pair : String × String) :
    decodePair plusToSpace (encodePair kept pair) = some pair := by
  have hkey : '=' ∉ (encode kept pair.1).toList :=
    notMem_encode hkept.escapes_equals (by decide) (by decide) _
  unfold decodePair encodePair
  rw [SplitText.splitFirst_append hkey]
  simp only [Option.bind_eq_bind, Option.bind_some, decode_encode hkept.toKeeps]
  rfl

theorem amp_notMem_encodePair (hkept : KeepsForm kept) (pair : String × String) :
    '&' ∉ (encodePair kept pair).toList := by
  have hcomponent (s : String) : '&' ∉ (encode kept s).toList :=
    notMem_encode hkept.escapes_amp (by decide) (by decide) s
  simp [encodePair, hcomponent]

/-- A form that is not empty is read back pair by pair. -/
theorem decodeForm_encodeForm (hkept : KeepsForm kept) {pairs : List (String × String)}
    (hne : pairs ≠ []) : decodeForm plusToSpace (encodeForm kept pairs) = some pairs := by
  have hsplit : (encodeForm kept pairs).splitOn "&" = pairs.map (encodePair kept) :=
    SplitText.splitOn_intercalate (mt List.map_eq_nil_iff.mp hne)
      (List.forall_mem_map.mpr (fun pair _ => amp_notMem_encodePair hkept pair))
  have hread (pairs : List (String × String)) :
      (pairs.map (encodePair kept)).mapM (decodePair plusToSpace) = some pairs := by
    induction pairs with
    | nil => rfl
    | cons pair pairs ih =>
        rw [List.map_cons, List.mapM_cons, decodePair_encodePair hkept, ih]
        rfl
  unfold decodeForm
  rw [hsplit, hread]

end Form

end PercentEncoding
