import AirBnbClone.ChatCubit
import AirBnbClone.StoredForms

/-!
# Numbers in either representation

A whole number may reach a decoder as an integer or as a double. Some decoders go through `num` and
accept both; others put the value into a `double?`, or into a map of integers, where one of the two
is a type error. The same question arises for the features of the geocoding service.
-/

namespace AirBnbClone

open FirestoreMapper

/-- The number a value holds, whatever its representation. -/
def Value.number? : Value → Option ℚ
  | .int n => some n
  | .double q => some q
  | _ => none

/-- The stored form of a field, except that a number may be an integer or a double. A time is a
number of milliseconds that a `DateTime` can hold, or anything that is no integer. -/
def Stored.FitsNumerically : Stored → Value → Prop
  | .double, v | .number, v => v = .null ∨ v.number?.isSome
  | .millis, v | .date, v => ∀ ms, v = .int ms → (DateTime.fromMillisecondsSinceEpoch ms).isSome
  | .counts, v => v = .null ∨ ∃ kns : List (String × Scalar), v = .map kns ∧
      ∀ kn ∈ kns, (Value.scalar kn.2).number?.isSome
  | s, v => s.Fits v

/-- A document that is well typed but for the representation of its numbers. -/
def NumericallyWellTyped (T : Model) (d : Doc) : Prop :=
  ∀ f ∈ storedFields T, f.2.FitsNumerically (d.get f.1)

def doubleFields : (T : Model) → Entity T → List (String × Option ℚ)
  | .user, e => [("earning", User.earning e)]
  | .posting, e => [("price", Posting.price e), ("rating", Posting.rating e),
      ("lat", some (Posting.lat e)), ("lon", some (Posting.lon e))]
  | .booking, e => [("payment_amount", Booking.paymentAmount e)]
  | .review, e => [("rating", some (Review.rating e))]
  | _, _ => []

/-- The document decodes, and every double of the entity is the number that was stored. -/
def DecodesNumbers (z : Zone) (T : Model) (d : Doc) : Prop :=
  ∃ e, fromMap z T d = .ok e ∧
    ∀ f ∈ doubleFields T e, ∀ q, (d.get f.1).number? = some q → f.2 = some q

/-- No count of the map is a double. -/
def WholeCounts (v : Value) : Prop :=
  ∀ kns, v = .map kns → ∀ kn ∈ kns, ∀ q, kn.2 ≠ Scalar.double q

/-- The numbers are in the representation their decoder insists on. -/
def NumbersRepresented : Model → Doc → Prop
  | .user, d => ∀ n, d.get "earning" ≠ .int n
  | .booking, d => ∀ n, d.get "payment_amount" ≠ .int n
  | .posting, d => WholeCounts (d.get "beds") ∧ WholeCounts (d.get "bathrooms")
  | _, _ => True

/-- The keys whose numbers are read with `as num?` and `toDouble()`. -/
def convertedKeys : Model → List String
  | .posting => ["price", "rating", "lat", "lon"]
  | .review => ["rating"]
  | _ => []

def Value.FitsDouble (v : Value) : Prop := ∀ n, v = .int n → DoubleRounding.Representable n

/-- The representations are right, and no conversion rounds. -/
def NumbersFit (T : Model) (d : Doc) : Prop :=
  NumbersRepresented T d ∧ ∀ key ∈ convertedKeys T, (d.get key).FitsDouble

structure Place where
  id : String
  name : Option String
  country : Option String
  city : Option String
  address : Option String
  lat : Option ℚ
  lon : Option ℚ
  deriving DecidableEq

inductive FeatureValue
  | object (properties : Doc)
  | value (v : Value)

namespace Place

/-- A `dynamic` in a `String` position. -/
def castString : Value → Except DartError String
  | .string s => .ok s
  | _ => .error .typeError

/-- `map['properties'] as Map<String, dynamic>`. -/
def castObject : Option FeatureValue → Except DartError Doc
  | some (.object properties) => .ok properties
  | _ => .error .typeError

/-- `properties['other_names'] as Map<String, dynamic>?`. -/
def castNames : Value → Except DartError (List (String × Scalar))
  | .null => .ok []
  | .map kvs => .ok kvs
  | _ => .error .typeError

def firstNonEmptyString : List Value → String
  | [] => "NA"
  | .string s :: values => if (trim s).isEmpty then firstNonEmptyString values else s
  | _ :: values => firstNonEmptyString values

def fromJson (map : DartMap FeatureValue) : Except DartError Place := do
  let properties ← castObject (map.lookup "properties")
  let id ← castString (properties.get "place_id")
  let otherNames ← castNames (properties.get "other_names")
  let name := firstNonEmptyString [properties.get "name",
    .scalar ((otherNames.lookup "name").getD .null),
    .scalar ((otherNames.lookup "alt_name").getD .null)]
  let country ← Cast.string? (properties.get "country")
  let city ← Cast.string? (properties.get "city")
  let address ← Cast.string? (properties.get "formatted")
  let lat ← Cast.double? (properties.get "lat")
  let lon ← Cast.double? (properties.get "lon")
  return { id, name := some name, country, city, address, lat, lon }

/-- The properties of a feature that is well typed but for the representation of its numbers. -/
structure WellTyped (properties : Doc) : Prop where
  id : ∃ s, properties.get "place_id" = .string s
  otherNames : properties.get "other_names" = .null ∨
    ∃ kvs, properties.get "other_names" = .map kvs
  texts : ∀ key ∈ ["country", "city", "formatted"], Stored.text.Fits (properties.get key)
  numbers : ∀ key ∈ ["lat", "lon"], Stored.number.FitsNumerically (properties.get key)

end Place

section Representation

variable {z : Zone} {T : Model} {d : Doc}

/-- The representation that the decoder of a field in this form insists on. -/
def Stored.Represented : Stored → Value → Prop
  | .double, v => ∀ n, v ≠ .int n
  | .counts, v => WholeCounts v
  | _, _ => True

theorem numbersRepresented_iff (T : Model) (d : Doc) :
    NumbersRepresented T d ↔ ∀ f ∈ storedFields T, f.2.Represented (d.get f.1) := by
  cases T <;> simp [NumbersRepresented, storedFields, Stored.Represented]

theorem double?_ok_iff (v : Value) (h : Stored.double.FitsNumerically v) :
    (∃ a, Cast.double? v = .ok a) ↔ Stored.double.Represented v := by
  constructor
  · rintro ⟨a, ha⟩ n rfl
    cases ha
  · intro hrep
    obtain rfl | hsome := h
    · exact ⟨none, rfl⟩
    · unfold Value.number? at hsome
      split at hsome
      · exact absurd rfl (hrep _)
      · exact ⟨_, rfl⟩
      · cases hsome

theorem num?_ok (v : Value) (h : Stored.number.FitsNumerically v) : ∃ a, Cast.num? v = .ok a := by
  obtain rfl | hsome := h
  · exact ⟨none, rfl⟩
  · unfold Value.number? at hsome
    split at hsome
    · exact ⟨_, rfl⟩
    · exact ⟨_, rfl⟩
    · cases hsome

theorem numOrZero_ok (v : Value) (h : Stored.number.FitsNumerically v) :
    ∃ a, Cast.numOrZero v = .ok a := by
  obtain ⟨a, ha⟩ := num?_ok v h
  exact ⟨a.getD 0, by rw [Cast.numOrZero, ha]; rfl⟩

theorem parseDateTime_ok (v : Value) (h : Stored.date.FitsNumerically v) :
    ∃ a, Cast.parseDateTime z v = .ok a := by
  unfold Cast.parseDateTime
  split
  · exact ⟨_, rfl⟩
  · obtain ⟨t, ht⟩ := Option.isSome_iff_exists.mp (h _ rfl)
    rw [ht]
    exact ⟨_, rfl⟩
  · exact ⟨_, rfl⟩
  · exact ⟨_, rfl⟩

theorem intItem_ok_iff {kn : String × Scalar} (h : (Value.scalar kn.2).number?.isSome) :
    (∃ a, Cast.intItem kn = .ok a) ↔ ∀ q, kn.2 ≠ Scalar.double q := by
  obtain ⟨k, v⟩ := kn
  constructor
  · rintro ⟨a, ha⟩ q rfl
    cases ha
  · intro hq
    cases v with
    | int n => exact ⟨_, rfl⟩
    | double q => exact absurd rfl (hq q)
    | _ => cases h

theorem intMap_ok_iff (v : Value) (h : Stored.counts.FitsNumerically v) :
    (∃ a, Cast.intMap v = .ok a) ↔ Stored.counts.Represented v := by
  obtain rfl | ⟨kns, rfl, hkns⟩ := h
  · exact iff_of_true ⟨∅, rfl⟩ nofun
  constructor
  · rintro ⟨a, ha⟩ _ ⟨⟩ kn hkn
    obtain ⟨items, hitems, -⟩ := (ExceptTraverse.map_eq_ok_iff _ _ _).mp ha
    exact (intItem_ok_iff (hkns kn hkn)).mp (ExceptTraverse.ok_of_mapM_ok hitems kn hkn)
  · intro hrep
    obtain ⟨items, hitems⟩ := ExceptTraverse.exists_mapM_ok
      (fun kn hkn => (intItem_ok_iff (hkns kn hkn)).mpr (hrep kns rfl kn hkn))
    exact ⟨items.toFinmap, by rw [Cast.intMap, hitems]; rfl⟩

/-- A field with a number in either representation decodes exactly if its decoder likes it. -/
def DecodesIff (s : Stored) (f : FieldDecoder) : Prop :=
  ∀ v, s.FitsNumerically v → ((∃ p, f.decode v = .ok p) ↔ s.Represented v)

theorem decodesIff_field {β : Type} {s : Stored} {cast : Value → Except DartError β}
    (h : ∀ v, s.FitsNumerically v → ((∃ a, cast v = .ok a) ↔ s.Represented v)) (key : String)
    (pack : β → Property) : DecodesIff s (field key cast pack) := by
  intro v hv
  rw [← h v hv]
  constructor
  · rintro ⟨p, hp⟩
    obtain ⟨a, ha, -⟩ := (ExceptTraverse.map_eq_ok_iff _ _ _).mp hp
    exact ⟨a, ha⟩
  · rintro ⟨a, ha⟩
    refine ⟨pack a, ?_⟩
    change (cast v).map pack = _
    rw [ha]
    rfl

theorem storedFields_decodesIff (z : Zone) (T : Model) :
    List.Forall₂ (fun f s => f.key = s.1 ∧ DecodesIff s.2 f) (fieldDecoders z T)
      (storedFields T) := by
  have always {β : Type} {s : Stored} {cast : Value → Except DartError β}
      (h : ∀ v, s.FitsNumerically v → ∃ a, cast v = .ok a)
      (hrep : ∀ v, s.Represented v) : ∀ key pack, DecodesIff s (field key cast pack) :=
    decodesIff_field (fun v hv => iff_of_true (h v hv) (hrep v))
  have hid := always (s := .text) idString_of_fits (fun _ => trivial)
  have htext := always (s := .text) string?_of_fits (fun _ => trivial)
  have hdate := always (s := .date) (parseDateTime_ok (z := z)) (fun _ => trivial)
  have hmillis := always (s := .millis) (parseDateTime_ok (z := z)) (fun _ => trivial)
  have hdouble := decodesIff_field double?_ok_iff
  have hnum := always num?_ok (fun _ => trivial)
  have hnumOrZero := always numOrZero_ok (fun _ => trivial)
  have hbool := always (s := .flag) bool?_of_fits (fun _ => trivial)
  have hboolOrFalse := always (s := .flag) boolOrFalse_of_fits (fun _ => trivial)
  have hlink := always (s := .nothing) link_of_fits (fun _ => trivial)
  have hstrings := always (s := .texts) strings_of_fits (fun _ => trivial)
  have hstringSet := always (s := .texts) stringSet_of_fits (fun _ => trivial)
  have hintMap := decodesIff_field intMap_ok_iff
  cases T <;>
    simp only [fieldDecoders, storedFields, List.forall₂_cons, field_key, hid, htext, hdate,
      hmillis, hdouble, hnum, hnumOrZero, hbool, hboolOrFalse, hlink, hstrings, hstringSet, hintMap,
      and_self, List.Forall₂.nil]

theorem decode_ok_iff {fs : List FieldDecoder} {ss : List (String × Stored)}
    (h : List.Forall₂ (fun f s => f.key = s.1 ∧ DecodesIff s.2 f) fs ss)
    (hd : ∀ s ∈ ss, s.2.FitsNumerically (d.get s.1)) :
    (∀ f ∈ fs, ∃ p, f.decode (d.get f.key) = .ok p) ↔ ∀ s ∈ ss, s.2.Represented (d.get s.1) := by
  induction h with
  | nil => exact iff_of_true (List.forall_mem_nil _) (List.forall_mem_nil _)
  | cons hfs _ ih =>
      rw [List.forall_mem_cons] at hd
      rw [List.forall_mem_cons, List.forall_mem_cons, ih hd.2, hfs.1, hfs.2 _ hd.1]

theorem fromMap_ok_iff (h : NumericallyWellTyped T d) :
    (∃ e, fromMap z T d = .ok e) ↔ NumbersRepresented T d := by
  rw [numbersRepresented_iff, ← decode_ok_iff (storedFields_decodesIff z T) h]
  exact ⟨fun ⟨e, he⟩ => decode_ok_of_fromMap_ok he, exists_fromMap_ok⟩

theorem double?_eq_number {v : Value} {a : Option ℚ} (h : Cast.double? v = .ok a) (q : ℚ)
    (hq : v.number? = some q) : a = some q := by
  unfold Value.number? at hq
  split at hq
  · cases h
  · cases h
    exact hq
  · cases hq

/-- The conversion keeps the stored number unless it rounds. -/
theorem num?_eq_number_iff {v : Value} {a : Option ℚ} (h : Cast.num? v = .ok a) :
    (∀ q, v.number? = some q → a = some q) ↔ v.FitsDouble := by
  constructor
  · rintro hkept n rfl
    cases h
    have hsame := Option.some.inj (hkept n rfl)
    exact DoubleRounding.toDouble_eq_iff.mp (by exact_mod_cast hsame)
  · intro hfits q hq
    unfold Value.number? at hq
    split at hq
    · rename_i n
      cases h
      rw [DoubleRounding.toDouble_eq_iff.mpr (hfits n rfl)]
      exact hq
    · cases h
      exact hq
    · cases hq

theorem numOrZero_eq_number_iff {v : Value} {a : ℚ} (h : Cast.numOrZero v = .ok a) :
    (∀ q, v.number? = some q → some a = some q) ↔ v.FitsDouble := by
  obtain ⟨b, hb, rfl⟩ := (ExceptTraverse.map_eq_ok_iff _ _ _).mp h
  rw [← num?_eq_number_iff hb]
  refine forall₂_congr fun q hq => ?_
  cases b with
  | none =>
      unfold Value.number? at hq
      split at hq
      · cases hb
      · cases hb
      · cases hq
  | some r => rfl

/-- What the decoder reads at a position is what the entity has there. -/
theorem cast_of_fromMap_ok {e : Entity T} (h : fromMap z T d = .ok e) (i : ℕ) {β : Type}
    {key : String} {cast : Value → Except DartError β} {pack : β → Property} {a : β}
    (hpack : Function.Injective pack)
    (hfield : (fieldDecoders z T)[i]? = some (field key cast pack))
    (ha : (properties T e)[i]? = some (pack a)) : cast (d.get key) = .ok a := by
  have hread := getElem?_of_fromMap_ok h i
  rw [List.getElem?_map, List.getElem?_map, hfield, ha] at hread
  obtain ⟨b, hb, hba⟩ := (ExceptTraverse.map_eq_ok_iff _ _ _).mp (Option.some.inj hread)
  exact hb.trans (congrArg Except.ok (hpack hba))

/-- Every double of the entity is the stored number exactly if no conversion rounds. -/
theorem doubles_of_fromMap_ok_iff {e : Entity T} (h : fromMap z T d = .ok e) :
    (∀ f ∈ doubleFields T e, ∀ q, (d.get f.1).number? = some q → f.2 = some q) ↔
      ∀ key ∈ convertedKeys T, (d.get key).FitsDouble := by
  have hnumber? : Function.Injective Property.number? := fun _ _ => Property.number?.inj
  have hnumber : Function.Injective Property.number := fun _ _ => Property.number.inj
  cases T with
  | user =>
      obtain ⟨⟩ := e
      simp only [doubleFields, List.forall_mem_singleton]
      exact iff_of_true (double?_eq_number (cast_of_fromMap_ok h 11 hnumber? rfl rfl))
        (List.forall_mem_nil _)
  | posting =>
      obtain ⟨⟩ := e
      have hprice := num?_eq_number_iff (cast_of_fromMap_ok h 3 hnumber? rfl rfl)
      have hrating := num?_eq_number_iff (cast_of_fromMap_ok h 8 hnumber? rfl rfl)
      have hlat := numOrZero_eq_number_iff (cast_of_fromMap_ok h 15 hnumber rfl rfl)
      have hlon := numOrZero_eq_number_iff (cast_of_fromMap_ok h 16 hnumber rfl rfl)
      simp only [doubleFields, convertedKeys, List.forall_mem_cons]
      rw [← hprice, ← hrating, ← hlat, ← hlon]
      exact and_congr_right fun _ => and_congr_right fun _ => and_congr_right fun _ =>
        and_congr_right fun _ => iff_of_true (List.forall_mem_nil _) (List.forall_mem_nil _)
  | booking =>
      obtain ⟨⟩ := e
      simp only [doubleFields, List.forall_mem_singleton]
      exact iff_of_true (double?_eq_number (cast_of_fromMap_ok h 7 hnumber? rfl rfl))
        (List.forall_mem_nil _)
  | review =>
      obtain ⟨⟩ := e
      simp only [doubleFields, convertedKeys, List.forall_mem_singleton]
      exact numOrZero_eq_number_iff (cast_of_fromMap_ok h 1 hnumber rfl rfl)
  | favouritePosting => exact iff_of_true (List.forall_mem_nil _) (List.forall_mem_nil _)
  | message => exact iff_of_true (List.forall_mem_nil _) (List.forall_mem_nil _)
  | conversation => exact iff_of_true (List.forall_mem_nil _) (List.forall_mem_nil _)

end Representation

namespace Place

variable {map : DartMap FeatureValue} {properties : Doc}

/-- The feature is read, with the stored coordinates. -/
def ReadsNumbers (map : DartMap FeatureValue) (properties : Doc) : Prop :=
  ∃ place, fromJson map = .ok place ∧
    (∀ q, (properties.get "lat").number? = some q → place.lat = some q) ∧
      ∀ q, (properties.get "lon").number? = some q → place.lon = some q

theorem readsNumbers_iff (hmap : map.lookup "properties" = some (.object properties))
    (h : WellTyped properties) : ReadsNumbers map properties ↔
      (∀ n, properties.get "lat" ≠ .int n) ∧ ∀ n, properties.get "lon" ≠ .int n := by
  obtain ⟨id, hid⟩ : ∃ s, castString (properties.get "place_id") = .ok s := by
    obtain ⟨s, hs⟩ := h.id
    exact ⟨s, by rw [hs]; rfl⟩
  obtain ⟨otherNames, hnames⟩ : ∃ kvs, castNames (properties.get "other_names") = .ok kvs := by
    obtain hnull | ⟨kvs, hkvs⟩ := h.otherNames
    · exact ⟨[], by rw [hnull]; rfl⟩
    · exact ⟨kvs, by rw [hkvs]; rfl⟩
  obtain ⟨country, hcountry⟩ := string?_of_fits _ (h.texts "country" (by decide))
  obtain ⟨city, hcity⟩ := string?_of_fits _ (h.texts "city" (by decide))
  obtain ⟨address, haddress⟩ := string?_of_fits _ (h.texts "formatted" (by decide))
  have hlat := double?_ok_iff _ (h.numbers "lat" (by decide))
  have hlon := double?_ok_iff _ (h.numbers "lon" (by decide))
  -- the coordinates are read last, and nothing before them can fail
  have hread : fromJson map = (do
      let lat ← Cast.double? (properties.get "lat")
      let lon ← Cast.double? (properties.get "lon")
      return ⟨id, some (firstNonEmptyString [properties.get "name",
          .scalar ((otherNames.lookup "name").getD .null),
          .scalar ((otherNames.lookup "alt_name").getD .null)]),
        country, city, address, lat, lon⟩) := by
    simp only [fromJson, hmap, castObject, hid, hnames, hcountry, hcity, haddress, bind,
      Except.bind]
  unfold ReadsNumbers
  rw [hread]
  constructor
  · rintro ⟨place, hplace, -⟩
    cases ha : Cast.double? (properties.get "lat") with
    | error e =>
        rw [ha] at hplace
        cases hplace
    | ok lat =>
        cases hb : Cast.double? (properties.get "lon") with
        | error e =>
            rw [ha, hb] at hplace
            cases hplace
        | ok lon => exact ⟨hlat.mp ⟨lat, ha⟩, hlon.mp ⟨lon, hb⟩⟩
  · rintro ⟨hlatFits, hlonFits⟩
    obtain ⟨lat, ha⟩ := hlat.mpr hlatFits
    obtain ⟨lon, hb⟩ := hlon.mpr hlonFits
    rw [ha, hb]
    exact ⟨_, rfl, double?_eq_number ha, double?_eq_number hb⟩

end Place

/-- The decoders accept a number in either representation, except that an earning, a payment amount
and a coordinate of a feature must not be integers, and a count of beds or bathrooms must not be a
double. The numbers of postings and reviews that are converted must be integers that doubles can be,
or doubles already. -/
theorem decodesNumbers_iff_fit (z : Zone) :
    (∀ (T : Model) (d : Doc), NumericallyWellTyped T d →
      (DecodesNumbers z T d ↔ NumbersFit T d)) ∧
    ∀ (map : DartMap FeatureValue) (properties : Doc),
      map.lookup "properties" = some (.object properties) → Place.WellTyped properties →
        (Place.ReadsNumbers map properties ↔
          (∀ n, properties.get "lat" ≠ .int n) ∧ ∀ n, properties.get "lon" ≠ .int n) := by
  constructor
  · intro T d h
    constructor
    · rintro ⟨e, he, hdoubles⟩
      exact ⟨(fromMap_ok_iff h).mp ⟨e, he⟩, (doubles_of_fromMap_ok_iff he).mp hdoubles⟩
    · rintro ⟨hrepresented, hfits⟩
      obtain ⟨e, he⟩ := (fromMap_ok_iff h).mpr hrepresented
      exact ⟨e, he, (doubles_of_fromMap_ok_iff he).mpr hfits⟩
  · intro map properties hmap h
    exact Place.readsNumbers_iff hmap h

/-- A review rated with a whole number, and a feature on the equator. -/
theorem decodesNumbers_iff_fit_wholeRating :
    DecodesNumbers Zone.utc .review (DartMap.ofList [("rating", .int 4)]) ∧
    Place.ReadsNumbers (AList.singleton "properties" (.object
        (DartMap.ofList [("place_id", .string "x"), ("lat", .double 0), ("lon", .double 9)])))
      (DartMap.ofList [("place_id", .string "x"), ("lat", .double 0), ("lon", .double 9)]) := by
  obtain ⟨hdocuments, hfeatures⟩ := decodesNumbers_iff_fit Zone.utc
  constructor
  · have hget (k : String) : Doc.get (DartMap.ofList [("rating", .int 4)]) k =
        if k = "rating" then .int 4 else .null := by
      simp only [DartMap.ofList, List.foldl_cons, List.foldl_nil, Doc.get_insert]
      rfl
    refine (hdocuments .review _ ?_).mpr ⟨trivial, ?_⟩
    · simp [NumericallyWellTyped, storedFields, hget, Stored.FitsNumerically, Stored.Fits,
        Value.number?]
    · rw [convertedKeys, List.forall_mem_singleton, hget, if_pos rfl]
      rintro n ⟨⟩
      exact DoubleRounding.representable_of_le (by decide)
  · refine (hfeatures _ _ rfl ⟨⟨"x", rfl⟩, .inl rfl, ?_, ?_⟩).mpr ⟨?_, ?_⟩
    · intro key hkey
      simp only [List.mem_cons, List.not_mem_nil, or_false] at hkey
      rcases hkey with rfl | rfl | rfl <;> exact .inl rfl
    · intro key hkey
      simp only [List.mem_cons, List.not_mem_nil, or_false] at hkey
      rcases hkey with rfl | rfl <;> exact .inr rfl
    · intro n
      change Value.double 0 ≠ Value.int n
      simp [Value.double, Value.int]
    · intro n
      change Value.double 9 ≠ Value.int n
      simp [Value.double, Value.int]

def wholeEarning : Doc := DartMap.ofList [("id", .string "u1"), ("earning", .int 125)]

theorem numericallyWellTyped_wholeEarning : NumericallyWellTyped .user wholeEarning := by
  have hget (k : String) : wholeEarning.get k =
      if k = "earning" then .int 125 else if k = "id" then .string "u1" else .null := by
    simp only [wholeEarning, DartMap.ofList, List.foldl_cons, List.foldl_nil, Doc.get_insert]
    rfl
  simp [NumericallyWellTyped, storedFields, hget, Stored.FitsNumerically, Stored.Fits,
    Value.number?]

/-- Nothing is decoded from it. -/
theorem wholeEarning_is_refused : NumericallyWellTyped .user wholeEarning ∧
    ¬ DecodesNumbers Zone.utc .user wholeEarning := by
  refine ⟨numericallyWellTyped_wholeEarning, ?_⟩
  rintro ⟨e, he, -⟩
  have hrefused : fromMap Zone.utc .user wholeEarning = .error .typeError := by decide
  rw [hrefused] at he
  cases he

end AirBnbClone
