import AirBnbClone.FirestoreMapper

/-!
# The documents the app writes

The write paths store each field in one form, or leave it out; a field stored in that form decodes.
-/

namespace AirBnbClone

open FirestoreMapper

/-- The form in which the app's write paths store a field; any field may be missing. -/
inductive Stored
  | text
  | millis
  | date
  | double
  | number
  | flag
  | texts
  | counts
  | nothing
  deriving DecidableEq

def Stored.Fits : Stored → Value → Prop
  | .text, v => v = .null ∨ ∃ s, v = .string s
  | .millis, v => v = .null ∨ ∃ ms, v = .int ms ∧ (DateTime.fromMillisecondsSinceEpoch ms).isSome
  | .date, v => v = .null ∨ (∃ s, v = .string s) ∨
      ∃ ms, v = .int ms ∧ (DateTime.fromMillisecondsSinceEpoch ms).isSome
  | .double, v => v = .null ∨ ∃ q, v = .double q
  | .number, v => v = .null ∨ (∃ n, v = .int n) ∨ ∃ q, v = .double q
  | .flag, v => v = .null ∨ ∃ b, v = .bool b
  | .texts, v => v = .null ∨ ∃ l : List String, v = .list (l.map .string)
  | .counts, v => v = .null ∨ ∃ l : List (String × ℤ),
      v = .map (l.map (fun kn => (kn.1, .int kn.2)))
  | .nothing, v => v = .null

/-- How each key that the decoder of `T` reads is stored. -/
def storedFields : Model → List (String × Stored)
  | .user => [("id", .text), ("email", .text), ("bio", .text), ("city", .text), ("country", .text),
      ("first_name", .text), ("last_name", .text), ("full_name", .text), ("image_url", .text),
      ("is_host", .flag), ("is_currently_hosting", .flag), ("earning", .double)]
  | .posting => [("id", .text), ("name", .text), ("type", .text), ("price", .number),
      ("description", .text), ("address", .text), ("city", .text), ("country", .text),
      ("rating", .number), ("host_id", .text), ("host", .nothing), ("images", .texts),
      ("amenities", .texts), ("beds", .counts), ("bathrooms", .counts), ("lat", .number),
      ("lon", .number)]
  | .booking => [("id", .text), ("posting_id", .text), ("posting", .nothing), ("user_id", .text),
      ("user", .nothing), ("check_in", .millis), ("check_out", .millis),
      ("payment_amount", .double)]
  | .favouritePosting => [("id", .text), ("posting_id", .text), ("posting", .nothing),
      ("user_id", .text), ("user", .nothing), ("created_at", .date)]
  | .message => [("id", .text), ("sender_id", .text), ("conversation_id", .text), ("text", .text),
      ("created_at", .date), ("sender", .nothing)]
  | .review => [("id", .text), ("rating", .number), ("comment", .text), ("user_id", .text),
      ("user", .nothing), ("target_type", .text), ("target_id", .text), ("created_at", .date)]
  | .conversation => [("id", .text), ("members", .texts), ("avatar", .text), ("name", .text),
      ("last_message", .text), ("last_message_at", .date), ("created_at", .date)]

/-- A document as the app's write paths produce it. -/
def Written (T : Model) (d : Doc) : Prop := ∀ f ∈ storedFields T, f.2.Fits (d.get f.1)

section Decoding

variable {z : Zone} {T : Model} {d : Doc}

/-- A field in stored form decodes. -/
def Decodes (s : Stored) (f : FieldDecoder) : Prop := ∀ v, s.Fits v → ∃ p, f.decode v = .ok p

theorem field_key {β : Type} (key : String) (cast : Value → Except DartError β)
    (pack : β → Property) : (field key cast pack).key = key := rfl

theorem decodes_field {β : Type} {s : Stored} {cast : Value → Except DartError β}
    (h : ∀ v, s.Fits v → ∃ a, cast v = .ok a) (key : String) (pack : β → Property) :
    Decodes s (field key cast pack) := by
  intro v hv
  obtain ⟨a, ha⟩ := h v hv
  refine ⟨pack a, ?_⟩
  change (cast v).map pack = _
  rw [ha]
  rfl

theorem idString_of_fits (v : Value) (h : Stored.text.Fits v) : ∃ a, Cast.idString v = .ok a := by
  obtain rfl | ⟨s, rfl⟩ := h
  · exact ⟨"", rfl⟩
  · exact ⟨s, rfl⟩

theorem string?_of_fits (v : Value) (h : Stored.text.Fits v) : ∃ a, Cast.string? v = .ok a := by
  obtain rfl | ⟨s, rfl⟩ := h
  · exact ⟨none, rfl⟩
  · exact ⟨some s, rfl⟩

theorem parseDateTime_of_fits (v : Value) (h : Stored.date.Fits v) :
    ∃ a, Cast.parseDateTime z v = .ok a := by
  obtain rfl | ⟨s, rfl⟩ | ⟨ms, rfl, hms⟩ := h
  · exact ⟨none, rfl⟩
  · exact ⟨_, rfl⟩
  · obtain ⟨t, ht⟩ := Option.isSome_iff_exists.mp hms
    refine ⟨some t.microsecondsSinceEpoch, ?_⟩
    simp only [Cast.parseDateTime, ht]

theorem date_of_millis {v : Value} (h : Stored.millis.Fits v) : Stored.date.Fits v := h.imp id .inr

theorem double?_of_fits (v : Value) (h : Stored.double.Fits v) : ∃ a, Cast.double? v = .ok a := by
  obtain rfl | ⟨q, rfl⟩ := h
  · exact ⟨none, rfl⟩
  · exact ⟨some q, rfl⟩

theorem num?_of_fits (v : Value) (h : Stored.number.Fits v) : ∃ a, Cast.num? v = .ok a := by
  obtain rfl | ⟨n, rfl⟩ | ⟨q, rfl⟩ := h
  · exact ⟨none, rfl⟩
  · exact ⟨_, rfl⟩
  · exact ⟨some q, rfl⟩

theorem numOrZero_of_fits (v : Value) (h : Stored.number.Fits v) :
    ∃ a, Cast.numOrZero v = .ok a := by
  obtain ⟨a, ha⟩ := num?_of_fits v h
  exact ⟨a.getD 0, by rw [Cast.numOrZero, ha]; rfl⟩

theorem bool?_of_fits (v : Value) (h : Stored.flag.Fits v) : ∃ a, Cast.bool? v = .ok a := by
  obtain rfl | ⟨b, rfl⟩ := h
  · exact ⟨none, rfl⟩
  · exact ⟨some b, rfl⟩

theorem boolOrFalse_of_fits (v : Value) (h : Stored.flag.Fits v) :
    ∃ a, Cast.boolOrFalse v = .ok a := by
  obtain rfl | ⟨b, rfl⟩ := h
  · exact ⟨false, rfl⟩
  · exact ⟨b, rfl⟩

theorem link_of_fits (v : Value) (h : Stored.nothing.Fits v) : ∃ a, Cast.link v = .ok a := by
  cases h
  exact ⟨(), rfl⟩

theorem strings_of_fits (v : Value) (h : Stored.texts.Fits v) : ∃ a, Cast.strings v = .ok a := by
  obtain rfl | ⟨l, rfl⟩ := h
  · exact ⟨[], rfl⟩
  · refine ExceptTraverse.exists_mapM_ok fun s hs => ?_
    obtain ⟨a, -, rfl⟩ := List.mem_map.mp hs
    exact ⟨a, rfl⟩

theorem stringSet_of_fits (v : Value) (h : Stored.texts.Fits v) :
    ∃ a, Cast.stringSet v = .ok a := by
  obtain ⟨a, ha⟩ := strings_of_fits v h
  exact ⟨a.toFinset, by rw [Cast.stringSet, ha]; rfl⟩

theorem intMap_of_fits (v : Value) (h : Stored.counts.Fits v) : ∃ a, Cast.intMap v = .ok a := by
  obtain rfl | ⟨l, rfl⟩ := h
  · exact ⟨∅, rfl⟩
  · have hitems : ∀ kn ∈ l.map (fun kn => (kn.1, Scalar.int kn.2)), ∃ a,
        Cast.intItem kn = .ok a := by
      intro kn hkn
      obtain ⟨a, -, rfl⟩ := List.mem_map.mp hkn
      exact ⟨_, rfl⟩
    obtain ⟨r, hr⟩ := ExceptTraverse.exists_mapM_ok hitems
    exact ⟨r.toFinmap, by rw [Cast.intMap, hr]; rfl⟩

theorem storedFields_decode (z : Zone) (T : Model) :
    List.Forall₂ (fun f s => f.key = s.1 ∧ Decodes s.2 f) (fieldDecoders z T) (storedFields T) := by
  have hid := decodes_field idString_of_fits
  have htext := decodes_field string?_of_fits
  have hdate := decodes_field (parseDateTime_of_fits (z := z))
  have hmillis := decodes_field (fun v hv => parseDateTime_of_fits (z := z) v (date_of_millis hv))
  have hdouble := decodes_field double?_of_fits
  have hnum := decodes_field num?_of_fits
  have hnumOrZero := decodes_field numOrZero_of_fits
  have hbool := decodes_field bool?_of_fits
  have hboolOrFalse := decodes_field boolOrFalse_of_fits
  have hlink := decodes_field link_of_fits
  have hstrings := decodes_field strings_of_fits
  have hstringSet := decodes_field stringSet_of_fits
  have hintMap := decodes_field intMap_of_fits
  cases T <;>
    simp only [fieldDecoders, storedFields, List.forall₂_cons, field_key, hid, htext, hdate,
      hmillis, hdouble, hnum, hnumOrZero, hbool, hboolOrFalse, hlink, hstrings, hstringSet, hintMap,
      and_self, List.Forall₂.nil]

theorem decode_ok_of_fits {fs : List FieldDecoder} {ss : List (String × Stored)}
    (h : List.Forall₂ (fun f s => f.key = s.1 ∧ Decodes s.2 f) fs ss)
    (hd : ∀ s ∈ ss, s.2.Fits (d.get s.1)) : ∀ f ∈ fs, ∃ p, f.decode (d.get f.key) = .ok p := by
  induction h with
  | nil => exact List.forall_mem_nil _
  | cons hfs _ ih =>
      rw [List.forall_mem_cons] at hd ⊢
      refine ⟨hfs.2 _ ?_, ih hd.2⟩
      rw [hfs.1]
      exact hd.1

/-- What the app writes, it can decode. -/
theorem exists_fromMap_of_written (z : Zone) (h : Written T d) : ∃ e, fromMap z T d = .ok e :=
  exists_fromMap_ok (decode_ok_of_fits (storedFields_decode z T) h)

end Decoding

end AirBnbClone
