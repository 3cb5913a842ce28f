import Mathlib.Data.String.Basic

/-!
# Splitting a text at a character

`String.splitOn` walks over byte positions. At a separator of one character it does what
`List.splitOn` does to the characters, so that a joined text is split into its parts.
-/

namespace SplitText

open String

section Separator

variable (sep : Char)

theorem get_separator : Pos.Raw.get (ofList [sep]) 0 = sep :=
  get_of_valid [] [sep]

theorem next_separator : Pos.Raw.next (ofList [sep]) 0 = ⟨sep.utf8Size⟩ := by
  have hnext := next_of_valid [] sep []
  rwa [utf8Len_nil, Nat.zero_add] at hnext

theorem atEnd_separator : Pos.Raw.atEnd (ofList [sep]) ⟨sep.utf8Size⟩ = true := by
  rw [atEnd_iff, rawEndPos_ofList, utf8Len_cons, utf8Len_nil, Nat.zero_add]
  exact Nat.le_refl _

end Separator

/-- The text is `l ++ m ++ r`: split up to the end of `l`, and read up to the end of `m`. -/
theorem splitOnAux_of_valid (sep : Char) (l m r : List Char) (parts : List String) :
    splitOnAux (ofList (l ++ m ++ r)) (ofList [sep]) ⟨utf8Len l⟩ ⟨utf8Len l + utf8Len m⟩ 0 parts =
      parts.reverse ++ (List.splitOnPPrepend (· == sep) r m.reverse).map ofList := by
  induction r generalizing l m parts with
  | nil =>
      have hend : Pos.Raw.atEnd (ofList (l ++ m ++ [])) ⟨utf8Len l + utf8Len m⟩ = true := by
        rw [atEnd_iff, rawEndPos_ofList, utf8Len_append, utf8Len_append]
        exact Nat.le_refl _
      rw [splitOnAux, if_pos hend, extract_of_valid l m []]
      simp
  | cons c r ih =>
      have hnotEnd :
          ¬ Pos.Raw.atEnd (ofList (l ++ m ++ c :: r)) ⟨utf8Len l + utf8Len m⟩ = true := by
        have hpos := c.utf8Size_pos
        rw [atEnd_iff, rawEndPos_ofList, utf8Len_append, utf8Len_append, utf8Len_cons,
          Pos.Raw.mk_le_mk]
        omega
      have hget : Pos.Raw.get (ofList (l ++ m ++ c :: r)) ⟨utf8Len (l ++ m)⟩ = c :=
        get_of_valid (l ++ m) (c :: r)
      have hnext := next_of_valid (l ++ m) c r
      rw [utf8Len_append] at hget hnext
      have hsame : (⟨utf8Len l + utf8Len m⟩ : Pos.Raw).unoffsetBy 0 = ⟨utf8Len l + utf8Len m⟩ := rfl
      rw [splitOnAux, if_neg hnotEnd, hget, get_separator, hsame, hnext, next_separator]
      by_cases hc : c = sep
      · -- the part `m` ends here, and the next one begins behind the separator
        subst hc
        have hback : (⟨utf8Len l + utf8Len m + c.utf8Size⟩ : Pos.Raw).unoffsetBy ⟨c.utf8Size⟩ =
            ⟨utf8Len l + utf8Len m⟩ :=
          congrArg Pos.Raw.mk (Nat.add_sub_cancel _ _)
        have hrest := ih (l ++ m ++ [c]) [] (ofList m :: parts)
        simp only [utf8Len_append, utf8Len_cons, utf8Len_nil, Nat.zero_add, Nat.add_zero,
          List.append_nil, List.append_assoc, List.singleton_append, ← Nat.add_assoc] at hrest
        rw [if_pos (beq_self_eq_true _)]
        simp only [atEnd_separator, if_true, hback, extract_of_valid]
        rw [List.append_assoc, hrest]
        simp [List.splitOnPPrepend_cons_eq_if]
      · have hrest := ih l (m ++ [c]) parts
        simp only [utf8Len_append, utf8Len_cons, utf8Len_nil, Nat.zero_add, List.append_assoc,
          List.singleton_append, ← Nat.add_assoc] at hrest
        rw [if_neg (by simpa using hc), List.append_assoc, hrest]
        simp [List.splitOnPPrepend_cons_eq_if, hc]

theorem splitOn_ofList (sep : Char) (text : String) :
    text.splitOn (ofList [sep]) = (text.toList.splitOn sep).map ofList := by
  have hne : (ofList [sep] == "") = false := by
    rw [beq_eq_false_iff_ne, ne_eq, ← toList_inj]
    simp
  have hvalid := splitOnAux_of_valid sep [] [] text.toList []
  simp only [List.nil_append, ofList_toList, utf8Len_nil] at hvalid
  rw [String.splitOn, hne]
  exact hvalid

/-- Parts without the separator are read back from the text they are joined to. -/
theorem splitOn_intercalate {sep : Char} {parts : List String} (hne : parts ≠ [])
    (h : ∀ part ∈ parts, sep ∉ part.toList) :
    ((ofList [sep]).intercalate parts).splitOn (ofList [sep]) = parts := by
  have hparts : ∀ part ∈ parts.map toList, sep ∉ part := List.forall_mem_map.mpr h
  have hmap : parts.map toList ≠ [] := mt List.map_eq_nil_iff.mp hne
  rw [splitOn_ofList, toList_intercalate, toList_ofList, List.splitOn_intercalate sep hparts hmap,
    List.map_map]
  exact (List.map_congr_left fun part _ => ofList_toList).trans (List.map_id parts)

/-- A character of a joined text is one of the separator or of a part. -/
theorem mem_of_mem_intercalate {sep : String} {parts : List String} {c : Char}
    (h : c ∈ (sep.intercalate parts).toList) :
    c ∈ sep.toList ∨ ∃ part ∈ parts, c ∈ part.toList := by
  induction parts with
  | nil => simp at h
  | cons a parts ih =>
      cases parts with
      | nil =>
          rw [intercalate_singleton] at h
          exact .inr ⟨a, List.mem_cons_self, h⟩
      | cons b parts =>
          rw [intercalate_cons_cons, toList_append, toList_append, List.mem_append,
            List.mem_append] at h
          obtain (ha | hsep) | hrest := h
          · exact .inr ⟨a, List.mem_cons_self, ha⟩
          · exact .inl hsep
          · obtain hsep | ⟨part, hpart, hc⟩ := ih hrest
            · exact .inl hsep
            · exact .inr ⟨part, List.mem_cons_of_mem _ hpart, hc⟩

/-- The text before the first `sep` and the text behind it. -/
def splitFirst (sep : Char) (text : String) : Option (String × String) :=
  match text.toList.dropWhile (· != sep) with
  | [] => none
  | _ :: rest => some (ofList (text.toList.takeWhile (· != sep)), ofList rest)

theorem splitFirst_append {sep : Char} {a b : String} (h : sep ∉ a.toList) :
    splitFirst sep (a ++ ofList [sep] ++ b) = some (a, b) := by
  have hbefore : ∀ c ∈ a.toList, (c != sep) = true := fun c hc =>
    bne_iff_ne.mpr (fun heq => h (heq ▸ hc))
  have htext : (a ++ ofList [sep] ++ b).toList = a.toList ++ sep :: b.toList := by
    simp [toList_append]
  unfold splitFirst
  rw [htext, List.dropWhile_append_of_pos hbefore, List.takeWhile_append_of_pos hbefore]
  simp

end SplitText
