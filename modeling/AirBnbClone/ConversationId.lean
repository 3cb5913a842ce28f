import Mathlib.Data.Sym.Sym2
import AirBnbClone.BookPostingCubit

/-!
# `_conversationId`

The id of a conversation is made of the ids of its two members, the smaller first. Strings are
compared by their UTF-16 code units, which determine them, so that the id does not depend on the
order of the members; where no member's id contains the dash, it determines them.
-/

namespace AirBnbClone

namespace BookPostingCubit

section CodeUnits

/-- A character outside the first plane is encoded by two surrogates. -/
def charUnits (c : Char) : List ℕ :=
  if c.toNat < 0x10000 then [c.toNat]
  else [0xD800 + (c.toNat - 0x10000) / 0x400, 0xDC00 + (c.toNat - 0x10000) % 0x400]

theorem toNat_not_surrogate (c : Char) : c.toNat < 0xD800 ∨ 0xDFFF < c.toNat := by
  have h := c.valid
  rw [UInt32.isValidChar, Nat.isValidChar] at h
  rw [Char.toNat]
  omega

theorem toNat_lt (c : Char) : c.toNat < 0x110000 := by
  have h := c.valid
  rw [UInt32.isValidChar, Nat.isValidChar] at h
  rw [Char.toNat]
  omega

/-- The units of a character end where those of the next one begin. -/
theorem charUnits_append_inj {c d : Char} {us vs : List ℕ}
    (h : charUnits c ++ us = charUnits d ++ vs) : c = d ∧ us = vs := by
  have hc := toNat_not_surrogate c
  have hd := toNat_not_surrogate d
  have hclt := toNat_lt c
  have hdlt := toNat_lt d
  unfold charUnits at h
  split_ifs at h with h₁ h₂ h₂
  · simp only [List.cons_append, List.nil_append, List.cons.injEq] at h
    exact ⟨Char.toNat_inj.mp h.1, h.2⟩
  · simp only [List.cons_append, List.nil_append, List.cons.injEq] at h
    omega
  · simp only [List.cons_append, List.nil_append, List.cons.injEq] at h
    omega
  · simp only [List.cons_append, List.nil_append, List.cons.injEq] at h
    refine ⟨Char.toNat_inj.mp ?_, h.2.2⟩
    omega

theorem codeUnits_injective : Function.Injective codeUnits := by
  intro s t h
  change s.toList.flatMap charUnits = t.toList.flatMap charUnits at h
  apply String.toList_inj.mp
  generalize s.toList = cs at h
  generalize t.toList = ds at h
  have hne (c : Char) (us : List ℕ) : charUnits c ++ us ≠ [] := by
    unfold charUnits
    split_ifs <;> exact List.cons_ne_nil _ _
  induction cs generalizing ds with
  | nil =>
      cases ds with
      | nil => rfl
      | cons d ds => exact absurd h.symm (hne d _)
  | cons c cs ih =>
      cases ds with
      | nil => exact absurd h (hne c _)
      | cons d ds =>
          rw [List.flatMap_cons, List.flatMap_cons] at h
          obtain ⟨rfl, hrest⟩ := charUnits_append_inj h
          rw [ih ds hrest]

end CodeUnits

/-- Swapping the members gives the same id. -/
theorem conversationId_swap (a b : String) : conversationId a b = conversationId b a := by
  unfold conversationId
  obtain hlt | heq | hgt := lt_trichotomy (codeUnits a) (codeUnits b)
  · rw [if_pos hlt, if_neg hlt.asymm]
  · rw [codeUnits_injective heq]
  · rw [if_neg hgt.asymm, if_pos hgt]

/-- Firebase's ids are alphanumeric. -/
def NoDash (id : String) : Prop := '-' ∉ id.toList

instance (id : String) : Decidable (NoDash id) := inferInstanceAs (Decidable (_ ∉ _))

theorem dash_append_inj {a b c d : List Char} (ha : '-' ∉ a) (hc : '-' ∉ c)
    (h : a ++ '-' :: b = c ++ '-' :: d) : a = c ∧ b = d := by
  induction a generalizing c with
  | nil =>
      cases c with
      | nil => exact ⟨rfl, (List.cons.inj h).2⟩
      | cons x c => exact absurd ((List.cons.inj h).1 ▸ List.mem_cons_self) hc
  | cons x a ih =>
      cases c with
      | nil => exact absurd ((List.cons.inj h).1 ▸ List.mem_cons_self) ha
      | cons y c =>
          obtain ⟨rfl, hrest⟩ := List.cons.inj h
          obtain ⟨rfl, hb⟩ := ih (fun hmem => ha (List.mem_cons_of_mem _ hmem))
            (fun hmem => hc (List.mem_cons_of_mem _ hmem)) hrest
          exact ⟨rfl, hb⟩

theorem join_inj {a b c d : String} (ha : NoDash a) (hc : NoDash c)
    (h : a ++ "-" ++ b = c ++ "-" ++ d) : a = c ∧ b = d := by
  have hlist := congrArg String.toList h
  simp only [String.toList_append] at hlist
  have hdash : "-".toList = ['-'] := rfl
  rw [hdash, List.append_assoc, List.append_assoc] at hlist
  obtain ⟨hac, hbd⟩ := dash_append_inj ha hc hlist
  exact ⟨String.toList_inj.mp hac, String.toList_inj.mp hbd⟩

theorem conversationId_cases (a b : String) :
    conversationId a b = a ++ "-" ++ b ∨ conversationId a b = b ++ "-" ++ a := by
  unfold conversationId
  split_ifs
  · exact .inl rfl
  · exact .inr rfl

theorem conversationId_ne_empty (a b : String) : conversationId a b ≠ "" := by
  intro h
  have hlist := congrArg String.toList h
  obtain hid | hid := conversationId_cases a b <;>
    · rw [hid] at hlist
      simp [String.toList_append] at hlist

/-- The id determines the members, up to their order. -/
theorem members_of_conversationId_eq {a b c d : String} (ha : NoDash a) (hb : NoDash b)
    (hc : NoDash c) (hd : NoDash d) (h : conversationId a b = conversationId c d) :
    (a = c ∧ b = d) ∨ (a = d ∧ b = c) := by
  obtain hab | hab := conversationId_cases a b <;> obtain hcd | hcd := conversationId_cases c d <;>
    rw [hab, hcd] at h
  · exact .inl (join_inj ha hc h)
  · exact .inr (join_inj ha hd h)
  · exact .inr (join_inj hb hc h).symm
  · exact .inl (join_inj hb hd h).symm

/-- The id stands for the unordered pair of the members. -/
theorem conversationId_eq_iff (a b c d : String) :
    conversationId a b = conversationId b a ∧
      (NoDash a → NoDash b → NoDash c → NoDash d →
        (conversationId a b = conversationId c d ↔ s(a, b) = s(c, d))) := by
  refine ⟨conversationId_swap a b, fun ha hb hc hd => ⟨fun h => ?_, fun h => ?_⟩⟩
  · exact Sym2.eq_iff.mpr (members_of_conversationId_eq ha hb hc hd h)
  · obtain ⟨rfl, rfl⟩ | ⟨rfl, rfl⟩ := Sym2.eq_iff.mp h
    · rfl
    · exact conversationId_swap _ _

theorem conversationId_eq_iff_guest_host :
    conversationId "uid1" "uid2" = conversationId "uid2" "uid1" ↔
      s("uid1", "uid2") = s("uid2", "uid1") :=
  (conversationId_eq_iff "uid1" "uid2" "uid2" "uid1").2 (by decide) (by decide) (by decide)
    (by decide)

end BookPostingCubit

end AirBnbClone
