import Mathlib.Data.Finset.Basic
import Mathlib.Data.List.Nodup

/-!
# Calls in flight

A component that must not ask twice for one key keeps the keys of its pending calls in a set. The
set tracks the calls when it holds exactly these keys and no two pending calls share one; starting
calls for new keys and completing a pending call keep it so.
-/

namespace InFlight

variable {κ : Type}

structure Call (κ : Type) where
  key : κ
  completed : Bool
  deriving DecidableEq

def pending (calls : List (Call κ)) : List κ :=
  (calls.filter (fun c => !c.completed)).map Call.key

theorem pending_append (calls calls' : List (Call κ)) :
    pending (calls ++ calls') = pending calls ++ pending calls' := by
  unfold pending
  rw [List.filter_append, List.map_append]

theorem pending_started (keys : List κ) : pending (keys.map (Call.mk · false)) = keys := by
  induction keys with
  | nil => rfl
  | cons key keys ih => exact congrArg (key :: ·) ih

structure Tracks (tracked : Finset κ) (calls : List (Call κ)) : Prop where
  mem_iff : ∀ key, key ∈ tracked ↔ key ∈ pending calls
  once : (pending calls).Nodup

variable {tracked : Finset κ} {calls : List (Call κ)}

theorem tracks_empty : Tracks (∅ : Finset κ) [] := ⟨by simp [pending], List.nodup_nil⟩

theorem Tracks.eq_empty (h : Tracks tracked calls) (hpending : pending calls = []) :
    tracked = ∅ := by
  refine Finset.eq_empty_of_forall_notMem (fun key hkey => ?_)
  rw [h.mem_iff, hpending] at hkey
  exact List.not_mem_nil hkey

variable [DecidableEq κ]

theorem Tracks.start {keys : List κ} (h : Tracks tracked calls) (hkeys : keys.Nodup)
    (hnew : ∀ key ∈ keys, key ∉ tracked) :
    Tracks (tracked ∪ keys.toFinset) (calls ++ keys.map (Call.mk · false)) where
  mem_iff key := by
    rw [pending_append, pending_started, Finset.mem_union, List.mem_append, List.mem_toFinset,
      h.mem_iff]
  once := by
    rw [pending_append, pending_started]
    refine h.once.append hkeys (fun key hpending hkey => hnew key hkey ?_)
    exact (h.mem_iff key).mpr hpending

theorem Tracks.complete {i : ℕ} {key : κ} (h : Tracks tracked calls)
    (hi : calls[i]? = some ⟨key, false⟩) :
    Tracks (tracked.erase key) (calls.set i ⟨key, true⟩) := by
  obtain ⟨hlt, hget⟩ := List.getElem?_eq_some_iff.mp hi
  obtain ⟨before, after, hcalls, -, hset⟩ : ∃ before after,
      calls = before ++ calls[i] :: after ∧ before.length = i ∧
        calls.set i ⟨key, true⟩ = before ++ ⟨key, true⟩ :: after := List.exists_of_set hlt
  rw [hget] at hcalls
  have hbefore : pending calls = pending before ++ key :: pending after := by
    rw [hcalls, pending_append]
    rfl
  have hafter : pending (calls.set i ⟨key, true⟩) = pending before ++ pending after := by
    rw [hset, pending_append]
    rfl
  have honce := h.once
  rw [hbefore, List.nodup_middle, List.nodup_cons, List.mem_append] at honce
  refine ⟨fun key' => ?_, hafter ▸ honce.2⟩
  rw [Finset.mem_erase, h.mem_iff, hbefore, hafter]
  simp only [List.mem_append, List.mem_cons]
  constructor
  · rintro ⟨hne, hmem | rfl | hmem⟩
    · exact .inl hmem
    · exact absurd rfl hne
    · exact .inr hmem
  · intro hmem
    refine ⟨?_, hmem.imp_right .inr⟩
    rintro rfl
    exact honce.1 hmem

end InFlight
