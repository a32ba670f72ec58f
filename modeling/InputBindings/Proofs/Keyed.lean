import InputBindings.Keyed
import Mathlib.Data.List.Induction
import Mathlib.Data.List.Perm.Subperm

/-!
# Keyed lists made from entries

A keyed list that is made from some entries has their keys in the order in which
they came up, each once. So it is the list of these entries exactly if no key came
up again; otherwise an entry is lost.

Main statements: `map_key_ofList`, `ofList_eq_self_iff`.
-/

namespace InputBindings

/-! ## Each element once, in the order of first occurrence -/

section EraseDups

variable {α : Type} [BEq α] [LawfulBEq α]

theorem eraseDups_concat [DecidableEq α] (xs : List α) (x : α) :
    (xs ++ [x]).eraseDups = if x ∈ xs then xs.eraseDups else xs.eraseDups ++ [x] := by
  rw [List.eraseDups_append]
  by_cases hx : x ∈ xs
  · simp [List.removeAll, hx]
  · simp [List.removeAll, hx, List.eraseDups_cons]

theorem nodup_eraseDups [DecidableEq α] (xs : List α) : xs.eraseDups.Nodup := by
  induction xs using List.reverseRecOn with
  | nil => exact List.nodup_nil
  | append_singleton xs x ih =>
      rw [eraseDups_concat]
      split
      · exact ih
      · rename_i hx
        refine List.nodup_append.mpr ⟨ih, List.pairwise_singleton _ _, ?_⟩
        intro y hy z hz hyz
        rw [List.mem_singleton] at hz
        exact hx (List.mem_eraseDups.mp (hz ▸ hyz ▸ hy))

end EraseDups

namespace Keyed

variable {κ α : Type} [DecidableEq κ]

theorem put_of_not_mem {entries : List (κ × α)} {key : κ} (value : α)
    (hkey : key ∉ entries.map (·.1)) : put entries key value = entries ++ [(key, value)] := by
  induction entries with
  | nil => rfl
  | cons entry rest ih =>
      rw [List.map_cons, List.mem_cons, not_or] at hkey
      rw [put, if_neg (Ne.symm hkey.1), ih hkey.2, List.cons_append]

theorem foldl_put_of_nodup {done entries : List (κ × α)}
    (hkeys : ((done ++ entries).map (·.1)).Nodup) :
    entries.foldl (fun done entry => put done entry.1 entry.2) done = done ++ entries := by
  induction entries generalizing done with
  | nil => rw [List.foldl_nil, List.append_nil]
  | cons entry rest ih =>
      have hnew : entry.1 ∉ done.map (·.1) := by
        rw [List.map_append, List.nodup_append] at hkeys
        intro hmem
        exact hkeys.2.2 _ hmem _ (List.mem_map_of_mem List.mem_cons_self) rfl
      rw [← List.singleton_append, ← List.append_assoc] at hkeys
      rw [List.foldl_cons, put_of_not_mem _ hnew, ih hkeys, List.append_assoc,
        List.singleton_append]

theorem mem_of_mem_put {entries : List (κ × α)} {key : κ} {value : α} {entry : κ × α}
    (h : entry ∈ put entries key value) : entry ∈ entries ∨ entry = (key, value) := by
  induction entries with
  | nil => exact Or.inr (List.mem_singleton.mp h)
  | cons first rest ih =>
      rw [put] at h
      split at h
      · rename_i hkey
        rcases List.mem_cons.mp h with rfl | hrest
        · exact Or.inr (Prod.ext hkey rfl)
        · exact Or.inl (List.mem_cons_of_mem _ hrest)
      · rcases List.mem_cons.mp h with rfl | hrest
        · exact Or.inl List.mem_cons_self
        · exact (ih hrest).imp_left (List.mem_cons_of_mem _)

theorem mem_of_mem_ofList {entries : List (κ × α)} {entry : κ × α} (h : entry ∈ ofList entries) :
    entry ∈ entries := by
  induction entries using List.reverseRecOn with
  | nil => exact h
  | append_singleton entries last ih =>
      rw [ofList, List.foldl_append] at h
      rcases mem_of_mem_put h with hmem | rfl
      · exact List.mem_append_left _ (ih hmem)
      · exact List.mem_append_right _ List.mem_cons_self

/-- The keys in the order in which they came up, each once. -/
theorem map_key_ofList (entries : List (κ × α)) :
    (ofList entries).map (·.1) = (entries.map (·.1)).eraseDups := by
  induction entries using List.reverseRecOn with
  | nil => rfl
  | append_singleton entries entry ih =>
      rw [List.map_append, List.map_singleton, eraseDups_concat, ← ih]
      unfold ofList at ih ⊢
      rw [List.foldl_append, List.foldl_cons, List.foldl_nil, put_keys, ih]
      simp only [List.mem_eraseDups]

/-- Nothing is lost exactly if no key came up again. -/
theorem ofList_eq_self_iff {entries : List (κ × α)} :
    ofList entries = entries ↔ (entries.map (·.1)).Nodup := by
  constructor
  · intro h
    have hkeys := map_key_ofList entries
    rw [h] at hkeys
    rw [hkeys]
    exact nodup_eraseDups _
  · intro h
    exact foldl_put_of_nodup h

end Keyed

end InputBindings
