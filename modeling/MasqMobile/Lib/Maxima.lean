import Mathlib

/-!
# Sum of the maxima of a log, by key

A log of entries, each with a key and a value. `maxAt` is the highest value logged under a key, and `total` adds these
maxima up over the keys that occur.
-/

namespace Maxima

variable {α κ : Type*} [DecidableEq κ] (key : α → κ) (value : α → Nat)

/-- The highest value logged under `k`, zero if there is none. -/
def maxAt : List α → κ → Nat
  | [], _ => 0
  | a :: l, k => if key a = k then max (value a) (maxAt l k) else maxAt l k

variable (l : List α)

def total : Nat := ∑ k ∈ (l.map key).toFinset, maxAt key value l k

variable {key value l}

theorem maxAt_concat : maxAt key value (l ++ [a]) k =
      if key a = k then max (maxAt key value l k) (value a) else maxAt key value l k := by
  induction l with
  | nil => simp [maxAt]
  | cons b l ih =>
    simp only [List.cons_append, maxAt, ih]
    split <;> split <;> simp [max_assoc]

theorem maxAt_le_concat : maxAt key value l k ≤ maxAt key value (l ++ [a]) k := by
  rw [maxAt_concat]
  split <;> omega

@[simp] theorem maxAt_nil : maxAt key value [] k = 0 := rfl

theorem maxAt_concat_self (a : α) : maxAt key value (l ++ [a]) (key a) = max (maxAt key value l (key a)) (value a) := by
  simp [maxAt_concat]

theorem maxAt_concat_of_ne (h : key a ≠ k) : maxAt key value (l ++ [a]) k = maxAt key value l k := by
  simp [maxAt_concat, h]

theorem value_le_maxAt (h : a ∈ l) : value a ≤ maxAt key value l (key a) := by
  induction l with
  | nil => simp at h
  | cons b l ih =>
    rcases List.mem_cons.1 h with rfl | h
    · simp [maxAt]
    · have := ih h
      simp only [maxAt]
      split <;> omega

theorem maxAt_eq_zero (h : ∀ a ∈ l, key a ≠ k) : maxAt key value l k = 0 := by
  induction l with
  | nil => rfl
  | cons b l ih =>
    rw [maxAt, if_neg (h b (by simp))]
    exact ih fun a ha => h a (by simp [ha])

@[simp] theorem total_nil : total key value [] = 0 := rfl

theorem total_eq_sum (hs : (l.map key).toFinset ⊆ s) :
    total key value l = ∑ k ∈ s, maxAt key value l k := by
  refine Finset.sum_subset hs fun k _ hk => maxAt_eq_zero fun a ha hak => hk ?_
  simpa using ⟨a, ha, hak⟩

/-- A new entry adds what it exceeds its key's maximum by. -/
theorem total_concat (a : α) :
    total key value (l ++ [a]) = total key value l + (value a - maxAt key value l (key a)) := by
  have hke : (l.map key).toFinset ⊆ insert (key a) (l.map key).toFinset := Finset.subset_insert _ _
  have hke' : ((l ++ [a]).map key).toFinset ⊆ insert (key a) (l.map key).toFinset := by
    intro k
    simp only [List.map_append, List.map_cons, List.map_nil, List.toFinset_append, List.toFinset_cons,
      List.toFinset_nil, Finset.mem_union, Finset.mem_insert, Finset.notMem_empty, or_false]
    exact Or.symm
  rw [total_eq_sum hke, total_eq_sum hke', ← Finset.add_sum_erase _ _ (Finset.mem_insert_self _ _),
    ← Finset.add_sum_erase _ _ (Finset.mem_insert_self _ _), maxAt_concat_self]
  have hr : ∑ k ∈ (insert (key a) (l.map key).toFinset).erase (key a), maxAt key value (l ++ [a]) k =
      ∑ k ∈ (insert (key a) (l.map key).toFinset).erase (key a), maxAt key value l k :=
    Finset.sum_congr rfl fun k hk => maxAt_concat_of_ne (Finset.ne_of_mem_erase hk).symm
  rw [hr]
  omega

theorem total_concat_of_mem (h : a ∈ l) : total key value (l ++ [a]) = total key value l := by
  rw [total_concat, Nat.sub_eq_zero_of_le (value_le_maxAt h), Nat.add_zero]

theorem maxAt_concat_of_mem (h : a ∈ l) (k : κ) : maxAt key value (l ++ [a]) k = maxAt key value l k := by
  by_cases hk : key a = k
  · subst hk
    rw [maxAt_concat_self, max_eq_left (value_le_maxAt h)]
  · exact maxAt_concat_of_ne hk

end Maxima
