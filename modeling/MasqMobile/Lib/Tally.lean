import Mathlib

/-!
# Amounts by key

A list of values, each with a key and an amount. `sumAt` is what the values of one key amount to. `Tallies l m` says
that the ordered map `m` holds exactly these sums.
-/

namespace Lists

section SumAt

variable {α κ M : Type*} [DecidableEq κ] [AddCommMonoid M] (key : α → κ) (amount : α → M) {keys : List κ}

/-- What the values of one key amount to. -/
def sumAt (l : List α) (k : κ) : M := ((l.filter (key · = k)).map amount).sum

@[simp] theorem sumAt_nil : sumAt key amount [] k = 0 := rfl

theorem sumAt_cons (a : α) (l : List α) (k : κ) :
    sumAt key amount (a :: l) k = (if key a = k then amount a else 0) + sumAt key amount l k := by
  by_cases h : key a = k <;> simp [sumAt, h]

theorem sumAt_append : sumAt key amount (l ++ l') k = sumAt key amount l k + sumAt key amount l' k := by
  simp [sumAt]

theorem sum_ite_eq_of_nodup (hnd : keys.Nodup) (hk : k ∈ keys) (x : M) :
    (keys.map fun k' => if k = k' then x else 0).sum = x := by
  rw [← List.sum_toFinset _ hnd, Finset.sum_ite_eq, if_pos (List.mem_toFinset.2 hk)]

theorem sum_sumAt (hnd : keys.Nodup) :
    ∀ l : List α, (∀ a ∈ l, key a ∈ keys) → (keys.map (sumAt key amount l)).sum = (l.map amount).sum
  | [], _ => List.sum_eq_zero (by simp)
  | a :: l, hk => by
    obtain ⟨ha, hl⟩ := List.forall_mem_cons.1 hk
    have hs : sumAt key amount (a :: l) = fun k => (if key a = k then amount a else 0) + sumAt key amount l k :=
      funext (sumAt_cons key amount a l)
    rw [hs, List.sum_map_add, sum_ite_eq_of_nodup hnd ha, sum_sumAt hnd l hl, List.map_cons, List.sum_cons]

end SumAt

theorem sumAt_le {α κ : Type*} [DecidableEq κ] (key : α → κ) (amount : α → Nat) (l : List α) (k : κ) :
    sumAt key amount l k ≤ (l.map amount).sum :=
  (List.filter_sublist.map amount).sum_le_sum fun _ _ => Nat.zero_le _

section Tallies

variable {α κ : Type*} [Ord κ] [Std.TransOrd κ] [DecidableEq κ] {key : α → κ} {amount : α → Nat} {l : List α}
  {m : Std.TreeMap κ Nat}

/-- The map holds the amount of every key that occurs, and no other key. -/
def Tallies (key : α → κ) (amount : α → Nat) (l : List α) (m : Std.TreeMap κ Nat) : Prop :=
  ∀ k, m[k]? = if k ∈ l.map key then some (sumAt key amount l k) else none

theorem tallies_nil : Tallies key amount [] ∅ := fun _ => by simp

theorem Tallies.getD (h : Tallies key amount l m) (k : κ) : m.getD k 0 = sumAt key amount l k := by
  rw [Std.TreeMap.getD_eq_getD_getElem?, h k]
  split
  · rfl
  · rename_i hk
    have hn : l.filter (key · = k) = [] := by
      simp only [List.filter_eq_nil_iff, decide_eq_true_eq]
      exact fun a ha heq => hk (List.mem_map.2 ⟨a, ha, heq⟩)
    simp [sumAt, hn]

variable [Std.LawfulEqOrd κ]

theorem Tallies.insert (h : Tallies key amount l m) (a : α) :
    Tallies key amount (l ++ [a]) (m.insert (key a) (m.getD (key a) 0 + amount a)) := by
  intro k
  rw [Std.TreeMap.getElem?_insert, sumAt_append, sumAt_cons, sumAt_nil, add_zero]
  by_cases heq : key a = k
  · subst heq
    simp [h.getD]
  · have hne : ¬compare (key a) k = .eq := fun hc => heq (Std.LawfulEqOrd.eq_of_compare hc)
    simp only [hne, if_neg heq, h k, List.map_append, List.mem_append, List.map_cons, List.map_nil,
      List.mem_singleton, Ne.symm heq, or_false, add_zero, if_false]

theorem Tallies.mem_toList_iff (h : Tallies key amount l m) :
    (k, n) ∈ m.toList ↔ k ∈ l.map key ∧ n = sumAt key amount l k := by
  rw [Std.TreeMap.mem_toList_iff_getElem?_eq_some, h k]
  split <;> simp [*, eq_comm]

theorem Tallies.sum_toList (h : Tallies key amount l m) : (m.toList.map (·.2)).sum = (l.map amount).sum := by
  have ham : m.toList.map (·.2) = m.keys.map (sumAt key amount l) := by
    rw [← Std.TreeMap.map_fst_toList_eq_keys, List.map_map]
    exact List.map_congr_left fun e he => (h.mem_toList_iff.1 he).2
  have hnd : m.keys.Nodup := Std.TreeMap.nodup_keys
  rw [ham, sum_sumAt key amount hnd]
  intro a ha
  rw [← Std.TreeMap.map_fst_toList_eq_keys]
  exact List.mem_map.2 ⟨_, h.mem_toList_iff.2 ⟨List.mem_map.2 ⟨a, ha, rfl⟩, rfl⟩, rfl⟩

end Tallies

end Lists
