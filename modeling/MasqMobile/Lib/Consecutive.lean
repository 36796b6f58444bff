import Mathlib

/-!
# Runs of consecutive numbers

A strictly increasing list is a run `start, start + 1, ..` if and only if every number from `start` up to one of
its elements is an element too. A list that is increasing in some key falls into the elements below a bound and
those that are not.
-/

namespace Consecutive

/-- A strictly increasing list is a run exactly if it has no gap. -/
theorem eq_range'_iff {start : Nat} (hs : l.Pairwise (· < ·)) :
    l = List.range' start l.length ↔ ∀ x ∈ l, start ≤ x ∧ ∀ n, start ≤ n → n < x → n ∈ l := by
  constructor
  · intro h x hx
    rw [h, List.mem_range'_1] at hx
    refine ⟨hx.1, ?_⟩
    intro n hn hlt
    rw [h, List.mem_range'_1]
    omega
  · intro h
    induction l generalizing start with
    | nil => rfl
    | cons x l ih =>
      obtain ⟨hf, ht⟩ := List.pairwise_cons.1 hs
      obtain ⟨hle, hc⟩ := h x List.mem_cons_self
      -- the smallest element is where the run starts
      have hst : x = start := by
        by_contra hne
        rcases List.mem_cons.1 (hc start le_rfl (by omega)) with heq | hm
        · omega
        · have := hf start hm
          omega
      subst hst
      rw [List.length_cons, List.range'_succ, ← ih ht]
      intro y hy
      have hlt := hf y hy
      refine ⟨hlt, ?_⟩
      intro n hn hny
      rcases List.mem_cons.1 ((h y (List.mem_cons_of_mem x hy)).2 n (by omega) hny) with heq | hm
      · omega
      · exact hm

/-- What is left once the elements that meet a downward closed condition are gone meets it nowhere. -/
theorem not_of_mem_dropWhile {α : Type*} {r : α → α → Prop} {p : α → Bool} (hp : ∀ x y, r x y → p y → p x)
    {l : List α} (hl : l.Pairwise r) {x : α} (hx : x ∈ l.dropWhile p) : ¬p x := by
  induction l with
  | nil => simp at hx
  | cons y l ih =>
    obtain ⟨hf, ht⟩ := List.pairwise_cons.1 hl
    by_cases hy : p y
    · rw [List.dropWhile_cons_of_pos hy] at hx
      exact ih ht hx
    · rw [List.dropWhile_cons_of_neg hy] at hx
      rcases List.mem_cons.1 hx with rfl | hm
      · exact hy
      · intro hpx
        exact hy (hp y x (hf x hm) hpx)

end Consecutive
