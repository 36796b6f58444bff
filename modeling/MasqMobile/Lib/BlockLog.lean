import Mathlib

/-!
# Numbered blocks of entries

A log whose entries stand in numbered blocks. `slice lo hi` lists what blocks `lo` up to, but not including,
`hi` hold. A reader that keeps a cursor and takes the log slice by slice has taken each entry between its
first block and the cursor exactly once: what it has taken is a permutation of one slice.
-/

structure BlockLog (α : Type*) where
  number : α → Nat
  entries : Nat → List α
  numbered : ∀ n, ∀ a ∈ entries n, number a = n

namespace BlockLog

variable {α : Type*} (log : BlockLog α)

def slice (lo hi : Nat) : List α := (List.range' lo (hi - lo)).flatMap log.entries

variable {log}

theorem mem_slice : a ∈ log.slice lo hi ↔ lo ≤ log.number a ∧ log.number a < hi ∧ a ∈ log.entries (log.number a) := by
  simp only [slice, List.mem_flatMap, List.mem_range'_1]
  constructor
  · rintro ⟨n, hn, ha⟩
    obtain rfl := log.numbered n a ha
    exact ⟨hn.1, by omega, ha⟩
  · rintro ⟨hlo, hhi, ha⟩
    exact ⟨log.number a, ⟨hlo, by omega⟩, ha⟩

theorem slice_eq_nil (h : hi ≤ lo) : log.slice lo hi = [] := by
  simp [slice, Nat.sub_eq_zero_of_le h]

theorem slice_append {mid : Nat} (hlo : lo ≤ mid) (hhi : mid ≤ hi) :
    log.slice lo mid ++ log.slice mid hi = log.slice lo hi := by
  have hs : List.range' lo (hi - lo) = List.range' lo (mid - lo) ++ List.range' mid (hi - mid) := by
    have hm : mid = lo + 1 * (mid - lo) := by omega
    have hl : hi - lo = mid - lo + (hi - mid) := by omega
    rw [hl, ← List.range'_append, ← hm]
  rw [slice, slice, slice, hs, List.flatMap_append]

theorem slice_eq_slice_of_forall_lt {mid : Nat} (hlo : lo ≤ mid) (hhi : mid ≤ hi)
    (h : ∀ a ∈ log.slice lo hi, log.number a < mid) : log.slice lo mid = log.slice lo hi := by
  have ht : log.slice mid hi = [] := by
    rw [List.eq_nil_iff_forall_not_mem]
    intro a ha
    have hm := (mem_slice.1 ha).1
    have hlt := h a (by rw [← slice_append hlo hhi]; exact List.mem_append_right _ ha)
    omega
  rw [← slice_append hlo hhi, ht, List.append_nil]

section Count

variable [DecidableEq α]

theorem count_entries_of_ne (h : log.number a ≠ n) : (log.entries n).count a = 0 :=
  List.count_eq_zero.2 fun ha => h (log.numbered n a ha)

theorem count_slice (lo hi : Nat) : (log.slice lo hi).count a =
      if lo ≤ log.number a ∧ log.number a < hi then (log.entries (log.number a)).count a else 0 := by
  obtain ⟨k, hk⟩ : ∃ k, hi - lo = k := ⟨_, rfl⟩
  induction k generalizing hi with
  | zero =>
    rw [slice_eq_nil (by omega), List.count_nil, if_neg (by omega)]
  | succ k ih =>
    have ho : log.slice (hi - 1) hi = log.entries (hi - 1) := by
      have hle : hi - (hi - 1) = 1 := by omega
      simp [slice, hle]
    rw [← slice_append (show lo ≤ hi - 1 by omega) (by omega), List.count_append, ih (hi - 1) (by omega), ho]
    by_cases hl : log.number a = hi - 1
    · rw [if_neg (by omega), if_pos (by omega), hl, Nat.zero_add]
    · rw [count_entries_of_ne hl, Nat.add_zero]
      by_cases hin : lo ≤ log.number a ∧ log.number a < hi
      · rw [if_pos hin, if_pos (by omega)]
      · rw [if_neg hin, if_neg (by omega)]

end Count

end BlockLog
