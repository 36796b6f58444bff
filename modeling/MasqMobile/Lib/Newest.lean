import Mathlib

/-!
# The newest value of each key

A list of values, each with a key and a rank. `Newest l a` says that `a` is in the list and no value of its
key has a higher rank. Appending a value changes what is newest for its own key only, and deleting a key
leaves the others as they were.
-/

namespace Lists

variable {α κ : Type*} (key : α → κ) (rank : α → Nat)

/-- Among the values of its key, `a` has the highest rank. -/
def Newest (l : List α) (a : α) : Prop := a ∈ l ∧ ∀ b ∈ l, key b = key a → rank b ≤ rank a

instance [DecidableEq α] [DecidableEq κ] (l : List α) (a : α) : Decidable (Newest key rank l a) :=
  inferInstanceAs (Decidable (_ ∧ _))

variable {key rank} {l : List α} {a b : α}

theorem exists_newest [DecidableEq κ] (h : a ∈ l) : ∃ b, Newest key rank l b ∧ key b = key a := by
  classical
  obtain ⟨b, hb, hm⟩ := (l.filter (key · = key a)).toFinset.exists_max_image rank ⟨a, by simpa using h⟩
  simp only [List.mem_toFinset, List.mem_filter, decide_eq_true_eq] at hb hm
  exact ⟨b, ⟨hb.1, fun c hc heq => hm c ⟨hc, heq.trans hb.2⟩⟩, hb.2⟩

theorem newest_append_of_ne (h : key b ≠ key a) : Newest key rank (l ++ [a]) b ↔ Newest key rank l b := by
  simp only [Newest, List.mem_append, List.mem_singleton]
  constructor
  · rintro ⟨hb | rfl, hm⟩
    · exact ⟨hb, fun c hc => hm c (.inl hc)⟩
    · exact absurd rfl h
  · rintro ⟨hb, hm⟩
    refine ⟨.inl hb, ?_⟩
    rintro c (hc | rfl) heq
    · exact hm c hc heq
    · exact absurd heq.symm h

theorem newest_append_self (h : ∀ c ∈ l, key c = key a → rank c ≤ rank a) : Newest key rank (l ++ [a]) a := by
  exact ⟨by simp, List.forall_mem_append.2 ⟨h, List.forall_mem_singleton.2 fun _ => le_rfl⟩⟩

/-- A value that does not outrank the newest one of its key leaves it the newest. -/
theorem Newest.append (h : Newest key rank l b) (hle : key a = key b → rank a ≤ rank b) :
    Newest key rank (l ++ [a]) b := by
  exact ⟨by simp [h.1], List.forall_mem_append.2 ⟨h.2, List.forall_mem_singleton.2 hle⟩⟩

theorem newest_filter_iff [DecidableEq κ] :
    Newest key rank (l.filter (key · ≠ k)) a ↔ key a ≠ k ∧ Newest key rank l a := by
  simp only [Newest, List.mem_filter, decide_eq_true_eq]
  constructor
  · rintro ⟨⟨ha, hk⟩, hm⟩
    exact ⟨hk, ha, fun c hc heq => hm c ⟨hc, heq ▸ hk⟩ heq⟩
  · rintro ⟨hk, ha, hm⟩
    exact ⟨⟨ha, hk⟩, fun c hc heq => hm c hc.1 heq⟩

end Lists
