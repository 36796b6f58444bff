import Mathlib

/-!
# Updating the first match of a list

`Vec::iter_mut().find(p)` followed by an assignment through the reference: the first element that
satisfies `p` is replaced, everything else stays in place.
-/

namespace FirstMatch

variable {α : Type*} {p : α → Bool} {f : α → α}

/-- Apply `f` to the first element that satisfies `p`. -/
def update (p : α → Bool) (f : α → α) : List α → List α
  | [] => []
  | a :: l => if p a then f a :: l else a :: update p f l

variable {l : List α} {q : α → Bool}

theorem update_split (h : l.find? p = some a) :
    ∃ before after, l = before ++ a :: after ∧ (∀ x ∈ before, p x = false) ∧ p a = true ∧
      ∀ f, update p f l = before ++ f a :: after := by
  induction l with
  | nil => simp at h
  | cons b l ih =>
    by_cases hb : p b
    · obtain rfl : b = a := by simpa [hb] using h
      exact ⟨[], l, rfl, by simp, hb, fun f => by simp [update, hb]⟩
    · obtain ⟨before, after, rfl, hbe, ha, hu⟩ := ih (by simpa [hb] using h)
      exact ⟨b :: before, after, rfl, by simpa [hb] using hbe, ha, fun f => by
        simp [update, hb, hu]⟩

/-- What was the first match of `p` and of `q` is replaced by the first match of `q`. -/
theorem find?_update (hp : l.find? p = some a) (hq : l.find? q = some a)
    (hb : q b = true) : (update p (fun _ => b) l).find? q = some b := by
  obtain ⟨before, after, rfl, hbe, ha, hu⟩ := update_split hp
  rw [List.find?_append] at hq
  rw [hu, List.find?_append]
  cases hx : before.find? q with
  | none => simp [hb]
  | some x =>
    obtain rfl : x = a := by simpa [hx] using hq
    simp [hbe x (List.mem_of_find?_eq_some hx)] at ha

/-- Another element's update is not seen by `q`, if it does not change whether that element satisfies `q`. -/
theorem find?_update_of_not (hp : l.find? p = some c)
    (hq : l.find? q = some a) (ha : p a = false) (hb : q b = q c) : (update p (fun _ => b) l).find? q = some a := by
  obtain ⟨before, after, rfl, -, hc, hu⟩ := update_split hp
  rw [List.find?_append] at hq
  rw [hu, List.find?_append]
  cases hx : before.find? q with
  | some x => simpa [hx] using hq
  | none =>
    by_cases hqc : q c
    · obtain rfl : c = a := by simpa [hx, hqc] using hq
      simp [hc] at ha
    · simpa [hx, hb, hqc] using hq

end FirstMatch
