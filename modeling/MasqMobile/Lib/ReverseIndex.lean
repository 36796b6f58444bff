import Mathlib

/-!
# Reverse indexes

A map `forth : α → Option β` and an index `back : β → Option α` that is kept beside it. `Indexes back forth` says that
the index finds exactly what the map holds, `Finds back forth` that it finds nothing else. An entry may be added to both
if neither side has one, and an entry of the map may be taken out of both.
-/

namespace ReverseIndex

variable {α β : Type*} {back : β → Option α} {forth : α → Option β} {a : α} {b : β}

/-- What the index finds is in the map. -/
def Finds (back : β → Option α) (forth : α → Option β) : Prop := ∀ b a, back b = some a → forth a = some b

def Indexes (back : β → Option α) (forth : α → Option β) : Prop := ∀ b a, back b = some a ↔ forth a = some b

theorem Indexes.eq_none (h : Indexes back forth) (hb : ∀ a, forth a ≠ some b) : back b = none :=
  Option.eq_none_iff_forall_ne_some.2 fun a ha => hb a ((h b a).1 ha)

variable [DecidableEq α] [DecidableEq β] {o : Option β}

theorem Finds.insert (h : Finds back forth) (ha : forth a = none) :
    Finds (o.elim back fun b => Function.update back b (some a)) (Function.update forth a o) := by
  intro b' a' hb'
  cases o with
  | none =>
    rw [← ha, Function.update_eq_self]
    exact h b' a' hb'
  | some b =>
    rw [Option.elim_some, Function.update_apply] at hb'
    split_ifs at hb' with hb
    · obtain rfl := Option.some.inj hb'
      rw [Function.update_self, hb]
    · have ho : a' ≠ a := fun heq => by simp [← heq, h b' a' hb'] at ha
      rw [Function.update_of_ne ho]
      exact h b' a' hb'

theorem Finds.erase (h : Finds back forth) (a : α) :
    Finds ((forth a).elim back fun b => Function.update back b none) (Function.update forth a none) := by
  intro b' a' hb'
  cases ha : forth a with
  | none =>
    rw [ha] at hb'
    rw [← ha, Function.update_eq_self]
    exact h b' a' hb'
  | some b =>
    rw [ha, Option.elim_some, Function.update_apply] at hb'
    split_ifs at hb' with hb
    have ho : a' ≠ a := fun heq => hb (Option.some.inj ((h b' a' hb').symm.trans (heq ▸ ha)))
    rw [Function.update_of_ne ho]
    exact h b' a' hb'

theorem Indexes.insert (h : Indexes back forth) (ha : forth a = none) (hb : ∀ b, o = some b → back b = none) :
    Indexes (o.elim back fun b => Function.update back b (some a)) (Function.update forth a o) := by
  refine fun b' a' => ⟨Finds.insert (fun b a => (h b a).1) ha b' a', fun hf => ?_⟩
  by_cases ha' : a' = a
  · subst ha'
    rw [Function.update_self] at hf
    simp [hf]
  · rw [Function.update_of_ne ha', ← h b' a'] at hf
    cases o with
    | none => exact hf
    | some b =>
      -- the index had no entry for `b`
      have ho : b' ≠ b := fun heq => by simp [heq, hb b rfl] at hf
      rw [Option.elim_some, Function.update_of_ne ho]
      exact hf

theorem Indexes.erase (h : Indexes back forth) (a : α) :
    Indexes ((forth a).elim back fun b => Function.update back b none) (Function.update forth a none) := by
  refine fun b' a' => ⟨Finds.erase (fun b a => (h b a).1) a b' a', fun hf => ?_⟩
  have ha' : a' ≠ a := fun heq => by simp [heq] at hf
  rw [Function.update_of_ne ha', ← h b' a'] at hf
  cases ha : forth a with
  | none => exact hf
  | some b =>
    have ho : b' ≠ b := fun heq => ha' (Option.some.inj (hf.symm.trans (heq ▸ (h b a).2 ha)))
    rw [Option.elim_some, Function.update_of_ne ho]
    exact hf

end ReverseIndex
