import Mathlib

/-!
# Numbered messages in a FIFO channel

A sender numbers its messages without going back, and may send the same number again. `Carries R lo hi`
says that the messages in the channel are numbered in order, from `lo` on and up to `hi`: `lo` is what the
receiver has reached and `hi` what the sender has. `R n a` says that `a` is a message number `n`.
-/

namespace Channel

/-- The messages are numbered in order between `lo` and `hi`. -/
inductive Carries {α : Type*} (R : Nat → α → Prop) : Nat → Nat → List α → Prop
  | nil {lo hi} (h : lo ≤ hi) : Carries R lo hi []
  | cons {lo hi a rest} (n : Nat) (hlo : lo ≤ n) (ha : R n a) (hrest : Carries R n hi rest) :
      Carries R lo hi (a :: rest)

variable {α : Type*} {R : Nat → α → Prop} {lo hi n : Nat} {a : α} {messages : List α}

theorem Carries.le (h : Carries R lo hi messages) : lo ≤ hi := by
  induction h with
  | nil h => exact h
  | cons n hlo _ _ ih => exact Nat.le_trans hlo ih

theorem Carries.send (h : Carries R lo hi messages) (hn : hi ≤ n) (ha : R n a) : Carries R lo n (messages ++ [a]) := by
  induction h with
  | nil h => exact .cons n (Nat.le_trans h hn) ha (.nil (Nat.le_refl n))
  | cons k hlo hk _ ih => exact .cons k hlo hk (ih hn)

theorem Carries.receive (h : Carries R lo hi (a :: messages)) :
    ∃ n, lo ≤ n ∧ n ≤ hi ∧ R n a ∧ Carries R n hi messages := by
  cases h with
  | cons n hlo ha hr => exact ⟨n, hlo, hr.le, ha, hr⟩

end Channel
