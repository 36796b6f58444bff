import Mathlib

/-!
# Integers stored as two signed 64-bit columns

A signed integer of up to 127 bits is kept as a high part and a non-negative low part of 63 bits, each
of which fits a signed 64-bit column. `ofInt` and `toInt` convert, and `add` is the column-wise sum
with the carry of the low parts.
-/

/-- A pair of columns: `high` is any signed 64-bit value, `low` a non-negative one. -/
structure SplitInt where
  high : Int
  low : Int
  high_mem : -2 ^ 63 ≤ high ∧ high < 2 ^ 63
  low_mem : 0 ≤ low ∧ low < 2 ^ 63
  deriving DecidableEq

namespace SplitInt

/-- `(high << 63) | low`. -/
def toInt (s : SplitInt) : Int := s.high * 2 ^ 63 + s.low

/-- The integers that have a representation. -/
def InRange (x : Int) : Prop := -2 ^ 126 ≤ x ∧ x < 2 ^ 126

instance (x : Int) : Decidable (InRange x) := inferInstanceAs (Decidable (_ ∧ _))

/-- `(x >> 63, x & 0x7FFFFFFFFFFFFFFF)`. -/
def ofInt (x : Int) (h : InRange x) : SplitInt where
  high := x / 2 ^ 63
  low := x % 2 ^ 63
  high_mem := by
    obtain ⟨hlo, hhi⟩ := h
    omega
  low_mem := by omega

theorem toInt_inRange (s : SplitInt) : InRange s.toInt := by
  obtain ⟨high, low, hh, hl⟩ := s
  simp only [toInt, InRange]
  omega

@[simp] theorem toInt_ofInt (x : Int) (h : InRange x) : (ofInt x h).toInt = x := by
  simp only [toInt, ofInt]
  omega

/-- Both columns are added; a low sum past 63 bits carries into the high one. Fails when the high column
overflows, before the carry or with it. -/
def add (s d : SplitInt) : Option SplitInt := let high := s.high + d.high
  let carry := (s.low + d.low) / 2 ^ 63
  if h : (-2 ^ 63 ≤ high ∧ high < 2 ^ 63) ∧ high + carry < 2 ^ 63 then
    some ⟨high + carry, (s.low + d.low) % 2 ^ 63, by
      have := s.low_mem
      have := d.low_mem
      omega, by omega⟩
  else none

theorem toInt_add {s d r : SplitInt} (h : s.add d = some r) : r.toInt = s.toInt + d.toInt := by
  simp only [add] at h
  split at h
  · obtain rfl := Option.some.inj h
    simp only [toInt]
    omega
  · cases h

theorem isSome_add_iff (s d : SplitInt) : (s.add d).isSome ↔ (-2 ^ 63 ≤ s.high + d.high ∧ s.high + d.high < 2 ^ 63) ∧
      s.high + d.high + (s.low + d.low) / 2 ^ 63 < 2 ^ 63 := by
  simp only [add]
  rw [Option.isSome_dite]

/-- A negative number can be added exactly if the high columns do not overflow before the carry. -/
theorem isSome_add_ofInt_neg (s : SplitInt) {x : Nat} (hn : InRange (-x)) :
    (s.add (ofInt (-x) hn)).isSome ↔ -2 ^ 63 ≤ s.high + (-x : Int) / 2 ^ 63 := by
  have := s.high_mem
  have := s.low_mem
  rw [isSome_add_iff]
  simp only [ofInt]
  omega

end SplitInt
