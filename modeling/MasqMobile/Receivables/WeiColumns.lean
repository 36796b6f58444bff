import MasqMobile.Lib.SplitInt

/-!
# Updates of wei columns

`BigIntDbProcessorReal` (`node/src/accountant/db_big_integer/big_int_db_processor.rs`) adds a change to an amount that a
strict table keeps in two `integer` columns. SQLite makes a sum that overflows a REAL, which such a column refuses (error
3091); then the columns are read and the sum is made in Rust. Whether its `i64` arithmetic panics or wraps on overflow
depends on the build.

The columns are made by `BigIntDivider` (`big_int_divider.rs`), from `i128` to two `i64` and back.
-/

namespace MasqMobile

/-- The values of two columns, `high` and `low`. -/
abbrev WeiColumns := Int × Int

namespace BigIntDivider

/-- big_int_divider.rs:28; a panic outside the range. -/
def deconstruct (num : Int) : Option WeiColumns :=
  if SplitInt.InRange num then some (num / 2 ^ 63, num % 2 ^ 63) else none

/-- Lines 28–62 on words: the range is checked by the two top bits. -/
def deconstructWord (num : BitVec 128) : Option (BitVec 64 × BitVec 64) :=
  let topTwoBits := num.sshiftRight 126 &&& 0b11
  if topTwoBits = 0b01 ∨ topTwoBits = 0b10 then none
  else some ((num.sshiftRight 63).setWidth 64, (num &&& 0x7FFFFFFFFFFFFFFF).setWidth 64)

/-- Line 44. -/
def reconstitute (highBytes lowBytes : BitVec 64) : Option (BitVec 128) :=
  if lowBytes.slt 0 then none else some (highBytes.signExtend 128 <<< 63 ||| lowBytes.signExtend 128)

variable {n : BitVec 128}

theorem toInt_sshiftRight_eq (n : BitVec 128) (k : Nat) : (n.sshiftRight k).toInt = n.toInt / 2 ^ k := by
  rw [BitVec.toInt_sshiftRight, Int.shiftRight_eq_div_pow]
  push_cast
  rfl

theorem topTwoBits_iff : (n.sshiftRight 126 &&& 0b11 = 0b01 ∨ n.sshiftRight 126 &&& 0b11 = 0b10) ↔
    ¬SplitInt.InRange n.toInt := by
  have ha : (n.sshiftRight 126 &&& 0b11).toNat = (n.sshiftRight 126).toNat % 4 :=
    (BitVec.toNat_and _ _).trans (Nat.and_two_pow_sub_one_eq_mod _ 2)
  have hs := toInt_sshiftRight_eq n 126
  have hlo := n.le_toInt
  have hhi := n.toInt_lt
  rw [BitVec.toInt_eq_toNat_cond] at hs
  simp only [← BitVec.toNat_inj, ha, SplitInt.InRange]
  change (_ = 1 ∨ _ = 2) ↔ _
  split at hs <;> omega

/-- The words hold the columns. -/
theorem deconstructWord_toInt (n : BitVec 128) :
    (deconstructWord n).map (fun p => (p.1.toInt, p.2.toInt)) = deconstruct n.toInt := by
  simp only [deconstructWord, deconstruct, topTwoBits_iff]
  by_cases h : SplitInt.InRange n.toInt
  · have ha : (n &&& 0x7FFFFFFFFFFFFFFF).toNat = n.toNat % 2 ^ 63 :=
      (BitVec.toNat_and _ _).trans (Nat.and_two_pow_sub_one_eq_mod _ 63)
    have hs := toInt_sshiftRight_eq n 63
    have hn := n.toInt_eq_toNat_cond
    rw [BitVec.toInt_eq_toNat_cond] at hs
    rw [if_neg (not_not.2 h), if_pos h, Option.map_some, Option.some.injEq, Prod.mk.injEq, BitVec.toInt_setWidth,
      BitVec.toInt_setWidth, ha]
    simp only [SplitInt.InRange, Int.bmod] at h ⊢
    constructor <;> split at hs <;> split at hn <;> split <;> omega
  · rw [if_pos h, if_neg h]
    rfl

theorem deconstructWord_eq_some (h : SplitInt.InRange n.toInt) : ∃ p, deconstructWord n = some p ∧
    p.1.toInt = n.toInt / 2 ^ 63 ∧ p.2.toInt = n.toInt % 2 ^ 63 := by
  have hd := deconstructWord_toInt n
  rw [deconstruct, if_pos h, Option.map_eq_some_iff] at hd
  obtain ⟨p, hp, he⟩ := hd
  exact ⟨p, hp, Prod.mk.inj he⟩

theorem reconstitute_eq {h l : BitVec 64} (hl : 0 ≤ l.toInt) :
    reconstitute h l = some (BitVec.ofInt 128 (h.toInt * 2 ^ 63 + l.toInt)) := by
  have hh := BitVec.toInt_signExtend_of_le (x := h) (show 64 ≤ 128 by decide)
  have hll := BitVec.toInt_signExtend_of_le (x := l) (show 64 ≤ 128 by decide)
  have hlt := l.toInt_lt
  rw [BitVec.toInt_eq_toNat_cond (BitVec.signExtend ..)] at hh hll
  have hlow : (l.signExtend 128).toNat < 2 ^ 63 := by
    split at hll <;> omega
  have hs : (h.signExtend 128 <<< 63).toNat = ((h.signExtend 128).toNat % 2 ^ 65) <<< 63 := by
    rw [BitVec.toNat_shiftLeft, Nat.shiftLeft_eq, Nat.shiftLeft_eq]
    omega
  rw [reconstitute, if_neg (by rw [BitVec.slt_iff_toInt_lt]; simpa using hl), Option.some.injEq, ← BitVec.toNat_inj,
    BitVec.toNat_or, hs, ← Nat.shiftLeft_add_eq_or_of_lt hlow, BitVec.toNat_ofInt, Nat.shiftLeft_eq]
  split at hh <;> split at hll <;> omega

end BigIntDivider

namespace BigIntDbProcessor

def fitsI64 (x : Int) : Prop := -2 ^ 63 ≤ x ∧ x < 2 ^ 63

instance (x : Int) : Decidable (fitsI64 x) := inferInstanceAs (Decidable (_ ∧ _))

/-- `column + :change`, unless the column refuses it. -/
def columnSum (column change : Int) : Option Int := if fitsI64 (column + change) then some (column + change) else none

/-- `+` of `i64`. -/
def addI64 (overflowChecks : Bool) (a b : Int) : Option Int :=
  if fitsI64 (a + b) then some (a + b) else if overflowChecks then none else some ((a + b).bmod (2 ^ 64))

/-- Line 191. -/
def correctBytes (overflowChecks : Bool) (former change : WeiColumns) : Option WeiColumns := do
  let high ← addI64 overflowChecks former.1 change.1
  let highBytesCorrection ← addI64 overflowChecks high 1
  return (highBytesCorrection, (former.2 + change.2) % 2 ^ 63)

/-- Line 36, on a row with the columns `former`. -/
def execute (overflowChecks : Bool) (former change : WeiColumns) : Option WeiColumns :=
  match columnSum former.1 change.1, columnSum former.2 change.2 with
  | some high, some low => some (high, low)
  | _, _ => correctBytes overflowChecks former change

/-- Low columns that do not carry. -/
theorem execute_of_lt (checks : Bool) {a b c d : Int} (hh : fitsI64 (a + c)) (hl : fitsI64 (b + d)) :
    execute checks (a, b) (c, d) = some (a + c, b + d) := by
  simp only [execute, columnSum, if_pos hh, if_pos hl]

/-- A carry is refused by the low column, and added in Rust. -/
theorem execute_of_carry (checks : Bool) {a b c d : Int} (hl : ¬fitsI64 (b + d)) (hh : fitsI64 (a + c + 1)) :
    execute checks (a, b) (c, d) = if checks ∧ ¬fitsI64 (a + c) then none else some (a + c + 1, (b + d) % 2 ^ 63) := by
  have he : execute checks (a, b) (c, d) = correctBytes checks (a, b) (c, d) := by
    simp only [execute, columnSum, if_neg hl]
    split <;> simp_all
  rw [he, correctBytes]
  by_cases hs : fitsI64 (a + c)
  · simp [addI64, hs, hh]
  · cases checks with
    | true => simp [addI64, hs]
    | false =>
      -- the sum is one below the least word: it wraps to the greatest, and one more wraps back
      simp only [fitsI64] at hs hh
      obtain hm : a + c = -2 ^ 63 - 1 := by omega
      simp [addI64, fitsI64, hm]

end BigIntDbProcessor

open BigIntDivider BigIntDbProcessor

/-- **The encoding is an order isomorphism** of the numbers in the range and the pairs whose low word is not negative. -/
theorem deconstruct_order_iso (n m : BitVec 128) (h l : BitVec 64) :
    (deconstructWord n = none ↔ ¬SplitInt.InRange n.toInt) ∧
    (SplitInt.InRange n.toInt → (do let p ← deconstructWord n; reconstitute p.1 p.2) = some n) ∧
    (SplitInt.InRange n.toInt → SplitInt.InRange m.toInt → ∃ p q, deconstructWord n = some p ∧
      deconstructWord m = some q ∧
        (n.toInt < m.toInt ↔ toLex (p.1.toInt, p.2.toInt) < toLex (q.1.toInt, q.2.toInt))) ∧
    (0 ≤ l.toInt → ∃! k, deconstructWord k = some (h, l)) := by
  have hnone : ∀ k, deconstructWord k = none ↔ ¬SplitInt.InRange k.toInt := by
    simp only [deconstructWord, topTwoBits_iff, ite_eq_left_iff, reduceCtorEq, imp_false, not_not, implies_true]
  refine ⟨hnone n, fun hn => ?_, fun hn hm => ?_, fun hl => ?_⟩
  · obtain ⟨p, hp, h1, h2⟩ := deconstructWord_eq_some hn
    rw [hp, Option.bind_eq_bind, Option.bind_some, reconstitute_eq (by omega), h1, h2, Int.ediv_mul_add_emod,
      BitVec.ofInt_toInt]
  · obtain ⟨p, hp, hp1, hp2⟩ := deconstructWord_eq_some hn
    obtain ⟨q, hq, hq1, hq2⟩ := deconstructWord_eq_some hm
    refine ⟨p, q, hp, hq, ?_⟩
    rw [Prod.Lex.toLex_lt_toLex, hp1, hp2, hq1, hq2]
    omega
  · have hh := h.le_toInt
    have hh' := h.toInt_lt
    have hl' := l.toInt_lt
    have hk : (BitVec.ofInt 128 (h.toInt * 2 ^ 63 + l.toInt)).toInt = h.toInt * 2 ^ 63 + l.toInt := by
      rw [BitVec.toInt_ofInt, Int.bmod_eq_of_le (by omega) (by omega)]
    obtain ⟨p, hp, hp1, hp2⟩ := deconstructWord_eq_some (n := BitVec.ofInt 128 (h.toInt * 2 ^ 63 + l.toInt))
      (by rw [hk, SplitInt.InRange]; omega)
    have h1 : p.1 = h := BitVec.toInt_inj.1 (by omega)
    have h2 : p.2 = l := BitVec.toInt_inj.1 (by omega)
    have he : p = (h, l) := Prod.ext h1 h2
    refine ⟨_, he ▸ hp, fun k hk' => ?_⟩
    obtain ⟨q, hq, hq1, hq2⟩ := deconstructWord_eq_some (not_not.1 fun hc => by simp [(hnone k).2 hc] at hk')
    obtain rfl := Option.some.inj (hq.symm.trans hk')
    exact BitVec.toInt_inj.1 (by simp only at hq1 hq2; omega)

/-- **Amounts are updated exactly**, unless a checked sum of the high columns overflows before the carry makes up for
it. -/
theorem wei_update_exact_iff (overflowChecks : Bool) (b c : Int) (hb : SplitInt.InRange b) (hc : SplitInt.InRange c)
    (hs : SplitInt.InRange (b + c)) :
    (∃ after, (do execute overflowChecks (← deconstruct b) (← deconstruct c)) = some after ∧
      deconstruct (b + c) = some after ∧ 0 ≤ after.2 ∧ after.2 < 2 ^ 63) ↔
      (overflowChecks → -2 ^ 63 ≤ b / 2 ^ 63 + c / 2 ^ 63) := by
  have hd : deconstruct (b + c) = some ((b + c) / 2 ^ 63, (b + c) % 2 ^ 63) := if_pos hs
  rw [hd, show deconstruct b = some (b / 2 ^ 63, b % 2 ^ 63) from if_pos hb,
    show deconstruct c = some (c / 2 ^ 63, c % 2 ^ 63) from if_pos hc]
  simp only [SplitInt.InRange, Option.bind_eq_bind, Option.bind_some] at hb hc hs ⊢
  have hlow : 0 ≤ (b + c) % 2 ^ 63 ∧ (b + c) % 2 ^ 63 < 2 ^ 63 := by omega
  refine Iff.trans ⟨?_, fun h => ⟨_, h, rfl, hlow⟩⟩ (?_ : _ = some ((b + c) / 2 ^ 63, (b + c) % 2 ^ 63) ↔ _)
  · rintro ⟨after, ha, hd', -⟩
    rw [ha, hd']
  by_cases hl : b % 2 ^ 63 + c % 2 ^ 63 < 2 ^ 63
  · rw [execute_of_lt _ (by simp only [fitsI64]; omega) (by simp only [fitsI64]; omega), Option.some.injEq,
      Prod.mk.injEq]
    omega
  · rw [execute_of_carry _ (by simp only [fitsI64]; omega) (by simp only [fitsI64]; omega)]
    have he : (b / 2 ^ 63 + c / 2 ^ 63 + 1, (b % 2 ^ 63 + c % 2 ^ 63) % 2 ^ 63) =
        ((b + c) / 2 ^ 63, (b + c) % 2 ^ 63) := by
      rw [Prod.mk.injEq]
      omega
    have hf : fitsI64 (b / 2 ^ 63 + c / 2 ^ 63) ↔ -2 ^ 63 ≤ b / 2 ^ 63 + c / 2 ^ 63 := by
      simp only [fitsI64]
      omega
    simp only [he, hf, ite_eq_right_iff, reduceCtorEq, imp_false, not_and, not_not]

/-- The least amount is reached from the one above it in a build that wraps. -/
theorem wei_update_exact_sample : ∃ after,
    (do execute false (← deconstruct (1 - 2 ^ 126)) (← deconstruct (-1))) = some after ∧
      deconstruct (1 - 2 ^ 126 + -1) = some after ∧ 0 ≤ after.2 ∧ after.2 < 2 ^ 63 :=
  (wei_update_exact_iff false (1 - 2 ^ 126) (-1) (by decide) (by decide) (by decide)).2 (by simp)

/-- With overflow checks the same update panics. -/
theorem wei_update_panics : SplitInt.InRange (1 - 2 ^ 126) ∧ SplitInt.InRange (-1) ∧
    SplitInt.InRange (1 - 2 ^ 126 + -1) ∧
      (do execute true (← deconstruct (1 - 2 ^ 126)) (← deconstruct (-1))) = none := by decide

end MasqMobile
