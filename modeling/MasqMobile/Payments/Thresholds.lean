import MasqMobile.Payments.PayableScan

/-!
# The limit of payables

The limit of a debt is a line that falls from `debt_threshold` to `permanent_debt_allowed` within `threshold_interval`.
Computed in words of 128 bits, it is the exact line for all thresholds of the documented range.
-/

namespace MasqMobile

open Fallible PayableScanner

namespace PaymentThresholds

def debtWei (t : PaymentThresholds) : Nat := gweiToWei t.debtThresholdGwei

def permanentWei (t : PaymentThresholds) : Nat := gweiToWei t.permanentDebtAllowedGwei

/-- The slope before it is cut to an `i64`. -/
def exactSlope (t : PaymentThresholds) : Int := ((t.permanentWei : Int) - t.debtWei).tdiv t.thresholdIntervalSec

/-- What the line falls by in a second. -/
def fall (t : PaymentThresholds) : Nat := (t.debtWei - t.permanentWei) / t.thresholdIntervalSec

/-- The limit of a debt as an exact number. -/
def debtLimit (t : PaymentThresholds) (age : Nat) : Nat :=
  if t.maturityThresholdSec + t.thresholdIntervalSec < age then t.permanentWei
  else t.debtWei - t.fall * (age - t.maturityThresholdSec)

variable {t : PaymentThresholds} {age k : Nat}

theorem slope_eq (hi : t.thresholdIntervalSec ≠ 0) : ThresholdUtils.slope t = .ok t.exactSlope := by
  simp only [ThresholdUtils.slope, failIf, if_neg hi]
  rfl

section

variable (hp : t.permanentDebtAllowedGwei < t.debtThresholdGwei)
include hp

theorem permanentWei_le : t.permanentWei ≤ t.debtWei := Nat.mul_le_mul_right _ hp.le

theorem exactSlope_eq : t.exactSlope = -t.fall := by
  have hr : (t.permanentWei : Int) - t.debtWei = -((t.debtWei - t.permanentWei : Nat) : Int) := by
    have := permanentWei_le hp
    omega
  rw [exactSlope, hr, Int.neg_tdiv]
  rfl

theorem fall_mul_le (hk : k ≤ t.thresholdIntervalSec) : t.permanentWei + t.fall * k ≤ t.debtWei := by
  have hd := permanentWei_le hp
  have hm : t.fall * k ≤ t.fall * t.thresholdIntervalSec := Nat.mul_le_mul_left _ hk
  have hq : t.fall * t.thresholdIntervalSec ≤ _ := Nat.div_mul_le_self _ _
  omega

theorem debtLimit_antitoneOn : AntitoneOn t.debtLimit (Set.Ici t.maturityThresholdSec) := by
  intro age ha age' ha' hle
  simp only [Set.mem_Ici] at ha ha'
  unfold debtLimit
  split_ifs with h' h h
  · exact le_rfl
  · -- the step from the line down to the permanent debt
    have hf := fall_mul_le (k := age - t.maturityThresholdSec) hp (by omega)
    omega
  · omega
  · exact Nat.sub_le_sub_left (Nat.mul_le_mul_left _ (by omega)) _

theorem debtLimit_mem : t.permanentWei ≤ t.debtLimit age ∧ t.debtLimit age ≤ t.debtWei := by
  unfold debtLimit
  split_ifs with h
  · exact ⟨le_rfl, permanentWei_le hp⟩
  · have hf := fall_mul_le (k := age - t.maturityThresholdSec) hp (by omega)
    omega

end

end PaymentThresholds

open PaymentThresholds

namespace ThresholdUtils

/-- Whatever overflows on the way, the words end at the exact limit. -/
theorem calculateFiniteDebtLimitByAge_eq {t : PaymentThresholds} {age : Nat}
    (hp : t.permanentDebtAllowedGwei < t.debtThresholdGwei) (hd : t.debtThresholdGwei < 2 ^ 64)
    (hi : t.thresholdIntervalSec ≠ 0) (hs : t.maturityThresholdSec + t.thresholdIntervalSec < 2 ^ 64)
    (ha : t.maturityThresholdSec ≤ age) : calculateFiniteDebtLimitByAge t age = .ok (t.debtLimit age) := by
  have hq : qualifiesForPermanentDebtLimit age t = decide (t.maturityThresholdSec + t.thresholdIntervalSec < age) := by
    rw [qualifiesForPermanentDebtLimit, wrappingAdd, Nat.mod_eq_of_lt hs]
  unfold calculateFiniteDebtLimitByAge debtLimit
  rw [hq]
  by_cases h : t.maturityThresholdSec + t.thresholdIntervalSec < age
  · rw [if_pos (decide_eq_true h), if_pos h]
    rfl
  · obtain ⟨k, rfl⟩ := Nat.exists_eq_add_of_le ha
    have hf := fall_mul_le (k := k) hp (by omega)
    have hw : BitVec.ofInt 128 (-t.fall) * BitVec.ofNat 128 (t.maturityThresholdSec + k) +
        computeTheoreticalInterceptionWithYAxis (BitVec.ofInt 128 (-t.fall))
          (BitVec.ofNat 128 t.maturityThresholdSec) (BitVec.ofNat 128 t.debtWei) =
        BitVec.ofNat 128 (t.debtWei - t.fall * k) := by
      obtain ⟨y, hy⟩ := Nat.exists_eq_add_of_le (le_trans (Nat.le_add_left _ _) hf)
      rw [hy, Nat.add_sub_cancel_left, computeTheoreticalInterceptionWithYAxis, BitVec.ofInt_neg, BitVec.ofInt_natCast,
        BitVec.ofNat_add, BitVec.ofNat_add, BitVec.ofNat_mul]
      ring
    have hlt : t.debtWei - t.fall * k < 2 ^ 128 := by
      refine (Nat.sub_le _ _).trans_lt ?_
      calc t.debtWei ≤ 2 ^ 64 * 2 ^ 30 := Nat.mul_le_mul hd.le (by norm_num)
        _ < 2 ^ 128 := by norm_num
    rw [if_neg (by simpa using h), if_neg h, slope_eq hi, exactSlope_eq hp, Nat.add_sub_cancel_left]
    change Except.ok (BitVec.toNat _) = _
    rw [← debtWei, hw, BitVec.toNat_ofNat, Nat.mod_eq_of_lt hlt]

end ThresholdUtils

/-- **The limit of payables** never rises with the age of a debt above maturity, stays between the permanent debt and
the threshold and ends at the permanent debt; so a debt that is to be paid is to be paid when it is older or larger. -/
theorem payable_threshold_curve (t : PaymentThresholds) (hp : t.permanentDebtAllowedGwei < t.debtThresholdGwei)
    (hd : t.debtThresholdGwei < 2 ^ 64) (hi : 1 ≤ t.thresholdIntervalSec)
    (hs : t.maturityThresholdSec + t.thresholdIntervalSec < 2 ^ 64) : ∃ limit : Nat → Nat,
      (∀ age, t.maturityThresholdSec ≤ age → ThresholdUtils.calculateFiniteDebtLimitByAge t age = .ok (limit age)) ∧
      AntitoneOn limit (Set.Ici t.maturityThresholdSec) ∧
      (∀ age, t.maturityThresholdSec ≤ age → t.permanentWei ≤ limit age ∧ limit age ≤ t.debtWei) ∧
      (∀ age, t.maturityThresholdSec + t.thresholdIntervalSec < age → limit age = t.permanentWei) ∧
      ∀ now now' (debt debt' : PayableAccount) x, payableExceededThreshold t now debt = .ok (some x) →
        debt'.lastPaidTimestamp ≤ now' → now - debt.lastPaidTimestamp ≤ now' - debt'.lastPaidTimestamp →
        debt.balanceWei ≤ debt'.balanceWei → ∃ y, payableExceededThreshold t now' debt' = .ok (some y) := by
  have hc : ∀ age, t.maturityThresholdSec ≤ age →
      ThresholdUtils.calculateFiniteDebtLimitByAge t age = .ok (t.debtLimit age) :=
    fun age => ThresholdUtils.calculateFiniteDebtLimitByAge_eq hp hd (by omega) hs
  refine ⟨t.debtLimit, hc, debtLimit_antitoneOn hp, fun _ _ => debtLimit_mem hp, fun age h => if_pos h, ?_⟩
  intro now now' debt debt' x hx hn hage hbal
  simp only [payableExceededThreshold, bind_eq_ok, failIf_eq_ok] at hx
  obtain ⟨_, hpast, hx⟩ := hx
  split_ifs at hx with hm hb
  · cases hx
  · cases hx
  · rw [hc _ (by omega)] at hx
    have hl := debtLimit_antitoneOn hp (not_le.1 hm).le ((not_le.1 hm).le.trans hage) hage
    have hlt : t.debtLimit (now - debt.lastPaidTimestamp) < debt.balanceWei := by
      by_contra hge
      simp [hge] at hx
    refine ⟨t.debtLimit (now' - debt'.lastPaidTimestamp), ?_⟩
    simp only [payableExceededThreshold, failIf]
    rw [if_neg (by omega), if_neg (by omega), if_neg (by omega), hc _ (by omega)]
    exact congrArg Except.ok (if_pos (by omega))

theorem payable_threshold_curve_sample : ∃ limit : Nat → Nat,
    ThresholdUtils.calculateFiniteDebtLimitByAge ⟨10, 100, 2, 50⟩ 120 = .ok (limit 120) ∧ limit 151 = 2000000000 := by
  obtain ⟨limit, hc, -, -, hl, -⟩ :=
    payable_threshold_curve ⟨10, 100, 2, 50⟩ (by decide) (by decide) (by decide) (by decide)
  exact ⟨limit, hc 120 (by decide), hl 151 (by decide)⟩

end MasqMobile
