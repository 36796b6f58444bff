import MasqMobile.Settlement.Batch

/-!
# What a settlement batch adds up to

A batch shows its money three times: as a total, by payout wallet, and claim by claim for the settlement contract. The
loop of `from_verified` keeps the first two equal to the sums of the claims it has seen (`Sums`), and stops with
`AmountOverflow` where the total leaves 128 bits; a payout is part of the total and cannot overflow before it.
-/

namespace MasqMobile

open Fallible Lists

namespace ReceiptSettlementBatch

variable {P : Primitives} {cr : CryptDE} {cid now : Nat} {con : Address}

/-! ## The loop -/

structure Sums (l : List VerifiedReceiptSettlementClaim) (t : Totals) : Prop where
  payouts : Tallies (·.payoutWalletAddress) (·.cumulativeChargeWei) l t.payoutTotals
  total : t.totalClaimedWei = (l.map (·.cumulativeChargeWei)).sum

variable {l : List VerifiedReceiptSettlementClaim} {t : Totals}

theorem sums_nil : Sums [] ⟨∅, 0⟩ := ⟨tallies_nil, rfl⟩

variable {c : VerifiedReceiptSettlementClaim}

/-- One more claim that fits. -/
theorem Sums.add (h : Sums l t) (hf : t.totalClaimedWei + c.cumulativeChargeWei < 2 ^ 128) :
    ∃ t', t.add c = .ok t' ∧ Sums (l ++ [c]) t' := by
  have hp : t.payoutTotals.getD c.payoutWalletAddress 0 ≤ t.totalClaimedWei := by
    rw [h.payouts.getD, h.total]
    exact sumAt_le _ _ l _
  refine ⟨⟨_, t.totalClaimedWei + c.cumulativeChargeWei⟩, ?_, h.payouts.insert c, ?_⟩
  · simp only [Totals.add, bind_eq_ok, okOr_eq_ok, checkedAdd_eq_some_iff, pure_eq_ok]
    exact ⟨_, ⟨hf, rfl⟩, _, ⟨by omega, rfl⟩, rfl⟩
  · simp [h.total]

theorem add_eq_amountOverflow (h : 2 ^ 128 ≤ t.totalClaimedWei + c.cumulativeChargeWei) :
    t.add c = .error .amountOverflow := by
  have hn : checkedAdd 128 t.totalClaimedWei c.cumulativeChargeWei = none := if_neg (by omega)
  rw [Totals.add, hn]
  rfl

/-- From the totals of some claims, the loop goes on to those of all of them, as long as they fit. -/
theorem Sums.fold_of_lt (rest : List VerifiedReceiptSettlementClaim) (h : Sums l t)
    (hf : ((l ++ rest).map (·.cumulativeChargeWei)).sum < 2 ^ 128) :
    ∃ t', rest.foldlM Totals.add t = .ok t' ∧ Sums (l ++ rest) t' := by
  induction rest generalizing l t with
  | nil => exact ⟨t, rfl, by simpa using h⟩
  | cons claim rest ih =>
    have hn : t.totalClaimedWei + claim.cumulativeChargeWei < 2 ^ 128 := by
      simp only [List.map_append, List.sum_append, List.map_cons, List.sum_cons, ← h.total] at hf
      omega
    obtain ⟨t₁, ha, h₁⟩ := h.add hn
    obtain ⟨t', hfo, h'⟩ := ih h₁ (by simpa using hf)
    refine ⟨t', ?_, by simpa using h'⟩
    rw [List.foldlM_cons, ha]
    exact hfo

/-- Where they do not fit, it overflows. -/
theorem Sums.fold_of_le (rest : List VerifiedReceiptSettlementClaim) (h : Sums l t)
    (hf : (l.map (·.cumulativeChargeWei)).sum < 2 ^ 128)
    (he : 2 ^ 128 ≤ ((l ++ rest).map (·.cumulativeChargeWei)).sum) :
    rest.foldlM Totals.add t = .error .amountOverflow := by
  induction rest generalizing l t with
  | nil => exact absurd he (by simpa using hf)
  | cons claim rest ih =>
    rw [List.foldlM_cons]
    by_cases hn : t.totalClaimedWei + claim.cumulativeChargeWei < 2 ^ 128
    · obtain ⟨t₁, ha, h₁⟩ := h.add hn
      rw [ha]
      exact ih h₁ (by simpa [h.total] using hn) (by simpa using he)
    · rw [add_eq_amountOverflow (by omega)]
      rfl

/-! ## The batch -/

/-- The three views of a batch's money agree with its claims and with each other. -/
structure Conserves (P : Primitives) (b : ReceiptSettlementBatch) : Prop where
  total : b.totalClaimedWei = (b.claims.map (·.receipt.cumulativeChargeWei)).sum
  totalPaidOut : b.totalClaimedWei = (b.payouts.map (·.amountWei)).sum
  totalOnContract : b.totalClaimedWei = (b.contractClaims.map (·.cumulativeChargeWei)).sum
  ascending : b.payouts.Pairwise fun p q => p.payoutWalletAddress < q.payoutWalletAddress
  payout : ∀ p ∈ b.payouts, p.amountWei =
    ((b.claims.filter fun c => c.providerSettlement.policy.payoutWalletAddress = p.payoutWalletAddress).map
      (·.receipt.cumulativeChargeWei)).sum
  payees : ∀ address, (∃ p ∈ b.payouts, p.payoutWalletAddress = address) ↔
    ∃ c ∈ b.claims, c.providerSettlement.policy.payoutWalletAddress = address
  projections : b.contractClaims.Perm (b.claims.map fun c => (c.verified P).contractClaim P)

theorem compare_eq_lt_iff {w : Nat} {x y : BitVec w} : compare x y = .lt ↔ x < y := by
  simp only [compare, compareOfLessAndEq]
  split
  · simp [*]
  · split <;> simp [*]

variable {pairs : List (ReceiptSettlementClaim × Nat)} {b : ReceiptSettlementBatch}

/-- What is assembled from the totals of its claims conserves them. -/
theorem conserves_assemble (h : Sums ((pairs.map (·.1)).map (·.verified P)) t) :
    Conserves P (assemble P cid con (pairs.map (verifiedPair P)) t) := by
  have hch : ((pairs.map (·.1)).map (·.verified P)).map (·.cumulativeChargeWei) =
      (pairs.map (·.1)).map (·.receipt.cumulativeChargeWei) := by
    rw [List.map_map]
    rfl
  have ht : t.totalClaimedWei = ((pairs.map (·.1)).map (·.receipt.cumulativeChargeWei)).sum := hch ▸ h.total
  have ha : ∀ address, sumAt (·.payoutWalletAddress) (·.cumulativeChargeWei) ((pairs.map (·.1)).map (·.verified P))
      address = (((pairs.map (·.1)).filter fun c =>
        c.providerSettlement.policy.payoutWalletAddress = address).map (·.receipt.cumulativeChargeWei)).sum := by
    intro address
    rw [sumAt, List.filter_map, List.map_map]
    rfl
  have hpr : (assemble P cid con (pairs.map (verifiedPair P)) t).contractClaims.Perm
      ((pairs.map (·.1)).map fun c => (c.verified P).contractClaim P) := by
    refine (sortBy_perm _ _).trans (List.Perm.of_eq ?_)
    rw [List.map_map, List.map_map]
    rfl
  constructor
  case total => rw [claims_assemble]; exact ht
  case totalPaidOut =>
    have hpa : (assemble P cid con (pairs.map (verifiedPair P)) t).payouts.map (·.amountWei) =
        t.payoutTotals.toList.map (·.2) := by
      simp only [assemble, List.map_map]
      rfl
    rw [hpa, h.payouts.sum_toList]
    exact h.total
  case totalOnContract =>
    rw [(hpr.map _).sum_eq, List.map_map]
    exact ht
  case ascending =>
    have hk := t.payoutTotals.ordered_keys
    rw [← Std.TreeMap.map_fst_toList_eq_keys, List.pairwise_map] at hk
    exact List.pairwise_map.2 (hk.imp compare_eq_lt_iff.1)
  case payout =>
    intro p hp
    obtain ⟨⟨address, amount⟩, he, rfl⟩ := List.mem_map.1 hp
    rw [claims_assemble, ← ha]
    exact (h.payouts.mem_toList_iff.1 he).2
  case payees =>
    intro address
    rw [claims_assemble]
    constructor
    · rintro ⟨p, hp, rfl⟩
      obtain ⟨⟨address, amount⟩, he, rfl⟩ := List.mem_map.1 hp
      obtain ⟨v, hv, heq⟩ := List.mem_map.1 (h.payouts.mem_toList_iff.1 he).1
      obtain ⟨c, hc, rfl⟩ := List.mem_map.1 hv
      exact ⟨c, hc, heq⟩
    · rintro ⟨c, hc, rfl⟩
      have hv := List.mem_map_of_mem (f := (·.payoutWalletAddress)) (List.mem_map_of_mem (f := (·.verified P)) hc)
      exact ⟨_, List.mem_map_of_mem (h.payouts.mem_toList_iff.2 ⟨hv, rfl⟩), rfl⟩
  case projections => rw [claims_assemble]; exact hpr

def chargesOf (pairs : List (ReceiptSettlementClaim × Nat)) : Nat := (pairs.map (·.1.receipt.cumulativeChargeWei)).sum

/-- The loop runs over the verified claims of the batch, whose charges are those of the input. -/
theorem sum_canonicalOrder (P : Primitives) (pairs : List (ReceiptSettlementClaim × Nat)) :
    ((([] : List VerifiedReceiptSettlementClaim) ++ ((canonicalOrder P pairs).map (verifiedPair P)).map (·.1)).map
      (·.cumulativeChargeWei)).sum = chargesOf pairs := by
  rw [List.nil_append, List.map_map, List.map_map]
  exact ((sortBy_perm _ pairs).map _).sum_eq

/-- **Money is conserved** by every build. -/
theorem conserves_of_buildFromAccepted (h : buildFromAccepted P pairs cid con now cr = .ok b) :
    Conserves P b ∧ b.claims.Perm (pairs.map (·.1)) := by
  obtain ⟨-, t, ht, rfl⟩ := buildFromAccepted_eq_ok_iff.1 h
  rw [totals_eq_fold] at ht
  have hf : chargesOf pairs < 2 ^ 128 := by
    by_contra hexc
    have he := sums_nil.fold_of_le _ (by simp) ((Nat.le_of_not_lt hexc).trans_eq (sum_canonicalOrder P pairs).symm)
    rw [ht] at he
    cases he
  obtain ⟨t', hfo, hs⟩ := sums_nil.fold_of_lt _ ((sum_canonicalOrder P pairs).trans_lt hf)
  obtain rfl : t = t' := Except.ok.inj (ht.symm.trans hfo)
  rw [List.nil_append, map_verifiedPair_fst] at hs
  refine ⟨conserves_assemble hs, ?_⟩
  rw [claims_assemble]
  exact (sortBy_perm _ pairs).map _

/-- **When a build overflows**: it gets past every other check, and the charges do not fit into 128 bits. -/
theorem buildFromAccepted_eq_amountOverflow_iff : buildFromAccepted P pairs cid con now cr = .error .amountOverflow ↔
      Admissible P cid con now cr pairs ∧ u128Max < chargesOf pairs := by
  have hm : u128Max < chargesOf pairs ↔ 2 ^ 128 ≤ chargesOf pairs := by
    unfold u128Max
    omega
  rw [buildFromAccepted_eq, bind_eq_error, hm]
  constructor
  · rintro (he | ⟨verified, had, he⟩)
    · exact absurd he admitted_ne_amountOverflow
    · obtain ⟨ha, rfl⟩ := admitted_eq_ok_iff.1 had
      refine ⟨ha, ?_⟩
      by_contra hf
      obtain ⟨t', hfo, -⟩ := sums_nil.fold_of_lt _ ((sum_canonicalOrder P pairs).trans_lt (Nat.lt_of_not_le hf))
      rw [totals_eq_fold, hfo] at he
      cases he
  · rintro ⟨ha, hexc⟩
    refine .inr ⟨_, admitted_eq_ok_iff.2 ⟨ha, rfl⟩, ?_⟩
    rw [totals_eq_fold, sums_nil.fold_of_le _ (by simp) (hexc.trans_eq (sum_canonicalOrder P pairs).symm)]
    rfl

/-- **Batches conserve money.** Every batch that `buildFromAccepted` or `build` returns shows the charges of its
claims three times over, and either fails with `AmountOverflow` exactly on the inputs that pass every other check and
whose charges exceed `u128::MAX`. -/
theorem batch_conserves_money (P : Primitives) (cid : Nat) (con : Address) (now : Nat) (cr : CryptDE) :
    (∀ (pairs : List (ReceiptSettlementClaim × Nat)) (b : ReceiptSettlementBatch),
      buildFromAccepted P pairs cid con now cr = .ok b → Conserves P b ∧ b.claims.Perm (pairs.map (·.1))) ∧
    (∀ (claims : List ReceiptSettlementClaim) (b : ReceiptSettlementBatch),
      build P claims cid con now cr = .ok b → Conserves P b ∧ b.claims.Perm claims) ∧
    (∀ pairs : List (ReceiptSettlementClaim × Nat), buildFromAccepted P pairs cid con now cr = .error .amountOverflow ↔
        Admissible P cid con now cr pairs ∧ u128Max < (pairs.map (·.1.receipt.cumulativeChargeWei)).sum) ∧
    (∀ claims : List ReceiptSettlementClaim, build P claims cid con now cr = .error .amountOverflow ↔
        Admissible P cid con now cr (claims.map fun c => (c, now)) ∧
          u128Max < (claims.map (·.receipt.cumulativeChargeWei)).sum) := by
  refine ⟨fun pairs b => conserves_of_buildFromAccepted, fun claims b h => ?_,
    fun pairs => buildFromAccepted_eq_amountOverflow_iff, fun claims => ?_⟩
  · rw [build_eq_buildFromAccepted] at h
    have hc : (claims.map fun c => (c, now)).map (·.1) = claims := by
      rw [List.map_map]
      exact List.map_id claims
    exact hc ▸ conserves_of_buildFromAccepted h
  · rw [build_eq_buildFromAccepted, buildFromAccepted_eq_amountOverflow_iff, chargesOf, List.map_map]
    rfl

/-- Two claims of one payee are paid out in one sum. -/
theorem batch_conserves_money_two_claims : ∃ b,
    build .accepting [sampleClaim 2 5, sampleClaim 3 7] 1 1 30 ⟨[9], []⟩ = .ok b ∧ Conserves .accepting b ∧
      b.claims.Perm [sampleClaim 2 5, sampleClaim 3 7] := by
  have hbu : verdict (build .accepting [sampleClaim 2 5, sampleClaim 3 7] 1 1 30 ⟨[9], []⟩) = .ok () := by
    decide +kernel
  obtain ⟨b, hb⟩ := verdict_eq_ok.1 hbu
  exact ⟨b, hb, (batch_conserves_money .accepting 1 1 30 ⟨[9], []⟩).2.1 _ b hb⟩

/-- Charges beyond `u128::MAX` alone do not make a build fail with `AmountOverflow`: the ids are compared first. -/
theorem batch_overflow_after_duplicates : u128Max < ((List.replicate 5 (sampleClaim 2 maxReceiptSessionChargeWei)).map
      (·.receipt.cumulativeChargeWei)).sum ∧
    build .accepting (List.replicate 5 (sampleClaim 2 maxReceiptSessionChargeWei)) 1 1 30 ⟨[9], []⟩ =
      .error (.duplicateClaim 2) := by
  decide +kernel

end ReceiptSettlementBatch

end MasqMobile
