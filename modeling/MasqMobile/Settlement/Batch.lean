import MasqMobile.Lib.MerkleTree
import MasqMobile.Lib.SortBy
import MasqMobile.Lib.Tally
import MasqMobile.Receipt.ProviderSettlement
import MasqMobile.Settlement.Tables

/-!
# Settlement batches

`node/src/sub_lib/receipt_settlement.rs`. A provider turns its accepted receipts into a batch: every claim
is verified again, ordered by the hash of its CBOR, summed by payout wallet, and committed to by two Merkle
roots, one over the portable claims and one over what the settlement contract sees of them.

`BTreeMap` is `Std.TreeMap`; `sort_by_key` is `Lists.sortBy`; the `BTreeSet` of claim ids is the list of the
ids seen so far.
-/

namespace MasqMobile

open Fallible Lists AuthorizedProviderSettlement

/-- receipt_settlement.rs:73 -/
structure VerifiedReceiptSettlementClaim where
  claim : ReceiptSettlementClaim
  claimId : Bytes32
  leafHash : Bytes32
  payoutWalletAddress : Address
  cumulativeChargeWei : Nat
  deriving DecidableEq

/-- receipt_settlement.rs:89 -/
structure ReceiptSettlementPayout where
  payoutWalletAddress : Address
  amountWei : Nat
  deriving DecidableEq

/-- receipt_settlement.rs:104 -/
structure ReceiptSettlementContractClaim where
  claimId : Bytes32
  sessionId : Bytes32
  payerWalletAddress : Address
  payoutWalletAddress : Address
  cumulativeChargeWei : Nat
  deriving DecidableEq

/-- receipt_settlement.rs:122 -/
structure ReceiptSettlementBatch where
  chainId : Nat
  settlementContract : Address
  claims : List ReceiptSettlementClaim
  claimAcceptedAtUnixS : List Nat
  leafHashes : List Bytes32
  merkleRoot : Bytes32
  payouts : List ReceiptSettlementPayout
  totalClaimedWei : Nat
  contractClaims : List ReceiptSettlementContractClaim
  contractLeafHashes : List Bytes32
  contractMerkleRoot : Bytes32
  deriving DecidableEq

/-- receipt_settlement.rs:158; CBOR cannot fail on a claim, so `Serialization` does not arise. -/
inductive ReceiptSettlementError where
  | acceptanceTimeCountMismatch (claimCount acceptanceTimeCount : Nat)
  | acceptanceTimeInFuture (acceptedAtUnixS : Nat)
  | amountOverflow
  | artifactMismatch
  | duplicateClaim (claimId : Bytes32)
  | emptyBatch
  | receipt (error : ServiceReceiptError)
  deriving DecidableEq

/-! ## Hashes -/

def addressBytes (address : Address) : List UInt8 := (addressWord address).drop 12

def u128Bytes (value : Nat) : List UInt8 := (uintWord value).drop 16

/-- The bytes whose hash is a parent in one of the two trees. -/
def nodeBytes (domain : String) (left right : Bytes32) : List UInt8 :=
  bytesOf domain ++ wordBytes left ++ wordBytes right

variable (P : Primitives)

/-- `level[0]` panics without leaves; neither builder passes an empty batch on. -/
def domainRoot (domain : String) (leaves : List Bytes32) : Bytes32 :=
  (MerkleTree.root (fun left right => P.keccak256 (nodeBytes domain left right)) leaves).getD 0

/-- receipt_settlement.rs:476 -/
def merkleRoot (leaves : List Bytes32) : Bytes32 := domainRoot P "MASQ_SETTLEMENT_NODE_V1\x00" leaves

/-- receipt_settlement.rs:492 -/
def contractMerkleRoot (leaves : List Bytes32) : Bytes32 := domainRoot P "MASQ_ONCHAIN_SETTLEMENT_NODE_V1\x00" leaves

namespace ReceiptSettlementContractClaim

def leafBytes (c : ReceiptSettlementContractClaim) (chainId : Nat) (settlementContract : Address) : List UInt8 :=
  bytesOf "MASQ_ONCHAIN_SETTLEMENT_LEAF_V1\x00" ++ uintWord chainId ++ addressBytes settlementContract ++
    (wordBytes c.claimId ++ (wordBytes c.sessionId ++ addressBytes c.payerWalletAddress ++
      addressBytes c.payoutWalletAddress ++ u128Bytes c.cumulativeChargeWei))

/-- receipt_settlement.rs:291 -/
def leafHash (P : Primitives) (c : ReceiptSettlementContractClaim) (chainId : Nat) (settlementContract : Address) :
    Bytes32 :=
  P.keccak256 (c.leafBytes chainId settlementContract)

end ReceiptSettlementContractClaim

/-! ## Claims -/

namespace ReceiptSettlementClaim

def receipt (c : ReceiptSettlementClaim) : ServiceReceipt := c.receiptPayload.receipt

variable (P : Primitives) (c : ReceiptSettlementClaim)

/-- receipt_settlement.rs:263 -/
def claimId : Bytes32 := receiptSettlementClaimId P c.receiptPayload

def leafBytes : List UInt8 :=
  bytesOf "MASQ_SETTLEMENT_LEAF_V1\x00" ++ P.claimCbor c

/-- receipt_settlement.rs:267 -/
def leafHash : Bytes32 := P.keccak256 (c.leafBytes P)

/-- receipt_settlement.rs:230: the payer's side at the time of acceptance, the provider's side now. -/
def verifyAt (expectedChainId : Nat)
    (expectedSettlementContract : Address) (receiptAcceptedAtUnixS providerAuthorizationNowUnixS : Nat)
    (receiptCryptde : CryptDE) : Except ReceiptSettlementError VerifiedReceiptSettlementClaim := do
  let acknowledgedReceipt := c.receiptPayload.acknowledgedReceipt
  let _ ← mapErr .receipt (c.receiptPayload.authorization.verifyForReceipt P acknowledgedReceipt receiptCryptde
    expectedChainId expectedSettlementContract receiptAcceptedAtUnixS)
  let receipt := acknowledgedReceipt.signedReceipt.receipt
  let payoutWalletAddress ← mapErr .receipt (c.providerSettlement.verify P expectedChainId expectedSettlementContract
    receipt.providerPublicKey providerAuthorizationNowUnixS receiptCryptde)
  return { claim := c, claimId := c.claimId P, leafHash := c.leafHash P, payoutWalletAddress,
           cumulativeChargeWei := receipt.cumulativeChargeWei }

/-- receipt_settlement.rs:211 -/
def verify (expectedChainId : Nat) (expectedSettlementContract : Address)
    (nowUnixS : Nat) (receiptCryptde : CryptDE) : Except ReceiptSettlementError VerifiedReceiptSettlementClaim :=
  c.verifyAt P expectedChainId expectedSettlementContract nowUnixS nowUnixS receiptCryptde

end ReceiptSettlementClaim

/-- receipt_settlement.rs:275 -/
def VerifiedReceiptSettlementClaim.contractClaim (v : VerifiedReceiptSettlementClaim) :
    ReceiptSettlementContractClaim :=
  let authorization := v.claim.receiptPayload.authorization.policy
  { claimId := v.claimId,
    sessionId := receiptSessionContractId P authorization.payerWalletAddress authorization.authorizationNonce,
    payerWalletAddress := authorization.payerWalletAddress, payoutWalletAddress := v.payoutWalletAddress,
    cumulativeChargeWei := v.cumulativeChargeWei }

/-! ## Batches -/

namespace ReceiptSettlementBatch

/-- The first loop of `from_verified` (receipt_settlement.rs:408). -/
def refuseDuplicates : List Bytes32 → List (VerifiedReceiptSettlementClaim × Nat) → Except ReceiptSettlementError Unit
  | _, [] => .ok ()
  | claimIds, (claim, _) :: rest => do
    failIf (claim.claimId ∈ claimIds) (.duplicateClaim claim.claimId)
    refuseDuplicates (claim.claimId :: claimIds) rest

/-- `payout_totals` and `total_claimed_wei` of `from_verified`. -/
structure Totals where
  payoutTotals : Std.TreeMap Address Nat
  totalClaimedWei : Nat

/-- One round of the second loop of `from_verified` (receipt_settlement.rs:417). -/
def Totals.add (t : Totals) (claim : VerifiedReceiptSettlementClaim) : Except ReceiptSettlementError Totals := do
  let totalClaimedWei ← okOr (checkedAdd 128 t.totalClaimedWei claim.cumulativeChargeWei) .amountOverflow
  let currentPayout := t.payoutTotals.getD claim.payoutWalletAddress 0
  let currentPayout ← okOr (checkedAdd 128 currentPayout claim.cumulativeChargeWei) .amountOverflow
  return ⟨t.payoutTotals.insert claim.payoutWalletAddress currentPayout, totalClaimedWei⟩

/-- The second loop of `from_verified`. -/
def totals (verified : List (VerifiedReceiptSettlementClaim × Nat)) : Except ReceiptSettlementError Totals :=
  verified.foldlM (fun t v => t.add v.1) ⟨∅, 0⟩

variable (P : Primitives)

/-- The rest of `from_verified` (receipt_settlement.rs:428), which cannot fail. -/
def assemble (expectedChainId : Nat) (expectedSettlementContract : Address)
    (verified : List (VerifiedReceiptSettlementClaim × Nat)) (t : Totals) : ReceiptSettlementBatch :=
  let leafHashes := verified.map (·.1.leafHash)
  let contractClaims := sortBy (·.leafHash P expectedChainId expectedSettlementContract)
    (verified.map (·.1.contractClaim P))
  let contractLeafHashes := contractClaims.map (·.leafHash P expectedChainId expectedSettlementContract)
  { chainId := expectedChainId, settlementContract := expectedSettlementContract,
    claims := verified.map (·.1.claim), claimAcceptedAtUnixS := verified.map (·.2),
    leafHashes, merkleRoot := MasqMobile.merkleRoot P leafHashes,
    payouts := t.payoutTotals.toList.map fun e => ⟨e.1, e.2⟩,
    totalClaimedWei := t.totalClaimedWei,
    contractClaims, contractLeafHashes, contractMerkleRoot := MasqMobile.contractMerkleRoot P contractLeafHashes }

/-- receipt_settlement.rs:402 -/
def fromVerified (verified : List (VerifiedReceiptSettlementClaim × Nat)) (expectedChainId : Nat)
    (expectedSettlementContract : Address) : Except ReceiptSettlementError ReceiptSettlementBatch := do
  refuseDuplicates [] verified
  let verified := sortBy (·.1.leafHash) verified
  let t ← totals verified
  return assemble P expectedChainId expectedSettlementContract verified t

/-- receipt_settlement.rs:310 -/
def build (claims : List ReceiptSettlementClaim) (expectedChainId : Nat)
    (expectedSettlementContract : Address) (nowUnixS : Nat) (receiptCryptde : CryptDE) :
    Except ReceiptSettlementError ReceiptSettlementBatch := do
  failIf (claims = []) .emptyBatch
  let verified ← claims.mapM fun claim => do
    let verified ← claim.verify P expectedChainId expectedSettlementContract nowUnixS receiptCryptde
    return (verified, nowUnixS)
  fromVerified P verified expectedChainId expectedSettlementContract

/-- receipt_settlement.rs:336 -/
def buildFromAccepted (claims : List (ReceiptSettlementClaim × Nat)) (expectedChainId : Nat)
    (expectedSettlementContract : Address) (providerAuthorizationNowUnixS : Nat) (receiptCryptde : CryptDE) :
    Except ReceiptSettlementError ReceiptSettlementBatch := do
  failIf (claims = []) .emptyBatch
  match claims.find? fun claim => claim.2 > providerAuthorizationNowUnixS with
  | some (_, acceptedAtUnixS) => .error (.acceptanceTimeInFuture acceptedAtUnixS)
  | none => do
    let verified ← claims.mapM fun (claim, acceptedAtUnixS) => do
      let verified ← claim.verifyAt P expectedChainId expectedSettlementContract acceptedAtUnixS
        providerAuthorizationNowUnixS receiptCryptde
      return (verified, acceptedAtUnixS)
    fromVerified P verified expectedChainId expectedSettlementContract

/-- receipt_settlement.rs:374 -/
def verifyExported (b : ReceiptSettlementBatch) (providerAuthorizationNowUnixS : Nat)
    (receiptCryptde : CryptDE) : Except ReceiptSettlementError Unit := do
  failIf (b.claims.length ≠ b.claimAcceptedAtUnixS.length)
    (.acceptanceTimeCountMismatch b.claims.length b.claimAcceptedAtUnixS.length)
  let reconstructed ← buildFromAccepted P (b.claims.zip b.claimAcceptedAtUnixS) b.chainId b.settlementContract
    providerAuthorizationNowUnixS receiptCryptde
  failIf (reconstructed ≠ b) .artifactMismatch

end ReceiptSettlementBatch

/-! ## What a build establishes -/

section Spec

variable {P : Primitives} {chainId now : Nat} {contract : Address} {cryptde : CryptDE}

namespace ReceiptSettlementClaim

/-- What `verifyAt` returns for a claim that it passes. -/
def verified (P : Primitives) (c : ReceiptSettlementClaim) : VerifiedReceiptSettlementClaim where
  claim := c
  claimId := c.claimId P
  leafHash := c.leafHash P
  payoutWalletAddress := c.providerSettlement.policy.payoutWalletAddress
  cumulativeChargeWei := c.receipt.cumulativeChargeWei

/-- The claim passes `verifyAt`: the payer's side when it was accepted, the provider's side now. -/
structure Verifies (P : Primitives) (chainId : Nat) (contract : Address) (now : Nat) (cryptde : CryptDE)
    (c : ReceiptSettlementClaim) (acceptedAt : Nat) : Prop where
  payer : ∃ charge, c.receiptPayload.authorization.verifyForReceipt P c.receiptPayload.acknowledgedReceipt cryptde
    chainId contract acceptedAt = .ok charge
  provider : ∃ payout, c.providerSettlement.verify P chainId contract c.receipt.providerPublicKey now cryptde =
    .ok payout

theorem verifyAt_eq_ok_iff {c : ReceiptSettlementClaim} {aa : Nat} {v : VerifiedReceiptSettlementClaim} :
    c.verifyAt P chainId contract aa now cryptde = .ok v ↔
      c.Verifies P chainId contract now cryptde aa ∧ c.verified P = v := by
  simp only [verifyAt, bind_eq_ok, pure_eq_ok, mapErr_eq_ok]
  constructor
  · rintro ⟨charge, hpa, payout, hp, rfl⟩
    refine ⟨⟨⟨charge, hpa⟩, ⟨payout, hp⟩⟩, ?_⟩
    rw [← (verify_spec hp).2.2]
    rfl
  · rintro ⟨⟨⟨charge, hpa⟩, ⟨payout, hp⟩⟩, rfl⟩
    refine ⟨charge, hpa, payout, hp, ?_⟩
    rw [← (verify_spec hp).2.2]
    rfl

end ReceiptSettlementClaim

namespace ReceiptSettlementBatch

/-- A pair as `from_verified` receives it. -/
def verifiedPair (P : Primitives) (p : ReceiptSettlementClaim × Nat) : VerifiedReceiptSettlementClaim × Nat :=
  (p.1.verified P, p.2)

/-- The order in which a batch holds its pairs. -/
def canonicalOrder (P : Primitives) (pairs : List (ReceiptSettlementClaim × Nat)) :
    List (ReceiptSettlementClaim × Nat) :=
  sortBy (·.1.leafHash P) pairs

structure Admissible (P : Primitives) (chainId : Nat) (contract : Address) (now : Nat) (cryptde : CryptDE)
    (pairs : List (ReceiptSettlementClaim × Nat)) : Prop where
  nonempty : pairs ≠ []
  inTime : ∀ p ∈ pairs, p.2 ≤ now
  verifies : ∀ p ∈ pairs, p.1.Verifies P chainId contract now cryptde p.2
  distinct : (pairs.map (·.1.claimId P)).Nodup

theorem refuseDuplicates_eq_ok_iff {claimIds : List Bytes32} : refuseDuplicates claimIds l = .ok u ↔
      (l.map (·.1.claimId)).Nodup ∧ ∀ v ∈ l, v.1.claimId ∉ claimIds := by
  induction l generalizing claimIds with
  | nil => simp [refuseDuplicates]
  | cons v l ih =>
    simp only [refuseDuplicates, bind_eq_ok, failIf_eq_ok, ih, List.map_cons, List.nodup_cons,
      List.mem_map, not_exists, not_and, List.mem_cons, not_or]
    grind

theorem refuseDuplicates_ne_amountOverflow (l : List (VerifiedReceiptSettlementClaim × Nat)) (c : List Bytes32) :
    refuseDuplicates c l ≠ .error .amountOverflow := by
  induction l generalizing c with
  | nil => simp [refuseDuplicates]
  | cons v l ih => exact bind_ne_error (by simp) fun _ => ih _

/-- Everything that `buildFromAccepted` does before it sums the charges. -/
def admitted (P : Primitives) (pairs : List (ReceiptSettlementClaim × Nat)) (chainId : Nat) (contract : Address)
    (now : Nat) (cryptde : CryptDE) : Except ReceiptSettlementError (List (VerifiedReceiptSettlementClaim × Nat)) := do
  failIf (pairs = []) .emptyBatch
  match pairs.find? fun p => p.2 > now with
  | some (_, acceptedAt) => .error (.acceptanceTimeInFuture acceptedAt)
  | none => do
    let verified ← pairs.mapM fun (claim, acceptedAt) => do
      let verified ← claim.verifyAt P chainId contract acceptedAt now cryptde
      return (verified, acceptedAt)
    refuseDuplicates [] verified
    return sortBy (·.1.leafHash) verified

variable {ps : List (ReceiptSettlementClaim × Nat)} {b : ReceiptSettlementBatch}

theorem buildFromAccepted_eq : buildFromAccepted P ps chainId contract now cryptde = (do
    let verified ← admitted P ps chainId contract now cryptde
    let t ← totals verified
    return assemble P chainId contract verified t) := by
  unfold buildFromAccepted admitted
  split
  · simp only [bind_assoc]
    rfl
  · simp only [fromVerified, bind_assoc, pure_bind]

theorem admitted_eq_ok_iff {verified : List (VerifiedReceiptSettlementClaim × Nat)} :
    admitted P ps chainId contract now cryptde = .ok verified ↔ Admissible P chainId contract now cryptde ps ∧
        (canonicalOrder P ps).map (verifiedPair P) = verified := by
  have hve : ∀ (p : ReceiptSettlementClaim × Nat) (v : VerifiedReceiptSettlementClaim × Nat),
      (match p with
        | (claim, acceptedAt) => do
          let verified ← claim.verifyAt P chainId contract acceptedAt now cryptde
          return (verified, acceptedAt)) = Except.ok v ↔
        p.1.Verifies P chainId contract now cryptde p.2 ∧ verifiedPair P p = v := by
    rintro ⟨claim, acceptedAt⟩ v
    simp only [bind_eq_ok, pure_eq_ok, ReceiptSettlementClaim.verifyAt_eq_ok_iff]
    constructor
    · rintro ⟨_, ⟨hv, rfl⟩, rfl⟩
      exact ⟨hv, rfl⟩
    · rintro ⟨hv, rfl⟩
      exact ⟨_, ⟨hv, rfl⟩, rfl⟩
  have hs : sortBy (·.1.leafHash) (ps.map (verifiedPair P)) = (canonicalOrder P ps).map (verifiedPair P) :=
    sortBy_map (verifiedPair P) ps
  have hid : (ps.map (verifiedPair P)).map (·.1.claimId) = ps.map (·.1.claimId P) := by
    rw [List.map_map]
    rfl
  simp only [admitted, bind_eq_ok, failIf_eq_ok]
  cases hf : ps.find? fun p => p.2 > now with
  | some p =>
    have hp := List.find?_some hf
    simp only [gt_iff_lt, decide_eq_true_eq] at hp
    constructor
    · rintro ⟨_, -, he⟩
      cases he
    · rintro ⟨ha, -⟩
      exact absurd (ha.inTime p (List.mem_of_find?_eq_some hf)) (by omega)
  | none =>
    simp only [List.find?_eq_none, gt_iff_lt, decide_eq_true_eq, Nat.not_lt] at hf
    simp only [bind_eq_ok, pure_eq_ok, mapM_eq_ok_iff hve, refuseDuplicates_eq_ok_iff]
    constructor
    · rintro ⟨_, hne, _, ⟨hv, rfl⟩, _, ⟨hd, -⟩, rfl⟩
      exact ⟨⟨hne, hf, hv, hid ▸ hd⟩, hs.symm⟩
    · rintro ⟨ha, rfl⟩
      exact ⟨(), ha.nonempty, _, ⟨ha.verifies, rfl⟩, (), ⟨hid ▸ ha.distinct, by simp⟩, hs⟩

theorem admitted_ne_amountOverflow : admitted P ps chainId contract now cryptde ≠ .error .amountOverflow := by
  unfold admitted
  refine bind_ne_error (by simp) fun _ => ?_
  split
  · simp
  · refine bind_ne_error (mapM_ne_error (fun p => ?_) ps) fun verified => ?_
    · exact bind_ne_error (by simp [ReceiptSettlementClaim.verifyAt, bind_eq_error]) fun _ => pure_ne_error
    · exact bind_ne_error (refuseDuplicates_ne_amountOverflow verified []) fun _ => pure_ne_error

/-- A batch is the assembly of its admissible pairs in canonical order. -/
theorem buildFromAccepted_eq_ok_iff : buildFromAccepted P ps chainId contract now cryptde = .ok b ↔
    Admissible P chainId contract now cryptde ps ∧ ∃ t, totals ((canonicalOrder P ps).map (verifiedPair P)) = .ok t ∧
        assemble P chainId contract ((canonicalOrder P ps).map (verifiedPair P)) t = b := by
  simp only [buildFromAccepted_eq, bind_eq_ok, pure_eq_ok, admitted_eq_ok_iff]
  constructor
  · rintro ⟨_, ⟨ha, rfl⟩, t, ht, rfl⟩
    exact ⟨ha, t, ht, rfl⟩
  · rintro ⟨ha, t, ht, rfl⟩
    exact ⟨_, ⟨ha, rfl⟩, t, ht, rfl⟩

theorem totals_eq_fold : totals ve = (ve.map (·.1)).foldlM Totals.add ⟨∅, 0⟩ :=
  List.foldlM_map.symm

theorem map_verifiedPair_fst (l : List (ReceiptSettlementClaim × Nat)) :
    (l.map (verifiedPair P)).map (·.1) = (l.map (·.1)).map (·.verified P) := by
  simp only [List.map_map]
  rfl

theorem claims_assemble (l : List (ReceiptSettlementClaim × Nat)) (t : Totals) :
    (assemble P chainId contract (l.map (verifiedPair P)) t).claims = l.map (·.1) := by
  simp only [assemble, List.map_map]
  rfl

theorem build_eq_buildFromAccepted : build P cl chainId contract now cryptde =
      buildFromAccepted P (cl.map fun c => (c, now)) chainId contract now cryptde := by
  have hf : (cl.map fun c => (c, now)).find? (fun p => decide (p.2 > now)) = none := by
    simp [List.find?_eq_none]
  unfold build buildFromAccepted
  rw [hf]
  simp only [List.map_eq_nil_iff, List.mapM_map]
  rfl

/-- A claim of route `n` for `charge`, paid out to wallet 1; the payer's session is valid from 0 to 1000. -/
def sampleClaim (n : Nat) (charge : Nat) : ReceiptSettlementClaim where
  receiptPayload :=
    { authorization := ⟨⟨1, 1, 1, 1, [1], maxReceiptSessionChargeWei, 0, 1000, 1⟩, ⟨0, 1, 1⟩⟩
      acknowledgedReceipt := ⟨⟨⟨1, BitVec.ofNat 256 n, 1, .exit, [9], 1, 0, 1, 0, 0, charge⟩, [0]⟩, [1], [0]⟩ }
  providerSettlement := ⟨⟨1, 1, 1, 1, [9], 0, 1000, 1⟩, ⟨0, 1, 1⟩, [0]⟩

end ReceiptSettlementBatch

end Spec

end MasqMobile
