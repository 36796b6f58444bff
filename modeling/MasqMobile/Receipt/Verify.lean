import MasqMobile.Receipt.Data

/-!
# Service receipts: pricing, signing and verification

`node/src/sub_lib/service_receipt.rs`. Every function is a chain of early returns; the checks stand
in the order of the source, so that the first failing one names the error.

| here | there |
| --- | --- |
| `AcknowledgedServiceReceipt.verify` | service_receipt.rs:1080 |
| `AuthorizedReceiptSession.verify`, `verifyForReceipt` | service_receipt.rs:1110, 1154 |
| `ReceiptSequenceCheckpoint.begin*`, `advance*` | service_receipt.rs:1240, 1280 |
-/

namespace MasqMobile

open Fallible AcknowledgedServiceReceipt

def serviceReceiptProtocolVersion : Nat := 1
def minReceiptSessionDurationSeconds : Nat := 60
def maxReceiptSessionDurationSeconds : Nat := 24 * 60 * 60
def maxReceiptSessionChargeWei : Nat := 2 ^ 126 - 1

def u128Max : Nat := 2 ^ 128 - 1

/-! ## Bytes -/

def bytesOf (s : String) : List UInt8 := s.toUTF8.toList

/-- The 32 bytes of a word, most significant first. -/
def wordBytes (b : Bytes32) : List UInt8 := (List.range 32).map fun i => ⟨b.extractLsb' (8 * (31 - i)) 8⟩

@[simp] theorem length_wordBytes (b : Bytes32) : (wordBytes b).length = 32 := by simp [wordBytes]

/-- A word is determined by its bytes: bit `i` stands in byte `31 - i / 8`. -/
theorem wordBytes_injective : Function.Injective wordBytes := by
  intro b c h
  have hb : ∀ i < 32, b.extractLsb' (8 * (31 - i)) 8 = c.extractLsb' (8 * (31 - i)) 8 := by
    intro i hi
    have hg := List.map_inj_left.1 h i (List.mem_range.2 hi)
    exact UInt8.ofBitVec.inj hg
  refine BitVec.eq_of_getLsbD_eq fun i hi => ?_
  have hbi := congrArg (BitVec.getLsbD · (i % 8)) (hb (31 - i / 8) (by omega))
  have hp : 8 * (31 - (31 - i / 8)) + i % 8 = i := by omega
  simpa [Nat.mod_lt, hp] using hbi

theorem wordBytes_append_inj (h : wordBytes b ++ s = wordBytes c ++ t) : b = c ∧ s = t := by
  obtain ⟨hw, hr⟩ := List.append_inj h (by simp)
  exact ⟨wordBytes_injective hw, hr⟩

/-- service_receipt.rs:750 -/
def uintWord (value : Nat) : List UInt8 := wordBytes (BitVec.ofNat 256 value)

/-- service_receipt.rs:756 -/
def addressWord (address : Address) : List UInt8 := wordBytes (address.setWidth 256)

variable (P : Primitives)

/-- service_receipt.rs:382 -/
def makeAccountingCommitment (routeEpoch : Bytes32) (payerSessionPublicKey : PublicKey) : Bytes32 :=
  P.keccak256 (bytesOf "MASQ_ACCOUNTING_COMMITMENT_V1\x00" ++ wordBytes routeEpoch ++ payerSessionPublicKey)

/-- `receipt_session_contract_id` (sub_lib/receipt_settlement.rs:20). -/
def receiptSessionContractId (payerWalletAddress : Address) (authorizationNonce : Bytes32) : Bytes32 :=
  P.keccak256 (addressWord payerWalletAddress ++ wordBytes authorizationNonce)

/-! ## The receipt -/

namespace ServiceReceipt

/-- service_receipt.rs:522 -/
def checkedChargeWei (serviceRate serviceUnits byteRate payloadSize : Nat) : Except ServiceReceiptError Nat :=
  okOr ((checkedMul 128 serviceRate serviceUnits).bind fun serviceCharge =>
    (checkedMul 128 byteRate payloadSize).bind fun byteCharge =>
      checkedAdd 128 serviceCharge byteCharge) .cumulativeChargeOverflow

/-- service_receipt.rs:425: the price of the first receipt of a route saturates. -/
def newWithServiceUnits (routeEpoch : Bytes32) (sequence : Nat) (serviceKind : ServiceKind)
    (providerPublicKey : PublicKey) (accountingCommitment : Bytes32)
    (payloadSize serviceUnits serviceRate byteRate : Nat) : ServiceReceipt where
  protocolVersion := serviceReceiptProtocolVersion
  routeEpoch := routeEpoch
  sequence := sequence
  serviceKind := serviceKind
  providerPublicKey := providerPublicKey
  accountingCommitment := accountingCommitment
  payloadSize := payloadSize
  serviceUnits := serviceUnits
  serviceRate := serviceRate
  byteRate := byteRate
  cumulativeChargeWei :=
    match checkedChargeWei serviceRate serviceUnits byteRate payloadSize with
    | .ok charge => charge
    | .error _ => u128Max

/-- service_receipt.rs:401 -/
def new (routeEpoch : Bytes32) (sequence : Nat) (serviceKind : ServiceKind) (providerPublicKey : PublicKey)
    (accountingCommitment : Bytes32) (payloadSize serviceRate byteRate : Nat) : ServiceReceipt :=
  newWithServiceUnits routeEpoch sequence serviceKind providerPublicKey accountingCommitment payloadSize 1
    serviceRate byteRate

variable (r : ServiceReceipt)

/-- service_receipt.rs:513 -/
def checkedTotalChargeWei : Except ServiceReceiptError Nat :=
  checkedChargeWei r.serviceRate r.serviceUnits r.byteRate r.payloadSize

/-- service_receipt.rs:552 -/
def validate : Except ServiceReceiptError Unit := do
  failIf (r.protocolVersion ≠ serviceReceiptProtocolVersion) (.unsupportedProtocolVersion r.protocolVersion)
  failIf (r.routeEpoch = 0) .emptyRouteEpoch
  failIf (r.accountingCommitment = 0) .emptyAccountingCommitment
  failIf (r.providerPublicKey = []) .emptyProviderPublicKey
  failIf (r.serviceUnits = 0) .emptyServiceUnits
  let charge ← r.checkedTotalChargeWei
  failIf (r.cumulativeChargeWei < charge) .cumulativeChargeMismatch

/-- service_receipt.rs:472 -/
def nextWithServiceUnits (sequence : Nat) (serviceKind : ServiceKind)
    (payloadSize serviceUnits serviceRate byteRate : Nat) : Except ServiceReceiptError ServiceReceipt := do
  r.validate
  failIf (sequence ≤ r.sequence) .nonMonotonicSequence
  failIf (serviceUnits = 0) .emptyServiceUnits
  let currentCharge ← checkedChargeWei serviceRate serviceUnits byteRate payloadSize
  let cumulativeChargeWei ← okOr (checkedAdd 128 r.cumulativeChargeWei currentCharge) .cumulativeChargeOverflow
  return { protocolVersion := serviceReceiptProtocolVersion, routeEpoch := r.routeEpoch, sequence, serviceKind,
           providerPublicKey := r.providerPublicKey, accountingCommitment := r.accountingCommitment,
           payloadSize, serviceUnits, serviceRate, byteRate, cumulativeChargeWei }

/-- service_receipt.rs:454 -/
def nextForSameRoute (sequence : Nat) (serviceKind : ServiceKind)
    (payloadSize serviceRate byteRate : Nat) : Except ServiceReceiptError ServiceReceipt :=
  r.nextWithServiceUnits sequence serviceKind payloadSize 1 serviceRate byteRate

/-- service_receipt.rs:538 -/
def sign (P : Primitives) (r : ServiceReceipt) (cryptde : CryptDE) :
    Except ServiceReceiptError SignedServiceReceipt := do
  r.validate
  failIf (cryptde.publicKey ≠ r.providerPublicKey) .providerPublicKeyMismatch
  let providerSignature ← mapErr .signing (P.sign cryptde (.serviceReceipt r))
  return { receipt := r, providerSignature }

end ServiceReceipt

/-! ## The session authorization -/

namespace ReceiptSessionPolicy

/-- service_receipt.rs:629 -/
def validateStructure (p : ReceiptSessionPolicy) : Except ServiceReceiptError Unit := do
  failIf (p.protocolVersion ≠ serviceReceiptProtocolVersion) (.unsupportedProtocolVersion p.protocolVersion)
  failIf (p.payerWalletAddress = 0) .emptyPayerWallet
  failIf (p.chainId = 0) .invalidChain
  failIf (p.settlementContract = 0) .emptySettlementContract
  failIf (p.payerSessionPublicKey = []) .emptyPayerSessionPublicKey
  failIf (p.maxTotalChargeWei = 0) .emptyAmountLimit
  failIf (p.maxTotalChargeWei > maxReceiptSessionChargeWei) .amountLimitExceeded
  failIf (p.validFromUnixS ≥ p.expiresAtUnixS) .invalidAuthorizationWindow
  let durationSeconds := p.expiresAtUnixS - p.validFromUnixS
  failIf (¬(minReceiptSessionDurationSeconds ≤ durationSeconds ∧
    durationSeconds ≤ maxReceiptSessionDurationSeconds)) .invalidAuthorizationWindow
  failIf (p.authorizationNonce = 0) .emptyAuthorizationNonce

/-- service_receipt.rs:670 -/
def eip712Digest (P : Primitives) (p : ReceiptSessionPolicy) : Except ServiceReceiptError Bytes32 := do
  p.validateStructure
  let hashOf (s : String) := wordBytes (P.keccak256 (bytesOf s))
  let domainSeparator := P.keccak256 (
    hashOf "EIP712Domain(string name,string version,uint256 chainId,address verifyingContract)" ++
    hashOf "MASQ Service Receipt" ++ hashOf "1" ++ uintWord p.chainId ++ addressWord p.settlementContract)
  let sessionKeyHash := P.keccak256 p.payerSessionPublicKey
  let structHash := P.keccak256 (
    hashOf ("ReceiptSessionAuthorization(uint16 protocolVersion,address payerWallet,bytes payerSessionPublicKey," ++
      "uint256 maxTotalChargeWei,uint64 validFromUnixS,uint64 expiresAtUnixS,bytes32 authorizationNonce)") ++
    uintWord p.protocolVersion ++ addressWord p.payerWalletAddress ++ wordBytes sessionKeyHash ++
    uintWord p.maxTotalChargeWei ++ uintWord p.validFromUnixS ++ uintWord p.expiresAtUnixS ++
    wordBytes p.authorizationNonce)
  return P.keccak256 ([0x19, 0x01] ++ wordBytes domainSeparator ++ wordBytes structHash)

end ReceiptSessionPolicy

/-! ## Signatures -/

/-- service_receipt.rs:1026 -/
def SignedServiceReceipt.verify (s : SignedServiceReceipt) (cryptde : CryptDE) : Except ServiceReceiptError Nat := do
  s.receipt.validate
  failIf (s.providerSignature.length < s.receipt.providerPublicKey.length ∨
    ¬P.verifySignature cryptde (.serviceReceipt s.receipt) s.providerSignature s.receipt.providerPublicKey)
    .invalidProviderSignature
  s.receipt.checkedTotalChargeWei

/-- service_receipt.rs:1041 -/
def SignedServiceReceipt.acknowledge (s : SignedServiceReceipt) (payerCryptde : CryptDE) :
    Except ServiceReceiptError AcknowledgedServiceReceipt := do
  let _ ← s.verify P payerCryptde
  failIf (payerCryptde.publicKey = []) .emptyPayerSessionPublicKey
  failIf (makeAccountingCommitment P s.receipt.routeEpoch payerCryptde.publicKey ≠ s.receipt.accountingCommitment)
    .accountingCommitmentMismatch
  let payerSignature ← mapErr .signing (P.sign payerCryptde (.acknowledgement s payerCryptde.publicKey))
  return { signedReceipt := s, payerSessionPublicKey := payerCryptde.publicKey, payerSignature }

/-- service_receipt.rs:1080 -/
def AcknowledgedServiceReceipt.verify (P : Primitives) (a : AcknowledgedServiceReceipt) (cryptde : CryptDE) :
    Except ServiceReceiptError Nat := do
  let totalCharge ← a.signedReceipt.verify P cryptde
  failIf (a.payerSessionPublicKey = []) .emptyPayerSessionPublicKey
  failIf (makeAccountingCommitment P a.signedReceipt.receipt.routeEpoch a.payerSessionPublicKey ≠
    a.signedReceipt.receipt.accountingCommitment) .accountingCommitmentMismatch
  failIf (a.payerSignature.length < a.payerSessionPublicKey.length ∨
    ¬P.verifySignature cryptde (.acknowledgement a.signedReceipt a.payerSessionPublicKey) a.payerSignature
      a.payerSessionPublicKey) .invalidPayerSignature
  return totalCharge

namespace AuthorizedReceiptSession

/-- service_receipt.rs:1110 -/
def verify (P : Primitives) (a : AuthorizedReceiptSession) (expectedChainId : Nat)
    (expectedSettlementContract : Address) (payerSessionPublicKey : PublicKey)
    (nowUnixS cumulativeChargeWei : Nat) : Except ServiceReceiptError Unit := do
  a.policy.validateStructure
  failIf (a.policy.chainId ≠ expectedChainId) .wrongChain
  failIf (a.policy.settlementContract ≠ expectedSettlementContract) .settlementContractMismatch
  failIf (a.policy.payerSessionPublicKey ≠ payerSessionPublicKey) .sessionKeyMismatch
  failIf (nowUnixS < a.policy.validFromUnixS) .sessionAuthorizationNotYetValid
  failIf (nowUnixS > a.policy.expiresAtUnixS) .sessionAuthorizationExpired
  failIf (cumulativeChargeWei > a.policy.maxTotalChargeWei) .amountLimitExceeded
  let digest ← a.policy.eip712Digest P
  let payerPublicKey ← okOr (P.recover a.walletSignature digest) .invalidWalletSignature
  failIf (¬P.verifyWallet payerPublicKey a.walletSignature digest ∨
    P.walletAddress payerPublicKey ≠ a.policy.payerWalletAddress) .invalidWalletSignature

/-- service_receipt.rs:1154 -/
def verifyForReceipt (P : Primitives) (a : AuthorizedReceiptSession) (acknowledged : AcknowledgedServiceReceipt)
    (receiptCryptde : CryptDE) (expectedChainId : Nat) (expectedSettlementContract : Address) (nowUnixS : Nat) :
    Except ServiceReceiptError Nat := do
  let receiptCharge ← acknowledged.verify P receiptCryptde
  a.verify P expectedChainId expectedSettlementContract acknowledged.payerSessionPublicKey nowUnixS
    acknowledged.signedReceipt.receipt.cumulativeChargeWei
  return receiptCharge

end AuthorizedReceiptSession

namespace ReceiptSessionRequest

/-- service_receipt.rs:1178 -/
def new (P : Primitives) (authorization : AuthorizedReceiptSession) (routeEpoch : Bytes32) :
    Except ServiceReceiptError ReceiptSessionRequest := do
  failIf (routeEpoch = 0) .emptyRouteEpoch
  return { authorization, routeEpoch, accountingCommitment :=
             makeAccountingCommitment P routeEpoch authorization.policy.payerSessionPublicKey }

/-- service_receipt.rs:1196 -/
def verify (P : Primitives) (q : ReceiptSessionRequest) (expectedChainId : Nat)
    (expectedSettlementContract : Address) (nowUnixS : Nat) : Except ServiceReceiptError Unit := do
  failIf (q.routeEpoch = 0) .emptyRouteEpoch
  failIf (makeAccountingCommitment P q.routeEpoch q.authorization.policy.payerSessionPublicKey ≠
    q.accountingCommitment) .accountingCommitmentMismatch
  q.authorization.verify P expectedChainId expectedSettlementContract
    q.authorization.policy.payerSessionPublicKey nowUnixS 0

end ReceiptSessionRequest

/-! ## Checkpoints -/

namespace ReceiptSequenceCheckpoint

variable (P : Primitives) (acknowledged : AcknowledgedServiceReceipt)

/-- service_receipt.rs:1240 -/
def beginWithContiguity (cryptde : CryptDE)
    (requireContiguous : Bool) : Except ServiceReceiptError ReceiptSequenceCheckpoint := do
  let receiptCharge ← acknowledged.verify P cryptde
  let receipt := acknowledged.signedReceipt.receipt
  failIf ((requireContiguous ∧ receipt.cumulativeChargeWei ≠ receiptCharge) ∨
    receipt.cumulativeChargeWei < receiptCharge) .cumulativeChargeMismatch
  return { routeEpoch := receipt.routeEpoch, providerPublicKey := receipt.providerPublicKey,
           accountingCommitment := receipt.accountingCommitment,
           payerSessionPublicKey := acknowledged.payerSessionPublicKey,
           lastSequence := receipt.sequence, cumulativeChargeWei := receipt.cumulativeChargeWei }

/-- service_receipt.rs:1223 -/
def begin (cryptde : CryptDE) : Except ServiceReceiptError ReceiptSequenceCheckpoint :=
  beginWithContiguity P acknowledged cryptde true

/-- service_receipt.rs:1233 -/
def beginForSettlement (cryptde : CryptDE) : Except ServiceReceiptError ReceiptSequenceCheckpoint :=
  beginWithContiguity P acknowledged cryptde false

variable (c : ReceiptSequenceCheckpoint)

/-- service_receipt.rs:1280: the source updates `self` in place and returns its cumulative charge;
here the updated checkpoint is returned. -/
def advanceWithContiguity (acknowledged : AcknowledgedServiceReceipt)
    (cryptde : CryptDE) (requireContiguous : Bool) : Except ServiceReceiptError ReceiptSequenceCheckpoint := do
  let receiptCharge ← acknowledged.verify P cryptde
  let receipt := acknowledged.signedReceipt.receipt
  failIf (receipt.routeEpoch ≠ c.routeEpoch) .routeEpochMismatch
  failIf (receipt.providerPublicKey ≠ c.providerPublicKey) .providerPublicKeyMismatch
  failIf (receipt.accountingCommitment ≠ c.accountingCommitment) .accountingCommitmentMismatch
  failIf (acknowledged.payerSessionPublicKey ≠ c.payerSessionPublicKey) .sessionKeyMismatch
  failIf (receipt.sequence ≤ c.lastSequence) .nonMonotonicSequence
  let expectedCumulativeCharge ← okOr (checkedAdd 128 c.cumulativeChargeWei receiptCharge) .cumulativeChargeOverflow
  failIf ((requireContiguous ∧ receipt.cumulativeChargeWei ≠ expectedCumulativeCharge) ∨
    receipt.cumulativeChargeWei < expectedCumulativeCharge) .cumulativeChargeMismatch
  return { c with lastSequence := receipt.sequence, cumulativeChargeWei := receipt.cumulativeChargeWei }

/-- service_receipt.rs:1262 -/
def advance (acknowledged : AcknowledgedServiceReceipt)
    (cryptde : CryptDE) : Except ServiceReceiptError ReceiptSequenceCheckpoint :=
  c.advanceWithContiguity P acknowledged cryptde true

/-- service_receipt.rs:1272 -/
def advanceForSettlement (acknowledged : AcknowledgedServiceReceipt)
    (cryptde : CryptDE) : Except ServiceReceiptError ReceiptSequenceCheckpoint :=
  c.advanceWithContiguity P acknowledged cryptde false

end ReceiptSequenceCheckpoint

/-! ## What a passed check establishes -/

section Spec

variable {P : Primitives} {cr : CryptDE}

/-- What one receipt alone is worth, without overflow. -/
def ServiceReceipt.charge (r : ServiceReceipt) : Nat := r.serviceRate * r.serviceUnits + r.byteRate * r.payloadSize

variable {charge : Nat}

theorem checkedChargeWei_eq_ok_iff : ServiceReceipt.checkedChargeWei sr su b p = .ok charge ↔
      sr * su + b * p < 2 ^ 128 ∧
      sr * su + b * p = charge := by
  simp only [ServiceReceipt.checkedChargeWei, okOr_eq_ok, Option.bind_eq_some_iff,
    checkedMul_eq_some_iff, checkedAdd_eq_some_iff]
  constructor
  · rintro ⟨_, ⟨-, rfl⟩, _, ⟨-, rfl⟩, hf, rfl⟩
    exact ⟨hf, rfl⟩
  · rintro ⟨hf, rfl⟩
    exact ⟨_, ⟨by omega, rfl⟩, _, ⟨by omega, rfl⟩, hf, rfl⟩

theorem checkedTotalChargeWei_eq_ok_iff {r : ServiceReceipt} :
    r.checkedTotalChargeWei = .ok charge ↔ r.charge < 2 ^ 128 ∧ r.charge = charge :=
  checkedChargeWei_eq_ok_iff

variable {s : SignedServiceReceipt} {a : AcknowledgedServiceReceipt}

/-- A verified signature means a valid receipt whose own price is at most its cumulative charge. -/
theorem SignedServiceReceipt.verify_eq_ok_iff : s.verify P cr = .ok charge ↔
      s.receipt.validate = .ok () ∧ s.receipt.providerPublicKey.length ≤ s.providerSignature.length ∧
      P.verifySignature cr (.serviceReceipt s.receipt) s.providerSignature s.receipt.providerPublicKey ∧
      s.receipt.charge < 2 ^ 128 ∧ s.receipt.charge = charge := by
  simp only [SignedServiceReceipt.verify, bind_eq_ok, failIf_eq_ok, checkedTotalChargeWei_eq_ok_iff]
  grind

theorem AcknowledgedServiceReceipt.verify_eq_ok_iff {ch : Nat} :
    a.verify P cr = .ok ch ↔ a.signedReceipt.verify P cr = .ok ch ∧ a.payerSessionPublicKey ≠ [] ∧
      makeAccountingCommitment P a.signedReceipt.receipt.routeEpoch a.payerSessionPublicKey =
        a.signedReceipt.receipt.accountingCommitment ∧
      a.payerSessionPublicKey.length ≤ a.payerSignature.length ∧
      P.verifySignature cr (.acknowledgement a.signedReceipt a.payerSessionPublicKey) a.payerSignature
        a.payerSessionPublicKey := by
  simp only [AcknowledgedServiceReceipt.verify, bind_eq_ok, failIf_eq_ok, pure_eq_ok]
  grind

theorem AcknowledgedServiceReceipt.charge_of_verify
    (h : a.verify P cr = .ok charge) : a.signedReceipt.receipt.charge = charge :=
  (SignedServiceReceipt.verify_eq_ok_iff.1 (AcknowledgedServiceReceipt.verify_eq_ok_iff.1 h).1).2.2.2.2

/-- An acknowledgement wraps the offer it was made from, under the session's own key. -/
theorem SignedServiceReceipt.acknowledge_eq_ok_iff :
    s.acknowledge P cr = .ok a ↔ (∃ charge, s.verify P cr = .ok charge) ∧ cr.publicKey ≠ [] ∧
      makeAccountingCommitment P s.receipt.routeEpoch cr.publicKey = s.receipt.accountingCommitment ∧
      ∃ signature, P.sign cr (.acknowledgement s cr.publicKey) = .ok signature ∧ a = ⟨s, cr.publicKey, signature⟩ := by
  simp only [SignedServiceReceipt.acknowledge, bind_eq_ok, failIf_eq_ok, pure_eq_ok, mapErr_eq_ok]
  grind

/-- What `AuthorizedReceiptSession.verify` asks at any time and for any charge: a well-formed policy for
this chain, contract and session key, signed by the wallet that it names. -/
structure AuthorizedReceiptSession.Authentic (P : Primitives) (a : AuthorizedReceiptSession) (chainId : Nat)
    (settlementContract : Address) (payerSessionPublicKey : PublicKey) : Prop where
  wellFormed : a.policy.validateStructure = .ok ()
  chain : a.policy.chainId = chainId
  contract : a.policy.settlementContract = settlementContract
  sessionKey : a.policy.payerSessionPublicKey = payerSessionPublicKey
  signed : ∃ digest payerPublicKey, a.policy.eip712Digest P = .ok digest ∧
    P.recover a.walletSignature digest = some payerPublicKey ∧
    P.verifyWallet payerPublicKey a.walletSignature digest ∧
    P.walletAddress payerPublicKey = a.policy.payerWalletAddress

theorem AuthorizedReceiptSession.verify_eq_ok_iff {a : AuthorizedReceiptSession} {ci now ch : Nat}
    {co : Address} {key : PublicKey} {u : Unit} :
    a.verify P ci co key now ch = .ok u ↔
      a.Authentic P ci co key ∧ a.policy.validFromUnixS ≤ now ∧ now ≤ a.policy.expiresAtUnixS ∧
        ch ≤ a.policy.maxTotalChargeWei := by
  simp only [AuthorizedReceiptSession.verify, bind_eq_ok, failIf_eq_ok, okOr_eq_ok, not_not, gt_iff_lt,
    Nat.not_lt, not_or]
  constructor
  · rintro ⟨_, hwf, _, hc, _, hco, _, hk, _, hf, _, hto, _, hch, digest, hd, payer, hr, hv, ha⟩
    exact ⟨⟨hwf, hc, hco, hk, digest, payer, hd, hr, hv, ha⟩, hf, hto, hch⟩
  · rintro ⟨⟨hwf, hc, hco, hk, digest, payer, hd, hr, hv, ha⟩, hf, hto, hch⟩
    exact ⟨(), hwf, (), hc, (), hco, (), hk, (), hf, (), hto, (), hch, digest, hd, payer, hr, hv, ha⟩

/-- Both signatures on the receipt, and the authorization for its cumulative charge at this time. -/
theorem AuthorizedReceiptSession.verifyForReceipt_eq_ok_iff {a : AuthorizedReceiptSession}
    {ac : AcknowledgedServiceReceipt} {ci now ch : Nat} {co : Address} :
    a.verifyForReceipt P ac cr ci co now = .ok ch ↔ ac.verify P cr = .ok ch ∧
      a.Authentic P ci co ac.payerSessionPublicKey ∧ a.policy.validFromUnixS ≤ now ∧
      now ≤ a.policy.expiresAtUnixS ∧
      ac.signedReceipt.receipt.cumulativeChargeWei ≤ a.policy.maxTotalChargeWei := by
  simp only [AuthorizedReceiptSession.verifyForReceipt, bind_eq_ok, pure_eq_ok,
    AuthorizedReceiptSession.verify_eq_ok_iff]
  constructor
  · rintro ⟨_, hr, _, ha, rfl⟩
    exact ⟨hr, ha⟩
  · rintro ⟨hr, ha⟩
    exact ⟨_, hr, (), ha, rfl⟩

namespace ReceiptSequenceCheckpoint

variable {a : AcknowledgedServiceReceipt} {c c' : ReceiptSequenceCheckpoint} {contiguous : Bool}

/-- The checkpoint that stands at an acknowledged receipt. -/
def ofAcknowledged (a : AcknowledgedServiceReceipt) : ReceiptSequenceCheckpoint where
  routeEpoch := a.signedReceipt.receipt.routeEpoch
  providerPublicKey := a.signedReceipt.receipt.providerPublicKey
  accountingCommitment := a.signedReceipt.receipt.accountingCommitment
  payerSessionPublicKey := a.payerSessionPublicKey
  lastSequence := a.signedReceipt.receipt.sequence
  cumulativeChargeWei := a.signedReceipt.receipt.cumulativeChargeWei

theorem beginWithContiguity_eq_ok_iff : beginWithContiguity P a cr contiguous = .ok c' ↔
      (∃ charge, a.verify P cr = .ok charge) ∧
      a.signedReceipt.receipt.charge ≤ a.signedReceipt.receipt.cumulativeChargeWei ∧
      (contiguous → a.signedReceipt.receipt.cumulativeChargeWei = a.signedReceipt.receipt.charge) ∧
      c' = ofAcknowledged a := by
  simp only [beginWithContiguity, bind_eq_ok, failIf_eq_ok, pure_eq_ok]
  constructor
  · rintro ⟨charge, hv, _, hc, rfl⟩
    have := charge_of_verify hv
    exact ⟨⟨charge, hv⟩, by grind, by grind, rfl⟩
  · rintro ⟨⟨charge, hv⟩, hle, hc, rfl⟩
    have := charge_of_verify hv
    exact ⟨charge, hv, (), by grind, rfl⟩

/-- Advancing keeps the stream's identity and moves its sequence and cumulative charge up. -/
theorem advanceWithContiguity_eq_ok_iff : advanceWithContiguity P c a cr contiguous = .ok c' ↔
      (∃ charge, a.verify P cr = .ok charge) ∧
      a.signedReceipt.receipt.routeEpoch = c.routeEpoch ∧
      a.signedReceipt.receipt.providerPublicKey = c.providerPublicKey ∧
      a.signedReceipt.receipt.accountingCommitment = c.accountingCommitment ∧
      a.payerSessionPublicKey = c.payerSessionPublicKey ∧
      c.lastSequence < a.signedReceipt.receipt.sequence ∧
      c.cumulativeChargeWei + a.signedReceipt.receipt.charge < 2 ^ 128 ∧
      c.cumulativeChargeWei + a.signedReceipt.receipt.charge ≤ a.signedReceipt.receipt.cumulativeChargeWei ∧
      (contiguous → a.signedReceipt.receipt.cumulativeChargeWei =
        c.cumulativeChargeWei + a.signedReceipt.receipt.charge) ∧
      c' = ofAcknowledged a := by
  simp only [advanceWithContiguity, bind_eq_ok, failIf_eq_ok, pure_eq_ok, okOr_eq_ok, checkedAdd_eq_some_iff, not_not]
  constructor
  · rintro ⟨charge, hv, _, hr, _, hp, _, hm, _, hk, _, hs, e, ⟨hf, rfl⟩, _, hc, rfl⟩
    have := charge_of_verify hv
    exact ⟨⟨charge, hv⟩, hr, hp, hm, hk, by omega, by grind, by grind, by grind, by
      rw [ofAcknowledged, hr, hp, hm, hk]⟩
  · rintro ⟨⟨charge, hv⟩, hr, hp, hm, hk, hs, hf, hle, hc, rfl⟩
    have := charge_of_verify hv
    refine ⟨charge, hv, (), hr, (), hp, (), hm, (), hk, (), by omega, _, ⟨by grind, rfl⟩, (), by grind, ?_⟩
    rw [ofAcknowledged, hr, hp, hm, hk]

end ReceiptSequenceCheckpoint

end Spec

end MasqMobile
