import MasqMobile.Receipt.Verify

/-!
# The provider's payout authorization

`node/src/sub_lib/service_receipt.rs`. A payout wallet and a provider's transport key both sign that
receipts of this key are paid out to this wallet. Unlike the payer's side (`AuthorizedReceiptSession.verify`),
the wallet signature must be in canonical form before it is recovered.
-/

namespace MasqMobile

open Fallible

def minProviderSettlementDurationSeconds : Nat := 60
def maxProviderSettlementDurationSeconds : Nat := 30 * 24 * 60 * 60

namespace ProviderSettlementPolicy

/-- service_receipt.rs:36, apart from the session manager's constant of the same name and value. -/
def secp256k1HalfOrder : Bytes32 := 0x7fffffffffffffffffffffffffffffff5d576e7357a4501ddfe92f46681b20a0

/-- service_receipt.rs:856 -/
def validateStructure (p : ProviderSettlementPolicy) : Except ServiceReceiptError Unit := do
  failIf (p.protocolVersion ≠ serviceReceiptProtocolVersion) (.unsupportedProtocolVersion p.protocolVersion)
  failIf (p.payoutWalletAddress = 0) .emptyProviderPayoutWallet
  failIf (p.chainId = 0) .invalidChain
  failIf (p.settlementContract = 0) .emptySettlementContract
  failIf (p.providerPublicKey = []) .emptyProviderPublicKey
  failIf (p.validFromUnixS ≥ p.expiresAtUnixS) .invalidAuthorizationWindow
  let durationSeconds := p.expiresAtUnixS - p.validFromUnixS
  failIf (¬(minProviderSettlementDurationSeconds ≤ durationSeconds ∧
    durationSeconds ≤ maxProviderSettlementDurationSeconds)) .invalidAuthorizationWindow
  failIf (p.authorizationNonce = 0) .emptyAuthorizationNonce

/-- service_receipt.rs:890 -/
def eip712Digest (P : Primitives) (p : ProviderSettlementPolicy) : Except ServiceReceiptError Bytes32 := do
  p.validateStructure
  let hashOf (s : String) := wordBytes (P.keccak256 (bytesOf s))
  let domainSeparator := P.keccak256 (
    hashOf "EIP712Domain(string name,string version,uint256 chainId,address verifyingContract)" ++
    hashOf "MASQ Provider Settlement" ++ hashOf "1" ++ uintWord p.chainId ++ addressWord p.settlementContract)
  let providerKeyHash := P.keccak256 p.providerPublicKey
  let structHash := P.keccak256 (
    hashOf ("ProviderSettlementAuthorization(uint16 protocolVersion,address payoutWallet,bytes providerPublicKey," ++
      "uint64 validFromUnixS,uint64 expiresAtUnixS,bytes32 authorizationNonce)") ++
    uintWord p.protocolVersion ++ addressWord p.payoutWalletAddress ++ wordBytes providerKeyHash ++
    uintWord p.validFromUnixS ++ uintWord p.expiresAtUnixS ++ wordBytes p.authorizationNonce)
  return P.keccak256 ([0x19, 0x01] ++ wordBytes domainSeparator ++ wordBytes structHash)

/-- service_receipt.rs:830 -/
def verifyPayoutWalletSignature (P : Primitives) (p : ProviderSettlementPolicy)
    (payoutWalletSignature : WalletSignature) : Except ServiceReceiptError Unit := do
  failIf (payoutWalletSignature.v > 1 ∨ payoutWalletSignature.r = 0 ∨ payoutWalletSignature.s = 0 ∨
    payoutWalletSignature.s > secp256k1HalfOrder) .invalidWalletSignature
  let digest ← p.eip712Digest P
  let payoutWalletPublicKey ← okOr (P.recover payoutWalletSignature digest) .invalidWalletSignature
  failIf (¬P.verifyWallet payoutWalletPublicKey payoutWalletSignature digest ∨
    P.walletAddress payoutWalletPublicKey ≠ p.payoutWalletAddress) .invalidWalletSignature

end ProviderSettlementPolicy

/-- service_receipt.rs:982 -/
def AuthorizedProviderSettlement.verify (P : Primitives) (a : AuthorizedProviderSettlement) (expectedChainId : Nat)
    (expectedSettlementContract : Address) (expectedProviderPublicKey : PublicKey) (nowUnixS : Nat)
    (receiptCryptde : CryptDE) : Except ServiceReceiptError Address := do
  a.policy.validateStructure
  failIf (a.policy.chainId ≠ expectedChainId) .wrongChain
  failIf (a.policy.settlementContract ≠ expectedSettlementContract) .settlementContractMismatch
  failIf (a.policy.providerPublicKey ≠ expectedProviderPublicKey) .providerPublicKeyMismatch
  failIf (nowUnixS < a.policy.validFromUnixS) .providerSettlementAuthorizationNotYetValid
  failIf (nowUnixS > a.policy.expiresAtUnixS) .providerSettlementAuthorizationExpired
  a.policy.verifyPayoutWalletSignature P a.payoutWalletSignature
  failIf (a.providerSignature.length < a.policy.providerPublicKey.length ∨
    ¬P.verifySignature receiptCryptde (.providerSettlement a.policy a.payoutWalletSignature) a.providerSignature
      a.policy.providerPublicKey) .invalidProviderSettlementSignature
  return a.policy.payoutWalletAddress

/-- A verified authorization pays out to the wallet it names, on the chain and contract it was made for. -/
theorem AuthorizedProviderSettlement.verify_spec {P : Primitives} {a : AuthorizedProviderSettlement}
    {c now : Nat} {co payout : Address} {key : PublicKey} {cr : CryptDE}
    (h : a.verify P c co key now cr = .ok payout) :
    a.policy.chainId = c ∧ a.policy.settlementContract = co ∧ a.policy.payoutWalletAddress = payout := by
  simp only [AuthorizedProviderSettlement.verify, bind_eq_ok, failIf_eq_ok, pure_eq_ok, not_not] at h
  obtain ⟨_, -, _, hc, _, hco, _, -, _, -, _, -, _, -, _, -, hp⟩ := h
  exact ⟨hc, hco, hp⟩

end MasqMobile
