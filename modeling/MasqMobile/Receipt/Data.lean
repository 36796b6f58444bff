import MasqMobile.Lib.Fallible

/-!
# Service receipts: the data model

`node/src/sub_lib/service_receipt.rs`. A provider signs a `ServiceReceipt` for a billable service, the
consumer countersigns it with the key of a receipt session, and the session key itself is authorized
by a wallet up to `maxTotalChargeWei`.

Integers of the source are `Nat`; where the code's arithmetic is checked, so is the model's
(`Fallible.checkedAdd 128` and so on). `[u8; 32]` is `Bytes32`. CBOR never fails on these types and
is injective, so what is signed is the signed value itself, tagged by its domain (`SigningData`).

| here | there |
| --- | --- |
| `Primitives` | `keccak256`, the `ethsign` signature, the `CryptDE` trait and `rustc_hex`: code outside this repository |
-/

namespace MasqMobile

/-- `[u8; 32]`, big-endian. -/
abbrev Bytes32 := BitVec 256

abbrev Address := BitVec 160

/-- `PublicKey`: an opaque byte string. -/
abbrev PublicKey := List UInt8

instance : LawfulBEq Bytes32 := inferInstance

instance : LawfulBEq Address := inferInstance

instance : LawfulBEq PublicKey := inferInstance

/-- `CryptData`: ciphertext or a signature of the transport key. -/
abbrev CryptData := List UInt8

structure WalletSignature where
  v : UInt8
  r : Bytes32
  s : Bytes32
  deriving DecidableEq

inductive ServiceKind where
  | routing
  | exit
  deriving DecidableEq

/-- service_receipt.rs:51 -/
structure ServiceReceipt where
  protocolVersion : Nat
  routeEpoch : Bytes32
  sequence : Nat
  serviceKind : ServiceKind
  providerPublicKey : PublicKey
  accountingCommitment : Bytes32
  payloadSize : Nat
  serviceUnits : Nat
  serviceRate : Nat
  byteRate : Nat
  cumulativeChargeWei : Nat
  deriving DecidableEq

/-- service_receipt.rs:78 -/
structure SignedServiceReceipt where
  receipt : ServiceReceipt
  providerSignature : CryptData
  deriving DecidableEq

/-- service_receipt.rs:90 -/
structure AcknowledgedServiceReceipt where
  signedReceipt : SignedServiceReceipt
  payerSessionPublicKey : PublicKey
  payerSignature : CryptData
  deriving DecidableEq

/-- service_receipt.rs:105 -/
structure ReceiptSessionPolicy where
  protocolVersion : Nat
  chainId : Nat
  settlementContract : Address
  payerWalletAddress : Address
  payerSessionPublicKey : PublicKey
  maxTotalChargeWei : Nat
  validFromUnixS : Nat
  expiresAtUnixS : Nat
  authorizationNonce : Bytes32
  deriving DecidableEq

/-- service_receipt.rs:125 -/
structure AuthorizedReceiptSession where
  policy : ReceiptSessionPolicy
  walletSignature : WalletSignature
  deriving DecidableEq

/-- service_receipt.rs:181 -/
structure ReceiptSessionRequest where
  authorization : AuthorizedReceiptSession
  routeEpoch : Bytes32
  accountingCommitment : Bytes32
  deriving DecidableEq

/-- `ServiceReceiptPayload_0v1` (service_receipt.rs:200). -/
structure ServiceReceiptPayload where
  authorization : AuthorizedReceiptSession
  acknowledgedReceipt : AcknowledgedServiceReceipt
  deriving DecidableEq

def ServiceReceiptPayload.receipt (p : ServiceReceiptPayload) : ServiceReceipt :=
  p.acknowledgedReceipt.signedReceipt.receipt

/-- service_receipt.rs:141 -/
structure ProviderSettlementPolicy where
  protocolVersion : Nat
  chainId : Nat
  settlementContract : Address
  payoutWalletAddress : Address
  providerPublicKey : PublicKey
  validFromUnixS : Nat
  expiresAtUnixS : Nat
  authorizationNonce : Bytes32
  deriving DecidableEq

/-- service_receipt.rs:161 -/
structure AuthorizedProviderSettlement where
  policy : ProviderSettlementPolicy
  payoutWalletSignature : WalletSignature
  providerSignature : CryptData
  deriving DecidableEq

/-- sub_lib/receipt_settlement.rs:57 -/
structure ReceiptSettlementClaim where
  receiptPayload : ServiceReceiptPayload
  providerSettlement : AuthorizedProviderSettlement
  deriving DecidableEq

/-- service_receipt.rs:228 -/
structure ReceiptSequenceCheckpoint where
  routeEpoch : Bytes32
  providerPublicKey : PublicKey
  accountingCommitment : Bytes32
  payerSessionPublicKey : PublicKey
  lastSequence : Nat
  cumulativeChargeWei : Nat
  deriving DecidableEq

/-- `CryptdecError` (sub_lib/cryptde.rs:528). -/
inductive CryptdecError where
  | emptyKey
  | emptyData
  | invalidKey (message : String)
  | invalidSignature (message : String)
  | openingFailed
  | otherError (message : String)
  deriving DecidableEq

/-- service_receipt.rs:292 -/
inductive ServiceReceiptError where
  | amountLimitExceeded
  | accountingCommitmentMismatch
  | cumulativeChargeMismatch
  | cumulativeChargeOverflow
  | emptyAmountLimit
  | emptyAuthorizationNonce
  | emptyAccountingCommitment
  | emptyPayerSessionPublicKey
  | emptyPayerWallet
  | emptyProviderPayoutWallet
  | emptyProviderPublicKey
  | emptyRouteEpoch
  | emptyServiceUnits
  | emptySettlementContract
  | invalidChain
  | invalidAuthorizationWindow
  | invalidPayerSignature
  | invalidProviderSignature
  | invalidProviderSettlementSignature
  | invalidWalletSignature
  | nonMonotonicSequence
  | providerPublicKeyMismatch
  | providerSettlementAuthorizationExpired
  | providerSettlementAuthorizationNotYetValid
  | routeEpochMismatch
  | sessionAuthorizationExpired
  | sessionAuthorizationNotYetValid
  | sessionKeyMismatch
  | settlementContractMismatch
  | signing (error : CryptdecError)
  | wrongChain
  | unsupportedProtocolVersion (version : Nat)
  deriving DecidableEq

/-! ## What lies outside the repository -/

/-- The bytes a transport key signs: the domain separator and the CBOR of the value.
`ServiceReceipt::signing_data` (service_receipt.rs:576),
`SignedServiceReceipt::acknowledgement_data` (service_receipt.rs:1065) and
`ProviderSettlementPolicy::transport_signing_data` (service_receipt.rs:963). -/
inductive SigningData where
  | serviceReceipt (receipt : ServiceReceipt)
  | acknowledgement (signed : SignedServiceReceipt) (payerSessionPublicKey : PublicKey)
  | providerSettlement (policy : ProviderSettlementPolicy) (payoutWalletSignature : WalletSignature)
  deriving DecidableEq

structure CryptDE where
  publicKey : PublicKey
  secret : List UInt8
  deriving DecidableEq

/-- What identifies one cumulative stream of a provider for settlement
(`receipt_settlement_claim_id`, sub_lib/receipt_settlement.rs:32). -/
structure ClaimIdentity where
  chainId : Nat
  settlementContract : Address
  payerWalletAddress : Address
  payerSessionPublicKey : PublicKey
  routeEpoch : Bytes32
  providerPublicKey : PublicKey
  accountingCommitment : Bytes32
  deriving DecidableEq

/-- Hashing, signatures and hexadecimal decoding, as the code calls them. -/
structure Primitives where
  keccak256 : List UInt8 → Bytes32
  /-- `keccak256` of the claim-id domain and the CBOR of the identity. -/
  hashClaimIdentity : ClaimIdentity → Bytes32
  /-- `serde_cbor::to_vec` of a settlement claim. -/
  claimCbor : ReceiptSettlementClaim → List UInt8
  /-- `Signature::recover` of a digest to a wallet public key. -/
  recover : WalletSignature → Bytes32 → Option (List UInt8)
  /-- `PublicKey::verify(..).unwrap_or(false)` of the recovered wallet key. -/
  verifyWallet : List UInt8 → WalletSignature → Bytes32 → Bool
  /-- `PublicKey::address` of the recovered wallet key. -/
  walletAddress : List UInt8 → Address
  /-- `CryptDE::sign`. -/
  sign : CryptDE → SigningData → Except CryptdecError CryptData
  /-- `CryptDE::verify_signature`. -/
  verifySignature : CryptDE → SigningData → CryptData → PublicKey → Bool
  /-- `CryptDE::to_string`: the key pair as it is persisted. -/
  cryptdeToString : CryptDE → String
  /-- `CryptDEReal::make_from_str`. -/
  makeFromStr : String → Except String CryptDE
  /-- `FromHex::from_hex`. -/
  fromHex : String → Except String (List UInt8)

/-- Primitives under which every signature verifies, for evaluating the model on concrete inputs. -/
def Primitives.accepting : Primitives where
  keccak256 _ := 1
  hashClaimIdentity identity := identity.routeEpoch
  claimCbor _ := []
  recover _ _ := some []
  verifyWallet _ _ _ := true
  walletAddress _ := 1
  sign _ _ := .ok [0]
  verifySignature _ _ _ _ := true
  cryptdeToString _ := ""
  makeFromStr _ := .error ""
  fromHex _ := .ok (List.replicate 64 1 ++ [0])

end MasqMobile
