import MasqMobile.Lib.Database
import MasqMobile.Lib.SplitInt
import MasqMobile.Receipt.Verify

/-!
# The provider's receipt tables

The tables of `node/src/database/db_initializer.rs` that `ReceiptCheckpointDaoReal`
(`node/src/accountant/db_access_objects/receipt_checkpoint_dao.rs`) reads and writes. A row holds the
value of its CBOR column; the key and amount columns that repeat a field of that value are read off it.
The outbox and the archive keep `claim_id` and `authorization_nonce` apart from the payload, because an
update replaces the payload and leaves these two columns alone.

| here | there |
| --- | --- |
| `authorizations` | `receipt_session_authorization` (db_initializer.rs:398) |
| `checkpoints` | `receipt_sequence_checkpoint` (db_initializer.rs:382) |
| `receivables` | `receivable` |
| `outbox` | `receipt_settlement_claim_outbox` (db_initializer.rs:466) |
| `archive` | `receipt_settlement_claim_archive` (db_initializer.rs:495) |
| `reconciliation` | `receipt_settlement_reconciliation_checkpoint` (db_initializer.rs:512) |
-/

namespace MasqMobile

open Fallible

/-- receipt_checkpoint_dao.rs:104; the variants of other operations are left out. -/
inductive ReceiptCheckpointDaoError where
  | amountLimitExceeded
  | authorizationIdentityMismatch
  | balanceOverflow
  | checkpointIdentityMismatch
  | database (message : String)
  | offerStateCapacityExceeded
  | offerStateIdentityMismatch
  | settlementClaimIdentityMismatch
  | settlementConfirmationDepthReduced
  | settlementObservationIdentityMismatch
  | settlementObservationInvalid
  | settlementObservationRegressed
  | staleCheckpoint
  | staleOfferState
  deriving DecidableEq

/-- The primary key of checkpoints and pending claims: route epoch, provider key, payer session key. -/
abbrev StreamId := Bytes32 × PublicKey × PublicKey

def ReceiptSequenceCheckpoint.streamId (c : ReceiptSequenceCheckpoint) : StreamId :=
  (c.routeEpoch, c.providerPublicKey, c.payerSessionPublicKey)

variable (p : ServiceReceiptPayload)

def ServiceReceiptPayload.streamId : StreamId :=
  (p.receipt.routeEpoch, p.receipt.providerPublicKey, p.acknowledgedReceipt.payerSessionPublicKey)

def ServiceReceiptPayload.nonce : Bytes32 := p.authorization.policy.authorizationNonce

def ServiceReceiptPayload.claimIdentity : ClaimIdentity where
  chainId := p.authorization.policy.chainId
  settlementContract := p.authorization.policy.settlementContract
  payerWalletAddress := p.authorization.policy.payerWalletAddress
  payerSessionPublicKey := p.acknowledgedReceipt.payerSessionPublicKey
  routeEpoch := p.receipt.routeEpoch
  providerPublicKey := p.receipt.providerPublicKey
  accountingCommitment := p.receipt.accountingCommitment

/-- sub_lib/receipt_settlement.rs:32 -/
def receiptSettlementClaimId (P : Primitives) (p : ServiceReceiptPayload) : Bytes32 :=
  P.hashClaimIdentity p.claimIdentity

structure AuthorizationRow where
  authorization : AuthorizedReceiptSession
  spentChargeWei : Nat

def AuthorizationRow.nonce (r : AuthorizationRow) : Bytes32 := r.authorization.policy.authorizationNonce

structure ReceivableRow where
  walletAddress : Address
  balance : SplitInt
  lastReceivedTimestamp : Nat

structure OutboxRow where
  claimId : Bytes32
  authorizationNonce : Bytes32
  payload : ServiceReceiptPayload
  acceptedAtUnixS : Nat

def OutboxRow.streamId (r : OutboxRow) : StreamId := r.payload.streamId

structure ArchiveRow where
  claimId : Bytes32
  authorizationNonce : Bytes32
  payload : ServiceReceiptPayload
  acceptedAtUnixS : Nat
  confirmedCumulativeChargeWei : Nat
  observedBlockNumber : Nat
  observedBlockHash : Bytes32

structure ReconciliationRow where
  chainId : Nat
  settlementContract : Address
  confirmationDepth : Nat
  observedBlockNumber : Nat
  observedBlockHash : Bytes32

structure ReceiptDb where
  authorizations : Table AuthorizationRow AuthorizationRow.nonce
  checkpoints : Table ReceiptSequenceCheckpoint ReceiptSequenceCheckpoint.streamId
  receivables : Table ReceivableRow ReceivableRow.walletAddress
  outbox : Table OutboxRow OutboxRow.streamId
  archive : Table ArchiveRow ArchiveRow.claimId
  reconciliation : Option ReconciliationRow

/-- A database whose receipt tables are empty, with any receivables. -/
def ReceiptDb.fresh (receivables : Table ReceivableRow ReceivableRow.walletAddress) : ReceiptDb where
  authorizations := .empty
  checkpoints := .empty
  receivables := receivables
  outbox := .empty
  archive := .empty
  reconciliation := none

/-- receipt_checkpoint_dao.rs:335: a stored claim whose columns and payload disagree is refused. The
comparisons of the key and amount columns hold by the shape of the rows. -/
def deserializeSettlementClaim (P : Primitives) (claimId authorizationNonce : Bytes32)
    (payload : ServiceReceiptPayload) : Except ReceiptCheckpointDaoError ServiceReceiptPayload := do
  failIf (payload.nonce ≠ authorizationNonce ∨
    payload.authorization.policy.payerSessionPublicKey ≠ payload.acknowledgedReceipt.payerSessionPublicKey)
    .settlementClaimIdentityMismatch
  failIf (receiptSettlementClaimId P payload ≠ claimId) .settlementClaimIdentityMismatch
  return payload

theorem deserializeSettlementClaim_eq_ok_iff {non : Bytes32} {payload payload' : ServiceReceiptPayload} :
    deserializeSettlementClaim P c non payload = .ok payload' ↔ payload.nonce = non ∧
      payload.authorization.policy.payerSessionPublicKey = payload.acknowledgedReceipt.payerSessionPublicKey ∧
      receiptSettlementClaimId P payload = c ∧ payload = payload' := by
  simp only [deserializeSettlementClaim, bind_eq_ok, failIf_eq_ok, pure_eq_ok, not_or, not_not]
  grind

end MasqMobile
