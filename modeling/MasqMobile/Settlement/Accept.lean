import MasqMobile.Settlement.Tables

/-!
# Accepting an acknowledged receipt

`ReceiptCheckpointDaoReal::accept_verified_receipt` (receipt_checkpoint_dao.rs:721): one transaction
that charges the authorization, moves the stream's checkpoint, credits the payer's receivable account
and puts the claim into the settlement outbox. Every SQL statement may fail (`faults`); the early
returns stand in the order of the source, and a transaction that is not committed is dropped.

`Accepted` says what a successful call found and wrote; later proofs use nothing else of it.
-/

namespace MasqMobile

open Fallible

inductive AcceptStatement where
  | begin
  | selectClaim
  | selectAuthorization
  | selectCheckpoint
  | writeAuthorization
  | writeCheckpoint
  | selectReceivable
  | writeReceivable
  | deleteArchivedClaim
  | writeClaim
  | commit
  deriving DecidableEq

/-- What fails in the database, and how. -/
abbrev AcceptFaults := AcceptStatement → Option String

def statement (faults : AcceptFaults) (s : AcceptStatement) : Except ReceiptCheckpointDaoError Unit :=
  match faults s with
  | some message => .error (.database message)
  | none => .ok ()

def maxDbBalance : Int := 2 ^ 126 - 1

/-- receipt_checkpoint_dao.rs:370 -/
def validateSettlementClaimForCheckpoint (payload : ServiceReceiptPayload)
    (checkpoint : ReceiptSequenceCheckpoint) : Except ReceiptCheckpointDaoError Unit :=
  failIf (payload.authorization.policy.payerSessionPublicKey ≠ checkpoint.payerSessionPublicKey ∨
    payload.acknowledgedReceipt.payerSessionPublicKey ≠ checkpoint.payerSessionPublicKey ∨
    payload.receipt.routeEpoch ≠ checkpoint.routeEpoch ∨
    payload.receipt.providerPublicKey ≠ checkpoint.providerPublicKey ∨
    payload.receipt.accountingCommitment ≠ checkpoint.accountingCommitment ∨
    payload.receipt.sequence ≠ checkpoint.lastSequence ∨
    payload.receipt.cumulativeChargeWei ≠ checkpoint.cumulativeChargeWei) .settlementClaimIdentityMismatch

variable (P : Primitives)

/-- receipt_checkpoint_dao.rs:773: a pending claim of the stream must be under the same authorization. -/
def checkStoredClaim (storedClaimOpt : Option OutboxRow)
    (authorization : AuthorizedReceiptSession) : Except ReceiptCheckpointDaoError Unit :=
  match storedClaimOpt with
  | some row => do
    let storedPayload ← deserializeSettlementClaim P row.claimId row.authorizationNonce row.payload
    failIf (storedPayload.authorization ≠ authorization) .settlementClaimIdentityMismatch
  | none => .ok ()

/-- receipt_checkpoint_dao.rs:805: what the stored authorization has spent, nothing if it is new. -/
def storedSpending (storedOpt : Option AuthorizationRow) (authorization : AuthorizedReceiptSession) :
    Except ReceiptCheckpointDaoError Nat :=
  match storedOpt with
  | some row => do
    failIf (row.authorization ≠ authorization) .authorizationIdentityMismatch
    return row.spentChargeWei
  | none => .ok 0

/-- receipt_checkpoint_dao.rs:842: what the new checkpoint adds to the stored one. -/
def checkpointDelta (storedOpt : Option ReceiptSequenceCheckpoint) (checkpoint : ReceiptSequenceCheckpoint) :
    Except ReceiptCheckpointDaoError Nat :=
  match storedOpt with
  | some stored => do
    failIf (checkpoint.routeEpoch ≠ stored.routeEpoch ∨ checkpoint.providerPublicKey ≠ stored.providerPublicKey ∨
      checkpoint.payerSessionPublicKey ≠ stored.payerSessionPublicKey ∨
      checkpoint.accountingCommitment ≠ stored.accountingCommitment) .checkpointIdentityMismatch
    failIf (checkpoint.lastSequence ≤ stored.lastSequence ∨
      checkpoint.cumulativeChargeWei ≤ stored.cumulativeChargeWei) .staleCheckpoint
    okOr (checkedSub checkpoint.cumulativeChargeWei stored.cumulativeChargeWei) .staleCheckpoint
  | none => .ok checkpoint.cumulativeChargeWei

def balanceOf (receivables : Table ReceivableRow ReceivableRow.walletAddress) (wallet : Address) : Int :=
  receivables.valueAt (·.balance.toInt) wallet

theorem balanceOf_inRange (re : Table ReceivableRow ReceivableRow.walletAddress) (w : Address) :
    SplitInt.InRange (balanceOf re w) := by
  unfold balanceOf Table.valueAt
  cases re.find w with
  | none => simp [SplitInt.InRange]
  | some row => exact row.balance.toInt_inRange

/-- receipt_checkpoint_dao.rs:919: the payer's row after the credit, inserted if it was missing. The
sum is in range for the two columns: the check bounds it from above, the old balance from below. -/
def creditedRow (receivables : Table ReceivableRow ReceivableRow.walletAddress) (wallet : Address)
    (delta timestamp : Nat) : Except ReceiptCheckpointDaoError ReceivableRow :=
  if h : delta < 2 ^ 127 ∧ balanceOf receivables wallet + delta ≤ maxDbBalance then
    have hrange : SplitInt.InRange (balanceOf receivables wallet + delta) := by
      have := balanceOf_inRange receivables wallet
      simp only [SplitInt.InRange, maxDbBalance] at *
      omega
    let balance := SplitInt.ofInt _ hrange
    match receivables.find wallet with
    | some row => .ok { row with balance }
    | none => .ok { walletAddress := wallet, balance, lastReceivedTimestamp := timestamp }
  else .error .balanceOverflow

/-- receipt_checkpoint_dao.rs:990: the update keeps the columns `claim_id` and `authorization_nonce`,
the insert is subject to the uniqueness of `claim_id`. -/
def claimRow (outbox : Table OutboxRow OutboxRow.streamId) (storedClaimOpt : Option OutboxRow)
    (payload : ServiceReceiptPayload) (timestamp : Nat) : Except ReceiptCheckpointDaoError OutboxRow :=
  match storedClaimOpt with
  | some row => .ok { row with payload, acceptedAtUnixS := timestamp }
  | none => do
    failIf (outbox.rows.any (·.claimId = receiptSettlementClaimId P payload))
      (.database "UNIQUE constraint failed: receipt_settlement_claim_outbox.claim_id")
    return { claimId := receiptSettlementClaimId P payload, authorizationNonce := payload.nonce, payload,
             acceptedAtUnixS := timestamp }

/-- The body of the transaction: the charge it adds, and the tables to commit. -/
def acceptBody (faults : AcceptFaults) (payload : ServiceReceiptPayload)
    (checkpoint : ReceiptSequenceCheckpoint) (timestamp : Nat) (db : ReceiptDb) :
    Except ReceiptCheckpointDaoError (Nat × ReceiptDb) := do
  validateSettlementClaimForCheckpoint payload checkpoint
  let authorization := payload.authorization
  failIf (authorization.policy.payerSessionPublicKey ≠ checkpoint.payerSessionPublicKey ∨
    makeAccountingCommitment P checkpoint.routeEpoch checkpoint.payerSessionPublicKey ≠
      checkpoint.accountingCommitment) .authorizationIdentityMismatch
  statement faults .begin
  statement faults .selectClaim
  let storedClaimOpt := db.outbox.find checkpoint.streamId
  checkStoredClaim P storedClaimOpt authorization
  statement faults .selectAuthorization
  let spentChargeWei ← storedSpending (db.authorizations.find payload.nonce) authorization
  statement faults .selectCheckpoint
  let chargeDelta ← checkpointDelta (db.checkpoints.find checkpoint.streamId) checkpoint
  let newSpentChargeWei ← okOr (checkedAdd 128 spentChargeWei chargeDelta) .amountLimitExceeded
  failIf (newSpentChargeWei > authorization.policy.maxTotalChargeWei) .amountLimitExceeded
  statement faults .writeAuthorization
  statement faults .writeCheckpoint
  statement faults .selectReceivable
  let receivable ← creditedRow db.receivables authorization.policy.payerWalletAddress chargeDelta timestamp
  statement faults .writeReceivable
  statement faults .deleteArchivedClaim
  let claim ← claimRow P db.outbox storedClaimOpt payload timestamp
  statement faults .writeClaim
  statement faults .commit
  return (chargeDelta, { db with
      authorizations := db.authorizations.put ⟨authorization, newSpentChargeWei⟩
      checkpoints := db.checkpoints.put checkpoint
      receivables := db.receivables.put receivable
      archive := db.archive.erase (receiptSettlementClaimId P payload)
      outbox := db.outbox.put claim })

/-- receipt_checkpoint_dao.rs:721 -/
def acceptVerifiedReceipt (faults : AcceptFaults) (payload : ServiceReceiptPayload)
    (checkpoint : ReceiptSequenceCheckpoint) (timestamp : Nat) (db : ReceiptDb) :
    Except ReceiptCheckpointDaoError Nat × ReceiptDb :=
  Transaction.atomically (acceptBody P faults payload checkpoint timestamp) db

/-! ## What a successful call found and wrote -/

def spentUnder (db : ReceiptDb) (nonce : Bytes32) : Nat := db.authorizations.valueAt (·.spentChargeWei) nonce

def checkpointAt (db : ReceiptDb) (stream : StreamId) : Nat := db.checkpoints.valueAt (·.cumulativeChargeWei) stream

structure Accepted (P : Primitives) (payload : ServiceReceiptPayload) (checkpoint : ReceiptSequenceCheckpoint)
    (timestamp : Nat) (db : ReceiptDb) (delta : Nat) (db' : ReceiptDb) : Prop where
  stream : payload.streamId = checkpoint.streamId
  charge : payload.receipt.cumulativeChargeWei = checkpoint.cumulativeChargeWei
  session : payload.authorization.policy.payerSessionPublicKey = payload.acknowledgedReceipt.payerSessionPublicKey
  commitment : payload.receipt.accountingCommitment =
    makeAccountingCommitment P payload.receipt.routeEpoch payload.acknowledgedReceipt.payerSessionPublicKey
  pending : ∀ row, db.outbox.find checkpoint.streamId = some row → row.payload.authorization = payload.authorization ∧
    row.authorizationNonce = payload.nonce ∧ row.claimId = receiptSettlementClaimId P row.payload
  authorization : ∀ row, db.authorizations.find payload.nonce = some row → row.authorization = payload.authorization
  delta_eq : checkpointAt db checkpoint.streamId + delta = checkpoint.cumulativeChargeWei
  capped : spentUnder db payload.nonce + delta ≤ payload.authorization.policy.maxTotalChargeWei
  authorizations' : db'.authorizations =
    db.authorizations.put ⟨payload.authorization, spentUnder db payload.nonce + delta⟩
  checkpoints' : db'.checkpoints = db.checkpoints.put checkpoint
  receivables' : ∃ row, db'.receivables = db.receivables.put row ∧
    row.walletAddress = payload.authorization.policy.payerWalletAddress ∧
    row.balance.toInt = balanceOf db.receivables payload.authorization.policy.payerWalletAddress + delta
  archive' : db'.archive = db.archive.erase (receiptSettlementClaimId P payload)
  outbox' : ∃ row, claimRow P db.outbox (db.outbox.find checkpoint.streamId) payload timestamp = .ok row ∧
    db'.outbox = db.outbox.put row
  reconciliation' : db'.reconciliation = db.reconciliation

section Spec

variable {P : Primitives} {faults : AcceptFaults} {pl : ServiceReceiptPayload}
  {cp : ReceiptSequenceCheckpoint} {ts delta : Nat} {db db' : ReceiptDb} {au : AuthorizedReceiptSession}

theorem storedSpending_eq_ok (h : storedSpending so au = .ok sp) :
    (∀ row, so = some row → row.authorization = au) ∧ sp = so.elim 0 (·.spentChargeWei) := by
  cases so with
  | none => simpa [storedSpending, eq_comm] using h
  | some row =>
    simp only [storedSpending, bind_eq_ok, failIf_eq_ok, pure_eq_ok, not_not] at h
    obtain ⟨_, hs, rfl⟩ := h
    refine ⟨?_, rfl⟩
    rintro _ ⟨rfl⟩
    exact hs

theorem checkpointDelta_eq_ok (h : checkpointDelta so cp = .ok delta) :
    so.elim 0 (·.cumulativeChargeWei) + delta = cp.cumulativeChargeWei := by
  cases so with
  | none => simpa [checkpointDelta, eq_comm] using h
  | some stored =>
    simp only [checkpointDelta, bind_eq_ok, failIf_eq_ok, okOr_eq_ok, checkedSub_eq_some_iff] at h
    obtain ⟨_, -, _, -, hle, rfl⟩ := h
    exact Nat.add_sub_cancel' hle

theorem checkStoredClaim_eq_ok {row : OutboxRow} (h : checkStoredClaim P (some row) au = .ok u) :
    row.payload.authorization = au ∧ row.authorizationNonce = row.payload.nonce ∧
      row.claimId = receiptSettlementClaimId P row.payload := by
  simp only [checkStoredClaim, bind_eq_ok, failIf_eq_ok, not_not, deserializeSettlementClaim_eq_ok_iff] at h
  obtain ⟨_, ⟨hn, -, hid, rfl⟩, hs⟩ := h
  exact ⟨hs, hn.symm, hid.symm⟩

variable {re : Table ReceivableRow ReceivableRow.walletAddress}

theorem creditedRow_eq_ok {row : ReceivableRow} (h : creditedRow re w delta ts = .ok row) :
    row.walletAddress = w ∧ row.balance.toInt = balanceOf re w + delta := by
  unfold creditedRow at h
  split at h
  · dsimp only at h
    split at h
    · rename_i old ho
      obtain rfl := Except.ok.inj h
      exact ⟨(Table.find_eq_some_iff.1 ho).2, by rw [SplitInt.toInt_ofInt]⟩
    · obtain rfl := Except.ok.inj h
      exact ⟨rfl, by rw [SplitInt.toInt_ofInt]⟩
  · cases h

/-- **A successful call**, whatever faults the database has. -/
theorem acceptBody_eq_ok (h : acceptBody P faults pl cp ts db = .ok (delta, db')) :
    Accepted P pl cp ts db delta db' := by
  simp only [acceptBody, validateSettlementClaimForCheckpoint, bind_eq_ok, failIf_eq_ok, okOr_eq_ok,
    pure_eq_ok, checkedAdd_eq_some_iff, not_or, not_not, Prod.mk.injEq] at h
  obtain ⟨_, ⟨hs1, hs2, he, hp, hco, -, hch⟩, _, ⟨-, hca⟩, _, -, _, -, _, hc, _, -,
    spent, hsp, _, -, _, hd, _, ⟨-, rfl⟩, _, hcap, _, -, _, -, _, -, receivable, hcr, _, -, _, -, claim,
    hr, _, -, _, -, rfl, rfl⟩ := h
  obtain ⟨ha, rfl⟩ := storedSpending_eq_ok hsp
  obtain ⟨hw, hb⟩ := creditedRow_eq_ok hcr
  exact {
    stream := by simp [ServiceReceiptPayload.streamId, ReceiptSequenceCheckpoint.streamId, he, hp, hs2]
    charge := hch
    session := hs1.trans hs2.symm
    commitment := by rw [hco, he, hs2, hca]
    pending := fun row hf => by
      rw [hf] at hc
      obtain ⟨hs, hn, hid⟩ := checkStoredClaim_eq_ok hc
      exact ⟨hs, by rw [hn, ServiceReceiptPayload.nonce, hs]; rfl, hid⟩
    authorization := ha
    delta_eq := checkpointDelta_eq_ok hd
    capped := not_lt.1 hcap
    authorizations' := rfl
    checkpoints' := rfl
    receivables' := ⟨receivable, rfl, hw, hb⟩
    archive' := rfl
    outbox' := ⟨claim, hr, rfl⟩
    reconciliation' := rfl }

theorem creditedRow_ok (ts : Nat) (hd : delta < 2 ^ 127) (hr : balanceOf re w + delta ≤ maxDbBalance) :
    ∃ row, creditedRow re w delta ts = .ok row := by
  simp only [creditedRow, dif_pos (And.intro hd hr)]
  cases re.find w with
  | none | some => exact ⟨_, rfl⟩

theorem claimRow_ok {sco : Option OutboxRow} (ts : Nat)
    (hu : sco = none → ∀ row ∈ o.rows, row.claimId ≠ receiptSettlementClaimId P pl) :
    ∃ row, claimRow P o sco pl ts = .ok row := by
  cases sco with
  | some row => exact ⟨_, rfl⟩
  | none =>
    simp only [claimRow, bind_eq_ok, failIf_eq_ok, pure_eq_ok]
    exact ⟨_, (), by simpa using hu rfl, rfl⟩

/-- **When a call succeeds**: the checkpoint is the payload's and moves the stored one, the stored rows are
of the same authorization, the limit and the payer's balance have room for the charge, and a new claim id is
not taken; and no statement fails. -/
theorem acceptBody_ok (pl : ServiceReceiptPayload) (cp : ReceiptSequenceCheckpoint) (ts : Nat)
    (db : ReceiptDb) (hv : validateSettlementClaimForCheckpoint pl cp = .ok ())
    (hco : makeAccountingCommitment P cp.routeEpoch cp.payerSessionPublicKey = cp.accountingCommitment)
    (hp : checkStoredClaim P (db.outbox.find cp.streamId) pl.authorization = .ok ())
    (hsp : storedSpending (db.authorizations.find pl.nonce) pl.authorization = .ok sp)
    (hd : checkpointDelta (db.checkpoints.find cp.streamId) cp = .ok delta)
    (hc : sp + delta ≤ pl.authorization.policy.maxTotalChargeWei)
    (hm : pl.authorization.policy.maxTotalChargeWei < 2 ^ 127)
    (hr : balanceOf db.receivables pl.authorization.policy.payerWalletAddress + delta ≤ maxDbBalance)
    (hu : db.outbox.find cp.streamId = none → ∀ row ∈ db.outbox.rows, row.claimId ≠ receiptSettlementClaimId P pl) :
    ∃ db', acceptBody P (fun _ => none) pl cp ts db = .ok (delta, db') := by
  have hs : pl.authorization.policy.payerSessionPublicKey = cp.payerSessionPublicKey := by
    simp only [validateSettlementClaimForCheckpoint, failIf_eq_ok, not_or, not_not] at hv
    exact hv.1
  obtain ⟨re, hre⟩ := creditedRow_ok ts (by omega) hr
  obtain ⟨claim, hcl⟩ := claimRow_ok ts hu
  simp only [acceptBody, bind_eq_ok, failIf_eq_ok, okOr_eq_ok, pure_eq_ok,
    checkedAdd_eq_some_iff, not_or, not_not, not_lt]
  exact ⟨_, (), hv, (), ⟨hs, hco⟩, (), rfl, (), rfl, (), hp, (), rfl, sp, hsp, (), rfl,
    delta, hd, _, ⟨by omega, rfl⟩, (), hc, (), rfl, (), rfl, (), rfl, re, hre, (), rfl, (), rfl,
    claim, hcl, (), rfl, (), rfl, rfl⟩

theorem acceptVerifiedReceipt_ok (h : (acceptVerifiedReceipt P faults pl cp ts db).1 = .ok delta) :
    Accepted P pl cp ts db delta (acceptVerifiedReceipt P faults pl cp ts db).2 :=
  acceptBody_eq_ok (Transaction.atomically_ok h)

theorem acceptVerifiedReceipt_error (h : (acceptVerifiedReceipt P faults pl cp ts db).1 = .error e) :
    (acceptVerifiedReceipt P faults pl cp ts db).2 = db :=
  Transaction.atomically_error h

theorem Accepted.findAuthorization (h : Accepted P pl cp ts db delta db') :
    db'.authorizations.find nonce = if pl.nonce = nonce
      then some ⟨pl.authorization, spentUnder db pl.nonce + delta⟩ else db.authorizations.find nonce := by
  rw [h.authorizations']
  split
  · rename_i heq
    subst heq
    exact Table.find_put_self _ (⟨pl.authorization, spentUnder db pl.nonce + delta⟩ : AuthorizationRow)
  · rename_i hne
    exact Table.find_put_of_ne _ hne

theorem Accepted.spentUnder_eq (h : Accepted P pl cp ts db delta db') :
    spentUnder db' non = spentUnder db non + if pl.nonce = non then delta else 0 := by
  rw [spentUnder, Table.valueAt, h.findAuthorization]
  by_cases hn : pl.nonce = non
  · subst hn
    simp
  · simp only [if_neg hn, add_zero]
    rfl

theorem balanceOf_accepted (h : Accepted P pl cp ts db delta db') (w : Address) :
    balanceOf db'.receivables w = balanceOf db.receivables w +
      if pl.authorization.policy.payerWalletAddress = w then (delta : Int) else 0 := by
  obtain ⟨row, hp, hwa, hb⟩ := h.receivables'
  rw [hp]
  by_cases hw : pl.authorization.policy.payerWalletAddress = w
  · subst hw
    rw [balanceOf, Table.valueAt, ← hwa, Table.find_put_self, if_pos rfl, hwa]
    exact hb
  · rw [balanceOf, Table.valueAt, Table.find_put_of_ne _ (by rwa [hwa]), if_neg hw, add_zero]
    rfl

end Spec

end MasqMobile
