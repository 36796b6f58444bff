import MasqMobile.Settlement.Accept

/-!
# Reconciling claims with the chain

`ReceiptCheckpointDaoReal::reconcile_settlement_claims` (receipt_checkpoint_dao.rs:1154): in one
transaction, each claim that the chain reports is archived when the chain has paid at least the local
amount, and moved back to the outbox when it has not. The loop over the reported claims is
`reconcileClaims`, one turn of it `reconcileClaim`; `ReconcileStep` lists what a turn can do.
-/

namespace MasqMobile

open Fallible

/-- receipt_checkpoint_dao.rs:37 -/
structure ConfirmedSettlementClaim where
  claimId : Bytes32
  cumulativeChargeWei : Nat

/-- receipt_checkpoint_dao.rs:61 -/
structure SettlementChainObservation where
  chainId : Nat
  settlementContract : Address
  confirmationDepth : Nat
  latestBlockNumber : Nat
  observedBlockNumber : Nat
  observedBlockHash : Bytes32
  claims : List ConfirmedSettlementClaim

/-- receipt_checkpoint_dao.rs:83 -/
structure SettlementReconciliationOutcome where
  archivedClaimCount : Nat
  restoredClaimCount : Nat
  stillPendingClaimCount : Nat
  revalidatedArchiveCount : Nat
  unknownClaimCount : Nat
  deriving DecidableEq

/-- The statements of the transaction; those of the loop carry the position of the claim. -/
inductive ReconcileStatement where
  | begin
  | selectCheckpoint
  | selectPending (claim : Nat)
  | insertArchived (claim : Nat)
  | deletePending (claim : Nat)
  | selectArchived (claim : Nat)
  | insertPending (claim : Nat)
  | deleteArchived (claim : Nat)
  | updateArchived (claim : Nat)
  | writeCheckpoint
  | commit

abbrev ReconcileFaults := ReconcileStatement → Option String

def reconcileStatement (faults : ReconcileFaults) (s : ReconcileStatement) : Except ReceiptCheckpointDaoError Unit :=
  match faults s with
  | some message => .error (.database message)
  | none => .ok ()

/-- A stored claim of another chain or contract refuses the observation. -/
def checkObserved (obs : SettlementChainObservation) (payload : ServiceReceiptPayload) :
    Except ReceiptCheckpointDaoError Unit :=
  failIf (payload.authorization.policy.chainId ≠ obs.chainId ∨
    payload.authorization.policy.settlementContract ≠ obs.settlementContract) .settlementObservationIdentityMismatch

def OutboxRow.archived (row : OutboxRow) (obs : SettlementChainObservation) (confirmation : ConfirmedSettlementClaim) :
    ArchiveRow where
  claimId := confirmation.claimId
  authorizationNonce := row.authorizationNonce
  payload := row.payload
  acceptedAtUnixS := row.acceptedAtUnixS
  confirmedCumulativeChargeWei := confirmation.cumulativeChargeWei
  observedBlockNumber := obs.observedBlockNumber
  observedBlockHash := obs.observedBlockHash

def ArchiveRow.restored (row : ArchiveRow) (confirmation : ConfirmedSettlementClaim) : OutboxRow where
  claimId := confirmation.claimId
  authorizationNonce := row.authorizationNonce
  payload := row.payload
  acceptedAtUnixS := row.acceptedAtUnixS

def ArchiveRow.revalidated (row : ArchiveRow) (obs : SettlementChainObservation)
    (confirmation : ConfirmedSettlementClaim) : ArchiveRow :=
  { row with
    confirmedCumulativeChargeWei := confirmation.cumulativeChargeWei
    observedBlockNumber := obs.observedBlockNumber
    observedBlockHash := obs.observedBlockHash }

variable (P : Primitives)

/-- receipt_checkpoint_dao.rs:1247: the claim is pending. -/
def reconcilePending (faults : ReconcileFaults) (obs : SettlementChainObservation) (i : Nat)
    (confirmation : ConfirmedSettlementClaim) (row : OutboxRow) (db : ReceiptDb)
    (outcome : SettlementReconciliationOutcome) :
    Except ReceiptCheckpointDaoError (ReceiptDb × SettlementReconciliationOutcome) := do
  let payload ← deserializeSettlementClaim P confirmation.claimId row.authorizationNonce row.payload
  checkObserved obs payload
  if confirmation.cumulativeChargeWei < payload.receipt.cumulativeChargeWei then
    return (db, { outcome with stillPendingClaimCount := outcome.stillPendingClaimCount + 1 })
  else
    reconcileStatement faults (.insertArchived i)
    reconcileStatement faults (.deletePending i)
    let removed (r : OutboxRow) : Bool := r.claimId = confirmation.claimId ∧ r.payload = row.payload
    return ({ db with archive := db.archive.put (row.archived obs confirmation), outbox := db.outbox.deleteWhere removed },
      { outcome with archivedClaimCount := outcome.archivedClaimCount + db.outbox.rows.countP removed })

/-- receipt_checkpoint_dao.rs:1320: the claim is archived. The insert into the outbox is subject to both
of its keys. -/
def reconcileArchived (faults : ReconcileFaults) (obs : SettlementChainObservation) (i : Nat)
    (confirmation : ConfirmedSettlementClaim) (row : ArchiveRow) (db : ReceiptDb)
    (outcome : SettlementReconciliationOutcome) :
    Except ReceiptCheckpointDaoError (ReceiptDb × SettlementReconciliationOutcome) := do
  let payload ← deserializeSettlementClaim P confirmation.claimId row.authorizationNonce row.payload
  checkObserved obs payload
  if confirmation.cumulativeChargeWei < payload.receipt.cumulativeChargeWei then
    reconcileStatement faults (.insertPending i)
    failIf (db.outbox.rows.any fun r => r.claimId = confirmation.claimId ∨ r.streamId = row.payload.streamId)
      (.database "UNIQUE constraint failed: receipt_settlement_claim_outbox")
    reconcileStatement faults (.deleteArchived i)
    return ({ db with outbox := db.outbox.put (row.restored confirmation), archive := db.archive.erase confirmation.claimId },
      { outcome with restoredClaimCount := outcome.restoredClaimCount + 1 })
  else
    reconcileStatement faults (.updateArchived i)
    return ({ db with archive := db.archive.put (row.revalidated obs confirmation) },
      { outcome with revalidatedArchiveCount := outcome.revalidatedArchiveCount + 1 })

/-- One turn of the loop (receipt_checkpoint_dao.rs:1224). -/
def reconcileClaim (faults : ReconcileFaults) (obs : SettlementChainObservation) (i : Nat)
    (confirmation : ConfirmedSettlementClaim) (db : ReceiptDb) (outcome : SettlementReconciliationOutcome) :
    Except ReceiptCheckpointDaoError (ReceiptDb × SettlementReconciliationOutcome) := do
  reconcileStatement faults (.selectPending i)
  match db.outbox.rows.find? (·.claimId = confirmation.claimId) with
  | some row => reconcilePending P faults obs i confirmation row db outcome
  | none => do
    reconcileStatement faults (.selectArchived i)
    match db.archive.find confirmation.claimId with
    | some row => reconcileArchived P faults obs i confirmation row db outcome
    | none => return (db, { outcome with unknownClaimCount := outcome.unknownClaimCount + 1 })

def reconcileClaims (P : Primitives) (faults : ReconcileFaults) (obs : SettlementChainObservation) :
    Nat → List ConfirmedSettlementClaim → ReceiptDb → SettlementReconciliationOutcome →
      Except ReceiptCheckpointDaoError (ReceiptDb × SettlementReconciliationOutcome)
  | _, [], db, outcome => .ok (db, outcome)
  | i, confirmation :: confirmations, db, outcome => do
    let (db, outcome) ← reconcileClaim P faults obs i confirmation db outcome
    reconcileClaims P faults obs (i + 1) confirmations db outcome

/-- receipt_checkpoint_dao.rs:1199: an observation must continue the stored one. -/
def checkContinues (obs : SettlementChainObservation) (storedOpt : Option ReconciliationRow) :
    Except ReceiptCheckpointDaoError Unit :=
  match storedOpt with
  | some stored => do
    failIf (stored.settlementContract ≠ obs.settlementContract ∨ stored.chainId ≠ obs.chainId)
      .settlementObservationIdentityMismatch
    failIf (obs.confirmationDepth < stored.confirmationDepth) .settlementConfirmationDepthReduced
    failIf (obs.observedBlockNumber < stored.observedBlockNumber) .settlementObservationRegressed
  | none => .ok ()

def reconcileBody (faults : ReconcileFaults) (obs : SettlementChainObservation) (db : ReceiptDb) :
    Except ReceiptCheckpointDaoError (SettlementReconciliationOutcome × ReceiptDb) := do
  failIf (obs.confirmationDepth = 0 ∨ obs.observedBlockNumber > obs.latestBlockNumber ∨
    checkedSub obs.latestBlockNumber obs.observedBlockNumber ≠ some obs.confirmationDepth ∨
    obs.observedBlockHash = 0) .settlementObservationInvalid
  failIf (¬(obs.claims.map (·.claimId)).Nodup) .settlementObservationInvalid
  reconcileStatement faults .begin
  reconcileStatement faults .selectCheckpoint
  checkContinues obs db.reconciliation
  let (db, outcome) ← reconcileClaims P faults obs 0 obs.claims db ⟨0, 0, 0, 0, 0⟩
  reconcileStatement faults .writeCheckpoint
  reconcileStatement faults .commit
  return (outcome, { db with reconciliation := some ⟨obs.chainId, obs.settlementContract, obs.confirmationDepth,
    obs.observedBlockNumber, obs.observedBlockHash⟩ })

/-- receipt_checkpoint_dao.rs:1154 -/
def reconcileSettlementClaims (faults : ReconcileFaults) (obs : SettlementChainObservation)
    (db : ReceiptDb) : Except ReceiptCheckpointDaoError SettlementReconciliationOutcome × ReceiptDb :=
  Transaction.atomically (reconcileBody P faults obs) db

/-! ## What a turn can do -/

/-- The tables after one turn of the loop, by what became of the claim. -/
inductive ReconcileStep (P : Primitives) (obs : SettlementChainObservation) (confirmation : ConfirmedSettlementClaim)
    (db : ReceiptDb) : ReceiptDb → Prop
  | same (hnot : (∃ r ∈ db.outbox.rows, r.claimId = confirmation.claimId) ∨
        ∀ a ∈ db.archive.rows, a.claimId ≠ confirmation.claimId) : ReconcileStep P obs confirmation db db
  | archived (row : OutboxRow) (hrow : row ∈ db.outbox.rows) (hid : row.claimId = confirmation.claimId)
      (hpaid : row.payload.receipt.cumulativeChargeWei ≤ confirmation.cumulativeChargeWei) :
      ReconcileStep P obs confirmation db { db with
        archive := db.archive.put (row.archived obs confirmation)
        outbox := db.outbox.deleteWhere fun r => r.claimId = confirmation.claimId ∧ r.payload = row.payload }
  | restored (row : ArchiveRow) (hrow : db.archive.find confirmation.claimId = some row)
      (hopen : confirmation.cumulativeChargeWei < row.payload.receipt.cumulativeChargeWei)
      (hid : ∀ r ∈ db.outbox.rows, r.claimId ≠ confirmation.claimId)
      (hstream : ∀ r ∈ db.outbox.rows, r.streamId ≠ row.payload.streamId) :
      ReconcileStep P obs confirmation db { db with
        outbox := db.outbox.put (row.restored confirmation), archive := db.archive.erase confirmation.claimId }
  | revalidated (row : ArchiveRow) (hrow : db.archive.find confirmation.claimId = some row)
      (hpaid : row.payload.receipt.cumulativeChargeWei ≤ confirmation.cumulativeChargeWei) :
      ReconcileStep P obs confirmation db { db with archive := db.archive.put (row.revalidated obs confirmation) }

section Spec

variable {P : Primitives} {faults : ReconcileFaults} {obs : SettlementChainObservation} {i : Nat}
  {cf : ConfirmedSettlementClaim} {db db' : ReceiptDb} {outcome outcome' : SettlementReconciliationOutcome}

theorem reconcilePending_step {row : OutboxRow} (hr : row ∈ db.outbox.rows) (hid : row.claimId = cf.claimId)
    (h : reconcilePending P faults obs i cf row db outcome = .ok (db', outcome')) :
    ReconcileStep P obs cf db db' := by
  simp only [reconcilePending, bind_eq_ok, deserializeSettlementClaim_eq_ok_iff] at h
  obtain ⟨payload, ⟨-, -, -, rfl⟩, _, -, h⟩ := h
  split at h
  · obtain ⟨rfl, -⟩ := Prod.mk.inj (pure_eq_ok.1 h)
    exact .same (.inl ⟨row, hr, hid⟩)
  · rename_i hp
    simp only [bind_eq_ok, pure_eq_ok, Prod.mk.injEq] at h
    obtain ⟨_, -, _, -, rfl, -⟩ := h
    exact .archived row hr hid (not_lt.1 hp)

theorem reconcileArchived_step {row : ArchiveRow} (hro : db.archive.find cf.claimId = some row)
    (h : reconcileArchived P faults obs i cf row db outcome = .ok (db', outcome')) :
    ReconcileStep P obs cf db db' := by
  simp only [reconcileArchived, bind_eq_ok, deserializeSettlementClaim_eq_ok_iff] at h
  obtain ⟨payload, ⟨-, -, -, rfl⟩, _, -, h⟩ := h
  split at h
  · rename_i ho
    simp only [bind_eq_ok, failIf_eq_ok, pure_eq_ok, Prod.mk.injEq, Bool.not_eq_true, List.any_eq_false,
      decide_eq_true_eq, not_or] at h
    obtain ⟨_, -, _, hf, _, -, rfl, -⟩ := h
    exact .restored row hro ho (fun r hr => (hf r hr).1) (fun r hr => (hf r hr).2)
  · rename_i hp
    simp only [bind_eq_ok, pure_eq_ok, Prod.mk.injEq] at h
    obtain ⟨_, -, rfl, -⟩ := h
    exact .revalidated row hro (not_lt.1 hp)

theorem reconcileClaim_step (h : reconcileClaim P faults obs i cf db outcome = .ok (db', outcome')) :
    ReconcileStep P obs cf db db' := by
  simp only [reconcileClaim, bind_eq_ok] at h
  obtain ⟨_, -, h⟩ := h
  split at h
  · rename_i row hr
    exact reconcilePending_step (List.mem_of_find?_eq_some hr) (by simpa using List.find?_some hr) h
  · simp only [bind_eq_ok] at h
    obtain ⟨_, -, h⟩ := h
    split at h
    · rename_i row hr
      exact reconcileArchived_step hr h
    · rename_i hn
      obtain ⟨rfl, -⟩ := Prod.mk.inj (pure_eq_ok.1 h)
      exact .same (.inr (Table.find_eq_none_iff.1 hn))

/-- **Invariant rule of the loop**, with the claims that it has dealt with. -/
theorem reconcileClaims_invariant
    (Inv : List ConfirmedSettlementClaim → ReceiptDb → SettlementReconciliationOutcome → Prop)
    (hs : ∀ {i done cf db outcome db' outcome'}, Inv done db outcome →
      reconcileClaim P faults obs i cf db outcome = .ok (db', outcome') → Inv (cf :: done) db' outcome')
    (h : reconcileClaims P faults obs i c db outcome = .ok (db', outcome')) (hdb : Inv l db outcome) :
    Inv (c.reverse ++ l) db' outcome' := by
  induction c generalizing i db outcome l with
  | nil =>
    obtain ⟨rfl, rfl⟩ := Prod.mk.inj (Except.ok.inj h)
    exact hdb
  | cons cf c ih =>
    simp only [reconcileClaims, bind_eq_ok] at h
    obtain ⟨⟨db₁, outcome₁⟩, ht, hr⟩ := h
    rw [List.reverse_cons, List.append_assoc, List.singleton_append]
    exact ih hr (hs hdb ht)

/-- What a successful reconciliation went through. -/
theorem reconcileSettlementClaims_ok (h : (reconcileSettlementClaims P faults obs db).1 = .ok outcome) :
    checkContinues obs db.reconciliation = .ok () ∧
      ∃ db₁, reconcileClaims P faults obs 0 obs.claims db ⟨0, 0, 0, 0, 0⟩ = .ok (db₁, outcome) ∧
        (reconcileSettlementClaims P faults obs db).2 = { db₁ with
          reconciliation := some ⟨obs.chainId, obs.settlementContract, obs.confirmationDepth, obs.observedBlockNumber,
            obs.observedBlockHash⟩ } := by
  have hb := Transaction.atomically_ok h
  simp only [reconcileBody, bind_eq_ok, pure_eq_ok, Prod.mk.injEq] at hb
  obtain ⟨_, -, _, -, _, -, _, -, _, hc, ⟨db₁, outcome₁⟩, hl, _, -, _, -, rfl, hf⟩ := hb
  exact ⟨hc, db₁, hl, hf.symm⟩

/-- **Invariant rule of a reconciliation**: turns of the loop, then the new reconciliation row. -/
theorem reconcile_invariant (Inv : ReceiptDb → Prop)
    (hst : ∀ cf db db', Inv db → ReconcileStep P obs cf db db' → Inv db')
    (hr : ∀ db row, Inv db → Inv { db with reconciliation := row }) (hdb : Inv db) :
    Inv (reconcileSettlementClaims P faults obs db).2 := by
  cases h : (reconcileSettlementClaims P faults obs db).1 with
  | error e =>
    have hs : (reconcileSettlementClaims P faults obs db).2 = db := Transaction.atomically_error h
    rwa [hs]
  | ok outcome =>
    obtain ⟨-, db₁, hl, hf⟩ := reconcileSettlementClaims_ok h
    rw [hf]
    exact hr db₁ _ (reconcileClaims_invariant (fun _ db _ => Inv db)
      (fun hi ht => hst _ _ _ hi (reconcileClaim_step ht)) hl (l := []) hdb)

end Spec

end MasqMobile
