import MasqMobile.Payments.Report

/-!
# Confirmed payments and the debt they pay

`finish_scan` takes the amount of every ordinary confirmation off the payable account of its receiver
(`handle_standard_confirmations`). A reclaim, that is a failed transaction found on the chain after all, becomes a
confirmed record of `sent_payable` too and is added to the total of paid payables (`handle_tx_failure_reclaims`), but
no account changes.
-/

namespace MasqMobile

open Fallible Payables SentPayables

namespace PendingPayableScanner

/-! ## What a message confirms -/

/-- The record of `sent_payable` that an answer confirms. -/
def standardConfirmationOf (sent : SentPayables) : TxHashByTable × TxReceiptResult → Option SentTx
  | (.sentPayable hash, .ok (.succeeded block)) =>
    (sent.find hash).map fun tx => { tx with status := .confirmed block .normal }
  | _ => none

/-- The record of `failed_payable` that an answer reclaims, as it enters `sent_payable`. -/
def reclaimOf (failed : RecheckRequiringFailures) : TxHashByTable × TxReceiptResult → Option SentTx
  | (.failedPayable hash, .ok (.succeeded block)) => (failed.find hash).map (SentTx.ofFailed · block)
  | _ => none

variable (s : PendingPayableScanner) (message : TxReceiptsMessage)

def standardConfirmationsBy : List SentTx := message.results.filterMap (standardConfirmationOf s.currentSentPayables)

def reclaimedBy : List SentTx := message.results.filterMap (reclaimOf s.suspectedFailedPayables)

/-- The transactions that a message turns into confirmed records of `sent_payable`. -/
def confirmedBy : List SentTx := s.reclaimedBy message ++ s.standardConfirmationsBy message

/-! ## What the report says -/

variable {ck : Nat} {db db' : PaymentDb} {s s' : PendingPayableScanner} {rep : ReceiptScanReport}
  {message : TxReceiptsMessage} {txs : List SentTx}

theorem Resolves.confirmations {sent : SentPayables} (h : Resolves sent f re t) :
    t.filterMap caseConfirmation = re.filterMap (standardConfirmationOf sent) ∧
      t.filterMap caseReclaim = re.filterMap (reclaimOf f) := by
  induction h with
  | nil => exact ⟨rfl, rfl⟩
  | @cons answer txCase _ _ hc _ ih =>
    obtain ⟨key, result⟩ := answer
    obtain ⟨tx, _⟩ := txCase
    obtain ⟨hr, rfl⟩ := hc
    simp only [List.filterMap_cons, ih.1, ih.2]
    cases key with
    | sentPayable hash | failedPayable hash =>
      obtain ⟨record, hf, rfl⟩ := Option.map_eq_some_iff.1 hr
      rcases result with e | _ | block | _ <;>
        simp [caseConfirmation, caseReclaim, standardConfirmationOf, reclaimOf, hf]

theorem interpretTxReceipts_confirmations (h : s.interpretTxReceipts ck message = .ok rep) :
    rep.standardConfirmations = s.standardConfirmationsBy message ∧ rep.reclaims = s.reclaimedBy message := by
  obtain ⟨-, txCases, hr, -, rfl⟩ := interpretTxReceipts_eq_ok_iff.1 h
  exact hr.confirmations

/-! ## What handling the report does -/

theorem addToTheTotalOfPaidPayable_ok (h : s.addToTheTotalOfPaidPayable c = .ok s') :
    s' = { s with totalPaidPayableWei := s.totalPaidPayableWei + (c.map SentTx.amountMinor).sum } := by
  simp only [addToTheTotalOfPaidPayable, bind_eq_ok, okOr_eq_ok, checkedAdd_eq_some_iff, pure_eq_ok] at h
  obtain ⟨_, _, _, ⟨-, rfl⟩, rfl⟩ := h
  rfl

theorem collectHashesAndBlocks_ok (h : collectHashesAndBlocks txs = .ok ha) :
    ha.map Prod.fst = txs.map SentTx.hash ∧ ∀ tx ∈ txs, tx.status.isConfirmed := by
  induction txs generalizing ha with
  | nil =>
    cases h
    simp
  | cons tx txs ih =>
    rw [collectHashesAndBlocks] at h
    split at h
    · rename_i block detection hs
      simp only [bind_eq_ok, pure_eq_ok] at h
      obtain ⟨rest, hr, rfl⟩ := h
      obtain ⟨hm, hc⟩ := ih hr
      refine ⟨by simp [hm], ?_⟩
      rw [List.forall_mem_cons]
      exact ⟨by simp [hs, TxStatus.isConfirmed], hc⟩
    · cases h

theorem handleTxFailureReclaims_ok (h : s.handleTxFailureReclaims re = .ok s') :
    s'.db.payable = s.db.payable ∧ s'.totalPaidPayableWei = s.totalPaidPayableWei + (re.map SentTx.amountMinor).sum ∧
      ∀ tx ∈ re, s'.db.sentPayable.Recorded tx.hash := by
  unfold handleTxFailureReclaims at h
  split at h
  · rename_i hn
    cases h
    simp [hn]
  · simp only [bind_eq_ok, mapErr_eq_ok] at h
    obtain ⟨ha, hc, sentPayable, hr, failedPayable, -, ht⟩ := h
    obtain rfl := addToTheTotalOfPaidPayable_ok ht
    refine ⟨rfl, rfl, ?_⟩
    intro tx htx
    have hm : tx ∈ sentPayable.rows := mem_of_replaceRecords hr (List.mem_dedup.2 htx)
    exact ⟨tx, hm, rfl, (collectHashesAndBlocks_ok hc).2 tx htx⟩

theorem handleStandardConfirmations_ok (h : s.handleStandardConfirmations c = .ok s') :
    (∀ wallet, s'.db.payable.owedTo wallet = s.db.payable.owedTo wallet - paidTo wallet c) ∧
      s'.totalPaidPayableWei = s.totalPaidPayableWei + (c.map SentTx.amountMinor).sum ∧
      ∀ hash, hash ∈ c.map SentTx.hash ∨ s.db.sentPayable.Recorded hash → s'.db.sentPayable.Recorded hash := by
  unfold handleStandardConfirmations at h
  split at h
  · rename_i hn
    cases h
    simp [hn, paidTo]
  · simp only [bind_eq_ok, mapErr_eq_ok] at h
    obtain ⟨payable, hp, txConfirmations, hco, sentPayable, hc, ht⟩ := h
    obtain rfl := addToTheTotalOfPaidPayable_ok ht
    refine ⟨transactionsConfirmed_owedTo hp, rfl, ?_⟩
    intro hash hr
    simp only [confirmTxs, bind_eq_ok] at hc
    obtain ⟨_, -, he⟩ := hc
    exact confirmEach_recorded he (by rwa [(collectHashesAndBlocks_ok hco).1])

/-- Once the confirmations are handled, each is a confirmed record of `sent_payable`. -/
theorem handleConfirmedTransactions_recorded (h : s.handleConfirmedTransactions rep = .ok s')
    (htx : tx ∈ rep.reclaims ++ rep.standardConfirmations) : s'.db.sentPayable.Recorded tx.hash := by
  simp only [handleConfirmedTransactions, bind_eq_ok] at h
  obtain ⟨s₁, hrec, hs⟩ := h
  obtain ⟨-, -, hre⟩ := handleStandardConfirmations_ok hs
  refine hre tx.hash ?_
  rcases List.mem_append.1 htx with hr | hc
  · exact .inr ((handleTxFailureReclaims_ok hrec).2.2 tx hr)
  · exact .inl (List.mem_map_of_mem hc)

theorem addNewFailures_payable (h : addNewFailures nf db = .ok db') : db'.payable = db.payable := by
  unfold addNewFailures at h
  split at h
  · cases h
    rfl
  · simp only [bind_eq_ok, pure_eq_ok] at h
    obtain ⟨_, _, _, _, rfl⟩ := h
    rfl

theorem finalizeSuspectedFailures_payable (h : finalizeSuspectedFailures rc db = .ok db') : db'.payable =
    db.payable := by
  unfold finalizeSuspectedFailures at h
  split at h
  · cases h
    rfl
  · simp only [bind_eq_ok, pure_eq_ok] at h
    obtain ⟨_, _, rfl⟩ := h
    rfl

theorem updateValidationStatusForSentTxs_payable (h : updateValidationStatusForSentTxs ck f db = .ok db') :
    db'.payable = db.payable := by
  simp only [updateValidationStatusForSentTxs, bind_eq_ok] at h
  obtain ⟨u, _, h⟩ := h
  split at h
  · cases h
    rfl
  · simp only [bind_eq_ok, pure_eq_ok] at h
    obtain ⟨_, _, rfl⟩ := h
    rfl

theorem updateValidationStatusForFailedTxs_payable (h : updateValidationStatusForFailedTxs ck f db = .ok db') :
    db'.payable = db.payable := by
  simp only [updateValidationStatusForFailedTxs, bind_eq_ok] at h
  obtain ⟨u, _, h⟩ := h
  split at h
  · cases h
    rfl
  · simp only [bind_eq_ok, pure_eq_ok] at h
    obtain ⟨_, _, rfl⟩ := h
    rfl

theorem handleFailedTransactions_payable
    (h : handleFailedTransactions ck rep db = .ok db') : db'.payable = db.payable := by
  simp only [handleFailedTransactions, bind_eq_ok] at h
  obtain ⟨db₁, hn, db₂, hfi, db₃, hs, hf⟩ := h
  rw [updateValidationStatusForFailedTxs_payable hf, updateValidationStatusForSentTxs_payable hs,
    finalizeSuspectedFailures_payable hfi, addNewFailures_payable hn]

/-- **The books after a scan.** The accounts lose what the ordinary confirmations pay, the total grows by what
all confirmations pay. -/
theorem finishScan_ledger (h : s.finishScan ck message = .ok (re, s')) : (∀ wallet, s'.db.payable.owedTo wallet =
        s.db.payable.owedTo wallet - paidTo wallet (s.standardConfirmationsBy message)) ∧
      s'.totalPaidPayableWei = s.totalPaidPayableWei + ((s.confirmedBy message).map SentTx.amountMinor).sum := by
  simp only [finishScan, bind_eq_ok, pure_eq_ok, Prod.mk.injEq] at h
  obtain ⟨rep, hrep, s₁, hc, db, hf, -, rfl⟩ := h
  obtain ⟨hs, hre⟩ := interpretTxReceipts_confirmations hrep
  simp only [handleConfirmedTransactions, bind_eq_ok] at hc
  obtain ⟨s₂, hr, hco⟩ := hc
  obtain ⟨hp, ht₂, -⟩ := handleTxFailureReclaims_ok hr
  obtain ⟨ho, ht₁, -⟩ := handleStandardConfirmations_ok hco
  rw [hs] at ho ht₁
  rw [hre] at ht₂
  constructor
  · intro wallet
    rw [handleFailedTransactions_payable hf, ho wallet, hp]
    rfl
  · rw [ht₁, ht₂, confirmedBy, List.map_append, List.sum_append, ← Nat.add_assoc]
    rfl

/-! ## Debt and payment -/

/-- Every account loses what the transactions pay to its wallet, and the total grows by all of it. -/
structure DebtReduced (s s' : PendingPayableScanner) (txs : List SentTx) : Prop where
  owed : ∀ wallet, s'.db.payable.owedTo wallet = s.db.payable.owedTo wallet - paidTo wallet txs
  total : s'.totalPaidPayableWei = s.totalPaidPayableWei + (txs.map SentTx.amountMinor).sum

/-- No failed transaction of a non-zero amount is reported as succeeded. -/
def ReclaimsNothing (s : PendingPayableScanner) (message : TxReceiptsMessage) : Prop :=
  ∀ hash block, (.failedPayable hash, .ok (.succeeded block)) ∈ message.results →
    ∀ failedTx, s.suspectedFailedPayables.find hash = some failedTx → failedTx.amountMinor = 0

theorem reclaimsNothing_iff : s.ReclaimsNothing message ↔ ∀ tx ∈ s.reclaimedBy message, tx.amountMinor = 0 := by
  constructor
  · intro h tx htx
    obtain ⟨⟨key, result⟩, hm, hr⟩ := List.mem_filterMap.1 htx
    unfold reclaimOf at hr
    split at hr
    · rename_i hash block heq
      obtain ⟨f, hf, rfl⟩ := Option.map_eq_some_iff.1 hr
      obtain ⟨rfl, rfl⟩ := Prod.mk.inj heq
      exact h hash block hm f hf
    · cases hr
  · intro h hash block hm f hf
    refine h (SentTx.ofFailed f block) (List.mem_filterMap.2 ⟨_, hm, ?_⟩)
    simp [reclaimOf, hf]

theorem paidTo_eq_zero_iff : (∀ wallet, paidTo wallet txs = 0) ↔ ∀ tx ∈ txs, tx.amountMinor = 0 := by
  constructor
  · intro h tx htx
    have hz := List.sum_eq_zero_iff.1 (h tx.receiverAddress)
    exact hz tx.amountMinor (List.mem_map_of_mem (List.mem_filter.2 ⟨htx, by simp⟩))
  · intro h wallet
    refine List.sum_eq_zero_iff.2 ?_
    intro amount ha
    obtain ⟨tx, htx, rfl⟩ := List.mem_map.1 ha
    exact h tx (List.mem_filter.1 htx).1

/-- **Debt paid by confirmations.** A scan that returns has made every transaction that the message confirms a
confirmed record of `sent_payable`. It takes off the accounts exactly what it confirms if and only if it
reclaims nothing. -/
theorem confirmed_payments_reduce_debt {ck : Nat} {message : TxReceiptsMessage} {s s' : PendingPayableScanner}
    {result : PendingPayableScanResult} (h : s.finishScan ck message = .ok (result, s')) :
    (∃ rep handled, s.interpretTxReceipts ck message = .ok rep ∧
        s.emptyCaches.handleConfirmedTransactions rep = .ok handled ∧
        ∀ tx ∈ s.confirmedBy message, handled.db.sentPayable.Recorded tx.hash) ∧
      (s.DebtReduced s' (s.confirmedBy message) ↔ s.ReclaimsNothing message) := by
  obtain ⟨ho, ht⟩ := finishScan_ledger h
  have hs : ∀ wallet, paidTo wallet (s.confirmedBy message) =
      paidTo wallet (s.reclaimedBy message) + paidTo wallet (s.standardConfirmationsBy message) := by
    intro wallet
    simp [confirmedBy, paidTo]
  refine ⟨?_, ?_⟩
  · simp only [finishScan, bind_eq_ok] at h
    obtain ⟨rep, hr, handled, hc, -⟩ := h
    refine ⟨rep, handled, hr, hc, ?_⟩
    intro tx htx
    obtain ⟨hst, hre⟩ := interpretTxReceipts_confirmations hr
    rw [confirmedBy, ← hst, ← hre] at htx
    exact handleConfirmedTransactions_recorded hc htx
  · rw [reclaimsNothing_iff, ← paidTo_eq_zero_iff]
    constructor
    · intro hred wallet
      have hb := ho wallet
      have hcl := hred.owed wallet
      rw [hs wallet] at hcl
      omega
    · intro hz
      refine ⟨?_, ht⟩
      intro wallet
      rw [ho wallet, hs wallet, hz wallet, Nat.zero_add]

/-! ### A reclaim -/

/-- A payment of 40 to wallet 1 under nonce 5 that was given up for pending too long. -/
def sampleFailedTx : FailedTx where
  hash := 7
  receiverAddress := 1
  amountMinor := 40
  timestamp := 1000
  gasPriceMinor := 2
  nonce := 5
  reason := .pendingTooLong
  status := .recheckRequired .waiting

/-- The transaction that was sent in its place. -/
def sampleReplacement (status : TxStatus) : SentTx where
  hash := 8
  receiverAddress := 1
  amountMinor := 40
  timestamp := 1500
  gasPriceMinor := 3
  nonce := 5
  status := status

/-- Wallet 1 is owed 100; the tables hold the given transactions. -/
def sampleScanner (sent : SentTx) (failed : List FailedTx) : PendingPayableScanner where
  db := {
    payable := ⟨[⟨1, .ofInt 100 (by decide), 900, none⟩], by decide⟩
    sentPayable := ⟨[sent], by simp⟩
    failedPayable := failed }
  currentSentPayables := .empty
  suspectedFailedPayables := .empty
  totalPaidPayableWei := 0
  initiatedAt := none

/-- The scan asks for the receipt of the failed transaction and is told that it succeeded. -/
def sampleReclaim : PendingPayableScanner :=
  ((sampleScanner (sampleReplacement (.confirmed ⟨3, 30⟩ .normal)) [sampleFailedTx]).startScan 2000).2

def sampleReclaimReceipts : TxReceiptsMessage := ⟨[(.failedPayable 7, .ok (.succeeded ⟨4, 40⟩))], none⟩

/-- The reclaimed 40 are counted as paid, and wallet 1 is still owed 100. -/
theorem reclaim_leaves_debt : ∃ result s', sampleReclaim.finishScan 2100 sampleReclaimReceipts = .ok (result, s') ∧
    ¬sampleReclaim.DebtReduced s' (sampleReclaim.confirmedBy sampleReclaimReceipts) := by
  refine ⟨_, _, rfl, ?_⟩
  intro hr
  exact absurd (hr.owed 1) (by decide)

/-- The scan asks for the receipt of a pending transaction. -/
def sampleConfirmation : PendingPayableScanner :=
  ((sampleScanner (sampleReplacement (.pending .waiting)) []).startScan 2000).2

def sampleConfirmationReceipts : TxReceiptsMessage := ⟨[(.sentPayable 8, .ok (.succeeded ⟨4, 40⟩))], none⟩

theorem confirmed_payments_reduce_debt_sample : ∃ result s',
    sampleConfirmation.finishScan 2100 sampleConfirmationReceipts = .ok (result, s') ∧
      sampleConfirmation.DebtReduced s' (sampleConfirmation.confirmedBy sampleConfirmationReceipts) := by
  have hr : ∃ result s', sampleConfirmation.finishScan 2100 sampleConfirmationReceipts = .ok (result, s') := ⟨_, _, rfl⟩
  obtain ⟨result, s', h⟩ := hr
  refine ⟨result, s', h, (confirmed_payments_reduce_debt h).2.2 ?_⟩
  intro hash block hm
  simp [sampleConfirmationReceipts] at hm

end PendingPayableScanner

end MasqMobile
