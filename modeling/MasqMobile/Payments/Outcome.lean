import MasqMobile.Payments.Confirmations

/-!
# What a receipt scan leaves in the tables

`finish_scan` answers `NoPendingPayablesLeft` only if every answer it got was a success
(`failureCount_of_noPendingPayablesLeft`, `interpretTxReceipts_all`). It does not look at the tables again. What
it leaves there is settled only if the answers covered every record that was asked about and no failed
transaction was waiting for a retry (`finishScan_resolved`).
-/

namespace MasqMobile

open Fallible SentPayables TxStatus

/-- No payment is open: none is pending, to be retried or to be checked again. -/
structure PaymentDb.Resolved (db : PaymentDb) : Prop where
  noPending : ∀ tx ∈ db.sentPayable.rows, ¬tx.status.isPending
  noRetryRequired : ∀ tx ∈ db.failedPayable, tx.status ≠ .retryRequired
  noRecheckRequired : ∀ tx ∈ db.failedPayable, ¬tx.status.isRecheckRequired

namespace PendingPayableScanner

/-! ## A report without failures -/

def succeeded : TxReceiptResult → Bool
  | .ok (.succeeded _) => true
  | _ => false

def failureCount (report : ReceiptScanReport) : Nat := report.txFailures.length + report.txReceiptRpcFailures.length

variable {uiMessage : Option NodeToUiMessage} {s s' : PendingPayableScanner} {rep : ReceiptScanReport}

/-- Every answer but a success is listed as a failure. -/
theorem succeeded_of_failureCount (h : failureCount (reportOf tc) = 0) (hm : t ∈ tc) : succeeded t.2 := by
  simp only [failureCount, reportOf, Nat.add_eq_zero_iff, List.length_eq_zero_iff, List.filterMap_eq_nil_iff] at h
  have hf := h.1 t hm
  have hr := h.2 t hm
  rcases t with ⟨_ | _, _ | _ | _ | _⟩ <;> simp_all [caseFailure, caseRpcFailure, succeeded]

theorem exists_of_succeeded (h : succeeded re) : ∃ block, re = .ok (.succeeded block) := by
  unfold succeeded at h
  split at h
  · exact ⟨_, rfl⟩
  · cases h

/-- A report without failures confirms or reclaims every transaction that was answered for. -/
theorem interpretTxReceipts_all (h : s.interpretTxReceipts c m = .ok rep) (hn : failureCount rep = 0) :
    (∀ answer ∈ m.results, succeeded answer.2) ∧ (∀ hash, .sentPayable hash ∈ m.results.map Prod.fst →
        hash ∈ rep.standardConfirmations.map SentTx.hash) ∧
      ∀ hash, .failedPayable hash ∈ m.results.map Prod.fst → hash ∈ rep.reclaims.map SentTx.hash := by
  obtain ⟨-, txCases, hre, -, rfl⟩ := interpretTxReceipts_eq_ok_iff.1 h
  have hal : ∀ answer ∈ m.results, succeeded answer.2 := by
    intro answer ha
    obtain ⟨tx, -, hc⟩ := hre.exists_case ha
    exact succeeded_of_failureCount hn hc
  refine ⟨hal, ?_, ?_⟩
  all_goals
    intro hash hm
    obtain ⟨⟨key, result⟩, ha, rfl⟩ := List.mem_map.1 hm
    obtain ⟨block, rfl⟩ := exists_of_succeeded (hal _ ha)
    obtain ⟨tx, hr, hc⟩ := hre.exists_case ha
    obtain ⟨record, hf, rfl⟩ := Option.map_eq_some_iff.1 hr
    exact List.mem_map.2 ⟨_, List.mem_filterMap.2 ⟨_, hc, rfl⟩, (Table.find_eq_some_iff.1 hf).2⟩

/-! ## What is left in the tables -/

theorem replaceRecords_rows {newTxs : List SentTx} {t t' : SentPayables} (h : t.replaceRecords newTxs = .ok t')
    {row : SentTx} (hr : row ∈ t'.rows) : row ∈ t.rows ∨ row ∈ newTxs := by
  simp only [replaceRecords, bind_eq_ok, failIf_eq_ok, okOr_eq_ok, pure_eq_ok] at h
  obtain ⟨_, -, _, -, t'', hre, _, -, _, -, rfl⟩ := h
  rw [Table.rows_rewrite hre] at hr
  obtain ⟨old, ho, rfl⟩ := List.mem_map.1 hr
  cases hf : newTxs.find? (·.nonce = old.nonce) with
  | none => exact .inl (by simpa using ho)
  | some tx => exact .inr (by simpa using List.mem_of_find?_eq_some hf)

/-- Reclaims bring confirmed records only, and leave `failed_payable`. -/
theorem handleTxFailureReclaims_tables {re : List SentTx} (h : s.handleTxFailureReclaims re = .ok s') :
    (∀ row ∈ s'.db.sentPayable.rows, row ∈ s.db.sentPayable.rows ∨ row.status.isConfirmed) ∧
      ∀ row ∈ s'.db.failedPayable, row ∈ s.db.failedPayable ∧ row.hash ∉ re.map SentTx.hash := by
  unfold handleTxFailureReclaims at h
  split at h
  · rename_i hni
    cases h
    subst hni
    exact ⟨fun row hr => .inl hr, fun row hr => ⟨hr, by simp⟩⟩
  · simp only [bind_eq_ok, mapErr_eq_ok] at h
    obtain ⟨ha, hc, sentPayable, hre, failedPayable, hd, ht⟩ := h
    obtain rfl := addToTheTotalOfPaidPayable_ok ht
    obtain ⟨hh, hco⟩ := collectHashesAndBlocks_ok hc
    constructor
    · intro row hr
      rcases replaceRecords_rows hre hr with ho | hn
      · exact .inl ho
      · exact .inr (hco row (List.mem_dedup.1 hn))
    · intro row hr
      simp only [FailedPayables.deleteRecords, bind_eq_ok, pure_eq_ok] at hd
      obtain ⟨_, -, rfl⟩ := hd
      rw [← hh]
      simpa using hr

theorem confirmEach_rows {ha : List (TxHash × TxBlock)} {t t' : SentPayables} (h : t.confirmEach ha = .ok t')
    {row : SentTx} (hrow : row ∈ t'.rows) :
    row.status.isConfirmed ∨ row ∈ t.rows ∧ row.hash ∉ ha.map Prod.fst := by
  induction ha generalizing t with
  | nil =>
    cases h
    exact .inr ⟨hrow, by simp⟩
  | cons entry rest ih =>
    simp only [confirmEach, bind_eq_ok] at h
    obtain ⟨t₁, hf, hr⟩ := h
    obtain ⟨-, hro⟩ := confirmTx_ok hf
    rcases ih hr with hc | ⟨hm, hl⟩
    · exact .inl hc
    · rw [hro] at hm
      obtain ⟨old, ho, rfl⟩ := List.mem_map.1 hm
      by_cases hh : old.hash = entry.1
      · exact .inl (by simp [hh, isConfirmed])
      · simp only [hh, if_false] at hl ⊢
        exact .inr ⟨ho, by simpa [hh] using hl⟩

/-- Confirmations leave no pending record among those they are about. -/
theorem handleStandardConfirmations_tables {c : List SentTx} (h : s.handleStandardConfirmations c = .ok s') :
    (∀ row ∈ s'.db.sentPayable.rows,
        row.status.isConfirmed ∨ row ∈ s.db.sentPayable.rows ∧ row.hash ∉ c.map SentTx.hash) ∧
      s'.db.failedPayable = s.db.failedPayable := by
  unfold handleStandardConfirmations at h
  split at h
  · rename_i hn
    cases h
    subst hn
    exact ⟨fun row hr => .inr ⟨hr, by simp⟩, rfl⟩
  · simp only [bind_eq_ok, mapErr_eq_ok] at h
    obtain ⟨payable, -, txConfirmations, hco, sentPayable, hc, ht⟩ := h
    obtain rfl := addToTheTotalOfPaidPayable_ok ht
    refine ⟨?_, rfl⟩
    intro row hr
    simp only [confirmTxs, bind_eq_ok] at hc
    obtain ⟨_, -, he⟩ := hc
    rw [← (collectHashesAndBlocks_ok hco).1]
    exact confirmEach_rows he hr

theorem handleFailedTransactions_of_none {db : PaymentDb}
    (h : failureCount rep = 0) : handleFailedTransactions c rep db = .ok db := by
  have htx : rep.txFailures = [] := List.length_eq_zero_iff.1 (by unfold failureCount at h; omega)
  have hr : rep.txReceiptRpcFailures = [] := List.length_eq_zero_iff.1 (by unfold failureCount at h; omega)
  simp [handleFailedTransactions, htx, hr, addNewFailures, newFailures, finalizeSuspectedFailures, rechecksCompleted,
    updateValidationStatusForSentTxs, sentValidationFailures, prepareStatusesForUpdate,
    updateValidationStatusForFailedTxs, failedValidationFailures]

/-- `NoPendingPayablesLeft` means that the report lists no failure. -/
theorem failureCount_of_noPendingPayablesLeft {rso : Option ResponseSkeleton}
    (h : composeScanResult rep.requiresPaymentsRetry rso = .noPendingPayablesLeft uiMessage) :
    failureCount rep = 0 := by
  have hn : rep.requiresPaymentsRetry = none := by
    cases hr : rep.requiresPaymentsRetry with
    | none => rfl
    | some retry => cases retry <;> simp [hr, composeScanResult] at h
  unfold ReceiptScanReport.requiresPaymentsRetry at hn
  split at hn
  · cases hn
  · rename_i hr
    unfold ReceiptScanReport.requiresRetry at hr
    split at hr
    · rename_i hf
      simp [failureCount, hf]
    · split at hr <;> cases hr

/-- **What a scan that leaves no pending payables has done.** All answers were successes. If they covered every
pending record and every record to be checked again, and no failed transaction waits for a retry, no payment is
open any more. -/
theorem finishScan_resolved (h : s.finishScan c m = .ok (.noPendingPayablesLeft uiMessage, s'))
    (hcov : (∀ answer ∈ m.results, succeeded answer.2) →
      (∀ tx ∈ s.db.sentPayable.rows, tx.status.isPending → .sentPayable tx.hash ∈ m.results.map Prod.fst) ∧
      (∀ tx ∈ s.db.failedPayable, tx.status.isRecheckRequired → .failedPayable tx.hash ∈ m.results.map Prod.fst) ∧
      ∀ tx ∈ s.db.failedPayable, tx.status ≠ .retryRequired) :
    s'.db.Resolved := by
  simp only [finishScan, bind_eq_ok, pure_eq_ok, Prod.mk.injEq] at h
  obtain ⟨rep, hrep, s₁, hco, db, hfa, hres, rfl⟩ := h
  have hno : failureCount rep = 0 := failureCount_of_noPendingPayablesLeft hres
  obtain rfl : s₁.db = db := by simpa [handleFailedTransactions_of_none hno] using hfa
  obtain ⟨ha, hse, hf⟩ := interpretTxReceipts_all hrep hno
  obtain ⟨hpe, hrec, hret⟩ := hcov ha
  simp only [handleConfirmedTransactions, bind_eq_ok] at hco
  obtain ⟨s₂, hre, hconfi⟩ := hco
  obtain ⟨hs₂, hf₂⟩ := handleTxFailureReclaims_tables hre
  obtain ⟨hs₁, hf₁⟩ := handleStandardConfirmations_tables hconfi
  refine ⟨?_, ?_, ?_⟩
  · intro tx htx hp
    -- a pending record would be an old one, and all of those are confirmed
    rcases hs₁ tx htx with hc | ⟨ho, hn⟩
    · cases hs : tx.status <;> simp [hs, isPending, isConfirmed] at hp hc
    · rcases hs₂ tx ho with ho | hc
      · exact hn (hse tx.hash (hpe tx ho hp))
      · cases hs : tx.status <;> simp [hs, isPending, isConfirmed] at hp hc
  · intro tx htx
    rw [hf₁] at htx
    exact hret tx (hf₂ tx htx).1
  · intro tx htx hr
    rw [hf₁] at htx
    obtain ⟨ho, hn⟩ := hf₂ tx htx
    exact hn (hf tx.hash (hrec tx ho hr))

end PendingPayableScanner

end MasqMobile
