import MasqMobile.Payments.Steps

/-!
# When a receipt scan crashes

When `finish_scan` gets through without a panic (`Unhindered`), for tables that are consistent and answers that are.

The clause that matters is `noReclaim`. A reclaim puts a failed transaction in the place of the one that replaced it,
under whose hash there is no row any more (`not_mem_hashes_of_reclaim`). That transaction was pending, so it was asked
about too; having the same nonce it was neither mined nor reverted, and whatever else the answer is, its row is to be
deleted or updated next.
-/

namespace MasqMobile

open TxReceiptResult

namespace PendingPayableScanner

variable {db db' : PaymentDb} {clock : Nat} {tx : SentTx}

section Cases

variable {results : List (TxHashByTable × TxReceiptResult)} {cs : List (TxByTable × TxReceiptResult)}

section

variable (hc : CasesOf db results cs)
include hc

theorem CasesOf.result_unique {tx tx' : TxByTable}
    {result result' : TxReceiptResult} (h : (tx, result) ∈ cs) (h' : (tx', result') ∈ cs)
    (hk : tx.key = tx'.key) : result = result' :=
  congrArg Prod.snd (List.inj_on_of_nodup_map hc.nodup h h' hk)

theorem CasesOf.nodup_newFailures : (FailedPayables.hashes (cs.filterMap caseNewFailure)).Nodup := by
  refine nodup_picked .sentPayable (fun t f h => ?_) hc.nodup
  obtain ⟨st, reason, rfl | rfl, rfl⟩ := of_caseNewFailure h <;> rfl

theorem CasesOf.nodup_rechecksCompleted : (cs.filterMap caseRecheckCompleted).Nodup := by
  rw [← List.map_id (cs.filterMap caseRecheckCompleted)]
  refine nodup_picked .failedPayable (fun t hash h => ?_) hc.nodup
  obtain ⟨f, rfl, rfl⟩ := of_caseRecheckCompleted h
  rfl

theorem CasesOf.nodup_sentValidations : ((cs.filterMap caseSentValidation).map FailedValidation.txHash).Nodup := by
  refine nodup_picked .sentPayable (fun t failure h => ?_) hc.nodup
  obtain ⟨st, e, rfl, rfl⟩ := of_caseSentValidation h
  rfl

theorem CasesOf.nodup_failedValidations : ((cs.filterMap caseFailedValidation).map FailedValidation.txHash).Nodup := by
  refine nodup_picked .failedPayable (fun t failure h => ?_) hc.nodup
  obtain ⟨f, result, error, rfl, -, rfl⟩ := of_caseFailedValidation h
  rfl

end

theorem CasesOf.sent_of_newFailure (hca : CasesOf db results cs) (h : f ∈ cs.filterMap caseNewFailure) :
    ∃ tx ∈ db.sentPayable.rows, ∃ reason, f = .ofSent tx reason := by
  obtain ⟨t, hc, hp⟩ := List.mem_filterMap.1 h
  obtain ⟨tx, reason, rfl | rfl, rfl⟩ := of_caseNewFailure hp <;>
    exact ⟨tx, (hca.asked _ hc).1, reason, rfl⟩

theorem CasesOf.sent_of_sentValidation (hca : CasesOf db results cs) (h : f ∈ cs.filterMap caseSentValidation) :
    ∃ tx e, tx ∈ db.sentPayable.rows ∧ tx.status.isPending ∧ (.sentPayable tx, .error e) ∈ cs ∧
      f = ⟨tx.hash, .appRpc e.kind, tx.status⟩ := by
  obtain ⟨t, hc, hp⟩ := List.mem_filterMap.1 h
  obtain ⟨tx, e, rfl, rfl⟩ := of_caseSentValidation hp
  exact ⟨tx, e, (hca.asked _ hc).1, (hca.asked _ hc).2, hc, rfl⟩

theorem CasesOf.failed_of_failedValidation (hca : CasesOf db results cs) (h : f ∈ cs.filterMap caseFailedValidation) :
    ∃ tx result error, tx ∈ db.failedPayable ∧ tx.status.isRecheckRequired ∧ (.failedPayable tx, result) ∈ cs ∧
      recheckFailure result = some error ∧ f = ⟨tx.hash, error, tx.status⟩ := by
  obtain ⟨t, hc, hp⟩ := List.mem_filterMap.1 h
  obtain ⟨tx, result, error, rfl, he, rfl⟩ := of_caseFailedValidation hp
  exact ⟨tx, result, error, (hca.asked _ hc).1, (hca.asked _ hc).2, hc, he, rfl⟩

theorem CasesOf.pending_of_sentValidation (hc : CasesOf db results cs) :
    ∀ failure ∈ cs.filterMap caseSentValidation, failure.currentStatus.isPending := by
  intro failure hf
  obtain ⟨tx, e, -, hp, -, rfl⟩ := hc.sent_of_sentValidation hf
  exact hp

theorem CasesOf.recheckRequired_of_failedValidation (hc : CasesOf db results cs) :
    ∀ failure ∈ cs.filterMap caseFailedValidation, failure.currentStatus.isRecheckRequired := by
  intro failure hf
  obtain ⟨tx, result, error, -, hr, -, -, rfl⟩ := hc.failed_of_failedValidation hf
  exact hr

/-- A transaction that is given up and one whose attempt is counted are different ones. -/
theorem CasesOf.not_mem_newFailures (hca : CasesOf db results cs) (h : (.sentPayable tx, .error e) ∈ cs) :
    tx.hash ∉ FailedPayables.hashes (cs.filterMap caseNewFailure) := by
  intro hm
  obtain ⟨f, hpi, hh⟩ := List.mem_map.1 hm
  obtain ⟨t, hc, hp⟩ := List.mem_filterMap.1 hpi
  obtain ⟨st, reason, rfl | rfl, rfl⟩ := of_caseNewFailure hp
  · cases hca.result_unique hc h (congrArg TxHashByTable.sentPayable hh)
  · cases hca.result_unique hc h (congrArg TxHashByTable.sentPayable hh)

/-- The statements on `sent_payable` after the confirmations are about transactions that have rows. -/
theorem CasesOf.sent_of_handleFailedTransactions (hc : CasesOf db results cs)
    (h : handleFailedTransactions clock (reportOf cs) db₁ = .ok db₂) (hca : (.sentPayable tx, re) ∈ cs)
    (hmi : ¬isMined re) :
    tx.hash ∈ db₁.sentPayable.hashes := by
  simp only [handleFailedTransactions, Fallible.bind_eq_ok, newFailures_reportOf, rechecksCompleted_reportOf,
    sentValidationFailures_reportOf] at h
  obtain ⟨db₃, hn, db₄, hf, db₅, hs, -⟩ := h
  obtain ⟨hsu, hh, -⟩ := addNewFailures_ok hc.nodup_newFailures hn
  rcases re with e | _ | block | _
  · have hr := ((exists_updateValidationStatusForSentTxs_iff hc.pending_of_sentValidation
      hc.nodup_sentValidations).1 ⟨_, hs⟩).2
    have hm := hr (List.mem_map_of_mem (List.mem_filterMap.2 ⟨_, hca, rfl⟩))
    rw [(finalizeSuspectedFailures_hashes hf).1, hh] at hm
    exact (List.mem_filter.1 hm).1
  · exact absurd rfl hmi
  · exact absurd rfl hmi
  · exact hsu (List.mem_map.2 ⟨.ofSent tx .pendingTooLong, List.mem_filterMap.2 ⟨_, hca, rfl⟩, rfl⟩)

/-- Failures of transactions that have rows are handled exactly if every attempt can be counted. -/
theorem CasesOf.exists_handleFailedTransactions_iff (hc : CasesOf db results cs)
    (hu : db.HashesUnique) (hst : db.AmountsStorable) (hs : db₁.sentPayable.hashes = db.sentPayable.hashes)
    (hf : db₁.failedPayable = db.failedPayable) :
    (∃ db₂, handleFailedTransactions clock (reportOf cs) db₁ = .ok db₂ ∧ db₂.HashesUnique) ↔
      (∀ failure ∈ cs.filterMap caseSentValidation,
          failure.currentStatus.attemptsOf failure.validationFailure + 1 < 2 ^ 16) ∧
        ∀ failure ∈ cs.filterMap caseFailedValidation,
          failure.currentStatus.attemptsOf failure.validationFailure + 1 < 2 ^ 16 := by
  have hu₁ : db₁.HashesUnique := by
    rw [PaymentDb.HashesUnique, PaymentDb.hashes, hs, hf]
    exact hu
  simp only [handleFailedTransactions, Fallible.bind_eq_ok, newFailures_reportOf, rechecksCompleted_reportOf,
    sentValidationFailures_reportOf, failedValidationFailures_reportOf]
  constructor
  · rintro ⟨db₂, ⟨db₃, hn, db₄, hfi, db₅, hse, hfa⟩, -⟩
    have hu₅ : db₅.HashesUnique := by
      rw [PaymentDb.HashesUnique, (updateValidationStatusForSentTxs_hashes hse).2]
      exact hashesUnique_finalizeSuspectedFailures (hashesUnique_addNewFailures hu₁ hc.nodup_newFailures hn) hfi
    exact ⟨((exists_updateValidationStatusForSentTxs_iff hc.pending_of_sentValidation
        hc.nodup_sentValidations).1 ⟨_, hse⟩).1,
      ((exists_updateValidationStatusForFailedTxs_iff hu₅ hc.recheckRequired_of_failedValidation
        hc.nodup_failedValidations).1 ⟨_, hfa⟩).1⟩
  · rintro ⟨hsentR, hfaile⟩
    -- the records that are given up move to the other table
    obtain ⟨db₃, hn⟩ : ∃ db₃, addNewFailures (cs.filterMap caseNewFailure) db₁ = .ok db₃ := by
      refine exists_addNewFailures hu₁ hc.nodup_newFailures ?_ ?_
      · intro hash hh
        obtain ⟨ft, hp, rfl⟩ := List.mem_map.1 hh
        obtain ⟨tx, htx, reason, rfl⟩ := hc.sent_of_newFailure hp
        rw [hs]
        exact List.mem_map_of_mem (f := SentTx.hash) htx
      · intro ft hp
        obtain ⟨tx, htx, reason, rfl⟩ := hc.sent_of_newFailure hp
        exact hst tx htx
    obtain ⟨-, hs₃, hf₃⟩ := addNewFailures_ok hc.nodup_newFailures hn
    have hu₃ : db₃.HashesUnique := hashesUnique_addNewFailures hu₁ hc.nodup_newFailures hn
    have ho : ∀ tx ∈ db.failedPayable, tx.hash ∈ FailedPayables.hashes db₃.failedPayable := by
      intro tx htx
      rw [hf₃, hf]
      exact List.mem_map_of_mem (List.mem_append_left _ htx)
    obtain ⟨db₄, hfi⟩ : ∃ db₄, finalizeSuspectedFailures (cs.filterMap caseRecheckCompleted) db₃ = .ok db₄ := by
      refine exists_finalizeSuspectedFailures hu₃ hc.nodup_rechecksCompleted ?_
      intro hash hh
      obtain ⟨t, hca, hpi⟩ := List.mem_filterMap.1 hh
      obtain ⟨ft, rfl, rfl⟩ := of_caseRecheckCompleted hpi
      exact ho ft (hc.asked _ hca).1
    obtain ⟨hs₄, hf₄⟩ := finalizeSuspectedFailures_hashes hfi
    obtain ⟨db₅, hse⟩ : ∃ db₅,
        updateValidationStatusForSentTxs clock (cs.filterMap caseSentValidation) db₄ = .ok db₅ := by
      refine (exists_updateValidationStatusForSentTxs_iff hc.pending_of_sentValidation
        hc.nodup_sentValidations).2 ⟨hsentR, ?_⟩
      intro hash hh
      obtain ⟨failure, hp, rfl⟩ := List.mem_map.1 hh
      obtain ⟨tx, e, htx, -, hca, rfl⟩ := hc.sent_of_sentValidation hp
      rw [hs₄, hs₃, hs]
      exact List.mem_filter.2 ⟨List.mem_map_of_mem htx, by simpa using hc.not_mem_newFailures hca⟩
    obtain ⟨hf₅, hh₅⟩ := updateValidationStatusForSentTxs_hashes hse
    have hu₅ : db₅.HashesUnique := by
      rw [PaymentDb.HashesUnique, hh₅]
      exact hashesUnique_finalizeSuspectedFailures hu₃ hfi
    obtain ⟨db₂, hfa⟩ : ∃ db₂,
        updateValidationStatusForFailedTxs clock (cs.filterMap caseFailedValidation) db₅ = .ok db₂ := by
      refine (exists_updateValidationStatusForFailedTxs_iff hu₅ hc.recheckRequired_of_failedValidation
        hc.nodup_failedValidations).2 ⟨hfaile, ?_⟩
      intro hash hh
      obtain ⟨failure, hp, rfl⟩ := List.mem_map.1 hh
      obtain ⟨tx, result, error, htx, -, -, -, rfl⟩ := hc.failed_of_failedValidation hp
      rw [hf₅, hf₄]
      exact ho tx htx
    refine ⟨db₂, ⟨db₃, hn, db₄, hfi, db₅, hse, hfa⟩, ?_⟩
    rw [PaymentDb.HashesUnique, updateValidationStatusForFailedTxs_hashes hfa]
    exact hu₅

end Cases

/-- Nothing stands in the way of the scan:
* no failed transaction is reported as succeeded;
* the receivers of confirmed transactions have accounts, and the accounts and the total have room for them;
* no transaction that is still pending bears a time to come;
* no counter of attempts is at its end. -/
structure Unhindered (clock : Nat) (s : PendingPayableScanner) (message : TxReceiptsMessage) : Prop where
  noReclaim : ∀ hash block, (.failedPayable hash, .ok (.succeeded block)) ∉ message.results
  accounts : s.db.payable.CanConfirm (s.standardConfirmationsBy message)
  total : s.standardConfirmationsBy message ≠ [] →
    s.totalPaidPayableWei + ((s.standardConfirmationsBy message).map SentTx.amountMinor).sum < 2 ^ 128
  timestamps : ∀ tx ∈ s.db.sentPayable.rows, tx.status.isPending →
    (.sentPayable tx.hash, .ok .pending) ∈ message.results →
    0 ≤ tx.timestamp ∧ tx.timestamp ≤ clock
  sentAttempts : ∀ tx ∈ s.db.sentPayable.rows, tx.status.isPending →
    ∀ e, (.sentPayable tx.hash, .error e) ∈ message.results → tx.status.attemptsOf (.appRpc e.kind) + 1 < 2 ^ 16
  failedAttempts : ∀ tx ∈ s.db.failedPayable, tx.status.isRecheckRequired →
    ∀ result error, (.failedPayable tx.hash, result) ∈ message.results → recheckFailure result = some error →
      tx.status.attemptsOf error + 1 < 2 ^ 16

section Scan

variable {s : PendingPayableScanner} {message : TxReceiptsMessage} {txCases : List (TxByTable × TxReceiptResult)}

/-- The interpreter gets over all cases exactly if no transaction that is still pending bears a time to come. -/
theorem interpretable_iff (hdb : s.db.Consistent) (hc : CasesOf s.db message.results txCases) :
    (∀ t ∈ txCases, Interpretable clock s.db.sentPayable t) ↔
      ∀ tx ∈ s.db.sentPayable.rows, tx.status.isPending → (.sentPayable tx.hash, .ok .pending) ∈ message.results →
        0 ≤ tx.timestamp ∧ tx.timestamp ≤ clock := by
  constructor
  · intro h tx htx hp han
    exact h _ ((hc.mem_iff (.sentPayable tx) _ ⟨htx, hp⟩).2 han)
  · rintro h ⟨tx, result⟩ hca
    have ha := hc.asked _ hca
    rcases result with e | _ | block | _
    · cases tx <;> trivial
    · cases tx <;> trivial
    · cases tx <;> trivial
    · cases tx with
      | sentPayable tx => exact h tx ha.1 ha.2 ((hc.mem_iff (.sentPayable tx) _ ha).1 hca)
      | failedPayable tx =>
        obtain ⟨hr, sentTx, ⟨hs, -, hn⟩, -⟩ := hdb.replaced tx ha.1 ha.2
        exact ⟨hr, List.ne_nil_of_mem (List.mem_filter.2 ⟨hs, by simpa using hn⟩)⟩

theorem no_reclaim_of_returns (hdb : s.db.Consistent)
    (hmi : s.db.MinedOnce message.results) (hca : CasesOf s.db message.results txCases)
    (hre : s.emptyCaches.handleTxFailureReclaims (txCases.filterMap caseReclaim) = .ok s₂)
    (hco : s₂.handleStandardConfirmations (txCases.filterMap caseConfirmation) = .ok s₁)
    (hf : handleFailedTransactions clock (reportOf txCases) s₁.db = .ok db') :
    txCases.filterMap caseReclaim = [] := by
  by_contra hne
  obtain ⟨reclaim, hr⟩ := List.exists_mem_of_ne_nil _ hne
  obtain ⟨t, hc, hp⟩ := List.mem_filterMap.1 hr
  obtain ⟨ft, block, rfl, rfl⟩ := of_caseReclaim hp
  have ha := hca.asked _ hc
  obtain ⟨-, sentTx, ⟨hs, hpe, hn⟩, -⟩ := hdb.replaced ft ha.1 ha.2
  -- the transaction that replaced it was asked about, and is not on the chain
  obtain ⟨result, hc'⟩ := hca.answered (.sentPayable sentTx) ⟨hs, hpe⟩
  have hno : ¬isMined result := by
    intro hres
    have hk := hmi (.sentPayable sentTx) (.failedPayable ft) result (.ok (.succeeded block))
      ⟨hs, hpe⟩ ha ((hca.mem_iff (.sentPayable sentTx) _ ⟨hs, hpe⟩).1 hc')
      ((hca.mem_iff (.failedPayable ft) _ ha).1 hc) hres rfl hn
    cases hk
  have hd : List.Disjoint s.db.sentPayable.hashes ((txCases.filterMap caseReclaim).map SentTx.hash) := by
    intro hash ho hnew
    obtain ⟨tx, hpi, rfl⟩ := List.mem_map.1 hnew
    obtain ⟨t, hc, hp⟩ := List.mem_filterMap.1 hpi
    obtain ⟨ft, block, rfl, rfl⟩ := of_caseReclaim hp
    exact hdb.hashesUnique.disjoint ho (List.mem_map_of_mem (f := FailedTx.hash) (hca.asked _ hc).1)
  have hm := hca.sent_of_handleFailedTransactions hf hc' hno
  rw [(handleStandardConfirmations_hashes hco).1] at hm
  exact not_mem_hashes_of_reclaim hre hd hs hr hn.symm hm

/-- Confirmed transactions are records of `sent_payable` with their status changed. -/
theorem CasesOf.sent_of_confirmation (hca : CasesOf s.db message.results txCases)
    (h : tx ∈ txCases.filterMap caseConfirmation) :
    tx.status.isConfirmed ∧ ∃ st ∈ s.db.sentPayable.rows, st.hash = tx.hash ∧ st.amountMinor = tx.amountMinor := by
  obtain ⟨t, hc, hp⟩ := List.mem_filterMap.1 h
  obtain ⟨st, block, rfl, rfl⟩ := of_caseConfirmation hp
  exact ⟨rfl, st, (hca.asked _ hc).1, rfl, rfl⟩

theorem CasesOf.exists_handleStandardConfirmations_iff (hst : s.db.AmountsStorable)
    (hc : CasesOf s.db message.results txCases) :
    (∃ s', s.emptyCaches.handleStandardConfirmations (txCases.filterMap caseConfirmation) = .ok s') ↔
      s.db.payable.CanConfirm (txCases.filterMap caseConfirmation) ∧ (txCases.filterMap caseConfirmation ≠ [] →
          s.totalPaidPayableWei + ((txCases.filterMap caseConfirmation).map SentTx.amountMinor).sum < 2 ^ 128) := by
  refine PendingPayableScanner.exists_handleStandardConfirmations_iff ?_ ?_ ?_
  · intro tx htx
    obtain ⟨-, sentTx, hs, -, ha⟩ := hc.sent_of_confirmation htx
    exact ha ▸ (hst sentTx hs).1
  · intro tx htx
    exact (hc.sent_of_confirmation htx).1
  · intro hash hh
    obtain ⟨tx, htx, rfl⟩ := List.mem_map.1 hh
    obtain ⟨-, sentTx, hs, hh, -⟩ := hc.sent_of_confirmation htx
    exact hh ▸ List.mem_map_of_mem (f := SentTx.hash) hs

/-- Attempts can be counted for all cases exactly if no counter of a record is at its end. -/
theorem attempts_iff (hca : CasesOf s.db message.results txCases) : ((∀ failure ∈ txCases.filterMap caseSentValidation,
          failure.currentStatus.attemptsOf failure.validationFailure + 1 < 2 ^ 16) ∧
        ∀ failure ∈ txCases.filterMap caseFailedValidation,
          failure.currentStatus.attemptsOf failure.validationFailure + 1 < 2 ^ 16) ↔
      (∀ tx ∈ s.db.sentPayable.rows, tx.status.isPending →
          ∀ e, (.sentPayable tx.hash, .error e) ∈ message.results →
            tx.status.attemptsOf (.appRpc e.kind) + 1 < 2 ^ 16) ∧
        ∀ tx ∈ s.db.failedPayable, tx.status.isRecheckRequired →
          ∀ result error, (.failedPayable tx.hash, result) ∈ message.results → recheckFailure result = some error →
            tx.status.attemptsOf error + 1 < 2 ^ 16 := by
  constructor
  · rintro ⟨hs, hf⟩
    refine ⟨?_, ?_⟩
    · intro tx htx hp e ha
      have hc := (hca.mem_iff (.sentPayable tx) _ ⟨htx, hp⟩).2 ha
      exact hs ⟨tx.hash, .appRpc e.kind, tx.status⟩ (List.mem_filterMap.2 ⟨_, hc, rfl⟩)
    · intro tx htx hr result error ha he
      have hc := (hca.mem_iff (.failedPayable tx) _ ⟨htx, hr⟩).2 ha
      refine hf ⟨tx.hash, error, tx.status⟩ (List.mem_filterMap.2 ⟨_, hc, ?_⟩)
      simp [caseFailedValidation, he]
  · rintro ⟨hs, hf⟩
    refine ⟨?_, ?_⟩
    · intro failure hfa
      obtain ⟨tx, e, htx, hp, hc, rfl⟩ := hca.sent_of_sentValidation hfa
      exact hs tx htx hp e ((hca.mem_iff (.sentPayable tx) _ ⟨htx, hp⟩).1 hc)
    · intro failure hfa
      obtain ⟨tx, result, error, htx, hr, hc, he, rfl⟩ := hca.failed_of_failedValidation hfa
      exact hf tx htx hr result error ((hca.mem_iff (.failedPayable tx) _ ⟨htx, hr⟩).1 hc) he

theorem noReclaim_iff (hca : CasesOf s.db message.results txCases)
    (han : (message.results.map Prod.fst).Perm s.db.askedFor) :
    txCases.filterMap caseReclaim = [] ↔
      ∀ hash block, (.failedPayable hash, .ok (.succeeded block)) ∉ message.results := by
  rw [List.filterMap_eq_nil_iff]
  constructor
  · intro h hash block ha
    have hk : .failedPayable hash ∈ message.results.map Prod.fst := List.mem_map_of_mem (f := Prod.fst) ha
    obtain ⟨tx, has, hk⟩ := PaymentDb.mem_askedFor_iff.1 (han.mem_iff.1 hk)
    have hc := h _ ((hca.mem_iff tx _ has).2 (hk ▸ ha))
    cases tx with
    | sentPayable tx => cases hk
    | failedPayable tx => cases hc
  · intro h t hc
    cases hp : caseReclaim t with
    | none => rfl
    | some tx =>
      obtain ⟨ft, block, rfl, rfl⟩ := of_caseReclaim hp
      exact absurd ((hca.mem_iff (.failedPayable ft) _ (hca.asked _ hc)).1 hc) (h _ _)

/-- A payment that was given up, and the one that replaced it, both unsettled. -/
def sampleRecheck : PendingPayableScanner := sampleScanner (sampleReplacement (.pending .waiting)) [sampleFailedTx]

theorem sampleRecheck_consistent : sampleRecheck.db.Consistent where
  hashesUnique := by decide
  noncesUnique := by decide
  replaced := by
    intro tx htx _
    obtain rfl := List.mem_singleton.1 htx
    refine ⟨rfl, sampleReplacement (.pending .waiting), ⟨List.mem_singleton.2 rfl, rfl, rfl⟩, ?_⟩
    rintro st ⟨hs, -⟩
    exact List.mem_singleton.1 hs

theorem sampleRecheck_storable : sampleRecheck.db.AmountsStorable := by
  intro tx htx
  obtain rfl := List.mem_singleton.1 htx
  decide

theorem sampleRecheck_asks {tx : TxByTable} (h : sampleRecheck.db.Asks tx) :
    tx = .sentPayable (sampleReplacement (.pending .waiting)) ∨ tx = .failedPayable sampleFailedTx := by
  cases tx with
  | sentPayable tx => exact .inl (congrArg _ (List.mem_singleton.1 h.1))
  | failedPayable tx => exact .inr (congrArg _ (List.mem_singleton.1 h.1))

/-- The one that was given up succeeded; its replacement is pending. -/
def sampleReclaimedReceipts : TxReceiptsMessage :=
  ⟨[(.sentPayable 8, .ok .pending), (.failedPayable 7, .ok (.succeeded ⟨4, 40⟩))], none⟩

/-- The replacement succeeded; the one that was given up is pending. -/
def sampleReplacedReceipts : TxReceiptsMessage :=
  ⟨[(.sentPayable 8, .ok (.succeeded ⟨4, 40⟩)), (.failedPayable 7, .ok .pending)], none⟩

theorem sampleRecheck_minedOnce {result result' : TxReceiptResult} (h : ¬(isMined result ∧ isMined result')) :
    sampleRecheck.db.MinedOnce [(.sentPayable 8, result), (.failedPayable 7, result')] := by
  intro tx tx' r r' has has' ha ha' hm hm' _
  rcases sampleRecheck_asks has with rfl | rfl <;> rcases sampleRecheck_asks has' with rfl | rfl
  · rfl
  · obtain rfl : r = result := by simpa [TxByTable.key, sampleReplacement] using ha
    obtain rfl : r' = result' := by simpa [TxByTable.key, sampleFailedTx] using ha'
    exact absurd ⟨hm, hm'⟩ h
  · obtain rfl : r = result' := by simpa [TxByTable.key, sampleFailedTx] using ha
    obtain rfl : r' = result := by simpa [TxByTable.key, sampleReplacement] using ha'
    exact absurd ⟨hm', hm⟩ h
  · rfl

end Scan

end PendingPayableScanner

end MasqMobile
