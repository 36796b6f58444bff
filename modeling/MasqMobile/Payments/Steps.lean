import MasqMobile.Payments.Cases

/-!
# When the steps of a receipt scan succeed

`finish_scan` applies reclaims, confirmations, new failures and changes of status one after the other. Each is a
statement over some hashes and panics unless it changes as many rows. For each step, `exists_*` says when it
succeeds, and `*_hashes` under which hashes there are rows afterwards.
-/

namespace MasqMobile

open Fallible FailedPayables

namespace PendingPayableScanner

section Prepare

variable {σ : Type} {ck : Nat} {fl : List (FailedValidation σ)}
  {updateAfterFailure : BlockchainErrorKind → Nat → σ → Option (Option σ)}

/-- The changes of status are prepared exactly if every attempt can be counted. -/
theorem exists_prepareStatusesForUpdate_iff : (∃ u, prepareStatusesForUpdate updateAfterFailure ck fl = .ok u) ↔
      ∀ failure ∈ fl, (updateAfterFailure failure.validationFailure ck failure.currentStatus).isSome := by
  induction fl with
  | nil => simp [prepareStatusesForUpdate]
  | cons failure fl ih =>
    rw [List.forall_mem_cons, ← ih, Option.isSome_iff_exists]
    simp only [prepareStatusesForUpdate, bind_eq_ok, okOr_eq_ok, pure_eq_ok]
    constructor
    · rintro ⟨_, so, hs, rest, hr, -⟩
      exact ⟨⟨so, hs⟩, rest, hr⟩
    · rintro ⟨⟨so, hs⟩, rest, hr⟩
      exact ⟨_, so, hs, rest, hr, rfl⟩

/-- If every status is one that is written, there is a change for each failure. -/
theorem prepareStatusesForUpdate_hashes (hw : ∀ failure ∈ fl, ∀ so,
      updateAfterFailure failure.validationFailure ck failure.currentStatus = some so → so.isSome)
    (h : prepareStatusesForUpdate updateAfterFailure ck fl = .ok u) :
    u.map Prod.fst = fl.map FailedValidation.txHash := by
  induction fl generalizing u with
  | nil =>
    cases h
    rfl
  | cons failure fl ih =>
    obtain ⟨hf, ho⟩ := List.forall_mem_cons.1 hw
    simp only [prepareStatusesForUpdate, bind_eq_ok, okOr_eq_ok, pure_eq_ok] at h
    obtain ⟨so, hs, rest, hr, rfl⟩ := h
    obtain ⟨status, rfl⟩ := Option.isSome_iff_exists.1 (hf so hs)
    rw [List.map_cons, List.map_cons, ih ho hr]

/-- Preparing the changes and writing them, unless there are none, succeeds exactly if every attempt can be counted
and every failure is about a row. -/
theorem exists_prepared_iff {τ : Type} {run : List (TxHash × σ) → Except TxDaoError τ} {hashes : List TxHash}
    {e : TxDaoError → ScanPanic} {db : PaymentDb} {put : τ → PaymentDb} {ok : FailedValidation σ → Prop}
    (hok : ∀ failure, (updateAfterFailure failure.validationFailure ck failure.currentStatus).isSome ↔ ok failure)
    (hwr : ∀ failure ∈ fl, ∀ statusOpt,
      updateAfterFailure failure.validationFailure ck failure.currentStatus = some statusOpt → statusOpt.isSome)
    (hnd : (fl.map FailedValidation.txHash).Nodup)
    (hr : ∀ u, (u.map Prod.fst).Nodup → ((∃ t, run u = .ok t) ↔ u ≠ [] ∧ u.map Prod.fst ⊆ hashes)) :
    (∃ db', (do
      let u ← prepareStatusesForUpdate updateAfterFailure ck fl
      if u = [] then return db
      let t ← mapErr e (run u)
      return put t : Except ScanPanic PaymentDb) = .ok db') ↔
      (∀ failure ∈ fl, ok failure) ∧ fl.map FailedValidation.txHash ⊆ hashes := by
  simp only [← hok]
  rw [← exists_prepareStatusesForUpdate_iff]
  simp only [bind_eq_ok]
  constructor
  · rintro ⟨db', u, hp, hw⟩
    have hh := prepareStatusesForUpdate_hashes hwr hp
    refine ⟨⟨u, hp⟩, ?_⟩
    rw [← hh]
    split at hw
    · subst u
      exact List.nil_subset _
    · simp only [bind_eq_ok, mapErr_eq_ok] at hw
      obtain ⟨t, hw, -⟩ := hw
      exact ((hr u (hh ▸ hnd)).1 ⟨t, hw⟩).2
  · rintro ⟨⟨u, hp⟩, hs⟩
    have hh := prepareStatusesForUpdate_hashes hwr hp
    by_cases hn : u = []
    · exact ⟨db, u, hp, by simp [hn]⟩
    · obtain ⟨t, hw⟩ := (hr u (hh ▸ hnd)).2 ⟨hn, hh ▸ hs⟩
      refine ⟨put t, u, hp, ?_⟩
      simp only [hn, if_false, hw, mapErr]
      rfl

end Prepare

variable {txs : List FailedTx} {rechecksCompleted : List TxHash} {e : BlockchainErrorKind}

theorem isSome_of_pending {clock : Nat} {st : TxStatus} {so : Option TxStatus}
    (hp : st.isPending) (h : st.updateAfterFailure e clock = some so) : so.isSome := by
  cases st with
  | pending st =>
    obtain ⟨_, -, rfl⟩ := Option.map_eq_some_iff.1 h
    rfl
  | confirmed _ _ => cases hp

theorem isSome_of_recheckRequired {clock : Nat} {st : FailureStatus}
    {so : Option FailureStatus} (hr : st.isRecheckRequired)
    (h : st.updateAfterFailure e clock = some so) : so.isSome := by
  cases st with
  | recheckRequired st =>
    obtain ⟨_, -, rfl⟩ := Option.map_eq_some_iff.1 h
    rfl
  | retryRequired | concluded => cases hr

variable {db db' : PaymentDb} {ck : Nat}

theorem addNewFailures_ok (ht : (hashes txs).Nodup) (h : addNewFailures txs db = .ok db') :
    hashes txs ⊆ db.sentPayable.hashes ∧ db'.sentPayable.hashes = db.sentPayable.hashes.filter (· ∉ hashes txs) ∧
      db'.failedPayable = db.failedPayable ++ txs := by
  unfold addNewFailures at h
  split at h
  · rename_i hn
    cases h
    subst hn
    simp [hashes]
  · simp only [bind_eq_ok, mapErr_eq_ok, pure_eq_ok] at h
    obtain ⟨failedPayable, hin, sentPayable, hd, rfl⟩ := h
    rw [(List.Nodup.of_map _ ht).dedup, insertNewRecords_eq_ok_iff] at hin
    rw [show (txs.map FailedTx.hash).dedup = hashes txs from ht.dedup] at hd
    exact ⟨((SentPayables.exists_deleteRecords_iff ht).1 ⟨_, hd⟩).2, SentPayables.deleteRecords_hashes hd, hin.2.symm⟩

theorem exists_addNewFailures (hu : db.HashesUnique) (ht : (hashes txs).Nodup) (hs : hashes txs ⊆ db.sentPayable.hashes)
    (hst : ∀ tx ∈ txs, storable tx.amountMinor ∧ storable tx.gasPriceMinor) :
    ∃ db', addNewFailures txs db = .ok db' := by
  unfold addNewFailures
  split
  · exact ⟨db, rfl⟩
  · rename_i hne
    have hin : insertNewRecords txs.dedup db.failedPayable = .ok (db.failedPayable ++ txs) := by
      rw [(List.Nodup.of_map _ ht).dedup, insertNewRecords_eq_ok_iff]
      exact ⟨⟨hne, ht, fun _ hn => hu.disjoint (hs hn), hst⟩, rfl⟩
    have hde : ∃ t', db.sentPayable.deleteRecords (txs.map FailedTx.hash).dedup = .ok t' := by
      rw [show (txs.map FailedTx.hash).dedup = hashes txs from ht.dedup]
      exact (SentPayables.exists_deleteRecords_iff ht).2 ⟨by simpa [hashes] using hne, hs⟩
    obtain ⟨sentPayable, hd⟩ := hde
    simp only [bind_eq_ok, mapErr_eq_ok, pure_eq_ok]
    exact ⟨_, _, hin, sentPayable, hd, rfl⟩

theorem hashesUnique_addNewFailures (hu : db.HashesUnique)
    (ht : (hashes txs).Nodup) (h : addNewFailures txs db = .ok db') : db'.HashesUnique := by
  obtain ⟨hsu, hs, hf⟩ := addNewFailures_ok ht h
  have hh : db'.hashes = db.sentPayable.hashes.filter (· ∉ hashes txs) ++ (hashes db.failedPayable ++ hashes txs) := by
    simp only [PaymentDb.hashes, hs, hf, hashes, List.map_append]
  obtain ⟨hnd, hnd', -⟩ := List.nodup_append.1 hu
  rw [PaymentDb.HashesUnique, hh]
  refine List.Nodup.append (hnd.filter _) (List.Nodup.append hnd' ht ?_) ?_
  · exact fun hash ho hn => hu.disjoint (hsu hn) ho
  · intro hash hk hm
    obtain ⟨hk, hno⟩ := List.mem_filter.1 hk
    rcases List.mem_append.1 hm with ho | hn
    · exact hu.disjoint hk ho
    · simp [hn] at hno

theorem finalizeSuspectedFailures_hashes (h : finalizeSuspectedFailures rechecksCompleted db = .ok db') :
    db'.sentPayable = db.sentPayable ∧ hashes db'.failedPayable = hashes db.failedPayable := by
  unfold finalizeSuspectedFailures at h
  split at h
  · cases h
    exact ⟨rfl, rfl⟩
  · simp only [bind_eq_ok, mapErr_eq_ok, pure_eq_ok] at h
    obtain ⟨failedPayable, hu, rfl⟩ := h
    exact ⟨rfl, updateStatuses_hashes hu⟩

theorem hashesUnique_finalizeSuspectedFailures (hu : db.HashesUnique)
    (h : finalizeSuspectedFailures rechecksCompleted db = .ok db') : db'.HashesUnique := by
  obtain ⟨hs, hf⟩ := finalizeSuspectedFailures_hashes h
  rw [PaymentDb.HashesUnique, PaymentDb.hashes, hs, hf]
  exact hu

theorem exists_finalizeSuspectedFailures (hu : db.HashesUnique)
    (hnd : rechecksCompleted.Nodup) (hf : rechecksCompleted ⊆ hashes db.failedPayable) :
    ∃ db', finalizeSuspectedFailures rechecksCompleted db = .ok db' := by
  unfold finalizeSuspectedFailures
  split
  · exact ⟨db, rfl⟩
  · rename_i hne
    have hm : (rechecksCompleted.dedup.map fun hash => (hash, FailureStatus.concluded)).map Prod.fst =
        rechecksCompleted := by
      rw [hnd.dedup, List.map_map]
      exact List.map_id _
    obtain ⟨failedPayable, hup⟩ := (exists_updateStatuses_iff hu.failed
      (by rw [hm]; exact hnd)).2 ⟨by simpa [hnd.dedup] using hne, by rw [hm]; exact hf⟩
    simp only [bind_eq_ok, mapErr_eq_ok, pure_eq_ok]
    exact ⟨_, failedPayable, hup, rfl⟩

section Sent

variable {fl : List (FailedValidation TxStatus)}

/-- The attempts of sent transactions are counted exactly if they can be, and the transactions have rows. -/
theorem exists_updateValidationStatusForSentTxs_iff (hpe : ∀ failure ∈ fl, failure.currentStatus.isPending)
    (hnd : (fl.map FailedValidation.txHash).Nodup) :
    (∃ db', updateValidationStatusForSentTxs ck fl db = .ok db') ↔
      (∀ failure ∈ fl, failure.currentStatus.attemptsOf failure.validationFailure + 1 < 2 ^ 16) ∧
        fl.map FailedValidation.txHash ⊆ db.sentPayable.hashes :=
  exists_prepared_iff (fun failure => failure.currentStatus.isSome_updateAfterFailure_iff)
    (fun failure hf _ => isSome_of_pending (hpe failure hf)) hnd fun _ => SentPayables.exists_updateStatuses_iff

theorem updateValidationStatusForSentTxs_hashes (h : updateValidationStatusForSentTxs ck fl db = .ok db') :
    db'.failedPayable = db.failedPayable ∧ db'.hashes = db.hashes := by
  simp only [updateValidationStatusForSentTxs, bind_eq_ok] at h
  obtain ⟨u, -, h⟩ := h
  split at h
  · cases h
    exact ⟨rfl, rfl⟩
  · simp only [bind_eq_ok, mapErr_eq_ok, pure_eq_ok] at h
    obtain ⟨sentPayable, hu, rfl⟩ := h
    exact ⟨rfl, by simp only [PaymentDb.hashes, SentPayables.updateStatuses_hashes hu]⟩

end Sent

section Failed

variable {fl : List (FailedValidation FailureStatus)}

/-- The attempts of failed transactions are counted exactly if they can be, and the transactions have rows. -/
theorem exists_updateValidationStatusForFailedTxs_iff (hun : db.HashesUnique)
    (hre : ∀ failure ∈ fl, failure.currentStatus.isRecheckRequired)
    (hnd : (fl.map FailedValidation.txHash).Nodup) :
    (∃ db', updateValidationStatusForFailedTxs ck fl db = .ok db') ↔
      (∀ failure ∈ fl, failure.currentStatus.attemptsOf failure.validationFailure + 1 < 2 ^ 16) ∧
        fl.map FailedValidation.txHash ⊆ hashes db.failedPayable :=
  exists_prepared_iff (fun failure => failure.currentStatus.isSome_updateAfterFailure_iff)
    (fun failure hf _ => isSome_of_recheckRequired (hre failure hf)) hnd fun _ => exists_updateStatuses_iff hun.failed

theorem updateValidationStatusForFailedTxs_hashes
    (h : updateValidationStatusForFailedTxs ck fl db = .ok db') : db'.hashes = db.hashes := by
  simp only [updateValidationStatusForFailedTxs, bind_eq_ok] at h
  obtain ⟨u, -, h⟩ := h
  split at h
  · cases h
    rfl
  · simp only [bind_eq_ok, mapErr_eq_ok, pure_eq_ok] at h
    obtain ⟨failedPayable, hu, rfl⟩ := h
    simp only [PaymentDb.hashes, updateStatuses_hashes hu]

end Failed

section Confirmations

variable {s s' : PendingPayableScanner} {confirmedTxs : List SentTx}

theorem exists_collectHashesAndBlocks (hc : ∀ tx ∈ confirmedTxs, tx.status.isConfirmed) :
    ∃ ha, collectHashesAndBlocks confirmedTxs = .ok ha := by
  induction confirmedTxs with
  | nil => exact ⟨[], rfl⟩
  | cons tx txs ih =>
    obtain ⟨hf, ho⟩ := List.forall_mem_cons.1 hc
    obtain ⟨rest, hr⟩ := ih ho
    cases hs : tx.status with
    | pending _ => simp [hs, TxStatus.isConfirmed] at hf
    | confirmed block detection => exact ⟨(tx.hash, block) :: rest, by simp [collectHashesAndBlocks, hs, hr]⟩

theorem exists_addToTheTotalOfPaidPayable_iff : (∃ s', s.addToTheTotalOfPaidPayable confirmedTxs = .ok s') ↔
      s.totalPaidPayableWei + (confirmedTxs.map SentTx.amountMinor).sum < 2 ^ 128 := by
  simp only [addToTheTotalOfPaidPayable, bind_eq_ok, failIf_eq_ok, okOr_eq_ok, checkedAdd_eq_some_iff, pure_eq_ok]
  constructor
  · rintro ⟨_, _, -, _, ⟨hlt, -⟩, -⟩
    exact hlt
  · intro hlt
    exact ⟨_, (), by omega, _, ⟨hlt, rfl⟩, rfl⟩

/-- Confirmations of transactions that have rows succeed exactly if the accounts and the total have room for them. -/
theorem exists_handleStandardConfirmations_iff (ha : ∀ tx ∈ confirmedTxs, storable tx.amountMinor)
    (hconf : ∀ tx ∈ confirmedTxs, tx.status.isConfirmed)
    (hs : confirmedTxs.map SentTx.hash ⊆ s.db.sentPayable.hashes) :
    (∃ s', s.handleStandardConfirmations confirmedTxs = .ok s') ↔ s.db.payable.CanConfirm confirmedTxs ∧
        (confirmedTxs ≠ [] → s.totalPaidPayableWei + (confirmedTxs.map SentTx.amountMinor).sum < 2 ^ 128) := by
  unfold handleStandardConfirmations
  split
  · rename_i hn
    subst hn
    simp [Payables.CanConfirm]
  · rename_i hne
    obtain ⟨t, hco⟩ := exists_collectHashesAndBlocks hconf
    have hc : ∃ sentPayable, s.db.sentPayable.confirmTxs t = .ok sentPayable := by
      have hh := (collectHashesAndBlocks_ok hco).1
      have hne' : t ≠ [] := by
        rintro rfl
        exact hne (by simpa using hh.symm)
      simp only [SentPayables.confirmTxs, bind_eq_ok, failIf_eq_ok]
      obtain ⟨sentPayable, he⟩ := SentPayables.exists_confirmEach_iff.2 (hh ▸ hs)
      exact ⟨sentPayable, (), hne', he⟩
    obtain ⟨sentPayable, hc⟩ := hc
    rw [← Payables.exists_transactionsConfirmed_iff ha]
    simp only [bind_eq_ok, mapErr_eq_ok, hco, hc, Except.ok.injEq, exists_eq_left']
    constructor
    · rintro ⟨s', payable, hp, ht⟩
      have hr := exists_addToTheTotalOfPaidPayable_iff.1 ⟨s', ht⟩
      exact ⟨⟨payable, hp⟩, fun _ => hr⟩
    · rintro ⟨⟨payable, hp⟩, hr⟩
      obtain ⟨s', ht⟩ := (exists_addToTheTotalOfPaidPayable_iff (s := { s with db := { s.db with
        payable := payable, sentPayable := sentPayable } })).2 (hr hne)
      exact ⟨s', payable, hp, ht⟩

theorem handleStandardConfirmations_hashes (h : s.handleStandardConfirmations confirmedTxs = .ok s') :
    s'.db.sentPayable.hashes = s.db.sentPayable.hashes ∧ s'.db.failedPayable = s.db.failedPayable := by
  unfold handleStandardConfirmations at h
  split at h
  · cases h
    exact ⟨rfl, rfl⟩
  · simp only [bind_eq_ok, mapErr_eq_ok] at h
    obtain ⟨payable, -, txConfirmations, -, sentPayable, hc, ht⟩ := h
    obtain rfl := addToTheTotalOfPaidPayable_ok ht
    simp only [SentPayables.confirmTxs, bind_eq_ok] at hc
    obtain ⟨_, -, he⟩ := hc
    exact ⟨SentPayables.confirmEach_hashes he, rfl⟩

/-- A reclaim takes the place of the transaction with its nonce: under the hash of that one, there is no row any
more. -/
theorem not_mem_hashes_of_reclaim {reclaimed : List SentTx} (h : s.handleTxFailureReclaims reclaimed = .ok s')
    (hne : List.Disjoint s.db.sentPayable.hashes (reclaimed.map SentTx.hash)) (htx : tx ∈ s.db.sentPayable.rows)
    (hr : re ∈ reclaimed) (hno : re.nonce = tx.nonce) :
    tx.hash ∉ s'.db.sentPayable.hashes := by
  unfold handleTxFailureReclaims at h
  split at h
  · rename_i hni
    simp [hni] at hr
  · simp only [bind_eq_ok, mapErr_eq_ok] at h
    obtain ⟨_, -, sentPayable, hre, _, -, ht⟩ := h
    obtain rfl := addToTheTotalOfPaidPayable_ok ht
    simp only [SentPayables.replaceRecords, bind_eq_ok, okOr_eq_ok, pure_eq_ok] at hre
    obtain ⟨_, -, _, -, t, hrew, _, -, _, -, rfl⟩ := hre
    intro hm
    obtain ⟨row, hro, hh⟩ := List.mem_map.1 hm
    rw [Table.rows_rewrite hrew] at hro
    obtain ⟨old, ho, rfl⟩ := List.mem_map.1 hro
    cases hf : reclaimed.dedup.find? (·.nonce = old.nonce) with
    | none =>
      -- a row that was left alone is that of the transaction itself, which was not left alone
      simp only [hf, Option.getD_none] at hh
      obtain rfl := List.inj_on_of_nodup_map s.db.sentPayable.nodup ho htx hh
      exact absurd hno (by simpa using List.find?_eq_none.1 hf re (List.mem_dedup.2 hr))
    | some new =>
      simp only [hf, Option.getD_some] at hh
      have hn : new ∈ reclaimed := List.mem_dedup.1 (List.mem_of_find?_eq_some hf)
      exact hne (List.mem_map_of_mem htx) (hh ▸ List.mem_map_of_mem hn)

end Confirmations

end PendingPayableScanner

end MasqMobile
