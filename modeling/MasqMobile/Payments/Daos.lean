import MasqMobile.Payments.Records

/-!
# Statements on the payment tables

Model of `PayableDaoReal` (`payable_dao.rs`), `SentPayableDaoReal` (`sent_payable_dao.rs`) and
`FailedPayableDaoReal` (`failed_payable_dao.rs`), as far as the payable and pending payable scanners use them.
A statement takes its table and returns the changed one or an error; the number of rows it changed is compared
with the number of records it was given.

A `BTreeSet` or `HashMap` argument is the list of its elements. A retrieved `BTreeSet` is in the order of the
rows, without repetitions: `failed_payable` may hold a row twice. `panicked` stands for the panic of an integer
conversion or of an overflow, after which the function does not return.
-/

namespace MasqMobile

open Fallible

/-- `SentPayableDaoError` and `FailedPayableDaoError`, which have the same variants. -/
inductive TxDaoError
  | emptyInput
  | noChange
  | invalidInput (message : String)
  | partialExecution (message : String)
  | sqlExecutionFailed
  | panicked
  deriving DecidableEq, Repr

/-- `PayableDaoError::RusqliteError`, from the `BigIntDatabaseError` it carries. -/
inductive PayableDaoError
  | rowChangeMismatch (rowKey : Address) (detectedCountChanged : Nat)
  | panicked
  deriving DecidableEq, Repr

/-- `checked_conversion::<u128, i128>` followed by `BigIntDivider::deconstruct`. -/
def storable (amount : Nat) : Prop := SplitInt.InRange amount

instance (amount : Nat) : Decidable (storable amount) := inferInstanceAs (Decidable (SplitInt.InRange _))

/-! ## What the two transaction tables share -/

section Rows

variable {ρ σ : Type*} (hash : ρ → TxHash)

/-- The checks of both `insert_new_records` functions. -/
def checkInsertable (fits : ρ → Prop) [DecidablePred fits] (txs rows : List ρ) : Except TxDaoError Unit := do
  failIf (txs = []) .emptyInput
  let uniqueHashes := (txs.map hash).dedup
  let total := txs.length
  let unique := uniqueHashes.length
  failIf (unique ≠ total)
    (.invalidInput s!"Duplicate transaction hashes found in {total} input records ({unique} unique)")
  let duplicates := (rows.filter (hash · ∈ uniqueHashes)).length
  failIf (duplicates ≠ 0)
    (.invalidInput s!"Input transaction hashes already present in the database: {duplicates}")
  failIf (¬∀ tx ∈ txs, fits tx) .panicked

/-- The row after both `update_statuses` statements. -/
def withStatus (setStatus : ρ → σ → ρ) (statusUpdates : List (TxHash × σ)) (row : ρ) : ρ :=
  match statusUpdates.find? (·.1 = hash row) with
  | some (_, status) => setStatus row status
  | none => row

/-- How many rows a statement with `WHERE tx_hash IN (..)` changes. -/
def changedRows (hashes : List TxHash) (rows : List ρ) : Nat := (rows.filter (hash · ∈ hashes)).length

/-- The checks of both `update_statuses` functions. -/
def checkUpdated (statusUpdates : List (TxHash × σ)) (rows : List ρ) : Except TxDaoError Unit := do
  failIf (statusUpdates = []) .emptyInput
  let changed := changedRows hash (statusUpdates.map Prod.fst) rows
  let total := statusUpdates.length
  failIf (changed ≠ total)
    (.partialExecution s!"Only {changed} of {total} records had their status updated.")

/-- The checks of both `delete_records` functions, whose messages differ in a word. -/
def checkDeleted (partialMessage : Nat → Nat → String) (hashes : List TxHash) (rows : List ρ) :
    Except TxDaoError Unit := do
  failIf (hashes = []) .emptyInput
  let deleted := changedRows hash hashes rows
  let total := hashes.length
  failIf (deleted ≠ total ∧ deleted = 0) .noChange
  failIf (deleted ≠ total) (.partialExecution (partialMessage deleted total))

/-! ### When the checks are passed -/

variable {hash : ρ → TxHash} {rows : List ρ}

/-- A statement changes as many rows as it was given hashes exactly if each of them has a row. -/
theorem changedRows_eq_length_iff {hashes : List TxHash} (hro : (rows.map hash).Nodup) (hha : hashes.Nodup) :
    changedRows hash hashes rows = hashes.length ↔ hashes ⊆ rows.map hash := by
  -- the hashes of the changed rows
  let changed := (rows.filter (hash · ∈ hashes)).map hash
  have hc : changed.Nodup := hro.sublist (List.filter_sublist.map hash)
  have hm : ∀ h, h ∈ changed ↔ h ∈ rows.map hash ∧ h ∈ hashes := by
    intro h
    simp only [changed, List.mem_map, List.mem_filter, decide_eq_true_eq]
    constructor
    · rintro ⟨row, ⟨hr, hin⟩, rfl⟩
      exact ⟨⟨row, hr, rfl⟩, hin⟩
    · rintro ⟨⟨row, hr, rfl⟩, hin⟩
      exact ⟨row, ⟨hr, hin⟩, rfl⟩
  have hl : changedRows hash hashes rows = changed.length := by simp [changed, changedRows]
  have hs : changed ⊆ hashes := fun h hh => ((hm h).1 hh).2
  rw [hl]
  constructor
  · intro heq h hh
    have hp : changed.Perm hashes := (List.subperm_of_subset hc hs).perm_of_length_le (Nat.le_of_eq heq.symm)
    exact ((hm h).1 (hp.mem_iff.2 hh)).1
  · intro ha
    have hs' : hashes ⊆ changed := fun h hh => (hm h).2 ⟨ha hh, hh⟩
    exact Nat.le_antisymm (List.subperm_of_subset hc hs).length_le (List.subperm_of_subset hha hs').length_le

theorem checkUpdated_eq_ok_iff {statusUpdates : List (TxHash × σ)} (hr : (rows.map hash).Nodup)
    (hu : (statusUpdates.map Prod.fst).Nodup) :
    checkUpdated hash statusUpdates rows = .ok () ↔
      statusUpdates ≠ [] ∧ statusUpdates.map Prod.fst ⊆ rows.map hash := by
  simp only [checkUpdated, bind_eq_ok, failIf_eq_ok, not_not]
  rw [← changedRows_eq_length_iff hr hu, List.length_map]
  simp

theorem checkDeleted_eq_ok_iff {p : Nat → Nat → String} {hashes : List TxHash}
    (hr : (rows.map hash).Nodup) (hh : hashes.Nodup) :
    checkDeleted hash p hashes rows = .ok () ↔ hashes ≠ [] ∧ hashes ⊆ rows.map hash := by
  simp only [checkDeleted, bind_eq_ok, failIf_eq_ok, not_not]
  rw [← changedRows_eq_length_iff hr hh]
  constructor
  · rintro ⟨_, hne, _, -, hc⟩
    exact ⟨hne, hc⟩
  · rintro ⟨hne, hc⟩
    exact ⟨(), hne, (), fun h => h.1 hc, hc⟩

theorem checkInsertable_eq_ok_iff {fits : ρ → Prop} [DecidablePred fits] {txs : List ρ} :
    checkInsertable hash fits txs rows = .ok () ↔
      txs ≠ [] ∧ (txs.map hash).Nodup ∧ List.Disjoint (txs.map hash) (rows.map hash) ∧ ∀ tx ∈ txs, fits tx := by
  have hu : (txs.map hash).dedup.length = txs.length ↔ (txs.map hash).Nodup := by
    rw [← List.dedup_eq_self, ← List.length_map hash]
    exact ⟨fun h => (List.dedup_sublist _).eq_of_length h, fun h => by rw [h]⟩
  have hd : (rows.filter (hash · ∈ (txs.map hash).dedup)).length = 0 ↔
      List.Disjoint (txs.map hash) (rows.map hash) := by
    simp only [List.length_eq_zero_iff, List.filter_eq_nil_iff, List.mem_dedup, decide_eq_true_eq]
    constructor
    · intro h k hk hr
      obtain ⟨row, hm, rfl⟩ := List.mem_map.1 hr
      exact h row hm hk
    · intro h row hr hk
      exact h hk (List.mem_map_of_mem hr)
  simp only [checkInsertable, bind_eq_ok, failIf_eq_ok, not_not, hu, hd]
  simp

end Rows

/-! ## `sent_payable` -/

variable {tx : SentTx}

namespace SentPayables

/-- `RetrieveCondition::IsPending`. -/
def retrievePending (t : SentPayables) : List SentTx := t.rows.filter (·.status.isPending)

/-- `RetrieveCondition::ByNonce` with one nonce. -/
def retrieveByNonce (t : SentPayables) (nonce : Nat) : List SentTx := t.rows.filter (·.nonce = nonce)

/-- `insert_new_records`, `sent_payable_dao.rs:232`. -/
def insertNewRecords (txs : List SentTx) (t : SentPayables) : Except TxDaoError SentPayables := do
  checkInsertable SentTx.hash (fun tx => storable tx.amountMinor ∧ storable tx.gasPriceMinor) txs t.rows
  if h : ((t.rows ++ txs).map SentTx.hash).Nodup then
    return ⟨t.rows ++ txs, h⟩
  else
    throw .sqlExecutionFailed

/-- The status written by `confirm_txs` to the row of one hash. -/
def confirmTx (hash : TxHash) (block : TxBlock) (t : SentPayables) : Except TxDaoError SentPayables := do
  let updated := changedRows SentTx.hash [hash] t.rows
  failIf (updated ≠ 1) (.partialExecution s!"Failed to update status for hash {hash}")
  return t.mapRows
    (fun row => if row.hash = hash then { row with status := .confirmed block .normal } else row)
    (fun row => by split <;> rfl)

/-- The loop of `confirm_txs`. -/
def confirmEach (t : SentPayables) : List (TxHash × TxBlock) → Except TxDaoError SentPayables
  | [] => .ok t
  | (hash, block) :: rest => do
    let t' ← t.confirmTx hash block
    t'.confirmEach rest

/-- `confirm_txs`, `sent_payable_dao.rs:332`. -/
def confirmTxs (hashMap : List (TxHash × TxBlock)) (t : SentPayables) : Except TxDaoError SentPayables := do
  failIf (hashMap = []) .emptyInput
  t.confirmEach hashMap

/-- `replace_records`, `sent_payable_dao.rs:364`: the row of a nonce becomes the first record of that nonce. -/
def replaceRecords (newTxs : List SentTx) (t : SentPayables) : Except TxDaoError SentPayables := do
  failIf (newTxs = []) .emptyInput
  failIf (¬∀ tx ∈ newTxs, storable tx.amountMinor ∧ storable tx.gasPriceMinor) .panicked
  let t' ← okOr (t.rewrite fun row => newTxs.find? (·.nonce = row.nonce)) .sqlExecutionFailed
  let updated := (t.rows.filter (·.nonce ∈ newTxs.map SentTx.nonce)).length
  let total := newTxs.length
  failIf (updated = 0) .noChange
  failIf (updated ≠ total) (.partialExecution s!"Only {updated} out of {total} records updated")
  return t'

/-- `update_statuses`, `sent_payable_dao.rs:448`. -/
def updateStatuses (statusUpdates : List (TxHash × TxStatus)) (t : SentPayables) : Except TxDaoError SentPayables := do
  checkUpdated SentTx.hash statusUpdates t.rows
  return t.mapRows (withStatus SentTx.hash (fun row status => { row with status := status }) statusUpdates)
    (fun row => by unfold withStatus; split <;> rfl)

/-- `delete_records`, `sent_payable_dao.rs:489`. -/
def deleteRecords (hashes : List TxHash) (t : SentPayables) : Except TxDaoError SentPayables := do
  checkDeleted SentTx.hash
    (fun deleted total => s!"Only {deleted} of the {total} hashes has been deleted.") hashes t.rows
  return t.deleteWhere (·.hash ∈ hashes)

/-! ### What the statements on `sent_payable` leave behind -/

variable {hashMap : List (TxHash × TxBlock)} {statusUpdates : List (TxHash × TxStatus)} {t t' : SentPayables}
  {block : TxBlock} {hash : TxHash}

theorem confirmTx_ok (h : t.confirmTx hash block = .ok t') : (∃ row ∈ t.rows, row.hash = hash) ∧
      t'.rows = t.rows.map fun row =>
        if row.hash = hash then { row with status := .confirmed block .normal } else row := by
  simp only [confirmTx, bind_eq_ok, failIf_eq_ok, pure_eq_ok] at h
  obtain ⟨_, hc, rfl⟩ := h
  refine ⟨?_, rfl⟩
  have hne : t.rows.filter (·.hash ∈ [hash]) ≠ [] := by
    intro hn
    rw [changedRows, hn] at hc
    exact hc (by decide)
  obtain ⟨row, hr⟩ := List.exists_mem_of_ne_nil _ hne
  exact ⟨row, by simpa using hr⟩

def hashes (t : SentPayables) : List TxHash := t.rows.map SentTx.hash

theorem confirmTx_hashes (h : t.confirmTx hash block = .ok t') : t'.hashes = t.hashes := by
  simp only [confirmTx, bind_eq_ok, pure_eq_ok] at h
  obtain ⟨_, -, rfl⟩ := h
  exact Table.map_key_mapRows ..

theorem exists_confirmTx_iff : (∃ t', t.confirmTx hash block = .ok t') ↔ hash ∈ t.hashes := by
  have hc : changedRows SentTx.hash [hash] t.rows = 1 ↔ [hash] ⊆ t.hashes :=
    changedRows_eq_length_iff t.nodup (List.nodup_singleton hash)
  simp only [confirmTx, bind_eq_ok, failIf_eq_ok, pure_eq_ok, not_not, hc]
  simp

theorem confirmEach_hashes (h : t.confirmEach hashMap = .ok t') : t'.hashes = t.hashes := by
  induction hashMap generalizing t with
  | nil =>
    cases h
    rfl
  | cons entry rest ih =>
    simp only [confirmEach, bind_eq_ok] at h
    obtain ⟨t₁, hf, hr⟩ := h
    rw [ih hr, confirmTx_hashes hf]

theorem exists_confirmEach_iff : (∃ t', t.confirmEach hashMap = .ok t') ↔ hashMap.map Prod.fst ⊆ t.hashes := by
  induction hashMap generalizing t with
  | nil => simp [confirmEach]
  | cons entry rest ih =>
    simp only [confirmEach, bind_eq_ok, List.map_cons, List.cons_subset]
    constructor
    · rintro ⟨t', t₁, hf, hr⟩
      refine ⟨exists_confirmTx_iff.1 ⟨t₁, hf⟩, ?_⟩
      rw [← confirmTx_hashes hf]
      exact ih.1 ⟨t', hr⟩
    · rintro ⟨hh, ha⟩
      obtain ⟨t₁, hf⟩ := exists_confirmTx_iff.2 hh
      obtain ⟨t', hr⟩ := ih.2 (confirmTx_hashes hf ▸ ha)
      exact ⟨t', t₁, hf, hr⟩

theorem updateStatuses_hashes (h : t.updateStatuses statusUpdates = .ok t') : t'.hashes = t.hashes := by
  simp only [updateStatuses, bind_eq_ok, pure_eq_ok] at h
  obtain ⟨_, -, rfl⟩ := h
  exact Table.map_key_mapRows ..

theorem exists_updateStatuses_iff (hu : (statusUpdates.map Prod.fst).Nodup) :
    (∃ t', t.updateStatuses statusUpdates = .ok t') ↔ statusUpdates ≠ [] ∧ statusUpdates.map Prod.fst ⊆ t.hashes := by
  rw [hashes, ← checkUpdated_eq_ok_iff t.nodup hu]
  exact exists_bind_pure_iff

theorem deleteRecords_hashes (h : t.deleteRecords d = .ok t') : t'.hashes = t.hashes.filter (· ∉ d) := by
  simp only [deleteRecords, bind_eq_ok, pure_eq_ok] at h
  obtain ⟨_, -, rfl⟩ := h
  simp [hashes, Table.deleteWhere, List.filter_map, Function.comp_def]

theorem exists_deleteRecords_iff (hd : d.Nodup) : (∃ t', t.deleteRecords d = .ok t') ↔ d ≠ [] ∧ d ⊆ t.hashes := by
  rw [hashes, ← checkDeleted_eq_ok_iff t.nodup hd]
  exact exists_bind_pure_iff

/-- There is a confirmed record under `hash`. -/
def Recorded (t : SentPayables) (hash : TxHash) : Prop := ∃ row ∈ t.rows, row.hash = hash ∧ row.status.isConfirmed

theorem confirmTx_recorded (h : t.confirmTx hash block = .ok t') (hre : ha' = hash ∨ t.Recorded ha') :
    t'.Recorded ha' := by
  obtain ⟨⟨row, hr, rfl⟩, hro⟩ := confirmTx_ok h
  rcases hre with rfl | ⟨row', hr', rfl, hc⟩
  · exact ⟨_, hro ▸ List.mem_map_of_mem hr, by simp, by simp [TxStatus.isConfirmed]⟩
  · refine ⟨_, hro ▸ List.mem_map_of_mem hr', ?_, ?_⟩
    · split <;> rfl
    · split
      · rfl
      · exact hc

theorem confirmEach_recorded (h : t.confirmEach hashMap = .ok t') (hr : hash ∈ hashMap.map Prod.fst ∨ t.Recorded hash) :
    t'.Recorded hash := by
  induction hashMap generalizing t with
  | nil =>
    cases h
    simpa using hr
  | cons entry rest ih =>
    simp only [confirmEach, bind_eq_ok] at h
    obtain ⟨t₁, hf, hre⟩ := h
    refine ih hre ?_
    simp only [List.map_cons, List.mem_cons] at hr
    rcases hr with (hfs | hl) | ho
    · exact .inr (confirmTx_recorded hf (.inl hfs))
    · exact .inl hl
    · exact .inr (confirmTx_recorded hf (.inr ho))

/-- If `replace_records` succeeds, every record it was given is in the table: the rows it changed have
distinct hashes, so that no record was written twice, and they are as many as the records. -/
theorem mem_of_replaceRecords {newTxs : List SentTx} (h : t.replaceRecords newTxs = .ok t')
    (htx : tx ∈ newTxs) : tx ∈ t'.rows := by
  simp only [replaceRecords, bind_eq_ok, failIf_eq_ok, okOr_eq_ok, pure_eq_ok] at h
  obtain ⟨_, -, _, -, t'', hre, _, -, _, hc, rfl⟩ := h
  have hr := Table.rows_rewrite hre
  -- the changed rows after the statement
  let written := (t.rows.filter (·.nonce ∈ newTxs.map SentTx.nonce)).map fun row =>
    (newTxs.find? (·.nonce = row.nonce)).getD row
  have hs : List.Sublist written t''.rows := hr ▸ List.filter_sublist.map _
  have hnd : written.Nodup := (List.Nodup.of_map _ t''.nodup).sublist hs
  have hm : written ⊆ newTxs := by
    intro tx' htx'
    obtain ⟨row, hro, rfl⟩ := List.mem_map.1 htx'
    obtain ⟨tx₁, htx₁, hn⟩ := List.mem_map.1 (by simpa using (List.mem_filter.1 hro).2)
    cases hf : newTxs.find? (·.nonce = row.nonce) with
    | none => exact absurd hn (by simpa using List.find?_eq_none.1 hf tx₁ htx₁)
    | some tx₂ => simpa using List.mem_of_find?_eq_some hf
  have hl : newTxs.length ≤ written.length := by
    simp only [written, List.length_map]
    omega
  have hp : written.Perm newTxs := (List.subperm_of_subset hnd hm).perm_of_length_le hl
  exact hs.subset (hp.mem_iff.2 htx)

end SentPayables

/-! ## `failed_payable` -/

namespace FailedPayables

/-- `FailureRetrieveCondition::EveryRecheckRequiredRecord`. -/
def retrieveRecheckRequired (rows : List FailedTx) : List FailedTx := (rows.filter (·.status.isRecheckRequired)).dedup

/-- `FailureRetrieveCondition::ByStatus(FailureStatus::RetryRequired)`. -/
def retrieveRetryRequired (rows : List FailedTx) : List FailedTx := (rows.filter (·.status = .retryRequired)).dedup

/-- `FailureRetrieveCondition::ByReceiverAddresses`. -/
def retrieveByReceiverAddresses (addresses : List Address) (rows : List FailedTx) : List FailedTx :=
  (rows.filter (·.receiverAddress ∈ addresses)).dedup

/-- `insert_new_records`, `failed_payable_dao.rs:220`. -/
def insertNewRecords (txs rows : List FailedTx) : Except TxDaoError (List FailedTx) := do
  checkInsertable FailedTx.hash (fun tx => storable tx.amountMinor ∧ storable tx.gasPriceMinor) txs rows
  return rows ++ txs

/-- `update_statuses`, `failed_payable_dao.rs:335`. -/
def updateStatuses (statusUpdates : List (TxHash × FailureStatus)) (rows : List FailedTx) :
    Except TxDaoError (List FailedTx) := do
  checkUpdated FailedTx.hash statusUpdates rows
  return rows.map (withStatus FailedTx.hash (fun row status => { row with status := status }) statusUpdates)

/-- `delete_records`, `failed_payable_dao.rs:375`. -/
def deleteRecords (hashes : List TxHash) (rows : List FailedTx) : Except TxDaoError (List FailedTx) := do
  checkDeleted FailedTx.hash
    (fun deleted total => s!"Only {deleted} of {total} hashes has been deleted.") hashes rows
  return rows.filter (·.hash ∉ hashes)

/-! ### What the statements on `failed_payable` leave behind -/

def hashes (rows : List FailedTx) : List TxHash := rows.map FailedTx.hash

variable {statusUpdates : List (TxHash × FailureStatus)} {rows : List FailedTx}

theorem insertNewRecords_eq_ok_iff {txs rows' : List FailedTx} : insertNewRecords txs rows = .ok rows' ↔
      (txs ≠ [] ∧ (hashes txs).Nodup ∧ List.Disjoint (hashes txs) (hashes rows) ∧
        ∀ tx ∈ txs, storable tx.amountMinor ∧ storable tx.gasPriceMinor) ∧ rows ++ txs = rows' := by
  simp only [insertNewRecords, bind_eq_ok, pure_eq_ok, hashes, ← checkInsertable_eq_ok_iff]
  constructor
  · rintro ⟨_, hc, h⟩
    exact ⟨hc, h⟩
  · rintro ⟨hc, h⟩
    exact ⟨(), hc, h⟩

theorem updateStatuses_hashes {rows' : List FailedTx}
    (h : updateStatuses statusUpdates rows = .ok rows') : hashes rows' = hashes rows := by
  simp only [updateStatuses, bind_eq_ok, pure_eq_ok] at h
  obtain ⟨_, -, rfl⟩ := h
  simp only [hashes, List.map_map]
  refine List.map_congr_left fun row _ => ?_
  simp only [Function.comp_apply, withStatus]
  split <;> rfl

theorem exists_updateStatuses_iff (hr : (hashes rows).Nodup) (hu : (statusUpdates.map Prod.fst).Nodup) :
    (∃ rows', updateStatuses statusUpdates rows = .ok rows') ↔
      statusUpdates ≠ [] ∧ statusUpdates.map Prod.fst ⊆ hashes rows := by
  rw [hashes, ← checkUpdated_eq_ok_iff hr hu]
  exact exists_bind_pure_iff

end FailedPayables

/-! ## `payable` -/

namespace Payables

/-- One turn of the loop of `transactions_confirmed`: `WeiChange` with `Subtraction`, through
`BigIntDbProcessorReal::execute` (`big_int_db_processor.rs:36`). -/
def confirmPayable (tx : SentTx) (t : Payables) : Except PayableDaoError Payables :=
  if h : SplitInt.InRange (-tx.amountMinor) then do
    let row ← okOr (t.find tx.receiverAddress) (.rowChangeMismatch tx.receiverAddress 0)
    let balance ← okOr (row.balance.add (.ofInt (-tx.amountMinor) h)) .panicked
    return t.put { row with balance := balance, lastPaidTimestamp := tx.timestamp, pendingPayableRowid := none }
  else
    throw .panicked

/-- `transactions_confirmed`, `payable_dao.rs:183`, one database transaction. -/
def transactionsConfirmed (t : Payables) : List SentTx → Except PayableDaoError Payables
  | [] => .ok t
  | tx :: txs => do
    let t' ← t.confirmPayable tx
    t'.transactionsConfirmed txs

/-- `more_money_payable`, `payable_dao.rs:126`: `WeiChange` with `Addition` on the account, which is opened if
there is none. -/
def moreMoneyPayable (timestamp : Int) (wallet : Address) (amountMinor : Nat) (t : Payables) :
    Except PayableDaoError Payables :=
  if h : SplitInt.InRange amountMinor then
    match t.find wallet with
    | none => return t.put ⟨wallet, .ofInt amountMinor h, timestamp, none⟩
    | some row => do
      let balance ← okOr (row.balance.add (.ofInt amountMinor h)) .panicked
      return t.put { row with balance := balance }
  else
    throw .panicked

def owedTo (t : Payables) (wallet : Address) : Int := t.valueAt (fun row => row.balance.toInt) wallet

variable {t t' : Payables} {txs : List SentTx}

theorem confirmPayable_owedTo (h : t.confirmPayable tx = .ok t') (w : Address) :
    t'.owedTo w = t.owedTo w - if tx.receiverAddress = w then (tx.amountMinor : Int) else 0 := by
  unfold confirmPayable at h
  split at h
  · rename_i hrn
    simp only [bind_eq_ok, okOr_eq_ok, pure_eq_ok] at h
    obtain ⟨row, hr, balance, ha, rfl⟩ := h
    have hk : row.walletAddress = tx.receiverAddress := (Table.find_eq_some_iff.1 hr).2
    have hb : balance.toInt = row.balance.toInt - tx.amountMinor := by
      rw [SplitInt.toInt_add ha, SplitInt.toInt_ofInt, Int.sub_eq_add_neg]
    simp only [owedTo, Table.valueAt_put, hk]
    by_cases hw : tx.receiverAddress = w
    · have ho : t.valueAt (fun row => row.balance.toInt) w = row.balance.toInt := by
        rw [← hw, Table.valueAt, hr]
        rfl
      simp [hw, hb, ho]
    · simp [hw]
  · cases h

def paidTo (wallet : Address) (txs : List SentTx) : Nat :=
  ((txs.filter (·.receiverAddress = wallet)).map SentTx.amountMinor).sum

/-- `transactions_confirmed` takes off each account what the transactions pay to it. -/
theorem transactionsConfirmed_owedTo (h : t.transactionsConfirmed txs = .ok t') (w : Address) :
    t'.owedTo w = t.owedTo w - paidTo w txs := by
  induction txs generalizing t with
  | nil =>
    cases h
    simp [paidTo]
  | cons tx txs ih =>
    simp only [transactionsConfirmed, bind_eq_ok] at h
    obtain ⟨t₁, hf, hr⟩ := h
    rw [ih hr, confirmPayable_owedTo hf]
    by_cases hw : tx.receiverAddress = w
    · simp [paidTo, hw]
      omega
    · simp [paidTo, hw]

/-- The account of `wallet` can be charged `amount`, after `paid` was taken off it: it exists, and the sum of the
high columns does not overflow. -/
def CanPay (t : Payables) (wallet : Address) (paid amount : Nat) : Prop :=
  (t.find wallet).isSome ∧ -2 ^ 63 ≤ (t.owedTo wallet - paid) / 2 ^ 63 + (-amount : Int) / 2 ^ 63

/-- Each of the transactions can be taken off the account of its receiver, after those before it. -/
def CanConfirm (t : Payables) (txs : List SentTx) : Prop := ∀ before tx later, txs = before ++ tx :: later →
    t.CanPay tx.receiverAddress (paidTo tx.receiverAddress before) tx.amountMinor

theorem exists_confirmPayable_iff (ham : storable tx.amountMinor) :
    (∃ t', t.confirmPayable tx = .ok t') ↔ t.CanPay tx.receiverAddress 0 tx.amountMinor := by
  have hr : SplitInt.InRange (-tx.amountMinor) := by
    simp only [storable, SplitInt.InRange] at ham ⊢
    omega
  simp only [confirmPayable, hr, dif_pos, bind_eq_ok, okOr_eq_ok, pure_eq_ok, CanPay, owedTo, Table.valueAt]
  cases hf : t.find tx.receiverAddress with
  | none => simp
  | some row =>
    have hh : row.balance.toInt / 2 ^ 63 = row.balance.high := by
      have := row.balance.low_mem
      simp only [SplitInt.toInt]
      omega
    have ha := SplitInt.isSome_add_ofInt_neg row.balance hr
    simp only [Option.some.injEq, exists_eq_left', Option.isSome_some, true_and, Option.elim_some, Nat.cast_zero,
      Int.sub_zero, hh, ← ha, Option.isSome_iff_exists]
    constructor
    · rintro ⟨_, balance, h, _⟩
      exact ⟨balance, h⟩
    · rintro ⟨balance, h⟩
      exact ⟨_, balance, h, rfl⟩

theorem confirmPayable_isSome_find (h : t.confirmPayable tx = .ok t')
    (w : Address) : (t'.find w).isSome = (t.find w).isSome := by
  unfold confirmPayable at h
  split at h
  · simp only [bind_eq_ok, okOr_eq_ok, pure_eq_ok] at h
    obtain ⟨row, hr, balance, -, rfl⟩ := h
    have hk : row.walletAddress = tx.receiverAddress := (Table.find_eq_some_iff.1 hr).2
    refine Table.isSome_find_put ?_ w
    show (t.find row.walletAddress).isSome
    rw [hk, hr]
    rfl
  · cases h

/-- `transactions_confirmed` succeeds exactly if every account has room for what is taken off it. -/
theorem exists_transactionsConfirmed_iff (ha : ∀ tx ∈ txs, storable tx.amountMinor) :
    (∃ t', t.transactionsConfirmed txs = .ok t') ↔ t.CanConfirm txs := by
  induction txs generalizing t with
  | nil => simp [transactionsConfirmed, CanConfirm]
  | cons tx txs ih =>
    obtain ⟨ham, ha⟩ := List.forall_mem_cons.1 ha
    -- what the first transaction takes off is counted before each later one
    have hl : ∀ t₁, t.confirmPayable tx = .ok t₁ → (t₁.CanConfirm txs ↔
        ∀ before tx' later, txs = before ++ tx' :: later →
          t.CanPay tx'.receiverAddress (paidTo tx'.receiverAddress (tx :: before)) tx'.amountMinor) := by
      intro t₁ hf
      refine forall₄_congr fun before tx' later _ => ?_
      rw [CanPay, CanPay, confirmPayable_isSome_find hf, confirmPayable_owedTo hf]
      have hp : (paidTo tx'.receiverAddress (tx :: before) : Int) =
          (if tx.receiverAddress = tx'.receiverAddress then (tx.amountMinor : Int) else 0) +
            paidTo tx'.receiverAddress before := by
        by_cases hw : tx.receiverAddress = tx'.receiverAddress <;> simp [paidTo, hw]
      rw [hp, Int.sub_sub]
    have hs : t.CanConfirm (tx :: txs) ↔ t.CanPay tx.receiverAddress 0 tx.amountMinor ∧
        ∀ before tx' later, txs = before ++ tx' :: later →
          t.CanPay tx'.receiverAddress (paidTo tx'.receiverAddress (tx :: before)) tx'.amountMinor := by
      constructor
      · intro h
        exact ⟨h [] tx txs rfl, fun before tx' later heq => h (tx :: before) tx' later (by rw [heq]; rfl)⟩
      · rintro ⟨hf, hr⟩ before tx' later heq
        cases before with
        | nil =>
          obtain ⟨rfl, -⟩ := List.cons.inj heq
          exact hf
        | cons _ before =>
          obtain ⟨rfl, hr'⟩ := List.cons.inj heq
          exact hr before tx' later hr'
    simp only [transactionsConfirmed, bind_eq_ok]
    rw [hs, ← exists_confirmPayable_iff ham]
    constructor
    · rintro ⟨t', t₁, hf, hr⟩
      exact ⟨⟨t₁, hf⟩, (hl t₁ hf).1 ((ih ha).1 ⟨t', hr⟩)⟩
    · rintro ⟨⟨t₁, hf⟩, hr⟩
      obtain ⟨t', hr⟩ := (ih ha).2 ((hl t₁ hf).2 hr)
      exact ⟨t', t₁, hf, hr⟩

end Payables

end MasqMobile
