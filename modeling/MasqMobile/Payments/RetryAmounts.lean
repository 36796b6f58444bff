import MasqMobile.Payments.PayableScan

/-!
# What a retry batch pays

A scan for retry payables makes one template for each failed transaction that awaits a retry
(tx_templates/initial/retry.rs:57), while the amount is looked up by receiver (mod.rs:359): each template to a
receiver asks for the whole of its latest balance.
-/

namespace MasqMobile

open Fallible

namespace Payables

variable {t : Payables} {addresses : List Address} {accounts : List PayableAccount} {row : PayableRow}

/-- The rows that `retrieve_payables` selects, as a table. -/
def selected (t : Payables) (addresses : List Address) : Payables :=
  t.deleteWhere fun row => !(row.pendingPayableRowid = none ∧ row.walletAddress ∈ addresses : Bool)

theorem find_selected (t : Payables) (hro : row ∈ t.rows) (ha : row.walletAddress ∈ addresses) :
    (t.selected addresses).find row.walletAddress = if row.pendingPayableRowid = none then some row else none := by
  have hm : ∀ r, r ∈ (t.selected addresses).rows ↔
      r ∈ t.rows ∧ r.pendingPayableRowid = none ∧ r.walletAddress ∈ addresses := by
    intro r
    simp [selected, Table.deleteWhere]
  split
  · rename_i hp
    exact Table.find_eq_some_iff.2 ⟨(hm row).2 ⟨hro, hp, ha⟩, rfl⟩
  · rename_i hp
    refine Table.find_eq_none_iff.2 fun r hr hk => ?_
    obtain ⟨hr, hn, -⟩ := (hm r).1 hr
    obtain rfl := List.inj_on_of_nodup_map t.nodup hr hro hk
    exact hp hn

/-- Looking an address up among the retrieved accounts finds its balance, unless the row is marked as pending. -/
theorem lookup_retrievePayables (h : t.retrievePayables (some addresses) = .ok accounts) (hro : row ∈ t.rows)
    (ha : row.walletAddress ∈ addresses) :
    (accounts.map fun account => (account.wallet, account.balanceWei)).lookup row.walletAddress =
      if row.pendingPayableRowid = none then some row.balance.toInt.toNat else none := by
  simp only [retrievePayables, bind_eq_ok, pure_eq_ok] at h
  obtain ⟨_, -, rfl⟩ := h
  have hr := Table.lookup_map_rows (t.selected addresses) (fun r => r.balance.toInt.toNat) row.walletAddress
  rw [find_selected t hro ha] at hr
  simpa [selected, Table.deleteWhere, List.map_map, Function.comp_def, apply_ite] using hr

theorem balance_nonneg_of_retrievePayables (h : t.retrievePayables (some addresses) = .ok accounts)
    (hr : row ∈ t.rows) (ha : row.walletAddress ∈ addresses) (hp : row.pendingPayableRowid = none) :
    0 ≤ row.balance.toInt := by
  simp only [retrievePayables, bind_eq_ok, failIf_eq_ok] at h
  obtain ⟨_, hs, -⟩ := h
  by_contra hn
  exact hs ⟨row, by simp [hr, ha, hp], .inl (by omega)⟩

end Payables

namespace RetryTxTemplates

def requestedFor (receiver : Address) (templates : List RetryTxTemplate) : Nat :=
  ((templates.filter (·.base.receiverAddress = receiver)).map (·.base.amountInWei)).sum

theorem receiverAddress_new : (RetryTxTemplate.new f u).base.receiverAddress = f.receiverAddress := by
  cases u <;> rfl

theorem amountInWei_new : (RetryTxTemplate.new f u).base.amountInWei =
      u.getD f.amountMinor := by
  cases u <;> rfl

/-- The templates to one receiver ask for its balance as often as there are transactions to retry; without a
balance they ask for the former amounts. -/
theorem requestedFor_new :
    requestedFor receiver (RetryTxTemplates.new ttr afp) = let retried := ttr.filter (·.receiverAddress = receiver)
      match afp.lookup receiver with
      | some balance => retried.length * balance
      | none => (retried.map FailedTx.amountMinor).sum := by
  have ha : ∀ tx ∈ ttr.filter (·.receiverAddress = receiver),
      (RetryTxTemplate.new tx (afp.lookup tx.receiverAddress)).base.amountInWei =
        (afp.lookup receiver).getD tx.amountMinor := by
    intro tx htx
    have hr : tx.receiverAddress = receiver := by simpa using (List.mem_filter.1 htx).2
    rw [amountInWei_new, hr]
  simp only [requestedFor, RetryTxTemplates.new, List.filter_map, Function.comp_def, receiverAddress_new, List.map_map]
  rw [List.map_congr_left ha]
  cases afp.lookup receiver with
  | some balance => simp
  | none => rfl

end RetryTxTemplates

namespace PayableScanner

variable {db : PaymentDb} {account : PayableRow} {templates : List RetryTxTemplate}

/-- The failed transactions to `receiver` that a retry scan picks up. -/
def retriedTo (receiver : Address) (db : PaymentDb) : List FailedTx :=
  (FailedPayables.retrieveRetryRequired db.failedPayable).filter (·.receiverAddress = receiver)

/-- The tables let a retry scan pay no more than is owed to `account`. -/
def RetriedWithinDebt (db : PaymentDb) (account : PayableRow) : Prop :=
  let retried := retriedTo account.walletAddress db
  if account.pendingPayableRowid = none then
    account.balance.toInt = 0 ∨ (0 ≤ account.balance.toInt ∧ retried.length ≤ 1)
  else ((retried.map FailedTx.amountMinor).sum : Int) ≤ account.balance.toInt

instance (db : PaymentDb) (account : PayableRow) : Decidable (RetriedWithinDebt db account) :=
  inferInstanceAs (Decidable (ite (account.pendingPayableRowid = none)
    (account.balance.toInt = 0 ∨ (0 ≤ account.balance.toInt ∧ (retriedTo account.walletAddress db).length ≤ 1))
    ((((retriedTo account.walletAddress db).map FailedTx.amountMinor).sum : Int) ≤ account.balance.toInt)))

theorem mem_addresses (h : retriedTo re db ≠ []) :
    re ∈ (FailedPayables.retrieveRetryRequired db.failedPayable).map FailedTx.receiverAddress := by
  obtain ⟨tx, htx⟩ := List.exists_mem_of_ne_nil _ h
  obtain ⟨htx, hr⟩ := List.mem_filter.1 htx
  exact List.mem_map.2 ⟨tx, htx, by simpa using hr⟩

/-- Once a failed transaction to an account is to be retried, its balance is read, and is not negative. -/
theorem balance_nonneg_of_startRetryScan (h : startRetryScan db = .ok (.retry templates))
    (ha : account ∈ db.payable.rows) (hp : account.pendingPayableRowid = none)
    (hr : retriedTo account.walletAddress db ≠ []) : 0 ≤ account.balance.toInt := by
  simp only [startRetryScan, retryTemplates, findAmountFromPayables, bind_eq_ok] at h
  obtain ⟨_, ⟨_, ⟨accounts, hac, -⟩, -⟩, -⟩ := h
  exact Payables.balance_nonneg_of_retrievePayables hac ha (mem_addresses hr) hp

theorem requestedFor_startRetryScan (h : startRetryScan db = .ok (.retry templates)) (ha : account ∈ db.payable.rows) :
    RetryTxTemplates.requestedFor account.walletAddress templates = if account.pendingPayableRowid = none then
        (retriedTo account.walletAddress db).length * account.balance.toInt.toNat
      else ((retriedTo account.walletAddress db).map FailedTx.amountMinor).sum := by
  simp only [startRetryScan, retryTemplates, findAmountFromPayables, bind_eq_ok,
    pure_eq_ok, InitialTemplates.retry.injEq] at h
  obtain ⟨_, ⟨_, ⟨accounts, hac, rfl⟩, rfl⟩, rfl⟩ := h
  rw [RetryTxTemplates.requestedFor_new, ← retriedTo]
  by_cases hr : retriedTo account.walletAddress db = []
  · cases (accounts.map fun account => (account.wallet, account.balanceWei)).lookup account.walletAddress <;>
      simp [hr]
  · rw [Payables.lookup_retrievePayables hac ha (mem_addresses hr)]
    split <;> simp_all

/-- **A retry scan asks for at most what is owed to an account exactly if the tables allow it**: no more than one
failed transaction to it awaits a retry, or nothing is owed to it; for an account marked as pending, whose balance
is not looked up, if the former amounts together are within the balance. -/
theorem retries_within_debt (h : startRetryScan db = .ok (.retry templates)) (haccount : account ∈ db.payable.rows) :
    (RetryTxTemplates.requestedFor account.walletAddress templates : Int) ≤ account.balance.toInt ↔
      RetriedWithinDebt db account := by
  rw [requestedFor_startRetryScan h haccount, RetriedWithinDebt]
  by_cases hp : account.pendingPayableRowid = none
  · simp only [hp, if_true]
    by_cases hr : retriedTo account.walletAddress db = []
    · simp only [hr, List.length_nil]
      omega
    · have hn := balance_nonneg_of_startRetryScan h haccount hp hr
      obtain ⟨balance, hb⟩ := Int.eq_ofNat_of_zero_le hn
      simp only [hb, Int.toNat_natCast]
      -- the whole balance is asked for by each template
      rcases Nat.eq_zero_or_pos balance with rfl | hpo
      · simp
      · have hm : (retriedTo account.walletAddress db).length * balance ≤ balance ↔
            (retriedTo account.walletAddress db).length ≤ 1 := by
          simpa using Nat.mul_le_mul_right_iff (m := 1) (n := (retriedTo account.walletAddress db).length) hpo
        omega
  · simp only [hp, if_false]

/-- Wallet 1 is owed 5; two failed transactions to it await a retry. -/
def sampleRetryDb : PaymentDb where
  payable := ⟨[⟨1, .ofInt 5 (by decide), 1000, none⟩], by decide⟩
  sentPayable := ⟨[], by decide⟩
  failedPayable := [⟨8, 1, 2, 1500, 3, 5, .reverted, .retryRequired⟩, ⟨9, 1, 3, 1600, 3, 6, .reverted, .retryRequired⟩]

/-- Each of the two templates asks for the whole balance: 10 for a debt of 5. -/
theorem retries_exceed_debt : ∃ templates, startRetryScan sampleRetryDb = .ok (.retry templates) ∧
      ∃ account ∈ sampleRetryDb.payable.rows,
        account.balance.toInt < RetryTxTemplates.requestedFor account.walletAddress templates :=
  ⟨[⟨⟨1, 5⟩, 3, 5⟩, ⟨⟨1, 5⟩, 3, 6⟩], by decide, ⟨1, .ofInt 5 (by decide), 1000, none⟩, by decide, by decide⟩

/-- The same with one of the failed transactions concluded. -/
def sampleSingleRetryDb : PaymentDb :=
  { sampleRetryDb with failedPayable := [⟨8, 1, 2, 1500, 3, 5, .reverted, .retryRequired⟩,
      ⟨9, 1, 3, 1600, 3, 6, .reverted, .concluded⟩] }

theorem retries_within_debt_sample : startRetryScan sampleSingleRetryDb = .ok (.retry [⟨⟨1, 5⟩, 3, 5⟩]) ∧
      (RetryTxTemplates.requestedFor 1 [⟨⟨1, 5⟩, 3, 5⟩] : Int) ≤ 5 := by
  have hs : startRetryScan sampleSingleRetryDb = .ok (.retry [⟨⟨1, 5⟩, 3, 5⟩]) := by decide
  exact ⟨hs, (retries_within_debt hs (List.mem_singleton.2 rfl)).2 (by decide)⟩

end PayableScanner

end MasqMobile
