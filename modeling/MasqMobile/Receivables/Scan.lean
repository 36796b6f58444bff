import MasqMobile.Receivables.Retrieve
import MasqMobile.Settlement.Accept

/-!
# The receivable scan

Model of one receivable scan from the start block it reads to the start block it stores: the request of
`BlockchainBridge::handle_retrieve_transactions` (`node/src/blockchain/blockchain_bridge.rs:394`), and
`ReceivableScanner::handle_new_received_payments` with `ReceivableDaoReal::more_money_received`
(`node/src/accountant/scanners/receivable_scanner/mod.rs:96`,
`node/src/accountant/db_access_objects/receivable_dao.rs:147`).

`extract_max_block_count` reads a limit out of the text of a failed query with a regular expression; it is the
parameter `extract`. A panic of either actor leaves the database as it was before the transaction that was
under way.
-/

namespace MasqMobile

open Fallible

structure ReceivableScanDb where
  startBlock : Option Nat
  maxBlockCount : Option Nat
  receivables : Table ReceivableRow ReceivableRow.walletAddress
  totalPaidReceivableWei : Nat

structure ReceivedPayments where
  timestamp : Nat
  newStartBlock : BlockMarker
  transactions : List BlockchainTransaction

/-! ## Crediting -/

/-- One turn of the loop of `process_received_payments_and_return_txn`, receivable_dao.rs:323: the amount is taken
off the payer's balance; a payer without an account is only logged. `none` is a panic. -/
def creditPayment (timestamp : Nat) (receivables : Table ReceivableRow ReceivableRow.walletAddress)
    (payment : BlockchainTransaction) : Option (Table ReceivableRow ReceivableRow.walletAddress) :=
  if h : SplitInt.InRange (-payment.weiAmount) then
    match receivables.find payment.fromWallet with
    | some row => do
      let balance ← row.balance.add (.ofInt (-payment.weiAmount) h)
      return receivables.put { row with balance := balance, lastReceivedTimestamp := timestamp }
    | none => some receivables
  else none

/-- `more_money_received`, receivable_dao.rs:147. -/
def moreMoneyReceived (timestamp : Nat) (receivables : Table ReceivableRow ReceivableRow.walletAddress) :
    List BlockchainTransaction → Option (Table ReceivableRow ReceivableRow.walletAddress)
  | [] => some receivables
  | payment :: payments => do
    let receivables' ← creditPayment timestamp receivables payment
    moreMoneyReceived timestamp receivables' payments

def receivedFrom (wallet : Address) (payments : List BlockchainTransaction) : Nat :=
  ((payments.filter (·.fromWallet = wallet)).map BlockchainTransaction.weiAmount).sum

/-- A credit changes the payer's balance only, and only if the payer has an account. -/
theorem creditPayment_balanceOf (h : creditPayment t re p = some re') (wallet : Address) :
    (re'.find wallet).isSome = (re.find wallet).isSome ∧ ((re.find wallet).isSome → balanceOf re' wallet =
          balanceOf re wallet - if p.fromWallet = wallet then (p.weiAmount : Int) else 0) := by
  unfold creditPayment at h
  split at h
  · split at h
    · rename_i hrn row hr
      simp only [Option.bind_eq_bind, Option.bind_eq_some_iff, Option.pure_def, Option.some.injEq] at h
      obtain ⟨balance, ha, rfl⟩ := h
      have hk : row.walletAddress = p.fromWallet := (Table.find_eq_some_iff.1 hr).2
      have hb : balance.toInt = row.balance.toInt - p.weiAmount := by
        rw [SplitInt.toInt_add ha, SplitInt.toInt_ofInt, Int.sub_eq_add_neg]
      by_cases hw : p.fromWallet = wallet
      · subst hw
        have ho : balanceOf re p.fromWallet = row.balance.toInt := by
          rw [balanceOf, Table.valueAt, hr]
          rfl
        refine ⟨?_, ?_⟩
        · rw [← hk, Table.find_put_self re { row with balance := balance, lastReceivedTimestamp := t }, hk, hr]
          rfl
        · intro _
          rw [ho, if_pos rfl, ← hb, balanceOf, Table.valueAt_put]
          simp [hk]
      · have hne : row.walletAddress ≠ wallet := hk ▸ hw
        refine ⟨?_, ?_⟩
        · rw [Table.find_put_of_ne re (by exact hne)]
        · intro _
          simp [balanceOf, Table.valueAt_put, hne, hw]
    · rename_i hr
      obtain rfl := Option.some.inj h
      refine ⟨rfl, ?_⟩
      intro hs
      have hw : p.fromWallet ≠ wallet := by
        rintro rfl
        simp [hr] at hs
      simp [hw]
  · cases h

theorem moreMoneyReceived_balanceOf (h : moreMoneyReceived t re p = some re') (w : Address) :
    (re'.find w).isSome = (re.find w).isSome ∧ ((re.find w).isSome →
        balanceOf re' w = balanceOf re w - receivedFrom w p) := by
  induction p generalizing re with
  | nil =>
    obtain rfl := Option.some.inj h
    simp [receivedFrom]
  | cons payment p ih =>
    simp only [moreMoneyReceived, Option.bind_eq_bind, Option.bind_eq_some_iff] at h
    obtain ⟨receivables₁, hfs, hr⟩ := h
    obtain ⟨hf, hc⟩ := creditPayment_balanceOf hfs w
    obtain ⟨ihf, ihcredit⟩ := ih hr
    refine ⟨ihf.trans hf, ?_⟩
    intro hs
    rw [ihcredit (hf ▸ hs), hc hs]
    by_cases hw : payment.fromWallet = w
    · simp only [receivedFrom, hw, if_true, List.filter_cons, decide_true, List.map_cons, List.sum_cons]
      omega
    · simp [receivedFrom, hw]

/-! ## The scanner -/

variable (db : ReceivableScanDb)

/-- `handle_new_received_payments`: the credits and the start block are one transaction. The total is added up
after the commit, so that its overflow loses neither. -/
def handleNewReceivedPayments (msg : ReceivedPayments) : Option ReceivableScanDb := if msg.transactions = [] then
    match msg.newStartBlock with
    | .value startBlockNumber => some { db with startBlock := some startBlockNumber }
    | .uninitialized => some db
  else
    match moreMoneyReceived msg.timestamp db.receivables msg.transactions, msg.newStartBlock with
    | some receivables, .value startBlockNumber =>
      let total := db.totalPaidReceivableWei + (msg.transactions.map BlockchainTransaction.weiAmount).sum
      some { db with
        receivables := receivables
        startBlock := some startBlockNumber
        totalPaidReceivableWei := if total < 2 ^ 128 then total else db.totalPaidReceivableWei }
    | _, _ => none

def ReceivableScanDb.startMarker : BlockMarker :=
  match db.startBlock with
  | some block => .value block
  | none => .uninitialized

def ReceivableScanDb.scanRange : BlockScanRange :=
  match db.maxBlockCount with
  | some range => .range range
  | none => .noLimit

structure ScanAnswers where
  rpcBlockNumberResult : Except RetrieveError Nat
  logsResult : Except RetrieveError (List Log)
  timestamp : Nat

/-- The payments that a scan reports to the accountant, if it does not fail. -/
def ReceivableScanDb.retrieved (answers : ScanAnswers) : Except RetrieveError RetrievedBlockchainTransactions :=
  BlockchainInterfaceWeb3.retrieveTransactions db.startMarker db.scanRange answers.rpcBlockNumberResult
    answers.logsResult

/-- One scan. A failed one may leave a new limit, as `handle_retrieve_transactions` does before it reports the
error. -/
def receivableScan (extract : String → Option Nat) (db : ReceivableScanDb) (answers : ScanAnswers) : ReceivableScanDb :=
  match db.retrieved answers with
  | .ok r => (handleNewReceivedPayments db ⟨answers.timestamp, r.newStartBlock, r.transactions⟩).getD db
  | .error (.queryFailed message) =>
    match extract message with
    | some maxBlockCount => { db with maxBlockCount := some maxBlockCount }
    | none => db
  | .error _ => db

def creditedBy (answers : ScanAnswers) : List BlockchainTransaction :=
  match db.retrieved answers with
  | .ok r =>
    if (handleNewReceivedPayments db ⟨answers.timestamp, r.newStartBlock, r.transactions⟩).isSome then r.transactions
    else []
  | .error _ => []

/-- A scan stores a start block together with the credits of what it retrieved, or does neither. -/
theorem receivableScan_cases (ex : String → Option Nat) (db : ReceivableScanDb) (an : ScanAnswers) :
    ((receivableScan ex db an).startBlock = db.startBlock ∧
        (receivableScan ex db an).receivables = db.receivables ∧ creditedBy db an = []) ∨
      ∃ r startBlockNumber, db.retrieved an = .ok r ∧ r.newStartBlock = .value startBlockNumber ∧
        (receivableScan ex db an).startBlock = some startBlockNumber ∧
        moreMoneyReceived an.timestamp db.receivables r.transactions = some (receivableScan ex db an).receivables ∧
        creditedBy db an = r.transactions := by
  unfold receivableScan creditedBy
  cases hr : db.retrieved an with
  | error e =>
    refine .inl ?_
    dsimp only
    split
    · cases ‹Except.error e = _›
    · split <;> exact ⟨rfl, rfl, rfl⟩
    · exact ⟨rfl, rfl, rfl⟩
  | ok r =>
    dsimp only
    unfold handleNewReceivedPayments
    by_cases he : r.transactions = []
    · cases hs : r.newStartBlock with
      | uninitialized => exact .inl (by simp [he])
      | value block => exact .inr ⟨r, block, rfl, hs, by simp [he, moreMoneyReceived]⟩
    · simp only [he, if_false]
      split
      · rename_i receivables block hm hs
        exact .inr ⟨r, block, rfl, hs, rfl, hm, rfl⟩
      · exact .inl ⟨rfl, rfl, rfl⟩

theorem receivableScan_maxBlockCount {e : String → Option Nat} {db : ReceivableScanDb} {range : Nat}
    (h : (receivableScan e db an).maxBlockCount = some range) :
    db.maxBlockCount = some range ∨
      ∃ message, an.logsResult = .error (.queryFailed message) ∧ e message = some range := by
  unfold receivableScan at h
  split at h
  · rename_i r hr
    left
    rw [← h]
    unfold handleNewReceivedPayments
    split
    · split <;> rfl
    · split <;> rfl
  · rename_i message hr
    split at h
    · rename_i m hm
      refine .inr ⟨message, ?_, hm.trans h⟩
      exact BlockchainInterfaceWeb3.retrieveTransactions_queryFailed hr
    · exact .inl h
  · exact .inl h

end MasqMobile
