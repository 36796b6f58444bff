import MasqMobile.Payments.Submission
import MasqMobile.Receivables.Scan

/-!
# Numbers in the replies of the blockchain service

The service may reply with any number that its protocol can carry. The code narrows such numbers by conversions that
panic, and adds them to others without looking for an overflow, which wraps round in a release build. Here these
conversions and sums are checked, and the operations end in a `Fault` where the code panics or wraps.

| here | there |
| --- | --- |
| `checkScanRange`, `passedBlock` | `calculate_end_block_marker`, `find_new_start_block` (mod.rs:510, 482) |
| `handleChecked` | `handle_new_received_payments` (receivable_scanner/mod.rs:96) |
| `createBlockchainAgentWeb3`, `submitPayablesInBatch` | utils.rs:296, mod.rs:285 |

The chain of the agent is left out.
-/

namespace MasqMobile

open Fallible BlockchainInterfaceWeb3 SignableTxTemplates

/-- What keeps an operation from ending in a value or in an error of its own. -/
inductive Fault
  | panicked
  | wrapped
  deriving DecidableEq, Repr

variable {startBlockMarker : BlockMarker} {scanRange : BlockScanRange} {rpcBlockNumberResult : Except RetrieveError Nat}
  {logs : List Log} {transactions : List BlockchainTransaction} {db : ReceivableScanDb} {msg : ReceivedPayments}
  {receivables : Table ReceivableRow ReceivableRow.walletAddress}

/-! ## Retrieving transactions -/

/-- `start_block + scan_range_number - 1` -/
def checkScanRange : BlockMarker → BlockScanRange → Except Fault Unit
  | .value startBlock, .range scanRangeNumber => do
    let sum ← okOr (checkedAdd 64 startBlock scanRangeNumber) .wrapped
    verdict (okOr (checkedSub sum 1) .wrapped)
  | _, _ => .ok ()

/-- The block number that `find_new_start_block` adds one to. -/
def passedBlock (transactions : List BlockchainTransaction) (startBlockMarker endBlockMarker : BlockMarker) :
    Option Nat :=
  match endBlockMarker, findHighestBlockMarkerFromTxs transactions, startBlockMarker with
  | .value endBlockNumber, _, _ => some endBlockNumber
  | .uninitialized, .value blockNumber, _ => some blockNumber
  | .uninitialized, .uninitialized, .value startBlock => some startBlock
  | .uninitialized, .uninitialized, .uninitialized => none

/-- An amount that is no `u128` makes the reading panic. -/
def checkNewStartBlock (startBlockMarker endBlockMarker : BlockMarker) :
    Except RetrieveError (List BlockchainTransaction) → Except Fault Unit
  | .error e => failIf (e = .panicked) .panicked
  | .ok transactions =>
    failIf (∃ block ∈ passedBlock transactions startBlockMarker endBlockMarker, 2 ^ 64 ≤ block + 1) .wrapped

variable (startBlockMarker) (scanRange)

/-- `retrieve_transactions`, when the service replies to the second query with logs. -/
def retrieveChecked (rpcBlockNumberResult : Except RetrieveError Nat) (logs : List Log) :
    Except Fault (Except RetrieveError RetrievedBlockchainTransactions) := do
  checkScanRange startBlockMarker scanRange
  checkNewStartBlock startBlockMarker (calculateEndBlockMarker startBlockMarker scanRange rpcBlockNumberResult)
    (handleTransactionLogs (.ok logs))
  return retrieveTransactions startBlockMarker scanRange rpcBlockNumberResult (.ok logs)

/-- The payment of a log; one without a block number is not looked at. -/
def payment (log : Log) : Option BlockchainTransaction :=
  log.blockNumber.map fun blockNumber => ⟨blockNumber, (log.topics.getD 1 0).setWidth 160, bigEndian log.data⟩

/-- The range is not empty at block zero and does not leave `u64`. -/
def RangeFits : Prop := ∀ startBlock range, startBlockMarker = .value startBlock → scanRange = .range range →
    0 < startBlock + range ∧ startBlock + range < 2 ^ 64

/-- One can be added to the last block of a scan, when start block and range do not determine it: to the latest block,
or if the service did not tell it, to the highest block of a payment or the start block. -/
def BlocksFit (rpcBlockNumberResult : Except RetrieveError Nat) (transactions : List BlockchainTransaction) : Prop :=
  startBlockMarker = .uninitialized ∨ scanRange = .noLimit →
    match rpcBlockNumberResult with
    | .ok latestBlock => latestBlock + 1 < 2 ^ 64
    | .error _ => (∀ tx ∈ transactions, tx.blockNumber + 1 < 2 ^ 64) ∧
        (transactions = [] → ∀ startBlock, startBlockMarker = .value startBlock → startBlock + 1 < 2 ^ 64)

/-- The log has a sender and one word of data. -/
def InOrder (log : Log) : Prop := 2 ≤ log.topics.length ∧ log.data.length ≤ 32
  deriving Decidable

/-- The amounts of the payments are `u128`. -/
def AmountsFit (logs : List Log) : Prop := ∀ log ∈ logs, log.blockNumber ≠ none → bigEndian log.data < 2 ^ 128

variable {startBlockMarker} {scanRange}

theorem checkScanRange_eq_ok_iff :
    checkScanRange startBlockMarker scanRange = .ok () ↔ RangeFits startBlockMarker scanRange := by
  cases startBlockMarker <;> cases scanRange <;> simp [checkScanRange, RangeFits]
  omega

theorem extractTransactionFromLog_eq_ok_iff {log : Log} (h : InOrder log) {txOpt : Option BlockchainTransaction} :
    extractTransactionFromLog log = .ok txOpt ↔
      (log.blockNumber ≠ none → bigEndian log.data < 2 ^ 128) ∧ payment log = txOpt := by
  obtain ⟨event, payer, rest, ht⟩ : ∃ event payer rest, log.topics = event :: payer :: rest := by
    match ht : log.topics, h.1 with
    | event :: payer :: rest, _ => exact ⟨event, payer, rest, rfl⟩
  cases hb : log.blockNumber with
  | none => simp [extractTransactionFromLog, hb, payment]
  | some block =>
    simp only [extractTransactionFromLog, hb, ht, payment, bind_eq_ok, failIf_eq_ok, pure_eq_ok]
    simp

theorem extractTransactionsFromLogs_eq_ok_iff (h : ∀ log ∈ logs, InOrder log) :
    extractTransactionsFromLogs logs = .ok transactions ↔ AmountsFit logs ∧ logs.filterMap payment = transactions := by
  induction logs generalizing transactions with
  | nil => simp [extractTransactionsFromLogs, AmountsFit]
  | cons log logs ih =>
    obtain ⟨hlo, hl⟩ := List.forall_mem_cons.1 h
    have hc : (log :: logs).filterMap payment = (payment log).toList ++ logs.filterMap payment := by
      cases hp : payment log <;> simp [hp]
    simp only [extractTransactionsFromLogs, bind_eq_ok, pure_eq_ok, extractTransactionFromLog_eq_ok_iff hlo,
      ih hl, hc, AmountsFit, List.forall_mem_cons]
    constructor
    · rintro ⟨_, ⟨hf, rfl⟩, _, ⟨hr, rfl⟩, rfl⟩
      exact ⟨⟨hf, hr⟩, rfl⟩
    · rintro ⟨⟨hf, hr⟩, rfl⟩
      exact ⟨_, ⟨hf, rfl⟩, _, ⟨hr, rfl⟩, rfl⟩

/-- Without an end, one is added to the highest block, or to the start block. -/
theorem passedBlock_uninitialized_fits_iff :
    (∀ block ∈ passedBlock transactions startBlockMarker .uninitialized, block + 1 < 2 ^ 64) ↔
      (∀ tx ∈ transactions, tx.blockNumber + 1 < 2 ^ 64) ∧
        (transactions = [] → ∀ startBlock, startBlockMarker = .value startBlock → startBlock + 1 < 2 ^ 64) := by
  cases transactions with
  | nil => cases startBlockMarker <;> simp [passedBlock, findHighestBlockMarkerFromTxs]
  | cons tx rest =>
    obtain ⟨_, hh, ha, tx', htx', rfl⟩ := findHighestBlockMarkerFromTxs_cons tx rest
    simp only [passedBlock, hh, Option.mem_some_iff, forall_eq', List.cons_ne_nil, false_implies, and_true]
    constructor
    · intro h tx htx
      exact (Nat.succ_le_succ (ha tx htx)).trans_lt h
    · intro h
      exact h tx' htx'

theorem passedBlock_fits_iff (hrng : RangeFits startBlockMarker scanRange) :
    (∀ block ∈ passedBlock transactions startBlockMarker
        (calculateEndBlockMarker startBlockMarker scanRange rpcBlockNumberResult), block + 1 < 2 ^ 64) ↔
      BlocksFit startBlockMarker scanRange rpcBlockNumberResult transactions := by
  have hl := @passedBlock_uninitialized_fits_iff startBlockMarker transactions
  cases startBlockMarker with
  | uninitialized =>
    cases rpcBlockNumberResult with
    | ok latest => simp [BlocksFit, calculateEndBlockMarker, locallyDeterminedEnd, passedBlock]
    | error e => simpa [BlocksFit, calculateEndBlockMarker, locallyDeterminedEnd] using hl
  | value startBlock =>
    cases scanRange with
    | noLimit =>
      cases rpcBlockNumberResult with
      | ok latest => simp [BlocksFit, calculateEndBlockMarker, locallyDeterminedEnd, passedBlock]
      | error e => simpa [BlocksFit, calculateEndBlockMarker, locallyDeterminedEnd] using hl
    | range range =>
      -- the end was computed before, and one more is no more than the sum
      obtain ⟨hp, hf⟩ := hrng startBlock range rfl rfl
      have he : wrappingSub 64 (wrappingAdd 64 startBlock range) 1 = startBlock + range - 1 := by
        rw [wrappingAdd_of_lt hf, wrappingSub_of_le hp hf]
      cases rpcBlockNumberResult <;>
        simp [BlocksFit, calculateEndBlockMarker, locallyDeterminedEnd, passedBlock, he] <;> omega

theorem handleTransactionLogs_eq {logs : List Log} : handleTransactionLogs (.ok logs) =
    if ∀ log ∈ logs, InOrder log then extractTransactionsFromLogs logs else .error .invalidResponse := by
  have hif : (∃ log ∈ logs, log.topics.length < 2 ∨ 32 < log.data.length) ↔ ¬∀ log ∈ logs, InOrder log := by
    simp only [InOrder, not_forall, not_and_or, not_le, exists_prop]
  by_cases h : ∀ log ∈ logs, InOrder log
  · have ha := not_iff_not.2 hif |>.2 (not_not.2 h)
    simp only [handleTransactionLogs, failIf, if_pos h, if_neg ha, Bind.bind, Except.bind]
  · simp only [handleTransactionLogs, failIf, if_neg h, if_pos (hif.2 h), Bind.bind, Except.bind]

theorem returns_retrieveChecked_iff :
    Fallible.Returns (retrieveChecked startBlockMarker scanRange rpcBlockNumberResult logs) ↔
      RangeFits startBlockMarker scanRange ∧ ((∀ log ∈ logs, InOrder log) → AmountsFit logs ∧
        BlocksFit startBlockMarker scanRange rpcBlockNumberResult (logs.filterMap payment)) := by
  simp only [Fallible.Returns, retrieveChecked, bind_eq_ok, pure_eq_ok, Unique.exists_iff, PUnit.default_eq_unit,
    checkScanRange_eq_ok_iff, exists_and_left, exists_eq', and_true]
  refine and_congr_right fun hrng => ?_
  rw [handleTransactionLogs_eq]
  by_cases h : ∀ log ∈ logs, InOrder log
  · have hif := fun txs => @extractTransactionsFromLogs_eq_ok_iff logs txs h
    rw [if_pos h, forall_prop_of_true h, ← passedBlock_fits_iff hrng]
    cases hr : extractTransactionsFromLogs logs with
    | error e =>
      obtain rfl := extractTransactionsFromLogs_error hr
      have hn : ¬AmountsFit logs := fun hf => by simp [(hif _).2 ⟨hf, rfl⟩] at hr
      simp [checkNewStartBlock, failIf, hn]
    | ok txs =>
      obtain ⟨hf, rfl⟩ := (hif txs).1 hr
      simp only [checkNewStartBlock, failIf_eq_ok, hf, true_and, not_exists, not_and, not_le]
  · simp [h, checkNewStartBlock, failIf]

/-! ## Handling the payments -/

/-- The amounts are added up, and their sum to the total, in `u128`. -/
def handleChecked (db : ReceivableScanDb) (msg : ReceivedPayments) : Except Fault ReceivableScanDb := do
  let db' ← okOr (handleNewReceivedPayments db msg) .panicked
  failIf (msg.transactions ≠ [] ∧
    2 ^ 128 ≤ db.totalPaidReceivableWei + (msg.transactions.map BlockchainTransaction.weiAmount).sum) .wrapped
  return db'

/-- After the payments `before`, the amount can be taken off the payer's balance. -/
def CreditFits (receivables : Table ReceivableRow ReceivableRow.walletAddress) (before : List BlockchainTransaction)
    (payment : BlockchainTransaction) : Prop :=
  SplitInt.InRange (-payment.weiAmount) ∧ ((receivables.find payment.fromWallet).isSome →
    -2 ^ 63 ≤ (balanceOf receivables payment.fromWallet - receivedFrom payment.fromWallet before) / 2 ^ 63 +
      (-payment.weiAmount : Int) / 2 ^ 63)

structure PaymentsFit (db : ReceivableScanDb) (msg : ReceivedPayments) : Prop where
  start : msg.transactions ≠ [] → msg.newStartBlock ≠ .uninitialized
  credits : ∀ before payment after, msg.transactions = before ++ payment :: after →
    CreditFits db.receivables before payment
  total : msg.transactions ≠ [] →
    db.totalPaidReceivableWei + (msg.transactions.map BlockchainTransaction.weiAmount).sum < 2 ^ 128

theorem isSome_creditPayment_iff {payment : BlockchainTransaction} :
    (creditPayment t receivables payment).isSome ↔ CreditFits receivables [] payment := by
  unfold creditPayment CreditFits
  by_cases hn : SplitInt.InRange (-payment.weiAmount)
  · cases hr : receivables.find payment.fromWallet with
    | none => simp [hn]
    | some row =>
      have hb : balanceOf receivables payment.fromWallet / 2 ^ 63 = row.balance.high := by
        have hl := row.balance.low_mem
        simp only [balanceOf, Table.valueAt, hr, Option.elim_some, SplitInt.toInt]
        omega
      have ha := row.balance.isSome_add_ofInt_neg hn
      simp only [receivedFrom, List.filter_nil, List.map_nil, List.sum_nil, Nat.cast_zero, sub_zero, hb] at ha ⊢
      rw [← ha]
      simp [hn, Option.isSome_iff_exists, Option.bind_eq_some_iff]
  · simp [hn]

theorem isSome_moreMoneyReceived_iff : (moreMoneyReceived t receivables transactions).isSome ↔
    ∀ before payment after, transactions = before ++ payment :: after → CreditFits receivables before payment := by
  induction transactions generalizing receivables with
  | nil => simp [moreMoneyReceived]
  | cons payment payments ih =>
    have hs : (∀ before p after, payment :: payments = before ++ p :: after → CreditFits receivables before p) ↔
        CreditFits receivables [] payment ∧
        ∀ before p after, payments = before ++ p :: after → CreditFits receivables (payment :: before) p := by
      constructor
      · intro h
        exact ⟨h [] payment payments rfl, fun before p after heq => h (payment :: before) p after (by simp [heq])⟩
      · rintro ⟨hfst, hr⟩ before p after heq
        cases before with
        | nil => cases heq; exact hfst
        | cons q before => cases heq; exact hr before p after rfl
    rw [hs, ← @isSome_creditPayment_iff receivables t]
    cases hc : creditPayment t receivables payment with
    | none => simp [moreMoneyReceived, hc]
    | some receivables' =>
      simp only [moreMoneyReceived, hc, Option.bind_eq_bind, Option.bind_some, ih, Option.isSome_some, true_and]
      -- what was credited first counts with what comes before
      refine forall_congr' fun before => forall_congr' fun p => forall_congr' fun after => imp_congr_right fun _ => ?_
      obtain ⟨hf, hb⟩ := creditPayment_balanceOf hc p.fromWallet
      refine and_congr_right fun _ => ?_
      rw [hf]
      refine imp_congr_right fun hso => ?_
      rw [hb hso]
      by_cases hw : payment.fromWallet = p.fromWallet
      · simp [receivedFrom, hw, sub_sub]
      · simp [receivedFrom, hw]

theorem returns_handleChecked_iff : Fallible.Returns (handleChecked db msg) ↔ PaymentsFit db msg := by
  have hf : PaymentsFit db msg ↔ _ ∧ _ ∧ _ := ⟨fun h => ⟨h.start, h.credits, h.total⟩, fun h => ⟨h.1, h.2.1, h.2.2⟩⟩
  rw [hf, ← @isSome_moreMoneyReceived_iff _ _ msg.timestamp]
  simp only [Fallible.Returns, handleChecked, bind_eq_ok, okOr_eq_ok, failIf_eq_ok, pure_eq_ok, not_and, not_le,
    Unique.exists_iff]
  unfold handleNewReceivedPayments
  by_cases hn : msg.transactions = []
  · cases msg.newStartBlock <;> simp [hn, moreMoneyReceived]
  · cases msg.newStartBlock <;> cases moreMoneyReceived msg.timestamp db.receivables msg.transactions <;> simp [hn]

/-! ## The agent, and the submission -/

structure BlockchainAgentWeb3 where
  latestGasPriceWei : Nat
  gasLimitConstPart : Nat
  consumingWallet : Address
  transactionFeeBalance : Nat
  masqTokenBalance : Nat
  deriving DecidableEq, Repr

def createBlockchainAgentWeb3 (gasPriceMinor transactionFeeBalance masqTokenBalance gasLimitConstPart : Nat)
    (wallet : Address) : Except Fault BlockchainAgentWeb3 := do
  failIf (2 ^ 128 ≤ gasPriceMinor) .panicked
  return ⟨gasPriceMinor, gasLimitConstPart, wallet, transactionFeeBalance, masqTokenBalance⟩

/-- If the log shows it, `transmission_log` asks for the largest amount of the batch (signable/mod.rs:98), which an
empty one does not have. -/
def submitPayablesInBatch {ν : Type} (sign : SignableTxTemplate → TxHash) (clock : Nat → Int)
    (display : Web3Error → String) (logged : Bool) (templates : List PricedNewTxTemplate ⊕ List PricedRetryTxTemplate)
    (latestNonce : Nat) (outcome : Except Web3Error (List (Except Web3Error ν))) :
    Except Fault (Except SendingError BatchResults) := do
  failIf (2 ^ 64 ≤ latestNonce) .panicked
  let signable := SignableTxTemplates.new templates (.ofNat latestNonce)
  failIf (∃ i < signable.length, 2 ^ 64 ≤ latestNonce + i) .wrapped
  failIf (logged = true ∧ signable = []) .panicked
  return sendPayablesWithinBatch sign clock display signable outcome

def paymentCount (templates : List PricedNewTxTemplate ⊕ List PricedRetryTxTemplate) : Nat :=
  templates.elim List.length List.length

theorem length_new (templates : List PricedNewTxTemplate ⊕ List PricedRetryTxTemplate) (l : UInt64) :
    (SignableTxTemplates.new templates l).length = paymentCount templates := by
  obtain templates | templates := templates
  · simp [SignableTxTemplates.new, SignableTxTemplates.ofPricedNew, assignNonces, paymentCount]
  · have hl := (PricedRetryTxTemplates.sortedByNonce_perm templates).length_eq
    simp [SignableTxTemplates.new, SignableTxTemplates.ofPricedRetry, retryNonces,
      assignNonces, PricedRetryTxTemplates.reorderByNonces, paymentCount]
    omega

end MasqMobile
