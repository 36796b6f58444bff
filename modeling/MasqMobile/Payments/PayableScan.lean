import MasqMobile.Payments.PendingScan

/-!
# The payable scanner

Model of `PayableScanner` (`node/src/accountant/scanners/payable_scanner`). A scan for new payables picks the
accounts whose debt exceeds the payout threshold, a scan for retry payables picks the failed transactions that
await a retry; both make templates of transactions that go to the `BlockchainBridge`. `finishScan` takes the
answer to them and records what was sent.

| here | there |
|---|---|
| `ThresholdUtils` | `db_access_objects/utils.rs:431` |
| `payableExceededThreshold` | `payable_exceeded_threshold`, mod.rs:112 |
| `startNewScan`, `startRetryScan` | `start_scan` for either message, start_scan.rs:15, 58 |
| `RetryTxTemplates.new` | tx_templates/initial/retry.rs:57 |
| `processMessage` | `process_message`, mod.rs:226 |
| `determineNextScanToRun` | `determine_next_scan_to_run`, mod.rs:206 |

The two marks of a running scan are kept by `Scanners`. Time is in seconds. One reading of the clock serves
all accounts of a scan. `i128` arithmetic is arithmetic of 128-bit words, which wraps as it does in a release
build. Log lines are left out.
-/

namespace MasqMobile

open Fallible

inductive PayableScanPanic
  | divisionByZero
  | corruptPayable
  | debtFromTheFuture (wallet : Address)
  | sentPayableInsertion (e : TxDaoError)
  | failedPayableInsertion (e : TxDaoError)
  | concludingFailed (e : TxDaoError)
  deriving DecidableEq, Repr

/-! ## Thresholds -/

/-- `PaymentThresholds`, the fields that payables are measured with; all are `u64`. -/
structure PaymentThresholds where
  debtThresholdGwei : Nat
  maturityThresholdSec : Nat
  permanentDebtAllowedGwei : Nat
  thresholdIntervalSec : Nat
  deriving DecidableEq, Repr

/-- `gwei_to_wei`, `accountant/mod.rs:1346`. -/
def gweiToWei (gwei : Nat) : Nat := gwei * 1000000000

namespace ThresholdUtils

/-- `slope`: the quotient of two `i128`, rounded towards zero. -/
def slope (thresholds : PaymentThresholds) : Except PayableScanPanic Int := do
  failIf (thresholds.thresholdIntervalSec = 0) .divisionByZero
  let rise : Int := gweiToWei thresholds.permanentDebtAllowedGwei - gweiToWei thresholds.debtThresholdGwei
  return rise.tdiv thresholds.thresholdIntervalSec

def computeTheoreticalInterceptionWithYAxis (m maturityThresholdSec debtThresholdWei : BitVec 128) : BitVec 128 :=
  debtThresholdWei - maturityThresholdSec * m

def qualifiesForPermanentDebtLimit (debtAge : Nat) (thresholds : PaymentThresholds) : Bool :=
  wrappingAdd 64 thresholds.maturityThresholdSec thresholds.thresholdIntervalSec < debtAge

def calculateFiniteDebtLimitByAge (thresholds : PaymentThresholds) (debtAge : Nat) : Except PayableScanPanic Nat :=
  if qualifiesForPermanentDebtLimit debtAge thresholds then
    return gweiToWei thresholds.permanentDebtAllowedGwei
  else do
    let slope ← slope thresholds
    let m := BitVec.ofInt 128 slope
    let b := computeTheoreticalInterceptionWithYAxis m (BitVec.ofNat 128 thresholds.maturityThresholdSec)
      (BitVec.ofNat 128 (gweiToWei thresholds.debtThresholdGwei))
    let y := m * BitVec.ofNat 128 debtAge + b
    return y.toNat

end ThresholdUtils

/-! ## Accounts -/

structure PayableAccount where
  wallet : Address
  balanceWei : Nat
  lastPaidTimestamp : Nat
  deriving DecidableEq, Repr

/-- `retrieve_payables`, `payable_dao.rs:228`: rows that are not marked as pending, all of them or those of some
addresses. A negative balance does not convert to `u128`, a negative timestamp is beyond any `SystemTime`. -/
def Payables.retrievePayables (addressesOpt : Option (List Address)) (t : Payables) :
    Except PayableScanPanic (List PayableAccount) := do
  let selected := t.rows.filter fun row =>
    row.pendingPayableRowid = none ∧ ∀ addresses ∈ addressesOpt, row.walletAddress ∈ addresses
  failIf (∃ row ∈ selected, row.balance.toInt < 0 ∨ row.lastPaidTimestamp < 0) .corruptPayable
  return selected.map fun row => ⟨row.walletAddress, row.balance.toInt.toNat, row.lastPaidTimestamp.toNat⟩

/-! ## Templates -/

structure BaseTxTemplate where
  receiverAddress : Address
  amountInWei : Nat
  deriving DecidableEq, Repr

structure NewTxTemplate where
  base : BaseTxTemplate
  deriving DecidableEq, Repr

def NewTxTemplate.ofAccount (payableAccount : PayableAccount) : NewTxTemplate :=
  ⟨⟨payableAccount.wallet, payableAccount.balanceWei⟩⟩

structure RetryTxTemplate where
  base : BaseTxTemplate
  prevGasPriceWei : Nat
  prevNonce : Nat
  deriving DecidableEq, Repr

def RetryTxTemplate.ofFailed (failedTx : FailedTx) : RetryTxTemplate where
  base := ⟨failedTx.receiverAddress, failedTx.amountMinor⟩
  prevGasPriceWei := failedTx.gasPriceMinor
  prevNonce := failedTx.nonce

/-- `RetryTxTemplate::new`: the latest balance takes the place of the former amount. -/
def RetryTxTemplate.new (failedTx : FailedTx) (updatedPayableBalanceOpt : Option Nat) : RetryTxTemplate :=
  let retryTemplate := RetryTxTemplate.ofFailed failedTx
  match updatedPayableBalanceOpt with
  | some updatedPayableBalance =>
    { retryTemplate with base := { retryTemplate.base with amountInWei := updatedPayableBalance } }
  | none => retryTemplate

def RetryTxTemplates.new (txsToRetry : List FailedTx) (amountsFromPayables : List (Address × Nat)) :
    List RetryTxTemplate :=
  txsToRetry.map fun txToRetry =>
    RetryTxTemplate.new txToRetry (amountsFromPayables.lookup txToRetry.receiverAddress)

inductive InitialTemplates
  | new (templates : List NewTxTemplate)
  | retry (templates : List RetryTxTemplate)
  deriving DecidableEq, Repr

structure InitialTemplatesMessage where
  initialTemplates : InitialTemplates
  consumingWallet : Address
  responseSkeletonOpt : Option ResponseSkeleton
  deriving DecidableEq, Repr

inductive PayableScanType
  | new
  | retry
  deriving DecidableEq, Repr

def InitialTemplates.scanType : InitialTemplates → PayableScanType
  | .new _ => .new
  | .retry _ => .retry

namespace PayableScanner

/-! ## Starting -/

/-- `payable_exceeded_threshold`, with the checks of `PayableThresholdsGaugeReal`. -/
def payableExceededThreshold (thresholds : PaymentThresholds) (now : Nat) (payable : PayableAccount) :
    Except PayableScanPanic (Option Nat) := do
  failIf (now < payable.lastPaidTimestamp) (.debtFromTheFuture payable.wallet)
  let debtAge := now - payable.lastPaidTimestamp
  if debtAge ≤ thresholds.maturityThresholdSec then return none
  if payable.balanceWei ≤ gweiToWei thresholds.permanentDebtAllowedGwei then return none
  let threshold ← ThresholdUtils.calculateFiniteDebtLimitByAge thresholds debtAge
  return if threshold < payable.balanceWei then some threshold else none

/-- `sniff_out_alarming_payables_and_maybe_log_them`, mod.rs:84. -/
def sniffOutAlarmingPayables (thresholds : PaymentThresholds) (now : Nat) :
    List PayableAccount → Except PayableScanPanic (List PayableAccount)
  | [] => .ok []
  | account :: rest => do
    let thresholdPointOpt ← payableExceededThreshold thresholds now account
    let others ← sniffOutAlarmingPayables thresholds now rest
    return if thresholdPointOpt.isSome then account :: others else others

/-- `start_scan` for `ScanForNewPayables`. -/
def startNewScan (thresholds : PaymentThresholds) (now : Nat) (db : PaymentDb) :
    Except PayableScanPanic (Except StartScanError InitialTemplates) := do
  let retrievedPayables ← db.payable.retrievePayables none
  let qualifiedPayables ← sniffOutAlarmingPayables thresholds now retrievedPayables
  return if qualifiedPayables = [] then .error .nothingToProcess
    else .ok (.new (qualifiedPayables.map NewTxTemplate.ofAccount))

/-- `find_amount_from_payables`, mod.rs:359. -/
def findAmountFromPayables (txsToRetry : List FailedTx) (payable : Payables) :
    Except PayableScanPanic (List (Address × Nat)) := do
  let addresses := txsToRetry.map FailedTx.receiverAddress
  let accounts ← payable.retrievePayables (some addresses)
  return accounts.map fun account => (account.wallet, account.balanceWei)

/-- The templates of `start_scan` for `ScanForRetryPayables`. -/
def retryTemplates (db : PaymentDb) : Except PayableScanPanic (List RetryTxTemplate) := do
  let failedTxs := FailedPayables.retrieveRetryRequired db.failedPayable
  let amountFromPayables ← findAmountFromPayables failedTxs db.payable
  return RetryTxTemplates.new failedTxs amountFromPayables

/-- `start_scan` for `ScanForRetryPayables`, which always finds something to do. -/
def startRetryScan (db : PaymentDb) : Except PayableScanPanic InitialTemplates := do
  let templates ← retryTemplates db
  return .retry templates

end PayableScanner

/-! ## Finishing -/

structure BatchResults where
  sentTxs : List SentTx
  failedTxs : List FailedTx
  deriving DecidableEq

structure SentPayablesMessage where
  paymentProcedureResult : Except String BatchResults
  payableScanType : PayableScanType
  responseSkeletonOpt : Option ResponseSkeleton

inductive NextScanToRun
  | pendingPayableScan
  | newPayableScan
  | retryPayableScan
  deriving DecidableEq, Repr

structure PayableScanResult where
  uiResponseOpt : Option NodeToUiMessage
  result : NextScanToRun
  deriving DecidableEq, Repr

namespace PayableScanner

def insertRecordsInSentPayables (sentTxs : List SentTx) (db : PaymentDb) : Except PayableScanPanic PaymentDb := do
  let sentPayable ← mapErr .sentPayableInsertion (db.sentPayable.insertNewRecords sentTxs.dedup)
  return { db with sentPayable := sentPayable }

def insertRecordsInFailedPayables (failedTxs : List FailedTx) (db : PaymentDb) : Except PayableScanPanic PaymentDb := do
  let failedPayable ← mapErr .failedPayableInsertion
    (FailedPayables.insertNewRecords failedTxs.dedup db.failedPayable)
  return { db with failedPayable := failedPayable }

/-- `update_failed_txs`, mod.rs:300, unless there is nothing to update. -/
def updateFailedTxs (failedTxs : List FailedTx) (status : FailureStatus) (db : PaymentDb) :
    Except PayableScanPanic PaymentDb :=
  if failedTxs = [] then .ok db
  else do
    let statusUpdates := (failedTxs.map FailedTx.hash).dedup.map fun hash => (hash, status)
    let failedPayable ← mapErr .concludingFailed
      (FailedPayables.updateStatuses statusUpdates db.failedPayable)
    return { db with failedPayable := failedPayable }

/-- `update_statuses_of_prev_txs`, mod.rs:274: all failed transactions to the receivers, whatever their status. -/
def updateStatusesOfPrevTxs (sentTxs : List SentTx) (db : PaymentDb) : Except PayableScanPanic PaymentDb := do
  let receiverAddresses := sentTxs.map SentTx.receiverAddress
  let retrievedTxs := FailedPayables.retrieveByReceiverAddresses receiverAddresses db.failedPayable
  let pendingTooLong := retrievedTxs.filter (·.reason = .pendingTooLong)
  let otherReasons := retrievedTxs.filter (·.reason ≠ .pendingTooLong)
  let db' ← updateFailedTxs pendingTooLong (.recheckRequired .waiting) db
  updateFailedTxs otherReasons .concluded db'

def handleBatchResultsForNewScan (batchResults : BatchResults) (db : PaymentDb) :
    Except PayableScanPanic PaymentDb := do
  let db' ← if batchResults.sentTxs = [] then pure db else insertRecordsInSentPayables batchResults.sentTxs db
  if batchResults.failedTxs = [] then return db'
  insertRecordsInFailedPayables batchResults.failedTxs db'

/-- Transactions that fail again are only logged. -/
def handleBatchResultsForRetryScan (batchResults : BatchResults) (db : PaymentDb) : Except PayableScanPanic PaymentDb :=
  if batchResults.sentTxs = [] then .ok db
  else do
    let db' ← insertRecordsInSentPayables batchResults.sentTxs db
    updateStatusesOfPrevTxs batchResults.sentTxs db'

variable (msg : SentPayablesMessage)

def processMessage (db : PaymentDb) : Except PayableScanPanic PaymentDb :=
  match msg.paymentProcedureResult with
  | .ok batchResults =>
    match msg.payableScanType with
    | .new => handleBatchResultsForNewScan batchResults db
    | .retry => handleBatchResultsForRetryScan batchResults db
  | .error _ => .ok db

def determineNextScanToRun : NextScanToRun :=
  match msg.paymentProcedureResult with
  | .ok batchResults =>
    if batchResults.sentTxs = [] then
      if batchResults.failedTxs = [] then .newPayableScan else .retryPayableScan
    else .pendingPayableScan
  | .error _ =>
    match msg.payableScanType with
    | .new => .newPayableScan
    | .retry => .retryPayableScan

/-- `finish_scan`, finish_scan.rs:12. -/
def finishScan (db : PaymentDb) : Except PayableScanPanic (PayableScanResult × PaymentDb) := do
  let db' ← processMessage msg db
  return (⟨msg.responseSkeletonOpt.map PendingPayableScanner.uiResponse, determineNextScanToRun msg⟩, db')

/-- **A payable scan followed by one for new payables changed nothing.** -/
theorem finishScan_newPayableScan {msg : SentPayablesMessage} (h : finishScan msg db = .ok (re, db'))
    (hn : re.result = .newPayableScan) : db' = db := by
  simp only [finishScan, bind_eq_ok, pure_eq_ok, Prod.mk.injEq] at h
  obtain ⟨db₁, hp, rfl, rfl⟩ := h
  unfold determineNextScanToRun at hn
  unfold processMessage at hp
  split at hn
  · rename_i batchResults hb
    simp only [hb] at hp
    -- an answer without any transaction is the only one that leads on to new payables
    split at hn
    · rename_i hse
      split at hn
      · rename_i hf
        cases hs : msg.payableScanType with
        | new =>
          simp only [hs, handleBatchResultsForNewScan, hse, hf, if_true, pure_bind, pure_eq_ok] at hp
          exact hp.symm
        | retry => simpa [hs, handleBatchResultsForRetryScan, hse] using hp.symm
      · cases hn
    · cases hn
  · rename_i e hb
    simpa [hb] using hp.symm

end PayableScanner

end MasqMobile
