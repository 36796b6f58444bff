import MasqMobile.Payments.Daos

/-!
# The pending payable scanner

Model of `PendingPayableScanner` (`node/src/accountant/scanners/pending_payable_scanner/mod.rs`) with its
receipt interpreter (`tx_receipt_interpreter.rs`) and caches (`utils.rs`). `startScan` takes the transactions
whose receipts are to be asked for out of the tables and into the caches; `finishScan` takes the answers and
brings the tables up to date.

| here | there |
|---|---|
| `startScan`, `harvestTables` | `start_scan`, `harvest_tables`, mod.rs:87, 165 |
| `finishScan` | `finish_scan`, mod.rs:111 |
| `resolveRealQueries` | the fold of `prepare_cases_to_interpret`, mod.rs:303 |
| `composeReceiptScanReport` | `compose_receipt_scan_report`, tx_receipt_interpreter.rs:28 |
| `requiresPaymentsRetry` | `requires_payments_retry`, utils.rs:24 |
| `ScanPanic` | the `panic!`s and `unreachable!`s on the way |

The results of a message are in the order of their keys, which nothing below depends on. Log lines are left
out, but for what composing one of them can panic of (`elapsedInMs`).
-/

namespace MasqMobile

open Fallible FailedPayables

/-! ## Messages -/

inductive TxHashByTable
  | sentPayable (hash : TxHash)
  | failedPayable (hash : TxHash)
  deriving DecidableEq, Repr

inductive StatusReadFromReceiptCheck
  | reverted
  | succeeded (block : TxBlock)
  | pending
  deriving DecidableEq, Repr

abbrev TxReceiptResult := Except AppRpcError StatusReadFromReceiptCheck

structure ResponseSkeleton where
  clientId : Nat
  contextId : Nat
  deriving DecidableEq, Repr

structure TxReceiptsMessage where
  results : List (TxHashByTable × TxReceiptResult)
  responseSkeletonOpt : Option ResponseSkeleton

structure NodeToUiMessage where
  target : Nat
  context : Nat
  deriving DecidableEq, Repr

inductive PendingPayableScanResult
  | noPendingPayablesLeft (uiMessage : Option NodeToUiMessage)
  | paymentRetryRequired (skeleton : Option ResponseSkeleton)
  | procedureShouldBeRepeated (uiMessage : Option NodeToUiMessage)
  deriving DecidableEq, Repr

/-- `ScanType`, `masq_lib/src/messages.rs:1448`. -/
inductive ScanType
  | payables
  | pendingPayables
  | receivables
  deriving DecidableEq, Repr

inductive ManualTriggerError
  | automaticScanConflict
  | unnecessaryRequest (hintOpt : Option String)
  deriving DecidableEq, Repr

/-- `StartScanError` without its variant for tests. -/
inductive StartScanError
  | nothingToProcess
  | noConsumingWalletFound
  | scanAlreadyRunning (crossScanCauseOpt : Option ScanType) (startedAt : Nat)
  | manualTriggerError (error : ManualTriggerError)
  deriving DecidableEq, Repr

/-! ## The report -/

inductive TxByTable
  | sentPayable (tx : SentTx)
  | failedPayable (tx : FailedTx)
  deriving DecidableEq, Repr

def TxByTable.hash : TxByTable → TxHash
  | .sentPayable tx => tx.hash
  | .failedPayable tx => tx.hash

inductive PresortedTxFailure
  | newEntry (tx : FailedTx)
  | recheckCompleted (hash : TxHash)
  deriving DecidableEq, Repr

structure FailedValidation (σ : Type) where
  txHash : TxHash
  validationFailure : BlockchainErrorKind
  currentStatus : σ
  deriving DecidableEq, Repr

inductive FailedValidationByTable
  | sentPayable (failure : FailedValidation TxStatus)
  | failedPayable (failure : FailedValidation FailureStatus)
  deriving DecidableEq, Repr

/-- `ReceiptScanReport` with its `DetectedConfirmations` and `DetectedFailures`. -/
structure ReceiptScanReport where
  standardConfirmations : List SentTx := []
  reclaims : List SentTx := []
  txFailures : List PresortedTxFailure := []
  txReceiptRpcFailures : List FailedValidationByTable := []

inductive Retry
  | retryPayments
  | retryTxStatusCheckOnly
  deriving DecidableEq, Repr

/-- `DetectedFailures::requires_retry`, utils.rs:90. -/
def ReceiptScanReport.requiresRetry (report : ReceiptScanReport) : Option Retry :=
  if report.txFailures = [] ∧ report.txReceiptRpcFailures = [] then none
  else if report.txFailures ≠ [] then some .retryPayments
  else some .retryTxStatusCheckOnly

def ReceiptScanReport.requiresPaymentsRetry (report : ReceiptScanReport) : Option Retry :=
  match report.requiresRetry with
  | some retry => some retry
  | none =>
    if report.standardConfirmations = [] ∧ report.reclaims = [] then some .retryTxStatusCheckOnly else none

/-- Where `finish_scan` stops without returning. -/
inductive ScanPanic
  | recordNotFound (missingEntry : TxHashByTable)
  | elapsedFailed (timestamp : Int)
  | pendingAndFailed (reason : FailureReason)
  | noReplacementTx
  | noConfirmationDetails
  | overflow
  | replacementFailed (count : Nat) (e : TxDaoError)
  | deletionOfReclaimedFailed (count : Nat) (e : TxDaoError)
  | transactionConfirmed (count : Nat) (e : PayableDaoError)
  | updateTxBlocks (count : Nat) (e : TxDaoError)
  | persistingFailed (count : Nat) (e : TxDaoError)
  | purgingFailed (hashes : List TxHash) (e : TxDaoError)
  | concludingFailed (count : Nat) (e : TxDaoError)
  | sentStatusesFailed (count : Nat) (e : TxDaoError)
  | failedStatusesFailed (count : Nat) (e : TxDaoError)
  deriving DecidableEq, Repr

/-! ## The receipt interpreter -/

namespace TxReceiptInterpreter

variable (report : ReceiptScanReport)

def handleTxConfirmation (tx : TxByTable) (block : TxBlock) : ReceiptScanReport :=
  match tx with
  | .sentPayable sentTx =>
    let completedSentTx := { sentTx with status := .confirmed block .normal }
    { report with standardConfirmations := report.standardConfirmations ++ [completedSentTx] }
  | .failedPayable failedTx => { report with reclaims := report.reclaims ++ [SentTx.ofFailed failedTx block] }

def handleRevertedTx (tx : TxByTable) : ReceiptScanReport :=
  match tx with
  | .sentPayable sentTx =>
    { report with txFailures := report.txFailures ++ [.newEntry (.ofSent sentTx .reverted)] }
  | .failedPayable failedTx =>
    { report with txFailures := report.txFailures ++ [.recheckCompleted failedTx.hash] }

/-- `elapsed_in_ms` of `from_unix_timestamp`, in whole seconds. It is computed for a log line of the level
`Info`, which is composed whatever the log level, since it goes to the user interface (`masq_lib/src/logger.rs:203`).
A negative timestamp is beyond any `SystemTime`, and a time to come has no elapsed time. -/
def elapsedInMs (clock : Nat) (timestamp : Int) : Except ScanPanic Int := do
  failIf (timestamp < 0 ∨ clock < timestamp) (.elapsedFailed timestamp)
  return (clock - timestamp) * 1000

/-- `handle_still_pending_tx`, tx_receipt_interpreter.rs:68. A failed transaction that is still pending must
have been replaced by a transaction of the same nonce. -/
def handleStillPendingTx (clock : Nat) (sentPayable : SentPayables) (report : ReceiptScanReport) (tx : TxByTable) :
    Except ScanPanic ReceiptScanReport :=
  match tx with
  | .sentPayable sentTx => do
    let _ ← elapsedInMs clock sentTx.timestamp
    return { report with txFailures := report.txFailures ++ [.newEntry (.ofSent sentTx .pendingTooLong)] }
  | .failedPayable failedTx => do
    failIf (failedTx.reason ≠ .pendingTooLong) (.pendingAndFailed failedTx.reason)
    failIf (sentPayable.retrieveByNonce failedTx.nonce = []) .noReplacementTx
    let failure := ⟨failedTx.hash, .internal .pendingTooLongNotReplaced, failedTx.status⟩
    return { report with txReceiptRpcFailures := report.txReceiptRpcFailures ++ [.failedPayable failure] }

/-- `FailedValidationByTable::new`, utils.rs:114. -/
def rpcFailure (tx : TxByTable) (rpcError : AppRpcError) : FailedValidationByTable :=
  match tx with
  | .sentPayable sentTx => .sentPayable ⟨sentTx.hash, .appRpc rpcError.kind, sentTx.status⟩
  | .failedPayable failedTx => .failedPayable ⟨failedTx.hash, .appRpc rpcError.kind, failedTx.status⟩

def handleRpcFailure (tx : TxByTable) (rpcError : AppRpcError) : ReceiptScanReport :=
  { report with txReceiptRpcFailures := report.txReceiptRpcFailures ++ [rpcFailure tx rpcError] }

/-- One turn of the fold. -/
def interpretCase (clock : Nat) (sentPayable : SentPayables) (report : ReceiptScanReport) (tx : TxByTable) :
    TxReceiptResult → Except ScanPanic ReceiptScanReport
  | .ok (.succeeded block) => return handleTxConfirmation report tx block
  | .ok .reverted => return handleRevertedTx report tx
  | .ok .pending => handleStillPendingTx clock sentPayable report tx
  | .error e => return handleRpcFailure report tx e

def composeReceiptScanReport (clock : Nat) (sentPayable : SentPayables) (report : ReceiptScanReport) :
    List (TxByTable × TxReceiptResult) → Except ScanPanic ReceiptScanReport
  | [] => .ok report
  | (tx, result) :: cases => do
    let report' ← interpretCase clock sentPayable report tx result
    composeReceiptScanReport clock sentPayable report' cases

end TxReceiptInterpreter

/-! ## The scanner -/

abbrev RecheckRequiringFailures := Table FailedTx FailedTx.hash

/-- The scanner's tables, caches, `started_at` mark and the part of `FinancialStatistics` it keeps. -/
structure PendingPayableScanner where
  db : PaymentDb
  currentSentPayables : SentPayables
  suspectedFailedPayables : RecheckRequiringFailures
  totalPaidPayableWei : Nat
  initiatedAt : Option Nat

namespace PendingPayableScanner

/-! ### Starting -/

/-- `load_cache`, utils.rs:230 and 267. -/
def loadCache {ρ : Type} {hash : ρ → TxHash} (cache : Table ρ hash) (records : List ρ) : Table ρ hash :=
  records.foldl Table.put cache

/-- `harvest_tables`, mod.rs:165: the hashes to ask receipts for, pending ones first. -/
def harvestTables (s : PendingPayableScanner) : Except StartScanError (List TxHashByTable × PendingPayableScanner) :=
  let pendingTxs := s.db.sentPayable.retrievePending
  let failures := retrieveRecheckRequired s.db.failedPayable
  let s' := { s with
    currentSentPayables := loadCache s.currentSentPayables pendingTxs
    suspectedFailedPayables := loadCache s.suspectedFailedPayables failures }
  if pendingTxs = [] ∧ failures = [] then .error .nothingToProcess
  else
    .ok (pendingTxs.map (.sentPayable ·.hash) ++ failures.map (.failedPayable ·.hash), s')

def startScan (timestamp : Nat) (s : PendingPayableScanner) :
    Except StartScanError (List TxHashByTable) × PendingPayableScanner :=
  match { s with initiatedAt := some timestamp }.harvestTables with
  | .ok (txHashes, s') => (.ok txHashes, s')
  | .error e => (.error e, { s with initiatedAt := none })

end PendingPayableScanner

/-- What `harvest_tables` asks receipts for. -/
def PaymentDb.askedFor (db : PaymentDb) : List TxHashByTable :=
  db.sentPayable.retrievePending.map (.sentPayable ·.hash) ++
    (retrieveRecheckRequired db.failedPayable).map (.failedPayable ·.hash)

theorem PendingPayableScanner.startScan_cases (now : Nat) (s : PendingPayableScanner) :
    (∃ s', s.startScan now = (.ok s.db.askedFor, s') ∧ s'.db = s.db ∧ s'.initiatedAt = some now ∧
        s'.currentSentPayables = loadCache s.currentSentPayables s.db.sentPayable.retrievePending ∧
        s'.suspectedFailedPayables = loadCache s.suspectedFailedPayables
          (retrieveRecheckRequired s.db.failedPayable)) ∨
      s.startScan now = (.error .nothingToProcess, { s with initiatedAt := none }) ∧ s.db.askedFor = [] := by
  by_cases hn : s.db.sentPayable.retrievePending = [] ∧ retrieveRecheckRequired s.db.failedPayable = []
  · right
    simp [startScan, harvestTables, PaymentDb.askedFor, hn]
  · left
    simp only [startScan, harvestTables, hn, if_false]
    exact ⟨_, rfl, rfl, rfl, rfl, rfl⟩

namespace PendingPayableScanner

/-! ### Interpreting the receipts -/

/-- The fold of `prepare_cases_to_interpret` over `resolve_real_query`: each answer is paired with the record
it is about, which leaves its cache. -/
def resolveRealQueries (sent : SentPayables) (failed : RecheckRequiringFailures) :
    List (TxHashByTable × TxReceiptResult) → Except ScanPanic (List (TxByTable × TxReceiptResult))
  | [] => .ok []
  | (.sentPayable hash, result) :: rest => do
    let sentTx ← okOr (sent.find hash) (.recordNotFound (.sentPayable hash))
    let cases ← resolveRealQueries (sent.erase hash) failed rest
    return (.sentPayable sentTx, result) :: cases
  | (.failedPayable hash, result) :: rest => do
    let failedTx ← okOr (failed.find hash) (.recordNotFound (.failedPayable hash))
    let cases ← resolveRealQueries sent (failed.erase hash) rest
    return (.failedPayable failedTx, result) :: cases

/-- `interpret_tx_receipts`, mod.rs:281. -/
def interpretTxReceipts (clock : Nat) (s : PendingPayableScanner) (message : TxReceiptsMessage) :
    Except ScanPanic ReceiptScanReport := do
  let cases ← resolveRealQueries s.currentSentPayables s.suspectedFailedPayables message.results
  TxReceiptInterpreter.composeReceiptScanReport clock s.db.sentPayable {} cases

/-- `ensure_empty_cache` of both caches. -/
def emptyCaches (s : PendingPayableScanner) : PendingPayableScanner :=
  { s with currentSentPayables := .empty, suspectedFailedPayables := .empty }

/-! ### Confirmed transactions -/

/-- `collect_hashes_and_blocks`, mod.rs:428. The hashes are pairwise distinct: each record left its cache. -/
def collectHashesAndBlocks : List SentTx → Except ScanPanic (List (TxHash × TxBlock))
  | [] => .ok []
  | tx :: txs =>
    match tx.status with
    | .confirmed block _ => do
      let rest ← collectHashesAndBlocks txs
      return (tx.hash, block) :: rest
    | .pending _ => .error .noConfirmationDetails

/-- `add_to_the_total_of_paid_payable`, mod.rs:555, in `u128`. -/
def addToTheTotalOfPaidPayable (confirmedPayments : List SentTx) (s : PendingPayableScanner) :
    Except ScanPanic PendingPayableScanner := do
  let toBeAdded := (confirmedPayments.map SentTx.amountMinor).sum
  failIf (2 ^ 128 ≤ toBeAdded) .overflow
  let total ← okOr (checkedAdd 128 s.totalPaidPayableWei toBeAdded) .overflow
  return { s with totalPaidPayableWei := total }

/-- `handle_tx_failure_reclaims`, mod.rs:399. -/
def handleTxFailureReclaims (reclaimed : List SentTx) (s : PendingPayableScanner) :
    Except ScanPanic PendingPayableScanner :=
  if reclaimed = [] then .ok s
  else do
    let hashesAndBlocks ← collectHashesAndBlocks reclaimed
    let count := hashesAndBlocks.length
    let sentPayable ← mapErr (.replacementFailed count) (s.db.sentPayable.replaceRecords reclaimed.dedup)
    let hashes := (hashesAndBlocks.map Prod.fst).dedup
    let failedPayable ← mapErr (.deletionOfReclaimedFailed count)
      (FailedPayables.deleteRecords hashes s.db.failedPayable)
    let db := { s.db with sentPayable := sentPayable, failedPayable := failedPayable }
    addToTheTotalOfPaidPayable reclaimed { s with db := db }

/-- `handle_standard_confirmations`, mod.rs:493. -/
def handleStandardConfirmations (confirmedTxs : List SentTx) (s : PendingPayableScanner) :
    Except ScanPanic PendingPayableScanner :=
  if confirmedTxs = [] then .ok s
  else do
    let payable ← mapErr (.transactionConfirmed confirmedTxs.length)
      (s.db.payable.transactionsConfirmed confirmedTxs)
    let txConfirmations ← collectHashesAndBlocks confirmedTxs
    let sentPayable ← mapErr (.updateTxBlocks txConfirmations.length)
      (s.db.sentPayable.confirmTxs txConfirmations)
    let db := { s.db with payable := payable, sentPayable := sentPayable }
    addToTheTotalOfPaidPayable confirmedTxs { s with db := db }

/-- `handle_confirmed_transactions`, mod.rs:390. -/
def handleConfirmedTransactions (report : ReceiptScanReport) (s : PendingPayableScanner) :
    Except ScanPanic PendingPayableScanner := do
  let s' ← s.handleTxFailureReclaims report.reclaims
  s'.handleStandardConfirmations report.standardConfirmations

/-! ### Failed transactions -/

def newFailures (failures : List PresortedTxFailure) : List FailedTx := failures.filterMap fun
    | .newEntry failedTx => some failedTx
    | .recheckCompleted _ => none

def rechecksCompleted (failures : List PresortedTxFailure) : List TxHash := failures.filterMap fun
    | .newEntry _ => none
    | .recheckCompleted hash => some hash

/-- `add_new_failures`, mod.rs:607: the records move from one table to the other. -/
def addNewFailures (newFailures : List FailedTx) (db : PaymentDb) : Except ScanPanic PaymentDb :=
  if newFailures = [] then .ok db
  else do
    let failedPayable ← mapErr (.persistingFailed newFailures.length)
      (FailedPayables.insertNewRecords newFailures.dedup db.failedPayable)
    let hashes := (newFailures.map FailedTx.hash).dedup
    let sentPayable ← mapErr (.purgingFailed (newFailures.map FailedTx.hash))
      (db.sentPayable.deleteRecords hashes)
    return { db with sentPayable := sentPayable, failedPayable := failedPayable }

/-- `finalize_suspected_failures`, mod.rs:660. -/
def finalizeSuspectedFailures (rechecksCompleted : List TxHash) (db : PaymentDb) : Except ScanPanic PaymentDb :=
  if rechecksCompleted = [] then .ok db
  else do
    let failedPayable ← mapErr (.concludingFailed rechecksCompleted.length)
      (FailedPayables.updateStatuses (rechecksCompleted.dedup.map fun hash => (hash, .concluded)) db.failedPayable)
    return { db with failedPayable := failedPayable }

/-- `prepare_statuses_for_update`, mod.rs:783. -/
def prepareStatusesForUpdate {σ : Type} (updateAfterFailure : BlockchainErrorKind → Nat → σ → Option (Option σ))
    (clock : Nat) : List (FailedValidation σ) → Except ScanPanic (List (TxHash × σ))
  | [] => .ok []
  | failure :: failures => do
    let statusOpt ← okOr (updateAfterFailure failure.validationFailure clock failure.currentStatus) .overflow
    let rest ← prepareStatusesForUpdate updateAfterFailure clock failures
    return match statusOpt with
      | some status => (failure.txHash, status) :: rest
      | none => rest

def sentValidationFailures (failures : List FailedValidationByTable) : List (FailedValidation TxStatus) :=
  failures.filterMap fun
    | .sentPayable failure => some failure
    | .failedPayable _ => none

def failedValidationFailures (failures : List FailedValidationByTable) : List (FailedValidation FailureStatus) :=
  failures.filterMap fun
    | .sentPayable _ => none
    | .failedPayable failure => some failure

/-- `update_validation_status_for_sent_txs`, mod.rs:722. -/
def updateValidationStatusForSentTxs (clock : Nat) (failures : List (FailedValidation TxStatus)) (db : PaymentDb) :
    Except ScanPanic PaymentDb := do
  let updatable ← prepareStatusesForUpdate TxStatus.updateAfterFailure clock failures
  if updatable = [] then return db
  let sentPayable ← mapErr (.sentStatusesFailed failures.length) (db.sentPayable.updateStatuses updatable)
  return { db with sentPayable := sentPayable }

/-- `update_validation_status_for_failed_txs`, mod.rs:751. -/
def updateValidationStatusForFailedTxs (clock : Nat) (failures : List (FailedValidation FailureStatus))
    (db : PaymentDb) : Except ScanPanic PaymentDb := do
  let updatable ← prepareStatusesForUpdate FailureStatus.updateAfterFailure clock failures
  if updatable = [] then return db
  let failedPayable ← mapErr (.failedStatusesFailed failures.length)
    (FailedPayables.updateStatuses updatable db.failedPayable)
  return { db with failedPayable := failedPayable }

/-- `handle_failed_transactions`, mod.rs:576. -/
def handleFailedTransactions (clock : Nat) (report : ReceiptScanReport) (db : PaymentDb) :
    Except ScanPanic PaymentDb := do
  let db₁ ← addNewFailures (newFailures report.txFailures) db
  let db₂ ← finalizeSuspectedFailures (rechecksCompleted report.txFailures) db₁
  let db₃ ← updateValidationStatusForSentTxs clock (sentValidationFailures report.txReceiptRpcFailures) db₂
  updateValidationStatusForFailedTxs clock (failedValidationFailures report.txReceiptRpcFailures) db₃

/-! ### Finishing -/

/-- The `UiScanResponse` for a scan that a client asked for. -/
def uiResponse (skeleton : ResponseSkeleton) : NodeToUiMessage := ⟨skeleton.clientId, skeleton.contextId⟩

/-- `compose_scan_result`, mod.rs:254. -/
def composeScanResult (retryOpt : Option Retry) (responseSkeletonOpt : Option ResponseSkeleton) :
    PendingPayableScanResult :=
  match retryOpt with
  | some .retryPayments => .paymentRetryRequired responseSkeletonOpt
  | some .retryTxStatusCheckOnly => .procedureShouldBeRepeated (responseSkeletonOpt.map uiResponse)
  | none => .noPendingPayablesLeft (responseSkeletonOpt.map uiResponse)

def finishScan (clock : Nat) (message : TxReceiptsMessage) (s : PendingPayableScanner) :
    Except ScanPanic (PendingPayableScanResult × PendingPayableScanner) := do
  let report ← s.interpretTxReceipts clock message
  let s₁ ← s.emptyCaches.handleConfirmedTransactions report
  let db ← handleFailedTransactions clock report s₁.db
  return (composeScanResult report.requiresPaymentsRetry message.responseSkeletonOpt,
    { s₁ with db := db, initiatedAt := none })

end PendingPayableScanner

end MasqMobile
