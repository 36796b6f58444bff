import MasqMobile.Payments.PayableScan

/-!
# The Accountant's scans of outgoing payments

Model of the part of `Accountant` (`node/src/accountant/mod.rs`) that starts, finishes and schedules the scans
for new, retry and pending payables, with `Scanners` (`scanners/mod.rs`) and the resolver of failed starts
(`scanners/scan_schedulers.rs`). The state also holds what the Accountant has sent and has not heard of yet: its
messages to itself, which wait for a timer or in the mailbox, and its requests to the `BlockchainBridge`.

| here | there |
|---|---|
| `Scanners.start*Guarded` | scanners/mod.rs:104, 139, 168 |
| `resolveReschedulingOnError` | scan_schedulers.rs:267, with the functions it calls, 300–375 |
| `handleRequestOfScanFor*` | mod.rs:1036, 1071, 1105 |
| `handle` | the `Handler` implementations, mod.rs:200–500 |
| `BridgeRequest` | the messages the `BlockchainBridge` answers |
| `Event` | what can happen next: a message of its own, a request, an answer |

The bridge answers a request once, with the response skeleton of the request (`blockchain_bridge.rs:306–392`,
`497`): templates are priced or end in a `ScanError`, instructions for payments end in `SentPayables`, a request
for receipts in a `TxReceiptsMessage` or a `ScanError`. The Accountant passes priced templates on as they are
(`PaymentAdjusterReal` never adjusts), so that only their kind is kept. Scans for receivables, timers' delays and
messages to the user interface are left out.
-/

namespace MasqMobile

/-! ## Messages -/

structure RequestTransactionReceipts where
  txHashes : List TxHashByTable
  responseSkeletonOpt : Option ResponseSkeleton
  deriving DecidableEq, Repr

/-- `OutboundPaymentsInstructions`, of whose priced templates the kind is kept. -/
structure OutboundPaymentsInstructions where
  scanType : PayableScanType
  responseSkeletonOpt : Option ResponseSkeleton
  deriving DecidableEq, Repr

inductive BridgeRequest
  | initialTemplates (request : InitialTemplatesMessage)
  | outboundPayments (request : OutboundPaymentsInstructions)
  | transactionReceipts (request : RequestTransactionReceipts)
  deriving DecidableEq, Repr

inductive ScanMessage
  | scanForNewPayables (responseSkeletonOpt : Option ResponseSkeleton)
  | scanForRetryPayables (responseSkeletonOpt : Option ResponseSkeleton)
  | scanForPendingPayables (responseSkeletonOpt : Option ResponseSkeleton)
  deriving DecidableEq, Repr

/-- Where a handler stops without returning. -/
inductive AccountantPanic
  | payableScan (panic : PayableScanPanic)
  | pendingPayableScan (panic : ScanPanic)
  | payableScanIntruded (startedAt : Nat)
  | scannersInParallel (pendingStartedAt payableStartedAt : Nat)
  | retryImpossible (error : StartScanError)
  | walletStillMissing
  | pendingImpossible (error : StartScanError)
  | followUpNotSupported (scanType : ScanType)
  | recordingConsumedServices (error : PayableDaoError)
  deriving DecidableEq, Repr

/-! ## The scanners -/

structure Scanners where
  payableInitiatedAt : Option Nat
  awareOfUnresolvedPendingPayable : Bool
  initialPendingPayableScan : Bool
  pendingPayable : PendingPayableScanner

namespace Scanners

/-- `Scanners::new`, scanners/mod.rs:63. -/
def new (db : PaymentDb) : Scanners where
  payableInitiatedAt := none
  awareOfUnresolvedPendingPayable := false
  initialPendingPayableScan := true
  pendingPayable := {
    db := db
    currentSentPayables := .empty
    suspectedFailedPayables := .empty
    totalPaidPayableWei := 0
    initiatedAt := none }

def db (s : Scanners) : PaymentDb := s.pendingPayable.db

def withDb (s : Scanners) (db : PaymentDb) : Scanners := { s with pendingPayable := { s.pendingPayable with db := db } }

/-- What `start_new_payable_scan_guarded` checks before it calls `start_scan`. It does not ask whether a
scan for pending payables is running. -/
def checkNewPayableScan (responseSkeletonOpt : Option ResponseSkeleton) (automaticScansEnabled : Bool)
    (s : Scanners) : Except StartScanError Unit := do
  Fallible.failIf (responseSkeletonOpt.isSome ∧ automaticScansEnabled) (.manualTriggerError .automaticScanConflict)
  match s.payableInitiatedAt with
  | some startedAt => throw (.scanAlreadyRunning none startedAt)
  | none => return ()

def startNewPayableScanGuarded (thresholds : PaymentThresholds) (wallet : Address) (now : Nat)
    (responseSkeletonOpt : Option ResponseSkeleton) (automaticScansEnabled : Bool) (s : Scanners) :
    Except PayableScanPanic (Except StartScanError InitialTemplatesMessage × Scanners) :=
  match s.checkNewPayableScan responseSkeletonOpt automaticScansEnabled with
  | .error e => .ok (.error e, s)
  | .ok () => do
    let result ← PayableScanner.startNewScan thresholds now s.db
    match result with
    | .ok templates =>
      return (.ok ⟨templates, wallet, responseSkeletonOpt⟩, { s with payableInitiatedAt := some now })
    | .error e => return (.error e, { s with payableInitiatedAt := none })

def startRetryPayableScanGuarded (wallet : Address) (now : Nat) (responseSkeletonOpt : Option ResponseSkeleton)
    (s : Scanners) : Except AccountantPanic (InitialTemplatesMessage × Scanners) :=
  match s.payableInitiatedAt with
  | some startedAt => .error (.payableScanIntruded startedAt)
  | none => do
    let templates ← Fallible.mapErr .payableScan (PayableScanner.startRetryScan s.db)
    return (⟨templates, wallet, responseSkeletonOpt⟩, { s with payableInitiatedAt := some now })

/-- `check_pending_payable_existence`, scanners/mod.rs:312. -/
def checkPendingPayableExistence (triggeredManually : Bool) (s : Scanners) : Except StartScanError Unit :=
  if s.initialPendingPayableScan then .ok ()
  else if triggeredManually ∧ ¬s.awareOfUnresolvedPendingPayable then
    .error (.manualTriggerError (.unnecessaryRequest (some "Run the Payable scanner first.")))
  else if ¬s.awareOfUnresolvedPendingPayable then .error .nothingToProcess
  else .ok ()

def startPendingPayableScanGuarded (now : Nat) (responseSkeletonOpt : Option ResponseSkeleton)
    (automaticScansEnabled : Bool) (s : Scanners) :
    Except AccountantPanic (Except StartScanError RequestTransactionReceipts × Scanners) :=
  if responseSkeletonOpt.isSome ∧ automaticScansEnabled then
    .ok (.error (.manualTriggerError .automaticScanConflict), s)
  else
    match s.checkPendingPayableExistence responseSkeletonOpt.isSome with
    | .error e => .ok (.error e, s)
    | .ok () =>
      match s.pendingPayable.initiatedAt, s.payableInitiatedAt with
      | some ppStartedAt, some pStartedAt => .error (.scannersInParallel ppStartedAt pStartedAt)
      | some startedAt, none => .ok (.error (.scanAlreadyRunning none startedAt), s)
      | none, some startedAt => .ok (.error (.scanAlreadyRunning (some .payables) startedAt), s)
      | none, none =>
        match s.pendingPayable.startScan now with
        | (.ok txHashes, scanner) => .ok (.ok ⟨txHashes, responseSkeletonOpt⟩, { s with pendingPayable := scanner })
        | (.error e, scanner) => .ok (.error e, { s with pendingPayable := scanner })

/-- `finish_payable_scan`, scanners/mod.rs:244. The flag is set here and never taken back. -/
def finishPayableScan (msg : SentPayablesMessage) (s : Scanners) :
    Except AccountantPanic (PayableScanResult × Scanners) := do
  let (scanResult, db) ← Fallible.mapErr .payableScan (PayableScanner.finishScan msg s.db)
  let s' := { s.withDb db with payableInitiatedAt := none }
  return (scanResult, if scanResult.result = .pendingPayableScan then
    { s' with awareOfUnresolvedPendingPayable := true } else s')

def finishPendingPayableScan (now : Nat) (msg : TxReceiptsMessage) (s : Scanners) :
    Except AccountantPanic (PendingPayableScanResult × Scanners) := do
  let (scanResult, scanner) ← Fallible.mapErr .pendingPayableScan (s.pendingPayable.finishScan now msg)
  return (scanResult, { s with pendingPayable := scanner })

/-- `acknowledge_scan_error` for a new or retry payable scan. -/
def acknowledgePayableScanError (s : Scanners) : Scanners := { s with payableInitiatedAt := none }

/-- `acknowledge_scan_error` for a pending payable scan. -/
def acknowledgePendingPayableScanError (s : Scanners) : Scanners :=
  { s with pendingPayable := { s.pendingPayable.emptyCaches with initiatedAt := none } }

end Scanners

/-! ## What follows a failed start -/

inductive ScanReschedulingAfterEarlyStop
  | schedule (scanType : ScanType)
  | doNotSchedule
  deriving DecidableEq, Repr

inductive UnableToStartScanner
  | newPayables
  | retryPayables
  | pendingPayables (initialPendingPayableScan : Bool)
  deriving DecidableEq, Repr

namespace RescheduleScanOnErrorResolver

def resolveNewPayables : StartScanError → ScanReschedulingAfterEarlyStop
  | .scanAlreadyRunning _ _ => .doNotSchedule
  | _ => .schedule .payables

def resolvePendingPayables (initialPendingPayableScan : Bool) :
    StartScanError → Except AccountantPanic ScanReschedulingAfterEarlyStop
  | .nothingToProcess => .ok (.schedule .payables)
  | .noConsumingWalletFound =>
    if initialPendingPayableScan then .ok (.schedule .pendingPayables) else .error .walletStillMissing
  | .scanAlreadyRunning _ _ => .ok .doNotSchedule
  | .manualTriggerError e => .error (.pendingImpossible (.manualTriggerError e))

/-- `resolve_rescheduling_on_error`; nothing follows a scan that a user asked for. -/
def resolveReschedulingOnError (scanner : UnableToStartScanner) (error : StartScanError)
    (isExternallyTriggered : Bool) : Except AccountantPanic ScanReschedulingAfterEarlyStop :=
  if isExternallyTriggered then .ok .doNotSchedule
  else
    match scanner with
    | .newPayables => .ok (resolveNewPayables error)
    | .retryPayables => .error (.retryImpossible error)
    | .pendingPayables initialPendingPayableScan => resolvePendingPayables initialPendingPayableScan error

end RescheduleScanOnErrorResolver

/-! ## The Accountant -/

structure Accountant where
  consumingWalletOpt : Option Address
  earningWallet : Address
  scanners : Scanners
  automaticScansEnabled : Bool
  scheduled : List ScanMessage
  outstanding : List BridgeRequest

inductive Event
  | scanMessage (message : ScanMessage)
  | uiScanRequest (scanType : ScanType) (responseSkeleton : ResponseSkeleton)
  | updateWallets (earningWallet consumingWallet : Address)
  | servicesConsumed (timestamp : Nat) (wallet : Address) (totalCharge : Nat)
  | pricedTemplates (request : InitialTemplatesMessage)
  | templatesScanError (request : InitialTemplatesMessage)
  | sentPayables (request : OutboundPaymentsInstructions) (paymentProcedureResult : Except String BatchResults)
  | txReceipts (request : RequestTransactionReceipts) (results : List (TxHashByTable × TxReceiptResult))
  | receiptsScanError (request : RequestTransactionReceipts)

namespace Accountant

def new (db : PaymentDb) (consumingWalletOpt : Option Address) (earningWallet : Address)
    (automaticScansEnabled : Bool) : Accountant where
  consumingWalletOpt := consumingWalletOpt
  earningWallet := earningWallet
  scanners := .new db
  automaticScansEnabled := automaticScansEnabled
  scheduled := []
  outstanding := []

def db (s : Accountant) : PaymentDb := s.scanners.db

/-- `ctx.notify`, at once or after a delay. -/
def schedule (message : ScanMessage) (s : Accountant) : Accountant := { s with scheduled := s.scheduled ++ [message] }

/-- `try_send` to the `BlockchainBridge`. -/
def send (request : BridgeRequest) (s : Accountant) : Accountant := { s with outstanding := s.outstanding ++ [request] }

/-- The answer to the request has come. -/
def answered (request : BridgeRequest) (s : Accountant) : Accountant :=
  { s with outstanding := s.outstanding.erase request }

/-- `StartMessage`, mod.rs:208. The Neighborhood sends it once (`neighborhood/mod.rs:1172`). -/
def handleStartMessage (s : Accountant) : Accountant :=
  if s.automaticScansEnabled then s.schedule (.scanForPendingPayables none) else s

section Requests

variable (thresholds : PaymentThresholds) (now : Nat)

/-- The `result` of `handle_request_of_scan_for_new_payable`. -/
def startNewPayableScan (responseSkeletonOpt : Option ResponseSkeleton) (s : Accountant) :
    Except AccountantPanic (Except StartScanError InitialTemplatesMessage × Scanners) :=
  match s.consumingWalletOpt with
  | some consumingWallet => Fallible.mapErr .payableScan (s.scanners.startNewPayableScanGuarded thresholds
      consumingWallet now responseSkeletonOpt s.automaticScansEnabled)
  | none => .ok (.error .noConsumingWalletFound, s.scanners)

def handleRequestOfScanForNewPayable (responseSkeletonOpt : Option ResponseSkeleton) (s : Accountant) :
    Except AccountantPanic (ScanReschedulingAfterEarlyStop × Accountant) := do
  let (result, scanners) ← s.startNewPayableScan thresholds now responseSkeletonOpt
  let s' := { s with scanners := scanners }
  match result with
  | .ok scanMessage => return (.doNotSchedule, s'.send (.initialTemplates scanMessage))
  | .error e => do
    let hint ← RescheduleScanOnErrorResolver.resolveReschedulingOnError .newPayables e responseSkeletonOpt.isSome
    return (hint, s')

def handleRequestOfScanForRetryPayable (responseSkeletonOpt : Option ResponseSkeleton) (s : Accountant) :
    Except AccountantPanic Accountant :=
  match s.consumingWalletOpt with
  | some consumingWallet => do
    let (scanMessage, scanners) ←
      s.scanners.startRetryPayableScanGuarded consumingWallet now responseSkeletonOpt
    return { s with scanners := scanners }.send (.initialTemplates scanMessage)
  | none => do
    let _ ← RescheduleScanOnErrorResolver.resolveReschedulingOnError .retryPayables .noConsumingWalletFound
      responseSkeletonOpt.isSome
    return s

/-- The `result` of `handle_request_of_scan_for_pending_payable`. -/
def startPendingPayableScan (responseSkeletonOpt : Option ResponseSkeleton) (s : Accountant) :
    Except AccountantPanic (Except StartScanError RequestTransactionReceipts × Scanners) :=
  match s.consumingWalletOpt with
  | some _ => s.scanners.startPendingPayableScanGuarded now responseSkeletonOpt s.automaticScansEnabled
  | none => .ok (.error .noConsumingWalletFound, s.scanners)

/-- The flag of the initial scan is read for the resolver and then taken back, whatever came of the request. -/
def handleRequestOfScanForPendingPayable (responseSkeletonOpt : Option ResponseSkeleton) (s : Accountant) :
    Except AccountantPanic (ScanReschedulingAfterEarlyStop × Accountant) := do
  let (result, scanners) ← s.startPendingPayableScan now responseSkeletonOpt
  let s' := { s with scanners := { scanners with initialPendingPayableScan := false } }
  match result with
  | .ok scanMessage => return (.doNotSchedule, s'.send (.transactionReceipts scanMessage))
  | .error e => do
    let hint ← RescheduleScanOnErrorResolver.resolveReschedulingOnError
      (.pendingPayables scanners.initialPendingPayableScan) e responseSkeletonOpt.isSome
    return (hint, s')

/-- The handlers of the three messages that start a scan, mod.rs:232–311. -/
def handleScanMessage (message : ScanMessage) (s : Accountant) : Except AccountantPanic Accountant :=
  match message with
  | .scanForNewPayables responseSkeletonOpt => do
    let (hint, s') ← s.handleRequestOfScanForNewPayable thresholds now responseSkeletonOpt
    match hint with
    | .schedule .payables => return s'.schedule (.scanForNewPayables none)
    | .schedule other => throw (.followUpNotSupported other)
    | .doNotSchedule => return s'
  | .scanForRetryPayables responseSkeletonOpt => s.handleRequestOfScanForRetryPayable now responseSkeletonOpt
  | .scanForPendingPayables responseSkeletonOpt => do
    let (hint, s') ← s.handleRequestOfScanForPendingPayable now responseSkeletonOpt
    match hint with
    | .schedule .payables => return s'.schedule (.scanForNewPayables none)
    | .schedule .pendingPayables => return s'.schedule (.scanForPendingPayables none)
    | .schedule other => throw (.followUpNotSupported other)
    | .doNotSchedule => return s'

/-- `handle_externally_triggered_scan`, mod.rs:1209: nothing is scheduled after it. -/
def handleExternallyTriggeredScan (scanType : ScanType) (responseSkeleton : ResponseSkeleton) (s : Accountant) :
    Except AccountantPanic Accountant :=
  match scanType with
  | .payables => do
    let (_, s') ← s.handleRequestOfScanForNewPayable thresholds now (some responseSkeleton)
    return s'
  | .pendingPayables => do
    let (_, s') ← s.handleRequestOfScanForPendingPayable now (some responseSkeleton)
    return s'
  | .receivables => return s

end Requests

/-- `schedule_next_automatic_scan`, mod.rs:1230. -/
def scheduleNextAutomaticScan (nextScanToRun : NextScanToRun) (s : Accountant) : Accountant :=
  match nextScanToRun with
  | .pendingPayableScan => s.schedule (.scanForPendingPayables none)
  | .newPayableScan => s.schedule (.scanForNewPayables none)
  | .retryPayableScan => s.schedule (.scanForRetryPayables none)

/-- `SentPayables`, mod.rs:393. -/
def handleSentPayables (msg : SentPayablesMessage) (s : Accountant) : Except AccountantPanic Accountant := do
  let (scanResult, scanners) ← s.scanners.finishPayableScan msg
  let s' := { s with scanners := scanners }
  match scanResult.uiResponseOpt with
  | none => return s'.scheduleNextAutomaticScan scanResult.result
  | some _ => return s'

/-- `TxReceiptsMessage`, mod.rs:338. -/
def handleTxReceipts (now : Nat) (msg : TxReceiptsMessage) (s : Accountant) : Except AccountantPanic Accountant := do
  let (scanResult, scanners) ← s.scanners.finishPendingPayableScan now msg
  let s' := { s with scanners := scanners }
  match scanResult with
  | .noPendingPayablesLeft none => return s'.schedule (.scanForNewPayables none)
  | .paymentRetryRequired responseSkeletonOpt => return s'.schedule (.scanForRetryPayables responseSkeletonOpt)
  | .procedureShouldBeRepeated none => return s'.schedule (.scanForPendingPayables none)
  | .noPendingPayablesLeft (some _) | .procedureShouldBeRepeated (some _) => return s'

/-- `ScanError` of a payable scan, mod.rs:436. -/
def handlePayableScanError (request : InitialTemplatesMessage) (s : Accountant) : Accountant :=
  let s' := { s with scanners := s.scanners.acknowledgePayableScanError }
  match request.responseSkeletonOpt, request.initialTemplates with
  | none, .new _ => s'.schedule (.scanForNewPayables none)
  | none, .retry _ => s'.schedule (.scanForRetryPayables none)
  | some _, _ => s'

/-- `ScanError` of a pending payable scan, mod.rs:436. -/
def handlePendingPayableScanError (request : RequestTransactionReceipts) (s : Accountant) : Accountant :=
  let s' := { s with scanners := s.scanners.acknowledgePendingPayableScanError }
  match request.responseSkeletonOpt with
  | none => s'.schedule (.scanForPendingPayables none)
  | some _ => s'

/-- `our_wallet`, mod.rs:722. -/
def ourWallet (wallet : Address) (s : Accountant) : Bool :=
  s.consumingWalletOpt = some wallet ∨ wallet = s.earningWallet

/-- `record_service_consumed`, mod.rs:690. -/
def recordServiceConsumed (timestamp : Nat) (wallet : Address) (totalCharge : Nat) (s : Accountant) :
    Except AccountantPanic Accountant :=
  if s.ourWallet wallet then .ok s
  else do
    let payable ← Fallible.mapErr .recordingConsumedServices
      (s.db.payable.moreMoneyPayable timestamp wallet totalCharge)
    return { s with scanners := s.scanners.withDb { s.db with payable := payable } }

/-! ## Events -/

/-- A message or an answer comes only if it was sent or asked for. -/
def Expects (s : Accountant) : Event → Prop
  | .scanMessage message => message ∈ s.scheduled
  | .pricedTemplates request | .templatesScanError request => .initialTemplates request ∈ s.outstanding
  | .sentPayables request _ => .outboundPayments request ∈ s.outstanding
  | .txReceipts request _ | .receiptsScanError request => .transactionReceipts request ∈ s.outstanding
  | .uiScanRequest _ _ | .updateWallets _ _ | .servicesConsumed _ _ _ => True

instance (s : Accountant) : DecidablePred s.Expects
  | .scanMessage message => inferInstanceAs (Decidable (message ∈ s.scheduled))
  | .pricedTemplates request | .templatesScanError request =>
    inferInstanceAs (Decidable (.initialTemplates request ∈ s.outstanding))
  | .sentPayables request _ => inferInstanceAs (Decidable (.outboundPayments request ∈ s.outstanding))
  | .txReceipts request _ | .receiptsScanError request =>
    inferInstanceAs (Decidable (.transactionReceipts request ∈ s.outstanding))
  | .uiScanRequest _ _ | .updateWallets _ _ | .servicesConsumed _ _ _ => .isTrue trivial

/-- The Accountant's answer to an event. -/
def handle (thresholds : PaymentThresholds) (now : Nat) (event : Event) (s : Accountant) :
    Except AccountantPanic Accountant :=
  match event with
  | .scanMessage message =>
    { s with scheduled := s.scheduled.erase message }.handleScanMessage thresholds now message
  | .uiScanRequest scanType responseSkeleton => s.handleExternallyTriggeredScan thresholds now scanType responseSkeleton
  | .updateWallets earningWallet consumingWallet =>
    .ok { s with earningWallet := earningWallet, consumingWalletOpt := some consumingWallet }
  | .servicesConsumed timestamp wallet totalCharge => s.recordServiceConsumed timestamp wallet totalCharge
  | .pricedTemplates request =>
    -- handle_payable_payment_setup, mod.rs:887
    .ok ((s.answered (.initialTemplates request)).send
      (.outboundPayments ⟨request.initialTemplates.scanType, request.responseSkeletonOpt⟩))
  | .templatesScanError request => .ok ((s.answered (.initialTemplates request)).handlePayableScanError request)
  | .sentPayables request paymentProcedureResult =>
    (s.answered (.outboundPayments request)).handleSentPayables
      ⟨paymentProcedureResult, request.scanType, request.responseSkeletonOpt⟩
  | .txReceipts request results =>
    (s.answered (.transactionReceipts request)).handleTxReceipts now ⟨results, request.responseSkeletonOpt⟩
  | .receiptsScanError request =>
    .ok ((s.answered (.transactionReceipts request)).handlePendingPayableScanError request)

/-- One event that the Accountant lives through. -/
def Step (thresholds : PaymentThresholds) (s : Accountant) (now : Nat) (event : Event) (s' : Accountant) : Prop :=
  s.Expects event ∧ s.handle thresholds now event = .ok s'

end Accountant

end MasqMobile
