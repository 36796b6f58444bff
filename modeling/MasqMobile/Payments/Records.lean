import MasqMobile.Lib.Database
import MasqMobile.Lib.SplitInt
import MasqMobile.Receipt.Data

/-!
# Records of outgoing payments

Model of the record types of the payable, sent_payable and failed_payable tables
(`node/src/accountant/db_access_objects`) and of the statuses they carry
(`node/src/blockchain/errors`).

| here | there |
|---|---|
| `SentTx`, `TxStatus` | `sent_payable_dao.rs:32`, `sent_payable_dao.rs:73` |
| `FailedTx`, `FailureStatus` | `failed_payable_dao.rs:79`, `failed_payable_dao.rs:55` |
| `PayableRow` | table `payable`, `db_initializer.rs:347` |
| `SentTx.ofFailed` | `impl From<(FailedTx, TxBlock)> for SentTx` |
| `FailedTx.ofSent` | `impl From<(SentTx, FailureReason)> for FailedTx` |
| `TxStatus.updateAfterFailure` | `pending_payable_scanner/utils.rs:173` |
| `FailureStatus.updateAfterFailure` | `pending_payable_scanner/utils.rs:193` |

A block hash is kept as the number it is; the source keeps its hexadecimal text and parses it back. A
`BTreeMap` is the list of its entries. Arithmetic that overflows is a panic, as it is under Rust's overflow
checks: such functions return an `Option`.
-/

namespace MasqMobile

abbrev TxHash := Bytes32

/-! ## Errors seen while asking for a receipt -/

inductive LocalErrorKind
  | decoder
  | internal
  | io
  | signing
  | transport
  deriving DecidableEq, Repr

inductive RemoteErrorKind
  | invalidResponse
  | unreachable
  | web3RpcError (code : Int)
  deriving DecidableEq, Repr

inductive AppRpcErrorKind
  | local (kind : LocalErrorKind)
  | remote (kind : RemoteErrorKind)
  deriving DecidableEq, Repr

inductive LocalError
  | decoder (message : String)
  | internal
  | io (message : String)
  | signing (message : String)
  | transport (message : String)
  deriving DecidableEq, Repr

inductive RemoteError
  | invalidResponse (message : String)
  | unreachable
  | web3RpcError (code : Int) (message : String)
  deriving DecidableEq, Repr

inductive AppRpcError
  | local (error : LocalError)
  | remote (error : RemoteError)
  deriving DecidableEq, Repr

/-- `impl From<&AppRpcError> for AppRpcErrorKind`, `rpc_errors.rs:78`. -/
def AppRpcError.kind : AppRpcError → AppRpcErrorKind
  | .local (.decoder _) => .local .decoder
  | .local .internal => .local .internal
  | .local (.io _) => .local .io
  | .local (.signing _) => .local .signing
  | .local (.transport _) => .local .transport
  | .remote (.invalidResponse _) => .remote .invalidResponse
  | .remote .unreachable => .remote .unreachable
  | .remote (.web3RpcError code _) => .remote (.web3RpcError code)

inductive InternalErrorKind
  | pendingTooLongNotReplaced
  deriving DecidableEq, Repr

inductive BlockchainErrorKind
  | appRpc (kind : AppRpcErrorKind)
  | internal (kind : InternalErrorKind)
  deriving DecidableEq, Repr

/-! ## Validation status -/

/-- `ErrorStats`, `validation_status.rs:131`. -/
structure ErrorStats where
  firstSeen : Nat
  attempts : Nat
  deriving DecidableEq, Repr

def ErrorStats.now (clock : Nat) : ErrorStats := ⟨clock, 1⟩

/-- `ErrorStats::increment`: `attempts` is a `u16`. -/
def ErrorStats.increment (stats : ErrorStats) : Option ErrorStats := do
  let attempts ← Fallible.checkedAdd 16 stats.attempts 1
  return { stats with attempts := attempts }

/-- `PreviousAttempts`: how often each kind of error was met. -/
abbrev PreviousAttempts := List (BlockchainErrorKind × ErrorStats)

variable (error : BlockchainErrorKind)

def PreviousAttempts.new (clock : Nat) : PreviousAttempts := [(error, .now clock)]

/-- `PreviousAttempts::add_attempt`, `validation_status.rs:121`. -/
def PreviousAttempts.addAttempt (error : BlockchainErrorKind) (clock : Nat) : PreviousAttempts → Option PreviousAttempts
  | [] => some [(error, .now clock)]
  | (kind, stats) :: rest =>
    if kind = error then do
      let stats' ← stats.increment
      return (kind, stats') :: rest
    else do
      let rest' ← PreviousAttempts.addAttempt error clock rest
      return (kind, stats) :: rest'

inductive ValidationStatus
  | waiting
  | reattempting (attempts : PreviousAttempts)
  deriving DecidableEq, Repr

/-- What both `update_after_failure` functions do with the validation status they find. -/
def ValidationStatus.afterFailure (clock : Nat) : ValidationStatus → Option ValidationStatus
  | .waiting => some (.reattempting (.new error clock))
  | .reattempting attempts => (attempts.addAttempt error clock).map .reattempting

/-! ## Sent transactions -/

inductive Detection
  | normal
  | reclaim
  deriving DecidableEq, Repr

structure TxBlock where
  blockHash : Bytes32
  blockNumber : Nat
  deriving DecidableEq, Repr

inductive TxStatus
  | pending (status : ValidationStatus)
  | confirmed (block : TxBlock) (detection : Detection)
  deriving DecidableEq, Repr

/-- `status LIKE '%"Pending":%'`. -/
def TxStatus.isPending : TxStatus → Bool
  | .pending _ => true
  | .confirmed _ _ => false

def TxStatus.isConfirmed : TxStatus → Bool
  | .pending _ => false
  | .confirmed _ _ => true

/-- `TxStatus::update_after_failure`: the status to write, if it is one that is written; `none` is a
panic. -/
def TxStatus.updateAfterFailure (clock : Nat) : TxStatus → Option (Option TxStatus)
  | .pending status => (status.afterFailure error clock).map fun status' => some (.pending status')
  | .confirmed _ _ => some none

structure SentTx where
  hash : TxHash
  receiverAddress : Address
  amountMinor : Nat
  timestamp : Int
  gasPriceMinor : Nat
  nonce : Nat
  status : TxStatus
  deriving DecidableEq, Repr

/-! ## Failed transactions -/

inductive FailureReason
  | submission (kind : AppRpcErrorKind)
  | reverted
  | pendingTooLong
  deriving DecidableEq, Repr

inductive FailureStatus
  | retryRequired
  | recheckRequired (status : ValidationStatus)
  | concluded
  deriving DecidableEq, Repr

/-- `status LIKE '%RecheckRequired%'`. -/
def FailureStatus.isRecheckRequired : FailureStatus → Bool
  | .recheckRequired _ => true
  | _ => false

/-- `FailureStatus::update_after_failure`. -/
def FailureStatus.updateAfterFailure (clock : Nat) : FailureStatus → Option (Option FailureStatus)
  | .recheckRequired status => (status.afterFailure error clock).map fun status' => some (.recheckRequired status')
  | .retryRequired => some none
  | .concluded => some none

structure FailedTx where
  hash : TxHash
  receiverAddress : Address
  amountMinor : Nat
  timestamp : Int
  gasPriceMinor : Nat
  nonce : Nat
  reason : FailureReason
  status : FailureStatus
  deriving DecidableEq, Repr

/-- A failed transaction that turned out to be on the chain. -/
def SentTx.ofFailed (failedTx : FailedTx) (confirmationBlock : TxBlock) : SentTx where
  hash := failedTx.hash
  receiverAddress := failedTx.receiverAddress
  amountMinor := failedTx.amountMinor
  timestamp := failedTx.timestamp
  gasPriceMinor := failedTx.gasPriceMinor
  nonce := failedTx.nonce
  status := .confirmed confirmationBlock .reclaim

/-- A sent transaction that failed. -/
def FailedTx.ofSent (sentTx : SentTx) (failureReason : FailureReason) : FailedTx where
  hash := sentTx.hash
  receiverAddress := sentTx.receiverAddress
  amountMinor := sentTx.amountMinor
  timestamp := sentTx.timestamp
  gasPriceMinor := sentTx.gasPriceMinor
  nonce := sentTx.nonce
  reason := failureReason
  status := .retryRequired

/-! ## Payable accounts -/

structure PayableRow where
  walletAddress : Address
  balance : SplitInt
  lastPaidTimestamp : Int
  pendingPayableRowid : Option Nat
  deriving DecidableEq

abbrev Payables := Table PayableRow PayableRow.walletAddress

abbrev SentPayables := Table SentTx SentTx.hash

/-- The three tables. `sent_payable` has a unique index on `tx_hash`; the index meant for `failed_payable`
is created on `sent_payable` as well (`db_initializer.rs:341`), so that `failed_payable` has none. -/
structure PaymentDb where
  payable : Payables
  sentPayable : SentPayables
  failedPayable : List FailedTx

end MasqMobile
