import MasqMobile.Receipt.Data

/-!
# Retrieving received payments from the chain

Model of `BlockchainInterfaceWeb3::retrieve_transactions` and its helpers
(`node/src/blockchain/blockchain_interface/blockchain_interface_web3/mod.rs`). The interface asks the service for
the number of the latest block, chooses the range of blocks to ask logs for, and derives from the answer where
the next scan starts.

| here | there |
|---|---|
| `startBlockNumber`, `endBlockNumber` | `retrieve_transactions`, :136-147 |
| `calculateEndBlockMarker` | `calculate_end_block_marker`, :510 |
| `findNewStartBlock` | `find_new_start_block`, :482 |
| `handleTransactionLogs` | `handle_transaction_logs`, :546 |
| `retrieveTransactions` | `retrieve_transactions`, :123 |

Block numbers are `u64` and their sums are not checked for overflow, hence `wrappingAdd`. Log lines are left
out.
-/

namespace MasqMobile

open Fallible

/-- `BlockMarker`, `blockchain_bridge.rs:84`. -/
inductive BlockMarker
  | uninitialized
  | value (block : Nat)
  deriving DecidableEq, Repr

/-- `BlockScanRange`, `blockchain_bridge.rs:78`. -/
inductive BlockScanRange
  | noLimit
  | range (blocks : Nat)
  deriving DecidableEq, Repr

inductive BlockNumber
  | latest
  | number (block : Nat)
  deriving DecidableEq, Repr

/-- What `retrieve_transactions` can fail with: an error of a query, the refusal of its answer, or a panic. -/
inductive RetrieveError
  | queryFailed (message : String)
  | invalidResponse
  | panicked
  deriving DecidableEq, Repr

structure Log where
  blockNumber : Option Nat
  topics : List Bytes32
  data : List UInt8
  deriving DecidableEq

structure BlockchainTransaction where
  blockNumber : Nat
  fromWallet : Address
  weiAmount : Nat
  deriving DecidableEq, Repr

structure RetrievedBlockchainTransactions where
  newStartBlock : BlockMarker
  transactions : List BlockchainTransaction

namespace BlockchainInterfaceWeb3

variable (startBlockMarker : BlockMarker)

def startBlockNumber (rpcBlockNumberResult : Except RetrieveError Nat) : BlockNumber :=
  match startBlockMarker, rpcBlockNumberResult with
  | .uninitialized, .ok latestBlock => .number latestBlock
  | .uninitialized, .error _ => .latest
  | .value number, _ => .number number

def endBlockNumber : BlockMarker → BlockNumber
  | .uninitialized => .latest
  | .value number => .number number

/-- The end that start block and range determine, before the latest block is looked at. -/
def locallyDeterminedEnd : BlockMarker → BlockScanRange → BlockMarker
  | .value startBlock, .range scanRangeNumber =>
    .value (wrappingSub 64 (wrappingAdd 64 startBlock scanRangeNumber) 1)
  | _, _ => .uninitialized

def calculateEndBlockMarker (scanRange : BlockScanRange)
    (rpcBlockNumberResult : Except RetrieveError Nat) : BlockMarker :=
  match rpcBlockNumberResult, locallyDeterminedEnd startBlockMarker scanRange with
  | .ok responseBlock, .uninitialized => .value responseBlock
  | .ok responseBlock, .value localEndBlockNumber => .value (min localEndBlockNumber responseBlock)
  | .error _, localEnd => localEnd

/-- `find_highest_block_marker_from_txs`, :471. -/
def findHighestBlockMarkerFromTxs (transactions : List BlockchainTransaction) : BlockMarker := transactions.foldl
    (fun highest tx =>
      match highest with
      | .value currentMax => .value (max currentMax tx.blockNumber)
      | .uninitialized => .value tx.blockNumber)
    .uninitialized

def findNewStartBlock (transactions : List BlockchainTransaction) (startBlockMarker endBlockMarker : BlockMarker) :
    BlockMarker :=
  match endBlockMarker with
  | .value endBlockNumber => .value (wrappingAdd 64 endBlockNumber 1)
  | .uninitialized =>
    match findHighestBlockMarkerFromTxs transactions with
    | .value blockNumber => .value (wrappingAdd 64 blockNumber 1)
    | .uninitialized =>
      match startBlockMarker with
      | .value startBlock => .value (wrappingAdd 64 startBlock 1)
      | .uninitialized => .uninitialized

/-- `U256::from` of big-endian bytes. -/
def bigEndian (bytes : List UInt8) : Nat := bytes.foldl (fun acc byte => acc * 256 + byte.toNat) 0

/-- One log in `extract_transactions_from_logs`, :455. A log without a block number is dropped, an amount that
is not a `u128` makes `as_u128` panic; the second topic ends in the payer's address. -/
def extractTransactionFromLog (log : Log) : Except RetrieveError (Option BlockchainTransaction) :=
  match log.blockNumber, log.topics with
  | none, _ => .ok none
  | some blockNumber, _ :: payer :: _ => do
    failIf (2 ^ 128 ≤ bigEndian log.data) .panicked
    return some ⟨blockNumber, payer.setWidth 160, bigEndian log.data⟩
  | some _, _ => .error .panicked

def extractTransactionsFromLogs : List Log → Except RetrieveError (List BlockchainTransaction)
  | [] => .ok []
  | log :: logs => do
    let txOpt ← extractTransactionFromLog log
    let txs ← extractTransactionsFromLogs logs
    return txOpt.toList ++ txs

def handleTransactionLogs (logsResult : Except RetrieveError (List Log)) :
    Except RetrieveError (List BlockchainTransaction) := do
  let logs ← logsResult
  failIf (∃ log ∈ logs, log.topics.length < 2 ∨ 32 < log.data.length) .invalidResponse
  extractTransactionsFromLogs logs

/-- From the answers of the two queries, the second of which was asked with `startBlockNumber` and
`endBlockNumber`. -/
def retrieveTransactions (scanRange : BlockScanRange)
    (rpcBlockNumberResult : Except RetrieveError Nat) (logsResult : Except RetrieveError (List Log)) :
    Except RetrieveError RetrievedBlockchainTransactions := do
  let endBlockMarker := calculateEndBlockMarker startBlockMarker scanRange rpcBlockNumberResult
  let transactions ← handleTransactionLogs logsResult
  return ⟨findNewStartBlock transactions startBlockMarker endBlockMarker, transactions⟩

variable {logs : List Log}

theorem extractTransactionsFromLogs_error (h : extractTransactionsFromLogs logs = .error e) : e = .panicked := by
  induction logs with
  | nil => cases h
  | cons log logs ih =>
    rw [extractTransactionsFromLogs, bind_eq_error] at h
    rcases h with ho | ⟨txOpt, -, hr⟩
    · unfold extractTransactionFromLog at ho
      split at ho
      · cases ho
      · rw [bind_eq_error] at ho
        rcases ho with hb | ⟨_, -, hp⟩
        · exact (failIf_eq_error.1 hb).2.symm
        · exact absurd hp pure_ne_error
      · cases ho
        rfl
    · rw [bind_eq_error] at hr
      rcases hr with hr | ⟨_, -, hp⟩
      · exact ih hr
      · exact absurd hp pure_ne_error

theorem retrieveTransactions_queryFailed {sbm : BlockMarker} {rbnr : Except RetrieveError Nat}
    (h : retrieveTransactions sbm sr rbnr l = .error (.queryFailed m)) :
      l = .error (.queryFailed m) := by
  rw [retrieveTransactions, bind_eq_error] at h
  rcases h with hh | ⟨_, -, hp⟩
  · rw [handleTransactionLogs, bind_eq_error] at hh
    rcases hh with hl | ⟨logs, -, hr⟩
    · exact hl
    · rw [bind_eq_error] at hr
      rcases hr with hin | ⟨_, -, he⟩
      · cases (failIf_eq_error.1 hin).2
      · cases extractTransactionsFromLogs_error he
  · exact absurd hp pure_ne_error

/-! ## The highest block of the transactions -/

theorem foldl_highest (t : List BlockchainTransaction) (b : Nat) : ∃ m, t.foldl (fun hig tx =>
          match hig with
          | .value currentMax => .value (max currentMax tx.blockNumber)
          | .uninitialized => .value tx.blockNumber)
        (BlockMarker.value b) = .value m ∧
      b ≤ m ∧ (∀ tx ∈ t, tx.blockNumber ≤ m) ∧ (m = b ∨ ∃ tx ∈ t, tx.blockNumber = m) := by
  induction t generalizing b with
  | nil => exact ⟨b, rfl, Nat.le_refl b, by simp, .inl rfl⟩
  | cons tx rest ih =>
    obtain ⟨m, hf, hb, ha, hex⟩ := ih (max b tx.blockNumber)
    refine ⟨m, hf, by omega, ?_, ?_⟩
    · rw [List.forall_mem_cons]
      exact ⟨by omega, ha⟩
    · rcases hex with rfl | ⟨tx', htx', rfl⟩
      · rcases Nat.le_total b tx.blockNumber with hle | hle
        · exact .inr ⟨tx, List.mem_cons_self, by omega⟩
        · exact .inl (by omega)
      · exact .inr ⟨tx', List.mem_cons_of_mem _ htx', rfl⟩

/-- The marker is the block of a transaction, and no transaction is in a later block. -/
theorem findHighestBlockMarkerFromTxs_cons (tx : BlockchainTransaction) (rest : List BlockchainTransaction) :
    ∃ m, findHighestBlockMarkerFromTxs (tx :: rest) = .value m ∧ (∀ tx' ∈ tx :: rest, tx'.blockNumber ≤ m) ∧
      ∃ tx' ∈ tx :: rest, tx'.blockNumber = m := by
  obtain ⟨m, hf, hb, ha, hex⟩ := foldl_highest rest tx.blockNumber
  refine ⟨m, hf, ?_, ?_⟩
  · rw [List.forall_mem_cons]
    exact ⟨hb, ha⟩
  · rcases hex with rfl | ⟨tx', htx', rfl⟩
    · exact ⟨tx, List.mem_cons_self, rfl⟩
    · exact ⟨tx', List.mem_cons_of_mem _ htx', rfl⟩

/-! ## Logs of transfers -/

structure Reports (log : Log) (tx : BlockchainTransaction) : Prop where
  blockNumber : log.blockNumber = some tx.blockNumber
  topics : ∃ event payer rest, log.topics = event :: payer :: rest ∧ payer.setWidth 160 = tx.fromWallet
  size : log.data.length ≤ 32
  data : bigEndian log.data = tx.weiAmount

/-- Logs that report transactions are read as these transactions, unless an amount makes the reader panic. -/
theorem extractTransactionsFromLogs_of_reports {txs txs' : List BlockchainTransaction}
    (h : List.Forall₂ Reports logs txs) (he : extractTransactionsFromLogs logs = .ok txs') : txs' = txs := by
  induction h generalizing txs' with
  | nil =>
    cases he
    rfl
  | @cons log tx logs txs hl hr ih =>
    simp only [extractTransactionsFromLogs, bind_eq_ok, pure_eq_ok] at he
    obtain ⟨t, ho, rest', hr', rfl⟩ := he
    obtain ⟨event, payer, restTopics, ht, hp⟩ := hl.topics
    simp only [extractTransactionFromLog, hl.blockNumber, ht, bind_eq_ok, pure_eq_ok] at ho
    obtain ⟨_, -, rfl⟩ := ho
    rw [ih hr', hp, hl.data]
    rfl

theorem handleTransactionLogs_of_reports {txs txs' : List BlockchainTransaction}
    (h : List.Forall₂ Reports logs txs) (hh : handleTransactionLogs (.ok logs) = .ok txs') : txs' = txs := by
  simp only [handleTransactionLogs, bind_eq_ok] at hh
  obtain ⟨logs', hl, _, -, he⟩ := hh
  cases hl
  exact extractTransactionsFromLogs_of_reports h he

end BlockchainInterfaceWeb3

end MasqMobile
