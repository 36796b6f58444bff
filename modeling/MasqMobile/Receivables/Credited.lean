import MasqMobile.Lib.BlockLog
import MasqMobile.Lib.Run
import MasqMobile.Receivables.Scan

/-!
# Every received payment is credited once

A chain that only grows, read by scan after scan. A scan asks for the logs from the stored start block on and stores
where the next one starts, in the transaction that credits the payments. The two queries of a scan each fail or answer
for the chain as it is when they are asked; the chain may grow between them.

A scan whose block number query fails takes the end of its range from `start_block + max_block_count - 1`, or, without
a limit and without logs, advances by one block, whether or not the chain has these blocks yet. Blocks that come later
are then skipped.
-/

namespace MasqMobile

open BlockchainInterfaceWeb3 Fallible ReceivableScanDb BlockNumber

/-- The transfers to the earning wallet, block by block. A chain that grows block by block shows more and more
of it. -/
structure TransferChain where
  transfers : Nat → List BlockchainTransaction
  numbered : ∀ n, ∀ tx ∈ transfers n, tx.blockNumber = n

def TransferChain.log (chain : TransferChain) : BlockLog BlockchainTransaction where
  number := BlockchainTransaction.blockNumber
  entries := chain.transfers
  numbered := chain.numbered

/-- One scan, with the latest blocks of the chain at the times of its two queries. -/
structure ScanEvent where
  answers : ScanAnswers
  headAtBlockQuery : Nat
  headAtLogQuery : Nat

/-- The database with what the scans have done so far: the latest block of the chain, the first block that was
asked for, the payments credited. -/
structure ScanHistory where
  db : ReceivableScanDb
  head : Nat
  firstBlock : Option Nat
  credited : List BlockchainTransaction

/-- The block a filter means when the latest block is `head`. -/
def BlockNumber.resolve (head : Nat) : BlockNumber → Nat
  | .latest => head
  | .number block => block

namespace ScanEvent

/-- The first and the last block that the log query asks for. -/
def fromBlock (db : ReceivableScanDb) (e : ScanEvent) : Nat :=
  (startBlockNumber db.startMarker e.answers.rpcBlockNumberResult).resolve e.headAtLogQuery

def toBlock (db : ReceivableScanDb) (e : ScanEvent) : Nat :=
  (endBlockNumber (calculateEndBlockMarker db.startMarker db.scanRange e.answers.rpcBlockNumberResult)).resolve
    e.headAtLogQuery

end ScanEvent

namespace ScanHistory

structure Initial (s : ScanHistory) : Prop where
  credited : s.credited = []
  firstBlock : s.firstBlock = s.db.startBlock
  limit : ∀ range, s.db.maxBlockCount = some range → 1 ≤ range

def step (extract : String → Option Nat) (s : ScanHistory) (e : ScanEvent) : ScanHistory :=
  let db := receivableScan extract s.db e.answers
  { db := db
    head := e.headAtLogQuery
    firstBlock := if s.firstBlock = none ∧ db.startBlock ≠ none then some (e.fromBlock s.db) else s.firstBlock
    credited := s.credited ++ creditedBy s.db e.answers }

/-- The queries fail or tell the truth about a chain that grows; a limit that a failure brings is at least 1. -/
structure Truthful (chain : TransferChain) (extract : String → Option Nat) (s : ScanHistory)
    (e : ScanEvent) : Prop where
  grows : s.head ≤ e.headAtBlockQuery ∧ e.headAtBlockQuery ≤ e.headAtLogQuery
  block : ∀ n, e.answers.rpcBlockNumberResult = .ok n → n = e.headAtBlockQuery
  logs : ∀ logs, e.answers.logsResult = .ok logs → ∃ txs, List.Forall₂ Reports logs txs ∧
    txs.Perm (chain.log.slice (e.fromBlock s.db) (min (e.toBlock s.db) e.headAtLogQuery + 1))
  limit : ∀ message range, e.answers.logsResult = .error (.queryFailed message) → extract message = some range →
    1 ≤ range

/-- The blocks that a scan with logs marks as read are there when it asks for the logs. -/
structure Covered (s : ScanHistory) (e : ScanEvent) : Prop where
  /-- The next block has a number. -/
  fits : e.headAtLogQuery + 1 < 2 ^ 64
  range_fits : ∀ start range, s.db.startBlock = some start → s.db.maxBlockCount = some range → start + range < 2 ^ 64
  /-- The start block is not past the next block. -/
  known : ∀ start n, s.db.startBlock = some start → e.answers.rpcBlockNumberResult = .ok n → start ≤ n + 1
  /-- Without the number of the latest block, the start block is there already, or the whole range is. -/
  unlimited : ∀ start error, s.db.startBlock = some start → s.db.maxBlockCount = none →
    e.answers.rpcBlockNumberResult = .error error → start ≤ e.headAtLogQuery
  ranged : ∀ start range error, s.db.startBlock = some start → s.db.maxBlockCount = some range →
    e.answers.rpcBlockNumberResult = .error error → start + range ≤ e.headAtLogQuery + 1

/-- A scan whose logs are answered is covered. -/
def Sound (s : ScanHistory) (e : ScanEvent) : Prop := ∀ logs, e.answers.logsResult = .ok logs → Covered s e

/-! ## What a covered scan retrieves -/

section Retrieved

variable {chain : TransferChain} {start head newStart : Nat} {txs : List BlockchainTransaction}

theorem slice_of_end_value (hh : e ≤ head) (hf : head + 1 < 2 ^ 64) (hs : start ≤ e + 1)
    (ht : txs.Perm (chain.log.slice start (min e head + 1)))
    (hn : findNewStartBlock txs sm (.value e) = .value newStart) :
    start ≤ newStart ∧ txs.Perm (chain.log.slice start newStart) := by
  obtain rfl : e + 1 = newStart := by
    rw [findNewStartBlock, wrappingAdd_of_lt (by omega)] at hn
    exact BlockMarker.value.inj hn
  rw [Nat.min_eq_left hh] at ht
  exact ⟨hs, ht⟩

/-- The range ends in the latest block: the next scan starts after the last payment, or one block further if
there is none, and the blocks in between hold no payment. -/
theorem slice_of_latest (hf : head + 1 < 2 ^ 64)
    (hs : ∀ block, sm = .value block → block = start ∧ start ≤ head)
    (ht : txs.Perm (chain.log.slice start (head + 1)))
    (hn : findNewStartBlock txs sm .uninitialized = .value newStart) :
    start ≤ newStart ∧ txs.Perm (chain.log.slice start newStart) := by
  have hb : ∀ tx ∈ txs, start ≤ tx.blockNumber ∧ tx.blockNumber < head + 1 := by
    intro tx htx
    have hme := BlockLog.mem_slice.1 (ht.subset htx)
    exact ⟨hme.1, hme.2.1⟩
  suffices hc : start ≤ newStart ∧ newStart ≤ head + 1 ∧ ∀ tx ∈ txs, tx.blockNumber < newStart by
    obtain ⟨hle, hh, hlt⟩ := hc
    refine ⟨hle, ?_⟩
    rw [BlockLog.slice_eq_slice_of_forall_lt hle hh (fun tx htx => hlt tx (ht.symm.subset htx))]
    exact ht
  cases txs with
  | nil =>
    cases sm with
    | uninitialized => cases hn
    | value block =>
      obtain ⟨rfl, hle⟩ := hs block rfl
      obtain rfl : block + 1 = newStart := by
        simp only [findNewStartBlock, findHighestBlockMarkerFromTxs, List.foldl_nil] at hn
        rw [wrappingAdd_of_lt (by omega)] at hn
        exact BlockMarker.value.inj hn
      exact ⟨by omega, by omega, by simp⟩
  | cons tx rest =>
    obtain ⟨m, hm, ha, tx', htx', hl⟩ := findHighestBlockMarkerFromTxs_cons tx rest
    have hbo := hb tx' htx'
    rw [hl] at hbo
    obtain rfl : m + 1 = newStart := by
      simp only [findNewStartBlock, hm] at hn
      rw [wrappingAdd_of_lt (by omega)] at hn
      exact BlockMarker.value.inj hn
    exact ⟨by omega, by omega, fun tx'' htx'' => Nat.lt_succ_of_le (ha tx'' htx'')⟩

end Retrieved

variable {s : ScanHistory} {extract : String → Option Nat}
  {receivables : Table ReceivableRow ReceivableRow.walletAddress} {chain : TransferChain}

/-- **One scan.** What a covered scan retrieves is what the chain holds from its first block up to the start
block it reports. -/
theorem retrieved_slice (ht : Truthful chain extract s e) (hso : Sound s e)
    (hli : ∀ range, s.db.maxBlockCount = some range → 1 ≤ range)
    (hr : s.db.retrieved e.answers = .ok r)
    (hne : r.newStartBlock = .value ns) :
    e.fromBlock s.db ≤ ns ∧ r.transactions.Perm (chain.log.slice (e.fromBlock s.db) ns) := by
  simp only [retrieved, retrieveTransactions, bind_eq_ok, pure_eq_ok] at hr
  obtain ⟨transactions, hh, rfl⟩ := hr
  -- the logs were answered, and are read as the payments of the blocks asked for
  cases hl : e.answers.logsResult with
  | error error => simp [hl, handleTransactionLogs, bind, Except.bind] at hh
  | ok logs =>
  obtain ⟨txs, hre, hp⟩ := ht.logs logs hl
  rw [hl] at hh
  obtain rfl := handleTransactionLogs_of_reports hre hh
  have hc := hso logs hl
  have hf := hc.fits
  obtain ⟨-, hhe⟩ := ht.grows
  simp only [ScanEvent.fromBlock, ScanEvent.toBlock] at hp ⊢
  cases hrp : e.answers.rpcBlockNumberResult with
  | ok n =>
    have hn : n ≤ e.headAtLogQuery := ht.block n hrp ▸ hhe
    cases hs : s.db.startBlock with
    | none =>
      simp only [hrp, hs, startMarker, startBlockNumber, calculateEndBlockMarker,
        locallyDeterminedEnd, endBlockNumber, resolve] at hp hne ⊢
      exact slice_of_end_value hn hf (Nat.le_succ n) hp hne
    | some start =>
      have hk := hc.known start n hs hrp
      cases hm : s.db.maxBlockCount with
      | none =>
        simp only [hrp, hs, hm, startMarker, scanRange, startBlockNumber,
          calculateEndBlockMarker, locallyDeterminedEnd, endBlockNumber, resolve] at hp hne ⊢
        exact slice_of_end_value hn hf hk hp hne
      | some range =>
        have hrn := hc.range_fits start range hs hm
        have hpo := hli range hm
        simp only [hrp, hs, hm, startMarker, scanRange, startBlockNumber,
          calculateEndBlockMarker, locallyDeterminedEnd, endBlockNumber, resolve] at hp hne ⊢
        rw [wrappingAdd_of_lt hrn, wrappingSub_of_le (by omega) hrn] at hp hne
        exact slice_of_end_value (by omega) hf (by omega) hp hne
  | error error =>
    cases hs : s.db.startBlock with
    | none =>
      simp only [hrp, hs, startMarker, startBlockNumber, calculateEndBlockMarker,
        locallyDeterminedEnd, endBlockNumber, resolve, Nat.min_self] at hp hne ⊢
      exact slice_of_latest hf (by simp) hp hne
    | some start =>
      cases hm : s.db.maxBlockCount with
      | none =>
        have hth := hc.unlimited start error hs hm hrp
        simp only [hrp, hs, hm, startMarker, scanRange, startBlockNumber,
          calculateEndBlockMarker, locallyDeterminedEnd, endBlockNumber, resolve, Nat.min_self]
          at hp hne ⊢
        refine slice_of_latest hf ?_ hp hne
        intro block hb
        exact ⟨(BlockMarker.value.inj hb).symm, hth⟩
      | some range =>
        have hth := hc.ranged start range error hs hm hrp
        have hpo := hli range hm
        simp only [hrp, hs, hm, startMarker, scanRange, startBlockNumber,
          calculateEndBlockMarker, locallyDeterminedEnd, endBlockNumber, resolve] at hp hne ⊢
        rw [wrappingAdd_of_lt (by omega), wrappingSub_of_le (by omega) (by omega)] at hp hne
        exact slice_of_end_value (by omega) hf (by omega) hp hne

/-! ## Scan after scan -/

def StartAdvances : Option Nat → Option Nat → Prop
  | none, _ => True
  | some start, some start' => start ≤ start'
  | some _, none => False

theorem StartAdvances.refl (start : Option Nat) : StartAdvances start start := by
  cases start with
  | none => trivial
  | some start => exact Nat.le_refl start

theorem StartAdvances.trans (hab : StartAdvances a b) (hbc : StartAdvances b c) : StartAdvances a c := by
  cases a with
  | none => trivial
  | some start =>
    cases b with
    | none => exact hab.elim
    | some start' =>
      cases c with
      | none => exact hbc.elim
      | some start'' => exact Nat.le_trans hab hbc

/-- The credits are what the chain holds between the first block and the start block, and the accounts show
them. -/
structure Cursor (chain : TransferChain) (receivables : Table ReceivableRow ReceivableRow.walletAddress)
    (s : ScanHistory) : Prop where
  unread : s.db.startBlock = none → s.firstBlock = none ∧ s.credited = []
  read : ∀ start, s.db.startBlock = some start → ∃ first, s.firstBlock = some first ∧ first ≤ start ∧
    s.credited.Perm (chain.log.slice first start)
  limit : ∀ range, s.db.maxBlockCount = some range → 1 ≤ range
  accounts : ∀ wallet, (s.db.receivables.find wallet).isSome = (receivables.find wallet).isSome ∧
    ((receivables.find wallet).isSome →
      balanceOf s.db.receivables wallet = balanceOf receivables wallet - receivedFrom wallet s.credited)

theorem Initial.cursor (h : s.Initial) : s.Cursor chain s.db.receivables where
  unread hn := ⟨h.firstBlock.trans hn, h.credited⟩
  read start hs := by
    refine ⟨start, h.firstBlock.trans hs, Nat.le_refl start, ?_⟩
    rw [h.credited, BlockLog.slice_eq_nil (Nat.le_refl start)]
  limit := h.limit
  accounts wallet := ⟨rfl, fun _ => by simp [h.credited, receivedFrom]⟩

theorem receivedFrom_append : receivedFrom w (txs ++ txs') = receivedFrom w txs + receivedFrom w txs' := by
  simp [receivedFrom]

/-- A sound scan moves the cursor forward, or leaves it. -/
theorem Cursor.step (h : s.Cursor chain receivables) (ht : Truthful chain extract s e) (hsou : Sound s e) :
    (s.step extract e).Cursor chain receivables ∧ StartAdvances s.db.startBlock (s.step extract e).db.startBlock := by
  have hl : ∀ range, (s.step extract e).db.maxBlockCount = some range → 1 ≤ range := by
    intro range hrn
    rcases receivableScan_maxBlockCount hrn with ho | ⟨message, hms, he⟩
    · exact h.limit range ho
    · exact ht.limit message range hms he
  rcases receivableScan_cases extract s.db e.answers with
    ⟨hst, hre, hc⟩ | ⟨r, newStart, hr, hne, hst, hm, hc⟩
  · -- nothing was stored
    have hst' : (s.step extract e).db.startBlock = s.db.startBlock := hst
    have hc' : (s.step extract e).credited = s.credited := by
      simp [ScanHistory.step, hc]
    have hfs' : (s.step extract e).firstBlock = s.firstBlock := by
      simp only [ScanHistory.step, hst]
      refine if_neg ?_
      rintro ⟨hn, hso⟩
      obtain ⟨start, hs⟩ := Option.ne_none_iff_exists'.1 hso
      obtain ⟨first, hf, -⟩ := h.read start hs
      simp [hn] at hf
    have hre' : (s.step extract e).db.receivables = s.db.receivables := hre
    refine ⟨⟨?_, ?_, hl, ?_⟩, hst' ▸ StartAdvances.refl _⟩
    · rw [hst', hfs', hc']
      exact h.unread
    · rw [hst', hfs', hc']
      exact h.read
    · rw [hre', hc']
      exact h.accounts
  · -- the payments were credited and the new start block was stored
    obtain ⟨hle, hsl⟩ := retrieved_slice ht hsou h.limit hr hne
    have hst' : (s.step extract e).db.startBlock = some newStart := hst
    have hc' : (s.step extract e).credited = s.credited ++ r.transactions := by
      simp [ScanHistory.step, hc]
    have ha : ∀ wallet, ((s.step extract e).db.receivables.find wallet).isSome = (receivables.find wallet).isSome ∧
        ((receivables.find wallet).isSome → balanceOf (s.step extract e).db.receivables wallet =
          balanceOf receivables wallet - receivedFrom wallet (s.credited ++ r.transactions)) := by
      intro wallet
      obtain ⟨hfo, hcr⟩ := moreMoneyReceived_balanceOf hm wallet
      obtain ⟨hfo₀, hcr₀⟩ := h.accounts wallet
      refine ⟨hfo.trans hfo₀, ?_⟩
      intro hso
      have haf : balanceOf (s.step extract e).db.receivables wallet =
          balanceOf s.db.receivables wallet - receivedFrom wallet r.transactions := hcr (hfo₀ ▸ hso)
      rw [haf, hcr₀ hso, receivedFrom_append]
      omega
    cases hs : s.db.startBlock with
    | none =>
      obtain ⟨hfs, hni⟩ := h.unread hs
      have hfs' : (s.step extract e).firstBlock = some (e.fromBlock s.db) := by
        simp only [ScanHistory.step, hst]
        exact if_pos ⟨hfs, by simp⟩
      refine ⟨⟨by simp [hst'], ?_, hl, hc' ▸ ha⟩, trivial⟩
      intro start hst₁
      obtain rfl : newStart = start := Option.some.inj (hst'.symm.trans hst₁)
      exact ⟨_, hfs', hle, by simpa [hc', hni] using hsl⟩
    | some start =>
      have hfr : e.fromBlock s.db = start := by
        simp [ScanEvent.fromBlock, startMarker, hs, startBlockNumber, resolve]
      obtain ⟨first, hfs, hfirst_le, hta⟩ := h.read start hs
      have hfs' : (s.step extract e).firstBlock = some first := by
        simp [ScanHistory.step, hfs]
      rw [hfr] at hle hsl
      refine ⟨⟨by simp [hst'], ?_, hl, hc' ▸ ha⟩, by rw [hst']; exact hle⟩
      intro start₁ hst₁
      obtain rfl : newStart = start₁ := Option.some.inj (hst'.symm.trans hst₁)
      refine ⟨first, hfs', Nat.le_trans hfirst_le hle, ?_⟩
      rw [hc']
      rw [← BlockLog.slice_append hfirst_le hle]
      exact hta.append hsl

/-- Every transfer was credited at most once; those of the blocks that the chain shows, at or after the first
block and below the start block, were credited; and the accounts show the credits of their wallets. -/
structure CreditedOnce (chain : TransferChain) (receivables : Table ReceivableRow ReceivableRow.walletAddress)
    (s : ScanHistory) : Prop where
  atMostOnce : ∀ tx, s.credited.count tx ≤ (chain.transfers tx.blockNumber).count tx
  complete : ∀ first start, s.firstBlock = some first → s.db.startBlock = some start → ∀ tx, first ≤ tx.blockNumber →
    tx.blockNumber < start → tx.blockNumber ≤ s.head →
    s.credited.count tx = (chain.transfers tx.blockNumber).count tx
  accounts : ∀ wallet, (receivables.find wallet).isSome →
    balanceOf s.db.receivables wallet = balanceOf receivables wallet - receivedFrom wallet s.credited

theorem Cursor.creditedOnce (h : s.Cursor chain receivables) : s.CreditedOnce chain receivables where
  atMostOnce tx := by
    cases hs : s.db.startBlock with
    | none => simp [(h.unread hs).2]
    | some start =>
      obtain ⟨first, -, -, ht⟩ := h.read start hs
      rw [ht.count_eq, BlockLog.count_slice]
      split
      · exact le_rfl
      · exact Nat.zero_le _
  complete first start hf hs tx hlo hhi _ := by
    obtain ⟨first', hf', -, ht⟩ := h.read start hs
    obtain rfl : first = first' := Option.some.inj (hf.symm.trans hf')
    rw [ht.count_eq, BlockLog.count_slice, if_pos ⟨hlo, hhi⟩]
    rfl
  accounts wallet := (h.accounts wallet).2

/-- **Every received payment is credited once.** From any start block and limit, over every sequence of scans
whose queries fail or answer truthfully and which are sound, the start block never goes back, and after every
scan each transfer was credited at most once and no transfer between the first block and the start block was
left out. -/
theorem payments_credited_once {chain : TransferChain} {extract : String → Option Nat} {s : ScanHistory}
    (hinit : s.Initial) {before after : List ScanEvent}
    (h : Run.Along (step extract) (fun s e => Truthful chain extract s e ∧ Sound s e) s (before ++ after)) :
    StartAdvances (Run.run (step extract) s before).db.startBlock
        (Run.run (step extract) s (before ++ after)).db.startBlock ∧
      (Run.run (step extract) s (before ++ after)).CreditedOnce chain s.db.receivables := by
  obtain ⟨hb, haf⟩ := Run.along_append.1 h
  have hcu : (Run.run (step extract) s before).Cursor chain s.db.receivables :=
    Run.along_invariant (fun s' => s'.Cursor chain s.db.receivables) (fun s' e hc hok => (hc.step hok.1 hok.2).1)
      hinit.cursor hb
  have hr := Run.along_invariant (fun s' => s'.Cursor chain s.db.receivables ∧
      StartAdvances (Run.run (step extract) s before).db.startBlock s'.db.startBlock)
    (fun s' e hc hok => by
      obtain ⟨hs, ha⟩ := hc.1.step hok.1 hok.2
      exact ⟨hs, hc.2.trans ha⟩)
    ⟨hcu, StartAdvances.refl _⟩ haf
  rw [Run.run_append]
  exact ⟨hr.2, hr.1.creditedOnce⟩

/-! ## A skipped block -/

/-- A payment of 50 by wallet 3 in block 12, the only one. -/
def samplePayment : BlockchainTransaction := ⟨12, 3, 50⟩

def sampleChain : TransferChain where
  transfers n := if n = 12 then [samplePayment] else []
  numbered n tx htx := by
    split at htx
    · rename_i hn
      obtain rfl := List.mem_singleton.1 htx
      exact hn.symm
    · cases htx

theorem inRange_hundred : SplitInt.InRange 100 := by decide

/-- Wallet 3 owes 100; the scans start at block 10, the chain ends in block 9. -/
def sampleHistory (maxBlockCount : Option Nat) : ScanHistory where
  db := {
    startBlock := some 10
    maxBlockCount := maxBlockCount
    receivables := ⟨[⟨3, .ofInt 100 inRange_hundred, 900⟩], by simp⟩
    totalPaidReceivableWei := 0 }
  head := 9
  firstBlock := some 10
  credited := []

/-- The block number query fails and the log query does not, at block 9; later both are answered at block 20. -/
def sampleSkippingScans : List ScanEvent :=
  [⟨⟨.error (.queryFailed "timeout"), .ok [], 1000⟩, 9, 9⟩, ⟨⟨.ok 20, .ok [], 2000⟩, 20, 20⟩]

/-- The first scan marks the blocks 10 to 14 as read before they exist, and the payment of block 12 is never
credited. -/
theorem failed_block_query_skips_payment : (sampleHistory (some 5)).Initial ∧
      Run.Along (step fun _ => none) (Truthful sampleChain fun _ => none) (sampleHistory (some 5)) sampleSkippingScans ∧
      ¬(Run.run (step fun _ => none) (sampleHistory (some 5)) sampleSkippingScans).CreditedOnce sampleChain
        (sampleHistory (some 5)).db.receivables := by
  refine ⟨⟨rfl, rfl, ?_⟩, ⟨⟨by decide, ?_, ?_, ?_⟩, ⟨by decide, ?_, ?_, ?_⟩, trivial⟩, ?_⟩
  · rintro range hr
    obtain rfl := Option.some.inj hr
    decide
  · intro n hn
    cases hn
  · intro logs hl
    obtain rfl := Except.ok.inj hl
    exact ⟨[], .nil, by decide⟩
  · intro message range hm
    cases hm
  · intro n hn
    obtain rfl := Except.ok.inj hn
    rfl
  · intro logs hl
    obtain rfl := Except.ok.inj hl
    exact ⟨[], .nil, by decide⟩
  · intro message range hm
    cases hm
  · intro hcr
    have hc := hcr.complete 10 20 (by decide) (by decide) samplePayment (by decide) (by decide) (by decide)
    exact absurd hc (by decide)

def sampleLog : Log := ⟨some 12, [0, 3], [50]⟩

/-- Both queries are answered at block 20. -/
def sampleScan : ScanEvent := ⟨⟨.ok 20, .ok [sampleLog], 2000⟩, 20, 20⟩

theorem payments_credited_once_sample :
    (Run.run (step fun _ => none) (sampleHistory none) [sampleScan]).credited = [samplePayment] ∧
      (Run.run (step fun _ => none) (sampleHistory none) [sampleScan]).CreditedOnce sampleChain
        (sampleHistory none).db.receivables := by
  have hin : (sampleHistory none).Initial := ⟨rfl, rfl, by intro range hr; cases hr⟩
  have ht : Truthful sampleChain (fun _ => none) (sampleHistory none) sampleScan := by
    refine ⟨by decide, ?_, ?_, ?_⟩
    · intro n hn
      obtain rfl := Except.ok.inj hn
      rfl
    · intro logs hl
      obtain rfl := Except.ok.inj hl
      exact ⟨[samplePayment], .cons ⟨rfl, ⟨0, 3, [], rfl, rfl⟩, by decide, by decide⟩ .nil, by decide⟩
    · intro message range hms
      cases hms
  have hs : Sound (sampleHistory none) sampleScan := by
    intro logs _
    refine ⟨by decide, ?_, ?_, ?_, ?_⟩
    · intro start range _ hm
      cases hm
    · intro start n hst hn
      obtain rfl := Option.some.inj hst
      obtain rfl := Except.ok.inj hn
      decide
    · intro start error _ _ hrp
      cases hrp
    · intro start range error _ hm
      cases hm
  exact ⟨by decide, (@payments_credited_once _ _ _ hin [] [sampleScan] ⟨⟨ht, hs⟩, trivial⟩).2⟩

end ScanHistory

end MasqMobile
