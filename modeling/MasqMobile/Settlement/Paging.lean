import MasqMobile.Lib.Paging
import MasqMobile.Settlement.Attribution
import MasqMobile.Settlement.Canonical
import MasqMobile.Settlement.Conservation

/-!
# Paging through the settlement tables

A provider exports its pending claims, and asks the chain about its pending and archived claims, page by page:
`node/src/hopper/provider_settlement.rs` over `receipt_checkpoint_dao.rs`. A page is ordered by claim id and starts
after the cursor that the last page returned. Every page carries a cursor, also the last one; a call after the last page
fails with `EmptyPage`.

SQLite compares blobs byte by byte, which for claim ids is the order of the words. Statements do not fail. Of the
manager's fields those that paging neither reads nor writes are left out (the chain's names, the payout wallet, the
pending proposal).
-/

namespace MasqMobile

open Fallible Lists Paging

/-- `usize::MAX` and the largest limit of a statement. -/
def usizeMax : Nat := 2 ^ 64 - 1
def sqlLimit (limit : Nat) : Nat := min limit (2 ^ 63 - 1)

structure PendingSettlementClaimRecord where
  receiptPayload : ServiceReceiptPayload
  acceptedAtUnixS : Nat

structure SettlementReconciliationCandidate where
  claimId : Bytes32
  cumulativeChargeWei : Nat
  deriving DecidableEq

/-- receipt_checkpoint_dao.rs:1053 -/
def pendingSettlementClaimRecordsPage (P : Primitives) (db : ReceiptDb) (startAfterClaimIdOpt : Option Bytes32)
    (limit : Nat) : Except ReceiptCheckpointDaoError (List PendingSettlementClaimRecord) :=
  if limit = 0 then .ok []
  else
    (pageAfter (·.claimId) db.outbox.rows startAfterClaimIdOpt (sqlLimit limit)).mapM fun row => do
      let receiptPayload ← deserializeSettlementClaim P row.claimId row.authorizationNonce row.payload
      return { receiptPayload, acceptedAtUnixS := row.acceptedAtUnixS }

/-- receipt_checkpoint_dao.rs:1033 -/
def pendingSettlementClaims (P : Primitives) (db : ReceiptDb) :
    Except ReceiptCheckpointDaoError (List ServiceReceiptPayload) := do
  let records ← pendingSettlementClaimRecordsPage P db none usizeMax
  return records.map (·.receiptPayload)

/-- The union of the statement at receipt_checkpoint_dao.rs:1123: pending claims, and archived ones that are not
pending again. -/
def reconciliationCandidates (db : ReceiptDb) : List SettlementReconciliationCandidate :=
  db.outbox.rows.map (fun row => ⟨row.claimId, row.payload.receipt.cumulativeChargeWei⟩) ++
    (db.archive.rows.filter fun archived => ¬∃ pending ∈ db.outbox.rows, pending.claimId = archived.claimId).map
      fun row => ⟨row.claimId, row.payload.receipt.cumulativeChargeWei⟩

/-- receipt_checkpoint_dao.rs:1111 -/
def settlementReconciliationCandidatesPage (db : ReceiptDb) (startAfterClaimIdOpt : Option Bytes32) (limit : Nat) :
    List SettlementReconciliationCandidate :=
  if limit = 0 then []
  else pageAfter (·.claimId) (reconciliationCandidates db) startAfterClaimIdOpt (sqlLimit limit)

/-! ## The manager -/

def maxProviderSettlementExportClaims : Nat := 128
def minProviderSettlementConfirmationDepth : Nat := 12
def maxProviderSettlementConfirmationDepth : Nat := 100000

/-- provider_settlement.rs:122; the variants of proposing and activating an authorization are left out. -/
inductive ProviderSettlementManagerError where
  | dao (error : ReceiptCheckpointDaoError)
  | confirmationDepth (depth : Nat)
  | emptyPage
  | exportLimit (maxClaims : Nat)
  | noActiveAuthorization
  | settlement (error : ReceiptSettlementError)
  deriving DecidableEq

/-- provider_settlement.rs:85 -/
structure ProviderSettlementBatchExport where
  batch : ReceiptSettlementBatch
  totalPendingClaims : Nat
  startAfterClaimIdOpt : Option Bytes32
  nextCursor : Bytes32

/-- provider_settlement.rs:104 -/
structure ProviderSettlementReconciliationPage where
  settlementContract : Address
  candidates : List SettlementReconciliationCandidate
  startAfterClaimIdOpt : Option Bytes32
  nextCursor : Bytes32

/-- provider_settlement.rs:220. The database holds the authorization besides the receipt tables. -/
structure ProviderSettlementManager where
  chainId : Nat
  settlementContract : Address
  providerCryptde : CryptDE
  db : ReceiptDb
  storedAuthorizationOpt : Option AuthorizedProviderSettlement
  activeOpt : Option AuthorizedProviderSettlement

namespace ProviderSettlementManager

variable (P : Primitives) (m : ProviderSettlementManager)

/-- provider_settlement.rs:363, of which callers here use the number of pending claims; an authorization that has
expired is cleared. -/
def status (nowUnixS : Nat) : Except ProviderSettlementManagerError Nat × ProviderSettlementManager :=
  let m := match m.activeOpt with
    | some authorization =>
      if nowUnixS > authorization.policy.expiresAtUnixS then
        { m with storedAuthorizationOpt := none, activeOpt := none }
      else m
    | none => m
  (do
    let pending ← mapErr .dao (pendingSettlementClaims P m.db)
    return pending.length, m)

variable (startAfterClaimIdOpt : Option Bytes32)

/-- The part of `export` after `status`. -/
def exportPage (maxClaims nowUnixS : Nat) : Except ProviderSettlementManagerError ProviderSettlementBatchExport := do
  let authorization ← okOr m.activeOpt .noActiveAuthorization
  let totalPendingClaims ← mapErr .dao (pendingSettlementClaims P m.db)
  let selectedRecords ← mapErr .dao (pendingSettlementClaimRecordsPage P m.db startAfterClaimIdOpt maxClaims)
  let nextCursor ← okOr (selectedRecords.getLast?.map fun record => receiptSettlementClaimId P record.receiptPayload)
    .emptyPage
  let selected := selectedRecords.map fun record =>
    (({ receiptPayload := record.receiptPayload, providerSettlement := authorization } : ReceiptSettlementClaim),
      record.acceptedAtUnixS)
  let batch ← mapErr .settlement (ReceiptSettlementBatch.buildFromAccepted P selected m.chainId m.settlementContract
    nowUnixS m.providerCryptde)
  return { batch, totalPendingClaims := totalPendingClaims.length, startAfterClaimIdOpt, nextCursor }

/-- `export` (provider_settlement.rs:408). -/
def exportBatch (maxClaims nowUnixS : Nat) :
    Except ProviderSettlementManagerError ProviderSettlementBatchExport × ProviderSettlementManager :=
  if ¬(1 ≤ maxClaims ∧ maxClaims ≤ maxProviderSettlementExportClaims) then (.error (.exportLimit maxClaims), m)
  else
    match m.status P nowUnixS with
    | (.error e, m) => (.error e, m)
    | (.ok _, m) => (m.exportPage P startAfterClaimIdOpt maxClaims nowUnixS, m)

/-- provider_settlement.rs:461 -/
def reconciliationPage (maxClaims confirmationDepth : Nat) :
    Except ProviderSettlementManagerError ProviderSettlementReconciliationPage := do
  failIf (¬(1 ≤ maxClaims ∧ maxClaims ≤ maxProviderSettlementExportClaims)) (.exportLimit maxClaims)
  failIf (¬(minProviderSettlementConfirmationDepth ≤ confirmationDepth ∧
    confirmationDepth ≤ maxProviderSettlementConfirmationDepth)) (.confirmationDepth confirmationDepth)
  let candidates := settlementReconciliationCandidatesPage m.db startAfterClaimIdOpt maxClaims
  let nextCursor ← okOr (candidates.getLast?.map (·.claimId)) .emptyPage
  return { settlementContract := m.settlementContract, candidates, startAfterClaimIdOpt, nextCursor }

/-- Exports pages of `maxClaims`, each with the cursor of the last one, call `i` at the time `clock i`. One call more
than there are pending claims is always enough. -/
def exportAll (clock : Nat → Nat) (maxClaims : Nat) (m : ProviderSettlementManager) :
    Option (List ProviderSettlementBatchExport × ProviderSettlementManagerError) :=
  drain (fun call start m =>
    let (result, m) := exportBatch P m start maxClaims (clock call)
    (result.map fun page => (page, page.nextCursor), m)) (m.db.outbox.rows.length + 1) 0 none m

/-- The same of `reconciliationPage`. -/
def reconcileAll (maxClaims confirmationDepth : Nat) (m : ProviderSettlementManager) :
    Option (List ProviderSettlementReconciliationPage × ProviderSettlementManagerError) :=
  drain (fun _ start m =>
    ((m.reconciliationPage start maxClaims confirmationDepth).map fun page => (page, page.nextCursor), m))
    ((reconciliationCandidates m.db).length + 1) 0 none m

end ProviderSettlementManager

/-! ## Pending claims -/

section Export

variable {P : Primitives} {db : ReceiptDb} {m : ProviderSettlementManager}
  {authorization : AuthorizedProviderSettlement} {n now : Nat}

/-- The columns of every pending claim agree with its payload. -/
def ReceiptDb.Intact (P : Primitives) (db : ReceiptDb) : Prop :=
  ∀ row ∈ db.outbox.rows, deserializeSettlementClaim P row.claimId row.authorizationNonce row.payload = .ok row.payload

def OutboxRow.record (row : OutboxRow) : PendingSettlementClaimRecord := ⟨row.payload, row.acceptedAtUnixS⟩

theorem pendingSettlementClaimRecordsPage_eq (h : db.Intact P) (st : Option Bytes32) (hl : 0 < l) :
    pendingSettlementClaimRecordsPage P db st l =
      .ok ((pageAfter (·.claimId) db.outbox.rows st (sqlLimit l)).map OutboxRow.record) := by
  rw [pendingSettlementClaimRecordsPage, if_neg (by omega)]
  refine mapM_eq_ok_of_forall fun row hr => ?_
  have hm : row ∈ db.outbox.rows := List.mem_of_mem_filter (mem_sortBy.1 (List.mem_of_mem_take hr))
  rw [h row hm]
  rfl

/-- What is built from a page of rows under an authorization. -/
def pairsOf (authorization : AuthorizedProviderSettlement) (rows : List OutboxRow) :
    List (ReceiptSettlementClaim × Nat) :=
  rows.map fun row => (⟨row.payload, authorization⟩, row.acceptedAtUnixS)

/-- The export of a page of rows, out of `total` pending ones. -/
def ProviderSettlementManager.exportOf (P : Primitives) (m : ProviderSettlementManager)
    (authorization : AuthorizedProviderSettlement) (total now : Nat) (start : Option Bytes32) (rows : List OutboxRow) :
    Except ProviderSettlementManagerError ProviderSettlementBatchExport := do
  let batch ← mapErr .settlement (ReceiptSettlementBatch.buildFromAccepted P (pairsOf authorization rows)
    m.chainId m.settlementContract now m.providerCryptde)
  return { batch, totalPendingClaims := total, startAfterClaimIdOpt := start,
           nextCursor := (cursor (·.claimId) rows).getD 0 }

variable {p : List ServiceReceiptPayload}

theorem status_of_live (hp : pendingSettlementClaims P m.db = .ok p)
    (ha : m.activeOpt = some authorization) (hl : now ≤ authorization.policy.expiresAtUnixS) :
    m.status P now = (.ok p.length, m) := by
  simp only [ProviderSettlementManager.status, ha, gt_iff_lt, if_neg (Nat.not_lt.2 hl), hp]
  rfl

/-- A page of intact rows is exported as what can be built from it; its cursor is the id of its last row. -/
theorem exportPage_eq (hin : m.db.Intact P)
    (hpe : pendingSettlementClaims P m.db = .ok p) (ha : m.activeOpt = some authorization)
    (hn : 1 ≤ n) (hm : n ≤ maxProviderSettlementExportClaims) (st : Option Bytes32) :
    (m.exportPage P st n now).map (fun page => (page, page.nextCursor)) =
      answer (·.claimId) (m.exportOf P authorization p.length now st) .emptyPage
        (pageAfter (·.claimId) m.db.outbox.rows st n) := by
  have hli : sqlLimit n = n := by
    simp only [maxProviderSettlementExportClaims] at hm
    simp only [sqlLimit]
    omega
  have hp := pendingSettlementClaimRecordsPage_eq hin st hn
  rw [hli] at hp
  have hs : ∀ row ∈ pageAfter (·.claimId) m.db.outbox.rows st n, row ∈ m.db.outbox.rows :=
    fun row hr => List.mem_of_mem_filter (mem_sortBy.1 (List.mem_of_mem_take hr))
  generalize hro : pageAfter (·.claimId) m.db.outbox.rows st n = rows at hp hs
  have hpa : (rows.map OutboxRow.record).map (fun record =>
      ((⟨record.receiptPayload, authorization⟩ : ReceiptSettlementClaim), record.acceptedAtUnixS)) =
        pairsOf authorization rows := by
    rw [List.map_map]
    rfl
  simp only [ProviderSettlementManager.exportPage, ha, hpe, hp, okOr, mapErr, bind, Except.bind, hpa, List.getLast?_map]
  rcases List.eq_nil_or_concat' rows with rfl | ⟨init, last, rfl⟩
  · rfl
  · have hid : receiptSettlementClaimId P last.payload = last.claimId :=
      (deserializeSettlementClaim_eq_ok_iff.1 (hin last (hs last (by simp)))).2.2.1
    have hl : (init ++ [last]).getLast? = some last := by simp
    simp only [answer, hl, Option.map_some, OutboxRow.record, hid, ProviderSettlementManager.exportOf,
      cursor, Option.getD_some]
    cases ReceiptSettlementBatch.buildFromAccepted P (pairsOf authorization (init ++ [last])) m.chainId
      m.settlementContract now m.providerCryptde <;> rfl

/-- **What the export pages show**: the pending claims in the order of their ids, up to the first page from which no
batch can be built. -/
structure ExportedInOrder (P : Primitives) (m : ProviderSettlementManager)
    (authorization : AuthorizedProviderSettlement) (clock : Nat → Nat) (n : Nat)
    (pages : List (List OutboxRow)) (left : List OutboxRow) (exports : List ProviderSettlementBatchExport)
    (e : ProviderSettlementManagerError) : Prop where
  pending : (pages.flatten ++ left).Perm m.db.outbox.rows
  ascending : (pages.flatten ++ left).Pairwise fun row row' => row.claimId < row'.claimId
  exported : List.Forall₂ (fun page x => page ≠ [] ∧ page.length ≤ n ∧
    x.batch.claims.Perm (page.map fun row => ⟨row.payload, authorization⟩) ∧
      cursor (·.claimId) page = some x.nextCursor) pages exports
  ended : left = [] ∧ e = .emptyPage ∨ left ≠ [] ∧ ∃ i error,
    ReceiptSettlementBatch.buildFromAccepted P (pairsOf authorization (left.take n)) m.chainId m.settlementContract
      (clock i) m.providerCryptde = .error error ∧ e = .settlement error

theorem exportOf_eq_ok {page : List OutboxRow} (hne : page ≠ [])
    (h : m.exportOf P authorization t now st page = .ok x) :
    x.batch.claims.Perm (page.map fun row => ⟨row.payload, authorization⟩) ∧
      cursor (·.claimId) page = some x.nextCursor := by
  simp only [ProviderSettlementManager.exportOf, bind_eq_ok, mapErr_eq_ok, pure_eq_ok] at h
  obtain ⟨batch, hb, rfl⟩ := h
  obtain ⟨-, hp⟩ := ReceiptSettlementBatch.conserves_of_buildFromAccepted hb
  refine ⟨?_, ?_⟩
  · rw [pairsOf, List.map_map] at hp
    exact hp
  · simp [cursor, List.getLast?_eq_some_getLast hne]

theorem exportAll_spec (hid : (m.db.outbox.rows.map (·.claimId)).Nodup) (hin : m.db.Intact P)
    (ha : m.activeOpt = some authorization) {c : Nat → Nat}
    (hl : ∀ i, c i ≤ authorization.policy.expiresAtUnixS) (hn : 1 ≤ n)
    (hm : n ≤ maxProviderSettlementExportClaims) :
    ∃ p left ex e, m.exportAll P c n = some (ex, e) ∧ ExportedInOrder P m authorization c n p left ex e := by
  obtain ⟨pending, hpe⟩ : ∃ pending, pendingSettlementClaims P m.db = .ok pending := by
    rw [pendingSettlementClaims, pendingSettlementClaimRecordsPage_eq hin none (by decide)]
    exact ⟨_, rfl⟩
  have hlen : (sortBy (·.claimId) m.db.outbox.rows).length < m.db.outbox.rows.length + 1 :=
    Nat.lt_succ_of_le (sortBy_perm _ _).length_eq.le
  obtain ⟨p, ex, left, e, hd, hs, hma, hen⟩ := drain_pages (fun call start m =>
      let (result, m) := ProviderSettlementManager.exportBatch P m start n (c call)
      (result.map fun page => (page, page.nextCursor), m)) (·.claimId)
    (fun i => m.exportOf P authorization pending.length (c i)) .emptyPage m hn (fun call pre rest hs => by
      have hp : (m.exportPage P (cursor (·.claimId) pre) n (c call)).map
          (fun page => (page, page.nextCursor)) = _ := exportPage_eq hin hpe ha hn hm _
      rw [pageAfter_cursor hid hs] at hp
      simp only [ProviderSettlementManager.exportBatch, not_and_or, hn, hm, not_true, or_self, if_false,
        status_of_live hpe ha (hl call), hp])
    (m.db.outbox.rows.length + 1) 0 [] _ rfl hlen
  refine ⟨p, left, ex, e, hd, ?_, ?_, ?_, ?_⟩
  · rw [← hs]
    exact sortBy_perm _ _
  · rw [← hs]
    exact sortBy_strict hid
  · exact hma.imp fun _ _ ⟨hne, hle, _, _, hok⟩ => ⟨hne, hle, exportOf_eq_ok hne hok⟩
  · refine hen.imp id fun ⟨hne, i, start, he⟩ => ⟨hne, i, ?_⟩
    simp only [ProviderSettlementManager.exportOf, bind_eq_error, mapErr_eq_error, pure_ne_error, and_false,
      exists_false, or_false] at he
    obtain ⟨error, he, rfl⟩ := he
    exact ⟨error, he, rfl⟩

end Export

/-! ## Pending and archived claims -/

section Reconciliation

variable {db : ReceiptDb} {m : ProviderSettlementManager} {n depth : Nat}

theorem claimId_mem_reconciliationCandidates {id : Bytes32} : id ∈ (reconciliationCandidates db).map (·.claimId) ↔
      (∃ row ∈ db.outbox.rows, row.claimId = id) ∨ ∃ row ∈ db.archive.rows, row.claimId = id := by
  simp only [reconciliationCandidates, List.map_append, List.map_map, List.mem_append, List.mem_map, List.mem_filter,
    Function.comp_apply, decide_eq_true_eq]
  constructor
  · rintro (h | ⟨row, ⟨hr, -⟩, hid⟩)
    · exact .inl h
    · exact .inr ⟨row, hr, hid⟩
  · rintro (h | ⟨row, hr, rfl⟩)
    · exact .inl h
    · by_cases hp : ∃ pending ∈ db.outbox.rows, pending.claimId = row.claimId
      · exact .inl hp
      · exact .inr ⟨row, ⟨hr, hp⟩, rfl⟩

theorem nodup_reconciliationCandidates (hid : (db.outbox.rows.map (·.claimId)).Nodup) :
    ((reconciliationCandidates db).map (·.claimId)).Nodup := by
  simp only [reconciliationCandidates, List.map_append, List.map_map]
  refine hid.append ?_ ?_
  · exact (List.filter_sublist.map _).nodup db.archive.nodup
  · intro id hp ha
    obtain ⟨row, hr, rfl⟩ := List.mem_map.1 ha
    have hn := (List.mem_filter.1 hr).2
    simp only [decide_eq_true_eq] at hn
    exact hn (List.mem_map.1 hp)

/-- The page of some candidates. -/
def ProviderSettlementManager.reconciliationOf (m : ProviderSettlementManager) (start : Option Bytes32)
    (candidates : List SettlementReconciliationCandidate) : ProviderSettlementReconciliationPage where
  settlementContract := m.settlementContract
  candidates := candidates
  startAfterClaimIdOpt := start
  nextCursor := (cursor (·.claimId) candidates).getD 0

theorem reconciliationPage_eq (hn : 1 ≤ n) (hm : n ≤ maxProviderSettlementExportClaims)
    (hd : minProviderSettlementConfirmationDepth ≤ depth ∧ depth ≤ maxProviderSettlementConfirmationDepth)
    (st : Option Bytes32) :
    (m.reconciliationPage st n depth).map (fun page => (page, page.nextCursor)) =
      answer (·.claimId) (fun candidates => .ok (m.reconciliationOf st candidates)) .emptyPage
        (pageAfter (·.claimId) (reconciliationCandidates m.db) st n) := by
  have hli : sqlLimit n = n := by
    simp only [maxProviderSettlementExportClaims] at hm
    simp only [sqlLimit]
    omega
  have hs : 1 ≤ n ∧ n ≤ maxProviderSettlementExportClaims := ⟨hn, hm⟩
  have hz : n ≠ 0 := by omega
  simp only [ProviderSettlementManager.reconciliationPage, failIf, hs, hd, not_true, if_false, and_self,
    settlementReconciliationCandidatesPage, hz, hli, bind, Except.bind]
  rcases List.eq_nil_or_concat' (pageAfter (·.claimId) (reconciliationCandidates m.db) st n) with
    hp | ⟨init, last, hp⟩
  · rw [hp]
    rfl
  · have hl : (init ++ [last]).getLast? = some last := by simp
    simp only [hp, hl, answer, Option.map_some, okOr, ProviderSettlementManager.reconciliationOf,
      cursor, Option.getD_some]
    rfl

/-- **What the reconciliation pages show**: every pending or archived claim once, in the order of the ids. -/
structure ReconciledInOrder (db : ReceiptDb) (n : Nat) (pages : List ProviderSettlementReconciliationPage) : Prop where
  visited : (pages.flatMap (·.candidates)).Perm (reconciliationCandidates db)
  ascending : (pages.flatMap (·.candidates)).Pairwise fun candidate candidate' => candidate.claimId < candidate'.claimId
  sized : ∀ page ∈ pages, page.candidates ≠ [] ∧ page.candidates.length ≤ n ∧
    cursor (·.claimId) page.candidates = some page.nextCursor

theorem reconcileAll_spec (hid : (m.db.outbox.rows.map (·.claimId)).Nodup) (hn : 1 ≤ n)
    (hma : n ≤ maxProviderSettlementExportClaims)
    (hd : minProviderSettlementConfirmationDepth ≤ depth ∧ depth ≤ maxProviderSettlementConfirmationDepth) :
    ∃ pages, m.reconcileAll n depth = some (pages, .emptyPage) ∧ ReconciledInOrder m.db n pages := by
  have hc := nodup_reconciliationCandidates hid
  have hl : (sortBy (·.claimId) (reconciliationCandidates m.db)).length < (reconciliationCandidates m.db).length + 1 :=
    Nat.lt_succ_of_le (sortBy_perm _ _).length_eq.le
  obtain ⟨p, pages, left, e, hdr, hs, hm, he⟩ := drain_pages
    (fun _ start m => ((m.reconciliationPage start n depth).map fun page => (page, page.nextCursor), m)) (·.claimId)
    (fun _ start candidates => .ok (m.reconciliationOf start candidates)) .emptyPage m hn
    (fun call pre rest hs => by
      rw [reconciliationPage_eq hn hma hd, pageAfter_cursor hc hs])
    ((reconciliationCandidates m.db).length + 1) 0 [] _ rfl hl
  -- nothing can go wrong in making a page, so the loop ends at the end of the list
  obtain ⟨rfl, rfl⟩ : left = [] ∧ e = .emptyPage := by
    rcases he with he | ⟨-, _, _, her⟩
    · exact he
    · cases her
  have hpi : p = pages.map (·.candidates) := by
    have hsa : List.Forall₂ (· = ·) p (pages.map (·.candidates)) := by
      refine List.forall₂_map_right_iff.2 (hm.imp ?_)
      rintro pi page ⟨-, -, _, start, hp⟩
      cases hp
      rfl
    rwa [List.forall₂_eq_eq_eq] at hsa
  subst hpi
  rw [List.append_nil, ← List.flatMap_def] at hs
  refine ⟨pages, hdr, ?_, ?_, fun page hp => ?_⟩
  · rw [← hs]
    exact sortBy_perm _ _
  · rw [← hs]
    exact sortBy_strict hc
  · obtain ⟨hne, hle, _, start, hm⟩ := List.forall₂_same.1 (List.forall₂_map_left_iff.1 hm) page hp
    have hcu := congrArg (·.nextCursor) (Except.ok.inj hm)
    refine ⟨hne, hle, ?_⟩
    rw [← hcu]
    simp [ProviderSettlementManager.reconciliationOf, cursor, List.getLast?_eq_some_getLast hne]

end Reconciliation

/-! ## Completeness -/

/-- **Paging is complete.** A page size outside 1..=128 is refused by every call. With any other, exporting with the
returned cursors ends and shows the pending claims once each in ascending order, up to the first page from which no
batch can be built; and reconciling ends with `EmptyPage` and shows every pending or archived claim once, in ascending
order. Claim ids are unique in the outbox by its schema. -/
theorem settlement_paging_complete (P : Primitives) (m : ProviderSettlementManager)
    (hids : (m.db.outbox.rows.map (·.claimId)).Nodup) (n : Nat) :
    (¬(1 ≤ n ∧ n ≤ 128) → ∀ start now depth, m.exportBatch P start n now = (.error (.exportLimit n), m) ∧
        m.reconciliationPage start n depth = .error (.exportLimit n)) ∧
    (1 ≤ n ∧ n ≤ 128 → m.db.Intact P → ∀ authorization clock, m.activeOpt = some authorization →
      (∀ i, clock i ≤ authorization.policy.expiresAtUnixS) →
        ∃ pages left exports e, m.exportAll P clock n = some (exports, e) ∧
          ExportedInOrder P m authorization clock n pages left exports e) ∧
    (1 ≤ n ∧ n ≤ 128 → ∀ depth, 12 ≤ depth ∧ depth ≤ 100000 →
      ∃ pages, m.reconcileAll n depth = some (pages, .emptyPage) ∧ ReconciledInOrder m.db n pages ∧
        ∀ id, (∃ page ∈ pages, ∃ candidate ∈ page.candidates, candidate.claimId = id) ↔
          (∃ row ∈ m.db.outbox.rows, row.claimId = id) ∨ ∃ row ∈ m.db.archive.rows, row.claimId = id) := by
  refine ⟨fun hn start now depth => ?_, fun ⟨hn, hm⟩ hin authorization clock ha hl => ?_, fun ⟨hn, hm⟩ depth hd => ?_⟩
  · constructor
    · exact if_pos hn
    · exact bind_eq_error.2 (.inl (failIf_eq_error.2 ⟨hn, rfl⟩))
  · exact exportAll_spec hids hin ha hl hn hm
  · obtain ⟨pages, hp, hs⟩ := reconcileAll_spec hids hn hm hd
    refine ⟨pages, hp, hs, fun id => ?_⟩
    rw [← claimId_mem_reconciliationCandidates, List.mem_map]
    simp only [← hs.visited.mem_iff, List.mem_flatMap]
    grind

section Sample

open ReceiptSettlementBatch

/-- A manager with two pending claims, the one with the greater id first, accepted at this time. -/
def sampleManager (acceptedAt : Nat) : ProviderSettlementManager where
  chainId := 1
  settlementContract := 1
  providerCryptde := ⟨[9], []⟩
  db := { ReceiptDb.fresh .empty with
      outbox :=
        { rows := [3, 2].map fun n => ⟨BitVec.ofNat 256 n, 1, (sampleClaim n 5).receiptPayload, acceptedAt⟩
          nodup := (by decide : ([3, 2].map fun n => (sampleClaim n 5).receiptPayload.streamId).Nodup) } }
  storedAuthorizationOpt := some (sampleClaim 2 5).providerSettlement
  activeOpt := some (sampleClaim 2 5).providerSettlement

/-- The hypotheses hold of two pending claims and pages of one, a size that divides their number. -/
theorem settlement_paging_two_claims :
    (∃ pages left exports e, (sampleManager 10).exportAll lastByte (fun _ => 30) 1 = some (exports, e) ∧
      ExportedInOrder lastByte (sampleManager 10) (sampleClaim 2 5).providerSettlement (fun _ => 30) 1 pages left
        exports e) ∧
    ∃ pages, (sampleManager 10).reconcileAll 1 12 = some (pages, .emptyPage) ∧
      ReconciledInOrder (sampleManager 10).db 1 pages := by
  have hin : (sampleManager 10).db.Intact lastByte := by
    intro row hro
    rw [deserializeSettlementClaim_eq_ok_iff]
    revert row
    decide +kernel
  obtain ⟨-, he, hr⟩ := settlement_paging_complete lastByte (sampleManager 10) (by decide) 1
  obtain ⟨pages, hp, hs, -⟩ := hr (by decide) 12 (by decide)
  exact ⟨he (by decide) hin _ _ rfl fun _ => by decide, pages, hp, hs⟩

/-- A page of 129 is refused although two claims are pending; the last page of one returns a cursor like every other;
and claims that were accepted in the future are not exported. -/
theorem settlement_page_of_129_refused :
    ((sampleManager 10).exportBatch lastByte none 129 30).1 = .error (.exportLimit 129) ∧
    ((sampleManager 10).exportBatch lastByte (some 2) 1 30).1.map (·.nextCursor) = .ok 3 ∧
    ((sampleManager 40).exportAll lastByte (fun _ => 30) 1).map (·.1.length) = some 0 := by
  refine ⟨rfl, ?_, ?_⟩ <;> decide +kernel

end Sample

end MasqMobile
