import MasqMobile.Settlement.Attribution

/-!
# Reconciliation loses nothing

A claim moves from the outbox to the archive when the chain has paid it, back when the chain takes the payment back,
and out of the archive when a later receipt of its stream is accepted.

`SettlementHistory` keeps beside the tables what no table holds: the ids that were accepted and the charges that were
observed. A call that fails adds to neither.
-/

namespace MasqMobile

open Fallible SettlementReconciliationOutcome

variable {P : Primitives} {pls : List ServiceReceiptPayload} {db db' : ReceiptDb}

/-- The ids of the stored claims, pending and archived. -/
def ReceiptDb.claimIds (db : ReceiptDb) : List Bytes32 :=
  db.outbox.rows.map (·.claimId) ++ db.archive.rows.map (·.claimId)

def SettlementReconciliationOutcome.claimCount (o : SettlementReconciliationOutcome) : Nat :=
  o.archivedClaimCount + o.restoredClaimCount + o.stillPendingClaimCount + o.revalidatedArchiveCount +
    o.unknownClaimCount

/-- The tables, the ids accepted so far and the claims observed so far, the latest first. -/
structure SettlementHistory where
  db : ReceiptDb
  accepted : List Bytes32
  observed : List ConfirmedSettlementClaim

namespace SettlementHistory

def fresh (receivables : Table ReceivableRow ReceivableRow.walletAddress) : SettlementHistory where
  db := .fresh receivables
  accepted := []
  observed := []

def step (P : Primitives) (h : SettlementHistory) (call : ReceiptCall) : SettlementHistory where
  db := call.apply P h.db
  accepted :=
    match call with
    | .accept c =>
      match (c.apply P h.db).1 with
      | .ok _ => receiptSettlementClaimId P c.payload :: h.accepted
      | .error _ => h.accepted
    | .reconcile _ _ => h.accepted
  observed :=
    match call with
    | .accept _ => h.observed
    | .reconcile faults obs =>
      match (reconcileSettlementClaims P faults obs h.db).1 with
      | .ok _ => obs.claims.reverse ++ h.observed
      | .error _ => h.observed

end SettlementHistory

/-- The charge that a claim was last observed with. -/
def lastObserved (observed : List ConfirmedSettlementClaim) (claimId : Bytes32) : Option Nat :=
  (observed.find? (·.claimId = claimId)).map (·.cumulativeChargeWei)

theorem lastObserved_cons (confirmation : ConfirmedSettlementClaim) (observed : List ConfirmedSettlementClaim)
    (claimId : Bytes32) :
    lastObserved (confirmation :: observed) claimId =
      if confirmation.claimId = claimId then some confirmation.cumulativeChargeWei else lastObserved observed claimId := by
  by_cases hid : confirmation.claimId = claimId <;> simp [lastObserved, hid]

section Turns

variable {obs : SettlementChainObservation} {cf : ConfirmedSettlementClaim} {faults : ReconcileFaults} {i : Nat}
  {outcome outcome' : SettlementReconciliationOutcome}
variable {confirmations observed : List ConfirmedSettlementClaim}

theorem ReceiptDb.mem_claimIds {claimId : Bytes32} : claimId ∈ db.claimIds ↔ ∃ c, db.Holds c ∧ c.claimId = claimId := by
  simp only [ReceiptDb.claimIds, List.mem_append, List.mem_map, ReceiptDb.Holds]
  constructor
  · rintro (⟨r, hr, rfl⟩ | ⟨a, ha, rfl⟩)
    · exact ⟨r.claim, .inl ⟨r, hr, rfl⟩, rfl⟩
    · exact ⟨a.claim, .inr ⟨a, ha, rfl⟩, rfl⟩
  · rintro ⟨_, ⟨r, hr, rfl⟩ | ⟨a, ha, rfl⟩, rfl⟩
    · exact .inl ⟨r, hr, rfl⟩
    · exact .inr ⟨a, ha, rfl⟩

/-! ## A turn of the loop -/

/-- Every claim stored before the turn is stored after it. -/
theorem ReconcileStep.kept (h : ReconcileStep P obs cf db db') (hwf : ClaimsWF P pls db) (hc : db.Holds c) :
    db'.Holds c := by
  cases h with
  | same => exact hc
  | archived row hro hid _ =>
    rw [ReceiptDb.Holds, deletePending_eq_erase hro hid]
    rcases hc with ⟨r, hr, rfl⟩ | ⟨a, ha, rfl⟩
    · by_cases hs : r.streamId = row.streamId
      · obtain rfl := List.inj_on_of_nodup_map db.outbox.nodup hr hro hs
        exact .inr ⟨_, Table.mem_put.2 (.inl rfl), archived_claim hid⟩
      · exact .inl ⟨r, Table.mem_erase.2 ⟨hr, hs⟩, rfl⟩
    · -- the archive has no row yet with the id of a pending claim
      have hne : a.claimId ≠ cf.claimId := fun heq => hwf.apart row hro a ha (hid.trans heq.symm)
      exact .inr ⟨a, Table.mem_put.2 (.inr ⟨ha, hne⟩), rfl⟩
  | restored row hro _ _ hs =>
    obtain ⟨hm, hid⟩ := Table.find_eq_some_iff.1 hro
    rcases hc with ⟨r, hr, rfl⟩ | ⟨a, ha, rfl⟩
    · exact .inl ⟨r, Table.mem_put.2 (.inr ⟨hr, hs r hr⟩), rfl⟩
    · by_cases hk : a.claimId = cf.claimId
      · obtain rfl := List.inj_on_of_nodup_map db.archive.nodup ha hm (hk.trans hid.symm)
        exact .inl ⟨_, Table.mem_put.2 (.inl rfl), restored_claim hid⟩
      · exact .inr ⟨a, Table.mem_erase.2 ⟨ha, hk⟩, rfl⟩
  | revalidated row hro _ =>
    obtain ⟨hm, hid⟩ := Table.find_eq_some_iff.1 hro
    rcases hc with hc | ⟨a, ha, rfl⟩
    · exact .inl hc
    · by_cases hk : a.claimId = row.claimId
      · obtain rfl := List.inj_on_of_nodup_map db.archive.nodup ha hm hk
        exact .inr ⟨_, Table.mem_put.2 (.inl rfl), rfl⟩
      · exact .inr ⟨a, Table.mem_put.2 (.inr ⟨ha, hk⟩), rfl⟩

structure Confirmed (observed : List ConfirmedSettlementClaim) (db : ReceiptDb) : Prop where
  latest : ∀ a ∈ db.archive.rows, lastObserved observed a.claimId = some a.confirmedCumulativeChargeWei
  paid : ∀ a ∈ db.archive.rows, a.payload.receipt.cumulativeChargeWei ≤ a.confirmedCumulativeChargeWei

/-- A row of another claim is as well confirmed after the turn as before. -/
theorem Confirmed.other (h : Confirmed observed db) (ha : a ∈ db.archive.rows) (hne : a.claimId ≠ cf.claimId) :
    lastObserved (cf :: observed) a.claimId = some a.confirmedCumulativeChargeWei := by
  rw [lastObserved_cons, if_neg (Ne.symm hne)]
  exact h.latest a ha

theorem Confirmed.turn (h : Confirmed observed db) (hwf : ClaimsWF P pls db) (hs : ReconcileStep P obs cf db db') :
    Confirmed (cf :: observed) db' := by
  cases hs with
  | same hn =>
    refine ⟨fun a ha => h.other ha ?_, h.paid⟩
    rcases hn with ⟨r, hr, hid⟩ | hn
    · exact fun heq => hwf.apart r hr a ha (hid.trans heq.symm)
    · exact hn a ha
  | archived row hro hid hp =>
    constructor <;> intro a ha <;> rcases Table.mem_put.1 ha with rfl | ⟨ha, hne⟩
    · exact (lastObserved_cons _ _ _).trans (if_pos rfl)
    · exact h.other ha hne
    · exact hp
    · exact h.paid a ha
  | restored row hro _ _ _ =>
    constructor <;> intro a ha <;> obtain ⟨ha, hne⟩ := Table.mem_erase.1 ha
    · exact h.other ha hne
    · exact h.paid a ha
  | revalidated row hro hp =>
    obtain ⟨-, hid⟩ := Table.find_eq_some_iff.1 hro
    constructor <;> intro a ha <;> rcases Table.mem_put.1 ha with rfl | ⟨ha, hne⟩
    · exact (lastObserved_cons _ _ _).trans (if_pos hid.symm)
    · exact h.other ha (hid ▸ hne)
    · exact hp
    · exact h.paid a ha

/-- Each turn counts one claim. -/
theorem reconcileClaim_claimCount (h : reconcileClaim P faults obs i cf db outcome = .ok (db', outcome')) :
    outcome'.claimCount = outcome.claimCount + 1 := by
  simp only [reconcileClaim, bind_eq_ok] at h
  obtain ⟨_, -, h⟩ := h
  split at h
  · rename_i row hr
    have hm := List.mem_of_find?_eq_some hr
    have hid : row.claimId = cf.claimId := by simpa using List.find?_some hr
    simp only [reconcilePending, bind_eq_ok] at h
    obtain ⟨_, -, _, -, h⟩ := h
    split at h
    · obtain ⟨-, rfl⟩ := Prod.mk.inj (pure_eq_ok.1 h)
      simp only [claimCount]
      omega
    · simp only [bind_eq_ok, pure_eq_ok, Prod.mk.injEq] at h
      obtain ⟨_, -, _, -, -, rfl⟩ := h
      simp only [claimCount, Table.countP_eq_one hm (removed_iff_streamId hm hid)]
      omega
  · simp only [bind_eq_ok] at h
    obtain ⟨_, -, h⟩ := h
    split at h
    · simp only [reconcileArchived, bind_eq_ok] at h
      obtain ⟨_, -, _, -, h⟩ := h
      split at h <;> simp only [bind_eq_ok, pure_eq_ok, Prod.mk.injEq] at h
      · obtain ⟨_, -, _, -, _, -, -, rfl⟩ := h
        simp only [claimCount]
        omega
      · obtain ⟨_, -, -, rfl⟩ := h
        simp only [claimCount]
        omega
    · obtain ⟨-, rfl⟩ := Prod.mk.inj (pure_eq_ok.1 h)
      simp only [claimCount]
      omega

/-! ## A reconciliation -/

theorem reconcileClaims_claimCount (h : reconcileClaims P faults obs i confirmations db outcome = .ok (db', outcome')) :
    outcome'.claimCount = outcome.claimCount + confirmations.length := by
  have hc := reconcileClaims_invariant (fun done _ o => o.claimCount = outcome.claimCount + done.length)
    (fun ho ht => by rw [reconcileClaim_claimCount ht, ho, List.length_cons]; omega) h (l := []) rfl
  simpa using hc

theorem Confirmed.loop (h : Confirmed observed db) (hwf : ClaimsWF P pls db)
    (hl : reconcileClaims P faults obs i confirmations db outcome = .ok (db', outcome')) :
    Confirmed (confirmations.reverse ++ observed) db' :=
  (reconcileClaims_invariant (fun done db _ => Confirmed done db ∧ ClaimsWF P pls db)
    (fun hd ht => ⟨hd.1.turn hd.2 (reconcileClaim_step ht), hd.2.reconcileStep (reconcileClaim_step ht)⟩)
    hl ⟨h, hwf⟩).1

/-- **A reconciliation stores the claims that were stored before it**, whether it succeeds or fails. -/
theorem holds_reconcileSettlementClaims (hwf : ClaimsWF P pls db) (c : Claim) :
    (reconcileSettlementClaims P faults obs db).2.Holds c ↔ db.Holds c := by
  refine (reconcile_invariant (fun db' => ClaimsWF P pls db' ∧ ∀ c, db'.Holds c ↔ db.Holds c) ?_ ?_
    ⟨hwf, fun _ => Iff.rfl⟩).2 c
  · rintro cf db₁ db₂ ⟨hwf₁, hs⟩ hst
    exact ⟨hwf₁.reconcileStep hst, fun c => ⟨fun hc => (hs c).1 (hst.holds hc), fun hc => hst.kept hwf₁ ((hs c).2 hc)⟩⟩
  · rintro db₁ row ⟨hwf₁, hs⟩
    exact ⟨{ hwf₁ with }, hs⟩

theorem ClaimsWF.reconcile (hwf : ClaimsWF P pls db) : ClaimsWF P pls (reconcileSettlementClaims P faults obs db).2 :=
  reconcile_invariant (ClaimsWF P pls) (fun _ _ _ hwf h => hwf.reconcileStep h) (fun _ _ hwf => { hwf with }) hwf

/-- A later observation is of a later block, and of no smaller depth. -/
theorem continues_of_reconcile (hs : db.reconciliation = some st) :
    ∃ st', (reconcileSettlementClaims P faults obs db).2.reconciliation = some st' ∧
      st.observedBlockNumber ≤ st'.observedBlockNumber ∧ st.confirmationDepth ≤ st'.confirmationDepth := by
  cases h : (reconcileSettlementClaims P faults obs db).1 with
  | error e =>
    have hsa : (reconcileSettlementClaims P faults obs db).2 = db := Transaction.atomically_error h
    exact ⟨st, by rw [hsa, hs], le_refl _, le_refl _⟩
  | ok outcome =>
    obtain ⟨hc, db₁, -, hf⟩ := reconcileSettlementClaims_ok h
    simp only [hs, checkContinues, bind_eq_ok, failIf_eq_ok, not_lt] at hc
    obtain ⟨_, -, _, hd, hb⟩ := hc
    exact ⟨_, by rw [hf], hb, hd⟩

end Turns

/-! ## An accepted receipt -/

section Accepts

variable {pl : ServiceReceiptPayload} {cp : ReceiptSequenceCheckpoint} {ts d : Nat}

theorem ClaimsWF.mono {pls' : List ServiceReceiptPayload} (hwf : ClaimsWF P pls db)
    (hs : pls ⊆ pls') : ClaimsWF P pls' db :=
  { hwf with known := fun c hc => hs (hwf.known c hc) }

/-- The claim is stored in the outbox under its id. -/
theorem Accepted.mem_claimIds (h : Accepted P pl cp ts db d db')
    (hwf : ClaimsWF P pls db) : receiptSettlementClaimId P pl ∈ db'.claimIds := by
  obtain ⟨row, hc, ho, -⟩ := h.newRow hwf
  refine ReceiptDb.mem_claimIds.2 ⟨newClaim P pl, .inl ⟨row, ?_, hc⟩, rfl⟩
  rw [ho]
  exact Table.mem_put.2 (.inl rfl)

/-- No id is lost: the claim that is overwritten and the one that is deleted have the id of the new one. -/
theorem Accepted.claimIds_subset (h : Accepted P pl cp ts db d db')
    (hwf : ClaimsWF P pls db) : db.claimIds ⊆ db'.claimIds := by
  intro claimId hm
  by_cases hn : claimId = receiptSettlementClaimId P pl
  · rw [hn]
    exact h.mem_claimIds hwf
  · obtain ⟨row, hcl, ho, -⟩ := h.newRow hwf
    have hk : row.streamId = pl.streamId := congrArg (fun c => c.payload.streamId) hcl
    obtain ⟨c, hc, rfl⟩ := ReceiptDb.mem_claimIds.1 hm
    refine ReceiptDb.mem_claimIds.2 ⟨c, ?_, rfl⟩
    rcases hc with ⟨r, hr, rfl⟩ | ⟨a, ha, rfl⟩
    · refine .inl ⟨r, ?_, rfl⟩
      rw [ho]
      refine Table.mem_put.2 (.inr ⟨hr, fun hs => ?_⟩)
      have hf : db.outbox.find cp.streamId = some r := Table.find_eq_some_iff.2 ⟨hr, hs.trans (hk.trans h.stream)⟩
      exact hn (h.pending_claimId hwf hf)
    · refine .inr ⟨a, ?_, rfl⟩
      rw [h.archive']
      exact Table.mem_erase.2 ⟨ha, hn⟩

theorem Confirmed.accept {observed : List ConfirmedSettlementClaim} (hdb : Confirmed observed db)
    (h : Accepted P pl cp ts db d db') : Confirmed observed db' := by
  constructor <;> intro a ha <;> rw [h.archive'] at ha <;> have ha := (Table.mem_erase.1 ha).1
  · exact hdb.latest a ha
  · exact hdb.paid a ha

/-- No two stored claims have the same id. -/
theorem ClaimsWF.nodup_claimIds (hwf : ClaimsWF P pls db) : db.claimIds.Nodup := by
  refine List.nodup_append.2 ⟨?_, db.archive.nodup, ?_⟩
  · exact List.Nodup.map_on hwf.pendingIds (List.Nodup.of_map _ db.outbox.nodup)
  · intro claimId ho claimId' har heq
    obtain ⟨r, hr, rfl⟩ := List.mem_map.1 ho
    obtain ⟨a, ha, rfl⟩ := List.mem_map.1 har
    exact hwf.apart r hr a ha heq

end Accepts

/-! ## Histories -/

structure Conserved (P : Primitives) (h : SettlementHistory) : Prop where
  wf : ∃ payloads, ClaimsWF P payloads h.db
  stored : ∀ claimId ∈ h.accepted, claimId ∈ h.db.claimIds
  confirmed : Confirmed h.observed h.db

namespace Conserved

variable {h : SettlementHistory}

theorem accept (hh : Conserved P h) (c : AcceptCall) : Conserved P (h.step P (.accept c)) := by
  obtain ⟨payloads, hwf⟩ := hh.wf
  cases hr : (c.apply P h.db).1 with
  | error e =>
    have hdb : (c.apply P h.db).2 = h.db := acceptVerifiedReceipt_error hr
    have hs : h.step P (.accept c) = h := by
      simp only [SettlementHistory.step, ReceiptCall.apply, hr, hdb]
    rwa [hs]
  | ok delta =>
    have ha := acceptVerifiedReceipt_ok hr
    have hk := hwf.mono (List.subset_cons_self c.payload payloads)
    refine ⟨⟨c.payload :: payloads, hk.accept ha List.mem_cons_self⟩, ?_, hh.confirmed.accept ha⟩
    intro claimId hm
    simp only [SettlementHistory.step, hr] at hm
    rcases List.mem_cons.1 hm with rfl | hm
    · exact ha.mem_claimIds hwf
    · exact ha.claimIds_subset hwf (hh.stored claimId hm)

theorem reconcile (hh : Conserved P h) (faults : ReconcileFaults) (obs : SettlementChainObservation) :
    Conserved P (h.step P (.reconcile faults obs)) := by
  obtain ⟨payloads, hwf⟩ := hh.wf
  refine ⟨⟨payloads, hwf.reconcile⟩, ?_, ?_⟩
  · intro claimId hm
    obtain ⟨c, hc, hid⟩ := ReceiptDb.mem_claimIds.1 (hh.stored claimId hm)
    exact ReceiptDb.mem_claimIds.2 ⟨c, (holds_reconcileSettlementClaims hwf c).2 hc, hid⟩
  · cases hr : (reconcileSettlementClaims P faults obs h.db).1 with
    | error e =>
      have hdb : (reconcileSettlementClaims P faults obs h.db).2 = h.db := Transaction.atomically_error hr
      simpa only [SettlementHistory.step, ReceiptCall.apply, hr, hdb] using hh.confirmed
    | ok outcome =>
      obtain ⟨-, db₁, hl, hf⟩ := reconcileSettlementClaims_ok hr
      have hco := hh.confirmed.loop hwf hl
      simp only [SettlementHistory.step, ReceiptCall.apply, hr, hf]
      exact ⟨hco.latest, hco.paid⟩

theorem run (re : Table ReceivableRow ReceivableRow.walletAddress) (ca : List ReceiptCall) :
    Conserved P (Run.run (SettlementHistory.step P) (.fresh re) ca) := by
  refine Run.run_invariant (Conserved P) ?_ ⟨⟨[], claimsWF_fresh re⟩, ?_, ?_⟩ ca
  · intro h call hh
    cases call with
    | accept c => exact hh.accept c
    | reconcile faults obs => exact hh.reconcile faults obs
  · intro claimId hm
    cases hm
  · exact ⟨fun a ha => absurd ha List.not_mem_nil, fun a ha => absurd ha List.not_mem_nil⟩

end Conserved

/-- What is promised of the tables after any history, and of the next call on them. -/
structure Lossless (P : Primitives) (h : SettlementHistory) : Prop where
  /-- Every claim id that was ever accepted is stored once, in the outbox or in the archive. -/
  stored : ∀ claimId ∈ h.accepted, h.db.claimIds.count claimId = 1
  /-- An archived claim was last observed with at least its charge. -/
  paid : ∀ row ∈ h.db.archive.rows, ∃ charge, lastObserved h.observed row.claimId = some charge ∧
    row.payload.receipt.cumulativeChargeWei ≤ charge
  /-- A reconciliation stores the claims, with their payloads, that were stored before it. -/
  sameClaims : ∀ faults obs c, (reconcileSettlementClaims P faults obs h.db).2.Holds c ↔ h.db.Holds c
  /-- No call takes the stored block number or confirmation depth back. -/
  forward : ∀ (call : ReceiptCall) stored, h.db.reconciliation = some stored →
    ∃ stored', (call.apply P h.db).reconciliation = some stored' ∧
      stored.observedBlockNumber ≤ stored'.observedBlockNumber ∧ stored.confirmationDepth ≤ stored'.confirmationDepth
  /-- The counters of a successful reconciliation add up to the number of observed claims. -/
  counted : ∀ faults obs outcome, (reconcileSettlementClaims P faults obs h.db).1 = .ok outcome →
    outcome.archivedClaimCount + outcome.restoredClaimCount + outcome.stillPendingClaimCount +
      outcome.revalidatedArchiveCount + outcome.unknownClaimCount = obs.claims.length
  /-- A call that fails changes nothing. -/
  refusedReceipt : ∀ (c : AcceptCall) e, (c.apply P h.db).1 = .error e → (c.apply P h.db).2 = h.db
  refusedObservation : ∀ faults obs e, (reconcileSettlementClaims P faults obs h.db).1 = .error e →
    (reconcileSettlementClaims P faults obs h.db).2 = h.db

/-- **Settlement loses and duplicates nothing**, whatever sequence of calls is made on empty receipt tables,
whatever fails in the database and whatever the chain is observed to hold. -/
theorem settlement_loses_nothing (P : Primitives) (receivables : Table ReceivableRow ReceivableRow.walletAddress)
    (calls : List ReceiptCall) : Lossless P (Run.run (SettlementHistory.step P) (.fresh receivables) calls) := by
  have hc : Conserved P (Run.run (SettlementHistory.step P) (.fresh receivables) calls) := .run receivables calls
  obtain ⟨payloads, hwf⟩ := hc.wf
  refine ⟨?_, ?_, ?_, ?_, ?_, ?_, ?_⟩
  · intro claimId hm
    exact List.count_eq_one_of_mem hwf.nodup_claimIds (hc.stored claimId hm)
  · intro row hro
    exact ⟨_, hc.confirmed.latest row hro, hc.confirmed.paid row hro⟩
  · intro faults obs c
    exact holds_reconcileSettlementClaims hwf c
  · intro call stored hs
    cases call with
    | reconcile faults obs => exact continues_of_reconcile hs
    | accept c =>
      refine ⟨stored, ?_, le_refl _, le_refl _⟩
      cases hr : (c.apply P _).1 with
      | error e => exact (congrArg ReceiptDb.reconciliation (acceptVerifiedReceipt_error hr)).trans hs
      | ok delta => exact (acceptVerifiedReceipt_ok hr).reconciliation'.trans hs
  · intro faults obs outcome hr
    obtain ⟨-, db₁, hl, -⟩ := reconcileSettlementClaims_ok hr
    have hcn := reconcileClaims_claimCount hl
    simpa [claimCount] using hcn
  · intro c e hr
    exact acceptVerifiedReceipt_error hr
  · intro faults obs e hr
    exact Transaction.atomically_error hr

/-- A claim of 10 is accepted, archived when the chain has paid it, and pending again when the chain takes
the payment back. -/
example : (Run.run (SettlementHistory.step .accepting) (.fresh .empty)
    [.accept (sampleAccept 7 1 10), sampleReconcile, .reconcile (fun _ => none)
      ⟨1, 1, 1, 3, 2, 1, [⟨5, 9⟩]⟩]).db.outbox.rows.map
      (·.claimId) = [5] := by
  decide +kernel

end MasqMobile
