import MasqMobile.Settlement.Ledger
import MasqMobile.Settlement.Reconcile

/-!
# Which authorization a stored claim is held against

A charge is booked in two places: the authorization's row adds it to what the nonce has spent (`spentUnder`), and the
claim row carries it as part of a cumulative amount (`claimedUnder`). Checkpoints and claim rows are found by stream,
that is by route, provider and session key, without the nonce. The only guard against a stream changing its
authorization is its pending claim, and a reconciliation moves that claim to the archive.

A reconciliation moves claims between the outbox and the archive and changes no sum over both (`claimTotal`); an
accepted receipt exchanges at most two claims of its own stream for one.
-/

namespace MasqMobile

open Table

variable {P : Primitives} {pls : List ServiceReceiptPayload} {db db' : ReceiptDb}

structure Claim where
  claimId : Bytes32
  authorizationNonce : Bytes32
  payload : ServiceReceiptPayload

def OutboxRow.claim (r : OutboxRow) : Claim := ⟨r.claimId, r.authorizationNonce, r.payload⟩

def ArchiveRow.claim (r : ArchiveRow) : Claim := ⟨r.claimId, r.authorizationNonce, r.payload⟩

def Claim.charge (c : Claim) : Nat := c.payload.receipt.cumulativeChargeWei

def ReceiptDb.Holds (db : ReceiptDb) (c : Claim) : Prop :=
  (∃ r ∈ db.outbox.rows, r.claim = c) ∨ ∃ r ∈ db.archive.rows, r.claim = c

def claimTotal (f : Claim → Nat) (db : ReceiptDb) : Nat :=
  db.outbox.total (fun r => f r.claim) + db.archive.total (fun r => f r.claim)

def chargeUnder (nonce : Bytes32) (c : Claim) : Nat := if c.authorizationNonce = nonce then c.charge else 0

def chargeOn (stream : StreamId) (c : Claim) : Nat := if c.payload.streamId = stream then c.charge else 0

def claimedUnder (db : ReceiptDb) (nonce : Bytes32) : Nat := claimTotal (chargeUnder nonce) db

/-- For every nonce, the claims stored under it add up to what it has spent. -/
def Attributed (db : ReceiptDb) : Prop := ∀ nonce, claimedUnder db nonce = spentUnder db nonce

/-! ## Calls -/

inductive ReceiptCall where
  | accept (c : AcceptCall)
  | reconcile (faults : ReconcileFaults) (obs : SettlementChainObservation)

def ReceiptCall.apply (P : Primitives) (db : ReceiptDb) : ReceiptCall → ReceiptDb
  | .accept c => (c.apply P db).2
  | .reconcile faults obs => (reconcileSettlementClaims P faults obs db).2

def ReceiptCall.payloads : ReceiptCall → List ServiceReceiptPayload
  | .accept c => [c.payload]
  | .reconcile _ _ => []

/-- An archived claim of the receipt's stream that is worth something is under the receipt's nonce. -/
def SameAuthorization (db : ReceiptDb) : ReceiptCall → Prop
  | .accept c => ∀ row ∈ db.archive.rows, row.payload.streamId = c.payload.streamId →
      row.payload.receipt.cumulativeChargeWei ≠ 0 → row.authorizationNonce = c.payload.nonce
  | .reconcile _ _ => True

/-- The claim ids of these payloads do not collide. -/
def NoCollision (P : Primitives) (payloads : List ServiceReceiptPayload) : Prop := ∀ p ∈ payloads, ∀ q ∈ payloads,
    receiptSettlementClaimId P p = receiptSettlementClaimId P q → p.claimIdentity = q.claimIdentity

theorem streamId_of_claimIdentity {p q : ServiceReceiptPayload} (h : p.claimIdentity = q.claimIdentity) :
    p.streamId = q.streamId := by
  simp only [ServiceReceiptPayload.claimIdentity, ClaimIdentity.mk.injEq] at h
  obtain ⟨-, -, -, hs, he, hp, -⟩ := h
  simp only [ServiceReceiptPayload.streamId, hs, he, hp]

/-- The accounting commitment is the one of the payload's route and session key. -/
def Canonical (P : Primitives) (p : ServiceReceiptPayload) : Prop := p.receipt.accountingCommitment =
    makeAccountingCommitment P p.receipt.routeEpoch p.acknowledgedReceipt.payerSessionPublicKey

/-- Two receipts of one stream under one authorization have the same claim id. -/
theorem claimIdentity_eq (ha : p.authorization = q.authorization)
    (hs : p.streamId = q.streamId) (hp : Canonical P p) (hq : Canonical P q) :
    p.claimIdentity = q.claimIdentity := by
  simp only [ServiceReceiptPayload.streamId, Prod.mk.injEq] at hs
  obtain ⟨he, hpr, hse⟩ := hs
  simp only [Canonical] at hp hq
  simp only [ServiceReceiptPayload.claimIdentity, hp, hq, ha, he, hpr, hse]

/-! ## Well-formed claim tables -/

/-- What the code keeps true of the stored claims, whether or not the books agree. -/
structure ClaimsWF (P : Primitives) (payloads : List ServiceReceiptPayload) (db : ReceiptDb) : Prop where
  id : ∀ c, db.Holds c → c.claimId = receiptSettlementClaimId P c.payload
  nonce : ∀ c, db.Holds c → c.authorizationNonce = c.payload.nonce
  known : ∀ c, db.Holds c → c.payload ∈ payloads
  canonical : ∀ c, db.Holds c → Canonical P c.payload
  authorized : ∀ c, db.Holds c →
    ∃ row, db.authorizations.find c.authorizationNonce = some row ∧ row.authorization = c.payload.authorization
  apart : ∀ r ∈ db.outbox.rows, ∀ a ∈ db.archive.rows, r.claimId ≠ a.claimId
  pendingIds : ∀ r ∈ db.outbox.rows, ∀ r' ∈ db.outbox.rows, r.claimId = r'.claimId → r = r'

structure Booked (P : Primitives) (payloads : List ServiceReceiptPayload) (db : ReceiptDb) : Prop
    extends ClaimsWF P payloads db where
  attributed : Attributed db
  onStream : ∀ stream, claimTotal (chargeOn stream) db = checkpointAt db stream

/-! ## A reconciliation moves claims -/

variable {row : ArchiveRow}

section Reconcile

variable {obs : SettlementChainObservation} {cf : ConfirmedSettlementClaim}

/-- The pending claim that is archived is found by its stream. -/
theorem removed_iff_streamId {row : OutboxRow} (hro : row ∈ db.outbox.rows) (hid : row.claimId = cf.claimId) :
    ∀ r ∈ db.outbox.rows, decide (r.claimId = cf.claimId ∧ r.payload = row.payload) = true ↔
      r.streamId = row.streamId := by
  intro r hr
  rw [decide_eq_true_eq]
  constructor
  · rintro ⟨-, hp⟩
    rw [OutboxRow.streamId, hp, OutboxRow.streamId]
  · intro hs
    obtain rfl := List.inj_on_of_nodup_map db.outbox.nodup hr hro hs
    exact ⟨hid, rfl⟩

theorem deletePending_eq_erase {row : OutboxRow} (hr : row ∈ db.outbox.rows) (hid : row.claimId = cf.claimId) :
    db.outbox.deleteWhere (fun r => r.claimId = cf.claimId ∧ r.payload = row.payload) = db.outbox.erase row.streamId :=
  deleteWhere_eq_erase (removed_iff_streamId hr hid)

theorem archived_claim {row : OutboxRow} (hid : row.claimId = cf.claimId) :
    (row.archived obs cf).claim = row.claim := by
  simp only [OutboxRow.archived, ArchiveRow.claim, OutboxRow.claim, hid]

theorem restored_claim (hid : row.claimId = cf.claimId) : (row.restored cf).claim = row.claim := by
  simp only [ArchiveRow.restored, ArchiveRow.claim, OutboxRow.claim, hid]

section

variable (h : ReconcileStep P obs cf db db')
include h

/-- No sum over the stored claims changes. -/
theorem ReconcileStep.claimTotal_eq (hwf : ClaimsWF P pls db)
    (f : Claim → Nat) : claimTotal f db' = claimTotal f db := by
  cases h with
  | same => rfl
  | archived row hr hid _ =>
    have hd := total_erase (fun r => f r.claim) db.outbox row.streamId
    have hp := total_put (fun r => f r.claim) db.archive (row.archived obs cf)
    rw [valueAt_of_mem _ hr] at hd
    rw [archived_claim hid, valueAt_of_forall_ne _ fun a ha => ?_] at hp
    · simp only [claimTotal, deletePending_eq_erase hr hid]
      omega
    · exact fun heq => hwf.apart row hr a ha (hid.trans heq.symm)
  | restored row hr _ _ hs =>
    obtain ⟨hm, hid⟩ := find_eq_some_iff.1 hr
    have hd := total_erase (fun r => f r.claim) db.archive cf.claimId
    have hp := total_put (fun r => f r.claim) db.outbox (row.restored cf)
    rw [← hid, valueAt_of_mem _ hm] at hd
    have hf : db.outbox.valueAt (fun r => f r.claim) (row.restored cf).streamId = 0 := valueAt_of_forall_ne _ hs
    rw [restored_claim hid, hf] at hp
    simp only [claimTotal, ← hid]
    omega
  | revalidated row hr _ =>
    obtain ⟨hm, hid⟩ := find_eq_some_iff.1 hr
    have hp := total_put (fun r => f r.claim) db.archive (row.revalidated obs cf)
    have hk : (row.revalidated obs cf).claimId = row.claimId := rfl
    have hc : (row.revalidated obs cf).claim = row.claim := rfl
    rw [hk, hc, valueAt_of_mem _ hm] at hp
    simp only [claimTotal]
    omega

/-- Every claim stored after the turn was stored before it. -/
theorem ReconcileStep.holds (hc : db'.Holds c) : db.Holds c := by
  cases h with
  | same => exact hc
  | archived row hro hid _ =>
    rcases hc with ⟨r, hr, rfl⟩ | ⟨a, ha, rfl⟩
    · rw [deletePending_eq_erase hro hid, mem_erase] at hr
      exact .inl ⟨r, hr.1, rfl⟩
    · rcases mem_put.1 ha with rfl | ⟨ha, -⟩
      · exact .inl ⟨_, hro, (archived_claim hid).symm⟩
      · exact .inr ⟨a, ha, rfl⟩
  | restored row hro _ _ _ =>
    obtain ⟨hm, hid⟩ := find_eq_some_iff.1 hro
    rcases hc with ⟨r, hr, rfl⟩ | ⟨a, ha, rfl⟩
    · rcases mem_put.1 hr with rfl | ⟨hr, -⟩
      · exact .inr ⟨_, hm, (restored_claim hid).symm⟩
      · exact .inl ⟨r, hr, rfl⟩
    · exact .inr ⟨a, (mem_erase.1 ha).1, rfl⟩
  | revalidated row hro _ =>
    obtain ⟨hm, -⟩ := find_eq_some_iff.1 hro
    rcases hc with hc | ⟨a, ha, rfl⟩
    · exact .inl hc
    · rcases mem_put.1 ha with rfl | ⟨ha, -⟩
      · exact .inr ⟨_, hm, rfl⟩
      · exact .inr ⟨a, ha, rfl⟩

/-- The claim ids stay pairwise distinct over both tables. -/
theorem ReconcileStep.ids (hwf : ClaimsWF P pls db) :
    (∀ r ∈ db'.outbox.rows, ∀ a ∈ db'.archive.rows, r.claimId ≠ a.claimId) ∧
      ∀ r ∈ db'.outbox.rows, ∀ r' ∈ db'.outbox.rows, r.claimId = r'.claimId → r = r' := by
  cases h with
  | same => exact ⟨hwf.apart, hwf.pendingIds⟩
  | archived row hro hid _ =>
    rw [deletePending_eq_erase hro hid]
    constructor
    · intro r hr a ha heq
      obtain ⟨hr, hs⟩ := mem_erase.1 hr
      rcases mem_put.1 ha with rfl | ⟨ha, -⟩
      · exact hs (congrArg OutboxRow.streamId (hwf.pendingIds r hr row hro (heq.trans hid.symm)))
      · exact hwf.apart r hr a ha heq
    · intro r hr r' hr'
      exact hwf.pendingIds r (mem_erase.1 hr).1 r' (mem_erase.1 hr').1
  | restored row hro _ hf _ =>
    constructor
    · intro r hr a ha heq
      obtain ⟨ha, hne⟩ := mem_erase.1 ha
      rcases mem_put.1 hr with rfl | ⟨hr, -⟩
      · exact hne heq.symm
      · exact hwf.apart r hr a ha heq
    · intro r hr r' hr' heq
      rcases mem_put.1 hr with rfl | ⟨hr, -⟩ <;> rcases mem_put.1 hr' with rfl | ⟨hr', -⟩
      · rfl
      · exact absurd heq.symm (hf r' hr')
      · exact absurd heq (hf r hr)
      · exact hwf.pendingIds r hr r' hr' heq
  | revalidated row hro _ =>
    obtain ⟨hm, -⟩ := find_eq_some_iff.1 hro
    refine ⟨fun r hr a ha => ?_, hwf.pendingIds⟩
    rcases mem_put.1 ha with rfl | ⟨ha, -⟩
    · exact hwf.apart r hr row hm
    · exact hwf.apart r hr a ha

theorem ReconcileStep.frame : db'.authorizations = db.authorizations ∧ db'.checkpoints = db.checkpoints := by
  cases h <;> exact ⟨rfl, rfl⟩

theorem ClaimsWF.reconcileStep (hwf : ClaimsWF P pls db) : ClaimsWF P pls db' := by
  obtain ⟨hau, -⟩ := h.frame
  obtain ⟨ha, hid⟩ := h.ids hwf
  exact {
    id := fun c hc => hwf.id c (h.holds hc)
    nonce := fun c hc => hwf.nonce c (h.holds hc)
    known := fun c hc => hwf.known c (h.holds hc)
    canonical := fun c hc => hwf.canonical c (h.holds hc)
    authorized := fun c hc => by
      rw [hau]
      exact hwf.authorized c (h.holds hc)
    apart := ha
    pendingIds := hid }

theorem Booked.reconcileStep (hdb : Booked P pls db) : Booked P pls db' := by
  obtain ⟨ha, hc⟩ := h.frame
  have ht := h.claimTotal_eq hdb.toClaimsWF
  refine { hdb.toClaimsWF.reconcileStep h with attributed := fun nonce => ?_, onStream := fun stream => ?_ }
  · rw [claimedUnder, ht, spentUnder, ha]
    exact hdb.attributed nonce
  · rw [ht, checkpointAt, hc]
    exact hdb.onStream stream

end

theorem Booked.reconcile (hdb : Booked P pls db) (f : ReconcileFaults) :
    Booked P pls (reconcileSettlementClaims P f obs db).2 :=
  reconcile_invariant (Booked P pls) (fun _ _ _ hdb h => hdb.reconcileStep h) (fun _ _ hdb => { hdb with }) hdb

end Reconcile

/-! ## An accepted receipt replaces the claims of its stream -/

/-- The claim an accepted payload is stored as. -/
def newClaim (P : Primitives) (payload : ServiceReceiptPayload) : Claim :=
  ⟨receiptSettlementClaimId P payload, payload.nonce, payload⟩

theorem chargeUnder_newClaim :
    chargeUnder non (newClaim P payload) = if payload.nonce = non then payload.receipt.cumulativeChargeWei else 0 :=
  rfl

theorem chargeOn_newClaim :
    chargeOn st (newClaim P payload) = if payload.streamId = st then payload.receipt.cumulativeChargeWei else 0 :=
  rfl

/-- What `f` is worth on the claims that accepting `payload` overwrites or deletes: the pending claim
of its stream and the archived claim with its id. -/
def replaced (P : Primitives) (payload : ServiceReceiptPayload) (f : Claim → Nat) (db : ReceiptDb) : Nat :=
  db.outbox.valueAt (fun r => f r.claim) payload.streamId +
    db.archive.valueAt (fun r => f r.claim) (receiptSettlementClaimId P payload)

section Accept

variable {payload : ServiceReceiptPayload} {cp : ReceiptSequenceCheckpoint} {ts delta : Nat}

section

variable (h : Accepted P payload cp ts db delta db')
include h

/-- A pending claim of the stream already has the id of the new one. -/
theorem Accepted.pending_claimId
    (hwf : ClaimsWF P pls db) {old : OutboxRow} (ho : db.outbox.find cp.streamId = some old) :
    old.claimId = receiptSettlementClaimId P payload := by
  obtain ⟨hm, hk⟩ := find_eq_some_iff.1 ho
  obtain ⟨ha, -, hid⟩ := h.pending old ho
  have hs : old.payload.claimIdentity = payload.claimIdentity :=
    claimIdentity_eq ha (hk.trans h.stream.symm) (hwf.canonical old.claim (.inl ⟨old, hm, rfl⟩)) h.commitment
  rw [hid, receiptSettlementClaimId, hs, receiptSettlementClaimId]

/-- The row written to the outbox: the new claim, under an id that no other pending claim has. -/
theorem Accepted.newRow (hwf : ClaimsWF P pls db) :
    ∃ row, row.claim = newClaim P payload ∧ db'.outbox = db.outbox.put row ∧
      ∀ r ∈ db.outbox.rows, r.streamId ≠ payload.streamId → r.claimId ≠ receiptSettlementClaimId P payload := by
  obtain ⟨row, hro, hou⟩ := h.outbox'
  cases ho : db.outbox.find cp.streamId with
  | some old =>
    obtain ⟨hm, hk⟩ := find_eq_some_iff.1 ho
    have hid := h.pending_claimId hwf ho
    rw [ho] at hro
    obtain rfl := Except.ok.inj hro
    refine ⟨_, ?_, hou, fun r hr hs heq => ?_⟩
    · simp only [OutboxRow.claim, newClaim, hid, (h.pending old ho).2.1]
    · obtain rfl := hwf.pendingIds r hr old hm (heq.trans hid.symm)
      exact hs (hk.trans h.stream.symm)
  | none =>
    rw [ho] at hro
    simp only [claimRow, Fallible.bind_eq_ok, Fallible.failIf_eq_ok, Fallible.pure_eq_ok,
      Bool.not_eq_true, List.any_eq_false, decide_eq_true_eq] at hro
    obtain ⟨_, hf, rfl⟩ := hro
    exact ⟨_, rfl, hou, fun r hr _ => hf r hr⟩

theorem Accepted.claimTotal_eq (hwf : ClaimsWF P pls db) (f : Claim → Nat) :
    claimTotal f db' + replaced P payload f db = claimTotal f db + f (newClaim P payload) := by
  obtain ⟨row, hc, ho, -⟩ := h.newRow hwf
  have hp := total_put (fun r => f r.claim) db.outbox row
  have hd := total_erase (fun r => f r.claim) db.archive (receiptSettlementClaimId P payload)
  have hk : row.streamId = payload.streamId := congrArg (fun c => c.payload.streamId) hc
  rw [hc, hk] at hp
  simp only [claimTotal, replaced, ho, h.archive']
  omega

/-- The claims stored after the call: the new one, and others that were stored before. -/
theorem Accepted.holds (hwf : ClaimsWF P pls db) (hc : db'.Holds c) : c = newClaim P payload ∨ db.Holds c := by
  obtain ⟨row, hcl, ho, -⟩ := h.newRow hwf
  rcases hc with ⟨r, hr, rfl⟩ | ⟨a, ha, rfl⟩
  · rw [ho] at hr
    rcases mem_put.1 hr with rfl | ⟨hr, -⟩
    · exact .inl hcl
    · exact .inr (.inl ⟨r, hr, rfl⟩)
  · rw [h.archive'] at ha
    exact .inr (.inr ⟨a, (mem_erase.1 ha).1, rfl⟩)

theorem ClaimsWF.accept (hwf : ClaimsWF P pls db) (hkn : payload ∈ pls) : ClaimsWF P pls db' := by
  obtain ⟨row, hcl, hou, hf⟩ := h.newRow hwf
  have hid : row.claimId = receiptSettlementClaimId P payload := congrArg Claim.claimId hcl
  have hk : row.streamId = payload.streamId := congrArg (fun c => c.payload.streamId) hcl
  have hall : ∀ {Q : Claim → Prop}, Q (newClaim P payload) → (∀ c, db.Holds c → Q c) → ∀ c, db'.Holds c → Q c := by
    intro Q hn ho c hc
    rcases h.holds hwf hc with rfl | hc
    exacts [hn, ho c hc]
  refine ⟨hall rfl hwf.id, hall rfl hwf.nonce, hall hkn hwf.known, hall h.commitment hwf.canonical, ?_, ?_, ?_⟩
  · refine hall ?_ fun c hc => ?_ <;> rw [h.findAuthorization]
    · exact ⟨_, if_pos rfl, rfl⟩
    · obtain ⟨row, hro, hs⟩ := hwf.authorized c hc
      split
      · rename_i hn
        refine ⟨_, rfl, ?_⟩
        rw [← hn] at hro
        exact (h.authorization row hro).symm.trans hs
      · exact ⟨row, hro, hs⟩
  · intro r hr a ha
    rw [hou] at hr
    rw [h.archive'] at ha
    obtain ⟨ha, hne⟩ := mem_erase.1 ha
    rcases mem_put.1 hr with rfl | ⟨hr, -⟩
    · rw [hid]
      exact hne.symm
    · exact hwf.apart r hr a ha
  · intro r hr r' hr' heq
    rw [hou] at hr hr'
    rcases mem_put.1 hr with rfl | ⟨ho, hne⟩ <;> rcases mem_put.1 hr' with rfl | ⟨ho', hne'⟩
    · rfl
    · exact absurd (heq.symm.trans hid) (hf r' ho' (hk ▸ hne'))
    · exact absurd (heq.trans hid) (hf r ho (hk ▸ hne))
    · exact hwf.pendingIds r ho r' ho' heq

end

/-- The archived claim that is deleted belongs to the stream: this is where ids must not collide. -/
theorem ClaimsWF.archived_stream (hwf : ClaimsWF P pls db) (hids : NoCollision P pls)
    (hkn : payload ∈ pls) (hr : db.archive.find (receiptSettlementClaimId P payload) = some row) :
    row.payload.streamId = payload.streamId := by
  obtain ⟨hm, hk⟩ := find_eq_some_iff.1 hr
  have hh : db.Holds row.claim := .inr ⟨row, hm, rfl⟩
  have hid : row.claimId = receiptSettlementClaimId P row.payload := hwf.id _ hh
  exact streamId_of_claimIdentity (hids _ (hwf.known _ hh) _ hkn (hid.symm.trans hk))

theorem replaced_zero : replaced P payload (fun _ => 0) db = 0 := by
  rw [replaced, valueAt, valueAt]
  cases db.outbox.find payload.streamId <;> cases db.archive.find (receiptSettlementClaimId P payload) <;> rfl

/-- The replaced claims are worth the same to two functions that agree on the stream. -/
theorem ClaimsWF.replaced_congr (hwf : ClaimsWF P pls db) (hid : NoCollision P pls)
    (hkn : payload ∈ pls) {f g : Claim → Nat}
    (hfg : ∀ c, db.Holds c → c.payload.streamId = payload.streamId → f c = g c) :
    replaced P payload f db = replaced P payload g db := by
  have ho : db.outbox.valueAt (fun r => f r.claim) payload.streamId =
      db.outbox.valueAt (fun r => g r.claim) payload.streamId := by
    unfold valueAt
    cases hr : db.outbox.find payload.streamId with
    | none => rfl
    | some row =>
      obtain ⟨hm, hk⟩ := find_eq_some_iff.1 hr
      exact hfg row.claim (.inl ⟨row, hm, rfl⟩) hk
  have ha : db.archive.valueAt (fun r => f r.claim) (receiptSettlementClaimId P payload) =
      db.archive.valueAt (fun r => g r.claim) (receiptSettlementClaimId P payload) := by
    unfold valueAt
    cases hr : db.archive.find (receiptSettlementClaimId P payload) with
    | none => rfl
    | some row =>
      obtain ⟨hm, -⟩ := find_eq_some_iff.1 hr
      exact hfg row.claim (.inr ⟨row, hm, rfl⟩) (hwf.archived_stream hid hkn hr)
  rw [replaced, replaced, ho, ha]

section

variable (h : Accepted P payload cp ts db delta db')
include h

theorem Accepted.checkpointAt_eq :
    checkpointAt db' st = checkpointAt db st + if payload.streamId = st then delta else 0 := by
  rw [checkpointAt, valueAt, h.checkpoints', h.stream]
  by_cases hs : cp.streamId = st
  · subst hs
    rw [find_put_self, if_pos rfl, h.delta_eq]
    rfl
  · rw [find_put_of_ne _ hs, if_neg hs, add_zero]
    rfl

section

variable
  (hsa : ∀ row ∈ db.archive.rows, row.payload.streamId = payload.streamId →
    row.payload.receipt.cumulativeChargeWei ≠ 0 → row.authorizationNonce = payload.nonce)
include hsa

/-- Under `SameAuthorization` the stream's claims that are worth something are exactly those replaced. -/
theorem Booked.replaced_chargeOn (hdb : Booked P pls db) :
    replaced P payload (chargeOn payload.streamId) db = claimTotal (chargeOn payload.streamId) db := by
  have hou := total_erase (fun r => chargeOn payload.streamId r.claim) db.outbox payload.streamId
  have har := total_erase (fun r => chargeOn payload.streamId r.claim) db.archive (receiptSettlementClaimId P payload)
  have ho : (db.outbox.erase payload.streamId).total (fun r => chargeOn payload.streamId r.claim) = 0 :=
    total_eq_zero fun r hr => if_neg (mem_erase.1 hr).2
  -- what is left in the archive is of other streams or worth nothing: a claim of this stream under this
  -- nonce has the deleted id
  have hre : (db.archive.erase (receiptSettlementClaimId P payload)).total
      (fun r => chargeOn payload.streamId r.claim) = 0 := by
    refine total_eq_zero fun a ha => ?_
    obtain ⟨ha, hne⟩ := mem_erase.1 ha
    have hh : db.Holds a.claim := .inr ⟨a, ha, rfl⟩
    by_contra hw
    have hs : a.payload.streamId = payload.streamId := by
      by_contra ho
      exact hw (if_neg ho)
    have hc : a.payload.receipt.cumulativeChargeWei ≠ 0 := by
      rw [chargeOn] at hw
      rwa [if_pos (show a.claim.payload.streamId = payload.streamId from hs)] at hw
    obtain ⟨row, hro, hau⟩ := hdb.authorized _ hh
    have hn : a.claim.authorizationNonce = payload.nonce := hsa a ha hs hc
    rw [hn] at hro
    have hide : a.payload.claimIdentity = payload.claimIdentity :=
      claimIdentity_eq (hau.symm.trans (h.authorization row hro)) hs (hdb.canonical _ hh) h.commitment
    have hid : a.claimId = receiptSettlementClaimId P a.payload := hdb.id _ hh
    rw [receiptSettlementClaimId, hide] at hid
    exact hne hid
  simp only [replaced, claimTotal]
  omega

/-- The replaced claims that are worth something are all under the receipt's nonce. -/
theorem Booked.replaced_chargeUnder (hdb : Booked P pls db) (hid : NoCollision P pls)
    (hk : payload ∈ pls) (non : Bytes32) :
    replaced P payload (chargeUnder non) db =
      if payload.nonce = non then replaced P payload (chargeOn payload.streamId) db else 0 := by
  have hu : ∀ c, db.Holds c → c.payload.streamId = payload.streamId → c.charge ≠ 0 →
      c.authorizationNonce = payload.nonce := by
    rintro c (⟨r, hr, rfl⟩ | ⟨a, ha, rfl⟩) hs hch
    · exact (h.pending r (find_eq_some_iff.2 ⟨hr, hs.trans h.stream⟩)).2.1
    · exact hsa a ha hs hch
  by_cases hn : payload.nonce = non
  · rw [if_pos hn]
    refine hdb.replaced_congr hid hk fun c hc hs => ?_
    rw [chargeUnder, chargeOn, if_pos hs]
    by_cases hch : c.charge = 0
    · simp [hch]
    · rw [if_pos ((hu c hc hs hch).trans hn)]
  · rw [if_neg hn]
    have hz : replaced P payload (chargeUnder non) db = replaced P payload (fun _ => 0) db := by
      refine hdb.replaced_congr hid hk fun c hc hs => ?_
      rw [chargeUnder]
      by_cases hch : c.charge = 0
      · simp [hch]
      · rw [if_neg fun heq => hn ((hu c hc hs hch).symm.trans heq)]
    rw [hz, replaced_zero]

/-- An accepted receipt under the nonce of its stream's archived claims keeps the books in agreement. -/
theorem Booked.accept (hdb : Booked P pls db) (hid : NoCollision P pls) (hk : payload ∈ pls) : Booked P pls db' := by
  have hr := hdb.replaced_chargeOn h hsa
  rw [hdb.onStream] at hr
  have hd : checkpointAt db payload.streamId + delta = payload.receipt.cumulativeChargeWei := by
    rw [h.stream, h.charge, h.delta_eq]
  refine { hdb.toClaimsWF.accept h hk with attributed := fun nonce => ?_, onStream := fun stream => ?_ }
  · have ht := h.claimTotal_eq hdb.toClaimsWF (chargeUnder nonce)
    have hb : claimTotal (chargeUnder nonce) db = spentUnder db nonce := hdb.attributed nonce
    rw [hdb.replaced_chargeUnder h hsa hid hk, hr, hb, chargeUnder_newClaim] at ht
    rw [h.spentUnder_eq, claimedUnder]
    by_cases hn : payload.nonce = nonce
    · rw [if_pos hn] at ht ⊢
      rw [if_pos hn] at ht
      omega
    · rw [if_neg hn] at ht ⊢
      rwa [if_neg hn] at ht
  · have ht := h.claimTotal_eq hdb.toClaimsWF (chargeOn stream)
    rw [hdb.onStream, chargeOn_newClaim] at ht
    rw [h.checkpointAt_eq]
    by_cases hs : payload.streamId = stream
    · subst hs
      rw [if_pos rfl] at ht ⊢
      omega
    · have hno : replaced P payload (chargeOn stream) db = replaced P payload (fun _ => 0) db :=
        hdb.replaced_congr hid hk fun c _ hc => if_neg fun heq => hs (hc.symm.trans heq)
      rw [hno, replaced_zero, if_neg hs] at ht
      rwa [if_neg hs]

end

end

theorem replaced_le_claimTotal (P : Primitives) (payload : ServiceReceiptPayload) (f : Claim → Nat) (db : ReceiptDb) :
    replaced P payload f db ≤ claimTotal f db :=
  Nat.add_le_add (valueAt_le_total _ _ _) (valueAt_le_total _ _ _)

/-- An archived claim under another nonce keeps its share of the stream's total out of reach of `nonce`. -/
theorem claimTotal_add_charge_le {non : Bytes32} (hr : row ∈ db.archive.rows)
    (hs : row.payload.streamId = st) (hn : row.authorizationNonce ≠ non) :
    claimTotal (fun c => if c.payload.streamId = st then chargeUnder non c else 0) db + row.claim.charge ≤
      claimTotal (chargeOn st) db := by
  have hle : ∀ c : Claim, (if c.payload.streamId = st then chargeUnder non c else 0) ≤ chargeOn st c := by
    intro c
    by_cases hc : c.payload.streamId = st
    · rw [if_pos hc, chargeOn, if_pos hc, chargeUnder]
      split <;> simp
    · rw [if_neg hc]
      exact Nat.zero_le _
  have hp := total_erase (fun r : ArchiveRow =>
    if r.claim.payload.streamId = st then chargeUnder non r.claim else 0) db.archive row.claimId
  have hw := total_erase (fun r : ArchiveRow => chargeOn st r.claim) db.archive row.claimId
  rw [valueAt_of_mem _ hr, chargeUnder, if_neg (show row.claim.authorizationNonce ≠ non from hn), ite_self] at hp
  rw [valueAt_of_mem _ hr, chargeOn, if_pos (show row.claim.payload.streamId = st from hs)] at hw
  have ho := total_le_total (t := db.outbox) fun r _ => hle r.claim
  have ha := total_le_total (t := db.archive.erase row.claimId) fun r _ => hle r.claim
  simp only [claimTotal]
  omega

/-- An accepted receipt under another nonce than an archived claim of its stream exports that claim's
charge a second time. -/
theorem Booked.accept_breaks (hdb : Booked P pls db) (hid : NoCollision P pls)
    (hk : payload ∈ pls) (h : Accepted P payload cp ts db delta db') (hr : row ∈ db.archive.rows)
      (hst : row.payload.streamId = payload.streamId)
    (hch : row.payload.receipt.cumulativeChargeWei ≠ 0) (hn : row.authorizationNonce ≠ payload.nonce) :
    ¬Attributed db' := by
  intro ha
  have ht := h.claimTotal_eq hdb.toClaimsWF (chargeUnder payload.nonce)
  have hre : replaced P payload (chargeUnder payload.nonce) db =
      replaced P payload (fun c => if c.payload.streamId = payload.streamId then chargeUnder payload.nonce c else 0) db :=
    hdb.replaced_congr hid hk fun c _ hc => (if_pos hc).symm
  have hle := replaced_le_claimTotal P payload
    (fun c => if c.payload.streamId = payload.streamId then chargeUnder payload.nonce c else 0) db
  have hs := claimTotal_add_charge_le hr hst hn
  have hb : claimTotal (chargeUnder payload.nonce) db = spentUnder db payload.nonce := hdb.attributed _
  have hbo : claimTotal (chargeUnder payload.nonce) db' = spentUnder db payload.nonce + delta := by
    rw [← claimedUnder, ha, h.spentUnder_eq, if_pos rfl]
  have hd : checkpointAt db payload.streamId + delta = payload.receipt.cumulativeChargeWei := by
    rw [h.stream, h.charge, h.delta_eq]
  have hne : chargeUnder payload.nonce (newClaim P payload) = payload.receipt.cumulativeChargeWei := if_pos rfl
  have hw : row.claim.charge = row.payload.receipt.cumulativeChargeWei := rfl
  rw [hdb.onStream] at hs
  omega

end Accept

/-! ## Runs -/

section Runs

/-- A call with a known payload that meets `SameAuthorization` keeps the books in agreement. -/
theorem Booked.call (hdb : Booked P pls db) (hid : NoCollision P pls) (call : ReceiptCall)
    (hk : ∀ p ∈ call.payloads, p ∈ pls) (hs : SameAuthorization db call) :
    Booked P pls (call.apply P db) := by
  cases call with
  | reconcile faults obs => exact hdb.reconcile faults
  | accept c =>
    cases h : (c.apply P db).1 with
    | error e =>
      have hdb' : (c.apply P db).2 = db := acceptVerifiedReceipt_error h
      rwa [ReceiptCall.apply, hdb']
    | ok delta => exact hdb.accept (acceptVerifiedReceipt_ok h) hs hid (hk _ (List.mem_singleton_self _))

theorem claimsWF_fresh (re : Table ReceivableRow ReceivableRow.walletAddress) : ClaimsWF P pls (.fresh re) := by
  constructor <;> simp [ReceiptDb.Holds, ReceiptDb.fresh]

theorem booked_fresh (re : Table ReceivableRow ReceivableRow.walletAddress) : Booked P pls (.fresh re) :=
  { claimsWF_fresh re with attributed := fun _ => rfl, onStream := fun _ => rfl }

theorem Booked.run (hdb : Booked P pls db) (hid : NoCollision P pls)
    (hk : ∀ p ∈ c.flatMap ReceiptCall.payloads, p ∈ pls)
    (h : Run.Along (ReceiptCall.apply P) SameAuthorization db c) :
    Booked P pls (Run.run (ReceiptCall.apply P) db c) := by
  induction c generalizing db with
  | nil => exact hdb
  | cons call c ih =>
    simp only [List.flatMap_cons, List.mem_append] at hk
    exact ih (hdb.call hid call (fun p hp => hk p (.inl hp)) h.1) (fun p hp => hk p (.inr hp)) h.2

end Runs

/-- **Attribution.** Let the claim ids of the presented payloads not collide. In every run from empty
receipt tables in which each receipt is under the nonce of the archived claims of its stream that are
worth something, the claims stored under every nonce add up to what it has spent, in every state on the
way. And the first receipt to be accepted otherwise leaves a state in which they do not. -/
theorem claims_follow_authorization (P : Primitives) (receivables : Table ReceivableRow ReceivableRow.walletAddress)
    (calls : List ReceiptCall) (hids : NoCollision P (calls.flatMap ReceiptCall.payloads)) :
    (Run.Along (ReceiptCall.apply P) SameAuthorization (.fresh receivables) calls →
      ∀ before after, calls = before ++ after →
        Attributed (Run.run (ReceiptCall.apply P) (.fresh receivables) before)) ∧
    ∀ before c after delta, calls = before ++ .accept c :: after →
      Run.Along (ReceiptCall.apply P) SameAuthorization (.fresh receivables) before →
      ¬SameAuthorization (Run.run (ReceiptCall.apply P) (.fresh receivables) before) (.accept c) →
      (c.apply P (Run.run (ReceiptCall.apply P) (.fresh receivables) before)).1 = .ok delta →
      ¬Attributed (Run.run (ReceiptCall.apply P) (.fresh receivables) (before ++ [.accept c])) := by
  have hk : ∀ before after : List ReceiptCall, ∀ p ∈ before.flatMap ReceiptCall.payloads,
      p ∈ (before ++ after).flatMap ReceiptCall.payloads := by
    intro before after p hp
    rw [List.flatMap_append]
    exact List.mem_append_left _ hp
  constructor
  · rintro ha before after rfl
    exact ((booked_fresh receivables).run hids (hk before after) (Run.along_append.1 ha).1).attributed
  · rintro before c after delta rfl ha ho hok
    have hb := (booked_fresh receivables).run hids (hk before _) ha
    simp only [SameAuthorization, not_forall] at ho
    obtain ⟨row, hr, hs, hc, hn⟩ := ho
    rw [Run.run_append]
    exact hb.accept_breaks hids (by simp [ReceiptCall.payloads]) (acceptVerifiedReceipt_ok hok) hr hs hc hn

/-! ## One stream under one and under two authorizations -/

/-- An acknowledged receipt of route 5 and provider `[9]` for the payer session `[8]`. -/
def samplePayload (nonce : Bytes32) (sequence cumulativeChargeWei : Nat) : ServiceReceiptPayload where
  authorization := ⟨⟨1, 1, 1, 1, [8], 100, 0, 1000, nonce⟩, ⟨0, 1, 1⟩⟩
  acknowledgedReceipt := ⟨⟨⟨1, 5, sequence, .exit, [9], 1, 0, 0, 0, 0, cumulativeChargeWei⟩, [0]⟩, [8], [0]⟩

def sampleAccept (nonce : Bytes32) (sequence cumulativeChargeWei : Nat) : AcceptCall where
  payload := samplePayload nonce sequence cumulativeChargeWei
  checkpoint := ⟨5, [9], 1, [8], sequence, cumulativeChargeWei⟩
  timestamp := 0
  faults _ := none

/-- The chain confirms 10 for the claim of route 5 at depth 1. -/
def sampleReconcile : ReceiptCall := .reconcile (fun _ => none) ⟨1, 1, 1, 2, 1, 1, [⟨5, 10⟩]⟩

/-- A claim of 10 is archived, then the stream goes on to 25 under the nonce `second`. -/
def sampleRun (second : Bytes32) : List ReceiptCall :=
  [.accept (sampleAccept 7 1 10), sampleReconcile, .accept (sampleAccept second 2 25)]

def sampleDb (second : Bytes32) : ReceiptDb := Run.run (ReceiptCall.apply .accepting) (.fresh .empty) (sampleRun second)

/-- With a second authorization of the same payer every call succeeds, the archived claim of the first
is deleted, and the second is asked for 25 where it has spent 15. -/
theorem claims_follow_authorization_fails : NoCollision .accepting ((sampleRun 6).flatMap ReceiptCall.payloads) ∧
    (spentUnder (sampleDb 6) 7 = 10 ∧ claimedUnder (sampleDb 6) 7 = 0) ∧
    (spentUnder (sampleDb 6) 6 = 15 ∧ claimedUnder (sampleDb 6) 6 = 25) ∧ ¬Attributed (sampleDb 6) := by
  have hf : spentUnder (sampleDb 6) 7 = 10 ∧ claimedUnder (sampleDb 6) 7 = 0 := by decide +kernel
  have hid : NoCollision .accepting ((sampleRun 6).flatMap ReceiptCall.payloads) := by
    unfold NoCollision
    decide +kernel
  refine ⟨hid, hf, by decide +kernel, fun h => ?_⟩
  have he := h 7
  omega

theorem claims_follow_authorization_sample :
    (spentUnder (sampleDb 7) 7 = 25 ∧ (sampleDb 7).outbox.rows.length = 1) ∧ Attributed (sampleDb 7) := by
  refine ⟨by decide +kernel, ?_⟩
  have hid : NoCollision .accepting ((sampleRun 7).flatMap ReceiptCall.payloads) := by
    unfold NoCollision
    decide +kernel
  have ha : Run.Along (ReceiptCall.apply .accepting) SameAuthorization (.fresh .empty) (sampleRun 7) := by
    refine ⟨?_, trivial, ?_, trivial⟩
    · simp [SameAuthorization, ReceiptDb.fresh]
    · unfold SameAuthorization
      decide +kernel
  exact (claims_follow_authorization .accepting .empty (sampleRun 7) hid).1 ha (sampleRun 7) [] (by simp)

theorem checkpointAt_le_run (calls : List ReceiptCall) :
    checkpointAt db st ≤ checkpointAt (Run.run (ReceiptCall.apply P) db calls) st := by
  refine Run.run_invariant (checkpointAt db st ≤ checkpointAt · st) (fun db call h => h.trans ?_) le_rfl calls
  cases call with
  | reconcile =>
    refine reconcile_invariant (checkpointAt db st ≤ checkpointAt · st) (fun _ _ _ h hst => ?_) (fun _ _ h => h) le_rfl
    simpa only [checkpointAt, hst.frame.2] using h
  | accept c =>
    cases hr : (c.apply P db).1 with
    | error e => rw [ReceiptCall.apply, show (c.apply P db).2 = db from acceptVerifiedReceipt_error hr]
    | ok delta => exact (Nat.le_add_right _ _).trans_eq (acceptVerifiedReceipt_ok hr).checkpointAt_eq.symm

/-- **A receipt is charged once.** Whatever calls follow an accepted receipt, a later one of its stream is charged at
most its increase. -/
theorem receipt_charged_once (P : Primitives) (db : ReceiptDb) (c c' : AcceptCall) (calls : List ReceiptCall)
    (delta delta' : Nat) (hs : c'.checkpoint.streamId = c.checkpoint.streamId) (hc : (c.apply P db).1 = .ok delta)
    (hc' : (c'.apply P (Run.run (ReceiptCall.apply P) (c.apply P db).2 calls)).1 = .ok delta') :
    c.checkpoint.cumulativeChargeWei + delta' ≤ c'.checkpoint.cumulativeChargeWei := by
  have ha := acceptVerifiedReceipt_ok hc
  have hw := ha.checkpointAt_eq.trans (by rw [if_pos ha.stream, ha.delta_eq])
  rw [← (acceptVerifiedReceipt_ok hc').delta_eq, hs]
  exact Nat.add_le_add_right (hw.ge.trans (checkpointAt_le_run calls)) _

theorem receipt_charged_once_sample : (sampleAccept 7 1 10).checkpoint.cumulativeChargeWei + 15 ≤
    (sampleAccept 7 2 25).checkpoint.cumulativeChargeWei :=
  receipt_charged_once .accepting (.fresh .empty) _ _ [sampleReconcile] 10 15 rfl (by decide +kernel) (by decide +kernel)

end MasqMobile
