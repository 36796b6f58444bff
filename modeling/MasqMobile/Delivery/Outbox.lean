import MasqMobile.Lib.Database
import MasqMobile.Lib.Newest
import MasqMobile.Lib.Run
import MasqMobile.Receipt.Data

/-!
# The acknowledgement outbox

`node/src/accountant/db_access_objects/receipt_acknowledgement_outbox_dao.rs`. The consumer keeps an acknowledgement
here until it has been sent to its provider. Acknowledgements are cumulative, so of each provider of a route only the
newest one has to be kept; a delivered one is deleted unless a newer one has replaced it meanwhile.

The table's primary key is the route alone, so a second provider of the same route (every route with a routing hop has
one) is refused with `IdentityMismatch`, and so is a newer acknowledgement whose cumulative charge is the same.

A row holds the value of its CBOR column. The calls are made under one lock (proxy_server/mod.rs:634), each as one
step; a database error, which changes nothing, is left out.

| here | there |
| --- | --- |
| `AcknowledgementOutbox` | `receipt_acknowledgement_outbox` (db_initializer.rs:413) |
| `cumulativeEnqueueDisposition` | receipt_acknowledgement_outbox_dao.rs:108 |
| `enqueue`, `pending`, `delete` | receipt_acknowledgement_outbox_dao.rs:143, 227, 255 |
-/

namespace MasqMobile

open Fallible Lists

/-- receipt_acknowledgement_outbox_dao.rs:11; the variants of CBOR are left out. -/
inductive ReceiptAcknowledgementOutboxDaoError where
  | database (message : String)
  | identityMismatch
  | time (message : String)
  deriving DecidableEq, Repr

structure AcknowledgementRow where
  routeEpoch : Bytes32
  providerPublicKey : PublicKey
  acknowledgement : ServiceReceiptPayload
  createdAtUnixS : Nat

abbrev AcknowledgementOutbox := Table AcknowledgementRow (·.routeEpoch)

namespace AcknowledgementOutbox

variable (payload : ServiceReceiptPayload)

def identity : Bytes32 × PublicKey := (payload.receipt.routeEpoch, payload.receipt.providerPublicKey)

def deserialize (row : AcknowledgementRow) : Except ReceiptAcknowledgementOutboxDaoError ServiceReceiptPayload :=
  if identity row.acknowledgement = (row.routeEpoch, row.providerPublicKey) then .ok row.acknowledgement
  else .error .identityMismatch

inductive CumulativeEnqueueDisposition where
  | idempotent
  | replace
  | stale
  deriving DecidableEq, Repr

def cumulativeEnqueueDisposition (existing new : ServiceReceiptPayload) :
    Except ReceiptAcknowledgementOutboxDaoError CumulativeEnqueueDisposition :=
  if existing = new then .ok .idempotent
  else if existing.authorization ≠ new.authorization ∨
      existing.acknowledgedReceipt.payerSessionPublicKey ≠ new.acknowledgedReceipt.payerSessionPublicKey ∨
      existing.receipt.routeEpoch ≠ new.receipt.routeEpoch ∨
      existing.receipt.providerPublicKey ≠ new.receipt.providerPublicKey ∨
      existing.receipt.accountingCommitment ≠ new.receipt.accountingCommitment then .error .identityMismatch
  else if new.receipt.sequence < existing.receipt.sequence ∧
      new.receipt.cumulativeChargeWei < existing.receipt.cumulativeChargeWei then .ok .stale
  else if new.receipt.sequence > existing.receipt.sequence ∧
      new.receipt.cumulativeChargeWei > existing.receipt.cumulativeChargeWei then .ok .replace
  else .error .identityMismatch

/-- `update .. set acknowledgement_cbor, created_at_unix_s where route_epoch, provider_public_key and
acknowledgement_cbor`, if it changes one row. -/
def replace (existing new : ServiceReceiptPayload) (createdAtUnixS : Nat) (outbox : AcknowledgementOutbox) :
    Except ReceiptAcknowledgementOutboxDaoError Unit × AcknowledgementOutbox :=
  let matched (row : AcknowledgementRow) : Bool :=
    (row.routeEpoch, row.providerPublicKey) = identity new ∧ row.acknowledgement = existing
  let updated := outbox.mapRows
    (fun row => if matched row then { row with acknowledgement := new, createdAtUnixS } else row)
    fun row => by split <;> rfl
  if outbox.rows.countP matched = 1 then (.ok (), updated)
  else (.error (.database "acknowledgement changed during cumulative replacement"), updated)

/-- `createdAt` is in seconds since the epoch, negative before it. -/
def enqueue (createdAt : Int) (outbox : AcknowledgementOutbox) :
    Except ReceiptAcknowledgementOutboxDaoError Unit × AcknowledgementOutbox :=
  if createdAt < 0 then (.error (.time "second time provided was later than self"), outbox)
  else
    let (routeEpoch, providerPublicKey) := identity payload
    -- `insert .. on conflict(route_epoch) do nothing`
    match outbox.find routeEpoch with
    | none => (.ok (), outbox.put ⟨routeEpoch, providerPublicKey, payload, createdAt.toNat⟩)
    | some row =>
      if row.providerPublicKey ≠ providerPublicKey then (.error .identityMismatch, outbox)
      else
        match deserialize row with
        | .error e => (.error e, outbox)
        | .ok existing =>
          match cumulativeEnqueueDisposition existing payload with
          | .error e => (.error e, outbox)
          | .ok .idempotent => (.ok (), outbox)
          | .ok .stale => (.ok (), outbox)
          | .ok .replace => replace existing payload createdAt.toNat outbox

/-- `order by cast(created_at_unix_s as integer), route_epoch` -/
def before (a b : AcknowledgementRow) : Prop := min a.createdAtUnixS (2 ^ 63 - 1) < min b.createdAtUnixS (2 ^ 63 - 1) ∨
    (min a.createdAtUnixS (2 ^ 63 - 1) = min b.createdAtUnixS (2 ^ 63 - 1) ∧ a.routeEpoch.toNat ≤ b.routeEpoch.toNat)

instance (a b : AcknowledgementRow) : Decidable (before a b) := inferInstanceAs (Decidable (_ ∨ _))

def pending (outbox : AcknowledgementOutbox) :
    Except ReceiptAcknowledgementOutboxDaoError (List ServiceReceiptPayload) :=
  (outbox.rows.insertionSort before).mapM deserialize

def delete (outbox : AcknowledgementOutbox) : AcknowledgementOutbox := outbox.deleteWhere fun row =>
    (row.routeEpoch, row.providerPublicKey) = identity payload ∧ row.acknowledgement = payload

end AcknowledgementOutbox

open AcknowledgementOutbox

/-! ## Histories of calls -/

inductive OutboxCall where
  | enqueue (payload : ServiceReceiptPayload) (createdAt : Int)
  | delete (payload : ServiceReceiptPayload)

def OutboxCall.payload : OutboxCall → ServiceReceiptPayload
  | .enqueue payload _ => payload
  | .delete payload => payload

/-- Of the outstanding acknowledgements of its provider and route, `p` has the highest sequence. -/
abbrev NewestOf (outstanding : List ServiceReceiptPayload) (p : ServiceReceiptPayload) : Prop :=
  Newest identity (·.receipt.sequence) outstanding p

/-- The table, and what it is for: the acknowledgements that were enqueued since the last deletion for their
provider and route. -/
structure OutboxHistory where
  outbox : AcknowledgementOutbox
  outstanding : List ServiceReceiptPayload

namespace OutboxHistory

def fresh : OutboxHistory := ⟨.empty, []⟩

/-- An acknowledgement counts as enqueued if the call returned `Ok`. A deletion is one of the newest
acknowledgement; the delivery of one that was superseded meanwhile deletes nothing. -/
def step (h : OutboxHistory) : OutboxCall → OutboxHistory
  | .enqueue p createdAt => {
      outbox := (enqueue p createdAt h.outbox).2
      outstanding := if (enqueue p createdAt h.outbox).1 = .ok () then h.outstanding ++ [p] else h.outstanding }
  | .delete p => {
      outbox := delete p h.outbox
      outstanding := if NewestOf h.outstanding p then h.outstanding.filter (identity · ≠ identity p)
        else h.outstanding }

/-- `pending` returns one acknowledgement for each provider and route that has any outstanding: the newest. -/
def KeepsNewest (h : OutboxHistory) : Prop :=
  ∃ payloads, pending h.outbox = .ok payloads ∧ (payloads.map identity).Nodup ∧
    ∀ p, p ∈ payloads ↔ NewestOf h.outstanding p

end OutboxHistory

/-- The call does what it is for: `enqueue` returns `Ok`, and the newest acknowledgements are kept. -/
def OutboxCall.Serves (h : OutboxHistory) : OutboxCall → Prop
  | .enqueue p createdAt =>
    (0 ≤ createdAt → (AcknowledgementOutbox.enqueue p createdAt h.outbox).1 = .ok ()) ∧
      (h.step (.enqueue p createdAt)).KeepsNewest
  | .delete p => (h.step (.delete p)).KeepsNewest

/-- What the table can take: no acknowledgement of another provider is stored for the route, and the stored
one has another cumulative charge, unless it is the same acknowledgement. -/
def OutboxCall.Fits (h : OutboxHistory) : OutboxCall → Prop
  | .enqueue p createdAt => 0 ≤ createdAt → ∀ row ∈ h.outbox.rows, row.routeEpoch = p.receipt.routeEpoch →
    row.providerPublicKey = p.receipt.providerPublicKey ∧
      (row.acknowledgement.receipt.cumulativeChargeWei = p.receipt.cumulativeChargeWei → row.acknowledgement = p)
  | .delete _ => True

instance (h : OutboxHistory) : ∀ call : OutboxCall, Decidable (call.Fits h)
  | .enqueue _ _ => inferInstanceAs (Decidable (_ → ∀ row ∈ h.outbox.rows, _))
  | .delete _ => .isTrue trivial

/-- Two acknowledgements of one cumulative chain. -/
structure SameChain (p q : ServiceReceiptPayload) : Prop where
  authorization : p.authorization = q.authorization
  payer : p.acknowledgedReceipt.payerSessionPublicKey = q.acknowledgedReceipt.payerSessionPublicKey
  commitment : p.receipt.accountingCommitment = q.receipt.accountingCommitment
  unique : p.receipt.sequence = q.receipt.sequence → p = q
  monotone : p.receipt.sequence < q.receipt.sequence → p.receipt.cumulativeChargeWei ≤ q.receipt.cumulativeChargeWei

instance (p q : ServiceReceiptPayload) : Decidable (SameChain p q) :=
  decidable_of_iff (p.authorization = q.authorization ∧
      p.acknowledgedReceipt.payerSessionPublicKey = q.acknowledgedReceipt.payerSessionPublicKey ∧
      p.receipt.accountingCommitment = q.receipt.accountingCommitment ∧
      (p.receipt.sequence = q.receipt.sequence → p = q) ∧
      (p.receipt.sequence < q.receipt.sequence → p.receipt.cumulativeChargeWei ≤ q.receipt.cumulativeChargeWei))
    ⟨fun ⟨ha, hp, hc, hu, hm⟩ => ⟨ha, hp, hc, hu, hm⟩, fun ⟨ha, hp, hc, hu, hm⟩ => ⟨ha, hp, hc, hu, hm⟩⟩

/-- The acknowledgements of each provider and route belong to one chain. -/
def InChains (calls : List OutboxCall) : Prop :=
  ∀ c ∈ calls, ∀ d ∈ calls, identity c.payload = identity d.payload → SameChain c.payload d.payload

instance (calls : List OutboxCall) : Decidable (InChains calls) :=
  inferInstanceAs (Decidable (∀ c ∈ calls, ∀ d ∈ calls, _))

/-! ## The table stores the newest acknowledgements -/

section Represents

variable {outbox : AcknowledgementOutbox} {outstanding : List ServiceReceiptPayload} {p : ServiceReceiptPayload}
  {createdAt : Int}

/-- The rows are the newest acknowledgements. -/
structure Represents (outbox : AcknowledgementOutbox) (outstanding : List ServiceReceiptPayload) : Prop where
  columns : ∀ row ∈ outbox.rows, identity row.acknowledgement = (row.routeEpoch, row.providerPublicKey)
  rows : ∀ row ∈ outbox.rows, NewestOf outstanding row.acknowledgement
  newest : ∀ p, NewestOf outstanding p → ∃ row ∈ outbox.rows, row.acknowledgement = p

theorem represents_fresh : Represents .empty [] := ⟨by simp, by simp, fun p h => by simpa using h.1⟩

theorem mapM_deserialize {rows : List AcknowledgementRow}
    (h : ∀ row ∈ rows, identity row.acknowledgement = (row.routeEpoch, row.providerPublicKey)) :
    rows.mapM deserialize = .ok (rows.map (·.acknowledgement)) := by
  induction rows with
  | nil => rfl
  | cons row rows ih =>
    rw [List.mapM_cons, ih fun r hr => h r (by simp [hr]), deserialize, if_pos (h row (by simp))]
    rfl

/-- What `pending` returns of such a table. -/
theorem Represents.keepsNewest {h : OutboxHistory} (hre : Represents h.outbox h.outstanding) : h.KeepsNewest := by
  have hpe := List.perm_insertionSort before h.outbox.rows
  have hs : ∀ row ∈ h.outbox.rows.insertionSort before,
      identity row.acknowledgement = (row.routeEpoch, row.providerPublicKey) :=
    fun row hr => hre.columns row (hpe.subset hr)
  refine ⟨_, mapM_deserialize hs, ?_, fun p => ?_⟩
  · -- the routes alone are already distinct
    have he : (((h.outbox.rows.insertionSort before).map (·.acknowledgement)).map identity).map Prod.fst =
        (h.outbox.rows.insertionSort before).map (·.routeEpoch) := by
      rw [List.map_map, List.map_map]
      exact List.map_congr_left fun row hr => by simp [hs row hr]
    refine List.Nodup.of_map Prod.fst ?_
    rw [he]
    exact (hpe.map _).nodup_iff.2 h.outbox.nodup
  · simp only [List.mem_map, hpe.mem_iff]
    constructor
    · rintro ⟨row, hr, rfl⟩
      exact hre.rows row hr
    · intro hp
      exact hre.newest p hp

/-- A stored acknowledgement is found by its route. -/
theorem Represents.find_eq_none (hr : Represents outbox outstanding)
    (hf : outbox.find p.receipt.routeEpoch = none) : ∀ q ∈ outstanding, identity q ≠ identity p := by
  intro q hq heq
  obtain ⟨newest, hn, hid⟩ : ∃ newest, NewestOf outstanding newest ∧ identity newest = identity q := exists_newest hq
  obtain ⟨row, hro, rfl⟩ := hr.newest newest hn
  have hc := hr.columns row hro
  rw [hid, heq] at hc
  exact Table.find_eq_none_iff.1 hf row hro (congrArg Prod.fst hc).symm

variable {row : AcknowledgementRow}

/-- The rows of other routes say nothing about the route of `p`. -/
theorem Represents.identity_ne (hr : Represents outbox outstanding) (hro : row ∈ outbox.rows)
    (hne : row.routeEpoch ≠ p.receipt.routeEpoch) :
    identity row.acknowledgement ≠ identity p := by
  rw [hr.columns row hro]
  exact fun heq => hne (congrArg Prod.fst heq)

section

variable (hre : Represents outbox outstanding)
include hre

/-- The first acknowledgement of a route. -/
theorem Represents.insert (hf : outbox.find p.receipt.routeEpoch = none) (c : Nat) :
    Represents (outbox.put ⟨p.receipt.routeEpoch, p.receipt.providerPublicKey, p, c⟩) (outstanding ++ [p]) := by
  have ho := hre.find_eq_none hf
  refine ⟨?_, ?_, ?_⟩
  · intro row hr
    rcases Table.mem_put.1 hr with rfl | ⟨hr, -⟩
    · rfl
    · exact hre.columns row hr
  · intro row hr
    rcases Table.mem_put.1 hr with rfl | ⟨hr, hne⟩
    · exact newest_append_self fun q hq heq => absurd heq (ho q hq)
    · exact (newest_append_of_ne (hre.identity_ne hr hne)).2 (hre.rows row hr)
  · intro q hq
    by_cases hid : identity q = identity p
    · rcases List.mem_append.1 hq.1 with hol | hn
      · exact absurd hid (ho q hol)
      · exact ⟨_, Table.mem_put.2 (.inl rfl), (List.mem_singleton.1 hn).symm⟩
    · obtain ⟨row, hr, rfl⟩ := hre.newest q ((newest_append_of_ne hid).1 hq)
      refine ⟨row, Table.mem_put.2 (.inr ⟨hr, fun heq => ?_⟩), rfl⟩
      exact Table.find_eq_none_iff.1 hf row hr heq

/-- An acknowledgement that does not supersede the stored one. -/
theorem Represents.keep (hro : row ∈ outbox.rows) (hid : identity row.acknowledgement = identity p)
    (hle : p.receipt.sequence ≤ row.acknowledgement.receipt.sequence)
    (hu : p.receipt.sequence = row.acknowledgement.receipt.sequence → p = row.acknowledgement) :
    Represents outbox (outstanding ++ [p]) := by
  have hs := hre.rows row hro
  have hk : ∀ {q}, NewestOf outstanding q → NewestOf (outstanding ++ [p]) q := by
    intro q hq
    refine hq.append fun heq => hle.trans ?_
    exact hq.2 _ hs.1 (hid.trans heq)
  refine ⟨hre.columns, fun r hr => hk (hre.rows r hr), fun q hq => hre.newest q ?_⟩
  rcases List.mem_append.1 hq.1 with ho | hn
  · exact ⟨ho, fun c hc => hq.2 c (by simp [hc])⟩
  · -- the new one is newest only if it is the stored one
    obtain rfl := List.mem_singleton.1 hn
    have hge := hq.2 _ (List.mem_append_left _ hs.1) hid
    exact hu (le_antisymm hle hge) ▸ hs

/-- An acknowledgement that supersedes the stored one. -/
theorem Represents.replace (hro : row ∈ outbox.rows) (hide : identity row.acknowledgement = identity p)
    (hlt : row.acknowledgement.receipt.sequence < p.receipt.sequence) (c : Nat) :
    (AcknowledgementOutbox.replace row.acknowledgement p c outbox).1 = .ok () ∧
      Represents (AcknowledgementOutbox.replace row.acknowledgement p c outbox).2 (outstanding ++ [p]) := by
  have hc := (hre.columns row hro).symm.trans hide
  -- the condition of the update singles out the row
  have hma : ∀ r ∈ outbox.rows, ((r.routeEpoch, r.providerPublicKey) = identity p ∧
      r.acknowledgement = row.acknowledgement) ↔ r.routeEpoch = row.routeEpoch := by
    intro r hr
    constructor
    · rintro ⟨hid, -⟩
      exact congrArg Prod.fst (hid.trans hc.symm)
    · intro heq
      obtain rfl := List.inj_on_of_nodup_map outbox.nodup hr hro heq
      exact ⟨hc, rfl⟩
  have hon := Table.countP_eq_one (t := outbox) (p := fun r => (r.routeEpoch, r.providerPublicKey) = identity p ∧
    r.acknowledgement = row.acknowledgement) hro fun r hr => by simpa using hma r hr
  simp only [AcknowledgementOutbox.replace]
  rw [if_pos hon]
  have ho : ∀ q ∈ outstanding, identity q = identity p → q.receipt.sequence < p.receipt.sequence :=
    fun q hq heq => ((hre.rows row hro).2 q hq (heq.trans hide.symm)).trans_lt hlt
  refine ⟨rfl, ?_, ?_, ?_⟩
  · intro r hr
    obtain ⟨r', hr', rfl⟩ := List.mem_map.1 hr
    split
    · rename_i hm
      simp only [decide_eq_true_eq] at hm
      exact hm.1.symm
    · exact hre.columns r' hr'
  · intro r hr
    obtain ⟨r', hr', rfl⟩ := List.mem_map.1 hr
    split
    · exact newest_append_self fun q hq heq => (ho q hq heq).le
    · rename_i hm
      simp only [decide_eq_true_eq, hma r' hr'] at hm
      have hne : r'.routeEpoch ≠ p.receipt.routeEpoch := fun heq =>
        hm (heq.trans (congrArg Prod.fst hc).symm)
      exact (newest_append_of_ne (hre.identity_ne hr' hne)).2 (hre.rows r' hr')
  · intro q hq
    by_cases hid : identity q = identity p
    · rcases List.mem_append.1 hq.1 with hol | hn
      · have hle := hq.2 p (by simp) hid.symm
        exact absurd (ho q hol hid) (not_lt.2 hle)
      · refine ⟨_, List.mem_map_of_mem hro, ?_⟩
        rw [if_pos (by simpa using hc)]
        exact (List.mem_singleton.1 hn).symm
    · obtain ⟨r, hr, rfl⟩ := hre.newest q ((newest_append_of_ne hid).1 hq)
      refine ⟨_, List.mem_map_of_mem hr, ?_⟩
      rw [if_neg]
      simp only [decide_eq_true_eq]
      rintro ⟨heq, -⟩
      exact hid ((hre.columns r hr).trans heq)

/-- The delivery of an acknowledgement. -/
theorem Represents.delete (p : ServiceReceiptPayload) : Represents (AcknowledgementOutbox.delete p outbox)
      (if NewestOf outstanding p then outstanding.filter (identity · ≠ identity p) else outstanding) := by
  have hm : ∀ {r}, r ∈ (AcknowledgementOutbox.delete p outbox).rows ↔ r ∈ outbox.rows ∧ r.acknowledgement ≠ p := by
    intro r
    simp only [AcknowledgementOutbox.delete, Table.deleteWhere, List.mem_filter]
    constructor
    · rintro ⟨hr, hk⟩
      refine ⟨hr, ?_⟩
      rintro rfl
      simp [hre.columns r hr] at hk
    · rintro ⟨hr, hne⟩
      exact ⟨hr, by simp [hne]⟩
  split
  · rename_i hn
    obtain ⟨row, hro, rfl⟩ := hre.newest p hn
    -- no other row has the route of the deleted one
    have ho : ∀ r ∈ outbox.rows, r.acknowledgement ≠ row.acknowledgement →
        identity r.acknowledgement ≠ identity row.acknowledgement := by
      intro r hr hne heq
      rw [hre.columns r hr, hre.columns row hro] at heq
      exact hne (List.inj_on_of_nodup_map outbox.nodup hr hro (congrArg Prod.fst heq) ▸ rfl)
    refine ⟨fun r hr => hre.columns r (hm.1 hr).1, ?_, ?_⟩
    · intro r hr
      obtain ⟨hr, hne⟩ := hm.1 hr
      exact newest_filter_iff.2 ⟨ho r hr hne, hre.rows r hr⟩
    · intro q hq
      obtain ⟨hid, hq⟩ := newest_filter_iff.1 hq
      obtain ⟨r, hr, rfl⟩ := hre.newest q hq
      exact ⟨r, hm.2 ⟨hr, fun heq => hid (heq ▸ rfl)⟩, rfl⟩
  · rename_i hno
    refine ⟨fun r hr => hre.columns r (hm.1 hr).1, fun r hr => hre.rows r (hm.1 hr).1, ?_⟩
    intro q hq
    obtain ⟨r, hr, rfl⟩ := hre.newest q hq
    exact ⟨r, hm.2 ⟨hr, fun heq => hno (heq ▸ hq)⟩, rfl⟩

end

/-- Acknowledgements of one chain are refused only for the sake of their charge. -/
theorem cumulativeEnqueueDisposition_of_sameChain {new : ServiceReceiptPayload}
    (hid : identity e = identity new) (hne : e ≠ new) (hc : SameChain e new)
    (hc' : SameChain new e) :
    (cumulativeEnqueueDisposition e new = .error .identityMismatch ∧
      e.receipt.cumulativeChargeWei = new.receipt.cumulativeChargeWei) ∨
    (cumulativeEnqueueDisposition e new = .ok .stale ∧ new.receipt.sequence < e.receipt.sequence ∧
      e.receipt.cumulativeChargeWei ≠ new.receipt.cumulativeChargeWei) ∨
    (cumulativeEnqueueDisposition e new = .ok .replace ∧ e.receipt.sequence < new.receipt.sequence ∧
      e.receipt.cumulativeChargeWei ≠ new.receipt.cumulativeChargeWei) := by
  have he : e.receipt.routeEpoch = new.receipt.routeEpoch := congrArg Prod.fst hid
  have hp : e.receipt.providerPublicKey = new.receipt.providerPublicKey := congrArg Prod.snd hid
  have hs : e.receipt.sequence ≠ new.receipt.sequence := fun heq => hne (hc.unique heq)
  have hm := hc.monotone
  have hm' := hc'.monotone
  simp only [cumulativeEnqueueDisposition, if_neg hne, hc.authorization, hc.payer, hc.commitment, he,
    hp, ne_eq, not_true_eq_false, or_self, if_false, gt_iff_lt]
  by_cases hch : e.receipt.cumulativeChargeWei = new.receipt.cumulativeChargeWei
  · simp [hch]
  · rcases Nat.lt_or_gt_of_ne hs with hlt | hgt
    · have hle := hm hlt
      simp [hch, hlt, hlt.not_gt, Nat.lt_of_le_of_ne hle hch]
    · have hle := hm' hgt
      simp [hch, hgt, Nat.lt_of_le_of_ne hle (Ne.symm hch)]

/-- **One enqueue.** It returns `Ok` exactly if the table can take the acknowledgement, and then the newest
acknowledgements are stored as before. -/
theorem Represents.enqueue (hre : Represents outbox outstanding) (ht : 0 ≤ createdAt)
    (hch : ∀ q ∈ outstanding, identity q = identity p → SameChain q p ∧ SameChain p q) :
    ((AcknowledgementOutbox.enqueue p createdAt outbox).1 = .ok () ↔
      (OutboxCall.enqueue p createdAt).Fits ⟨outbox, outstanding⟩) ∧
    ((AcknowledgementOutbox.enqueue p createdAt outbox).1 = .ok () →
      Represents (AcknowledgementOutbox.enqueue p createdAt outbox).2 (outstanding ++ [p])) := by
  simp only [AcknowledgementOutbox.enqueue, if_neg (not_lt.2 ht), identity, OutboxCall.Fits, ht, true_implies]
  cases hf : outbox.find p.receipt.routeEpoch with
  | none =>
    refine ⟨⟨fun _ row hro heq => ?_, fun _ => rfl⟩, fun _ => hre.insert hf createdAt.toNat⟩
    exact absurd heq (Table.find_eq_none_iff.1 hf row hro)
  | some row =>
    obtain ⟨hro, he⟩ := Table.find_eq_some_iff.1 hf
    -- the route has one row
    have ho : ∀ r ∈ outbox.rows, r.routeEpoch = p.receipt.routeEpoch → r = row := fun r hr heq =>
      List.inj_on_of_nodup_map outbox.nodup hr hro (heq.trans he.symm)
    by_cases hp : row.providerPublicKey = p.receipt.providerPublicKey
    swap
    · simp only [hp, ne_eq, not_false_eq_true, if_true]
      refine ⟨⟨by rintro ⟨⟩, fun h => ?_⟩, by rintro ⟨⟩⟩
      exact absurd (h row hro he).1 hp
    have hco := hre.columns row hro
    have hid : identity row.acknowledgement = identity p := by
      rw [hco, he, hp]
      rfl
    simp only [hp, ne_eq, not_true_eq_false, if_false, deserialize, hco, if_true]
    by_cases hs : row.acknowledgement = p
    · simp only [cumulativeEnqueueDisposition, hs, if_true]
      refine ⟨⟨fun _ r hr heq => ?_, fun _ => trivial⟩, fun _ => hre.keep hro hid (hs ▸ le_refl _) ?_⟩
      · obtain rfl := ho r hr heq
        exact ⟨hp, fun _ => hs⟩
      · exact fun _ => hs.symm
    · obtain ⟨hfo, hb⟩ := hch _ (hre.rows row hro).1 hid
      have hfi : row.acknowledgement.receipt.cumulativeChargeWei ≠ p.receipt.cumulativeChargeWei →
          ∀ r ∈ outbox.rows, r.routeEpoch = p.receipt.routeEpoch → r.providerPublicKey = p.receipt.providerPublicKey ∧
            (r.acknowledgement.receipt.cumulativeChargeWei = p.receipt.cumulativeChargeWei →
              r.acknowledgement = p) := by
        intro hc r hr heq
        obtain rfl := ho r hr heq
        exact ⟨hp, fun h => absurd h hc⟩
      rcases cumulativeEnqueueDisposition_of_sameChain hid hs hfo hb with
        ⟨href, hc⟩ | ⟨hst, hlt, hc⟩ | ⟨hrepla, hlt, hc⟩
      · simp only [href]
        refine ⟨⟨by rintro ⟨⟩, fun h => ?_⟩, by rintro ⟨⟩⟩
        exact absurd ((h row hro he).2 hc) hs
      · simp only [hst]
        refine ⟨⟨fun _ => hfi hc, fun _ => trivial⟩, fun _ => hre.keep hro hid hlt.le fun heq => ?_⟩
        omega
      · simp only [hrepla]
        obtain ⟨hok, hrepl⟩ := hre.replace hro hid hlt createdAt.toNat
        exact ⟨⟨fun _ => hfi hc, fun _ => hok⟩, fun _ => hrepl⟩

end Represents

/-! ## Main result -/

section Main

variable {known : List ServiceReceiptPayload} {h : OutboxHistory}

/-- The state of a history: the newest acknowledgements are stored, and all come from the calls. -/
structure OutboxHistory.Valid (known : List ServiceReceiptPayload) (h : OutboxHistory) : Prop where
  represents : Represents h.outbox h.outstanding
  subset : h.outstanding ⊆ known

/-- One call serves its purpose exactly if the table can take it, and then the state stays valid. -/
theorem OutboxHistory.Valid.step (hv : h.Valid known)
    (hch : ∀ p ∈ known, ∀ q ∈ known, identity p = identity q → SameChain p q) {call : OutboxCall}
    (hc : call.payload ∈ known) : (call.Serves h ↔ call.Fits h) ∧ (call.Serves h → (h.step call).Valid known) := by
  cases call with
  | delete p =>
    have hn : Represents (h.step (.delete p)).outbox (h.step (.delete p)).outstanding := hv.represents.delete p
    have hsu : (h.step (.delete p)).outstanding ⊆ known := by
      simp only [OutboxHistory.step]
      split
      · exact fun q hq => hv.subset (List.mem_of_mem_filter hq)
      · exact hv.subset
    exact ⟨⟨fun _ => trivial, fun _ => hn.keepsNewest⟩, fun _ => ⟨hn, hsu⟩⟩
  | enqueue p createdAt =>
    by_cases ht : 0 ≤ createdAt
    · obtain ⟨hif, hn⟩ := hv.represents.enqueue ht fun q hq heq =>
        ⟨hch q (hv.subset hq) p hc heq, hch p hc q (hv.subset hq) heq.symm⟩
      have hst : (AcknowledgementOutbox.enqueue p createdAt h.outbox).1 = .ok () →
          (h.step (.enqueue p createdAt)).Valid known := by
        intro hok
        simp only [OutboxHistory.step, if_pos hok]
        exact ⟨hn hok, List.append_subset.2 ⟨hv.subset, List.cons_subset.2 ⟨hc, List.nil_subset _⟩⟩⟩
      refine ⟨⟨fun hs => hif.1 (hs.1 ht), fun hf => ?_⟩, fun hs => hst (hs.1 ht)⟩
      exact ⟨fun _ => hif.2 hf, (hst (hif.2 hf)).represents.keepsNewest⟩
    · -- a clock before the epoch changes nothing
      have hsa : h.step (.enqueue p createdAt) = h := by
        simp [OutboxHistory.step, AcknowledgementOutbox.enqueue, not_le.1 ht]
      simp only [OutboxCall.Serves, OutboxCall.Fits, ht, false_implies, true_and, iff_true, hsa]
      exact ⟨hv.represents.keepsNewest, fun _ => hv⟩

/-- **The outbox keeps the newest acknowledgements, or refuses one.** In a history whose acknowledgements of
each provider and route belong to one cumulative chain, every call serves its purpose if and only if every call
fits the table: no two providers share a route at that time, and no newer acknowledgement has the charge of
the stored one. -/
theorem outbox_newest_iff (calls : List OutboxCall) (hchain : InChains calls) :
    Run.Along OutboxHistory.step (fun h call => call.Serves h) .fresh calls ↔
      Run.Along OutboxHistory.step (fun h call => call.Fits h) .fresh calls := by
  have hk : ∀ p ∈ calls.map (·.payload), ∀ q ∈ calls.map (·.payload), identity p = identity q → SameChain p q := by
    simpa [InChains] using hchain
  have hf : OutboxHistory.fresh.Valid (calls.map (·.payload)) := ⟨represents_fresh, by simp [OutboxHistory.fresh]⟩
  refine Run.along_congr (OutboxHistory.Valid (calls.map (·.payload))) (fun h call hv hc =>
    (hv.step hk hc).1) (fun h call hv hc => (hv.step hk hc).2) hf ?_
  exact Run.along_of_forall fun call hc => List.mem_map_of_mem hc

end Main

/-! ### Histories of one route -/

def acknowledgementOf (provider : PublicKey) (sequence cumulativeChargeWei : Nat) : ServiceReceiptPayload where
  authorization := ⟨⟨1, 1, 1, 1, [8], 100, 0, 1000, 7⟩, ⟨0, 1, 1⟩⟩
  acknowledgedReceipt := ⟨⟨⟨1, 5, sequence, .exit, provider, 1, 0, 1, 1, 1, cumulativeChargeWei⟩, [0]⟩, [8], [0]⟩

/-- The exit of a route is acknowledged twice, and each delivery deletes what it delivered. -/
def oneProvider : List OutboxCall :=
  [.enqueue (acknowledgementOf [9] 1 10) 100, .enqueue (acknowledgementOf [9] 2 25) 101,
    .delete (acknowledgementOf [9] 1 10), .enqueue (acknowledgementOf [9] 1 10) 102,
    .delete (acknowledgementOf [9] 2 25)]

theorem outbox_newest_one_provider : Run.Along OutboxHistory.step (fun h call => call.Serves h) .fresh oneProvider :=
  (outbox_newest_iff oneProvider (by decide +kernel)).2 (by decide +kernel)

/-- The exit and a routing hop of one route are acknowledged. -/
def twoProviders : List OutboxCall :=
  [.enqueue (acknowledgementOf [9] 1 10) 100, .enqueue (acknowledgementOf [6] 1 20) 100]

/-- A provider that charges nothing for its second service is acknowledged again. -/
def sameCharge : List OutboxCall :=
  [.enqueue (acknowledgementOf [9] 1 10) 100, .enqueue (acknowledgementOf [9] 2 10) 101]

/-- In both histories the second acknowledgement is refused and never stored. -/
theorem outbox_refuses_acknowledgement :
    (InChains twoProviders ∧ ¬Run.Along OutboxHistory.step (fun h call => call.Serves h) .fresh twoProviders) ∧
      (InChains sameCharge ∧ ¬Run.Along OutboxHistory.step (fun h call => call.Serves h) .fresh sameCharge) := by
  have hp : (enqueue (acknowledgementOf [6] 1 20) 100
      (enqueue (acknowledgementOf [9] 1 10) 100 .empty).2).1 = .error .identityMismatch := by decide +kernel
  have hc : (enqueue (acknowledgementOf [9] 2 10) 101
      (enqueue (acknowledgementOf [9] 1 10) 100 .empty).2).1 = .error .identityMismatch := by decide +kernel
  refine ⟨⟨by decide +kernel, ?_⟩, by decide +kernel, ?_⟩
  · rintro ⟨_, ⟨hs, _⟩, _⟩
    cases hp.symm.trans (hs (by decide))
  · rintro ⟨_, ⟨hs, _⟩, _⟩
    cases hc.symm.trans (hs (by decide))

end MasqMobile
