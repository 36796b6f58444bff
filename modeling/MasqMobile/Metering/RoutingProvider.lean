import MasqMobile.Metering.Routing

/-!
# The offers and acknowledgements of one routing stream

Packet number `i` of a stream has a size, hence a price, and the receipt number `k` charges for the first `k` packets.
As long as each new offer is made with the packet that has its number in hand, the provider only ever sends these
receipts: the next one after its checkpoint has caught up with the last, the last one again otherwise
(`makeRoutingReceiptOffer_spec`).
-/

namespace MasqMobile

open Fallible RoutingNode ServiceReceipt ReceiptSequenceCheckpoint

variable {P : Primitives} {k size now : Nat} {previous : SignedServiceReceipt}

/-- A packet on the route, in the direction of the request or of the response. -/
structure Packet where
  response : Bool
  size : Nat

/-- The sizes that a provider's queue receives from the first `n` packets: one for every time the provider
is on the packet's way. -/
def observedSizes (provider : PublicKey) (requestProviders responseProviders : List PublicKey)
    (packets : Nat → Packet) (n : Nat) : List Nat :=
  (List.range n).flatMap fun i =>
    List.replicate ((if (packets i).response then responseProviders else requestProviders).count provider)
      (packets i).size

/-- A consumer and a routing provider with one session and one route between them. `sizes` are the packets
as the provider routes them, and `same` says that they are the packets that the consumer records. -/
structure RoutingSetting (P : Primitives) extends SessionSetting P where
  node : RoutingNode
  requestProviders : List PublicKey
  responseProviders : List PublicKey
  packets : Nat → Packet
  sizes : Nat → Nat
  chainId : node.chainId = config.chainId
  settlementContract : node.settlementContract = config.settlementContract
  charged : 0 < node.perRoutingService
  same : ∀ n, observedSizes node.cryptde.publicKey requestProviders responseProviders packets n =
    (List.range (observedSizes node.cryptde.publicKey requestProviders responseProviders packets n).length).map sizes

namespace RoutingSetting

variable (S : RoutingSetting P)

def observed (n : Nat) : List Nat :=
  observedSizes S.node.cryptde.publicKey S.requestProviders S.responseProviders S.packets n

def price (size : Nat) : Nat := S.node.perRoutingService * 1 + S.node.perRoutingByte * size

def total (k : Nat) : Nat := ∑ i ∈ Finset.range k, S.price (S.sizes i)

/-- Receipt number `k`, for `1 ≤ k`. -/
def receiptAt (k : Nat) : ServiceReceipt where
  protocolVersion := serviceReceiptProtocolVersion
  routeEpoch := S.request.routeEpoch
  sequence := k
  serviceKind := .routing
  providerPublicKey := S.node.cryptde.publicKey
  accountingCommitment := S.request.accountingCommitment
  payloadSize := S.sizes (k - 1)
  serviceUnits := 1
  serviceRate := S.node.perRoutingService
  byteRate := S.node.perRoutingByte
  cumulativeChargeWei := S.total k

def stream : StreamId := S.node.streamId S.request

def nonce : Bytes32 := S.policy.authorizationNonce

def claimId : Bytes32 := P.hashClaimIdentity
  { chainId := S.policy.chainId, settlementContract := S.policy.settlementContract,
    payerWalletAddress := S.policy.payerWalletAddress, payerSessionPublicKey := S.payer.publicKey,
    routeEpoch := S.request.routeEpoch, providerPublicKey := S.node.cryptde.publicKey,
    accountingCommitment := S.request.accountingCommitment }

/-- The provider's offer number `k`. -/
structure Offered (k : Nat) (offer : SignedServiceReceipt) : Prop where
  pos : 1 ≤ k
  fits : k < 2 ^ 64
  sign : (S.receiptAt k).sign P S.node.cryptde = .ok offer

/-- The consumer's acknowledgement of offer number `k`. -/
structure Acknowledged (k : Nat) (payload : ServiceReceiptPayload) : Prop where
  offered : S.Offered k payload.acknowledgedReceipt.signedReceipt
  authorization : payload.authorization = S.request.authorization
  key : payload.acknowledgedReceipt.payerSessionPublicKey = S.payer.publicKey
  verified : ∀ verifier, payload.acknowledgedReceipt.verify P verifier = .ok (S.receiptAt k).charge

/-- The checkpoint of either side after acknowledgement number `k`. -/
def checkpointOf (k : Nat) : ReceiptSequenceCheckpoint where
  routeEpoch := S.request.routeEpoch
  providerPublicKey := S.node.cryptde.publicKey
  accountingCommitment := S.request.accountingCommitment
  payerSessionPublicKey := S.payer.publicKey
  lastSequence := k
  cumulativeChargeWei := S.total k

def checkpointOpt (k : Nat) : Option ReceiptSequenceCheckpoint := if k = 0 then none else some (S.checkpointOf k)

def offerState (offer : SignedServiceReceipt) : RoutingReceiptOfferState :=
  ⟨S.nonce, payerKey S.request, S.policy.expiresAtUnixS, offer⟩

/-- The stored offer of the stream is number `k`. -/
def OfferStands (offerStates : OfferStates) : Nat → Prop
  | 0 => offerStates.find (S.node.offerKey S.request) = none
  | k + 1 => ∃ offer, S.Offered (k + 1) offer ∧ offerStates.find (S.node.offerKey S.request) = some (S.offerState offer)

end RoutingSetting

section Receipts

variable {S : RoutingSetting P} {of : SignedServiceReceipt} {pl : ServiceReceiptPayload}

@[simp] theorem RoutingSetting.total_zero : S.total 0 = 0 := rfl

theorem RoutingSetting.total_succ (k : Nat) : S.total (k + 1) = S.total k + S.price (S.sizes k) :=
  Finset.sum_range_succ ..

theorem RoutingSetting.price_pos (size : Nat) : 0 < S.price size := by
  have := S.charged
  unfold RoutingSetting.price
  omega

theorem RoutingSetting.total_lt_succ (k : Nat) : S.total k < S.total (k + 1) := by
  have := S.price_pos (S.sizes k)
  rw [S.total_succ]
  omega

theorem RoutingSetting.total_mono (h : k ≤ l) : S.total k ≤ S.total l :=
  monotone_nat_of_le_succ (fun k => (S.total_lt_succ k).le) h

@[simp] theorem RoutingSetting.charge_receiptAt : (S.receiptAt (k + 1)).charge = S.price (S.sizes k) := rfl

theorem RoutingSetting.Offered.receipt (h : S.Offered k of) : of.receipt = S.receiptAt k := by
  have hs := h.sign
  simp only [ServiceReceipt.sign, bind_eq_ok, failIf_eq_ok, mapErr_eq_ok, pure_eq_ok] at hs
  obtain ⟨_, -, _, -, _, -, rfl⟩ := hs
  rfl

theorem RoutingSetting.Offered.unique (h : S.Offered k of) (h' : S.Offered k of') :
    of = of' := Except.ok.inj (h.sign.symm.trans h'.sign)

namespace RoutingSetting.Acknowledged

variable (h : S.Acknowledged k pl)
include h

theorem receipt : pl.receipt = S.receiptAt k := h.offered.receipt

theorem ofAcknowledged :
    ReceiptSequenceCheckpoint.ofAcknowledged pl.acknowledgedReceipt = S.checkpointOf k := by
  rw [ReceiptSequenceCheckpoint.ofAcknowledged, h.offered.receipt, h.key]
  rfl

theorem streamId : pl.streamId = S.stream := by
  rw [ServiceReceiptPayload.streamId, h.receipt, h.key, S.key]
  rfl

theorem claimId : receiptSettlementClaimId P pl = S.claimId := by
  rw [receiptSettlementClaimId, ServiceReceiptPayload.claimIdentity, h.receipt, h.key, h.authorization]
  rfl

theorem nonce : pl.nonce = S.nonce := by
  rw [ServiceReceiptPayload.nonce, h.authorization]
  rfl

end RoutingSetting.Acknowledged

end Receipts

/-! ## Making an offer -/

section Offers

variable {S : RoutingSetting P} {offer : SignedServiceReceipt} {isNew : Bool}

theorem validate_charge {re : ServiceReceipt} (h : re.validate = .ok ()) : re.charge < 2 ^ 128 := by
  simp only [validate, bind_eq_ok, checkedTotalChargeWei_eq_ok_iff] at h
  obtain ⟨_, -, _, -, _, -, _, -, _, -, _, ⟨hc, -⟩, -⟩ := h
  exact hc

/-- The first offer of the stream, made with the first packet. The price saturates where it overflows, but
then the receipt is not signed. -/
theorem chooseOffer_first (h : S.node.chooseOffer P S.request (S.sizes 0) none none = .ok (offer, isNew)) :
    isNew = true ∧ S.Offered 1 offer := by
  simp only [chooseOffer, bind_eq_ok, mapErr_eq_ok, pure_eq_ok, Prod.mk.injEq] at h
  obtain ⟨_, hs, rfl, rfl⟩ := h
  refine ⟨rfl, le_rfl, by decide, ?_⟩
  have hv := hs
  simp only [ServiceReceipt.sign, bind_eq_ok] at hv
  obtain ⟨_, hv, -⟩ := hv
  have hp : checkedChargeWei S.node.perRoutingService 1 S.node.perRoutingByte (S.sizes 0) =
      .ok (S.price (S.sizes 0)) := checkedChargeWei_eq_ok_iff.2 ⟨validate_charge hv, rfl⟩
  have hr : ServiceReceipt.new S.request.routeEpoch 1 .routing S.node.cryptde.publicKey
      S.request.accountingCommitment (S.sizes 0) S.node.perRoutingService S.node.perRoutingByte = S.receiptAt 1 := by
    simp only [ServiceReceipt.new, newWithServiceUnits, hp, RoutingSetting.receiptAt,
      S.total_succ, S.total_zero, zero_add, Nat.sub_self]
  rwa [hr] at hs

/-- The offer after an acknowledged one, made with the packet of its number. -/
theorem chooseOffer_next (hp : S.Offered (k + 1) previous)
    (h : S.node.chooseOffer P S.request (S.sizes (k + 1)) (some (S.offerState previous))
      (some (S.checkpointOf (k + 1))) = .ok (offer, isNew)) :
    isNew = true ∧ S.Offered (k + 2) offer := by
  have hr := hp.receipt
  have hs : (S.checkpointOf (k + 1)).lastSequence = (S.offerState previous).lastSignedReceipt.receipt.sequence ∧
      (S.checkpointOf (k + 1)).cumulativeChargeWei =
        (S.offerState previous).lastSignedReceipt.receipt.cumulativeChargeWei := by
    simp only [RoutingSetting.offerState, hr]
    exact ⟨rfl, rfl⟩
  simp only [chooseOffer, if_pos hs, bind_eq_ok, pure_eq_ok, Prod.mk.injEq] at h
  obtain ⟨_, -, _, ha, rfl, rfl⟩ := h
  simp only [advanceOffer, RoutingSetting.offerState, hr, nextForSameRoute,
    nextWithServiceUnits, bind_eq_ok, okOr_eq_ok, mapErr_eq_ok, failIf_eq_ok,
    pure_eq_ok, checkedAdd_eq_some_iff, checkedChargeWei_eq_ok_iff] at ha
  obtain ⟨_, ⟨hf, rfl⟩, _, ⟨_, -, _, -, _, -, _, ⟨-, rfl⟩, _, ⟨-, rfl⟩, rfl⟩, hsi⟩ := ha
  refine ⟨rfl, Nat.le_add_left 1 _, hf, ?_⟩
  have hn : S.receiptAt (k + 2) = { S.receiptAt (k + 1) with
      sequence := k + 1 + 1, payloadSize := S.sizes (k + 1)
      cumulativeChargeWei := S.total (k + 1) + S.price (S.sizes (k + 1)) } := by
    simp only [RoutingSetting.receiptAt, S.total_succ (k + 1)]
    rfl
  rw [hn]
  exact hsi

/-- While the last offer is not acknowledged, it is sent again. -/
theorem chooseOffer_again (hp : S.Offered (k + 1) previous)
    (h : S.node.chooseOffer P S.request size (some (S.offerState previous)) (S.checkpointOpt k) = .ok (offer, isNew)) :
    isNew = false ∧ offer = previous := by
  have hr := hp.receipt
  by_cases hk : k = 0
  · simp only [chooseOffer, RoutingSetting.checkpointOpt, if_pos hk, bind_eq_ok, pure_eq_ok, Prod.mk.injEq] at h
    obtain ⟨_, -, rfl, rfl⟩ := h
    exact ⟨rfl, rfl⟩
  · have hb : ¬((S.checkpointOf k).lastSequence = (S.offerState previous).lastSignedReceipt.receipt.sequence ∧
        (S.checkpointOf k).cumulativeChargeWei =
          (S.offerState previous).lastSignedReceipt.receipt.cumulativeChargeWei) := by
      simp only [RoutingSetting.offerState, hr, RoutingSetting.checkpointOf, RoutingSetting.receiptAt]
      omega
    simp only [chooseOffer, RoutingSetting.checkpointOpt, if_neg hk, if_neg hb, bind_eq_ok] at h
    obtain ⟨_, -, h⟩ := h
    split at h
    · simp only [pure_eq_ok, Prod.mk.injEq] at h
      obtain ⟨rfl, rfl⟩ := h
      exact ⟨rfl, rfl⟩
    · cases h

theorem saveRoutingOfferState_find {state : RoutingReceiptOfferState}
    (h : saveRoutingOfferState state now m o = .ok o') :
    o'.find state.key = some state := by
  simp only [saveRoutingOfferState, bind_eq_ok] at h
  obtain ⟨_, -, existingOpt, hl, ha⟩ := h
  cases existingOpt with
  | none =>
    simp only [advanceOfferState, bind_eq_ok, pure_eq_ok] at ha
    obtain ⟨_, -, _, -, rfl⟩ := ha
    exact Table.find_put_self ..
  | some existing =>
    simp only [advanceOfferState] at ha
    split at ha
    · -- the same state again: the row stays
      rename_i hs
      obtain rfl := Except.ok.inj ha
      unfold routingOfferState at hl
      split at hl
      · cases hl
      · rename_i stored hst
        simp only [bind_eq_ok, pure_eq_ok, Option.some.injEq] at hl
        obtain ⟨_, -, rfl⟩ := hl
        rw [hst, hs]
    · simp only [bind_eq_ok, pure_eq_ok] at ha
      obtain ⟨_, -, rfl⟩ := ha
      exact Table.find_put_self ..

theorem RoutingSetting.Offered.key (h : S.Offered k offer) : (S.offerState offer).key = S.node.offerKey S.request := by
  simp only [RoutingReceiptOfferState.key, RoutingSetting.offerState, h.receipt]
  rfl

theorem RoutingSetting.Offered.stands (h : S.Offered k offer)
    (hf : o.find (S.node.offerKey S.request) = some (S.offerState offer)) :
    S.OfferStands o k := by
  obtain ⟨k, rfl⟩ := Nat.exists_eq_add_of_le' h.pos
  exact ⟨offer, h, hf⟩

/-- What is chosen for a packet, when the stored offer is number `last` and the checkpoint stands at `done`. -/
theorem chooseOffer_spec {last done : Nat}
    (hs : S.OfferStands o last) (hl : routingOfferState o (S.node.offerKey S.request) = .ok so)
    (hd : done ≤ last) (hla : last ≤ done + 1) (hsi : last = done → size = S.sizes last)
    (h : S.node.chooseOffer P S.request size so (S.checkpointOpt done) = .ok (offer, isNew)) :
    (last = done ∧ isNew = true ∧ S.Offered (last + 1) offer) ∨
      (last = done + 1 ∧ isNew = false ∧ S.Offered last offer) := by
  cases last with
  | zero =>
    obtain rfl : done = 0 := Nat.le_zero.1 hd
    simp only [RoutingSetting.OfferStands] at hs
    simp only [routingOfferState, hs] at hl
    obtain rfl := Except.ok.inj hl
    rw [hsi rfl] at h
    exact .inl ⟨rfl, chooseOffer_first h⟩
  | succ k =>
    obtain ⟨previous, hp, hf⟩ := hs
    simp only [routingOfferState, hf, bind_eq_ok, pure_eq_ok] at hl
    obtain ⟨_, -, rfl⟩ := hl
    by_cases hc : k + 1 = done
    · subst hc
      rw [hsi rfl, RoutingSetting.checkpointOpt, if_neg (Nat.succ_ne_zero k)] at h
      exact .inl ⟨rfl, chooseOffer_next hp h⟩
    · obtain rfl : done = k := by omega
      obtain ⟨rfl, rfl⟩ := chooseOffer_again hp h
      exact .inr ⟨rfl, rfl, hp⟩

/-- **Making an offer.** With the packet of the next number in hand whenever a new offer is due, the provider
sends the next offer once the last one is acknowledged, and the last one again until then. -/
theorem makeRoutingReceiptOffer_spec {last done : Nat} (hs : S.OfferStands db.offerStates last)
    (hc : db.receipts.checkpoints.find S.stream = S.checkpointOpt done) (hd : done ≤ last)
    (hl : last ≤ done + 1) (hsi : last = done → size = S.sizes last)
    (h : S.node.makeRoutingReceiptOffer P S.request size now db = .ok (offer, db')) :
    db'.receipts = db.receipts ∧ ∃ last', last ≤ last' ∧ last' ≤ done + 1 ∧ S.Offered last' offer ∧
      S.OfferStands db'.offerStates last' := by
  have hf : db.receipts.checkpoints.find (S.node.streamId S.request) = S.checkpointOpt done := hc
  simp only [makeRoutingReceiptOffer, hf, bind_eq_ok, mapErr_eq_ok, pure_eq_ok, Prod.mk.injEq, Prod.exists] at h
  obtain ⟨_, -, stateOpt, hlo, _, -, chosen, isNew, hch, _, -, offerStates, hp, rfl, rfl⟩ := h
  refine ⟨rfl, ?_⟩
  rcases chooseOffer_spec hs hlo hd hl hsi hch with ⟨rfl, rfl, ho⟩ | ⟨rfl, rfl, ho⟩
  · refine ⟨last + 1, Nat.le_succ last, le_rfl, ho, ho.stands ?_⟩
    simp only [persistOffer, if_true, mapErr_eq_ok] at hp
    rw [← ho.key]
    exact saveRoutingOfferState_find hp
  · refine ⟨done + 1, le_rfl, le_rfl, ho, ?_⟩
    simp only [persistOffer, Bool.false_eq_true, if_false] at hp
    obtain rfl := Except.ok.inj hp
    exact hs

end Offers

/-! ## Accepting an acknowledgement -/

/-- The provider's receipt tables after acknowledgement number `k`, from a spending of `spentBefore` under the
session's nonce and a balance of `balanceBefore` of the payer. -/
structure Settled {P : Primitives} (S : RoutingSetting P) (spentBefore : Nat) (balanceBefore : Int) (db : ReceiptDb)
    (k : Nat) : Prop where
  checkpoint : db.checkpoints.find S.stream = S.checkpointOpt k
  authorization : ∀ row, db.authorizations.find S.nonce = some row → row.authorization = S.request.authorization
  spent : spentUnder db S.nonce = spentBefore + S.total k
  balance : balanceOf db.receivables S.policy.payerWalletAddress = balanceBefore + S.total k
  claim : ∀ row, db.outbox.find S.stream = some row → row.claimId = S.claimId ∧ row.authorizationNonce = S.nonce ∧
    ∃ j, S.Acknowledged j row.payload
  unique : ∀ row ∈ db.outbox.rows, row.claimId = S.claimId → row.streamId = S.stream

section Acceptance

variable {S : RoutingSetting P} {spentBefore : Nat} {bal : Int} {db : ReceiptDb} {payload : ServiceReceiptPayload}

theorem RoutingSetting.streamId_checkpointOf (k : Nat) : (S.checkpointOf k).streamId = S.stream := by
  simp only [ReceiptSequenceCheckpoint.streamId, RoutingSetting.checkpointOf, S.key]
  rfl

/-- The acknowledged receipt passes the check of the session's authorization. -/
theorem RoutingSetting.Acknowledged.authorized (h : S.Acknowledged k payload) (ho : S.policy.Open now)
    (hc : S.total k ≤ S.policy.maxTotalChargeWei) :
    payload.authorization.verifyForReceipt P payload.acknowledgedReceipt S.node.cryptde S.node.chainId
      S.node.settlementContract now = .ok (S.receiptAt k).charge := by
  obtain ⟨c, hv⟩ := S.valid
  simp only [AuthorizedReceiptSession.verifyForReceipt, bind_eq_ok, pure_eq_ok]
  refine ⟨_, h.verified _, (), ?_, rfl⟩
  rw [h.key, h.authorization, h.offered.receipt, S.chainId, S.settlementContract, S.key]
  exact verify_within hv ho hc

/-- The next acknowledgement moves the checkpoint. -/
theorem RoutingSetting.Acknowledged.nextCheckpoint (h : S.Acknowledged (k + 1) payload)
    (hc : S.total (k + 1) ≤ S.policy.maxTotalChargeWei) :
    S.node.nextCheckpoint P payload.acknowledgedReceipt (S.checkpointOpt k) = .ok (S.checkpointOf (k + 1)) := by
  have hm := S.cap_lt
  have ht := S.total_succ k
  by_cases hk : k = 0
  · subst hk
    simp only [nextCheckpoint, RoutingSetting.checkpointOpt, if_true]
    refine beginWithContiguity_eq_ok_iff.2 ⟨⟨_, h.verified _⟩, ?_, ?_, h.ofAcknowledged.symm⟩
    · rw [h.offered.receipt, S.charge_receiptAt]
      exact ht.ge.trans' (Nat.le_add_left _ _)
    · exact fun hf => absurd hf Bool.false_ne_true
  · simp only [RoutingSetting.checkpointOpt, if_neg hk]
    refine advanceWithContiguity_eq_ok_iff.2 ⟨⟨_, h.verified _⟩, ?_⟩
    rw [h.offered.receipt, h.key, S.charge_receiptAt]
    refine ⟨rfl, rfl, rfl, rfl, Nat.lt_succ_self k, ?_, ht.ge, fun hf => absurd hf Bool.false_ne_true,
      h.ofAcknowledged.symm⟩
    simp only [RoutingSetting.checkpointOf]
    omega

/-- The last acknowledgement again does not. -/
theorem RoutingSetting.Acknowledged.nextCheckpoint_again (h : S.Acknowledged k payload) :
    ∃ e, S.node.nextCheckpoint P payload.acknowledgedReceipt (S.checkpointOpt k) = .error e := by
  have hp := h.offered.pos
  cases hn : S.node.nextCheckpoint P payload.acknowledgedReceipt (S.checkpointOpt k) with
  | error e => exact ⟨e, rfl⟩
  | ok checkpoint =>
    simp only [RoutingSetting.checkpointOpt, if_neg (Nat.ne_of_gt hp)] at hn
    obtain ⟨-, -, -, -, -, hs, -⟩ := advanceWithContiguity_eq_ok_iff.1 hn
    rw [h.offered.receipt] at hs
    exact absurd hs (lt_irrefl k)

theorem Settled.checkStoredClaim (h : Settled S spentBefore bal db k) :
    checkStoredClaim P (db.outbox.find S.stream) S.request.authorization = .ok () := by
  cases hf : db.outbox.find S.stream with
  | none => rfl
  | some row =>
    obtain ⟨hid, hn, j, hr⟩ := h.claim row hf
    simp only [MasqMobile.checkStoredClaim, bind_eq_ok, failIf_eq_ok, not_not, deserializeSettlementClaim_eq_ok_iff]
    refine ⟨row.payload, ⟨hr.nonce.trans hn.symm, ?_, hr.claimId.trans hid.symm, rfl⟩, hr.authorization⟩
    rw [hr.authorization, hr.key, S.key]

theorem Settled.storedSpending (h : Settled S spentBefore bal db k) :
    storedSpending (db.authorizations.find S.nonce) S.request.authorization = .ok (spentBefore + S.total k) := by
  have hs := h.spent
  unfold spentUnder Table.valueAt at hs
  cases hf : db.authorizations.find S.nonce with
  | none =>
    rw [hf] at hs
    rw [← hs]
    rfl
  | some row =>
    rw [hf] at hs
    simp only [MasqMobile.storedSpending, bind_eq_ok, failIf_eq_ok, pure_eq_ok, not_not]
    exact ⟨(), h.authorization row hf, hs⟩

theorem Settled.checkpointDelta (h : Settled S spentBefore bal db k) :
    checkpointDelta (db.checkpoints.find S.stream) (S.checkpointOf (k + 1)) = .ok (S.price (S.sizes k)) := by
  rw [h.checkpoint, RoutingSetting.checkpointOpt]
  have ht := S.total_succ k
  have hl := S.total_lt_succ k
  by_cases hk : k = 0
  · subst hk
    rw [if_pos rfl, MasqMobile.checkpointDelta]
    simp only [RoutingSetting.checkpointOf, ht, S.total_zero, zero_add]
  · rw [if_neg hk]
    simp only [MasqMobile.checkpointDelta, RoutingSetting.checkpointOf, bind_eq_ok, okOr_eq_ok, checkedSub_eq_some_iff]
    exact ⟨(), failIf_eq_ok.2 (by simp), (), failIf_eq_ok.2 (by omega), by omega, by omega⟩

theorem SessionSetting.cap_le (S : SessionSetting P) : S.policy.maxTotalChargeWei < 2 ^ 127 := by
  obtain ⟨c, hv⟩ := S.valid
  simp only [AuthorizedReceiptSession.verify, ReceiptSessionPolicy.validateStructure, bind_eq_ok,
    failIf_eq_ok, not_lt] at hv
  obtain ⟨_, ⟨_, -, _, -, _, -, _, -, _, -, _, -, _, hm, -⟩, -⟩ := hv
  exact lt_of_le_of_lt hm (by decide)

/-- **The next acknowledgement** is accepted: checkpoint, spending, balance and claim move to it. -/
theorem Settled.accept (h : Settled S spentBefore bal db k) (ha : S.Acknowledged (k + 1) payload)
    (hop : S.policy.Open now) (hc : spentBefore + S.total (k + 1) ≤ S.policy.maxTotalChargeWei)
    (hro : balanceOf db.receivables S.policy.payerWalletAddress + S.price (S.sizes k) ≤ maxDbBalance)
    (o : OfferStates) :
    ∃ db', S.node.acceptServiceReceipt P payload now ⟨db, o⟩ = ⟨db', o⟩ ∧ Settled S spentBefore bal db' (k + 1) := by
  have ht := S.total_succ k
  have hba := h.balance
  have hau := ha.authorization
  have hs := S.streamId_checkpointOf (k + 1)
  have hv : validateSettlementClaimForCheckpoint payload (S.checkpointOf (k + 1)) = .ok () := by
    simp only [validateSettlementClaimForCheckpoint, failIf_eq_ok, not_or, not_not, ha.receipt, ha.key, hau]
    exact ⟨S.key.symm, rfl, rfl, rfl, rfl, rfl, rfl⟩
  obtain ⟨db', hb⟩ := acceptBody_ok payload (S.checkpointOf (k + 1)) now db hv S.commitment
    (by rw [hs, hau]; exact h.checkStoredClaim)
    (by rw [ha.nonce, hau]; exact h.storedSpending) (by rw [hs]; exact h.checkpointDelta)
    (by rw [hau]; exact (by omega : spentBefore + S.total k + S.price (S.sizes k) ≤ S.policy.maxTotalChargeWei))
    (by rw [hau]; exact S.cap_le)
    (by rw [hau]; exact hro)
    (by
      intro hno row hr hid
      rw [ha.claimId] at hid
      rw [hs] at hno
      exact Table.find_eq_none_iff.1 hno row hr (h.unique row hr hid))
  have hac := acceptBody_eq_ok hb
  refine ⟨db', ?_, ?_⟩
  · have hpr : ¬payload.receipt.providerPublicKey ≠ S.node.cryptde.publicKey := by
      rw [ha.receipt]
      exact not_not.2 rfl
    simp only [acceptServiceReceipt, if_neg hpr, ha.authorized hop (by omega), ha.streamId,
      h.checkpoint, ha.nextCheckpoint (by omega), acceptVerifiedReceipt, Transaction.atomically, hb]
  · obtain ⟨row, hr, ho⟩ := hac.outbox'
    have hne : row.claimId = S.claimId ∧ row.authorizationNonce = S.nonce ∧ row.payload = payload := by
      rw [hs] at hr
      cases hfi : db.outbox.find S.stream with
      | none =>
        simp only [hfi, claimRow, bind_eq_ok, pure_eq_ok] at hr
        obtain ⟨_, -, rfl⟩ := hr
        exact ⟨ha.claimId, ha.nonce, rfl⟩
      | some old =>
        obtain ⟨hid, hn, -⟩ := h.claim old hfi
        simp only [hfi, claimRow] at hr
        obtain rfl := Except.ok.inj hr
        exact ⟨hid, hn, rfl⟩
    obtain ⟨hid, hn, hp⟩ := hne
    have hk : row.streamId = S.stream := by rw [OutboxRow.streamId, hp, ha.streamId]
    refine {
      checkpoint := ?_
      authorization := fun row' hf => ?_
      spent := ?_
      balance := ?_
      claim := fun row' hf => ?_
      unique := fun row' hm hid' => ?_ }
    · rw [hac.checkpoints', ← hs, Table.find_put_self, RoutingSetting.checkpointOpt, if_neg (Nat.succ_ne_zero k)]
    · rw [hac.findAuthorization, if_pos ha.nonce, Option.some.injEq] at hf
      rw [← hf]
      exact hau
    · rw [hac.spentUnder_eq, if_pos ha.nonce, h.spent, ht, add_assoc]
    · have hw : payload.authorization.policy.payerWalletAddress = S.policy.payerWalletAddress := by
        rw [hau]
        rfl
      rw [balanceOf_accepted hac, if_pos hw, hba, ht, Nat.cast_add, add_assoc]
    · rw [ho, ← hk, Table.find_put_self, Option.some.injEq] at hf
      subst hf
      exact ⟨hid, hn, k + 1, hp ▸ ha⟩
    · rw [ho] at hm
      rcases Table.mem_put.1 hm with rfl | ⟨hol, -⟩
      · exact hk
      · exact h.unique row' hol hid'

/-- The last acknowledgement again is refused and changes nothing. -/
theorem Settled.again (h : Settled S spentBefore bal db k) (ha : S.Acknowledged k payload) (o : OfferStates) :
    S.node.acceptServiceReceipt P payload now ⟨db, o⟩ = ⟨db, o⟩ := by
  obtain ⟨e, hn⟩ := ha.nextCheckpoint_again
  simp only [acceptServiceReceipt, ha.streamId, h.checkpoint, hn]
  split
  · rfl
  · split <;> rfl

end Acceptance

end MasqMobile
