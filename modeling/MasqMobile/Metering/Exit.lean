import MasqMobile.Lib.Run
import MasqMobile.Metering.Consumer

/-!
# Metering between a consumer and its exit

Both sides price a response together with the requests since the previous one, each by its own order of
events. The consumer counts a request when it is sent and a response when it arrives; the exit node counts
a request when it arrives and a response when it is emitted. Between them are two FIFO channels.

| here | there |
| --- | --- |
| `ExitNode.clientRequest` | `Handler<ExpiredCoresPackage<ClientRequestPayload_0v1>>` (proxy_client/mod.rs:110) |
| `ExitNode.inboundServerData` | `Handler<InboundServerData>` (proxy_client/mod.rs:251) |
| `ExitNode.makeServiceReceiptOffer` | `make_service_receipt_offer` (proxy_client/mod.rs:506) |
| `ProviderReceiptState.commit` | `commit_service_receipt_offer` (proxy_client/mod.rs:569) |
| `ExitStream.nextSequence` | `Sequencer` (sub_lib/sequencer.rs) of the stream's reader |

Of the stream's context only the receipt state is kept.
-/

namespace MasqMobile

open Fallible ServiceReceipt

/-- proxy_client/mod.rs:604 -/
structure ProviderReceiptState where
  request : ReceiptSessionRequest
  lastSignedReceiptOpt : Option SignedServiceReceipt
  pendingRequestPayloadSize : Nat
  pendingRequestServiceUnits : Nat

structure ExitNode where
  cryptde : CryptDE
  chainId : Nat
  settlementContract : Address
  exitServiceRate : Nat
  exitByteRate : Nat

/-- Why no offer is made (the texts of `make_service_receipt_offer`); it is only logged. -/
inductive ExitOfferError where
  | aggregatePayloadSize
  | aggregateServiceUnits
  | advance (error : ServiceReceiptError)
  | sign (error : ServiceReceiptError)

/-- One packet of `size` bytes added to the pending size and units, as checked `u64` sums; nothing is
added for an empty packet, and `none` is an overflow. -/
def addRequest (pending : Nat × Nat) (size : Nat) : Option (Nat × Nat) := if size = 0 then some pending
  else
    match checkedAdd 64 pending.1 size, checkedAdd 64 pending.2 1 with
    | some payloadSize, some serviceUnits => some (payloadSize, serviceUnits)
    | _, _ => none

/-- The pending requests together with one response. -/
def addResponse (pending : Nat × Nat) (size : Nat) : Option (Nat × Nat) :=
  match checkedAdd 64 pending.1 size, checkedAdd 64 pending.2 1 with
  | some payloadSize, some serviceUnits => some (payloadSize, serviceUnits)
  | _, _ => none

namespace ProviderReceiptState

def pending (state : ProviderReceiptState) : Nat × Nat :=
  (state.pendingRequestPayloadSize, state.pendingRequestServiceUnits)

/-- The state of a stream's first metered request. -/
def opened (request : ReceiptSessionRequest) : ProviderReceiptState := ⟨request, none, 0, 0⟩

def commit (state : ProviderReceiptState) (offer : SignedServiceReceipt) : ProviderReceiptState :=
  { state with lastSignedReceiptOpt := some offer, pendingRequestPayloadSize := 0, pendingRequestServiceUnits := 0 }

end ProviderReceiptState

namespace ExitNode

variable (P : Primitives) (node : ExitNode)

/-- The stream's receipt state after a metered request; a refused one leaves it as it was. -/
def clientRequest (stateOpt : Option ProviderReceiptState) (request : ReceiptSessionRequest) (size now : Nat) :
    Option ProviderReceiptState :=
  match request.verify P node.chainId node.settlementContract now with
  | .error _ => stateOpt
  | .ok () =>
    let state := stateOpt.getD (.opened request)
    if state.request ≠ request then stateOpt
    else
      match addRequest state.pending size with
      | some (payloadSize, serviceUnits) =>
        some { state with
          pendingRequestPayloadSize := payloadSize
          pendingRequestServiceUnits := serviceUnits }
      | none => stateOpt

variable (state : ProviderReceiptState)

/-- proxy_client/mod.rs:539: the last receipt advanced, or the first one of the route. -/
def nextReceipt (sequence payloadSize serviceUnits : Nat) : Except ExitOfferError ServiceReceipt :=
  match state.lastSignedReceiptOpt with
  | some previous =>
    mapErr .advance (previous.receipt.nextWithServiceUnits sequence .exit payloadSize serviceUnits
      node.exitServiceRate node.exitByteRate)
  | none =>
    .ok (newWithServiceUnits state.request.routeEpoch sequence .exit node.cryptde.publicKey
      state.request.accountingCommitment payloadSize serviceUnits node.exitServiceRate node.exitByteRate)

def makeServiceReceiptOffer (sequence size : Nat) : Except ExitOfferError SignedServiceReceipt := do
  let payloadSize ← okOr (checkedAdd 64 state.pendingRequestPayloadSize size) .aggregatePayloadSize
  let serviceUnits ← okOr (checkedAdd 64 state.pendingRequestServiceUnits 1) .aggregateServiceUnits
  let receipt ← node.nextReceipt state sequence payloadSize serviceUnits
  mapErr .sign (receipt.sign P node.cryptde)

/-- The offer sent with a response, and the receipt state after it. Without an offer the response is
accounted for in the old way and the pending requests stay; the last data retire the stream. -/
def inboundServerData (sequence size : Nat) (lastData : Bool) :
    Option SignedServiceReceipt × Option ProviderReceiptState :=
  match makeServiceReceiptOffer P node state sequence size with
  | .ok offer => (some offer, if lastData then none else some (state.commit offer))
  | .error _ => (none, if lastData then none else some state)

end ExitNode

/-! ## The two parties and their channels -/

structure Response where
  sequence : Nat
  size : Nat
  offerOpt : Option SignedServiceReceipt

/-- An offer that reached the consumer: its front observation then, and what `acknowledge_offer` returned. -/
structure Answer where
  front : Option (Nat × Nat × Nat)
  offer : SignedServiceReceipt
  result : Except ReceiptSessionManagerError ServiceReceiptPayload

structure ExitStream (σ : Type) where
  consumer : ReceiptSessionManager σ
  requests : List Nat
  exit : Option ProviderReceiptState
  nextSequence : Nat
  retired : Bool
  responses : List Response
  answers : List Answer

inductive ExitEvent where
  | sendRequest (size now : Nat)
  | requestArrives (now : Nat)
  | emitResponse (size : Nat) (lastData : Bool)
  | responseArrives (now : Nat)

def ReceiptSessionManager.frontObservation {σ : Type} (m : ReceiptSessionManager σ) (streamKey : StreamKey) :
    Option (Nat × Nat × Nat) :=
  m.activeOpt.bind fun active =>
    (active.routes.find? (·.streamKey = streamKey)).bind fun route => route.observedResponses.head?

namespace ExitStream

variable {σ : Type} [ReceiptSessionRecoveryStore σ] (P : Primitives) (node : ExitNode) (streamKey : StreamKey)
  (request : ReceiptSessionRequest)

def start (m : ReceiptSessionManager σ) : ExitStream σ := ⟨m, [], none, 0, false, [], []⟩

/-- The consumer on a response: observe it, then acknowledge the offer it carries. -/
def receive (s : ExitStream σ) (response : Response) (rest : List Response) (now : Nat) : ExitStream σ :=
  let observed := (s.consumer.recordExitResponse P streamKey response.sequence response.size now).2
  match response.offerOpt with
  | none => { s with consumer := observed, responses := rest }
  | some offer =>
    let (result, consumer) := observed.acknowledgeOffer P offer now
    { s with consumer, responses := rest,
             answers := s.answers ++ [⟨observed.frontObservation streamKey, offer, result⟩] }

def step (s : ExitStream σ) : ExitEvent → ExitStream σ
  | .sendRequest size now =>
    { s with
      consumer := if size = 0 then s.consumer else (s.consumer.recordExitRequest P streamKey size now).2
      requests := s.requests ++ [size] }
  | .requestArrives now =>
    match s.requests with
    | [] => s
    | size :: rest => { s with exit := node.clientRequest P s.exit request size now, requests := rest }
  | .emitResponse size lastData =>
    match s.exit with
    | none => s
    | some state =>
      let (offerOpt, exit) := node.inboundServerData P state s.nextSequence size lastData
      { s with
        exit
        nextSequence := if lastData then 0 else s.nextSequence + 1
        retired := s.retired || lastData
        responses := s.responses ++ [⟨s.nextSequence, size, offerOpt⟩] }
  | .responseArrives now =>
    match s.responses with
    | [] => s
    | response :: rest => receive P streamKey s response rest now

end ExitStream

/-! ## What the parties agree on -/

/-- A consumer and an exit node with one session and one route between them. -/
structure ExitSetting (P : Primitives) extends SessionSetting P where
  node : ExitNode
  chainId : node.chainId = config.chainId
  settlementContract : node.settlementContract = config.settlementContract
  provider_ne : node.cryptde.publicKey ≠ []

namespace ExitSetting

variable {P : Primitives} (S : ExitSetting P) (spentBefore : Nat)

def price (aggregate : Nat × Nat) : Nat := S.node.exitServiceRate * aggregate.2 + S.node.exitByteRate * aggregate.1

/-- An offer of the exit node on this route, within what the session had left before the stream. -/
structure Issued (offer : SignedServiceReceipt) : Prop where
  sign : offer.receipt.sign P S.node.cryptde = .ok offer
  routeEpoch : offer.receipt.routeEpoch = S.request.routeEpoch
  accountingCommitment : offer.receipt.accountingCommitment = S.request.accountingCommitment
  provider : offer.receipt.providerPublicKey = S.node.cryptde.publicKey
  kind : offer.receipt.serviceKind = .exit
  serviceRate : offer.receipt.serviceRate = S.node.exitServiceRate
  byteRate : offer.receipt.byteRate = S.node.exitByteRate
  capped : spentBefore + offer.receipt.cumulativeChargeWei ≤ S.policy.maxTotalChargeWei

end ExitSetting

/-- The cumulative charge an offer stands at. -/
def standing (lastOpt : Option SignedServiceReceipt) : Nat := lastOpt.elim 0 (·.receipt.cumulativeChargeWei)

def ExitSetting.receiptFor {P : Primitives} (S : ExitSetting P) (lastOpt : Option SignedServiceReceipt) (sequence : Nat)
    (aggregate : Nat × Nat) : ServiceReceipt where
  protocolVersion := serviceReceiptProtocolVersion
  routeEpoch := S.request.routeEpoch
  sequence := sequence
  serviceKind := .exit
  providerPublicKey := S.node.cryptde.publicKey
  accountingCommitment := S.request.accountingCommitment
  payloadSize := aggregate.1
  serviceUnits := aggregate.2
  serviceRate := S.node.exitServiceRate
  byteRate := S.node.exitByteRate
  cumulativeChargeWei := standing lastOpt + S.price aggregate

/-- The receipt is the next one after `lastOpt`. -/
def Follows (lastOpt : Option SignedServiceReceipt) (receipt : ServiceReceipt) : Prop :=
  (∀ last ∈ lastOpt, last.receipt.sequence < receipt.sequence) ∧
    receipt.cumulativeChargeWei = standing lastOpt + receipt.charge

/-- The responses on their way, read by the consumer from its pending requests and its last
acknowledged offer on: where it will be after the last of them. -/
inductive Flow {P : Primitives} (S : ExitSetting P) (spentBefore : Nat) :
    Nat × Nat → Option SignedServiceReceipt → List Response → Nat × Nat → Option SignedServiceReceipt → Prop
  | nil {pending lastOpt} : Flow S spentBefore pending lastOpt [] pending lastOpt
  | offered {pending lastOpt response rest pending' lastOpt'} (offer : SignedServiceReceipt)
      (hoffer : response.offerOpt = some offer) (hissued : S.Issued spentBefore offer)
      (hsequence : offer.receipt.sequence = response.sequence)
      (htotals : addResponse pending response.size = some (offer.receipt.payloadSize, offer.receipt.serviceUnits))
      (hfollows : Follows lastOpt offer.receipt) (hrest : Flow S spentBefore (0, 0) (some offer) rest pending' lastOpt') :
      Flow S spentBefore pending lastOpt (response :: rest) pending' lastOpt'
  | overflowed {pending lastOpt response rest pending' lastOpt'} (hoffer : response.offerOpt = none)
      (htotals : addResponse pending response.size = none)
      (hrest : Flow S spentBefore pending lastOpt rest pending' lastOpt') :
      Flow S spentBefore pending lastOpt (response :: rest) pending' lastOpt'

section Offers

variable {P : Primitives} {S : ExitSetting P} {spent size : Nat} {aggregate : Nat × Nat} {st : ProviderReceiptState}

theorem Flow.concat {p'' : Nat × Nat} {lastOpt lastOpt' lastOpt'' : Option SignedServiceReceipt}
    {res : Response} (h : Flow S spent p lastOpt re p' lastOpt')
    (hn : Flow S spent p' lastOpt' [res] p'' lastOpt'') :
    Flow S spent p lastOpt (re ++ [res]) p'' lastOpt'' := by
  induction h with
  | nil => exact hn
  | offered offer ho his hs ht hf _ ih =>
    exact .offered offer ho his hs ht hf (ih hn)
  | overflowed ho ht _ ih => exact .overflowed ho ht (ih hn)

theorem sign_ok (re : ServiceReceipt) (hve : re.protocolVersion = serviceReceiptProtocolVersion)
    (he : re.routeEpoch = S.request.routeEpoch)
    (hc : re.accountingCommitment = S.request.accountingCommitment)
    (hp : re.providerPublicKey = S.node.cryptde.publicKey) (hu : re.serviceUnits ≠ 0)
    (hf : re.charge < 2 ^ 128) (hcu : re.charge ≤ re.cumulativeChargeWei) :
    ∃ signature, re.sign P S.node.cryptde = .ok ⟨re, signature⟩ := by
  have hv : re.validate = .ok () := by
    simp only [validate, bind_eq_ok, failIf_eq_ok, checkedTotalChargeWei_eq_ok_iff, not_not, not_lt]
    exact ⟨(), hve, (), he ▸ S.epoch, (), hc ▸ S.commitment_ne, (), hp ▸ S.provider_ne, (), hu, _, ⟨hf, rfl⟩, hcu⟩
  obtain ⟨signature, hs, -, -⟩ := S.signs S.node.cryptde (.serviceReceipt re)
  refine ⟨signature, ?_⟩
  simp only [ServiceReceipt.sign, bind_eq_ok, failIf_eq_ok, mapErr_eq_ok, pure_eq_ok, not_not]
  exact ⟨(), hv, (), hp.symm, signature, hs, rfl⟩

theorem validate_of_sign {re : ServiceReceipt} {offer : SignedServiceReceipt}
    (h : re.sign P c = .ok offer) : re.validate = .ok () := by
  simp only [ServiceReceipt.sign, bind_eq_ok] at h
  obtain ⟨_, hv, -⟩ := h
  exact hv

theorem addResponse_eq_some_iff : addResponse p size = some aggregate ↔
      checkedAdd 64 p.1 size = some aggregate.1 ∧ checkedAdd 64 p.2 1 = some aggregate.2 := by
  unfold addResponse
  obtain ⟨payloadSize, serviceUnits⟩ := aggregate
  cases checkedAdd 64 p.1 size <;> cases checkedAdd 64 p.2 1 <;> simp

theorem nextReceipt_eq {se : Nat} (hr : st.request = S.request)
    (hl : ∀ last ∈ st.lastSignedReceiptOpt, S.Issued spent last ∧ last.receipt.sequence < se)
    (hu : aggregate.2 ≠ 0)
    (hc : spent + standing st.lastSignedReceiptOpt + S.price aggregate ≤ S.policy.maxTotalChargeWei) :
    S.node.nextReceipt st se aggregate.1 aggregate.2 = .ok (S.receiptFor st.lastSignedReceiptOpt se aggregate) := by
  have hm := S.cap_lt
  have hch : checkedChargeWei S.node.exitServiceRate aggregate.2 S.node.exitByteRate aggregate.1 =
      .ok (S.price aggregate) := checkedChargeWei_eq_ok_iff.2 ⟨by unfold ExitSetting.price at hc; omega, rfl⟩
  unfold ExitNode.nextReceipt
  cases ho : st.lastSignedReceiptOpt with
  | none =>
    simp only [newWithServiceUnits, ExitSetting.receiptFor, hch, hr, standing, Option.elim, zero_add]
  | some last =>
    obtain ⟨his, hs⟩ := hl last ho
    rw [ho] at hc
    refine mapErr_eq_ok.2 ?_
    simp only [nextWithServiceUnits, bind_eq_ok, failIf_eq_ok, okOr_eq_ok, checkedAdd_eq_some_iff, pure_eq_ok, not_le]
    refine ⟨(), validate_of_sign his.sign, (), hs, (), hu, _, hch, _, ⟨?_, rfl⟩, ?_⟩
    · simp only [standing, Option.elim] at hc
      omega
    · rw [his.routeEpoch, his.provider, his.accountingCommitment]
      rfl

/-- **The exit node's offer** carries exactly its pending requests and the response. -/
theorem makeServiceReceiptOffer_ok (hre : st.request = S.request)
    (hl : ∀ last ∈ st.lastSignedReceiptOpt, S.Issued spent last ∧ last.receipt.sequence < se)
    (ht : addResponse st.pending size = some aggregate)
    (hca : spent + standing st.lastSignedReceiptOpt + S.price aggregate ≤ S.policy.maxTotalChargeWei) :
    ∃ offer, S.node.makeServiceReceiptOffer P st se size = .ok offer ∧ S.Issued spent offer ∧
      offer.receipt = S.receiptFor st.lastSignedReceiptOpt se aggregate ∧
      Follows st.lastSignedReceiptOpt offer.receipt := by
  have hma := S.cap_lt
  obtain ⟨hsi, hu⟩ := addResponse_eq_some_iff.1 ht
  have hp : aggregate.2 ≠ 0 := by
    obtain ⟨-, heq⟩ := checkedAdd_eq_some_iff.1 hu
    omega
  have hr := nextReceipt_eq hre hl hp hca
  have hpr : (S.receiptFor st.lastSignedReceiptOpt se aggregate).charge = S.price aggregate := rfl
  obtain ⟨signature, hs⟩ := sign_ok (S.receiptFor st.lastSignedReceiptOpt se aggregate) rfl rfl rfl rfl
    hp (by omega) (Nat.le_add_left _ _)
  refine ⟨⟨_, signature⟩, ?_, ⟨hs, rfl, rfl, rfl, rfl, rfl, rfl, ?_⟩, rfl, fun last hm => (hl last hm).2, rfl⟩
  · simp only [ExitNode.makeServiceReceiptOffer, bind_eq_ok, okOr_eq_ok, mapErr_eq_ok]
    exact ⟨_, hsi, _, hu, _, hr, hs⟩
  · have hc : spent + (standing st.lastSignedReceiptOpt + S.price aggregate) ≤ S.policy.maxTotalChargeWei := by omega
    exact hc

theorem makeServiceReceiptOffer_overflow (node : ExitNode) (se : Nat)
    (ht : addResponse st.pending size = none) :
    ∃ e, node.makeServiceReceiptOffer P st se size = .error e := by
  cases hm : node.makeServiceReceiptOffer P st se size with
  | error e => exact ⟨e, rfl⟩
  | ok offer =>
    simp only [ExitNode.makeServiceReceiptOffer, bind_eq_ok, okOr_eq_ok] at hm
    obtain ⟨payloadSize, hs, serviceUnits, hu, -⟩ := hm
    have ht' : addResponse st.pending size = some (payloadSize, serviceUnits) := addResponse_eq_some_iff.2 ⟨hs, hu⟩
    rw [ht] at ht'
    cases ht'

end Offers

/-! ## The consumer's side -/

def ReceiptRouteState.pending (route : ReceiptRouteState) : Nat × Nat :=
  (route.pendingRequestPayloadSize, route.pendingRequestServiceUnits)

/-- The pending requests after one more, which an overflow leaves out. -/
def countRequest (pending : Nat × Nat) (size : Nat) : Nat × Nat := (addRequest pending size).getD pending

/-- The route's checkpoint stands at the last acknowledged offer. -/
def StandsAt {P : Primitives} (S : ExitSetting P) (spentBefore : Nat) (route : ReceiptRouteState) :
    Option SignedServiceReceipt → Prop
  | none => route.checkpointOpt = none ∧ route.acknowledgedPayloadOpt = none
  | some last => S.Issued spentBefore last ∧ ∃ payload, route.acknowledgedPayloadOpt = some payload ∧
      payload.acknowledgedReceipt.signedReceipt = last ∧
      payload.acknowledgedReceipt.payerSessionPublicKey = S.payer.publicKey ∧
      route.checkpointOpt = some (.ofAcknowledged payload.acknowledgedReceipt)

/-- The consumer has the setting's session and route, has acknowledged up to `lastOpt`, and has observed
the responses `observed` since. -/
structure Consuming {σ : Type} {P : Primitives} (S : ExitSetting P) (spentBefore : Nat) (m : ReceiptSessionManager σ)
    (active : ActiveReceiptSession) (route : ReceiptRouteState) (observed : List (Nat × Nat × Nat))
    (lastOpt : Option SignedServiceReceipt) : Prop where
  onRoute : OnRoute m active route
  config : m.config = S.config
  authorization : active.authorization = S.request.authorization
  payer : active.payerCryptde = S.payer
  spent : active.spentChargeWei = spentBefore + standing lastOpt
  streamKey : route.streamKey = S.streamKey
  request : route.request = S.request
  provider : route.expectedProviderPublicKeyOpt = some S.node.cryptde.publicKey
  serviceRate : route.exitServiceRateOpt = some S.node.exitServiceRate
  byteRate : route.exitByteRateOpt = some S.node.exitByteRate
  observed : route.observedResponses = observed
  stands : StandsAt S spentBefore route lastOpt

section Consumer

open ReceiptSessionManager

variable {σ : Type} [ReceiptSessionRecoveryStore σ] {P : Primitives} {S : ExitSetting P} {spent : Nat}
  {m : ReceiptSessionManager σ} {act : ActiveReceiptSession} {route : ReceiptRouteState}
  {obs : List (Nat × Nat × Nat)} {lastOpt : Option SignedServiceReceipt} {now : Nat}
  {size : Nat} {offer : SignedServiceReceipt}

/-- A saved route that differs in the counters only. -/
theorem Consuming.save (h : Consuming S spent m act route obs lastOpt) (hs : StoreSaves σ)
    (hn : now ≤ S.policy.expiresAtUnixS) (u : ReceiptRouteState → RouteUpdate) {obs' : List (Nat × Nat × Nat)}
    (hu : u route = .save { route with
      observedResponses := obs', pendingRequestPayloadSize := size, pendingRequestServiceUnits := un }) :
    ∃ act' route', Consuming S spent (m.onRoute P S.streamKey now u).2 act' route' obs' lastOpt ∧
      route'.pending = (size, un) := by
  have he : now ≤ act.authorization.policy.expiresAtUnixS := by
    rw [h.authorization]
    exact hn
  obtain ⟨-, hc, hr⟩ := h.onRoute.save (P := P) hs he u hu rfl rfl
  rw [← h.streamKey]
  refine ⟨_, _, ⟨hr, hc.trans h.config, h.authorization, h.payer, h.spent, h.streamKey, h.request, h.provider,
    h.serviceRate, h.byteRate, rfl, ?_⟩, rfl⟩
  cases lastOpt with
  | none | some => exact h.stands

theorem Consuming.refuse (h : Consuming S spent m act route obs lastOpt)
    (hn : now ≤ S.policy.expiresAtUnixS) (u : ReceiptRouteState → RouteUpdate) (hu : u route = .reject e route) :
    ∃ act', Consuming S spent (m.onRoute P S.streamKey now u).2 act' route obs lastOpt := by
  have he : now ≤ act.authorization.policy.expiresAtUnixS := by
    rw [h.authorization]
    exact hn
  obtain ⟨-, hc, hr⟩ := h.onRoute.refuse (P := P) he hu
  rw [← h.streamKey]
  exact ⟨_, { h with onRoute := hr, config := hc.trans h.config }⟩

/-- Sending a request counts it. -/
theorem Consuming.recordRequest (h : Consuming S spent m act route obs lastOpt) (hst : StoreSaves σ)
    (hn : now ≤ S.policy.expiresAtUnixS) (hs : size ≠ 0)
    (hun : route.pendingRequestServiceUnits + 1 < 2 ^ 64) :
    ∃ act' route', Consuming S spent (m.recordExitRequest P S.streamKey size now).2 act' route' obs
      lastOpt ∧ route'.pending = countRequest route.pending size := by
  have ho : checkedAdd 64 route.pendingRequestServiceUnits 1 = some (route.pendingRequestServiceUnits + 1) :=
    checkedAdd_eq_some_iff.2 ⟨hun, rfl⟩
  cases ha : checkedAdd 64 route.pendingRequestPayloadSize size with
  | none =>
    have hu : observeRequest route size = .reject .receiptObservationMismatch route := by
      simp only [observeRequest, if_neg hs, ha]
    obtain ⟨act', h'⟩ := h.refuse (P := P) hn (observeRequest · size) hu
    refine ⟨act', route, h', ?_⟩
    simp only [countRequest, addRequest, if_neg hs, ReceiptRouteState.pending, ha, Option.getD_none]
  | some total =>
    have hu : observeRequest route size = .save { route with
        observedResponses := obs
        pendingRequestPayloadSize := total
        pendingRequestServiceUnits := route.pendingRequestServiceUnits + 1 } := by
      simp only [observeRequest, if_neg hs, ha, ho, ← h.observed]
    obtain ⟨act', route', h', hp⟩ := h.save (P := P) hst hn (observeRequest · size) hu
    refine ⟨act', route', h', ?_⟩
    rw [hp]
    simp only [countRequest, addRequest, if_neg hs, ReceiptRouteState.pending, ha, ho, Option.getD_some]

/-- What an issued offer has to continue is what the route's checkpoint stands at. -/
theorem StandsAt.continues (h : StandsAt S spent route lastOpt)
    (his : S.Issued spent offer) (hf : Follows lastOpt offer.receipt) :
    Continues route.checkpointOpt S.payer.publicKey offer.receipt := by
  cases lastOpt with
  | none =>
    rw [h.1]
    have hcu := hf.2
    rwa [standing, Option.elim, zero_add] at hcu
  | some last =>
    obtain ⟨hl, payload, -, rfl, hk, hc⟩ := h
    rw [hc]
    exact ⟨hl.routeEpoch.trans his.routeEpoch.symm, hl.provider.trans his.provider.symm,
      hl.accountingCommitment.trans his.accountingCommitment.symm, hk, hf.1 _ rfl, hf.2⟩

/-- A response whose totals fit is observed, together with the pending requests. -/
theorem Consuming.recordResponse (h : Consuming S spent m act route [] lastOpt) (hsto : StoreSaves σ)
    (hno : now ≤ S.policy.expiresAtUnixS) {aggregate : Nat × Nat}
    (hse : ∀ last ∈ lastOpt, last.receipt.sequence < se)
    (ht : addResponse route.pending size = some aggregate) :
    ∃ act' route', Consuming S spent (m.recordExitResponse P S.streamKey se size now).2 act' route'
      [(se, aggregate)] lastOpt ∧ route'.pending = (0, 0) := by
  obtain ⟨hs, hu⟩ := addResponse_eq_some_iff.1 ht
  have hn : ¬((∃ checkpoint ∈ route.checkpointOpt, se ≤ checkpoint.lastSequence) ∨
      route.observedResponses.length ≥ maxPendingReceiptResponsesPerRoute) := by
    rw [h.observed]
    rintro (⟨checkpoint, hc, hle⟩ | hf)
    · have hst := h.stands
      cases lastOpt with
      | none =>
        rw [hst.1] at hc
        cases hc
      | some last =>
        obtain ⟨-, payload, -, rfl, -, hat⟩ := hst
        rw [hat] at hc
        obtain rfl := Option.some.inj hc
        exact absurd (hse _ rfl) (not_lt.2 hle)
    · exact absurd hf (by decide)
  have hup : observeResponse route se size = .save { route with
      observedResponses := [(se, aggregate)]
      pendingRequestPayloadSize := 0
      pendingRequestServiceUnits := 0 } := by
    simp only [ReceiptRouteState.pending] at hs hu
    rw [observeResponse, if_neg hn]
    simp only [h.observed, hs, hu, List.any_nil, Bool.false_eq_true, if_false, List.nil_append, Prod.mk.eta]
  exact h.save (P := P) hsto hno (observeResponse · se size) hup

/-- A response whose totals overflow is refused. -/
theorem Consuming.recordOverflow (h : Consuming S spent m act route [] lastOpt)
    (hn : now ≤ S.policy.expiresAtUnixS) (se : Nat) (ht : addResponse route.pending size = none) :
    ∃ act', Consuming S spent (m.recordExitResponse P S.streamKey se size now).2 act' route [] lastOpt := by
  have hup : observeResponse route se size = .reject .receiptObservationMismatch route := by
    unfold observeResponse
    split
    · rfl
    · split
      · rfl
      · split
        · rename_i payloadSize serviceUnits hsi hu
          have hs := addResponse_eq_some_iff.2
            (⟨hsi, hu⟩ : checkedAdd 64 route.pending.1 size = some (payloadSize, serviceUnits).1 ∧ _)
          rw [ht] at hs
          cases hs
        · rfl
  exact h.refuse (P := P) hn (observeResponse · se size) hup

/-- The offer for the observed response is acknowledged. -/
theorem Consuming.acknowledge (h : Consuming S spent m act route
      [(offer.receipt.sequence, offer.receipt.payloadSize, offer.receipt.serviceUnits)] lastOpt)
    (hst : StoreSaves σ) (ho : S.policy.Open now) (his : S.Issued spent offer)
    (hf : Follows lastOpt offer.receipt) :
    ∃ payload act' route', (m.acknowledgeOffer P offer now).1 = .ok payload ∧
      Consuming S spent (m.acknowledgeOffer P offer now).2 act' route' [] (some offer) ∧
      route'.pending = route.pending := by
  have hch := hf.2
  have hca := his.capped
  have hsp := h.spent
  have hco := S.countersignable h.config h.authorization h.payer his.sign ho his.routeEpoch
    his.accountingCommitment (h.stands.continues his hf) (by omega) (by omega)
  have hm : checkExitOffer route offer.receipt = .ok () :=
    checkExitOffer_eq_ok_iff.2 ⟨his.provider ▸ h.provider, his.kind, his.serviceRate ▸ h.serviceRate,
      his.byteRate ▸ h.byteRate, by rw [h.observed]; rfl⟩
  have hn : ∀ p ∈ route.acknowledgedPayloadOpt, p.acknowledgedReceipt.signedReceipt ≠ offer := by
    intro p hp heq
    have hs := h.stands
    cases lastOpt with
    | none =>
      rw [hs.2] at hp
      cases hp
    | some last =>
      obtain ⟨-, payload, hpay, rfl, -⟩ := hs
      rw [hpay] at hp
      obtain rfl := Option.some.inj hp
      have hl := hf.1 _ rfl
      rw [heq] at hl
      exact absurd hl (lt_irrefl _)
  obtain ⟨payload, act', hr, -, hsi, hk, -, hc, hro, ha, hpa, hsp'⟩ :=
    h.onRoute.acknowledgeExit hst hco (by rw [h.request, his.routeEpoch]) hn hm
  refine ⟨payload, act', _, hr, ⟨hro, hc.trans h.config, ha.trans h.authorization,
    hpa.trans h.payer, ?_, h.streamKey, h.request, h.provider, h.serviceRate, h.byteRate, ?_, ?_⟩, rfl⟩
  · have hstan : standing (some offer) = offer.receipt.cumulativeChargeWei := rfl
    omega
  · simp only [ReceiptRouteState.acknowledged, h.observed, List.tail_cons]
  · exact ⟨his, payload, rfl, hsi, hk.trans (by rw [h.payer]), rfl⟩

end Consumer

end MasqMobile
