import MasqMobile.Lib.Channel
import MasqMobile.Metering.ExitAgreement
import MasqMobile.Metering.RoutingProvider

/-!
# When a consumer and a routing provider agree

The provider makes an offer with every packet, the consumer queues the size of every packet and compares an offer with
the oldest one. A new offer is priced for the packet that the provider has in hand when the last offer's
acknowledgement is in, and that packet is the one the consumer expects only if it has the size of the packet with the
offer's number (`InStep`).

The invariant has three counters: the last offer of the provider, the last acknowledgement of the consumer and the
last acknowledgement that the provider accepted, each at most one behind the one before it. What is in flight between
two parties is numbered between their counters (`Channel.Carries`).
-/

namespace MasqMobile

open Fallible ReceiptSessionManager RoutingSetting

variable {σ : Type} {P : Primitives} {n now : Nat} {route : ReceiptRouteState} {state : RoutingProviderReceiptState}

/-! ## The consumer -/

def RoutingSetting.way {P : Primitives} (S : RoutingSetting P) (packet : Packet) : List PublicKey :=
  if packet.response then S.responseProviders else S.requestProviders

/-- `record_routing_request` or `record_routing_response`, by the packet's direction. -/
def ReceiptSessionManager.recordPacket {σ : Type} [ReceiptSessionRecoveryStore σ] (P : Primitives)
    (m : ReceiptSessionManager σ) (streamKey : StreamKey) (packet : Packet) (now : Nat) : ReceiptSessionManager σ :=
  if packet.response then (m.recordRoutingResponse P streamKey packet.size now).2
  else (m.recordRoutingRequest P streamKey packet.size now).2

/-- The consumer has the setting's session and route, has acknowledged offer number `n` last, and has
observed the packets `observed` since. -/
structure RoutingConsuming {σ : Type} {P : Primitives} (S : RoutingSetting P) (spentBefore : Nat)
    (m : ReceiptSessionManager σ) (active : ActiveReceiptSession) (route : ReceiptRouteState)
    (state : RoutingProviderReceiptState) (n : Nat) (observed : List Nat) : Prop where
  onRoute : OnRoute m active route
  config : m.config = S.config
  authorization : active.authorization = S.request.authorization
  payer : active.payerCryptde = S.payer
  spent : spentBefore + S.total n ≤ active.spentChargeWei
  capped : active.spentChargeWei ≤ S.policy.maxTotalChargeWei
  streamKey : route.streamKey = S.streamKey
  request : route.request = S.request
  requestProviders : route.routingRequestProviders = S.requestProviders
  responseProviders : route.routingResponseProviders = S.responseProviders
  found : route.routingProviderStates.lookup S.node.cryptde.publicKey = some state
  serviceRate : state.serviceRate = S.node.perRoutingService
  byteRate : state.byteRate = S.node.perRoutingByte
  observed : state.observedPayloads = observed
  checkpoint : state.checkpointOpt = S.checkpointOpt n
  acknowledged : ∀ payload, state.acknowledgedPayloadOpt = some payload → S.Acknowledged n payload
  kept : n ≠ 0 → ∃ payload, state.acknowledgedPayloadOpt = some payload

section Consumer

variable [ReceiptSessionRecoveryStore σ] {S : RoutingSetting P} {spentBefore : Nat} {m : ReceiptSessionManager σ}
  {act : ActiveReceiptSession} {observed : List Nat} {offer : SignedServiceReceipt}

def QueuesHaveRoom (route : ReceiptRouteState) (providers : List PublicKey) : Prop :=
  ∀ q ∈ providers, ∃ state ∈ route.routingProviderStates.lookup q,
    state.observedPayloads.length < maxPendingReceiptResponsesPerRoute

theorem recordRoutingPayload_save (hr : QueuesHaveRoom route p) :
    recordRoutingPayload route p size = .save { route with
      routingProviderStates := p.foldl (pushPayload size) route.routingProviderStates } := by
  simp only [recordRoutingPayload]
  rw [if_neg]
  simp only [List.any_eq_true, not_exists, not_and]
  intro q hq hf
  obtain ⟨state, hs, hl⟩ := hr q hq
  rw [Option.mem_def] at hs
  simp only [hs, decide_eq_true_eq] at hf
  omega

section

variable (h : RoutingConsuming S spentBefore m act route state n observed)
include h

omit [ReceiptSessionRecoveryStore σ] in
theorem RoutingConsuming.live (hn : now ≤ S.policy.expiresAtUnixS) : now ≤ act.authorization.policy.expiresAtUnixS := by
  rw [h.authorization]
  exact hn

theorem RoutingConsuming.record (hs : StoreSaves σ) (hn : now ≤ S.policy.expiresAtUnixS) (packet : Packet)
    (hr : QueuesHaveRoom route (S.way packet)) :
    ∃ act' route' state', RoutingConsuming S spentBefore (m.recordPacket P S.streamKey packet now) act' route'
      state' n (observed ++ List.replicate ((S.way packet).count S.node.cryptde.publicKey) packet.size) := by
  have hc : m.recordPacket P S.streamKey packet now = (m.onRoute P route.streamKey now fun route =>
      recordRoutingPayload route
        (if packet.response then route.routingResponseProviders else route.routingRequestProviders) packet.size).2 := by
    rw [recordPacket, h.streamKey]
    cases packet.response <;> rfl
  have hw : (if packet.response then route.routingResponseProviders else route.routingRequestProviders) =
      S.way packet := by
    rw [h.requestProviders, h.responseProviders, way]
  have hu : recordRoutingPayload route
      (if packet.response then route.routingResponseProviders else route.routingRequestProviders) packet.size =
        .save { route with
          routingProviderStates := (S.way packet).foldl (pushPayload packet.size) route.routingProviderStates } := by
    rw [hw]
    exact recordRoutingPayload_save hr
  obtain ⟨-, hco, hro⟩ := h.onRoute.save (P := P) hs (h.live hn) (fun route => recordRoutingPayload route
    (if packet.response then route.routingResponseProviders else route.routingRequestProviders) packet.size) hu
    rfl rfl
  have hf : ((S.way packet).foldl (pushPayload packet.size) route.routingProviderStates).lookup
      S.node.cryptde.publicKey =
        some (state.queue (List.replicate ((S.way packet).count S.node.cryptde.publicKey) packet.size)) := by
    rw [lookup_pushPayloads_eq, h.found, Option.map_some]
  rw [hc]
  exact ⟨_, _, _, { h with
    onRoute := hro
    config := hco.trans h.config
    found := hf
    observed := congrArg (· ++ _) h.observed }⟩

/-- The next offer, for the oldest observed packet, is acknowledged. -/
theorem RoutingConsuming.acknowledge (hst : StoreSaves σ) (hop : S.policy.Open now) (ho : S.Offered (n + 1) offer)
    (hf : observed.head? = some (S.sizes n))
    (hc : act.spentChargeWei + S.price (S.sizes n) ≤ S.policy.maxTotalChargeWei) :
    ∃ payload act' route' state', (m.acknowledgeOffer P offer now).1 = .ok payload ∧ S.Acknowledged (n + 1) payload ∧
      RoutingConsuming S spentBefore (m.acknowledgeOffer P offer now).2 act' route' state' (n + 1) observed.tail := by
  have ht := S.total_succ n
  have hsp := h.spent
  have hm : checkRoutingOffer state (S.receiptAt (n + 1)) = .ok () := by
    refine checkRoutingOffer_eq_ok_iff.2 ⟨rfl, h.serviceRate.symm, h.byteRate.symm, ?_, ?_, rfl⟩
    · rw [h.checkpoint, checkpointOpt]
      by_cases hn : n = 0
      · rw [if_pos hn, hn]
        rfl
      · rw [if_neg hn]
        simp only [expectedSequence, okOr_eq_ok, checkedAdd_eq_some_iff]
        exact ⟨ho.fits, rfl⟩
    · rw [h.observed]
      exact hf
  have hnew : ∀ p ∈ state.acknowledgedPayloadOpt, p.acknowledgedReceipt.signedReceipt ≠ offer := by
    intro p hp heq
    have hr := (h.acknowledged p hp).offered.receipt
    rw [heq, ho.receipt] at hr
    have hnu : n + 1 = n := congrArg ServiceReceipt.sequence hr
    omega
  have hne : Continues state.checkpointOpt S.payer.publicKey (S.receiptAt (n + 1)) := by
    rw [h.checkpoint, checkpointOpt]
    by_cases hn : n = 0
    · have hfs : S.total (0 + 1) = S.price (S.sizes 0) := by rw [S.total_succ, S.total_zero, Nat.zero_add]
      rw [hn, if_pos rfl]
      exact hfs
    · rw [if_neg hn]
      exact ⟨rfl, rfl, rfl, rfl, Nat.lt_succ_self n, ht⟩
  obtain ⟨payload, act', hre, hau, hsi, hk, hv, hco, hro, hs, hpa, hch⟩ :=
    h.onRoute.acknowledgeRouting hst (S.countersignable h.config h.authorization h.payer ho.sign hop rfl rfl hne
      (by omega : S.total (n + 1) ≤ S.policy.maxTotalChargeWei) hc) (by rw [h.request]; rfl) h.found hnew hm
  have hchar : act'.spentChargeWei = act.spentChargeWei + S.price (S.sizes n) := hch
  have ha : S.Acknowledged (n + 1) payload := ⟨hsi ▸ ho, hau.trans h.authorization, hk.trans (by rw [h.payer]), hv⟩
  refine ⟨payload, act', _, state.acknowledged payload, hre, ha, { h with
    onRoute := hro
    config := hco.trans h.config
    authorization := hs.trans h.authorization
    payer := hpa.trans h.payer
    spent := by omega
    capped := by omega
    found := Finmap.lookup_insert _
    observed := congrArg List.tail h.observed
    checkpoint := ?_
    acknowledged := ?_
    kept := fun _ => ⟨payload, rfl⟩ }⟩
  · rw [checkpointOpt, if_neg (Nat.succ_ne_zero n)]
    exact congrArg some ha.ofAcknowledged
  · rintro _ ⟨⟩
    exact ha

/-- The last offer again is acknowledged again. -/
theorem RoutingConsuming.replay (hop : S.policy.Open now) (ho : S.Offered n offer) :
    ∃ payload, (m.acknowledgeOffer P offer now).1 = .ok payload ∧ S.Acknowledged n payload ∧
      RoutingConsuming S spentBefore (m.acknowledgeOffer P offer now).2 act route state n observed := by
  have hpo := ho.pos
  obtain ⟨payload, hp⟩ := h.kept (by omega)
  have ha := h.acknowledged payload hp
  have hc : m.acknowledgeOffer P offer now = (.ok payload, { m with activeOpt := some act }) :=
    h.onRoute.replayRouting (h.live hop.2) (by rw [ho.receipt]; rfl) (by rw [ho.receipt, h.request]; rfl)
      (by rw [ho.receipt]; exact h.found)
    hp (ha.offered.unique ho)
  rw [hc]
  refine ⟨payload, rfl, ha, { h with onRoute := ?_ }⟩
  exact ⟨rfl, h.onRoute.byStream, h.onRoute.byEpoch, h.onRoute.recoverable⟩

/-- An offer that is not of this provider's routing service on this route. -/
def Elsewhere (S : RoutingSetting P) (offer : SignedServiceReceipt) : Prop :=
  offer.receipt.serviceKind = .routing → offer.receipt.routeEpoch = S.request.routeEpoch →
    offer.receipt.providerPublicKey ≠ S.node.cryptde.publicKey

theorem RoutingConsuming.elsewhere
    (hst : StoreSaves σ) (ho : S.policy.Open now) (he : Elsewhere S offer) :
    ∃ act' route', RoutingConsuming S spentBefore (m.acknowledgeOffer P offer now).2 act' route' state n observed := by
  obtain ⟨act', route', hr, hs, hco, ha, hp, hsp, hc⟩ :=
    h.onRoute.acknowledgeElsewhere (P := P) hst (h.live ho.2) (by rw [h.request]; exact he)
  have hl : act.authorization.policy.maxTotalChargeWei = S.policy.maxTotalChargeWei := by
    rw [h.authorization]
    rfl
  exact ⟨act', route', { h with
    onRoute := hr
    config := hco.trans h.config
    authorization := ha.trans h.authorization
    payer := hp.trans h.payer
    spent := h.spent.trans hsp
    capped := hl ▸ hc (hl ▸ h.capped)
    streamKey := hs.streamKey.trans h.streamKey
    request := hs.request.trans h.request
    requestProviders := hs.requestProviders.trans h.requestProviders
    responseProviders := hs.responseProviders.trans h.responseProviders
    found := hs.state.trans h.found }⟩

end

end Consumer

/-! ## The two parties and their channels -/

/-- One metered stream. `answers` and `delivered` are the offers that reached the consumer with what
`acknowledge_offer` returned, and the acknowledgements that reached the provider. -/
structure RoutingStream (σ : Type) where
  consumer : ReceiptSessionManager σ
  recorded : Nat
  provider : RoutingDb
  routed : Nat
  offers : List SignedServiceReceipt
  acknowledgements : List ServiceReceiptPayload
  answers : List (SignedServiceReceipt × Except ReceiptSessionManagerError ServiceReceiptPayload)
  delivered : List ServiceReceiptPayload

/-- The consumer records its next packet, the provider routes its next packet, an offer or an acknowledgement
arrives, or the consumer is offered a receipt for another service. -/
inductive RoutingEvent where
  | recordPacket (now : Nat)
  | routePacket (now : Nat)
  | offerArrives (now : Nat)
  | acknowledgementArrives (now : Nat)
  | otherOffer (offer : SignedServiceReceipt) (now : Nat)

namespace RoutingStream

variable [ReceiptSessionRecoveryStore σ] (S : RoutingSetting P)

def start (m : ReceiptSessionManager σ) (db : RoutingDb) : RoutingStream σ := ⟨m, 0, db, 0, [], [], [], []⟩

/-- The consumer on an offer; what it acknowledges goes back to the provider. -/
def receive (s : RoutingStream σ) (offer : SignedServiceReceipt) (rest : List SignedServiceReceipt) (now : Nat) :
    RoutingStream σ :=
  let (result, consumer) := s.consumer.acknowledgeOffer P offer now
  { s with
    consumer
    offers := rest
    acknowledgements := s.acknowledgements ++ result.toOption.toList
    answers := s.answers ++ [(offer, result)] }

def step (s : RoutingStream σ) : RoutingEvent → RoutingStream σ
  | .recordPacket now =>
    { s with
      consumer := s.consumer.recordPacket P S.streamKey (S.packets s.recorded) now
      recorded := s.recorded + 1 }
  | .routePacket now =>
    match S.node.makeRoutingReceiptOffer P S.request (S.sizes s.routed) now s.provider with
    | .ok (offer, provider) => { s with provider, routed := s.routed + 1, offers := s.offers ++ [offer] }
    | .error _ => { s with routed := s.routed + 1 }
  | .offerArrives now =>
    match s.offers with
    | [] => s
    | offer :: rest => receive (P := P) s offer rest now
  | .acknowledgementArrives now =>
    match s.acknowledgements with
    | [] => s
    | payload :: rest =>
      { s with
        provider := S.node.acceptServiceReceipt P payload now s.provider
        acknowledgements := rest
        delivered := s.delivered ++ [payload] }
  | .otherOffer offer now => { s with consumer := (s.consumer.acknowledgeOffer P offer now).2 }

end RoutingStream

/-! ## The conditions -/

section Conditions

variable (S : RoutingSetting P) (s : RoutingStream σ)

def ReceiptSessionManager.charged (m : ReceiptSessionManager σ) : Nat := m.activeOpt.elim 0 (·.spentChargeWei)

/-- The call is in the session's time window; a packet is recorded while all queues on its way have room, an
offer arrives after its packet was recorded and, unless it was answered before, stays within the session's
limit, an acknowledgement that was not delivered before fits into the payer's balance; other offers are not
of this stream. -/
def WithinRoutingSession : RoutingEvent → Prop
  | .recordPacket now => S.policy.Open now ∧ ∀ active ∈ s.consumer.activeOpt,
      ∀ route ∈ active.routes.find? (·.streamKey = S.streamKey), QueuesHaveRoom route (S.way (S.packets s.recorded))
  | .routePacket _ => True
  | .offerArrives now => S.policy.Open now ∧ ∀ offer ∈ s.offers.head?,
      offer.receipt.sequence ≤ (S.observed s.recorded).length ∧
      (offer ∉ s.answers.map Prod.fst → s.consumer.charged + offer.receipt.charge ≤ S.policy.maxTotalChargeWei)
  | .acknowledgementArrives now => S.policy.Open now ∧ ∀ payload ∈ s.acknowledgements.head?, payload ∉ s.delivered →
      balanceOf s.provider.receipts.receivables S.policy.payerWalletAddress + payload.receipt.charge ≤ maxDbBalance
  | .otherOffer offer now => S.policy.Open now ∧ Elsewhere S offer

/-- The number of the offer that the provider signs next, none while the last one is not acknowledged. -/
def RoutingSetting.nextOffer (db : RoutingDb) : Option Nat :=
  match db.offerStates.find (S.node.offerKey S.request), db.receipts.checkpoints.find S.stream with
  | none, _ => some 1
  | some state, some checkpoint =>
    if checkpoint.lastSequence = state.lastSignedReceipt.receipt.sequence then some (checkpoint.lastSequence + 1) else none
  | some _, none => none

/-- A new offer is made with a packet that has the size of the packet with the offer's number. -/
def InStep : RoutingEvent → Prop
  | .routePacket _ => ∀ k ∈ S.nextOffer s.provider, S.sizes s.routed = S.sizes (k - 1)
  | _ => True

instance (route : ReceiptRouteState) (providers : List PublicKey) : Decidable (QueuesHaveRoom route providers) :=
  inferInstanceAs (Decidable (∀ q ∈ providers, _))

instance (offer : SignedServiceReceipt) : Decidable (Elsewhere S offer) := inferInstanceAs (Decidable (_ → _ → _))

instance : ∀ event, Decidable (WithinRoutingSession S s event)
  | .recordPacket _ => inferInstanceAs (Decidable (_ ∧ _))
  | .routePacket _ => inferInstanceAs (Decidable True)
  | .offerArrives _ => inferInstanceAs (Decidable (_ ∧ _))
  | .acknowledgementArrives _ => inferInstanceAs (Decidable (_ ∧ _))
  | .otherOffer _ _ => inferInstanceAs (Decidable (_ ∧ _))

instance : ∀ event, Decidable (InStep S s event)
  | .recordPacket _ => inferInstanceAs (Decidable True)
  | .routePacket _ => inferInstanceAs (Decidable (∀ k ∈ S.nextOffer s.provider, _))
  | .offerArrives _ => inferInstanceAs (Decidable True)
  | .acknowledgementArrives _ => inferInstanceAs (Decidable True)
  | .otherOffer _ _ => inferInstanceAs (Decidable True)

end Conditions

/-- The stream after `n` acknowledgements of the consumer, with `last` offers of the provider and `done`
acknowledgements accepted by it. -/
structure InAgreement {σ : Type} {P : Primitives} (S : RoutingSetting P) (spentBefore : Nat) (balanceBefore : Int)
    (s : RoutingStream σ) (last n done : Nat) (active : ActiveReceiptSession) (route : ReceiptRouteState)
    (state : RoutingProviderReceiptState) : Prop where
  consuming : RoutingConsuming S spentBefore s.consumer active route state n ((S.observed s.recorded).drop n)
  recorded : n ≤ (S.observed s.recorded).length
  offered : S.OfferStands s.provider.offerStates last
  settled : Settled S spentBefore balanceBefore s.provider.receipts done
  ahead : last ≤ done + 1
  offers : Channel.Carries S.Offered n last s.offers
  acknowledgements : Channel.Carries S.Acknowledged done n s.acknowledgements
  delivered : ∀ k, k ∈ s.delivered.map (·.receipt.sequence) ↔ 1 ≤ k ∧ k ≤ done
  answered : ∀ a ∈ s.answers, ∃ k, k ≤ n ∧ S.Offered k a.1
  agrees : ∀ a ∈ s.answers, ∃ payload, a.2 = .ok payload

/-- Some counters are in agreement. -/
def Agreeing {σ : Type} {P : Primitives} (S : RoutingSetting P) (spentBefore : Nat) (balanceBefore : Int)
    (s : RoutingStream σ) : Prop :=
  ∃ last n done active route state, InAgreement S spentBefore balanceBefore s last n done active route state

section Steps

variable [ReceiptSessionRecoveryStore σ] {S : RoutingSetting P} {spent : Nat} {bal : Int} {s : RoutingStream σ}
  {last done : Nat} {active : ActiveReceiptSession}

theorem RoutingSetting.observed_succ : S.observed (r + 1) = S.observed r ++
    List.replicate ((S.way (S.packets r)).count S.node.cryptde.publicKey) (S.packets r).size := by
  simp only [observed, observedSizes, List.range_succ, List.flatMap_append, List.flatMap_cons,
    List.flatMap_nil, List.append_nil, way]

/-- The oldest packet that is not acknowledged is the one with the next number. -/
theorem RoutingSetting.head_observed (h : n < (S.observed r).length) :
    ((S.observed r).drop n).head? = some (S.sizes n) := by
  have hs : S.observed r = (List.range (S.observed r).length).map S.sizes := S.same r
  rw [List.head?_drop, hs, List.getElem?_map, List.getElem?_range h, Option.map_some]

theorem InAgreement.recordPacket (h : InAgreement S spent bal s last n done active route state)
    (hs : StoreSaves σ) (hw : WithinRoutingSession S s (.recordPacket now)) :
    Agreeing S spent bal (s.step S (.recordPacket now)) := by
  obtain ⟨ho, hr⟩ := hw
  have hq : QueuesHaveRoom route (S.way (S.packets s.recorded)) :=
    hr active h.consuming.onRoute.session route (h.consuming.streamKey ▸ h.consuming.onRoute.byStream)
  obtain ⟨active', route', state', hc⟩ := h.consuming.record (P := P) hs ho.2 _ hq
  have hd : (S.observed (s.recorded + 1)).drop n = (S.observed s.recorded).drop n ++
      List.replicate ((S.way (S.packets s.recorded)).count S.node.cryptde.publicKey) (S.packets s.recorded).size := by
    rw [S.observed_succ, List.drop_append_of_le_length h.recorded]
  have hl : n ≤ (S.observed (s.recorded + 1)).length := by
    rw [S.observed_succ, List.length_append]
    exact Nat.le_add_right_of_le h.recorded
  exact ⟨last, n, done, active', route', state', { h with consuming := hd ▸ hc, recorded := hl }⟩

theorem RoutingSetting.nextOffer_eq (hs : S.OfferStands db.offerStates last)
    (hc : db.receipts.checkpoints.find S.stream = S.checkpointOpt last) : S.nextOffer db = some (last + 1) := by
  unfold nextOffer
  cases last with
  | zero =>
    simp only [OfferStands] at hs
    simp only [hs]
  | succ k =>
    obtain ⟨offer, ho, hf⟩ := hs
    have hse : (S.offerState offer).lastSignedReceipt.receipt.sequence = k + 1 :=
      congrArg ServiceReceipt.sequence ho.receipt
    simp only [hf, hc, checkpointOpt, Nat.succ_ne_zero, if_false, hse, checkpointOf, if_true]

section

variable (h : InAgreement S spent bal s last n done active route state)
include h

theorem InAgreement.routePacket (hst : InStep S s (.routePacket now)) :
    Agreeing S spent bal (s.step S (.routePacket now)) := by
  cases hm : S.node.makeRoutingReceiptOffer P S.request (S.sizes s.routed) now s.provider with
  | error e =>
    simp only [RoutingStream.step, hm]
    exact ⟨last, n, done, active, route, state, { h with }⟩
  | ok made =>
    obtain ⟨offer, db⟩ := made
    have hs : last = done → S.sizes s.routed = S.sizes last := by
      rintro rfl
      exact hst _ (S.nextOffer_eq h.offered h.settled.checkpoint)
    obtain ⟨hr, last', hle, ha, ho, hsta⟩ := makeRoutingReceiptOffer_spec h.offered
      h.settled.checkpoint (h.acknowledgements.le.trans h.offers.le) h.ahead hs hm
    simp only [RoutingStream.step, hm]
    exact ⟨last', n, done, active, route, state, { h with
      offered := hsta
      settled := hr ▸ h.settled
      ahead := ha
      offers := h.offers.send hle ho }⟩

theorem InAgreement.offerArrives (hst : StoreSaves σ) (hw : WithinRoutingSession S s (.offerArrives now)) :
    Agreeing S spent bal (s.step S (.offerArrives now)) := by
  cases hof : s.offers with
  | nil =>
    simp only [RoutingStream.step, hof]
    exact ⟨last, n, done, active, route, state, h⟩
  | cons offer rest =>
    have hca := h.offers
    rw [hof] at hca
    obtain ⟨k, hnk, hk, ho, hre⟩ := hca.receive
    have hd := h.acknowledgements.le
    have hah := h.ahead
    obtain ⟨hop, hf⟩ := hw
    obtain ⟨hr, hcap⟩ := hf offer (by rw [hof]; rfl)
    -- either the offer acknowledged last, sent again, or the next one
    have hres : ∃ payload active' route' state', (s.consumer.acknowledgeOffer P offer now).1 = .ok payload ∧
        S.Acknowledged k payload ∧ RoutingConsuming S spent (s.consumer.acknowledgeOffer P offer now).2
          active' route' state' k ((S.observed s.recorded).drop k) := by
      rcases Nat.eq_or_lt_of_le hnk with rfl | hle
      · obtain ⟨payload, hok, hac, hc⟩ := h.consuming.replay (P := P) hop ho
        exact ⟨payload, active, route, state, hok, hac, hc⟩
      · obtain rfl : k = n + 1 := by omega
        have hse : n < (S.observed s.recorded).length := by
          rw [ho.receipt] at hr
          exact hr
        have hu : offer ∉ s.answers.map Prod.fst := by
          intro hm
          obtain ⟨a, ha, rfl⟩ := List.mem_map.1 hm
          obtain ⟨j, hj, han⟩ := h.answered a ha
          have hn : j = n + 1 := congrArg ServiceReceipt.sequence (han.receipt.symm.trans ho.receipt)
          omega
        have hl := hcap hu
        rw [ho.receipt, ReceiptSessionManager.charged, h.consuming.onRoute.session] at hl
        obtain ⟨payload, active', route', state', hok, hac, hc⟩ :=
          h.consuming.acknowledge (P := P) hst hop ho (S.head_observed hse) hl
        rw [List.tail_drop] at hc
        exact ⟨payload, active', route', state', hok, hac, hc⟩
    obtain ⟨payload, active', route', state', hok, hac, hc⟩ := hres
    have hs : s.step S (.offerArrives now) = { s with
        consumer := (s.consumer.acknowledgeOffer P offer now).2
        offers := rest
        acknowledgements := s.acknowledgements ++ [payload]
        answers := s.answers ++ [(offer, .ok payload)] } := by
      simp only [RoutingStream.step, hof, RoutingStream.receive, hok]
      rfl
    rw [hs]
    refine ⟨last, k, done, active', route', state', { h with
      consuming := hc
      recorded := by rw [ho.receipt] at hr; exact hr
      offers := hre
      acknowledgements := h.acknowledgements.send hnk hac
      answered := List.forall_mem_append.2 ⟨fun a ha => ?_, List.forall_mem_singleton.2 ⟨k, le_rfl, ho⟩⟩
      agrees := List.forall_mem_append.2 ⟨h.agrees, List.forall_mem_singleton.2 ⟨payload, rfl⟩⟩ }⟩
    obtain ⟨j, hj, han⟩ := h.answered a ha
    exact ⟨j, hj.trans hnk, han⟩

theorem InAgreement.acknowledgementArrives (hw : WithinRoutingSession S s (.acknowledgementArrives now)) :
    Agreeing S spent bal (s.step S (.acknowledgementArrives now)) := by
  cases hac : s.acknowledgements with
  | nil =>
    simp only [RoutingStream.step, hac]
    exact ⟨last, n, done, active, route, state, h⟩
  | cons payload rest =>
    have hc := h.acknowledgements
    rw [hac] at hc
    obtain ⟨k, hd, hkn, ha, hre⟩ := hc.receive
    have hl := h.offers.le
    have hah := h.ahead
    have hs : payload.receipt.sequence = k := congrArg ServiceReceipt.sequence ha.receipt
    obtain ⟨ho, hf⟩ := hw
    -- the provider ends at acknowledgement `k`, whether it was there already or not
    have hacc : ∃ db, S.node.acceptServiceReceipt P payload now s.provider = ⟨db, s.provider.offerStates⟩ ∧
        Settled S spent bal db k := by
      rcases Nat.eq_or_lt_of_le hd with rfl | hle
      · exact ⟨_, h.settled.again ha s.provider.offerStates, h.settled⟩
      · obtain rfl : k = done + 1 := by omega
        have hu : payload ∉ s.delivered := by
          intro hm
          have hsee := (h.delivered _).1 (List.mem_map_of_mem hm)
          omega
        have hr := hf payload (by rw [hac]; rfl) hu
        rw [ha.receipt] at hr
        have hsp := h.consuming.spent
        have hca := h.consuming.capped
        have ht := S.total_mono hkn
        exact h.settled.accept ha ho (by omega) hr s.provider.offerStates
    obtain ⟨db, hp, hse⟩ := hacc
    simp only [RoutingStream.step, hac, hp]
    refine ⟨last, n, k, active, route, state, { h with
      settled := hse
      ahead := by omega
      acknowledgements := hre
      delivered := fun j => ?_ }⟩
    have hb := h.delivered j
    have hpo := ha.offered.pos
    simp only [List.map_append, List.map_cons, List.map_nil, List.mem_append, List.mem_singleton, hs]
    rw [hb]
    omega

theorem InAgreement.otherOffer
    (hs : StoreSaves σ) {offer : SignedServiceReceipt} (hw : WithinRoutingSession S s (.otherOffer offer now)) :
    Agreeing S spent bal (s.step S (.otherOffer offer now)) := by
  obtain ⟨active', route', hc⟩ := h.consuming.elsewhere (P := P) hs hw.1 hw.2
  exact ⟨last, n, done, active', route', state, { h with consuming := hc }⟩

/-- One step of the stream keeps the three counters in agreement. -/
theorem InAgreement.step (hs : StoreSaves σ) (e : RoutingEvent) (hw : WithinRoutingSession S s e) (hst : InStep S s e) :
    Agreeing S spent bal (s.step S e) := by
  cases e with
  | recordPacket now => exact h.recordPacket hs hw
  | routePacket now => exact h.routePacket hst
  | offerArrives now => exact h.offerArrives hs hw
  | acknowledgementArrives now => exact h.acknowledgementArrives hw
  | otherOffer offer now => exact h.otherOffer hs hw

end

end Steps

/-- The consumer has opened the route and bound the provider's quote, nothing was metered on the stream yet,
and the provider has booked no more under the session than the consumer has spent. -/
def RoutingReady {σ : Type} {P : Primitives} (S : RoutingSetting P) (m : ReceiptSessionManager σ) (db : RoutingDb) :
    Prop :=
  (∃ active route state, RoutingConsuming S (spentUnder db.receipts S.nonce) m active route state 0 []) ∧
    S.OfferStands db.offerStates 0 ∧
    Settled S (spentUnder db.receipts S.nonce) (balanceOf db.receipts.receivables S.policy.payerWalletAddress)
      db.receipts 0

/-- How many different offers the acknowledgements are for. -/
def acknowledgedOffers (delivered : List ServiceReceiptPayload) : Nat :=
  (delivered.map (·.receipt.sequence)).toFinset.card

section Agreement

variable [ReceiptSessionRecoveryStore σ] {S : RoutingSetting P}

omit [ReceiptSessionRecoveryStore σ] in
theorem InAgreement.acknowledgedOffers_eq {spentBefore : Nat} {balanceBefore : Int} {last done : Nat}
    {active : ActiveReceiptSession} {route : ReceiptRouteState} {state : RoutingProviderReceiptState}
    (h : InAgreement S spentBefore balanceBefore s last n done active route state) :
    acknowledgedOffers s.delivered = done := by
  have hs : (s.delivered.map (·.receipt.sequence)).toFinset = Finset.Icc 1 done := by
    ext k
    rw [List.mem_toFinset, Finset.mem_Icc]
    exact h.delivered k
  rw [acknowledgedOffers, hs, Nat.card_Icc, Nat.add_sub_cancel]

/-- **Routing metering.** From a stream on which nothing was metered, in every interleaving within the
session's window and limit and the capacity of the queues and balances, in which every new offer is made
with a packet of the size of the packet with its number: every offer that reaches the consumer is
acknowledged, and after acknowledgements of `n` offers the provider's cumulative charge is the sum of the
charges of the first `n` packets. -/
theorem routing_metering_agrees (S : RoutingSetting P) (hstore : StoreSaves σ) {m : ReceiptSessionManager σ}
    {db : RoutingDb} (hready : RoutingReady S m db) (events : List RoutingEvent)
    (hwithin : Run.Along (RoutingStream.step S) (WithinRoutingSession S) (.start m db) events)
    (hstep : Run.Along (RoutingStream.step S) (InStep S) (.start m db) events) :
    let s := Run.run (RoutingStream.step S) (.start m db) events
    (∀ a ∈ s.answers, ∃ payload, a.2 = .ok payload) ∧ checkpointAt s.provider.receipts S.stream =
        ∑ i ∈ Finset.range (acknowledgedOffers s.delivered), S.price (S.sizes i) := by
  obtain ⟨⟨active, route, state, hc⟩, ho, hs⟩ := hready
  have hst : Agreeing S (spentUnder db.receipts S.nonce)
      (balanceOf db.receipts.receivables S.policy.payerWalletAddress) (.start m db) := by
    refine ⟨0, 0, 0, active, route, state, hc, Nat.zero_le _, ho, hs, Nat.zero_le _,
      .nil le_rfl, .nil le_rfl, fun k => ?_, ?_, ?_⟩
    · simp only [RoutingStream.start, List.map_nil, List.not_mem_nil, false_iff]
      omega
    · rintro a ⟨⟩
    · rintro a ⟨⟩
  obtain ⟨last, n, done, _, _, _, ha⟩ := Run.along_invariant (Agreeing S _ _)
    (fun s event h hok => by
      obtain ⟨last, n, done, active, route, state, h⟩ := h
      exact h.step hstore event hok.1 hok.2) hst (Run.along_and.2 ⟨hwithin, hstep⟩)
  refine ⟨ha.agrees, ?_⟩
  rw [ha.acknowledgedOffers_eq, checkpointAt, Table.valueAt, ha.settled.checkpoint, checkpointOpt]
  by_cases hd : done = 0
  · rw [if_pos hd, hd]
    rfl
  · rw [if_neg hd]
    rfl

end Agreement

/-! ## A packet of another size -/

/-- A provider that is once on the way of every packet observes every packet once. -/
theorem observedSizes_of_once {p : Nat → Packet} (h : ∀ i, (if (p i).response then rp else re).count pr = 1) :
    observedSizes pr re rp p n = (List.range n).map fun i => (p i).size := by
  simp only [observedSizes, h, List.replicate_one]
  exact List.flatMap_pure_eq_map ..

/-- Three requests of 4, 10 and 6 bytes, and more of 6 bytes. -/
def samplePacketSize (i : Nat) : Nat := if i = 0 then 4 else if i = 1 then 10 else 6

/-- The session of `sampleSetting` with the routing provider `[9]` on the requests' way. -/
def routingSetting : RoutingSetting samplePrimitives where
  toSessionSetting := sampleSetting.toSessionSetting
  node := ⟨⟨[9], []⟩, 1, 1, 2, 3⟩
  requestProviders := [[9]]
  responseProviders := []
  packets i := ⟨false, samplePacketSize i⟩
  sizes := samplePacketSize
  chainId := rfl
  settlementContract := rfl
  charged := by decide
  same n := by
    rw [observedSizes_of_once (fun _ => rfl), List.length_map, List.length_range]

/-- Route 5 opened for stream 3, and `[9]` bound at 2 per packet and 3 per byte. -/
def routingConsumer : ReceiptSessionManager ForgetfulStore :=
  let proposed := ((ReceiptSessionManager.new sampleConfig).propose samplePrimitives "1000" 60 1000 ⟨[8], []⟩ 7).2
  let activated := (proposed.activate samplePrimitives
    "0x0000000000000000000000000000000000000000000000000000000000000007" "" 1000).2
  let opened := (activated.requestForStream samplePrimitives 3 5 1001).2
  (opened.bindRoutingQuotes samplePrimitives 3 [⟨[9], 2, 3⟩] [] 1001).2

def freshRoutingDb : RoutingDb := ⟨.fresh .empty, .empty⟩

def routingState : RoutingProviderReceiptState := ⟨2, 3, [], none, none⟩

def routingRoute : ReceiptRouteState := { ReceiptSessionManager.routeState 3 sampleRequest with
    routingRequestProviders := [[9]], routingProviderStates := Finmap.singleton [9] routingState }

theorem routingConsumer_ready : RoutingReady routingSetting routingConsumer freshRoutingDb := by
  have ha : routingConsumer.activeOpt = some ⟨sampleRequest.authorization, ⟨[8], []⟩, [routingRoute], 0⟩ := by
    decide +kernel
  refine ⟨⟨_, routingRoute, routingState, {
    onRoute := ⟨ha, rfl, rfl, fun _ => rfl⟩
    config := rfl
    authorization := rfl
    payer := rfl
    spent := le_rfl
    capped := Nat.zero_le _
    streamKey := rfl
    request := rfl
    requestProviders := rfl
    responseProviders := rfl
    found := Finmap.lookup_singleton_eq
    serviceRate := rfl
    byteRate := rfl
    observed := rfl
    checkpoint := rfl
    acknowledged := fun _ h => by cases h
    kept := fun h => absurd rfl h }⟩, rfl, {
    checkpoint := rfl
    authorization := fun _ h => by cases h
    spent := rfl
    balance := rfl
    claim := fun _ h => by cases h
    unique := fun _ h => by cases h }⟩

def routingStream (events : List RoutingEvent) : RoutingStream ForgetfulStore :=
  Run.run (RoutingStream.step routingSetting) (.start routingConsumer freshRoutingDb) events

/-- The second packet is routed before the first acknowledgement is back, the third one after it. -/
def outOfStepEvents : List RoutingEvent := [.recordPacket 1002, .recordPacket 1002, .recordPacket 1002,
  .routePacket 1002, .routePacket 1002, .offerArrives 1003, .offerArrives 1003, .acknowledgementArrives 1003,
  .routePacket 1004, .offerArrives 1004]

/-- The second packet is routed after the first acknowledgement is back. -/
def inStepEvents : List RoutingEvent := [.recordPacket 1002, .recordPacket 1002, .routePacket 1002,
  .offerArrives 1003, .acknowledgementArrives 1003, .routePacket 1004, .offerArrives 1004,
  .acknowledgementArrives 1004]

def answerSummary (a : SignedServiceReceipt × Except ReceiptSessionManagerError ServiceReceiptPayload) :
    Nat × Nat × Bool :=
  (a.1.receipt.sequence, a.1.receipt.payloadSize, a.2.isOk)

/-- **A packet in between.** The second packet carried the first offer again. The next new offer is priced for
the third packet in hand, the consumer expects the second: the offer is refused. -/
theorem routing_metering_out_of_step : RoutingReady routingSetting routingConsumer freshRoutingDb ∧
    Run.Along (RoutingStream.step routingSetting) (WithinRoutingSession routingSetting)
      (.start routingConsumer freshRoutingDb) outOfStepEvents ∧
    (routingStream outOfStepEvents).answers.map answerSummary = [(1, 4, true), (1, 4, true), (2, 6, false)] :=
  ⟨routingConsumer_ready, by decide +kernel, by decide +kernel⟩

theorem routing_metering_agrees_sample :
    (routingStream inStepEvents).answers.map answerSummary = [(1, 4, true), (2, 10, true)] ∧
    checkpointAt (routingStream inStepEvents).provider.receipts routingSetting.stream = 46 ∧
    (∀ a ∈ (routingStream inStepEvents).answers, ∃ payload, a.2 = .ok payload) ∧
      checkpointAt (routingStream inStepEvents).provider.receipts routingSetting.stream =
        ∑ i ∈ Finset.range (acknowledgedOffers (routingStream inStepEvents).delivered),
          routingSetting.price (routingSetting.sizes i) :=
  ⟨by decide +kernel, by decide +kernel, routing_metering_agrees routingSetting (fun _ _ _ => rfl)
    routingConsumer_ready inStepEvents (by decide +kernel) (by decide +kernel)⟩

end MasqMobile
