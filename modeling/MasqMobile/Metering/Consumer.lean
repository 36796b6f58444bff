import MasqMobile.Session.Steps

/-!
# An honest consumer's calls succeed

The other side of `Session/Steps.lean`: there, what a call of the session manager can do at most; here, when a call on
one route does succeed. `OnRoute` says that the manager has an active session with the route, found both by its stream
and by its epoch, and that saving cannot fail. Each call keeps it and updates the route.

Two things come from outside: the signature scheme (`Primitives.Signs`) and the recovery store (`StoreSaves`).
-/

namespace MasqMobile

open Fallible ReceiptSessionManager ReceiptSequenceCheckpoint

variable {act : ActiveReceiptSession} {route : ReceiptRouteState} {now : Nat} {sg : SignedServiceReceipt}
  {provider : CryptDE} {receipt : ServiceReceipt}

/-- The signature scheme: signing succeeds, and everyone can verify the signature. -/
def Primitives.Signs (P : Primitives) : Prop := ∀ cryptde data, ∃ signature, P.sign cryptde data = .ok signature ∧
    cryptde.publicKey.length ≤ signature.length ∧
    ∀ verifier, P.verifySignature verifier data signature cryptde.publicKey = true

/-- The recovery store does not fail to save a route. -/
def StoreSaves (σ : Type) [ReceiptSessionRecoveryStore σ] : Prop :=
  ∀ (store : σ) header route, (ReceiptSessionRecoveryStore.saveHeaderAndRoute store header route).1 = .ok ()

variable {σ α : Type} [ReceiptSessionRecoveryStore σ] {P : Primitives}

/-- The manager's active session has `route`, as the first of its stream and of its epoch. -/
structure OnRoute (m : ReceiptSessionManager σ) (active : ActiveReceiptSession) (route : ReceiptRouteState) : Prop where
  session : m.activeOpt = some active
  byStream : active.routes.find? (·.streamKey = route.streamKey) = some route
  byEpoch : active.routes.find? (·.request.routeEpoch = route.request.routeEpoch) = some route
  recoverable : m.recoveryStoreOpt = none → m.recoveryRequired = false

section Calls

variable {m : ReceiptSessionManager σ} {route' : ReceiptRouteState}

theorem OnRoute.persistRoute (h : OnRoute m act route) (hst : StoreSaves σ) :
    ∃ m', persistRoute P m route.streamKey = (.ok (), m') ∧ OnRoute m' act route ∧ m'.config = m.config := by
  simp only [ReceiptSessionManager.persistRoute, h.session, h.byStream, persistWith]
  cases ho : m.recoveryStoreOpt with
  | none =>
    simp only [h.recoverable ho, Bool.false_eq_true, if_false]
    exact ⟨m, rfl, h, rfl⟩
  | some st =>
    obtain ⟨st', hs⟩ : ∃ st', ReceiptSessionRecoveryStore.saveHeaderAndRoute st (persistedHeader P act)
        route = (.ok (), st') := ⟨_, Prod.ext (hst st (persistedHeader P act) route) rfl⟩
    simp only [hs]
    exact ⟨_, rfl, ⟨rfl, h.byStream, h.byEpoch, fun hn => by simp at hn⟩, rfl⟩

theorem onActive_eq {ab : Except ReceiptSessionManagerError α}
    {o : ActiveReceiptSession → Outcome α} (h : m.activeOpt = some act)
    (hn : now ≤ act.authorization.policy.expiresAtUnixS) :
    m.onActive P now ab o = settle P m (o act) := by
  simp only [onActive, expire, h, not_lt.2 hn, if_false]

omit [ReceiptSessionRecoveryStore σ] in
/-- Assigning a route with the same keys to the place where the route was found. -/
theorem OnRoute.assign (h : OnRoute m act route) {p : ReceiptRouteState → Bool}
    (hp : act.routes.find? p = some route) (route' : ReceiptRouteState) (act' : ActiveReceiptSession)
    (hs : route'.streamKey = route.streamKey) (hr : route'.request = route.request)
    (hro : act'.routes = (act.assignRoute p route').routes) :
    OnRoute { m with activeOpt := some act' } act' route' where
  session := rfl
  byStream := by
    rw [hs, hro]
    exact FirstMatch.find?_update hp h.byStream (by simp [hs])
  byEpoch := by
    rw [hr, hro]
    exact FirstMatch.find?_update hp h.byEpoch (by simp [hr])
  recoverable := h.recoverable

/-- An operation that ends with saving the route it assigned succeeds. -/
theorem OnRoute.settle_persist {act' : ActiveReceiptSession}
    (h : OnRoute { m with activeOpt := some act' } act' route) (hs : StoreSaves σ) (result : α) :
    ∃ m', settle P m (.persist route.streamKey result act') = (.ok result, m') ∧ OnRoute m' act' route ∧
      m'.config = m.config := by
  obtain ⟨m', hp, hm', hc⟩ := h.persistRoute (P := P) hs
  refine ⟨m', ?_, hm', hc⟩
  simp only [settle, hp]

/-- A call that saves an updated route. -/
theorem OnRoute.save (h : OnRoute m act route) (hst : StoreSaves σ)
    (hn : now ≤ act.authorization.policy.expiresAtUnixS) (u : ReceiptRouteState → RouteUpdate)
    (hu : u route = .save route') (hs : route'.streamKey = route.streamKey)
    (hr : route'.request = route.request) :
    (m.onRoute P route.streamKey now u).1 = .ok () ∧ (m.onRoute P route.streamKey now u).2.config = m.config ∧
      OnRoute (m.onRoute P route.streamKey now u).2
        (act.assignRoute (·.streamKey = route.streamKey) route') route' := by
  have ha : OnRoute { m with activeOpt := some (act.assignRoute (·.streamKey = route.streamKey) route') }
      (act.assignRoute (·.streamKey = route.streamKey) route') route' := h.assign h.byStream _ _ hs hr rfl
  obtain ⟨m', hse, hm', hco⟩ := ha.settle_persist (P := P) hst ()
  have hc : m.onRoute P route.streamKey now u = (.ok (), m') := by
    rw [onRoute, onActive_eq h.session hn, ← hse, hs]
    simp only [updateRoute, h.byStream, hu]
  rw [hc]
  exact ⟨rfl, hco, hm'⟩

/-- A call that is refused and leaves the route as it was. -/
theorem OnRoute.refuse (h : OnRoute m act route) (hn : now ≤ act.authorization.policy.expiresAtUnixS)
    {u : ReceiptRouteState → RouteUpdate} (hu : u route = .reject e route) :
    (m.onRoute P route.streamKey now u).1 = .error e ∧ (m.onRoute P route.streamKey now u).2.config = m.config ∧
      OnRoute (m.onRoute P route.streamKey now u).2 (act.assignRoute (·.streamKey = route.streamKey) route) route := by
  have hc : m.onRoute P route.streamKey now u = (.error e,
      { m with activeOpt := some (act.assignRoute (·.streamKey = route.streamKey) route) }) := by
    simp only [onRoute, onActive_eq h.session hn, updateRoute, h.byStream, hu, settle]
  rw [hc]
  exact ⟨rfl, rfl, h.assign h.byStream _ _ rfl rfl rfl⟩

end Calls

/-! ## Countersigning -/

/-- The session's authorization is its own and was valid when it was checked. -/
structure Usable (P : Primitives) (config : ReceiptSessionConfig) (active : ActiveReceiptSession) : Prop where
  key : active.payerCryptde.publicKey = active.authorization.policy.payerSessionPublicKey
  valid : ∃ checkedAt, active.authorization.verify P config.chainId config.settlementContract
    active.authorization.policy.payerSessionPublicKey checkedAt 0 = .ok ()

/-- A session and a route of it, with what both parties have agreed on. -/
structure SessionSetting (P : Primitives) where
  streamKey : StreamKey
  request : ReceiptSessionRequest
  config : ReceiptSessionConfig
  payer : CryptDE
  signs : P.Signs
  key : payer.publicKey = request.authorization.policy.payerSessionPublicKey
  valid : ∃ checkedAt, request.authorization.verify P config.chainId config.settlementContract
    request.authorization.policy.payerSessionPublicKey checkedAt 0 = .ok ()
  epoch : request.routeEpoch ≠ 0
  commitment : makeAccountingCommitment P request.routeEpoch payer.publicKey = request.accountingCommitment
  commitment_ne : request.accountingCommitment ≠ 0

def SessionSetting.policy {P : Primitives} (S : SessionSetting P) : ReceiptSessionPolicy :=
  S.request.authorization.policy

def ReceiptSessionPolicy.Open (policy : ReceiptSessionPolicy) (now : Nat) : Prop :=
  policy.validFromUnixS ≤ now ∧ now ≤ policy.expiresAtUnixS

/-- The receipt is the next one after the checkpoint. -/
def Continues (checkpointOpt : Option ReceiptSequenceCheckpoint) (payerSessionPublicKey : PublicKey)
    (receipt : ServiceReceipt) : Prop :=
  match checkpointOpt with
  | none => receipt.cumulativeChargeWei = receipt.charge
  | some c => c.routeEpoch = receipt.routeEpoch ∧ c.providerPublicKey = receipt.providerPublicKey ∧
      c.accountingCommitment = receipt.accountingCommitment ∧ c.payerSessionPublicKey = payerSessionPublicKey ∧
      c.lastSequence < receipt.sequence ∧ receipt.cumulativeChargeWei = c.cumulativeChargeWei + receipt.charge

/-- A provider's signed receipt that the active session may countersign: it continues the checkpoint, in the
session's window and within its limit. -/
structure Countersignable (P : Primitives) (config : ReceiptSessionConfig) (active : ActiveReceiptSession)
    (checkpointOpt : Option ReceiptSequenceCheckpoint) (provider : CryptDE) (receipt : ServiceReceipt)
    (signed : SignedServiceReceipt) (now : Nat) : Prop where
  signs : P.Signs
  usable : Usable P config active
  sign : receipt.sign P provider = .ok signed
  isOpen : active.authorization.policy.Open now
  commitment : makeAccountingCommitment P receipt.routeEpoch active.payerCryptde.publicKey =
    receipt.accountingCommitment
  next : Continues checkpointOpt active.payerCryptde.publicKey receipt
  cumulative : receipt.cumulativeChargeWei ≤ active.authorization.policy.maxTotalChargeWei
  capped : active.spentChargeWei + receipt.charge ≤ active.authorization.policy.maxTotalChargeWei

section Countersign

variable {cfg : ReceiptSessionConfig} {rc : ServiceReceipt} {checkpointOpt : Option ReceiptSequenceCheckpoint}
  {a : AuthorizedReceiptSession} {key : PublicKey}

/-- What is valid at one time is valid in the whole window and up to the limit. -/
theorem verify_within {ccw : Nat} (h : a.verify P c co key ca 0 = .ok ())
    (ho : a.policy.Open now) (hc : ccw ≤ a.policy.maxTotalChargeWei) :
    a.verify P c co key now ccw = .ok () := by
  simp only [AuthorizedReceiptSession.verify, bind_eq_ok, failIf_eq_ok, okOr_eq_ok, not_lt] at h ⊢
  obtain ⟨_, hst, _, hch, _, hco, _, hk, _, -, _, -, _, -, hs⟩ := h
  exact ⟨_, hst, (), hch, (), hco, (), hk, (), ho.1, (), ho.2, (), hc, hs⟩

theorem cap_lt_of_verify (h : a.verify P ci co key c 0 = .ok ()) :
    a.policy.maxTotalChargeWei < 2 ^ 128 ∧ a.policy.payerSessionPublicKey ≠ [] := by
  simp only [AuthorizedReceiptSession.verify, ReceiptSessionPolicy.validateStructure, bind_eq_ok,
    failIf_eq_ok, not_lt] at h
  obtain ⟨_, ⟨_, -, _, -, _, -, _, -, _, hk, _, -, _, hm, -⟩, -⟩ := h
  exact ⟨lt_of_le_of_lt hm (by decide), hk⟩

theorem SessionSetting.cap_lt (S : SessionSetting P) : S.policy.maxTotalChargeWei < 2 ^ 128 := by
  obtain ⟨c, hv⟩ := S.valid
  exact (cap_lt_of_verify hv).1

/-- A session of the setting countersigns what is within the setting's window and limit. -/
theorem SessionSetting.countersignable (S : SessionSetting P) (hcon : cfg = S.config)
    (ha : act.authorization = S.request.authorization) (hp : act.payerCryptde = S.payer)
    (hs : rc.sign P provider = .ok sg) (ho : S.policy.Open now)
    (he : rc.routeEpoch = S.request.routeEpoch)
    (hco : rc.accountingCommitment = S.request.accountingCommitment)
    (hn : Continues checkpointOpt S.payer.publicKey rc)
    (hcu : rc.cumulativeChargeWei ≤ S.policy.maxTotalChargeWei)
    (hc : act.spentChargeWei + rc.charge ≤ S.policy.maxTotalChargeWei) :
    Countersignable P cfg act checkpointOpt provider rc sg now := by
  have hpo : act.authorization.policy = S.policy := by rw [ha, SessionSetting.policy]
  refine ⟨S.signs, ⟨?_, ?_⟩, hs, hpo ▸ ho, ?_, hp ▸ hn, hpo ▸ hcu, hpo ▸ hc⟩
  · rw [hp, ha, S.key]
  · rw [hcon, ha]
    exact S.valid
  · rw [hp, he, hco, S.commitment]

theorem verify_of_sign (hs : P.Signs) (h : rc.sign P provider = .ok sg) (ve : CryptDE) :
    sg.receipt = rc ∧ sg.verify P ve = .ok rc.charge := by
  simp only [ServiceReceipt.sign, bind_eq_ok, failIf_eq_ok, mapErr_eq_ok, pure_eq_ok, not_not] at h
  obtain ⟨_, hv, _, hk, signature, hsig, rfl⟩ := h
  obtain ⟨signature', hsi, hl, hveri⟩ := hs provider (.serviceReceipt rc)
  obtain rfl : signature' = signature := Except.ok.inj (hsi.symm.trans hsig)
  have hc : rc.charge < 2 ^ 128 := by
    simp only [ServiceReceipt.validate, bind_eq_ok, checkedTotalChargeWei_eq_ok_iff] at hv
    obtain ⟨_, -, _, -, _, -, _, -, _, -, _, ⟨hc, -⟩, -⟩ := hv
    exact hc
  rw [hk] at hl
  have hve := hveri ve
  rw [hk] at hve
  exact ⟨rfl, SignedServiceReceipt.verify_eq_ok_iff.2 ⟨hv, hl, hve, hc, rfl⟩⟩

theorem acknowledge_ok (hs : P.Signs) {charge : Nat}
    (hv : ∀ ve, sg.verify P ve = .ok charge) (hk : p.publicKey ≠ [])
    (hc : makeAccountingCommitment P sg.receipt.routeEpoch p.publicKey = sg.receipt.accountingCommitment) :
    ∃ acknowledged, sg.acknowledge P p = .ok acknowledged ∧ acknowledged.signedReceipt = sg ∧
      acknowledged.payerSessionPublicKey = p.publicKey ∧
      ∀ ve, acknowledged.verify P ve = .ok charge := by
  obtain ⟨signature, hsi, hl, hve⟩ := hs p (.acknowledgement sg p.publicKey)
  refine ⟨⟨sg, p.publicKey, signature⟩, ?_, rfl, rfl, fun ve => ?_⟩
  · exact SignedServiceReceipt.acknowledge_eq_ok_iff.2 ⟨⟨charge, hv p⟩, hk, hc, signature, hsi, rfl⟩
  · exact AcknowledgedServiceReceipt.verify_eq_ok_iff.2 ⟨hv ve, hk, hc, hl, hve ve⟩

/-- **A countersigned offer** is acknowledged and charged. -/
theorem countersign_ok (h : Countersignable P cfg act checkpointOpt provider rc sg now) :
    ∃ acknowledged, acknowledged.signedReceipt = sg ∧ acknowledged.payerSessionPublicKey = act.payerCryptde.publicKey ∧
      (∀ ve, acknowledged.verify P ve = .ok rc.charge) ∧
      countersign P cfg act checkpointOpt sg now = .ok (.ofAcknowledged acknowledged, ⟨act.authorization, acknowledged⟩,
          act.spentChargeWei + rc.charge) := by
  obtain ⟨ca, hva⟩ := h.usable.valid
  obtain ⟨hm, hno⟩ := cap_lt_of_verify hva
  have hr := (verify_of_sign h.signs h.sign provider).1
  obtain ⟨acknowledged, ha, hs, hk, hv⟩ :=
    acknowledge_ok h.signs (fun ve => (verify_of_sign h.signs h.sign ve).2)
      (by rwa [h.usable.key]) (by rw [hr]; exact h.commitment)
  have hau : act.authorization.verifyForReceipt P acknowledged act.payerCryptde cfg.chainId
      cfg.settlementContract now = .ok rc.charge := by
    simp only [AuthorizedReceiptSession.verifyForReceipt, bind_eq_ok, pure_eq_ok]
    refine ⟨_, hv _, (), ?_, rfl⟩
    rw [hk, h.usable.key, hs, hr]
    exact verify_within hva h.isOpen h.cumulative
  have hn := h.next
  refine ⟨acknowledged, hs, hk, hv, ?_⟩
  simp only [countersign, bind_eq_ok, mapErr_eq_ok, okOr_eq_ok, checkedSub_eq_some_iff,
    checkedAdd_eq_some_iff, failIf_eq_ok, pure_eq_ok, not_lt]
  refine ⟨acknowledged, ha, _, hau, .ofAcknowledged acknowledged, ?_, rc.charge, ?_,
    _, ⟨h.capped.trans_lt hm, rfl⟩, (), h.capped, rfl⟩
  · cases checkpointOpt with
    | none =>
      refine beginWithContiguity_eq_ok_iff.2 ⟨⟨_, hv _⟩, ?_, fun _ => ?_, rfl⟩
      · rw [hs, hr]
        exact hn.ge
      · rw [hs, hr]
        exact hn
    | some c =>
      obtain ⟨he, hpr, hsa, hp, hse, hc⟩ := hn
      refine advanceWithContiguity_eq_ok_iff.2 ⟨⟨_, hv _⟩, ?_⟩
      rw [hs, hr, hk]
      exact ⟨he.symm, hpr.symm, hsa.symm, hp.symm, hse, by have := h.cumulative; omega, hc.ge, fun _ => hc, rfl⟩
  · have hst : (ReceiptSequenceCheckpoint.ofAcknowledged acknowledged).cumulativeChargeWei =
        rc.cumulativeChargeWei := by
      rw [ReceiptSequenceCheckpoint.ofAcknowledged, hs, hr]
    rw [hst]
    cases checkpointOpt with
    | none => simpa [Continues] using hn
    | some c =>
      obtain ⟨-, -, -, -, -, hc⟩ := hn
      simp only [Option.map_some, Option.getD_some]
      omega

end Countersign

/-! ## Acknowledging -/

/-- The route after the oldest observed response was acknowledged. -/
def ReceiptRouteState.acknowledged (route : ReceiptRouteState) (payload : ServiceReceiptPayload) : ReceiptRouteState :=
  { route with
    checkpointOpt := some (.ofAcknowledged payload.acknowledgedReceipt)
    acknowledgedPayloadOpt := some payload
    observedResponses := route.observedResponses.tail }

section Acknowledge

variable {m : ReceiptSessionManager σ}

theorem replay_eq_none {apo : Option ServiceReceiptPayload} (h : ∀ p ∈ apo, p.acknowledgedReceipt.signedReceipt ≠ sg) :
    replay apo sg = none := by
  rw [replay, Option.filter_eq_none_iff]
  intro p hp
  simpa using h p hp

omit [ReceiptSessionRecoveryStore σ] in
theorem OnRoute.find (h : OnRoute m act route) (he : sg.receipt.routeEpoch = route.request.routeEpoch) :
    act.routes.find? (·.request.routeEpoch = sg.receipt.routeEpoch) = some route := he ▸ h.byEpoch

variable (act now sg P m) in
/-- The call acknowledged the offer with `payload`: the session is charged, and the route is now `next payload`. -/
structure OfferAcknowledged (charge : Nat) (next : ServiceReceiptPayload → ReceiptRouteState)
    (payload : ServiceReceiptPayload) (act' : ActiveReceiptSession) : Prop where
  answer : (m.acknowledgeOffer P sg now).1 = .ok payload
  payload_authorization : payload.authorization = act.authorization
  signed : payload.acknowledgedReceipt.signedReceipt = sg
  key : payload.acknowledgedReceipt.payerSessionPublicKey = act.payerCryptde.publicKey
  verified : ∀ ve, payload.acknowledgedReceipt.verify P ve = .ok charge
  config : (m.acknowledgeOffer P sg now).2.config = m.config
  onRoute : OnRoute (m.acknowledgeOffer P sg now).2 act' (next payload)
  authorization : act'.authorization = act.authorization
  payer : act'.payerCryptde = act.payerCryptde
  spent : act'.spentChargeWei = act.spentChargeWei + charge

/-- An offer whose operation checks it, countersigns and saves the route: the call succeeds. -/
theorem OnRoute.acknowledge (h : OnRoute m act route) (hst : StoreSaves σ)
    (hs : Countersignable P m.config act checkpointOpt provider receipt sg now)
    (he : receipt.routeEpoch = route.request.routeEpoch) {check : Except ReceiptSessionManagerError Unit}
    (hm : check = .ok ()) {next : ServiceReceiptPayload → ReceiptRouteState}
    (hn : ∀ p, (next p).streamKey = route.streamKey ∧ (next p).request = route.request)
    (ho : ∀ p, (do check; countersign P m.config act checkpointOpt sg now) =
        .ok (.ofAcknowledged p.acknowledgedReceipt, p, act.spentChargeWei + receipt.charge) →
      (if sg.receipt.serviceKind = .routing then acknowledgeRoutingOffer P m.config act sg now
        else acknowledgeExitOffer P m.config act sg now) = .persist (next p).streamKey p
      { act.assignRoute (·.request.routeEpoch = sg.receipt.routeEpoch) (next p) with
        spentChargeWei := act.spentChargeWei + receipt.charge }) :
    ∃ payload act', OfferAcknowledged act now sg P m receipt.charge next payload act' := by
  obtain ⟨acknowledged, hsi, hke, hv, hco⟩ := countersign_ok hs
  obtain rfl : sg.receipt = receipt := (verify_of_sign hs.signs hs.sign provider).1
  let payload : ServiceReceiptPayload := ⟨act.authorization, acknowledged⟩
  let act' : ActiveReceiptSession :=
    { act.assignRoute (·.request.routeEpoch = sg.receipt.routeEpoch) (next payload) with
      spentChargeWei := act.spentChargeWei + sg.receipt.charge }
  obtain ⟨m', hse, hm', hcf⟩ := (h.assign (h.find he) (next payload) act' (hn payload).1 (hn payload).2 rfl).settle_persist
    (P := P) hst payload
  have hc : m.acknowledgeOffer P sg now = (.ok payload, m') := by
    rw [acknowledgeOffer, onActive_eq h.session hs.isOpen.2, ho payload (bind_eq_ok.2 ⟨(), hm, hco⟩), hse]
  refine ⟨payload, act', ?_, rfl, hsi, hke, hv, ?_, ?_, rfl, rfl, rfl⟩ <;> rw [hc]
  · exact hcf
  · exact hm'

/-- **An acknowledged exit offer**: the call succeeds, the route moves on and the session is charged. -/
theorem OnRoute.acknowledgeExit (h : OnRoute m act route) (hst : StoreSaves σ)
    (hs : Countersignable P m.config act route.checkpointOpt provider receipt sg now)
    (he : receipt.routeEpoch = route.request.routeEpoch)
    (hn : ∀ p ∈ route.acknowledgedPayloadOpt, p.acknowledgedReceipt.signedReceipt ≠ sg)
    (hm : checkExitOffer route receipt = .ok ()) :
    ∃ payload act', OfferAcknowledged act now sg P m receipt.charge route.acknowledged payload act' := by
  refine h.acknowledge hst hs he hm (fun _ => ⟨rfl, rfl⟩) fun p hc => ?_
  obtain rfl : sg.receipt = receipt := (verify_of_sign hs.signs hs.sign provider).1
  have hk : ¬sg.receipt.serviceKind = .routing := by
    rw [(checkExitOffer_eq_ok_iff.1 hm).2.1]
    decide
  rw [if_neg hk]
  simp only [acknowledgeExitOffer, h.find he, replay_eq_none hn, hc]
  rfl

end Acknowledge

/-! ## Routing -/

/-- The provider's state after its oldest observed packet was acknowledged. -/
def RoutingProviderReceiptState.acknowledged (state : RoutingProviderReceiptState) (payload : ServiceReceiptPayload) :
    RoutingProviderReceiptState :=
  { state with
    checkpointOpt := some (.ofAcknowledged payload.acknowledgedReceipt)
    acknowledgedPayloadOpt := some payload
    observedPayloads := state.observedPayloads.tail }

section Routing

variable {m : ReceiptSessionManager σ} {st : RoutingProviderReceiptState}

/-- **An acknowledged routing offer**: the call succeeds, the provider's state moves on and the session is
charged. -/
theorem OnRoute.acknowledgeRouting (h : OnRoute m act route) (hsto : StoreSaves σ)
    (hs : Countersignable P m.config act st.checkpointOpt provider receipt sg now)
    (he : receipt.routeEpoch = route.request.routeEpoch)
    (hst : route.routingProviderStates.lookup receipt.providerPublicKey = some st)
    (hn : ∀ p ∈ st.acknowledgedPayloadOpt, p.acknowledgedReceipt.signedReceipt ≠ sg)
    (hm : checkRoutingOffer st receipt = .ok ()) :
    ∃ payload act', OfferAcknowledged act now sg P m receipt.charge (fun payload => { route with
      routingProviderStates := route.routingProviderStates.insert receipt.providerPublicKey
        (st.acknowledged payload) }) payload act' := by
  refine h.acknowledge hsto hs he hm (fun _ => ⟨rfl, rfl⟩) fun p hc => ?_
  obtain rfl : sg.receipt = receipt := (verify_of_sign hs.signs hs.sign provider).1
  rw [if_pos (checkRoutingOffer_eq_ok_iff.1 hm).1]
  simp only [acknowledgeRoutingOffer, h.find he, hst, replay_eq_none hn, hc]
  rfl

/-- The offer that was acknowledged last is acknowledged again, and nothing changes. -/
theorem OnRoute.replayRouting (h : OnRoute m act route) (hn : now ≤ act.authorization.policy.expiresAtUnixS)
    (hk : sg.receipt.serviceKind = .routing) (he : sg.receipt.routeEpoch = route.request.routeEpoch)
    (hst : route.routingProviderStates.lookup sg.receipt.providerPublicKey = some st)
    {payload : ServiceReceiptPayload} (hp : st.acknowledgedPayloadOpt = some payload)
    (hs : payload.acknowledgedReceipt.signedReceipt = sg) :
    m.acknowledgeOffer P sg now = (.ok payload, { m with activeOpt := some act }) := by
  have hf := h.find he
  have hr : replay st.acknowledgedPayloadOpt sg = some payload := by
    simp only [replay, hp, Option.filter_some, hs, decide_true, if_true]
  rw [acknowledgeOffer, onActive_eq h.session hn, if_pos hk]
  simp only [acknowledgeRoutingOffer, hf, hst, hr, settle]

end Routing

/-! ## Offers of other providers -/

/-- What acknowledging any offer can do: nothing, or an update of the route with the offer's epoch that
leaves its keys, its provider lists and the states of all other routing providers alone. -/
inductive OfferOutcome (active : ActiveReceiptSession) (signed : SignedServiceReceipt) :
    Outcome ServiceReceiptPayload → Prop
  | failed (e : ReceiptSessionManagerError) : OfferOutcome active signed (.fail e active)
  | replayed (payload : ServiceReceiptPayload) : OfferOutcome active signed (.done payload active)
  | charged {route route' : ReceiptRouteState} {payload : ServiceReceiptPayload} {spentChargeWei : Nat}
      (hfound : active.routes.find? (·.request.routeEpoch = signed.receipt.routeEpoch) = some route)
      (hstream : route'.streamKey = route.streamKey) (hrequest : route'.request = route.request)
      (hrequests : route'.routingRequestProviders = route.routingRequestProviders)
      (hresponses : route'.routingResponseProviders = route.routingResponseProviders)
      (hothers : ∀ q, (signed.receipt.serviceKind = .routing → signed.receipt.providerPublicKey ≠ q) →
        route'.routingProviderStates.lookup q = route.routingProviderStates.lookup q)
      (hspent : active.spentChargeWei ≤ spentChargeWei)
      (hcap : spentChargeWei ≤ active.authorization.policy.maxTotalChargeWei) :
      OfferOutcome active signed (.persist route.streamKey payload
        { active.assignRoute (·.request.routeEpoch = signed.receipt.routeEpoch) route' with spentChargeWei })

section Elsewhere

variable {m : ReceiptSessionManager σ}

theorem Answers.outcome {config : ReceiptSessionConfig} (h : Answers P config act sg now o) :
    OfferOutcome act sg o := by
  cases h with
  | failed => exact .failed _
  | replayed => exact .replayed _
  | charged hf hack hco =>
    obtain ⟨-, -, -, -, rfl, hc⟩ := countersign_spec hco
    cases hack with
    | exit => exact .charged hf rfl rfl rfl rfl (fun _ _ => rfl) (Nat.le_add_right _ _) hc
    | routing _ hch =>
      refine .charged hf rfl rfl rfl rfl (fun q hq => ?_) (Nat.le_add_right _ _) hc
      exact Finmap.lookup_insert_of_ne _ (hq (checkRoutingOffer_eq_ok_iff.1 hch).1).symm

theorem settle_persist_session (hst : StoreSaves σ)
    (hr : m.recoveryStoreOpt = none → m.recoveryRequired = false) (sk : StreamKey) (re : α)
    (act : ActiveReceiptSession) :
    let m' := (settle P m (.persist sk re act)).2
    m'.activeOpt = some act ∧ m'.config = m.config ∧ (m'.recoveryStoreOpt = none → m'.recoveryRequired = false) := by
  simp only [settle, ReceiptSessionManager.persistRoute]
  cases act.routes.find? (·.streamKey = sk) with
  | none => exact ⟨rfl, rfl, hr⟩
  | some route =>
    simp only [persistWith]
    cases ho : m.recoveryStoreOpt with
    | none => simp [hr ho]
    | some st =>
      obtain ⟨st', hs⟩ : ∃ st', ReceiptSessionRecoveryStore.saveHeaderAndRoute st
          (persistedHeader P act) route = (.ok (), st') :=
        ⟨_, Prod.ext (hst st (persistedHeader P act) route) rfl⟩
      simp [hs]

/-- The route is the same for one of its routing providers. -/
structure SameFor (q : PublicKey) (route route' : ReceiptRouteState) : Prop where
  streamKey : route'.streamKey = route.streamKey
  request : route'.request = route.request
  requestProviders : route'.routingRequestProviders = route.routingRequestProviders
  responseProviders : route'.routingResponseProviders = route.routingResponseProviders
  state : route'.routingProviderStates.lookup q = route.routingProviderStates.lookup q

/-- **Other offers do not concern a routing provider**: an exit offer, or a routing offer of another route or
another provider, leaves the provider's state alone, whether it is acknowledged or not. -/
theorem OnRoute.acknowledgeElsewhere (h : OnRoute m act route) (hst : StoreSaves σ)
    (hn : now ≤ act.authorization.policy.expiresAtUnixS)
      (hel : sg.receipt.serviceKind = .routing → sg.receipt.routeEpoch = route.request.routeEpoch →
      sg.receipt.providerPublicKey ≠ q) :
    ∃ act' route', OnRoute (m.acknowledgeOffer P sg now).2 act' route' ∧ SameFor q route route' ∧
      (m.acknowledgeOffer P sg now).2.config = m.config ∧ act'.authorization = act.authorization ∧
      act'.payerCryptde = act.payerCryptde ∧ act.spentChargeWei ≤ act'.spentChargeWei ∧
      (act.spentChargeWei ≤ act.authorization.policy.maxTotalChargeWei →
        act'.spentChargeWei ≤ act.authorization.policy.maxTotalChargeWei) := by
  obtain ⟨outcome, hca, hou⟩ : ∃ outcome, m.acknowledgeOffer P sg now = settle P m outcome ∧
      OfferOutcome act sg outcome := by
    rw [acknowledgeOffer, onActive_eq h.session hn]
    exact ⟨_, rfl, (acknowledgeOffer_answers P m.config act sg now).outcome⟩
  have hsa : OnRoute { m with activeOpt := some act } act route := ⟨rfl, h.byStream, h.byEpoch, h.recoverable⟩
  rw [hca]
  cases hou with
  | failed | replayed => exact ⟨act, route, hsa, ⟨rfl, rfl, rfl, rfl, rfl⟩, rfl, rfl, rfl, le_rfl, id⟩
  | @charged touched touched' payload spent hf hs hr hrequ hres hot hsp hc =>
    obtain ⟨hse, hco, hre⟩ := settle_persist_session (P := P) hst h.recoverable touched.streamKey
      payload { act.assignRoute (·.request.routeEpoch = sg.receipt.routeEpoch) touched' with
        spentChargeWei := spent }
    by_cases he : sg.receipt.routeEpoch = route.request.routeEpoch
    · -- the offer is of this route, hence of another provider or of the exit
      obtain rfl : touched = route := by
        rw [he, h.byEpoch] at hf
        exact (Option.some.inj hf).symm
      have ha := h.assign hf touched' _ hs hr
        (rfl : _ = (act.assignRoute (·.request.routeEpoch = sg.receipt.routeEpoch) touched').routes)
      exact ⟨_, touched', ⟨hse, ha.byStream, ha.byEpoch, hre⟩, ⟨hs, hr, hrequ, hres, hot q fun hk => hel hk he⟩,
        hco, rfl, rfl, hsp, fun _ => hc⟩
    · have ho : decide (route.request.routeEpoch = sg.receipt.routeEpoch) = false := by
        simpa using Ne.symm he
      refine ⟨_, route, ⟨hse, ?_, ?_, hre⟩, ⟨rfl, rfl, rfl, rfl, rfl⟩, hco, rfl, rfl, hsp, fun _ => hc⟩
      · exact FirstMatch.find?_update_of_not hf h.byStream ho (by rw [hs])
      · exact FirstMatch.find?_update_of_not hf h.byEpoch ho (by rw [hr])

end Elsewhere

end MasqMobile
