import MasqMobile.Session.Manager

/-!
# What one call can do to the active session

Every operation of the manager changes the active session in one of four ways (`SessionStep`): it
updates routes without touching what was charged on them, opens a route under a fresh epoch, returns
an acknowledgement it gave before, or countersigns an offer and charges the difference to the
session. `settle_cases` and `onActive_cases` add what persisting and expiry can do around it.
-/

namespace MasqMobile

open Fallible ReceiptSessionManager RoutingProviderReceiptState ReceiptSequenceCheckpoint

def checkpointCharge (checkpointOpt : Option ReceiptSequenceCheckpoint) : Nat :=
  (checkpointOpt.map (·.cumulativeChargeWei)).getD 0

namespace ReceiptRouteState

variable (r : ReceiptRouteState)

/-- The cumulative charge acknowledged on this route to a provider for one kind of service. -/
def charged (provider : PublicKey) : ServiceKind → Nat
  | .exit => if r.expectedProviderPublicKeyOpt = some provider then checkpointCharge r.checkpointOpt else 0
  | .routing => checkpointCharge ((r.routingProviderStates.lookup provider).bind (·.checkpointOpt))

/-- The payload is kept on this route for replays. -/
def Stored (payload : ServiceReceiptPayload) : Prop := r.acknowledgedPayloadOpt = some payload ∨
    ∃ provider state, r.routingProviderStates.lookup provider = some state ∧ state.acknowledgedPayloadOpt = some payload

/-- Nothing is acknowledged before the exit quote is bound. -/
def Quoted : Prop := r.expectedProviderPublicKeyOpt = none → r.checkpointOpt = none

/-- An update of a route that acknowledges nothing. -/
structure SameCharges (r r' : ReceiptRouteState) : Prop where
  request : r'.request = r.request
  charged : ∀ provider kind, r'.charged provider kind = r.charged provider kind
  stored : ∀ payload, r'.Stored payload → r.Stored payload
  quoted : r.Quoted → r'.Quoted

theorem SameCharges.refl : SameCharges r r := ⟨rfl, fun _ _ => rfl, fun _ h => h, fun h => h⟩

theorem SameCharges.of_eq {r : ReceiptRouteState} (hr : r'.request = r.request)
    (hp : r'.expectedProviderPublicKeyOpt = r.expectedProviderPublicKeyOpt)
    (hc : r'.checkpointOpt = r.checkpointOpt) (ha : r'.acknowledgedPayloadOpt = r.acknowledgedPayloadOpt)
    (hs : r'.routingProviderStates = r.routingProviderStates) : SameCharges r r' where
  request := hr
  charged provider kind := by cases kind <;> simp [ReceiptRouteState.charged, hp, hc, hs]
  stored payload h := by simpa [Stored, ha, hs] using h
  quoted h := by simpa [Quoted, hp, hc] using h

end ReceiptRouteState

open ReceiptRouteState

/-! ## Updates of one route -/

/-- Whatever route the update leaves behind, it acknowledged nothing on it. -/
def RouteUpdateKeepsCharges (r : ReceiptRouteState) : RouteUpdate → Prop
  | .reject _ r' => SameCharges r r'
  | .keep => True
  | .save r' => SameCharges r r'

theorem observeRequest_keeps (r : ReceiptRouteState) (p : Nat) : RouteUpdateKeepsCharges r (observeRequest r p) := by
  unfold observeRequest
  split
  · trivial
  · split
    · exact .refl r
    · split <;> exact .of_eq rfl rfl rfl rfl rfl

theorem observeResponse_keeps (r : ReceiptRouteState) (se p : Nat) :
    RouteUpdateKeepsCharges r (observeResponse r se p) := by
  unfold observeResponse
  split
  · exact .refl r
  · split
    · exact .refl r
    · split
      · exact .of_eq rfl rfl rfl rfl rfl
      · exact .refl r

theorem bindExit_keeps (hr : r.Quoted) (p : PublicKey) (sr b : Nat) :
    RouteUpdateKeepsCharges r (bindExit r p sr b) := by
  unfold bindExit
  split
  · -- the quote is bound: the provider has no checkpoint yet, so nothing becomes chargeable
    rename_i hp _ _
    have hc : r.checkpointOpt = none := hr hp
    exact {
      request := rfl
      charged := fun q kind => by
        cases kind <;> simp [ReceiptRouteState.charged, hc, hp, checkpointCharge]
      stored := fun _ h => h
      quoted := fun _ h => by simp at h }
  · split
    · trivial
    · exact .refl r
  · exact .refl r

theorem collectProviderStates_fresh {states states' : Finmap fun _ : PublicKey => RoutingProviderReceiptState}
    (h : collectProviderStates states qu = .ok states')
    (hf : ∀ q s, states.lookup q = some s →
      s.observedPayloads = [] ∧ s.checkpointOpt = none ∧ s.acknowledgedPayloadOpt = none) :
    ∀ q s, states'.lookup q = some s →
      s.observedPayloads = [] ∧ s.checkpointOpt = none ∧ s.acknowledgedPayloadOpt = none := by
  induction qu generalizing states with
  | nil =>
    obtain rfl : states = states' := by simpa [collectProviderStates] using h
    exact hf
  | cons quote qu ih =>
    unfold collectProviderStates at h
    split at h
    · split at h
      · cases h
      · exact ih h hf
    · refine ih h fun q s hs => ?_
      by_cases hq : q = quote.providerPublicKey
      · subst hq
        rw [Finmap.lookup_insert, Option.some.injEq] at hs
        subst hs
        exact ⟨rfl, rfl, rfl⟩
      · exact hf q s (by rwa [Finmap.lookup_insert_of_ne _ hq] at hs)

theorem bindRouting_keeps (r : ReceiptRouteState) (rq re : List RoutingReceiptQuote) :
    RouteUpdateKeepsCharges r (bindRouting r rq re) := by
  simp only [bindRouting]
  split
  · split
    · exact .refl r
    · trivial
  · rename_i he
    split
    · exact .refl r
    · rename_i states hst
      have hf := collectProviderStates_fresh hst (by simp)
      have hb : r.routingProviderStates = ∅ := not_not.1 he
      refine {
        request := rfl
        charged := fun q kind => ?_
        stored := fun payload h => ?_
        quoted := fun h => h }
      · cases kind with
        | exit => rfl
        | routing =>
          simp only [ReceiptRouteState.charged, hb, Finmap.lookup_empty]
          cases hq : states.lookup q with
          | none => rfl
          | some s => simp [(hf q s hq).2.1]
      · rcases h with h | ⟨q, s, hq, hs⟩
        · exact .inl h
        · simp [(hf q s hq).2.2] at hs

/-- The provider's state with more packets queued. -/
def RoutingProviderReceiptState.queue (state : RoutingProviderReceiptState) (payloads : List Nat) :
    RoutingProviderReceiptState :=
  { state with observedPayloads := state.observedPayloads ++ payloads }

/-- Recording adds the payload once for every time the provider is on the way. -/
theorem lookup_pushPayloads_eq (size : Nat) (p : List PublicKey)
    (st : Finmap fun _ : PublicKey => RoutingProviderReceiptState) (q : PublicKey) :
    (p.foldl (pushPayload size) st).lookup q = (st.lookup q).map (·.queue (List.replicate (p.count q) size)) := by
  induction p generalizing st with
  | nil => cases hs : st.lookup q <;> simp [hs, queue]
  | cons provider p ih =>
    rw [List.foldl_cons, ih, pushPayload]
    by_cases hq : provider = q
    · subst hq
      cases hs : st.lookup provider with
      | none => simp [hs]
      | some state => simp [queue, List.replicate_succ]
    · rw [List.count_cons_of_ne hq]
      cases hs : st.lookup provider with
      | none => rfl
      | some state =>
        simp only
        rw [Finmap.lookup_insert_of_ne _ (Ne.symm hq)]

theorem recordRoutingPayload_keeps (r : ReceiptRouteState) (p : List PublicKey) (ps : Nat) :
    RouteUpdateKeepsCharges r (recordRoutingPayload r p ps) := by
  simp only [recordRoutingPayload]
  split
  · exact .refl r
  · -- checkpoints and acknowledgements are not touched by queueing
    have hl := lookup_pushPayloads_eq ps p r.routingProviderStates
    refine {
      request := rfl
      charged := fun q kind => ?_
      stored := fun payload h => ?_
      quoted := fun h => h }
    · cases kind with
      | exit => rfl
      | routing =>
        simp only [ReceiptRouteState.charged, hl]
        cases r.routingProviderStates.lookup q <;> rfl
    · rcases h with h | ⟨q, s, hq, hs⟩
      · exact .inl h
      · rw [hl] at hq
        obtain ⟨state, hst, rfl⟩ := Option.map_eq_some_iff.1 hq
        exact .inr ⟨q, state, hst, hs⟩

/-! ## Steps of the session -/

/-- The route after an offer was countersigned on it: only the offer's own provider and kind of
service were charged, up to the offer's cumulative charge. -/
structure ChargedRoute (r : ReceiptRouteState) (payload : ServiceReceiptPayload) (r' : ReceiptRouteState) : Prop where
  request : r'.request = r.request
  streamKey : r'.streamKey = r.streamKey
  charged_self : r'.charged payload.receipt.providerPublicKey payload.receipt.serviceKind =
    payload.receipt.cumulativeChargeWei
  charged_other : ∀ provider kind, (provider, kind) ≠ (payload.receipt.providerPublicKey, payload.receipt.serviceKind) →
      r'.charged provider kind = r.charged provider kind
  stored : ∀ p, r'.Stored p → p = payload ∨ r.Stored p
  quoted : r.Quoted → r'.Quoted

/-- The charge an acknowledgement adds to the session. -/
def chargeDelta (r : ReceiptRouteState) (payload : ServiceReceiptPayload) : Nat :=
  payload.receipt.cumulativeChargeWei - r.charged payload.receipt.providerPublicKey payload.receipt.serviceKind

def epochs (s : ActiveReceiptSession) : List Bytes32 := s.routes.map (·.request.routeEpoch)

/-- What a call that drew the epochs `drawn` can do to the session, and the payload it may return. -/
inductive SessionStep (drawn : List Bytes32) :
    ActiveReceiptSession → Option ServiceReceiptPayload → ActiveReceiptSession → Prop
  | update {s : ActiveReceiptSession} {routes : List ReceiptRouteState}
      (hroutes : List.Forall₂ (fun r r' => r.Quoted → SameCharges r r') s.routes routes) :
      SessionStep drawn s none { s with routes }
  | opened {s : ActiveReceiptSession} {routes : List ReceiptRouteState} (streamKey : StreamKey)
      (request : ReceiptSessionRequest) (hdrawn : request.routeEpoch ∈ drawn)
      (hmem : ∀ r ∈ routes, r ∈ s.routes ∨ r = routeState streamKey request)
      (hnodup : (epochs s).Nodup → (routes.map (·.request.routeEpoch)).Nodup) :
      SessionStep drawn s none { s with routes }
  | replayed {s : ActiveReceiptSession} {r : ReceiptRouteState} {payload : ServiceReceiptPayload}
      (hr : r ∈ s.routes) (hstored : r.Stored payload) : SessionStep drawn s (some payload) s
  | charged {s : ActiveReceiptSession} {before after : List ReceiptRouteState} {r r' : ReceiptRouteState}
      {payload : ServiceReceiptPayload} (hroutes : s.routes = before ++ r :: after)
      (hauth : payload.authorization = s.authorization)
      (hepoch : payload.receipt.routeEpoch = r.request.routeEpoch) (hroute : ChargedRoute r payload r')
      (hle : r.charged payload.receipt.providerPublicKey payload.receipt.serviceKind ≤
        payload.receipt.cumulativeChargeWei)
      (hcap : s.spentChargeWei + chargeDelta r payload ≤ s.authorization.policy.maxTotalChargeWei) :
      SessionStep drawn s (some payload)
        { s with routes := before ++ r' :: after, spentChargeWei := s.spentChargeWei + chargeDelta r payload }

variable {drawn : List Bytes32} {s s' : ActiveReceiptSession} {returned : Option ServiceReceiptPayload}

theorem SessionStep.refl (drawn : List Bytes32) (s : ActiveReceiptSession) : SessionStep drawn s none s :=
  .update (List.forall₂_same.2 fun r _ _ => .refl r)

theorem SessionStep.authorization_eq (h : SessionStep drawn s returned s') : s'.authorization = s.authorization := by
  cases h <;> rfl

variable {p : ReceiptRouteState → Bool}

theorem assignRoute_split (h : s.routes.find? p = some r) :
    ∃ before after, s.routes = before ++ r :: after ∧ p r = true ∧
      ∀ r', s.assignRoute p r' = { s with routes := before ++ r' :: after } := by
  obtain ⟨before, after, hs, -, hp, hu⟩ := FirstMatch.update_split h
  exact ⟨before, after, hs, hp, fun r' => by rw [ActiveReceiptSession.assignRoute, hu]⟩

theorem SessionStep.of_assignRoute (h : s.routes.find? p = some r) (hs : r.Quoted → SameCharges r r') :
    SessionStep drawn s none (s.assignRoute p r') := by
  obtain ⟨before, after, hsp, -, ha⟩ := assignRoute_split h
  rw [ha]
  refine .update ?_
  rw [hsp]
  exact List.rel_append (List.forall₂_same.2 fun x _ _ => .refl x) (.cons hs (List.forall₂_same.2 fun x _ _ => .refl x))

/-! ## Operations are steps -/

/-- The outcome of an operation on `s` is a step, and if it returns a payload to be persisted, the
route to persist is there. -/
def OutcomeSteps {α : Type} (drawn : List Bytes32) (logged : α → Option ServiceReceiptPayload)
    (s : ActiveReceiptSession) : Outcome α → Prop
  | .fail _ s' => SessionStep drawn s none s'
  | .done result s' => SessionStep drawn s (logged result) s'
  | .persist streamKey result s' => SessionStep drawn s (logged result) s' ∧
      (logged result ≠ none → s'.routes.find? (·.streamKey = streamKey) ≠ none)

variable {P : Primitives}

theorem freshRouteRequest_eq_ok {req : ReceiptSessionRequest} (h : freshRouteRequest P s re = .ok req) :
    req.routeEpoch = re ∧ re ∉ epochs s := by
  simp only [freshRouteRequest, ReceiptSessionRequest.new, bind_eq_ok, failIf_eq_ok, mapErr_eq_ok, pure_eq_ok] at h
  obtain ⟨_, hin, _, _, rfl⟩ := h
  refine ⟨rfl, fun hm => hin (.inr ?_)⟩
  simpa [epochs] using hm

theorem openRoute_steps (s : ActiveReceiptSession) (sk : StreamKey) (re : Bytes32) :
    OutcomeSteps [re] (fun _ => none) s (openRoute P s sk re) := by
  unfold openRoute
  split
  · exact .refl _ s
  · split
    · exact .refl _ s
    · split
      · exact .refl _ s
      · rename_i request hr
        obtain ⟨rfl, hn⟩ := freshRouteRequest_eq_ok hr
        refine ⟨.opened sk request (by simp) ?_ ?_, by simp⟩
        · simp
        · intro hnd
          simp only [List.map_append, List.map_cons, List.map_nil]
          exact hnd.append (by simp) (by simpa [routeState, epochs] using hn)

theorem rotateRoute_steps (s : ActiveReceiptSession) (sk : StreamKey) (re : Bytes32) :
    OutcomeSteps [re] (fun _ => none) s (rotateRoute P s sk re) := by
  unfold rotateRoute
  split
  · exact .refl _ s
  · rename_i request hre
    obtain ⟨rfl, hn⟩ := freshRouteRequest_eq_ok hre
    split
    · rename_i r hr
      obtain ⟨before, after, hs, -, ha⟩ := assignRoute_split hr
      refine ⟨?_, by simp⟩
      rw [ha]
      refine .opened sk request (by simp) ?_ ?_
      · intro x hx
        rw [hs]
        simp only [List.mem_append, List.mem_cons] at hx ⊢
        tauto
      · -- the new epoch takes the place of the old route's and differs from all others
        intro hnd
        simp only [epochs, hs, List.map_append, List.map_cons] at hnd hn ⊢
        simp only [routeState]
        grind
    · split
      · refine ⟨.opened sk request (by simp) (by simp) ?_, by simp⟩
        intro hnd
        simp only [List.map_append, List.map_cons, List.map_nil]
        exact hnd.append (by simp) (by simpa [routeState, epochs] using hn)
      · exact .refl _ s

theorem updateRoute_steps {u : ReceiptRouteState → RouteUpdate}
    (hu : ∀ r, r.Quoted → RouteUpdateKeepsCharges r (u r)) (sk : StreamKey)
    (s : ActiveReceiptSession) : OutcomeSteps [] (fun _ => none) s (updateRoute sk u s) := by
  unfold updateRoute
  split
  · exact .refl _ s
  · rename_i r hr
    have hk := hu r
    split
    · rename_i e r' hr'
      rw [hr'] at hk
      exact .of_assignRoute hr hk
    · exact .refl _ s
    · rename_i r' hr'
      rw [hr'] at hk
      exact ⟨.of_assignRoute hr hk, by simp⟩

section Countersign

variable {cfg : ReceiptSessionConfig} {checkpointOpt : Option ReceiptSequenceCheckpoint}
  {sg : SignedServiceReceipt} {now : Nat} {checkpoint : ReceiptSequenceCheckpoint}
  {payload : ServiceReceiptPayload} {spent : Nat}

/-- The new checkpoint stands at the offer, which was acknowledged under the session's key and commits to it. -/
theorem countersign_checkpoint (h : countersign P cfg s checkpointOpt sg now = .ok (checkpoint, payload, spent)) :
    payload.acknowledgedReceipt.signedReceipt = sg ∧
      payload.acknowledgedReceipt.payerSessionPublicKey = s.payerCryptde.publicKey ∧
      checkpoint = .ofAcknowledged payload.acknowledgedReceipt ∧
      makeAccountingCommitment P sg.receipt.routeEpoch s.payerCryptde.publicKey = sg.receipt.accountingCommitment := by
  simp only [countersign, bind_eq_ok, mapErr_eq_ok, pure_eq_ok, Prod.mk.injEq] at h
  obtain ⟨acknowledged, ha, -, -, checkpoint, hc, _, -, _, -, _, -, rfl, rfl, rfl⟩ := h
  obtain ⟨-, -, hco, signature, -, rfl⟩ := SignedServiceReceipt.acknowledge_eq_ok_iff.1 ha
  refine ⟨rfl, rfl, ?_, hco⟩
  cases checkpointOpt with
  | none =>
    obtain ⟨-, -, -, hat⟩ := beginWithContiguity_eq_ok_iff.1 hc
    exact hat
  | some existing =>
    obtain ⟨-, -, -, -, -, -, -, -, -, hat⟩ := advanceWithContiguity_eq_ok_iff.1 hc
    exact hat

/-- **Countersigning.** The payload wraps the offer under the session's authorization, the new
checkpoint stands at the offer, and the session is charged what the offer adds to the old one. -/
theorem countersign_spec (h : countersign P cfg s checkpointOpt sg now = .ok (checkpoint, payload, spent)) :
    payload.authorization = s.authorization ∧ payload.receipt = sg.receipt ∧
      checkpoint.cumulativeChargeWei = sg.receipt.cumulativeChargeWei ∧
      checkpointCharge checkpointOpt ≤ sg.receipt.cumulativeChargeWei ∧
      spent = s.spentChargeWei + (sg.receipt.cumulativeChargeWei - checkpointCharge checkpointOpt) ∧
      spent ≤ s.authorization.policy.maxTotalChargeWei := by
  obtain ⟨hs, -, hat, -⟩ := countersign_checkpoint h
  have hr : payload.receipt = sg.receipt := by rw [ServiceReceiptPayload.receipt, hs]
  have hc : checkpoint.cumulativeChargeWei = sg.receipt.cumulativeChargeWei := by
    rw [hat, ReceiptSequenceCheckpoint.ofAcknowledged, hs]
  simp only [countersign, bind_eq_ok, okOr_eq_ok, failIf_eq_ok, pure_eq_ok, checkedSub_eq_some_iff,
    checkedAdd_eq_some_iff, Prod.mk.injEq] at h
  obtain ⟨_, -, -, -, checkpoint, -, _, ⟨hle, rfl⟩, _, ⟨-, rfl⟩, _, hca, rfl, rfl, rfl⟩ := h
  rw [hc] at hle hca
  refine ⟨rfl, hr, hc, hle, ?_, ?_⟩
  · rw [hc]
    rfl
  · rw [hc]
    exact not_lt.1 hca

end Countersign

theorem checkExitOffer_eq_ok_iff : checkExitOffer r o = .ok u ↔
      r.expectedProviderPublicKeyOpt = some o.providerPublicKey ∧ o.serviceKind = .exit ∧
      r.exitServiceRateOpt = some o.serviceRate ∧ r.exitByteRateOpt = some o.byteRate ∧
      r.observedResponses.head? = some (o.sequence, o.payloadSize, o.serviceUnits) := by
  simp only [checkExitOffer, bind_eq_ok, okOr_eq_ok, failIf_eq_ok, not_or, not_not]
  constructor
  · rintro ⟨_, hp, _, hr, _, hb, ⟨n, size, units⟩, hh, _, rfl, hk, rfl, rfl, rfl, rfl, rfl⟩
    exact ⟨hp, hk, hr, hb, hh⟩
  · rintro ⟨hp, hk, hr, hb, hh⟩
    exact ⟨_, hp, _, hr, _, hb, _, hh, (), rfl, hk, rfl, rfl, rfl, rfl, rfl⟩

theorem checkRoutingOffer_eq_ok_iff :
    checkRoutingOffer st o = .ok u ↔ o.serviceKind = .routing ∧ o.serviceRate = st.serviceRate ∧
      o.byteRate = st.byteRate ∧ expectedSequence st.checkpointOpt = .ok o.sequence ∧
      st.observedPayloads.head? = some o.payloadSize ∧ o.serviceUnits = 1 := by
  simp only [checkRoutingOffer, bind_eq_ok, okOr_eq_ok, failIf_eq_ok, not_or, not_not]
  constructor
  · rintro ⟨_, hh, _, hs, hk, hr, hb, rfl, rfl, hu⟩
    exact ⟨hk, hr, hb, hs, hh, hu⟩
  · rintro ⟨hk, hr, hb, hs, hh, hu⟩
    exact ⟨_, hh, _, hs, hk, hr, hb, rfl, rfl, hu⟩

theorem replay_eq_some {signed : SignedServiceReceipt}
    {payload : ServiceReceiptPayload} (h : replay st signed = some payload) : st = some payload := by
  simp only [replay, Option.filter_eq_some_iff] at h
  exact h.1

theorem find?_streamKey_ne_none {af : List ReceiptRouteState} {sk : StreamKey} (h : r.streamKey = sk) :
    (b ++ r :: af).find? (·.streamKey = sk) ≠ none := by
  simp only [ne_eq, List.find?_eq_none, not_forall]
  exact ⟨r, by simp, by simpa using h⟩

/-- A route on which an offer is acknowledged: the checkpoint that the offer moves, and the route after it. -/
inductive Acknowledges (r : ReceiptRouteState) (offered : ServiceReceipt) (checkpoint : ReceiptSequenceCheckpoint)
    (payload : ServiceReceiptPayload) : Option ReceiptSequenceCheckpoint → ReceiptRouteState → Prop
  | exit (hc : checkExitOffer r offered = .ok ()) : Acknowledges r offered checkpoint payload r.checkpointOpt { r with
      checkpointOpt := some checkpoint
      acknowledgedPayloadOpt := some payload
      observedResponses := r.observedResponses.tail }
  | routing {state : RoutingProviderReceiptState}
      (hs : r.routingProviderStates.lookup offered.providerPublicKey = some state)
      (hc : checkRoutingOffer state offered = .ok ()) :
      Acknowledges r offered checkpoint payload state.checkpointOpt { r with
        routingProviderStates := r.routingProviderStates.insert offered.providerPublicKey { state with
          checkpointOpt := some checkpoint
          acknowledgedPayloadOpt := some payload
          observedPayloads := state.observedPayloads.tail } }

section Answers

variable (P : Primitives) (config : ReceiptSessionConfig) (s : ActiveReceiptSession) (signed : SignedServiceReceipt)
  (now : Nat)

/-- All that an offer can lead to. -/
inductive Answers : Outcome ServiceReceiptPayload → Prop
  | failed (he : ∀ message, e ≠ .persistence message) : Answers (.fail e s)
  | replayed (hr : r ∈ s.routes) (hp : r.Stored payload) : Answers (.done payload s)
  | charged (hr : s.routes.find? (·.request.routeEpoch = signed.receipt.routeEpoch) = some r)
      (ha : Acknowledges r signed.receipt checkpoint payload previous r')
      (hc : countersign P config s previous signed now = .ok (checkpoint, payload, spentChargeWei)) :
      Answers (.persist r.streamKey payload
        { s.assignRoute (·.request.routeEpoch = signed.receipt.routeEpoch) r' with spentChargeWei })

theorem acknowledgeOffer_answers : Answers P config s signed now (if signed.receipt.serviceKind = .routing then
    acknowledgeRoutingOffer P config s signed now else acknowledgeExitOffer P config s signed now) := by
  have hco : ∀ message c, countersign P config s c signed now ≠ .error (.persistence message) := fun message c => by
    simp [countersign, bind_eq_error]
  split
  · simp only [acknowledgeRoutingOffer]
    split
    · exact .failed (by simp)
    · rename_i r hr
      split
      · exact .failed (by simp)
      · rename_i state hs
        split
        · exact .replayed (List.mem_of_find?_eq_some hr) (.inr ⟨_, state, hs, replay_eq_some ‹_›⟩)
        · split
          · rename_i heq
            refine .failed fun message hm => bind_ne_error ?_ (fun _ => hco message _) (hm ▸ heq)
            simp only [checkRoutingOffer, expectedSequence]
            cases state.checkpointOpt <;> simp [bind_eq_error]
          · rename_i hok
            obtain ⟨_, hc, hok⟩ := bind_eq_ok.1 hok
            exact .charged hr (.routing hs hc) hok
  · unfold acknowledgeExitOffer
    split
    · exact .failed (by simp)
    · rename_i r hr
      split
      · exact .replayed (List.mem_of_find?_eq_some hr) (.inl (replay_eq_some ‹_›))
      · split
        · rename_i heq
          refine .failed fun message hm => bind_ne_error ?_ (fun _ => hco message _) (hm ▸ heq)
          simp [checkExitOffer, bind_eq_error]
        · rename_i hok
          obtain ⟨_, hc, hok⟩ := bind_eq_ok.1 hok
          exact .charged hr (.exit hc) hok

end Answers

theorem Answers.steps {config : ReceiptSessionConfig} (h : Answers P config s signed now o) :
    OutcomeSteps [] some s o := by
  cases h with
  | failed => exact .refl _ s
  | replayed hr hp => exact .replayed hr hp
  | @charged r checkpoint payload previous r' spent hf hack hco =>
    obtain ⟨hau, hre, hcu, hle, rfl, hc⟩ := countersign_spec hco
    obtain ⟨before, after, hs, he, ha⟩ := assignRoute_split hf
    rw [← hre] at hack hcu
    obtain ⟨hpre, hsk, hroute⟩ : r.charged payload.receipt.providerPublicKey payload.receipt.serviceKind =
        checkpointCharge previous ∧ r'.streamKey = r.streamKey ∧ ChargedRoute r payload r' := by
      cases hack with
      | exit hch =>
        obtain ⟨hpr, hk, -⟩ := checkExitOffer_eq_ok_iff.1 hch
        refine ⟨by rw [hk, ReceiptRouteState.charged, if_pos hpr], rfl, rfl, rfl, ?_, ?_, ?_, ?_⟩
        · rw [hk, ReceiptRouteState.charged, if_pos hpr]
          exact hcu
        · rintro q (- | -) hne
          · rfl
          · have : q ≠ payload.receipt.providerPublicKey := fun hq => hne (by rw [hk, hq])
            simp [ReceiptRouteState.charged, hpr, Ne.symm this]
        · rintro p (hp | hp)
          · exact .inl (Option.some.inj hp).symm
          · exact .inr (.inr hp)
        · intro _ hn
          simp [hpr] at hn
      | @routing state hst hch =>
        obtain ⟨hk, -⟩ := checkRoutingOffer_eq_ok_iff.1 hch
        refine ⟨by rw [hk, ReceiptRouteState.charged, hst]; rfl, rfl, rfl, rfl, ?_, ?_, ?_, fun h => h⟩
        · rw [hk, ReceiptRouteState.charged, Finmap.lookup_insert]
          exact hcu
        · rintro q (- | -) hne
          · have hq : q ≠ payload.receipt.providerPublicKey := fun hq => hne (by rw [hq, hk])
            simp [ReceiptRouteState.charged, Finmap.lookup_insert_of_ne _ hq]
          · rfl
        · rintro p (hp | ⟨q, st, hst, hp⟩)
          · exact .inr (.inl hp)
          · by_cases hq : q = payload.receipt.providerPublicKey
            · subst hq
              rw [Finmap.lookup_insert, Option.some.injEq] at hst
              subst hst
              exact .inl (Option.some.inj hp).symm
            · rw [Finmap.lookup_insert_of_ne _ hq] at hst
              exact .inr (.inr ⟨q, st, hst, hp⟩)
    simp only [ha]
    refine ⟨?_, fun _ => find?_streamKey_ne_none hsk⟩
    rw [← hre, ← hpre] at hle hc ⊢
    exact .charged hs hau (by simpa [hre, eq_comm] using he) hroute hle hc

/-! ## Around an operation: expiry and persistence -/

section Manager

variable {σ : Type} [ReceiptSessionRecoveryStore σ] {α : Type}

def returnedBy (logged : α → Option ServiceReceiptPayload) :
    Except ReceiptSessionManagerError α → Option ServiceReceiptPayload
  | .ok result => logged result
  | .error _ => none

variable (m : ReceiptSessionManager σ)

theorem persistWith_cases (save : σ → Except String Unit × σ) : (m.persistWith save).2.pendingOpt = m.pendingOpt ∧
      (((m.persistWith save).1 = .ok () ∧ (m.persistWith save).2.activeOpt = m.activeOpt) ∨
        ((∃ e, (m.persistWith save).1 = .error e) ∧ (m.persistWith save).2.activeOpt = none)) := by
  unfold persistWith
  split
  · split <;> simp [revokeAfterPersistenceError, clearStore]
  · split <;> simp [revokeAfterPersistenceError, clearStore]

variable {an : Except ReceiptSessionManagerError Unit}

theorem persistHeader_cases {m : ReceiptSessionManager σ} (hs : m.activeOpt = some s)
    (h : persistHeader P m = (an, m')) :
    m'.pendingOpt = m.pendingOpt ∧
      ((an = .ok () ∧ m'.activeOpt = some s) ∨ ((∃ e, an = .error e) ∧ m'.activeOpt = none)) := by
  simp only [persistHeader, hs] at h
  obtain ⟨hp, hc⟩ := persistWith_cases m fun st => ReceiptSessionRecoveryStore.saveHeader st (persistedHeader P s)
  rw [h, hs] at hc
  rw [h] at hp
  exact ⟨hp, hc⟩

/-- Persisting a route keeps the session, fails and revokes it, or does not find the route. -/
theorem persistRoute_cases {m : ReceiptSessionManager σ} (hs : m.activeOpt = some s)
    (h : persistRoute P m sk = (an, m')) :
    m'.pendingOpt = m.pendingOpt ∧
      ((an = .ok () ∧ m'.activeOpt = some s) ∨ ((∃ e, an = .error e) ∧ m'.activeOpt = none) ∨
        ((∃ e, an = .error e) ∧ m'.activeOpt = some s ∧ s.routes.find? (·.streamKey = sk) = none)) := by
  simp only [persistRoute, hs] at h
  split at h
  · rename_i hf
    obtain ⟨rfl, rfl⟩ := Prod.mk.inj h
    exact ⟨rfl, .inr (.inr ⟨⟨_, rfl⟩, hs, hf⟩)⟩
  · rename_i route _
    obtain ⟨hp, hsa | hr⟩ := persistWith_cases m
      fun st => ReceiptSessionRecoveryStore.saveHeaderAndRoute st (persistedHeader P s) route
    · rw [h] at hp hsa
      exact ⟨hp, .inl ⟨hsa.1, hsa.2.trans hs⟩⟩
    · rw [h] at hp hr
      exact ⟨hp, .inr (.inl hr)⟩

variable {l : α → Option ServiceReceiptPayload}

theorem settle_cases (h : OutcomeSteps drawn l s o) (m : ReceiptSessionManager σ) :
    (settle P m o).2.pendingOpt = m.pendingOpt ∧
      (((settle P m o).2.activeOpt = none ∧ returnedBy l (settle P m o).1 = none) ∨
        ∃ s', (settle P m o).2.activeOpt = some s' ∧ SessionStep drawn s (returnedBy l (settle P m o).1) s') := by
  cases o with
  | fail e s' => exact ⟨rfl, .inr ⟨s', rfl, h⟩⟩
  | done result s' => exact ⟨rfl, .inr ⟨s', rfl, h⟩⟩
  | persist streamKey result s' =>
    obtain ⟨hs, hfo⟩ := h
    obtain ⟨answer, m', hpe⟩ : ∃ answer m', persistRoute P { m with activeOpt := some s' } streamKey = (answer, m') :=
      ⟨_, _, rfl⟩
    obtain ⟨hp, hc⟩ := persistRoute_cases rfl hpe
    simp only [settle, hpe]
    rcases hc with ⟨rfl, ha⟩ | ⟨⟨e, rfl⟩, ha⟩ | ⟨⟨e, rfl⟩, ha, hf⟩
    · exact ⟨hp, .inr ⟨s', ha, hs⟩⟩
    · exact ⟨hp, .inl ⟨ha, rfl⟩⟩
    · -- the route to save is missing: the answer is an error, and no payload was made
      have hn : l result = none := by_contra fun hne => hfo hne hf
      rw [hn] at hs
      exact ⟨hp, .inr ⟨s', ha, hs⟩⟩

theorem expire_cases (now : Nat) : (m.expire now).pendingOpt = m.pendingOpt ∧
      ((m.expire now).activeOpt = none ∨ (m.expire now).activeOpt = m.activeOpt) := by
  unfold expire
  split
  · split <;> simp [clearStore]
  · simp

theorem expire_eq_self {m : ReceiptSessionManager σ} {now : Nat} (h : (m.expire now).activeOpt = some s) :
    m.expire now = m := by
  unfold expire at h ⊢
  split at h
  · split at h
    · cases h
    · rename_i hl
      simp [hl]
  · rfl

/-- **Operations on the active session.** The session ends and nothing is handed out, or it makes one
step; the pending proposal is not touched. -/
theorem onActive_cases {o : ActiveReceiptSession → Outcome α}
    (h : ∀ s, OutcomeSteps drawn l s (o s)) (ha : returnedBy l ab = none) (m : ReceiptSessionManager σ) (now : Nat) :
    (m.onActive P now ab o).2.pendingOpt = m.pendingOpt ∧ (((m.onActive P now ab o).2.activeOpt = none ∧
          returnedBy l (m.onActive P now ab o).1 = none) ∨
        ∃ s s', m.activeOpt = some s ∧ (m.onActive P now ab o).2.activeOpt = some s' ∧
          SessionStep drawn s (returnedBy l (m.onActive P now ab o).1) s') := by
  obtain ⟨hp, -⟩ := expire_cases m now
  simp only [onActive]
  cases hs : (m.expire now).activeOpt with
  | none => exact ⟨hp, .inl ⟨hs, ha⟩⟩
  | some s =>
    obtain ⟨hp', hc⟩ := settle_cases (P := P) (h s) (m.expire now)
    refine ⟨hp'.trans hp, hc.imp_right ?_⟩
    rintro ⟨s', hs', hst⟩
    exact ⟨s, s', expire_eq_self hs ▸ hs, hs', hst⟩

/-! ## Activation -/

theorem signatureFromHex_eq_error {inp : String} (h : signatureFromHex P inp = .error e) : ∃ message,
    e = .signature message := by
  simp only [signatureFromHex, bind_eq_error, mapErr_eq_error, failIf_eq_error] at h
  obtain ⟨message, -, rfl⟩ | ⟨bytes, -, ⟨-, rfl⟩ | ⟨_, -, ⟨-, rfl⟩ | ⟨_, -, h⟩⟩⟩ := h
  · exact ⟨_, rfl⟩
  · exact ⟨_, rfl⟩
  · exact ⟨_, rfl⟩
  · split at h
    all_goals cases h
    exact ⟨_, rfl⟩

/-- The manager as it asks for the header of the new session to be saved. -/
def ReceiptSessionManager.activated (pending : PendingReceiptSession)
    (authorization : AuthorizedReceiptSession) : ReceiptSessionManager σ :=
  { m with
    pendingOpt := none
    activeOpt := some ⟨authorization, pending.payerCryptde, [], 0⟩
    recoveryStoreOpt := m.recoveryStoreOpt.map fun store => (ReceiptSessionRecoveryStore.clear store).2 }

inductive Activation (P : Primitives) (m : ReceiptSessionManager σ) (now : Nat) :
    Except ReceiptSessionManagerError ReceiptSessionStatus × ReceiptSessionManager σ → Prop
  | refused {e : ReceiptSessionManagerError} {pendingOpt : Option PendingReceiptSession}
      (he : ∀ message, e ≠ .persistence message) (hpending : pendingOpt = m.pendingOpt ∨ pendingOpt = none) :
      Activation P m now (.error e, { m with pendingOpt })
  | storeless {message : String} (hstore : m.recoveryStoreOpt = none) :
      Activation P m now (.error (.persistence message), m)
  | uncleared {store : σ} {message : String} (hstore : m.recoveryStoreOpt = some store)
      (hclear : (ReceiptSessionRecoveryStore.clear store).1 = .error message) :
      Activation P m now (.error (.persistence message),
        { m with recoveryStoreOpt := some (ReceiptSessionRecoveryStore.clear store).2 })
  | unsaved {pending : PendingReceiptSession} {authorization : AuthorizedReceiptSession}
      {e : ReceiptSessionManagerError} {m' : ReceiptSessionManager σ} (hpending : m.pendingOpt = some pending)
      (hpolicy : authorization.policy = pending.policy)
      (hsave : persistHeader P (m.activated pending authorization) = (.error e, m')) : Activation P m now (.error e, m')
  | activated {pending : PendingReceiptSession} {authorization : AuthorizedReceiptSession}
      {m' : ReceiptSessionManager σ} (hpending : m.pendingOpt = some pending)
      (hpolicy : authorization.policy = pending.policy)
      (hverify : authorization.verify P m.config.chainId m.config.settlementContract
        pending.policy.payerSessionPublicKey now 0 = .ok ())
      (hclear : ∀ store, m.recoveryStoreOpt = some store → (ReceiptSessionRecoveryStore.clear store).1 = .ok ())
      (hsave : persistHeader P (m.activated pending authorization) = (.ok (), m')) :
      Activation P m now (.ok (m'.status P now).1, m'.expire now)

theorem activate_cases (p si : String) (now : Nat) : Activation P m now (m.activate P p si now) := by
  simp only [activate]
  split
  · exact .refused (by simp) (.inl rfl)
  · rename_i pending hp
    split
    · exact .refused (by simp) (.inl rfl)
    · split
      · exact .refused (by simp) (.inr rfl)
      · split
        · rename_i e he
          refine .refused ?_ (.inl rfl)
          simp only [bind_eq_error, mapErr_eq_error, pure_ne_error, and_false, exists_false, or_false] at he
          obtain hsi | ⟨_, -, _, -, rfl⟩ := he
          · obtain ⟨_, rfl⟩ := signatureFromHex_eq_error hsi
            simp
          · simp
        · rename_i authorization ha
          simp only [bind_eq_ok, mapErr_eq_ok, pure_eq_ok] at ha
          obtain ⟨walletSignature, -, _, hv, rfl⟩ := ha
          cases hs : m.recoveryStoreOpt with
          | none =>
            by_cases hr : m.recoveryRequired = true
            · simp only [if_pos hr, ← hs]
              exact .storeless hs
            · simp only [if_neg hr]
              split
              · rename_i hsa
                exact .unsaved hp rfl (by simpa [activated, hs] using hsa)
              · rename_i hsa
                exact .activated hp rfl hv (by simp [hs]) (by simpa [activated, hs] using hsa)
          | some store =>
            cases hc : (ReceiptSessionRecoveryStore.clear store).1 with
            | error message =>
              simp only [hc, mapErr]
              exact .uncleared hs hc
            | ok u =>
              simp only [hc, mapErr]
              split
              · rename_i hsa
                exact .unsaved hp rfl (by simpa [activated, hs] using hsa)
              · rename_i hsa
                exact .activated hp rfl hv (by simp [hs, hc]) (by simpa [activated, hs] using hsa)

end Manager

end MasqMobile
