import MasqMobile.Lib.Database
import MasqMobile.Session.Recovery
import MasqMobile.Session.Steps

/-!
# What makes a session restorable

`restore_active` (receipt_session.rs:335) refuses a session for many reasons. `restoreActive_eq_ok_iff` gathers them:
it restores exactly the sessions that are `Consistent` and whose routing queues are `QueuesBounded`, at any time
inside the window of their authorization.

Every operation that succeeds writes at most one route, and keeps the session consistent whatever its arguments
(`OutcomeWrites`). The bound on the routing queues is different: `record_routing_payload` looks at each queue once and
then pushes once for every occurrence of the provider.
-/

theorem Finmap.any_eq_true_iff {α : Type*} [DecidableEq α] {β : α → Type*} {f : ∀ a, β a → Bool} {s : Finmap β} :
    s.any f = true ↔ ∃ a b, s.lookup a = some b ∧ f a b = true := by
  have hf : ∀ (l : List (Sigma β)) (x : Bool),
      l.foldl (fun x y => x || f y.1 y.2) x = (x || l.any fun y => f y.1 y.2) := by
    intro l
    induction l with
    | nil => simp
    | cons y l ih => simp [ih, Bool.or_assoc]
  induction s using Finmap.induction_on with
  | H s =>
    have ha : s.toFinmap.any f = s.entries.any fun y => f y.1 y.2 := (hf s.entries false).trans (by simp)
    rw [ha, List.any_eq_true]
    simp only [Finmap.lookup_eq_some_iff, AList.toFinmap_entries, Multiset.mem_coe, Sigma.exists]

namespace MasqMobile

open Fallible ReceiptSessionManager ReceiptRouteState RoutingProviderReceiptState

variable {r r' : ReceiptRouteState} {s : ActiveReceiptSession} {P : Primitives} {config : ReceiptSessionConfig}

/-! ## Consistent routes and sessions -/

namespace ReceiptRouteState

/-- `checkpoint_matches` under the authorization `a`. -/
structure OwnCheckpoint (a : AuthorizedReceiptSession) (r : ReceiptRouteState) (provider : PublicKey)
    (checkpoint : ReceiptSequenceCheckpoint) : Prop where
  epoch : checkpoint.routeEpoch = r.request.routeEpoch
  provider : checkpoint.providerPublicKey = provider
  commitment : checkpoint.accountingCommitment = r.request.accountingCommitment
  sessionKey : checkpoint.payerSessionPublicKey = a.policy.payerSessionPublicKey

/-- What `restore_active` asks of a route under the authorization `a`, its routing queues aside. -/
structure Consistent (P : Primitives) (a : AuthorizedReceiptSession) (r : ReceiptRouteState) : Prop where
  authorization : r.request.authorization = a
  epoch : r.request.routeEpoch ≠ 0
  commitment : makeAccountingCommitment P r.request.routeEpoch a.policy.payerSessionPublicKey =
    r.request.accountingCommitment
  responses : r.observedResponses.length ≤ maxPendingReceiptResponsesPerRoute
  exit : ∀ checkpoint, r.checkpointOpt = some checkpoint →
    ∃ provider, r.expectedProviderPublicKeyOpt = some provider ∧ r.OwnCheckpoint a provider checkpoint
  routing : ∀ provider state checkpoint, r.routingProviderStates.lookup provider = some state →
    state.checkpointOpt = some checkpoint → r.OwnCheckpoint a provider checkpoint

/-- No provider's queue is longer than `restore_active` allows. -/
def QueuesBounded (r : ReceiptRouteState) : Prop :=
  ∀ provider state, r.routingProviderStates.lookup provider = some state →
    state.observedPayloads.length ≤ maxPendingReceiptResponsesPerRoute

end ReceiptRouteState

namespace ActiveReceiptSession

/-- What `restore_active` asks of a session, its routing queues aside. -/
structure Consistent (P : Primitives) (config : ReceiptSessionConfig) (s : ActiveReceiptSession) : Prop where
  authentic : s.authorization.Authentic P config.chainId config.settlementContract s.payerCryptde.publicKey
  wallet : s.authorization.policy.payerWalletAddress = config.payerWalletAddress
  capped : s.spentChargeWei ≤ s.authorization.policy.maxTotalChargeWei
  length_le : s.routes.length ≤ maxReceiptSessionRoutes
  streamKeys : (s.routes.map (·.streamKey)).Nodup
  routeEpochs : (epochs s).Nodup
  routes : ∀ r ∈ s.routes, r.Consistent P s.authorization

def QueuesBounded (s : ActiveReceiptSession) : Prop := ∀ r ∈ s.routes, r.QueuesBounded

end ActiveReceiptSession

/-! ## The checks of `restore_active` -/

variable {checkpoint : ReceiptSequenceCheckpoint}

section Restore

variable {hdr : PersistedReceiptSessionHeader} {now : Nat} {routes : List ReceiptRouteState}

theorem checkpointMatches_iff :
    checkpointMatches hdr r checkpoint p = true ↔ r.OwnCheckpoint hdr.authorization p checkpoint := by
  simp only [checkpointMatches, decide_eq_true_eq]
  exact ⟨fun ⟨h₁, h₂, h₃, h₄⟩ => ⟨h₁, h₂, h₃, h₄⟩, fun ⟨h₁, h₂, h₃, h₄⟩ => ⟨h₁, h₂, h₃, h₄⟩⟩

theorem exitCheckpointForeign_eq_false_iff :
    exitCheckpointForeign hdr r = false ↔ ∀ checkpoint, r.checkpointOpt = some checkpoint →
      ∃ provider, r.expectedProviderPublicKeyOpt = some provider ∧
        r.OwnCheckpoint hdr.authorization provider checkpoint := by
  unfold exitCheckpointForeign
  split
  · simp [*]
  · simp [*, checkpointMatches_iff]
  · simp [*]

theorem routingCheckpointForeign_eq_false_iff : routingCheckpointForeign hdr r = false ↔ ∀ provider state checkpoint,
      r.routingProviderStates.lookup provider = some state → state.checkpointOpt = some checkpoint →
        r.OwnCheckpoint hdr.authorization provider checkpoint := by
  rw [← Bool.not_eq_true, routingCheckpointForeign, Finmap.any_eq_true_iff]
  push Not
  refine forall_congr' fun provider => forall_congr' fun state => ?_
  cases hc : state.checkpointOpt with
  | none => simp
  | some checkpoint => simp [checkpointMatches_iff]

theorem any_full_eq_false_iff : (r.routingProviderStates.any fun _ state =>
      decide (state.observedPayloads.length > maxPendingReceiptResponsesPerRoute)) = false ↔ r.QueuesBounded := by
  rw [← Bool.not_eq_true, Finmap.any_eq_true_iff]
  simp only [QueuesBounded, decide_eq_true_eq, not_exists, not_and, gt_iff_lt, not_lt]

/-- The checks of one route, given that the header's authorization was verified. -/
theorem route_checks_iff (ha : hdr.authorization.Authentic P config.chainId config.settlementContract
      hdr.authorization.policy.payerSessionPublicKey)
    (hf : hdr.authorization.policy.validFromUnixS ≤ now)
    (hto : now ≤ hdr.authorization.policy.expiresAtUnixS) :
    (r.request.authorization = hdr.authorization ∧
        ¬r.observedResponses.length > maxPendingReceiptResponsesPerRoute ∧ r.QueuesBounded) ∧
      r.request.verify P config.chainId config.settlementContract now = .ok u ∧
      exitCheckpointForeign hdr r = false ∧ routingCheckpointForeign hdr r = false ↔
    r.Consistent P hdr.authorization ∧ r.QueuesBounded := by
  simp only [ReceiptSessionRequest.verify, bind_eq_ok, failIf_eq_ok, not_not,
    AuthorizedReceiptSession.verify_eq_ok_iff, exitCheckpointForeign_eq_false_iff,
    routingCheckpointForeign_eq_false_iff]
  constructor
  · rintro ⟨⟨hs, hr, hq⟩, ⟨_, hep, _, hc, -⟩, he, hro⟩
    rw [hs] at hc
    exact ⟨⟨hs, hep, hc, not_lt.1 hr, he, hro⟩, hq⟩
  · rintro ⟨⟨hs, hep, hc, hr, he, hro⟩, hq⟩
    rw [hs]
    exact ⟨⟨rfl, not_lt.2 hr, hq⟩, ⟨(), hep, (), hc, ha, hf, hto, Nat.zero_le _⟩, he, hro⟩

theorem checkRoutes_eq_ok_iff (ha : hdr.authorization.Authentic P config.chainId config.settlementContract
      hdr.authorization.policy.payerSessionPublicKey)
    (hfr : hdr.authorization.policy.validFromUnixS ≤ now)
    (hto : now ≤ hdr.authorization.policy.expiresAtUnixS) :
    checkRoutes P config hdr now sk re routes = .ok u ↔
      (routes.map (·.streamKey)).Nodup ∧ (∀ r ∈ routes, r.streamKey ∉ sk) ∧
      (routes.map (·.request.routeEpoch)).Nodup ∧ (∀ r ∈ routes, r.request.routeEpoch ∉ re) ∧
      ∀ r ∈ routes, r.Consistent P hdr.authorization ∧ r.QueuesBounded := by
  induction routes generalizing sk re with
  | nil => simp [checkRoutes]
  | cons r routes ih =>
    have hro := route_checks_iff (r := r) (u := ()) ha hfr hto
    simp only [checkRoutes, bind_eq_ok, failIf_eq_ok, mapErr_eq_ok, not_or, not_not, Bool.not_eq_true,
      any_full_eq_false_iff, ih]
    constructor
    · rintro ⟨_, ⟨hke, he, hc⟩, _, hv, _, hf, hk, hne, hep, hn, hre⟩
      have hr := hro.1 ⟨hc, hv, hf⟩
      simp only [List.mem_cons, not_or, List.map_cons, List.nodup_cons, List.mem_map, not_exists, not_and,
        forall_eq_or_imp] at hne hn ⊢
      exact ⟨⟨fun x hx => (hne x hx).1, hk⟩, ⟨hke, fun x hx => (hne x hx).2⟩,
        ⟨fun x hx => (hn x hx).1, hep⟩, ⟨he, fun x hx => (hn x hx).2⟩, hr, hre⟩
    · simp only [List.mem_cons, not_or, List.map_cons, List.nodup_cons, List.mem_map, not_exists, not_and,
        forall_eq_or_imp]
      rintro ⟨⟨hne, hk⟩, ⟨hke, hol⟩, ⟨hn, hep⟩, ⟨he, ho⟩, hr, hre⟩
      obtain ⟨hc, hv, hf⟩ := hro.2 hr
      exact ⟨(), ⟨hke, he, hc⟩, (), hv, (), hf, hk, fun x hx => ⟨hne x hx, hol x hx⟩,
        hep, fun x hx => ⟨hn x hx, ho x hx⟩, hre⟩

/-- **Restoring.** A header and routes are restored exactly if they make a consistent session with
bounded queues, inside the window of its authorization. -/
theorem restoreActive_eq_ok_iff : restoreActive P config hdr routes now = .ok s ↔
      (s.authorization = hdr.authorization ∧ s.spentChargeWei = hdr.spentChargeWei ∧ s.routes = routes ∧
        P.makeFromStr hdr.payerCryptde = .ok s.payerCryptde) ∧
      s.Consistent P config ∧ s.QueuesBounded ∧
      s.authorization.policy.validFromUnixS ≤ now ∧ now ≤ s.authorization.policy.expiresAtUnixS := by
  simp only [restoreActive, bind_eq_ok, failIf_eq_ok, mapErr_eq_ok, pure_eq_ok, not_not,
    AuthorizedReceiptSession.verify_eq_ok_iff, gt_iff_lt, not_lt]
  constructor
  · rintro ⟨_, hl, payerCryptde, hk, _, ⟨ha, hf, hto, hc⟩, _, hw, _, hro, rfl⟩
    have ho := ha.sessionKey ▸ ha
    obtain ⟨hke, -, he, -, hro⟩ := (checkRoutes_eq_ok_iff ho hf hto).1 hro
    exact ⟨⟨rfl, rfl, rfl, hk⟩, ⟨ha, hw, hc, hl, hke, he, fun r hr => (hro r hr).1⟩, fun r hr => (hro r hr).2, hf, hto⟩
  · obtain ⟨authorization, payerCryptde, routes', spent⟩ := s
    rintro ⟨⟨rfl, rfl, rfl, hk⟩, hs, hq, hf, hto⟩
    have ho := hs.authentic.sessionKey ▸ hs.authentic
    exact ⟨(), hs.length_le, payerCryptde, hk, (), ⟨hs.authentic, hf, hto, hs.capped⟩, (), hs.wallet, (),
      (checkRoutes_eq_ok_iff ho hf hto).2 ⟨hs.streamKeys, by simp, hs.routeEpochs, by simp,
        fun r hr => ⟨hs.routes r hr, hq r hr⟩⟩, rfl⟩

end Restore

/-! ## Writing one route -/

/-- `s'` is `s` with `r'` as the route of its stream, in the place of an old one or as a new one. -/
structure Writes (P : Primitives) (config : ReceiptSessionConfig) (s : ActiveReceiptSession) (r' : ReceiptRouteState)
    (s' : ActiveReceiptSession) : Prop where
  authorization : s'.authorization = s.authorization
  payerCryptde : s'.payerCryptde = s.payerCryptde
  routes : s'.routes.Perm (r' :: s.routes.filter (·.streamKey ≠ r'.streamKey))
  consistent : s'.Consistent P config

section Writes

variable {s' : ActiveReceiptSession}

/-- A route that is consistent on its own and has its epoch for itself may be written. -/
theorem ActiveReceiptSession.Consistent.writes (h : s.Consistent P config)
    (ha : s'.authorization = s.authorization) (hk : s'.payerCryptde = s.payerCryptde)
    (hp : s'.routes.Perm (r' :: s.routes.filter (·.streamKey ≠ r'.streamKey)))
    (hl : s'.routes.length ≤ maxReceiptSessionRoutes)
    (hc : s'.spentChargeWei ≤ s.authorization.policy.maxTotalChargeWei)
    (hro : r'.Consistent P s.authorization)
    (he : ∀ r ∈ s.routes, r.streamKey ≠ r'.streamKey → r.request.routeEpoch ≠ r'.request.routeEpoch) :
    Writes P config s r' s' := by
  have hs : (s.routes.filter (·.streamKey ≠ r'.streamKey)).Sublist s.routes := List.filter_sublist
  refine ⟨ha, hk, hp, ?_, ?_, ?_, hl, ?_, ?_, ?_⟩
  · rw [ha, hk]
    exact h.authentic
  · rw [ha]
    exact h.wallet
  · rw [ha]
    exact hc
  · rw [(hp.map _).nodup_iff, List.map_cons, List.nodup_cons]
    exact ⟨by simp, h.streamKeys.sublist (hs.map _)⟩
  · rw [epochs, (hp.map _).nodup_iff, List.map_cons, List.nodup_cons]
    refine ⟨?_, h.routeEpochs.sublist (hs.map _)⟩
    simpa using fun r hr hne => he r hr hne
  · intro r hr
    rw [ha]
    rcases List.mem_cons.1 (hp.subset hr) with rfl | ho
    · exact hro
    · exact h.routes r (hs.subset ho)

/-- In the place of the route of its stream, under the old epoch or a new one. -/
theorem ActiveReceiptSession.Consistent.writes_assign (h : s.Consistent P config)
    {after : List ReceiptRouteState} (hs : s.routes = b ++ r :: after)
    (hk : r'.streamKey = r.streamKey)
    (he : r'.request.routeEpoch = r.request.routeEpoch ∨ r'.request.routeEpoch ∉ epochs s)
    (hc : sp ≤ s.authorization.policy.maxTotalChargeWei) (hr : r'.Consistent P s.authorization) :
    Writes P config s r' { s with routes := b ++ r' :: after, spentChargeWei := sp } := by
  have hke := h.streamKeys
  have hep := h.routeEpochs
  simp only [epochs, hs, List.map_append, List.map_cons, List.nodup_append, List.nodup_cons, List.mem_cons,
    List.mem_map] at hke hep he
  have hf : s.routes.filter (·.streamKey ≠ r'.streamKey) = b ++ after := by
    rw [hs, List.filter_append, List.filter_cons_of_neg (by simp [hk])]
    congr 1 <;> refine List.filter_eq_self.2 fun x hx => ?_ <;> simp only [hk, decide_eq_true_eq] <;> grind
  refine h.writes rfl rfl ?_ ?_ hc hr fun x hx hne => ?_
  · rw [hf]
    exact List.perm_middle
  · have hl := h.length_le
    simpa [hs] using hl
  · rw [hs] at hx
    rw [hk] at hne
    simp only [List.mem_append, List.mem_cons] at hx
    grind

theorem ActiveReceiptSession.Consistent.writes_append (h : s.Consistent P config)
    (hn : s.routes.find? (·.streamKey = r'.streamKey) = none) (hl : s.routes.length < maxReceiptSessionRoutes)
    (he : r'.request.routeEpoch ∉ epochs s) (hr : r'.Consistent P s.authorization) :
    Writes P config s r' { s with routes := s.routes ++ [r'] } := by
  have hf : s.routes.filter (·.streamKey ≠ r'.streamKey) = s.routes :=
    List.filter_eq_self.2 fun x hx => by simpa using List.find?_eq_none.1 hn x hx
  refine h.writes rfl rfl ?_ ?_ h.capped hr fun x hx _ heq => ?_
  · rw [hf]
    exact List.perm_append_singleton _ _
  · rw [List.length_append, List.length_singleton]
    exact hl
  · exact he (heq ▸ List.mem_map_of_mem hx)

theorem Writes.queuesBounded_iff (h : Writes P config s r' s') (hs : s.QueuesBounded) :
    s'.QueuesBounded ↔ r'.QueuesBounded := by
  constructor
  · exact fun hs' => hs' r' (h.routes.symm.subset (by simp))
  · intro hr' r hr
    rcases List.mem_cons.1 (h.routes.subset hr) with rfl | ho
    · exact hr'
    · exact hs r (List.mem_of_mem_filter ho)

theorem Writes.find (h : Writes P config s r' s') : s'.routes.find? (·.streamKey = r'.streamKey) = some r' := by
  have hm : r' ∈ s'.routes := h.routes.symm.subset (by simp)
  exact Table.find_eq_some_iff (t := ⟨s'.routes, h.consistent.streamKeys⟩).2 ⟨hm, rfl⟩

end Writes

/-! ## Updates of one route -/

/-- What an update leaves to be saved is a consistent route for the same request, and its routing queues
are bounded exactly if there is `room`. -/
def RouteUpdateWrites (P : Primitives) (a : AuthorizedReceiptSession) (r : ReceiptRouteState) (room : Prop) :
    RouteUpdate → Prop
  | .reject _ _ => True
  | .keep => room
  | .save r' => (r'.streamKey = r.streamKey ∧ r'.request = r.request ∧ r'.Consistent P a) ∧
      (r.QueuesBounded → (r'.QueuesBounded ↔ room))

section Updates

variable {a : AuthorizedReceiptSession}

section

variable (h : r.Consistent P a)
include h

theorem ReceiptRouteState.Consistent.update (hr : r'.request = r.request)
    (hre : r'.observedResponses.length ≤ maxPendingReceiptResponsesPerRoute)
    (he : ∀ checkpoint, r'.checkpointOpt = some checkpoint →
      ∃ provider, r'.expectedProviderPublicKeyOpt = some provider ∧ r.OwnCheckpoint a provider checkpoint)
    (hro : ∀ provider state checkpoint, r'.routingProviderStates.lookup provider = some state →
      state.checkpointOpt = some checkpoint → r.OwnCheckpoint a provider checkpoint) : r'.Consistent P a := by
  have ho : ∀ {provider checkpoint}, r.OwnCheckpoint a provider checkpoint → r'.OwnCheckpoint a provider checkpoint :=
    fun ⟨h₁, h₂, h₃, h₄⟩ => ⟨by rw [hr, h₁], h₂, by rw [hr, h₃], h₄⟩
  refine ⟨by rw [hr, h.authorization], by rw [hr]; exact h.epoch, by rw [hr]; exact h.commitment,
    hre, fun checkpoint hc => ?_, fun provider state checkpoint hs hc => ho (hro provider state checkpoint hs hc)⟩
  obtain ⟨provider, hp, hm⟩ := he checkpoint hc
  exact ⟨provider, hp, ho hm⟩

theorem observeRequest_writes (p : Nat) : RouteUpdateWrites P a r True (observeRequest r p) := by
  unfold observeRequest
  split
  · trivial
  · split
    · trivial
    · split
      · trivial
      · exact ⟨⟨rfl, rfl, h.update rfl h.responses h.exit h.routing⟩, fun hr => iff_true_intro hr⟩

theorem observeResponse_writes (se p : Nat) : RouteUpdateWrites P a r True (observeResponse r se p) := by
  unfold observeResponse
  split
  · trivial
  · rename_i hf
    split
    · trivial
    · split
      · refine ⟨⟨rfl, rfl, h.update rfl ?_ h.exit h.routing⟩, fun hr => iff_true_intro hr⟩
        have hlt := not_le.1 (not_or.1 hf).2
        rw [List.length_append, List.length_singleton]
        exact hlt
      · trivial

theorem bindExit_writes (p : PublicKey) (sr b : Nat) : RouteUpdateWrites P a r True (bindExit r p sr b) := by
  unfold bindExit
  split
  · rename_i hn _ _
    refine ⟨⟨rfl, rfl, h.update rfl h.responses (fun checkpoint hc => ?_) h.routing⟩, fun hr => iff_true_intro hr⟩
    -- an unquoted route has no checkpoint
    obtain ⟨_, hs, -⟩ := h.exit checkpoint hc
    simp [hn] at hs
  · split <;> trivial
  · trivial

theorem bindRouting_writes (rq re : List RoutingReceiptQuote) : RouteUpdateWrites P a r True (bindRouting r rq re) := by
  simp only [bindRouting]
  split
  · split <;> trivial
  · split
    · trivial
    · rename_i states hst
      have hf := collectProviderStates_fresh hst (by simp)
      refine ⟨⟨rfl, rfl, h.update rfl h.responses h.exit fun q state checkpoint hs hc => ?_⟩,
        fun _ => iff_true_intro fun q state hs => ?_⟩
      · simp [(hf q state hs).2.1] at hc
      · simp [(hf q state hs).1]

/-- There is room on the route for one payload per occurrence of each provider in the list. -/
def ReceiptRouteState.RoomFor (r : ReceiptRouteState) (providers : List PublicKey) : Prop :=
  ∀ provider state, r.routingProviderStates.lookup provider = some state →
    state.observedPayloads.length + providers.count provider ≤ maxPendingReceiptResponsesPerRoute

instance (r : ReceiptRouteState) (providers : List PublicKey) : Decidable (r.RoomFor providers) := decidable_of_iff
    (¬(r.routingProviderStates.any fun provider state =>
      decide (maxPendingReceiptResponsesPerRoute < state.observedPayloads.length + providers.count provider)) = true)
    (by simp only [Finmap.any_eq_true_iff, decide_eq_true_eq, not_exists, not_and, not_lt, RoomFor])

/-- **Recording a payload.** The source looks at each provider's queue before it pushes anything, so the
queues stay bounded exactly if they have room for every repetition of a provider. -/
theorem recordRoutingPayload_writes (p : List PublicKey) (ps : Nat) :
    RouteUpdateWrites P a r (r.RoomFor p) (recordRoutingPayload r p ps) := by
  simp only [recordRoutingPayload]
  split
  · trivial
  · have hl := lookup_pushPayloads_eq ps p r.routingProviderStates
    refine ⟨⟨rfl, rfl, h.update rfl h.responses h.exit fun q state checkpoint hs hc => ?_⟩, fun _ => ?_⟩
    · rw [hl] at hs
      obtain ⟨before, hb, rfl⟩ := Option.map_eq_some_iff.1 hs
      exact h.routing q before checkpoint hb hc
    · simp only [QueuesBounded, hl, Option.map_eq_some_iff, forall_exists_index, and_imp, RoomFor]
      refine forall_congr' fun q => ⟨fun hq state hs => ?_, fun hq _ state hs heq => ?_⟩
      · simpa [queue] using hq _ state hs rfl
      · simpa [← heq, queue] using hq state hs

end

end Updates

/-! ## Operations write one route -/

/-- An operation that succeeds leaves the session as it was or writes one route, whose queues are bounded
exactly if there is `room`. -/
def OutcomeWrites {α : Type} (P : Primitives) (config : ReceiptSessionConfig) (s : ActiveReceiptSession) (room : Prop) :
    Outcome α → Prop
  | .fail _ _ => True
  | .done _ s' => s' = s ∧ room
  | .persist streamKey _ s' => ∃ r', r'.streamKey = streamKey ∧ Writes P config s r' s' ∧
      (s.QueuesBounded → (r'.QueuesBounded ↔ room))

section Operations

theorem updateRoute_writes (h : s.Consistent P config) {u : ReceiptRouteState → RouteUpdate}
    {room : ReceiptRouteState → Prop}
    (hu : ∀ r, r.Consistent P s.authorization → RouteUpdateWrites P s.authorization r (room r) (u r))
    (sk : StreamKey) :
    OutcomeWrites P config s (∀ r, s.routes.find? (·.streamKey = sk) = some r → room r) (updateRoute sk u s) := by
  unfold updateRoute
  split
  · trivial
  · rename_i r hr
    have hm := List.mem_of_find?_eq_some hr
    have hro : (∀ x, s.routes.find? (·.streamKey = sk) = some x → room x) ↔ room r := by simp [hr]
    have hw := hu r (h.routes r hm)
    split
    · trivial
    · rename_i hke
      rw [hke] at hw
      exact ⟨rfl, hro.2 hw⟩
    · rename_i r' hsa
      rw [hsa] at hw
      obtain ⟨⟨hk, hre, hc⟩, hq⟩ := hw
      obtain ⟨before, after, hsp, hf, ha⟩ := assignRoute_split hr
      refine ⟨r', hk.trans (by simpa using hf), ?_, fun hs => (hq (hs r hm)).trans hro.symm⟩
      rw [ha]
      exact h.writes_assign hsp hk (.inl (by rw [hre])) h.capped hc

/-- A new route is consistent, and its epoch differs from those of the others. -/
theorem freshRouteRequest_consistent (hr : freshRouteRequest P s ro = .ok re) :
    (routeState sk re).Consistent P s.authorization := by
  simp only [freshRouteRequest, ReceiptSessionRequest.new, bind_eq_ok, failIf_eq_ok, mapErr_eq_ok, pure_eq_ok] at hr
  obtain ⟨_, -, _, he, rfl⟩ := hr
  refine ⟨rfl, he, rfl, ?_, ?_, ?_⟩ <;> simp [routeState]

theorem queuesBounded_routeState (sk : StreamKey) (re : ReceiptSessionRequest) : (routeState sk re).QueuesBounded := by
  intro provider state hs
  simp [routeState] at hs

theorem openRoute_writes (h : s.Consistent P config) (sk : StreamKey) (re : Bytes32) :
    OutcomeWrites P config s True (openRoute P s sk re) := by
  unfold openRoute
  split
  · exact ⟨rfl, trivial⟩
  · rename_i hn
    split
    · trivial
    · rename_i hl
      split
      · trivial
      · rename_i request hr
        obtain ⟨rfl, hne⟩ := freshRouteRequest_eq_ok hr
        exact ⟨routeState sk request, rfl, h.writes_append hn (not_le.1 hl) hne (freshRouteRequest_consistent hr),
          fun _ => iff_true_intro (queuesBounded_routeState sk request)⟩

theorem rotateRoute_writes (h : s.Consistent P config) (sk : StreamKey) (re : Bytes32) :
    OutcomeWrites P config s True (rotateRoute P s sk re) := by
  unfold rotateRoute
  split
  · trivial
  · rename_i request hre
    obtain ⟨rfl, hn⟩ := freshRouteRequest_eq_ok hre
    have hq := queuesBounded_routeState sk request
    have hc : (routeState sk request).Consistent P s.authorization := freshRouteRequest_consistent hre
    split
    · rename_i r hr
      obtain ⟨before, after, hs, hf, ha⟩ := assignRoute_split hr
      refine ⟨routeState sk request, rfl, ?_, fun _ => iff_true_intro hq⟩
      rw [ha]
      refine h.writes_assign hs ?_ (.inr hn) h.capped hc
      simpa [routeState, eq_comm] using hf
    · rename_i hno
      split
      · rename_i hl
        exact ⟨routeState sk request, rfl, h.writes_append hno hl hn hc, fun _ => iff_true_intro hq⟩
      · trivial

/-- The checkpoint of a countersigned offer belongs to the route and provider that the offer names. -/
theorem countersign_ownCheckpoint (h : s.Consistent P config) (hr : r.Consistent P s.authorization) {now : Nat}
    (he : r.request.routeEpoch = si.receipt.routeEpoch)
    (hsi : countersign P config s c si now = .ok (checkpoint, p, sp)) :
    r.OwnCheckpoint s.authorization si.receipt.providerPublicKey checkpoint := by
  obtain ⟨hs, hk, rfl, hc⟩ := countersign_checkpoint hsi
  refine ⟨?_, ?_, ?_, ?_⟩
  · rw [ReceiptSequenceCheckpoint.ofAcknowledged, hs, he]
  · rw [ReceiptSequenceCheckpoint.ofAcknowledged, hs]
  · rw [ReceiptSequenceCheckpoint.ofAcknowledged, hs, ← hr.commitment, ← hc, he, h.authentic.sessionKey]
  · rw [ReceiptSequenceCheckpoint.ofAcknowledged, hk, h.authentic.sessionKey]

theorem Answers.writes (ha : Answers P config s si now o) (h : s.Consistent P config) :
    OutcomeWrites P config s True o := by
  cases ha with
  | failed => trivial
  | replayed => exact ⟨rfl, trivial⟩
  | @charged r checkpoint payload previous r' spent hf hack hsi =>
    have hm := List.mem_of_find?_eq_some hf
    have hr := h.routes r hm
    obtain ⟨before, after, hsp, hfo, ha⟩ := assignRoute_split hf
    have how := countersign_ownCheckpoint h hr (by simpa using hfo) hsi
    obtain ⟨hk, he, hc, hq⟩ : r'.streamKey = r.streamKey ∧ r'.request.routeEpoch = r.request.routeEpoch ∧
        r'.Consistent P s.authorization ∧ (r.QueuesBounded → r'.QueuesBounded) := by
      cases hack with
      | exit hc =>
        refine ⟨rfl, rfl, hr.update rfl ?_ ?_ hr.routing, fun hs => hs⟩
        · rw [List.length_tail]
          exact (Nat.sub_le _ _).trans hr.responses
        · rintro _ ⟨⟩
          exact ⟨_, (checkExitOffer_eq_ok_iff.1 hc).1, how⟩
      | @routing state hst =>
        refine ⟨rfl, rfl, hr.update rfl hr.responses hr.exit fun q other c ho hc => ?_, fun hs q other ho => ?_⟩
        all_goals by_cases hq : q = si.receipt.providerPublicKey
        · subst hq
          rw [Finmap.lookup_insert, Option.some.injEq] at ho
          subst ho
          exact Option.some.inj hc ▸ how
        · rw [Finmap.lookup_insert_of_ne _ hq] at ho
          exact hr.routing q other c ho hc
        · subst hq
          rw [Finmap.lookup_insert, Option.some.injEq] at ho
          subst ho
          rw [List.length_tail]
          exact (Nat.sub_le _ _).trans (hs _ state hst)
        · rw [Finmap.lookup_insert_of_ne _ hq] at ho
          exact hs q other ho
    refine ⟨r', hk, ?_, fun hs => iff_true_intro (hq (hs r hm))⟩
    rw [ha]
    exact h.writes_assign hsp hk (.inl he) (countersign_spec hsi).2.2.2.2.2 hc

end Operations

end MasqMobile
