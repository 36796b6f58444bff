import MasqMobile.Metering.Exit
import MasqMobile.Session.Spending

/-!
# When the two counts of an exit stream agree

The consumer folds every request it has sent into the response that arrives next, the exit node every request it has
received into the response it emits next. The two are the same requests as long as no request and response cross on
the way (`Separated`).

The invariant reads the responses in flight from the consumer's state on (`Flow`) and ends at the exit node's state,
after the requests in flight.
-/

namespace MasqMobile

open Fallible

variable {σ : Type} {P : Primitives}

section Conditions

variable (S : ExitSetting P) (spentBefore : Nat) (s : ExitStream σ)

/-- The cumulative charge of the offer that the exit node makes with a response of `size` bytes. -/
def nextCumulative (size : Nat) : Option Nat :=
  s.exit.bind fun state => (addResponse state.pending size).map fun aggregate =>
    standing state.lastSignedReceiptOpt + S.price aggregate

/-- The session is in its time window, and the next offer stays within its limit. -/
def WithinSession : ExitEvent → Prop
  | .sendRequest _ now => S.policy.Open now
  | .requestArrives now => S.policy.Open now
  | .emitResponse size _ => ∀ cumulative ∈ nextCumulative S s size,
      spentBefore + cumulative ≤ S.policy.maxTotalChargeWei
  | .responseArrives now => S.policy.Open now

/-- No non-empty request crosses a response, none reaches a retired stream, and the units the consumer
counts between two responses fit. -/
def Separated : ExitEvent → Prop
  | .sendRequest size _ => size ≠ 0 → s.responses = [] ∧
      ∀ active ∈ s.consumer.activeOpt, ∀ route ∈ active.routes.find? (·.streamKey = S.streamKey),
        route.pendingRequestServiceUnits + 1 < 2 ^ 64
  | .requestArrives _ => s.requests ≠ [] → s.retired = false
  | .emitResponse _ _ => ∀ size ∈ s.requests, size = 0
  | .responseArrives _ => True

instance (policy : ReceiptSessionPolicy) (now : Nat) : Decidable (policy.Open now) :=
  inferInstanceAs (Decidable (_ ∧ _))

instance : ∀ event, Decidable (WithinSession S spentBefore s event)
  | .sendRequest _ now => inferInstanceAs (Decidable (S.policy.Open now))
  | .requestArrives now => inferInstanceAs (Decidable (S.policy.Open now))
  | .emitResponse size _ => inferInstanceAs (Decidable (∀ cumulative ∈ nextCumulative S s size, _))
  | .responseArrives now => inferInstanceAs (Decidable (S.policy.Open now))

instance : ∀ event, Decidable (Separated S s event)
  | .sendRequest _ _ => inferInstanceAs (Decidable (_ → _ ∧ _))
  | .requestArrives _ => inferInstanceAs (Decidable (_ → _))
  | .emitResponse _ _ => inferInstanceAs (Decidable (∀ size ∈ s.requests, size = 0))
  | .responseArrives _ => inferInstanceAs (Decidable True)

/-- The consumer's front observation was the offer's, and the offer was acknowledged. -/
def Answer.Agrees (a : Answer) : Prop :=
  a.front = some (a.offer.receipt.sequence, a.offer.receipt.payloadSize, a.offer.receipt.serviceUnits) ∧
    ∃ payload, a.result = .ok payload

/-- The exit node's receipt state; before the first request, the one it will start with. -/
def exitState : ProviderReceiptState := s.exit.getD (.opened S.request)

/-- The exit node, after the requests in flight, is where the responses in flight lead to. -/
structure ExitAt (pending : Nat × Nat) (lastOpt : Option SignedServiceReceipt) : Prop where
  request : (exitState S s).request = S.request
  pending : pending = s.requests.foldl countRequest (exitState S s).pending
  last : lastOpt = (exitState S s).lastSignedReceiptOpt
  issued : ∀ last ∈ (exitState S s).lastSignedReceiptOpt,
    S.Issued spentBefore last ∧ last.receipt.sequence < s.nextSequence

structure Metered (active : ActiveReceiptSession) (route : ReceiptRouteState)
    (lastOpt : Option SignedServiceReceipt) : Prop where
  consuming : Consuming S spentBefore s.consumer active route [] lastOpt
  flow : ∃ pending lastOpt', Flow S spentBefore route.pending lastOpt s.responses pending lastOpt' ∧
    (s.retired = false → ExitAt S spentBefore s pending lastOpt')
  quiet : s.responses ≠ [] → ∀ size ∈ s.requests, size = 0
  retired : s.retired = true → s.exit = none
  agrees : ∀ a ∈ s.answers, a.Agrees

end Conditions

section Steps

variable [ReceiptSessionRecoveryStore σ] {S : ExitSetting P} {spent now size : Nat} {s : ExitStream σ}
  {act : ActiveReceiptSession} {route : ReceiptRouteState} {lastOpt : Option SignedServiceReceipt}

theorem countRequest_zero : countRequest pending 0 = pending := by
  simp [countRequest, addRequest]

theorem foldl_countRequest_of_empty {re : List Nat} (h : ∀ size ∈ re, size = 0) :
    re.foldl countRequest pending = pending := by
  induction re with
  | nil => rfl
  | cons size re ih =>
    obtain rfl := h size (List.mem_cons_self ..)
    rw [List.foldl_cons, countRequest_zero]
    exact ih fun size hs => h size (List.mem_cons_of_mem _ hs)

theorem Metered.sendRequest (h : Metered S spent s act route lastOpt) (hsto : StoreSaves σ) (ho : S.policy.Open now) (hse : Separated S s (.sendRequest size now)) :
    ∃ act' route', Metered S spent (s.step P S.node S.streamKey S.request (.sendRequest size now))
      act' route' lastOpt := by
  obtain ⟨pending, lastOpt', hf, he⟩ := h.flow
  by_cases hs : size = 0
  · subst hs
    refine ⟨act, route, h.consuming, ⟨pending, lastOpt', hf, fun hret => ?_⟩, ?_, h.retired, h.agrees⟩
    · obtain ⟨hre, hp, hl, his⟩ := he hret
      refine ⟨hre, ?_, hl, his⟩
      have hc : (s.requests ++ [0]).foldl countRequest (exitState S s).pending = pending := by
        rw [List.foldl_concat, countRequest_zero, hp]
      exact hc.symm
    · exact fun hr => List.forall_mem_append.2 ⟨h.quiet hr, List.forall_mem_singleton.2 rfl⟩
  · -- nothing is in flight towards the consumer, so its count is the exit node's after the requests in flight
    obtain ⟨hr, hu⟩ := hse hs
    have hfi : route.pendingRequestServiceUnits + 1 < 2 ^ 64 :=
      hu act h.consuming.onRoute.session route (h.consuming.streamKey ▸ h.consuming.onRoute.byStream)
    obtain ⟨act', route', hco, hcn⟩ := h.consuming.recordRequest (P := P) hsto ho.2 hs hfi
    rw [hr] at hf
    cases hf
    have hst : (s.step P S.node S.streamKey S.request (.sendRequest size now)).responses = [] := hr
    refine ⟨act', route', ?_, ⟨route'.pending, lastOpt, ?_, fun hret => ?_⟩, ?_, h.retired, h.agrees⟩
    · simp only [ExitStream.step, if_neg hs]
      exact hco
    · rw [hst]
      exact .nil
    · obtain ⟨hre, hp, hl, his⟩ := he hret
      refine ⟨hre, ?_, hl, his⟩
      rw [hcn, hp]
      exact (List.foldl_concat ..).symm
    · intro hne
      exact absurd hst hne

/-- The exit node accepts the request and counts it, or leaves it out if the count overflows. -/
theorem clientRequest_spec
    (ho : S.policy.Open now) (hr : (so.getD (.opened S.request)).request = S.request) :
    let before := so.getD (.opened S.request)
    let after := (S.node.clientRequest P so S.request size now).getD (.opened S.request)
    after.request = S.request ∧ after.pending = countRequest before.pending size ∧
      after.lastSignedReceiptOpt = before.lastSignedReceiptOpt := by
  obtain ⟨c, hv⟩ := S.valid
  have hve : S.request.verify P S.node.chainId S.node.settlementContract now = .ok () := by
    simp only [ReceiptSessionRequest.verify, bind_eq_ok, failIf_eq_ok, not_not]
    refine ⟨(), S.epoch, (), ?_, ?_⟩
    · rw [← S.key, S.commitment]
    · rw [S.chainId, S.settlementContract]
      exact verify_within hv ho (Nat.zero_le _)
  simp only [ExitNode.clientRequest, hve, hr, ne_eq, not_true_eq_false, if_false]
  cases ha : addRequest (so.getD (.opened S.request)).pending size with
  | none => exact ⟨hr, by simp only [countRequest, ha, Option.getD_none], rfl⟩
  | some total => exact ⟨rfl, by simp only [countRequest, ha, Option.getD_some]; rfl, rfl⟩

theorem Metered.requestArrives (h : Metered S spent s act route lastOpt)
    (ho : S.policy.Open now) (hs : Separated S s (.requestArrives now)) :
    Metered S spent (s.step P S.node S.streamKey S.request (.requestArrives now)) act route lastOpt := by
  cases hr : s.requests with
  | nil =>
    simp only [ExitStream.step, hr]
    exact h
  | cons size rest =>
    have hret : s.retired = false := hs (by simp [hr])
    obtain ⟨pending, lastOpt', hf, he⟩ := h.flow
    obtain ⟨hre, hp, hl, his⟩ := he hret
    obtain ⟨hre', hp', hl'⟩ := clientRequest_spec ho hre
    simp only [ExitStream.step, hr]
    refine ⟨h.consuming, ⟨pending, lastOpt', hf, fun _ => ⟨hre', ?_, hl.trans hl'.symm, ?_⟩⟩, ?_, ?_, h.agrees⟩
    · rw [hp, hr, List.foldl_cons]
      exact congrArg (List.foldl countRequest · rest) hp'.symm
    · intro last hm
      exact his last (hl' ▸ hm)
    · intro hres size hm
      exact h.quiet hres size (by rw [hr]; exact List.mem_cons_of_mem _ hm)
    · intro ht
      rw [hret] at ht
      cases ht

omit [ReceiptSessionRecoveryStore σ] in
theorem ExitAt.emit {state : ProviderReceiptState} {lastOpt' : Option SignedServiceReceipt}
    (hs : s.exit = some state) (he : ExitAt S spent s p lastOpt') (hem : ∀ size ∈ s.requests, size = 0)
    (hc : WithinSession S spent s (.emitResponse size l)) :
    ∃ state' offerOpt, S.node.inboundServerData P state s.nextSequence size l =
        (offerOpt, if l then none else some state') ∧
      Flow S spent p lastOpt' [⟨s.nextSequence, size, offerOpt⟩] state'.pending
        state'.lastSignedReceiptOpt ∧ state'.request = S.request ∧
      ∀ last ∈ state'.lastSignedReceiptOpt, S.Issued spent last ∧ last.receipt.sequence < s.nextSequence + 1 := by
  obtain ⟨hr, hp, hl, his⟩ := he
  have hse : exitState S s = state := by rw [exitState, hs, Option.getD_some]
  rw [foldl_countRequest_of_empty hem] at hp
  rw [hse] at hr hp hl his
  subst hp hl
  cases ht : addResponse state.pending size with
  | none =>
    obtain ⟨e, hm⟩ := makeServiceReceiptOffer_overflow (P := P) S.node s.nextSequence ht
    refine ⟨state, none, by simp only [ExitNode.inboundServerData, hm], .overflowed rfl ht .nil, hr, ?_⟩
    intro last hme
    obtain ⟨hl, hle⟩ := his last hme
    exact ⟨hl, Nat.lt_succ_of_lt hle⟩
  | some aggregate =>
    have hcu : nextCumulative S s size = some (standing state.lastSignedReceiptOpt + S.price aggregate) := by
      simp only [nextCumulative, hs, Option.bind_some, ht, Option.map_some]
    have hli := hc _ hcu
    rw [← add_assoc] at hli
    obtain ⟨offer, hm, ho, hre, hf⟩ := makeServiceReceiptOffer_ok hr his ht hli
    refine ⟨state.commit offer, some offer, by simp only [ExitNode.inboundServerData, hm], ?_, hr, ?_⟩
    · refine .offered offer rfl ho ?_ ?_ hf .nil
      · rw [hre]
        rfl
      · rw [ht, hre]
        rfl
    · rintro _ ⟨⟩
      refine ⟨ho, ?_⟩
      rw [hre]
      exact Nat.lt_succ_self _

theorem Metered.emitResponse (h : Metered S spent s act route lastOpt) (hc : WithinSession S spent s
    (.emitResponse size l))
    (he : Separated S s (.emitResponse size l)) :
    Metered S spent (s.step P S.node S.streamKey S.request (.emitResponse size l)) act route lastOpt := by
  cases hs : s.exit with
  | none =>
    simp only [ExitStream.step, hs]
    exact h
  | some state =>
    have hr : s.retired = false := by
      by_contra ht
      rw [h.retired (by simpa using ht)] at hs
      cases hs
    obtain ⟨pending, lastOpt', hf, hexi⟩ := h.flow
    obtain ⟨state', offerOpt, hem, hn, hre, his⟩ := (hexi hr).emit (P := P) hs he hc
    simp only [ExitStream.step, hs, hem]
    refine ⟨h.consuming, ⟨_, _, hf.concat hn, fun ho => ?_⟩, fun _ => he, fun hcl => ?_, h.agrees⟩
    · obtain rfl : l = false := by simpa [hr] using ho
      exact ⟨hre, (foldl_countRequest_of_empty he).symm, rfl, his⟩
    · obtain rfl : l = true := by simpa [hr] using hcl
      rfl

omit [ReceiptSessionRecoveryStore σ] in
theorem Consuming.frontObservation (h : Consuming S spent m act route o lastOpt) :
    m.frontObservation S.streamKey = o.head? := by
  simp only [ReceiptSessionManager.frontObservation, h.onRoute.session, Option.bind_some, ← h.streamKey,
    h.onRoute.byStream, h.observed]

theorem Metered.responseArrives (h : Metered S spent s act route lastOpt) (hs : StoreSaves σ)
    (ho : S.policy.Open now) :
    ∃ act' route' lastOpt', Metered S spent (s.step P S.node S.streamKey S.request (.responseArrives now))
      act' route' lastOpt' := by
  cases hr : s.responses with
  | nil =>
    simp only [ExitStream.step, hr]
    exact ⟨act, route, lastOpt, h⟩
  | cons response rest =>
    have hem : ∀ size ∈ s.requests, size = 0 := h.quiet (by simp [hr])
    obtain ⟨pending, lastOpt', hf, he⟩ := h.flow
    rw [hr] at hf
    simp only [ExitStream.step, hr, ExitStream.receive]
    cases hf with
    | overflowed hof ht hre =>
      obtain ⟨act', hc⟩ := h.consuming.recordOverflow (P := P) ho.2 response.sequence ht
      simp only [hof]
      exact ⟨act', route, lastOpt, hc, ⟨pending, lastOpt', hre, fun hret => { he hret with }⟩,
        fun _ => hem, h.retired, h.agrees⟩
    | offered offer hof his hse ht hfo hre =>
      obtain ⟨act₁, route₁, hob, hp₁⟩ := h.consuming.recordResponse (P := P) hs ho.2 hfo.1 ht
      obtain ⟨payload, act₂, route₂, hresu, hc, hp₂⟩ := hob.acknowledge hs ho his hfo
      simp only [hof, ← hse]
      refine ⟨act₂, route₂, some offer, hc, ⟨pending, lastOpt', ?_, fun hret =>
        { he hret with }⟩, fun _ => hem, h.retired, ?_⟩
      · rw [hp₂, hp₁]
        exact hre
      · exact List.forall_mem_append.2 ⟨h.agrees, List.forall_mem_singleton.2 ⟨hob.frontObservation, payload, hresu⟩⟩

/-- One step of the stream keeps the counts in agreement. -/
theorem Metered.step (h : Metered S spent s act route lastOpt) (hst : StoreSaves σ) (e : ExitEvent)
    (hw : WithinSession S spent s e) (hs : Separated S s e) :
    ∃ act' route' lastOpt', Metered S spent (s.step P S.node S.streamKey S.request e) act' route' lastOpt' := by
  cases e with
  | sendRequest size now =>
    obtain ⟨act', route', h'⟩ := h.sendRequest hst hw hs
    exact ⟨act', route', lastOpt, h'⟩
  | requestArrives now => exact ⟨act, route, lastOpt, h.requestArrives hw hs⟩
  | emitResponse size lastData => exact ⟨act, route, lastOpt, h.emitResponse hw hs⟩
  | responseArrives now => exact h.responseArrives hst hw

end Steps

/-- The consumer has opened the route and bound the exit node's quote, and nothing was metered yet. -/
def Ready {σ : Type} {P : Primitives} (S : ExitSetting P) (spentBefore : Nat) (m : ReceiptSessionManager σ) : Prop :=
  ∃ active route, Consuming S spentBefore m active route [] none ∧ route.pending = (0, 0)

section Agreement

variable [ReceiptSessionRecoveryStore σ]

/-- **Exit metering.** For a consumer with the route open and the quote bound, in every interleaving within
the session's window and limit in which no non-empty request crosses a response, no request reaches the
stream after it was retired, and the counted units fit: every offer that reaches the consumer is its front
observation and is acknowledged. -/
theorem exit_metering_agrees (S : ExitSetting P) (hstore : StoreSaves σ) {spentBefore : Nat}
    {m : ReceiptSessionManager σ} (hready : Ready S spentBefore m) (events : List ExitEvent)
    (hwithin : Run.Along (ExitStream.step P S.node S.streamKey S.request) (WithinSession S spentBefore) (.start m) events)
    (hseparated : Run.Along (ExitStream.step P S.node S.streamKey S.request) (Separated S) (.start m) events) :
    ∀ a ∈ (Run.run (ExitStream.step P S.node S.streamKey S.request) (.start m) events).answers,
      a.front = some (a.offer.receipt.sequence, a.offer.receipt.payloadSize, a.offer.receipt.serviceUnits) ∧
        ∃ payload, a.result = .ok payload := by
  obtain ⟨active, route, hc, hp⟩ := hready
  have hs : ∃ active route lastOpt, Metered S spentBefore (.start m) active route lastOpt := by
    refine ⟨active, route, none, hc, ⟨_, _, .nil, fun _ => ⟨rfl, hp, rfl, ?_⟩⟩, ?_, ?_, ?_⟩
    · rintro _ ⟨⟩
    · exact fun hne => absurd rfl hne
    · exact fun ht => absurd ht Bool.false_ne_true
    · rintro a ⟨⟩
  have hr := Run.along_invariant (fun s => ∃ active route lastOpt, Metered S spentBefore s active route lastOpt)
    (fun s event h hok => by
      obtain ⟨active, route, lastOpt, h⟩ := h
      exact h.step hstore event hok.1 hok.2) hs (Run.along_and.2 ⟨hwithin, hseparated⟩)
  obtain ⟨_, _, _, hm⟩ := hr
  exact hm.agrees

end Agreement

/-! ## One request that crosses a response -/

/-- Signatures as long as the key they are made with. -/
def samplePrimitives : Primitives := { Primitives.accepting with sign := fun cryptde _ => .ok cryptde.publicKey }

theorem samplePrimitives_signs : samplePrimitives.Signs :=
  fun cryptde _ => ⟨cryptde.publicKey, rfl, le_rfl, fun _ => rfl⟩

def sampleConfig : ReceiptSessionConfig := ⟨⟨"chain", 0⟩, 1, 1, 1⟩

/-- A session of limit 1000 with route 5 open for stream 3 and the exit `[9]` bound at 2 per unit and 3 per byte. -/
def sampleConsumer : ReceiptSessionManager ForgetfulStore :=
  let proposed := ((ReceiptSessionManager.new sampleConfig).propose samplePrimitives "1000" 60 1000 ⟨[8], []⟩ 7).2
  let activated := (proposed.activate samplePrimitives
    "0x0000000000000000000000000000000000000000000000000000000000000007" "" 1000).2
  let opened := (activated.requestForStream samplePrimitives 3 5 1001).2
  (opened.bindExitQuote samplePrimitives 3 [9] 2 3 1001).2

def sampleRequest : ReceiptSessionRequest where
  authorization := ⟨⟨1, 1, 1, 1, [8], 1000, 1000, 1060, 7⟩,
    ⟨0, 0x0101010101010101010101010101010101010101010101010101010101010101,
      0x0101010101010101010101010101010101010101010101010101010101010101⟩⟩
  routeEpoch := 5
  accountingCommitment := 1

def sampleSetting : ExitSetting samplePrimitives where
  node := ⟨⟨[9], []⟩, 1, 1, 2, 3⟩
  streamKey := 3
  request := sampleRequest
  config := sampleConfig
  payer := ⟨[8], []⟩
  signs := samplePrimitives_signs
  key := rfl
  valid := ⟨1000, by decide +kernel⟩
  chainId := rfl
  settlementContract := rfl
  epoch := by decide
  commitment := rfl
  commitment_ne := by decide
  provider_ne := by decide

def sampleRoute : ReceiptRouteState := { ReceiptSessionManager.routeState 3 sampleRequest with
    expectedProviderPublicKeyOpt := some [9], exitServiceRateOpt := some 2, exitByteRateOpt := some 3 }

theorem sampleConsumer_ready : Ready sampleSetting 0 sampleConsumer := by
  have ha : sampleConsumer.activeOpt = some ⟨sampleRequest.authorization, ⟨[8], []⟩, [sampleRoute], 0⟩ := by
    decide +kernel
  exact ⟨_, sampleRoute, ⟨⟨ha, rfl, rfl, fun _ => rfl⟩, rfl, rfl, rfl, rfl, rfl, rfl, rfl, rfl, rfl, rfl, rfl, rfl⟩, rfl⟩

def sampleStream (events : List ExitEvent) : ExitStream ForgetfulStore :=
  Run.run (ExitStream.step samplePrimitives sampleSetting.node 3 sampleRequest) (.start sampleConsumer) events

/-- The second request is on its way when the exit node answers the first. -/
def crossingEvents : List ExitEvent := [.sendRequest 4 1002, .requestArrives 1002, .sendRequest 6 1002,
  .emitResponse 10 false, .responseArrives 1003, .requestArrives 1003, .emitResponse 1 false, .responseArrives 1004]

/-- The same packets, the second request sent after the response has arrived. -/
def separatedEvents : List ExitEvent := [.sendRequest 4 1002, .requestArrives 1002, .emitResponse 10 false,
  .responseArrives 1003, .sendRequest 6 1003, .requestArrives 1003, .emitResponse 1 false, .responseArrives 1004]

def Answer.summary (a : Answer) : Option (Nat × Nat × Nat) × (Nat × Nat × Nat) × Bool :=
  (a.front, (a.offer.receipt.sequence, a.offer.receipt.payloadSize, a.offer.receipt.serviceUnits), a.result.isOk)

/-- **A crossing.** The consumer has counted the second request into the first response, the exit node has
not: that offer is refused, and so is the next one, because the observation stays at the front. -/
theorem exit_metering_crossing : Ready sampleSetting 0 sampleConsumer ∧
    Run.Along (ExitStream.step samplePrimitives sampleSetting.node 3 sampleRequest) (WithinSession sampleSetting 0)
      (.start sampleConsumer) crossingEvents ∧
    (sampleStream crossingEvents).answers.map Answer.summary =
      [(some (0, 20, 3), (0, 14, 2), false), (some (0, 20, 3), (1, 7, 2), false)] :=
  ⟨sampleConsumer_ready, by decide +kernel, by decide +kernel⟩

theorem exit_metering_agrees_sample : (sampleStream separatedEvents).answers.map Answer.summary =
      [(some (0, 14, 2), (0, 14, 2), true), (some (1, 7, 2), (1, 7, 2), true)] ∧
    ∀ a ∈ (sampleStream separatedEvents).answers,
      a.front = some (a.offer.receipt.sequence, a.offer.receipt.payloadSize, a.offer.receipt.serviceUnits) ∧
        ∃ payload, a.result = .ok payload :=
  ⟨by decide +kernel, exit_metering_agrees sampleSetting (fun _ _ _ => rfl) sampleConsumer_ready separatedEvents
    (by decide +kernel) (by decide +kernel)⟩

end MasqMobile
