import MasqMobile.Lib.Maxima
import MasqMobile.Lib.Run
import MasqMobile.Session.Recovery
import MasqMobile.Session.PersistenceErrors

/-!
# The spending cap of a receipt session

A history is a run of manager calls together with every payload that `acknowledge_offer` handed out.
For one authorization, the highest cumulative charge per route epoch, provider and kind of service is
what the providers can claim; their sum (`acknowledgedTotal`) is what the session has spent
(`spending_cap`), over any interleaving of calls, offers and answers of the recovery store.

The manager draws authorization nonces and route epochs from the operating system's random source.
A repeated nonce would make two sessions out of one authorization, and an epoch that a rotated route
used before would restart its charge at zero: the history records the draws, and the theorem asks
that they do not repeat.
-/

namespace MasqMobile

open Fallible ReceiptSessionManager ReceiptRouteState Maxima

variable {σ : Type}

/-! ## Calls and histories -/

inductive Call where
  | propose (maxTotalChargeWei : String) (durationSeconds nowUnixS : Nat) (payerCryptde : CryptDE)
      (authorizationNonce : Bytes32)
  | activate (proposalId walletSignature : String) (nowUnixS : Nat)
  | status (nowUnixS : Nat)
  | requestForStream (streamKey : StreamKey) (routeEpoch : Bytes32) (nowUnixS : Nat)
  | rotateRouteForStream (streamKey : StreamKey) (routeEpoch : Bytes32) (nowUnixS : Nat)
  | bindExitQuote (streamKey : StreamKey) (providerPublicKey : PublicKey)
      (exitServiceRate exitByteRate nowUnixS : Nat)
  | bindRoutingQuotes (streamKey : StreamKey) (requestQuotes responseQuotes : List RoutingReceiptQuote)
      (nowUnixS : Nat)
  | recordExitRequest (streamKey : StreamKey) (payloadSize nowUnixS : Nat)
  | recordExitResponse (streamKey : StreamKey) (sequence payloadSize nowUnixS : Nat)
  | recordRoutingRequest (streamKey : StreamKey) (payloadSize nowUnixS : Nat)
  | recordRoutingResponse (streamKey : StreamKey) (payloadSize nowUnixS : Nat)
  | acknowledgeOffer (signedReceipt : SignedServiceReceipt) (nowUnixS : Nat)
  | stop

namespace Call

variable [ReceiptSessionRecoveryStore σ]

/-- The payload that the call hands out, if any, and the manager after it. -/
def apply (P : Primitives) (m : ReceiptSessionManager σ) : Call → Option ServiceReceiptPayload × ReceiptSessionManager σ
  | .propose limit duration now cryptde nonce => (none, (m.propose P limit duration now cryptde nonce).2)
  | .activate proposalId signature now => (none, (m.activate P proposalId signature now).2)
  | .status now => (none, (m.status P now).2)
  | .requestForStream key epoch now => (none, (m.requestForStream P key epoch now).2)
  | .rotateRouteForStream key epoch now => (none, (m.rotateRouteForStream P key epoch now).2)
  | .bindExitQuote key provider serviceRate byteRate now =>
    (none, (m.bindExitQuote P key provider serviceRate byteRate now).2)
  | .bindRoutingQuotes key requestQuotes responseQuotes now =>
    (none, (m.bindRoutingQuotes P key requestQuotes responseQuotes now).2)
  | .recordExitRequest key size now => (none, (m.recordExitRequest P key size now).2)
  | .recordExitResponse key sequence size now => (none, (m.recordExitResponse P key sequence size now).2)
  | .recordRoutingRequest key size now => (none, (m.recordRoutingRequest P key size now).2)
  | .recordRoutingResponse key size now => (none, (m.recordRoutingResponse P key size now).2)
  | .acknowledgeOffer signed now =>
    let answer := m.acknowledgeOffer P signed now
    (returnedBy some answer.1, answer.2)
  | .stop => (none, m.stop.2)

/-- What the caller learns of the call's success; `status` and `stop` cannot fail. -/
def answer (P : Primitives) (m : ReceiptSessionManager σ) : Call → Except ReceiptSessionManagerError Unit
  | .propose limit duration now cryptde nonce => verdict (m.propose P limit duration now cryptde nonce).1
  | .activate proposalId signature now => verdict (m.activate P proposalId signature now).1
  | .status _ => .ok ()
  | .requestForStream key epoch now => verdict (m.requestForStream P key epoch now).1
  | .rotateRouteForStream key epoch now => verdict (m.rotateRouteForStream P key epoch now).1
  | .bindExitQuote key provider serviceRate byteRate now =>
    (m.bindExitQuote P key provider serviceRate byteRate now).1
  | .bindRoutingQuotes key requestQuotes responseQuotes now =>
    (m.bindRoutingQuotes P key requestQuotes responseQuotes now).1
  | .recordExitRequest key size now => (m.recordExitRequest P key size now).1
  | .recordExitResponse key sequence size now => (m.recordExitResponse P key sequence size now).1
  | .recordRoutingRequest key size now => (m.recordRoutingRequest P key size now).1
  | .recordRoutingResponse key size now => (m.recordRoutingResponse P key size now).1
  | .acknowledgeOffer signed now => verdict (m.acknowledgeOffer P signed now).1
  | .stop => .ok ()

/-- The time at which the call looks whether the session has expired (`self.status(now_unix_s)`). -/
def observesAt : Call → Option Nat
  | .status now | .requestForStream _ _ now | .rotateRouteForStream _ _ now | .bindExitQuote _ _ _ _ now
  | .bindRoutingQuotes _ _ _ now | .recordExitRequest _ _ now | .recordExitResponse _ _ _ now
  | .recordRoutingRequest _ _ now | .recordRoutingResponse _ _ now | .acknowledgeOffer _ now => some now
  | .propose .. | .activate .. | .stop => none

/-- The call is about receipts on the active session. -/
def isOperation : Call → Bool
  | .propose .. | .activate .. | .status .. | .stop => false
  | _ => true

def keyPairs : Call → List CryptDE
  | .propose _ _ _ cryptde _ => [cryptde]
  | _ => []

def nonces : Call → List Bytes32
  | .propose _ _ _ _ nonce => [nonce]
  | _ => []

def epochs : Call → List Bytes32
  | .requestForStream _ epoch _ => [epoch]
  | .rotateRouteForStream _ epoch _ => [epoch]
  | _ => []

end Call

/-- The manager, the payloads handed out so far in order, and the randomness drawn so far. -/
structure History (σ : Type) where
  manager : ReceiptSessionManager σ
  acknowledged : List ServiceReceiptPayload
  nonces : List Bytes32
  epochs : List Bytes32

namespace History

variable [ReceiptSessionRecoveryStore σ]

def start (m : ReceiptSessionManager σ) : History σ := ⟨m, [], [], []⟩

def step (P : Primitives) (h : History σ) (call : Call) : History σ where
  manager := (call.apply P h.manager).2
  acknowledged := h.acknowledged ++ (call.apply P h.manager).1.toList
  nonces := h.nonces ++ call.nonces
  epochs := h.epochs ++ call.epochs

end History

/-- A manager as its two constructors return it. -/
def Constructed {σ : Type} [ReceiptSessionRecoveryStore σ] (P : Primitives) (m : ReceiptSessionManager σ) : Prop :=
  (∃ config, m = ReceiptSessionManager.new config) ∨
    ∃ config storeOpt now, newRecoveryRequired P config storeOpt now = .ok m

/-! ## What the payloads are worth -/

def spendKey (p : ServiceReceiptPayload) : Bytes32 × PublicKey × ServiceKind :=
  (p.receipt.routeEpoch, p.receipt.providerPublicKey, p.receipt.serviceKind)

def spendValue (p : ServiceReceiptPayload) : Nat := p.receipt.cumulativeChargeWei

def paidUnder (a : AuthorizedReceiptSession) (log : List ServiceReceiptPayload) : List ServiceReceiptPayload :=
  log.filter (·.authorization = a)

/-- The sum, over the distinct streams, of the highest cumulative charge handed out under `a`. -/
def acknowledgedTotal (a : AuthorizedReceiptSession) (log : List ServiceReceiptPayload) : Nat :=
  total spendKey spendValue (paidUnder a log)

/-! ## What one call can do to the manager -/

/-- One call of the manager, as far as pending proposals, the active session and handed-out payloads go. -/
inductive ManagerStep {σ : Type} (nonces epochs : List Bytes32) (m : ReceiptSessionManager σ) :
    Option ServiceReceiptPayload → ReceiptSessionManager σ → Prop
  | idle {m' : ReceiptSessionManager σ} (hactive : m'.activeOpt = m.activeOpt)
      (hpending : m'.pendingOpt = m.pendingOpt ∨ m'.pendingOpt = none) : ManagerStep nonces epochs m none m'
  | ended {m' : ReceiptSessionManager σ} (hactive : m'.activeOpt = none)
      (hpending : m'.pendingOpt = m.pendingOpt ∨ m'.pendingOpt = none) : ManagerStep nonces epochs m none m'
  | proposed {m' : ReceiptSessionManager σ} {pending : PendingReceiptSession} (hactive : m'.activeOpt = m.activeOpt)
      (hpending : m'.pendingOpt = some pending) (hnonce : pending.policy.authorizationNonce ∈ nonces) :
      ManagerStep nonces epochs m none m'
  | activated {m' : ReceiptSessionManager σ} {pending : PendingReceiptSession} {a : AuthorizedReceiptSession}
      {cryptde : CryptDE} (hpending : m.pendingOpt = some pending) (hpolicy : a.policy = pending.policy)
      (htaken : m'.pendingOpt = none) (hactive : m'.activeOpt = some ⟨a, cryptde, [], 0⟩) :
      ManagerStep nonces epochs m none m'
  | session {m' : ReceiptSessionManager σ} {s s' : ActiveReceiptSession} {returned : Option ServiceReceiptPayload}
      (hpending : m'.pendingOpt = m.pendingOpt) (hactive : m.activeOpt = some s) (hactive' : m'.activeOpt = some s')
      (hstep : SessionStep epochs s returned s') : ManagerStep nonces epochs m returned m'

section Calls

variable [ReceiptSessionRecoveryStore σ] {P : Primitives} {nonces epochs : List Bytes32} {m : ReceiptSessionManager σ}

theorem ManagerStep.of_onActive {α : Type} {l : α → Option ServiceReceiptPayload}
    {o : ActiveReceiptSession → Outcome α} (h : ∀ s, OutcomeSteps epochs l s (o s))
    {ab : Except ReceiptSessionManagerError α} (ha : returnedBy l ab = none) (now : Nat) :
    ManagerStep nonces epochs m (returnedBy l (m.onActive P now ab o).1) (m.onActive P now ab o).2 := by
  obtain ⟨hp, ⟨he, hn⟩ | ⟨s, s', hs, hs', hst⟩⟩ := onActive_cases (P := P) h ha m now
  · rw [hn]
    exact .ended he (.inl hp)
  · exact .session hp hs hs' hst

theorem returnedBy_none {α : Type} (an : Except ReceiptSessionManagerError α) :
    returnedBy (fun _ => none) an = none := by
  cases an <;> rfl

/-- A call that runs an operation on the active session, with what is known of the operation. -/
inductive Call.Operates (P : Primitives) (m : ReceiptSessionManager σ) (call : Call) : Prop
  | mk {α : Type} {logged : α → Option ServiceReceiptPayload} {o : ActiveReceiptSession → Outcome α}
      (absent : Except ReceiptSessionManagerError α) {now : Nat} (hnow : call.observesAt = some now)
      (happly : call.apply P m = (returnedBy logged (m.onActive P now absent o).1, (m.onActive P now absent o).2))
      (hanswer : call.answer P m = verdict (m.onActive P now absent o).1)
      (habsent : returnedBy logged absent = none ∧ ∀ message, absent ≠ .error (.persistence message))
      (hsteps : ∀ s, OutcomeSteps call.epochs logged s (o s)) (hleaves : ∀ s, OutcomeLeaves s (o s))

theorem Call.Operates.of_onRoute {call : Call} {u : ReceiptRouteState → RouteUpdate} {now : Nat}
    (hu : ∀ r, r.Quoted → RouteUpdateKeepsCharges r (u r)) (hl : ∀ r, RouteUpdateLeaves r (u r))
    (hno : call.observesAt = some now) (he : call.epochs = [])
    (hap : call.apply P m = (none, (m.onRoute P sk now u).2)) (han : call.answer P m = (m.onRoute P sk now u).1) :
    call.Operates P m := by
  refine .mk (.error .noActiveSession) hno ?_ ?_ ⟨rfl, by simp⟩ (he ▸ updateRoute_steps hu sk)
    (updateRoute_leaves hl sk)
  · rw [hap, returnedBy_none]
    rfl
  · rw [han, verdict_unit]
    rfl

theorem Call.operates (call : Call) (hc : call.isOperation) (m : ReceiptSessionManager σ) : call.Operates P m := by
  cases call with
  | propose | activate | status | stop => cases hc
  | requestForStream key epoch now =>
    exact .mk (.ok none) rfl (by rw [returnedBy_none]; rfl) rfl ⟨rfl, by simp⟩
      (fun s => openRoute_steps s key epoch) fun s => openRoute_leaves s key epoch
  | rotateRouteForStream key epoch now =>
    exact .mk (.ok none) rfl (by rw [returnedBy_none]; rfl) rfl ⟨rfl, by simp⟩
      (fun s => rotateRoute_steps s key epoch) fun s => rotateRoute_leaves s key epoch
  | bindExitQuote key provider serviceRate byteRate now =>
    exact .of_onRoute (fun r hr => bindExit_keeps hr provider serviceRate byteRate)
      (bindExit_leaves · provider serviceRate byteRate) rfl rfl rfl rfl
  | bindRoutingQuotes key requestQuotes responseQuotes now =>
    exact .of_onRoute (fun r _ => bindRouting_keeps r requestQuotes responseQuotes)
      (bindRouting_leaves · requestQuotes responseQuotes) rfl rfl rfl rfl
  | recordExitRequest key size now =>
    exact .of_onRoute (fun r _ => observeRequest_keeps r size) (observeRequest_leaves · size) rfl rfl rfl rfl
  | recordExitResponse key sequence size now =>
    exact .of_onRoute (fun r _ => observeResponse_keeps r sequence size) (observeResponse_leaves · sequence size)
      rfl rfl rfl rfl
  | recordRoutingRequest key size now =>
    exact .of_onRoute (fun r _ => recordRoutingPayload_keeps r r.routingRequestProviders size)
      (fun r => recordRoutingPayload_leaves r r.routingRequestProviders size) rfl rfl rfl rfl
  | recordRoutingResponse key size now =>
    exact .of_onRoute (fun r _ => recordRoutingPayload_keeps r r.routingResponseProviders size)
      (fun r => recordRoutingPayload_leaves r r.routingResponseProviders size) rfl rfl rfl rfl
  | acknowledgeOffer signed now =>
    have ha := fun s => acknowledgeOffer_answers P m.config s signed now
    exact .mk (.error .noActiveSession) rfl rfl rfl ⟨rfl, by simp⟩ (fun s => (ha s).steps) fun s => (ha s).leaves

omit [ReceiptSessionRecoveryStore σ] in
theorem propose_step (l : String) (d now : Nat) (c : CryptDE) (non : Bytes32) :
    ManagerStep [non] epochs m none (m.propose P l d now c non).2 := by
  simp only [propose]
  split
  · exact .idle rfl (.inl rfl)
  · rename_i policy hp
    refine .proposed rfl rfl ?_
    simp only [bind_eq_ok, pure_eq_ok] at hp
    obtain ⟨_, -, _, -, _, -, _, -, _, -, _, -, rfl⟩ := hp
    simp

theorem status_step (now : Nat) : ManagerStep nonces epochs m none (m.status P now).2 := by
  obtain ⟨hp, hn | hs⟩ := expire_cases m now
  · exact .ended hn (.inl hp)
  · exact .idle hs (.inl hp)

theorem activate_step (p si : String) (now : Nat) : ManagerStep nonces epochs m none (m.activate P p si now).2 := by
  have hc := activate_cases (P := P) m p si now
  generalize m.activate P p si now = answer at hc ⊢
  cases hc with
  | refused _ hp => exact .idle rfl hp
  | storeless | uncleared => exact .idle rfl (.inl rfl)
  | unsaved _ _ hs =>
    obtain ⟨hn, ⟨hok, -⟩ | ⟨-, hr⟩⟩ := persistHeader_cases rfl hs
    · cases hok
    · exact .ended hr (.inr hn)
  | @activated _ _ saved hp hpo _ _ hs =>
    obtain ⟨hn, ⟨-, ha⟩ | ⟨⟨e, he⟩, -⟩⟩ := persistHeader_cases rfl hs
    · obtain ⟨hsa, hexp | hk⟩ := expire_cases saved now
      · exact .ended hexp (.inr (hsa.trans hn))
      · exact .activated hp hpo (hsa.trans hn) (hk.trans ha)
    · cases he

/-- **One call.** Whatever the call, the manager makes one of the steps above. -/
theorem call_step (call : Call) (m : ReceiptSessionManager σ) :
    ManagerStep call.nonces call.epochs m (call.apply P m).1 (call.apply P m).2 := by
  by_cases hc : call.isOperation
  · obtain ⟨_, -, hap, -, hab, hst, -⟩ := Call.operates (P := P) call hc m
    rw [hap]
    exact .of_onActive hst hab.1 _
  · cases call with
    | propose limit duration now cryptde nonce => exact propose_step limit duration now cryptde nonce
    | activate proposalId signature now => exact activate_step proposalId signature now
    | status now => exact status_step (P := P) now
    | stop => exact .ended rfl (.inr rfl)
    | _ => exact absurd rfl hc

end Calls

/-! ## The account of one session -/

/-- Nothing is acknowledged on a route before its exit is quoted, and what is kept for replays was
handed out under the session's own authorization. -/
structure Tidy (s : ActiveReceiptSession) : Prop where
  quoted : ∀ r ∈ s.routes, r.Quoted
  own : ∀ r ∈ s.routes, ∀ p, r.Stored p → p.authorization = s.authorization

/-- The invariant of an active session: `log` holds the payloads handed out under its authorization
and `drawn` the epochs drawn so far. Each route's charges are the maxima of its streams, and the
total of the maxima is what the session has spent; without repeated epochs both are exact. -/
structure Charged (drawn : List Bytes32) (s : ActiveReceiptSession) (log : List ServiceReceiptPayload) : Prop where
  nodup : (epochs s).Nodup
  routes_drawn : ∀ r ∈ s.routes, r.request.routeEpoch ∈ drawn
  log_drawn : ∀ p ∈ log, p.receipt.routeEpoch ∈ drawn
  stored : ∀ r ∈ s.routes, ∀ p, r.Stored p → p ∈ log
  charged_le : ∀ r ∈ s.routes, ∀ provider kind,
    r.charged provider kind ≤ maxAt spendKey spendValue log (r.request.routeEpoch, provider, kind)
  charged_eq : drawn.Nodup → ∀ r ∈ s.routes, ∀ provider kind,
    maxAt spendKey spendValue log (r.request.routeEpoch, provider, kind) = r.charged provider kind
  total_le : total spendKey spendValue log ≤ s.spentChargeWei
  total_eq : drawn.Nodup → total spendKey spendValue log = s.spentChargeWei
  capped : s.spentChargeWei ≤ s.authorization.policy.maxTotalChargeWei

variable {re : Option ServiceReceiptPayload}

section Charged

variable {drawn new : List Bytes32} {s s' : ActiveReceiptSession} {log : List ServiceReceiptPayload}

theorem charged_fresh (drawn : List Bytes32) (a : AuthorizedReceiptSession) (c : CryptDE) :
    Charged drawn ⟨a, c, [], 0⟩ [] := by
  constructor <;> simp [epochs]

/-- Updates without acknowledgements keep the epochs, and each route has one it came from. -/
theorem updated_routes (h : List.Forall₂ (fun r r' => r.Quoted → SameCharges r r') ro ro') (hq : ∀ r ∈ ro, r.Quoted) :
    ro'.map (·.request.routeEpoch) = ro.map (·.request.routeEpoch) ∧ ∀ r' ∈ ro', ∃ r ∈ ro, SameCharges r r' := by
  induction h with
  | nil => simp
  | cons hr _ ih =>
    have hs := hr (hq _ (by simp))
    obtain ⟨hm, hme⟩ := ih fun r hr => hq r (by simp [hr])
    refine ⟨by simp [hm, hs.request], fun x hx => ?_⟩
    rcases List.mem_cons.1 hx with rfl | hx
    · exact ⟨_, by simp, hs⟩
    · obtain ⟨r, hr, hs⟩ := hme x hx
      exact ⟨r, by simp [hr], hs⟩

/-- A step that hands out nothing charges nothing, on the routes it keeps and on those it opens. -/
theorem SessionStep.quiet (hs : SessionStep new s none s') (hq : ∀ r ∈ s.routes, r.Quoted) :
    ∃ routes, s' = { s with routes } ∧ ((epochs s).Nodup → (routes.map (·.request.routeEpoch)).Nodup) ∧
      ∀ r' ∈ routes, (∃ r ∈ s.routes, SameCharges r r') ∨ ∃ sk re, re.routeEpoch ∈ new ∧ r' = routeState sk re := by
  cases hs with
  | update hro =>
    obtain ⟨hma, hm⟩ := updated_routes hro hq
    exact ⟨_, rfl, fun hnd => hma ▸ hnd, fun r' hr' => .inl (hm r' hr')⟩
  | opened sk re hd hm hnd =>
    exact ⟨_, rfl, hnd, fun r hr => (hm r hr).imp (fun ho => ⟨r, ho, .refl r⟩) fun heq => ⟨sk, re, hd, heq⟩⟩

theorem Tidy.step (h : Tidy s) (hst : SessionStep new s re s') : Tidy s' := by
  cases re with
  | none =>
    obtain ⟨routes, rfl, -, hm⟩ := hst.quiet h.quoted
    refine ⟨fun r' hr' => ?_, fun r' hr' p hp => ?_⟩ <;> obtain ⟨r, hr, hs⟩ | ⟨sk, re, -, rfl⟩ := hm r' hr'
    · exact hs.quoted (h.quoted r hr)
    · exact fun _ => rfl
    · exact h.own r hr p (hs.stored p hp)
    · simp [ReceiptRouteState.Stored, routeState] at hp
  | some p =>
    cases hst with
    | replayed => exact h
    | @charged before after r r' payload hro ha _ hrout _ _ =>
      have hr : r ∈ s.routes := by simp [hro]
      have hm : ∀ x ∈ before ++ r' :: after, x = r' ∨ x ∈ s.routes := by
        rw [hro]
        simp only [List.mem_append, List.mem_cons]
        tauto
      refine ⟨fun x hx => ?_, fun x hx p hp => ?_⟩
      · rcases hm x hx with rfl | ho
        · exact hrout.quoted (h.quoted r hr)
        · exact h.quoted x ho
      · rcases hm x hx with rfl | ho
        · rcases hrout.stored p hp with rfl | hp
          · exact ha
          · exact h.own r hr p hp
        · exact h.own x ho p hp

variable {p : ServiceReceiptPayload}

/-- Every payload handed out carries the session's authorization. -/
theorem Tidy.returned_authorization (h : Tidy s) (hs : SessionStep new s (some p) s') :
    p.authorization = s.authorization := by
  cases hs with
  | replayed hr hst => exact h.own _ hr p hst
  | charged _ ha => exact ha

/-- More draws: nothing depends on them but the exactness. -/
theorem Charged.draw (h : Charged drawn s log) (new : List Bytes32) : Charged (drawn ++ new) s log :=
  { h with
    routes_drawn := fun r hr => List.mem_append_left _ (h.routes_drawn r hr)
    log_drawn := fun p hp => List.mem_append_left _ (h.log_drawn p hp)
    charged_eq := fun hnd => h.charged_eq hnd.of_append_left
    total_eq := fun hnd => h.total_eq hnd.of_append_left }

theorem charged_routeState (re : ReceiptSessionRequest) (p : PublicKey)
    : (routeState sk re).charged p kind = 0 := by
  cases kind <;> simp [routeState, ReceiptRouteState.charged, checkpointCharge]

theorem Charged.quiet (h : Charged drawn s log) (ht : Tidy s) (hs : SessionStep new s none s') :
    Charged (drawn ++ new) s' log := by
  obtain ⟨routes, rfl, hnd, hm⟩ := hs.quiet ht.quoted
  have hd := h.draw new
  refine ⟨hnd h.nodup, fun r' hr' => ?_, hd.log_drawn, fun r' hr' p hp => ?_, fun r' hr' provider kind => ?_,
    fun hf r' hr' provider kind => ?_, hd.total_le, hd.total_eq, h.capped⟩
  all_goals obtain ⟨r, hr, hs⟩ | ⟨sk, re, hdr, rfl⟩ := hm r' hr'
  · exact hs.request ▸ hd.routes_drawn r hr
  · exact List.mem_append_right _ hdr
  · exact h.stored r hr p (hs.stored p hp)
  · simp [ReceiptRouteState.Stored, routeState] at hp
  · rw [hs.charged, hs.request]
    exact h.charged_le r hr provider kind
  · simp [charged_routeState]
  · rw [hs.charged, hs.request]
    exact hd.charged_eq hf r hr provider kind
  · -- the epoch was never drawn before, so no payload carries it
    rw [charged_routeState]
    refine maxAt_eq_zero fun p hp hk => ?_
    have he : p.receipt.routeEpoch = re.routeEpoch := congrArg Prod.fst hk
    exact (List.disjoint_of_nodup_append hf) (h.log_drawn p hp) (he ▸ hdr)

/-- A replayed payload was logged before. -/
theorem Charged.replayed (h : Charged drawn s log) (hp : p ∈ log) : Charged drawn s (log ++ [p]) where
  nodup := h.nodup
  routes_drawn := h.routes_drawn
  log_drawn := List.forall_mem_append.2 ⟨h.log_drawn, List.forall_mem_singleton.2 (h.log_drawn p hp)⟩
  stored r hr q hq := List.mem_append_left _ (h.stored r hr q hq)
  charged_le r hr provider kind := by
    rw [maxAt_concat_of_mem hp]
    exact h.charged_le r hr provider kind
  charged_eq hnd r hr provider kind := by
    rw [maxAt_concat_of_mem hp]
    exact h.charged_eq hnd r hr provider kind
  total_le := by
    rw [total_concat_of_mem hp]
    exact h.total_le
  total_eq hnd := by
    rw [total_concat_of_mem hp]
    exact h.total_eq hnd
  capped := h.capped

/-- Countersigning on one route: its stream's maximum and the session's spending grow together. -/
theorem Charged.charged (h : Charged drawn s log) (hrout : s.routes = b ++ r :: af)
    (he : p.receipt.routeEpoch = r.request.routeEpoch) (hro : ChargedRoute r p r')
    (hle : r.charged p.receipt.providerPublicKey p.receipt.serviceKind ≤ p.receipt.cumulativeChargeWei)
    (hc : s.spentChargeWei + chargeDelta r p ≤ s.authorization.policy.maxTotalChargeWei) :
    Charged drawn
      { s with routes := b ++ r' :: af, spentChargeWei := s.spentChargeWei + chargeDelta r p }
      (log ++ [p]) := by
  have hr : r ∈ s.routes := by simp [hrout]
  have hk : spendKey p = (r.request.routeEpoch, p.receipt.providerPublicKey, p.receipt.serviceKind) := by
    rw [spendKey, he]
  have hm : ∀ x ∈ b ++ r' :: af, x = r' ∨ (x ∈ s.routes ∧ x.request.routeEpoch ≠ r.request.routeEpoch) := by
    have hnd := h.nodup
    simp only [epochs, hrout, List.map_append, List.map_cons] at hnd
    grind
  have hot : ∀ x ∈ s.routes, x.request.routeEpoch ≠ r.request.routeEpoch → ∀ provider kind,
      maxAt spendKey spendValue (log ++ [p]) (x.request.routeEpoch, provider, kind) =
        maxAt spendKey spendValue log (x.request.routeEpoch, provider, kind) := by
    intro x _ hx provider kind
    refine maxAt_concat_of_ne fun heq => hx ?_
    rw [hk] at heq
    exact (congrArg Prod.fst heq).symm
  have hma := h.charged_le r hr p.receipt.providerPublicKey p.receipt.serviceKind
  refine ⟨?_, ?_, ?_, ?_, ?_, ?_, ?_, ?_, hc⟩
  · have hnd := h.nodup
    simp only [epochs, hrout, List.map_append, List.map_cons, hro.request] at hnd ⊢
    exact hnd
  · intro x hx
    rcases hm x hx with rfl | ⟨hx, -⟩
    · rw [hro.request]
      exact h.routes_drawn r hr
    · exact h.routes_drawn x hx
  · exact List.forall_mem_append.2 ⟨h.log_drawn, List.forall_mem_singleton.2 (he ▸ h.routes_drawn r hr)⟩
  · intro x hx q hq
    rcases hm x hx with rfl | ⟨hx, -⟩
    · rcases hro.stored q hq with rfl | hol
      · simp
      · exact List.mem_append_left _ (h.stored r hr q hol)
    · exact List.mem_append_left _ (h.stored x hx q hq)
  · intro x hx provider kind
    rcases hm x hx with rfl | ⟨hx, -⟩
    · rw [hro.request]
      by_cases ho : (provider, kind) = (p.receipt.providerPublicKey, p.receipt.serviceKind)
      · obtain ⟨rfl, rfl⟩ := Prod.mk.inj ho
        rw [hro.charged_self, ← hk, maxAt_concat_self]
        exact le_max_right _ _
      · rw [hro.charged_other provider kind ho]
        exact (h.charged_le r hr provider kind).trans maxAt_le_concat
    · exact (h.charged_le x hx provider kind).trans maxAt_le_concat
  · intro hf x hx provider kind
    rcases hm x hx with rfl | ⟨hx, hne⟩
    · rw [hro.request]
      by_cases ho : (provider, kind) = (p.receipt.providerPublicKey, p.receipt.serviceKind)
      · obtain ⟨rfl, rfl⟩ := Prod.mk.inj ho
        have hb := h.charged_eq hf r hr p.receipt.providerPublicKey p.receipt.serviceKind
        rw [hro.charged_self, ← hk, maxAt_concat_self, hk, hb]
        exact max_eq_right hle
      · have hk' : spendKey p ≠ (r.request.routeEpoch, provider, kind) := by
          rw [hk]
          exact fun heq => ho (congrArg Prod.snd heq).symm
        rw [hro.charged_other provider kind ho, maxAt_concat_of_ne hk']
        exact h.charged_eq hf r hr provider kind
    · rw [hot x hx hne]
      exact h.charged_eq hf x hx provider kind
  · have ht := h.total_le
    rw [total_concat, hk]
    simp only [chargeDelta, spendValue]
    omega
  · intro hf
    rw [total_concat, hk, h.total_eq hf, h.charged_eq hf r hr]
    rfl

/-- **The account moves with the session.** -/
theorem Charged.step (h : Charged drawn s log) (ht : Tidy s) (hs : SessionStep new s re s') : Charged
    (drawn ++ new) s' (log ++ re.toList) := by
  cases re with
  | none => simpa using h.quiet ht hs
  | some p =>
    cases hs with
    | replayed hr hst => exact (h.replayed (h.stored _ hr _ hst)).draw new
    | charged hro ha he hrout hle hc => exact (h.charged hro he hrout hle hc).draw new

end Charged

/-! ## The account of one authorization over a history -/

/-- The invariant of a history for one authorization `a`, while no nonce was drawn twice: `a` is used
only once its nonce was drawn, a pending proposal with that nonce means that `a` was not used yet, and
a session under `a` keeps its account. -/
structure Account {σ : Type} (a : AuthorizedReceiptSession) (h : History σ) : Prop where
  tidy : ∀ s, h.manager.activeOpt = some s → Tidy s
  pending_drawn : ∀ pending, h.manager.pendingOpt = some pending → pending.policy.authorizationNonce ∈ h.nonces
  paid_drawn : paidUnder a h.acknowledged ≠ [] → a.policy.authorizationNonce ∈ h.nonces
  active_drawn : ∀ s, h.manager.activeOpt = some s → s.authorization = a → a.policy.authorizationNonce ∈ h.nonces
  pending_unpaid : ∀ pending, h.manager.pendingOpt = some pending →
    pending.policy.authorizationNonce = a.policy.authorizationNonce → paidUnder a h.acknowledged = []
  pending_inactive : ∀ pending s, h.manager.pendingOpt = some pending → h.manager.activeOpt = some s →
    pending.policy.authorizationNonce = a.policy.authorizationNonce → s.authorization ≠ a
  charged : ∀ s, h.manager.activeOpt = some s → s.authorization = a → Charged h.epochs s (paidUnder a h.acknowledged)
  capped : acknowledgedTotal a h.acknowledged ≤ a.policy.maxTotalChargeWei

section Account

variable {a : AuthorizedReceiptSession} {h : History σ}

/-- The history after a step that hands out nothing, with the manager left open. -/
def History.quiet (h : History σ) (m : ReceiptSessionManager σ) (nonces epochs : List Bytes32) : History σ :=
  ⟨m, h.acknowledged, h.nonces ++ nonces, h.epochs ++ epochs⟩

variable {m : ReceiptSessionManager σ} {nonces newEpochs : List Bytes32}

theorem Account.idle (hac : Account a h) (hact : m.activeOpt = h.manager.activeOpt)
    (hpe : m.pendingOpt = h.manager.pendingOpt ∨ m.pendingOpt = none) :
    Account a (h.quiet m nonces newEpochs) := by
  have hp : ∀ pending, m.pendingOpt = some pending → h.manager.pendingOpt = some pending := by
    intro pending hso
    rcases hpe with hsa | hn
    · rw [← hsa, hso]
    · simp [hn] at hso
  constructor <;> simp only [History.quiet, hact]
  · exact hac.tidy
  · exact fun pending hso => List.mem_append_left _ (hac.pending_drawn pending (hp pending hso))
  · exact fun hpa => List.mem_append_left _ (hac.paid_drawn hpa)
  · exact fun s hs ha => List.mem_append_left _ (hac.active_drawn s hs ha)
  · exact fun pending hso => hac.pending_unpaid pending (hp pending hso)
  · exact fun pending s hso => hac.pending_inactive pending s (hp pending hso)
  · exact fun s hs ha => (hac.charged s hs ha).draw newEpochs
  · exact hac.capped

theorem Account.ended (hac : Account a h) (ha : m.activeOpt = none)
    (hp : m.pendingOpt = h.manager.pendingOpt ∨ m.pendingOpt = none) :
    Account a (h.quiet m nonces newEpochs) := by
  have hid : Account a (h.quiet { m with activeOpt := h.manager.activeOpt } nonces newEpochs) := hac.idle rfl hp
  exact { hid with
    tidy := by simp [History.quiet, ha]
    active_drawn := by simp [History.quiet, ha]
    pending_inactive := by simp [History.quiet, ha]
    charged := by simp [History.quiet, ha] }

variable {p : PendingReceiptSession}

/-- A fresh proposal: its nonce was not drawn before, so nothing was used under it. -/
theorem Account.proposed (hac : Account a h) (hf : (h.nonces ++ nonces).Nodup)
    (hact : m.activeOpt = h.manager.activeOpt)
    (hpe : m.pendingOpt = some p) (hn : p.policy.authorizationNonce ∈ nonces) :
    Account a (h.quiet m nonces newEpochs) := by
  have hu : p.policy.authorizationNonce ∉ h.nonces := fun hm => List.disjoint_of_nodup_append hf hm hn
  constructor <;> simp only [History.quiet, hact, hpe, Option.some.injEq, forall_eq']
  · exact hac.tidy
  · exact List.mem_append_right _ hn
  · exact fun hp => List.mem_append_left _ (hac.paid_drawn hp)
  · exact fun s hs ha => List.mem_append_left _ (hac.active_drawn s hs ha)
  · intro heq
    by_contra hp
    exact hu (heq ▸ hac.paid_drawn hp)
  · rintro _ s rfl hs heq ha
    exact hu (heq ▸ hac.active_drawn s hs ha)
  · exact fun s hs ha => (hac.charged s hs ha).draw newEpochs
  · exact hac.capped

/-- Activation consumes the proposal; a session under `a` starts with nothing paid. -/
theorem Account.activated (ha : Account a h) (hp : h.manager.pendingOpt = some p) (hpo : b.policy = p.policy)
    (ht : m.pendingOpt = none) (hac : m.activeOpt = some ⟨b, c, [], 0⟩) :
    Account a (h.quiet m nonces newEpochs) := by
  constructor <;> simp only [History.quiet, hac, ht, Option.some.injEq, forall_eq', reduceCtorEq, false_imp_iff,
    implies_true]
  · exact ⟨by simp, by simp⟩
  · exact fun hpa => List.mem_append_left _ (ha.paid_drawn hpa)
  · rintro rfl
    rw [hpo]
    exact List.mem_append_left _ (ha.pending_drawn p hp)
  · rintro rfl
    rw [ha.pending_unpaid p hp (by rw [hpo])]
    exact charged_fresh _ _ _
  · exact ha.capped

/-- A step of the active session, with the payload it may hand out. -/
theorem Account.session (hac : Account a h) (hpe : m.pendingOpt = h.manager.pendingOpt)
    (hact : h.manager.activeOpt = some s) (hact' : m.activeOpt = some s')
    (hst : SessionStep newEpochs s re s') :
    Account a ⟨m, h.acknowledged ++ re.toList, h.nonces ++ nonces, h.epochs ++ newEpochs⟩ := by
  have ht := hac.tidy s hact
  have hsa := hst.authorization_eq
  have hpa : paidUnder a (h.acknowledged ++ re.toList) =
      paidUnder a h.acknowledged ++ if s.authorization = a then re.toList else [] := by
    rw [paidUnder, List.filter_append]
    cases re with
    | none => simp [paidUnder]
    | some p =>
      have hp := ht.returned_authorization hst
      by_cases ha : s.authorization = a <;> simp [paidUnder, hp, ha]
  by_cases ha : s.authorization = a
  · have hc := (hac.charged s hact ha).step ht hst
    have hd := hac.active_drawn s hact ha
    rw [if_pos ha] at hpa
    constructor <;> simp only [hact', hpe, Option.some.injEq, forall_eq', hpa]
    · exact ht.step hst
    · exact fun pending hs => List.mem_append_left _ (hac.pending_drawn pending hs)
    · exact fun _ => List.mem_append_left _ hd
    · exact fun _ => List.mem_append_left _ hd
    · exact fun pending hs heq => absurd ha (hac.pending_inactive pending s hs hact heq)
    · rintro pending _ hs rfl heq
      exact absurd ha (hac.pending_inactive pending s hs hact heq)
    · exact fun _ => hc
    · rw [acknowledgedTotal, hpa]
      have hca := hc.total_le.trans hc.capped
      rwa [hsa, ha] at hca
  · rw [if_neg ha, List.append_nil] at hpa
    have ha' : s'.authorization ≠ a := hsa ▸ ha
    constructor <;> simp only [hact', hpe, Option.some.injEq, forall_eq', hpa]
    · exact ht.step hst
    · exact fun pending hs => List.mem_append_left _ (hac.pending_drawn pending hs)
    · exact fun hne => List.mem_append_left _ (hac.paid_drawn hne)
    · exact fun heq => absurd heq ha'
    · exact fun pending hs => hac.pending_unpaid pending hs
    · rintro pending _ hs rfl _
      exact ha'
    · exact fun heq => absurd heq ha'
    · rw [acknowledgedTotal, hpa]
      exact hac.capped

variable [ReceiptSessionRecoveryStore σ] {P : Primitives}

/-- One call keeps the account, as long as it draws no nonce a second time. -/
theorem Account.step (hac : Account a h) (call : Call) (hf : (h.step P call).nonces.Nodup) :
    Account a (h.step P call) := by
  have hc := call_step (P := P) call h.manager
  unfold History.step
  generalize call.apply P h.manager = answer at hc
  obtain ⟨re, m⟩ := answer
  cases hc with
  | idle ha hp => simpa [History.quiet] using hac.idle ha hp
  | ended ha hp => simpa [History.quiet] using hac.ended ha hp
  | proposed ha hp hn =>
    simpa [History.quiet] using hac.proposed hf ha hp hn
  | activated hp hpo ht ha =>
    simpa [History.quiet] using hac.activated hp hpo ht ha
  | session hp ha ha' hs => exact hac.session hp ha ha' hs

theorem Account.run (c : List Call) (ha : h.nonces.Nodup → Account a h)
    (hf : (Run.run (History.step P) h c).nonces.Nodup) : Account a (Run.run (History.step P) h c) := by
  refine Run.run_invariant (fun h : History σ => h.nonces.Nodup → Account a h) ?_ ha c hf
  intro h call ha hnd
  exact (ha hnd.of_append_left).step call hnd

end Account

/-! ## Where histories start -/

section Start

variable [ReceiptSessionRecoveryStore σ] {P : Primitives} {cfg : ReceiptSessionConfig}
  {hdr : PersistedReceiptSessionHeader}

theorem quoted_of_checkRoutes {now : Nat} {sk : List StreamKey} {re : List Bytes32}
    {ro : List ReceiptRouteState} (h : checkRoutes P cfg hdr now sk re ro = .ok u) : ∀ r ∈ ro, r.Quoted := by
  induction ro generalizing sk re with
  | nil => simp
  | cons route ro ih =>
    simp only [checkRoutes, bind_eq_ok, failIf_eq_ok, not_or] at h
    obtain ⟨_, -, _, -, _, ⟨he, -⟩, hre⟩ := h
    intro r hr
    rcases List.mem_cons.1 hr with rfl | hr
    · intro hn
      cases hc : r.checkpointOpt with
      | none => rfl
      | some checkpoint => simp [exitCheckpointForeign, hc, hn] at he
    · exact ih hre r hr

/-- A constructed manager has no pending proposal, and a restored session has its routes quoted. -/
theorem Constructed.spec {m : ReceiptSessionManager σ} (h : Constructed P m) :
    m.pendingOpt = none ∧ ∀ s, m.activeOpt = some s → ∀ r ∈ s.routes, r.Quoted := by
  rcases h with ⟨cfg, rfl⟩ | ⟨cfg, storeOpt, now, h⟩
  · simp [ReceiptSessionManager.new]
  · cases storeOpt with
    | none =>
      simp only [newRecoveryRequired, Except.ok.injEq] at h
      subst h
      simp
    | some store =>
      obtain ⟨activeOpt, rfl, ⟨rfl, -⟩ | ⟨hdr, routes, s, rfl, -, hr⟩⟩ := newRecoveryRequired_eq_ok_iff.1 h
      · simp
      · refine ⟨rfl, ?_⟩
        rintro _ ⟨⟩
        simp only [restoreActive, bind_eq_ok, pure_eq_ok] at hr
        obtain ⟨_, -, _, -, _, -, _, -, _, hro, rfl⟩ := hr
        exact quoted_of_checkRoutes hro

end Start

/-! ## The cap -/

section Cap

variable [ReceiptSessionRecoveryStore σ] (P : Primitives)

theorem run_drawn (h : History σ) (c : List Call) :
    (Run.run (History.step P) h c).nonces = h.nonces ++ c.flatMap Call.nonces ∧
      (Run.run (History.step P) h c).epochs = h.epochs ++ c.flatMap Call.epochs := by
  induction c generalizing h with
  | nil => simp
  | cons call c ih => simp [ih, History.step]

/-- **The spending cap.** Over every sequence of calls, with any offers and any answers of the recovery
store, what was ever acknowledged under an authorization stays within its limit; and while its session
is active, that is exactly what the session has spent. The random draws of the manager must not repeat
(nonces for the cap, route epochs for the exact amount), and a session that was restored at the start
is under another authorization and holds only its own payloads. -/
theorem spending_cap {m : ReceiptSessionManager σ} (hm : Constructed P m) (calls : List Call)
    (a : AuthorizedReceiptSession)
    (hrestored : ∀ s, m.activeOpt = some s → s.authorization ≠ a ∧
      ∀ r ∈ s.routes, ∀ p, r.Stored p → p.authorization = s.authorization)
    (hnonces : (calls.flatMap Call.nonces).Nodup) :
    acknowledgedTotal a (Run.run (History.step P) (.start m) calls).acknowledged ≤ a.policy.maxTotalChargeWei ∧
      ∀ s, (Run.run (History.step P) (.start m) calls).manager.activeOpt = some s → s.authorization = a →
        (calls.flatMap Call.epochs).Nodup →
        acknowledgedTotal a (Run.run (History.step P) (.start m) calls).acknowledged = s.spentChargeWei := by
  obtain ⟨hp, hq⟩ := hm.spec
  have hst : Account a (History.start m) := by
    constructor <;> simp only [History.start, hp, reduceCtorEq, false_imp_iff, implies_true]
    · exact fun s hs => ⟨hq s hs, (hrestored s hs).2⟩
    · simp [paidUnder]
    · exact fun s hs ha => absurd ha (hrestored s hs).1
    · exact fun s hs ha => absurd ha (hrestored s hs).1
    · simp [acknowledgedTotal, paidUnder]
  have hr := Account.run (P := P) calls (fun _ => hst) (by rw [(run_drawn P _ _).1]; simpa [History.start] using hnonces)
  refine ⟨hr.capped, fun s hs ha he => (hr.charged s hs ha).total_eq ?_⟩
  rw [(run_drawn P _ _).2]
  simpa [History.start] using he

end Cap

/-- A recovery store that keeps nothing and never fails. -/
structure ForgetfulStore where

instance : ReceiptSessionRecoveryStore ForgetfulStore where
  load store _ := (.ok none, store)
  saveHeader store _ := (.ok (), store)
  saveHeaderAndRoute store _ _ := (.ok (), store)
  clear store := (.ok (), store)

/-- A session of limit 100 on one route, with one exit offer of 2 per unit and 3 per byte. -/
def sampleCalls : List Call := [
  .propose "100" 60 1000 ⟨[8], []⟩ 7,
  .activate "0x0000000000000000000000000000000000000000000000000000000000000007" "" 1000,
  .requestForStream 3 5 1001,
  .bindExitQuote 3 [9] 2 3 1001,
  .recordExitResponse 3 1 10 1001,
  .acknowledgeOffer ⟨ServiceReceipt.new 5 1 .exit [9] 1 10 2 3, [0]⟩ 1002]

def sampleHistory : History ForgetfulStore :=
  Run.run (History.step .accepting) (.start (.new ⟨⟨"chain", 0⟩, 1, 1, 1⟩)) sampleCalls

theorem spending_cap_sample : sampleHistory.manager.activeOpt.map (·.spentChargeWei) = some 32 ∧
      ∀ s, sampleHistory.manager.activeOpt = some s →
        acknowledgedTotal s.authorization sampleHistory.acknowledged = s.spentChargeWei := by
  refine ⟨by decide +kernel, fun s hs => ?_⟩
  have hn : Constructed .accepting (.new ⟨⟨"chain", 0⟩, 1, 1, 1⟩ : ReceiptSessionManager ForgetfulStore) :=
    .inl ⟨_, rfl⟩
  have hc := spending_cap .accepting hn sampleCalls s.authorization (by simp [ReceiptSessionManager.new]) (by decide)
  exact hc.2 s hs rfl (by decide)

end MasqMobile
