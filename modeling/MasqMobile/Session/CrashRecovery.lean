import MasqMobile.Session.Consistency
import MasqMobile.Session.Spending
import MasqMobile.Session.Store

/-!
# Crash recovery

A manager over a faithful recovery store makes calls that all succeed, and then the process stops. The constructor
that the node uses at its next start (`new_recovery_required`) must find the session as it was: this is `Lossless`.
While a session is active, the store holds its header and exactly its routes (`Recorded`), so everything hangs on the
checks of `restore_active`.
-/

namespace MasqMobile

open Fallible ReceiptSessionManager ReceiptSessionRecoveryStoreReal

variable {σ : Type} {cfg : ReceiptSessionConfig}

/-- The key pair survives being written as text and read back. -/
def Primitives.Restores (P : Primitives) (cryptde : CryptDE) : Prop :=
  P.makeFromStr (P.cryptdeToString cryptde) = .ok cryptde

/-- The same session, its routes in some other order: the source keeps them in a vector that it only
ever searches by stream key or route epoch, which are distinct. -/
structure SameSession (s s' : ActiveReceiptSession) : Prop where
  authorization : s'.authorization = s.authorization
  payerCryptde : s'.payerCryptde = s.payerCryptde
  spentChargeWei : s'.spentChargeWei = s.spentChargeWei
  routes : s'.routes.Perm s.routes

/-- If the process stops now, a start at any time inside the authorization's window restores the session. -/
def ReceiptSessionManager.Lossless {σ : Type} [ReceiptSessionRecoveryStore σ] (P : Primitives)
    (m : ReceiptSessionManager σ) : Prop :=
  ∀ s, m.activeOpt = some s → ∀ now, s.authorization.policy.validFromUnixS ≤ now →
    now ≤ s.authorization.policy.expiresAtUnixS →
    ∃ m' s', newRecoveryRequired P m.config m.recoveryStoreOpt now = .ok m' ∧ m'.activeOpt = some s' ∧ SameSession s s'

/-- A routing payload finds room for every repetition of a provider in the list it is recorded for. -/
def Call.HasRoom {σ : Type} (m : ReceiptSessionManager σ) : Call → Prop
  | .recordRoutingRequest key _ _ => ∀ s, m.activeOpt = some s →
      ∀ r, s.routes.find? (·.streamKey = key) = some r → r.RoomFor r.routingRequestProviders
  | .recordRoutingResponse key _ _ => ∀ s, m.activeOpt = some s →
      ∀ r, s.routes.find? (·.streamKey = key) = some r → r.RoomFor r.routingResponseProviders
  | _ => True

instance {σ : Type} (m : ReceiptSessionManager σ) (call : Call) : Decidable (call.HasRoom m) :=
  match call with
  | .recordRoutingRequest key _ _ => inferInstanceAs (Decidable (∀ s ∈ m.activeOpt,
      ∀ r ∈ s.routes.find? (·.streamKey = key), r.RoomFor r.routingRequestProviders))
  | .recordRoutingResponse key _ _ => inferInstanceAs (Decidable (∀ s ∈ m.activeOpt,
      ∀ r ∈ s.routes.find? (·.streamKey = key), r.RoomFor r.routingResponseProviders))
  | .propose .. | .activate .. | .status .. | .requestForStream .. | .rotateRouteForStream .. | .bindExitQuote ..
  | .bindRoutingQuotes .. | .recordExitRequest .. | .recordExitResponse .. | .acknowledgeOffer .. | .stop =>
    .isTrue trivial

/-! ## Memory and store -/

structure Saved (P : Primitives) (c : RecoveryContent) (s : ActiveReceiptSession) : Prop where
  header : ∃ header, c.headerOpt = some header ∧ header.authorization = s.authorization ∧
    header.spentChargeWei = s.spentChargeWei ∧ P.makeFromStr header.payerCryptde = .ok s.payerCryptde
  routes : c.routes.rows.Perm s.routes

structure ProposedFor (P : Primitives) (config : ReceiptSessionConfig) (pending : PendingReceiptSession) : Prop where
  sessionKey : pending.policy.payerSessionPublicKey = pending.payerCryptde.publicKey
  wallet : pending.policy.payerWalletAddress = config.payerWalletAddress
  restores : P.Restores pending.payerCryptde

/-- The invariant of a manager over a recording store: an active session is consistent and saved. -/
structure Recorded {σ : Type} (P : Primitives) (config : ReceiptSessionConfig) (Holds : σ → RecoveryContent → Prop)
    (m : ReceiptSessionManager σ) : Prop where
  configured : m.config = config
  pending : ∀ pending, m.pendingOpt = some pending → ProposedFor P config pending
  saved : ∃ store c, m.recoveryStoreOpt = some store ∧ Holds store c ∧
    ∀ s, m.activeOpt = some s → s.Consistent P config ∧ P.Restores s.payerCryptde ∧ Saved P c s

section Recorded

variable [ReceiptSessionRecoveryStore σ] {P : Primitives} {Holds : σ → RecoveryContent → Prop}
  {m : ReceiptSessionManager σ} {α : Type}

theorem Recorded.drop (hst : RecordingStore Holds) (h : Recorded P cfg Holds m)
    {pendingOpt : Option PendingReceiptSession} (hpe : pendingOpt = m.pendingOpt ∨ pendingOpt = none) :
    Recorded P cfg Holds (clearStore { m with pendingOpt, activeOpt := none }) := by
  obtain ⟨st, c, hs, hh, -⟩ := h.saved
  obtain ⟨c', hc'⟩ := (hst.clear hh).exists_holds
  refine ⟨h.configured, fun pending hp => ?_, _, c', by simp [clearStore, hs], hc', by simp [clearStore]⟩
  rcases hpe with rfl | rfl
  · exact h.pending pending hp
  · simp [clearStore] at hp

theorem Recorded.expire (hs : RecordingStore Holds) (h : Recorded P cfg Holds m) (now : Nat) :
    Recorded P cfg Holds (m.expire now) := by
  unfold ReceiptSessionManager.expire
  split
  · split
    · exact h.drop hs (.inl rfl)
    · exact h
  · exact h

/-- Writing a route and its header keeps the store in step with the session. -/
theorem Saved.write (h : Saved P c s) (hk : P.Restores s.payerCryptde) (hw : Writes P cfg s r' s') :
    Saved P (c.saveHeaderAndRoute (persistedHeader P s') r') s' := by
  refine ⟨⟨_, rfl, rfl, rfl, ?_⟩, ?_⟩
  · rw [hw.payerCryptde]
    simp only [persistedHeader, hw.payerCryptde]
    exact hk
  · have hr : (c.routes.put r').rows = r' :: c.routes.rows.filter (·.streamKey ≠ r'.streamKey) := rfl
    rw [RecoveryContent.saveHeaderAndRoute, hr]
    exact ((h.routes.filter _).cons r').trans hw.routes.symm

/-- **A successful operation.** The session it leaves is saved, and its queues are bounded exactly if
there was room. -/
theorem Recorded.settle (hst : RecordingStore Holds) (h : Recorded P cfg Holds m)
    {s : ActiveReceiptSession} (hs : m.activeOpt = some s) {room : Prop} {o : Outcome α} {re : α}
    (hwr : OutcomeWrites P cfg s room o) (hok : (settle P m o).1 = .ok re) :
    Recorded P cfg Holds (settle P m o).2 ∧
      ∃ s', (settle P m o).2.activeOpt = some s' ∧ (s.QueuesBounded → (s'.QueuesBounded ↔ room)) := by
  obtain ⟨st, c, hso, hh, hsa⟩ := h.saved
  obtain ⟨hco, hk, hsa⟩ := hsa s hs
  cases o with
  | fail e s' => cases hok
  | done value s' =>
    obtain ⟨rfl, hr⟩ := hwr
    refine ⟨⟨h.configured, h.pending, st, c, hso, hh, ?_⟩, s', rfl, fun hq => ⟨fun _ => hr, fun _ => hq⟩⟩
    rintro _ ⟨⟩
    exact ⟨hco, hk, hsa⟩
  | persist streamKey value s' =>
    obtain ⟨r', rfl, hw, hq⟩ := hwr
    have hc := hst.saveHeaderAndRoute (persistedHeader P s') r' hh
    simp only [ReceiptSessionManager.settle, persistRoute, hw.find, persistWith, hso] at hok ⊢
    generalize ReceiptSessionRecoveryStore.saveHeaderAndRoute st (persistedHeader P s') r' = answer at hok hc ⊢
    obtain ⟨_ | ⟨⟩, st'⟩ := answer
    · cases hok
    · refine ⟨⟨h.configured, h.pending, st', _, rfl, hc, ?_⟩, s', rfl,
        fun hb => (hw.queuesBounded_iff hb).trans (hq hb)⟩
      rintro _ ⟨⟩
      exact ⟨hw.consistent, hw.payerCryptde ▸ hk, hsa.write hk hw⟩

/-- The queues of the active session, if there is one. -/
def ReceiptSessionManager.QueuesBounded (m : ReceiptSessionManager σ) : Prop :=
  ∀ s, m.activeOpt = some s → s.QueuesBounded

theorem ReceiptSessionManager.QueuesBounded.expire (h : m.QueuesBounded) (now : Nat) :
    (m.expire now).QueuesBounded := by
  intro s hs
  obtain ⟨-, hn | hsa⟩ := expire_cases m now
  · rw [hn] at hs
    cases hs
  · exact h s (hsa ▸ hs)

variable {now : Nat}

/-- An operation answers without a session only if it asks for no room. -/
theorem Recorded.onActive (hst : RecordingStore Holds) (h : Recorded P cfg Holds m)
    {room : ActiveReceiptSession → Prop} {o : ActiveReceiptSession → Outcome α}
    (hw : ∀ s, s.Consistent P cfg → OutcomeWrites P cfg s (room s) (o s))
    {ab : Except ReceiptSessionManagerError α} (ha : ∀ value, ab = .ok value → ∀ s, room s)
    {re : α} (hok : (m.onActive P now ab o).1 = .ok re) :
    Recorded P cfg Holds (m.onActive P now ab o).2 ∧ (m.QueuesBounded →
        ((m.onActive P now ab o).2.QueuesBounded ↔ ∀ s, m.activeOpt = some s → room s)) := by
  have he := h.expire hst now
  simp only [ReceiptSessionManager.onActive] at hok ⊢
  cases hs : (m.expire now).activeOpt with
  | none =>
    simp only [hs] at hok ⊢
    refine ⟨he, fun _ => ⟨fun _ s _ => ha re hok s, fun _ s hs' => ?_⟩⟩
    rw [hs] at hs'
    cases hs'
  | some s =>
    simp only [hs] at hok ⊢
    have hm : m.activeOpt = some s := expire_eq_self hs ▸ hs
    obtain ⟨st, c, -, -, hsa⟩ := he.saved
    obtain ⟨hr, s', hs', hq⟩ := he.settle hst hs (hw s (hsa s hs).1) hok
    refine ⟨hr, fun hb => ?_⟩
    simp only [ReceiptSessionManager.QueuesBounded, hs', hm, Option.some.injEq, forall_eq']
    exact hq (hb s hm)

/-- An operation that asks for no room. -/
theorem Recorded.onActive_true (hs : RecordingStore Holds) (h : Recorded P cfg Holds m)
    {o : ActiveReceiptSession → Outcome α}
    (hw : ∀ s, s.Consistent P cfg → OutcomeWrites P cfg s True (o s))
    {ab : Except ReceiptSessionManagerError α} {re : α}
    (hok : (m.onActive P now ab o).1 = .ok re) :
    Recorded P cfg Holds (m.onActive P now ab o).2 ∧
      (m.QueuesBounded → ((m.onActive P now ab o).2.QueuesBounded ↔ True)) := by
  obtain ⟨hr, hq⟩ := h.onActive hs hw (fun _ _ _ => trivial) hok
  exact ⟨hr, fun hb => (hq hb).trans (by simp)⟩

theorem Recorded.onRoute_true (hst : RecordingStore Holds) (h : Recorded P cfg Holds m) {sk : StreamKey}
    {u : ReceiptRouteState → RouteUpdate}
    (hu : ∀ a r, r.Consistent P a → RouteUpdateWrites P a r True (u r))
    (hok : (m.onRoute P sk now u).1 = .ok ()) :
    Recorded P cfg Holds (m.onRoute P sk now u).2 ∧
      (m.QueuesBounded → ((m.onRoute P sk now u).2.QueuesBounded ↔ True)) := by
  refine h.onActive_true hst (fun s hs => ?_) hok
  have hw := updateRoute_writes hs (fun r hr => hu s.authorization r hr) sk
  simpa using hw

/-! ## The life of a session -/

omit [ReceiptSessionRecoveryStore σ] in
theorem Recorded.propose (h : Recorded P cfg Holds m) (l : String) (d now : Nat) (non : Bytes32) (hk : P.Restores c) :
    Recorded P cfg Holds (m.propose P l d now c non).2 ∧ (m.propose P l d now c non).2.activeOpt = m.activeOpt := by
  simp only [ReceiptSessionManager.propose]
  split
  · exact ⟨h, rfl⟩
  · rename_i policy hp
    simp only [bind_eq_ok, pure_eq_ok] at hp
    obtain ⟨_, -, _, -, _, -, _, -, _, -, _, -, rfl⟩ := hp
    refine ⟨⟨h.configured, ?_, h.saved⟩, rfl⟩
    rintro _ ⟨⟩
    exact ⟨rfl, by rw [h.configured], hk⟩

/-- A new session starts without routes, over a store that was cleared for it. -/
theorem Recorded.activate (hst : RecordingStore Holds) (h : Recorded P cfg Holds m) {sta : ReceiptSessionStatus}
    (hok : (m.activate P p si now).1 = .ok sta) :
    Recorded P cfg Holds (m.activate P p si now).2 ∧ (m.activate P p si now).2.QueuesBounded := by
  have hca := activate_cases (P := P) m p si now
  generalize m.activate P p si now = answer at hca hok ⊢
  cases hca with
  | refused | storeless | uncleared | unsaved => cases hok
  | @activated pending authorization saved hpe hpo hv hc hs =>
    obtain ⟨st, c, hso, hh, -⟩ := h.saved
    have hp := h.pending pending hpe
    have hcl := hst.clear hh
    have hc := hc st hso
    simp only [persistHeader, ReceiptSessionManager.activated, persistWith, hso, Option.map_some] at hs
    generalize ReceiptSessionRecoveryStore.clear st = cleared at hcl hc hs
    obtain ⟨_, st'⟩ := cleared
    obtain rfl := hc
    have hco := hst.saveHeader (persistedHeader P ⟨authorization, pending.payerCryptde, [], 0⟩) hcl
    generalize ReceiptSessionRecoveryStore.saveHeader st'
      (persistedHeader P ⟨authorization, pending.payerCryptde, [], 0⟩) = answer at hco hs
    obtain ⟨_ | ⟨⟩, st''⟩ := answer
    · cases hs
    · obtain rfl := (Prod.mk.inj hs).2
      obtain ⟨ha, -⟩ := AuthorizedReceiptSession.verify_eq_ok_iff.1 hv
      rw [h.configured, hp.sessionKey] at ha
      have hre : Recorded P cfg Holds
          { m with
            pendingOpt := none
            activeOpt := some ⟨authorization, pending.payerCryptde, [], 0⟩
            recoveryStoreOpt := some st'' } := by
        refine ⟨h.configured, by simp, st'', _, rfl, hco, ?_⟩
        rintro _ ⟨⟩
        refine ⟨⟨ha, ?_, Nat.zero_le _, by simp, by simp, by simp [epochs], by simp⟩, hp.restores,
          ⟨_, rfl, rfl, rfl, hp.restores⟩, .refl _⟩
        rw [hpo]
        exact hp.wallet
      refine ⟨hre.expire hst now, ReceiptSessionManager.QueuesBounded.expire ?_ now⟩
      rintro _ ⟨⟩ r hr
      cases hr

/-- **One successful call.** What is active stays saved, and the queues stay bounded exactly if the call
has room. -/
theorem Recorded.step (hst : RecordingStore Holds) (h : Recorded P cfg Holds m) (call : Call)
    (hok : call.answer P m = .ok ()) (hk : ∀ cryptde ∈ call.keyPairs, P.Restores cryptde) :
    Recorded P cfg Holds (call.apply P m).2 ∧
      (m.QueuesBounded → ((call.apply P m).2.QueuesBounded ↔ call.HasRoom m)) := by
  cases call with
  | propose limit duration now cryptde nonce =>
    obtain ⟨hre, ha⟩ := h.propose limit duration now nonce (hk cryptde (by simp [Call.keyPairs]))
    refine ⟨hre, fun hb => iff_of_true ?_ trivial⟩
    simpa only [Call.apply, ReceiptSessionManager.QueuesBounded, ha] using hb
  | activate proposalId signature now =>
    obtain ⟨status, hok⟩ := verdict_eq_ok.1 hok
    obtain ⟨hre, hb⟩ := h.activate hst hok
    exact ⟨hre, fun _ => iff_of_true hb trivial⟩
  | status now =>
    exact ⟨h.expire hst now, fun hb => iff_of_true (hb.expire now) trivial⟩
  | requestForStream key epoch now =>
    obtain ⟨_, hok⟩ := verdict_eq_ok.1 hok
    exact h.onActive_true hst (fun s hs => openRoute_writes hs key epoch) hok
  | rotateRouteForStream key epoch now =>
    obtain ⟨_, hok⟩ := verdict_eq_ok.1 hok
    exact h.onActive_true hst (fun s hs => rotateRoute_writes hs key epoch) hok
  | bindExitQuote key provider serviceRate byteRate now =>
    exact h.onRoute_true hst (fun a r hr => bindExit_writes hr provider serviceRate byteRate) hok
  | bindRoutingQuotes key requestQuotes responseQuotes now =>
    exact h.onRoute_true hst (fun a r hr => bindRouting_writes hr requestQuotes responseQuotes) hok
  | recordExitRequest key size now => exact h.onRoute_true hst (fun a r hr => observeRequest_writes hr size) hok
  | recordExitResponse key sequence size now =>
    exact h.onRoute_true hst (fun a r hr => observeResponse_writes hr sequence size) hok
  | recordRoutingRequest key size now =>
    exact h.onActive hst
      (fun s hs => updateRoute_writes hs (fun r hr => recordRoutingPayload_writes hr
        r.routingRequestProviders size) key)
      (by simp) hok
  | recordRoutingResponse key size now =>
    exact h.onActive hst
      (fun s hs => updateRoute_writes hs (fun r hr => recordRoutingPayload_writes hr
        r.routingResponseProviders size) key)
      (by simp) hok
  | acknowledgeOffer signed now =>
    obtain ⟨_, hok⟩ := verdict_eq_ok.1 hok
    refine h.onActive_true hst (fun s hs => ?_) hok
    rw [h.configured]
    exact (acknowledgeOffer_answers P _ s signed now).writes hs
  | stop =>
    refine ⟨h.drop hst (.inr rfl), fun _ => iff_of_true (fun s hs => ?_) trivial⟩
    simp [Call.apply, ReceiptSessionManager.stop, clearStore] at hs

end Recorded

/-! ## Restarting -/

section Restart

variable [ReceiptSessionRecoveryStore σ] {P : Primitives} {Holds : σ → RecoveryContent → Prop}
  {m : ReceiptSessionManager σ} {s s' : ActiveReceiptSession}

theorem ActiveReceiptSession.Consistent.congr (h : s.Consistent P cfg) (hs : SameSession s s') :
    s'.Consistent P cfg where
  authentic := by
    rw [hs.authorization, hs.payerCryptde]
    exact h.authentic
  wallet := by
    rw [hs.authorization]
    exact h.wallet
  capped := by
    rw [hs.authorization, hs.spentChargeWei]
    exact h.capped
  length_le := hs.routes.length_eq ▸ h.length_le
  streamKeys := (hs.routes.map _).nodup_iff.2 h.streamKeys
  routeEpochs := (hs.routes.map _).nodup_iff.2 h.routeEpochs
  routes r hr := by
    rw [hs.authorization]
    exact h.routes r (hs.routes.subset hr)

theorem SameSession.queuesBounded_iff (h : SameSession s s') : s'.QueuesBounded ↔ s.QueuesBounded :=
  ⟨fun hs r hr => hs r (h.routes.symm.subset hr), fun hs r hr => hs r (h.routes.subset hr)⟩

/-- Every state of a run can be restored exactly if its queues are bounded. -/
theorem Recorded.lossless_iff (hst : FaithfulStore Holds) (h : Recorded P cfg Holds m) :
    m.Lossless P ↔ m.QueuesBounded := by
  obtain ⟨st, c, hso, hh, hsav⟩ := h.saved
  refine forall_congr' fun s => forall_congr' fun hs => ?_
  obtain ⟨hc, -, ⟨header, hhe, ha, hsp, hk⟩, hro⟩ := hsav s hs
  have hread (now : Nat) := hst.load now hh
  rw [hso, h.configured]
  constructor
  · -- any moment of the window will do, and it has a first one
    intro hlo
    have hw : s.authorization.policy.validFromUnixS ≤ s.authorization.policy.expiresAtUnixS := by
      have hwf := hc.authentic.wellFormed
      simp only [ReceiptSessionPolicy.validateStructure, bind_eq_ok, failIf_eq_ok, not_le] at hwf
      obtain ⟨_, -, _, -, _, -, _, -, _, -, _, -, _, -, _, hlt, -⟩ := hwf
      exact hlt.le
    obtain ⟨m', s', hn, hs', hsa⟩ := hlo _ le_rfl hw
    obtain ⟨_, rfl, ⟨rfl, -⟩ | ⟨he', routes, restored, rfl, -, hres⟩⟩ := newRecoveryRequired_eq_ok_iff.1 hn
    · cases hs'
    · obtain rfl := Option.some.inj hs'
      obtain ⟨-, -, hb, -⟩ := restoreActive_eq_ok_iff.1 hres
      exact hsa.queuesBounded_iff.1 hb
  · intro hb now hf hto
    have hrow : ∀ r ∈ c.routes.rows, r.request.authorization = header.authorization := fun r hr =>
      (hc.routes r (hro.subset hr)).authorization.trans ha.symm
    obtain ⟨routes, st', hl⟩ := hst.available hh hhe hrow (ha ▸ hto)
    have hre := hread now
    rw [hl] at hre
    obtain ⟨-, hp, -⟩ := hre
    have hsa : SameSession s ⟨header.authorization, s.payerCryptde, routes, header.spentChargeWei⟩ :=
      ⟨ha, rfl, hsp, hp.trans hro⟩
    refine ⟨_, _, newRecoveryRequired_eq_ok_iff.2 ⟨_, rfl, .inr ⟨header, routes, _, rfl, by rw [hl], ?_⟩⟩, rfl, hsa⟩
    exact restoreActive_eq_ok_iff.2 ⟨⟨rfl, rfl, rfl, hk⟩, hc.congr hsa, hsa.queuesBounded_iff.2 hb, ha ▸ hf, ha ▸ hto⟩

/-- A manager that the constructor returned is recorded: what it restored, the store holds. -/
theorem Recorded.of_newRecoveryRequired (hst : RecordingStore Holds) (hh : Holds st c)
    (hre : ∀ text cryptde, P.makeFromStr text = .ok cryptde → P.Restores cryptde)
    {sta : Nat} (hn : newRecoveryRequired P cfg (some st) sta = .ok m) :
    Recorded P cfg Holds m ∧ m.QueuesBounded := by
  have hr := hst.load sta hh
  obtain ⟨_, rfl, ⟨rfl, hl⟩ | ⟨header, routes, s, rfl, hl, hres⟩⟩ := newRecoveryRequired_eq_ok_iff.1 hn
  · generalize ReceiptSessionRecoveryStore.load st sta = answer at hr hl
    obtain ⟨_, st'⟩ := answer
    obtain rfl := hl
    have hke : ∃ c', Holds st' c' := by
      rcases hr with h | h
      · exact ⟨_, h⟩
      · exact ⟨_, h⟩
    obtain ⟨c', hc'⟩ := hke
    exact ⟨⟨rfl, by simp, st', c', rfl, hc', by simp⟩, by simp [ReceiptSessionManager.QueuesBounded]⟩
  · generalize ReceiptSessionRecoveryStore.load st sta = answer at hr hl
    obtain ⟨_, st'⟩ := answer
    obtain rfl := hl
    obtain ⟨hhe, hp, hh'⟩ := hr
    obtain ⟨⟨ha, hs, rfl, hk⟩, hc, hb, -⟩ := restoreActive_eq_ok_iff.1 hres
    refine ⟨⟨rfl, by simp, st', c, rfl, hh', ?_⟩, ?_⟩
    · rintro _ ⟨⟩
      exact ⟨hc, hre _ _ hk, ⟨header, hhe, ha.symm, hs.symm, hk⟩, hp.symm⟩
    · rintro _ ⟨⟩
      exact hb

end Restart

/-! ## Whole runs -/

section Runs

variable [ReceiptSessionRecoveryStore σ] (P : Primitives)

def Call.next (m : ReceiptSessionManager σ) (call : Call) : ReceiptSessionManager σ := (call.apply P m).2

/-- The call succeeds, and the key pairs it generates can be read back. -/
def Call.Succeeds (m : ReceiptSessionManager σ) (call : Call) : Prop :=
  call.answer P m = .ok () ∧ ∀ cryptde ∈ call.keyPairs, P.Restores cryptde

instance (cryptde : CryptDE) : Decidable (P.Restores cryptde) := inferInstanceAs (Decidable (_ = _))

instance (m : ReceiptSessionManager σ) (call : Call) : Decidable (call.Succeeds P m) :=
  inferInstanceAs (Decidable (_ ∧ _))

/-- **Crash recovery.** A manager that starts over a faithful store can be restored there, and it can be
restored after each of any successful calls exactly if each recorded routing payload finds room for every
repetition of a provider. Key pairs are assumed to survive being written as text and read back. -/
theorem crash_recovery_lossless {config : ReceiptSessionConfig} {Holds : σ → RecoveryContent → Prop}
    (hstore : FaithfulStore Holds) {store : σ} {c : RecoveryContent} (hholds : Holds store c)
    (hread : ∀ text cryptde, P.makeFromStr text = .ok cryptde → P.Restores cryptde)
    {start : Nat} {m : ReceiptSessionManager σ} (hnew : newRecoveryRequired P config (some store) start = .ok m)
    (calls : List Call) (hok : Run.Along (Call.next P) (Call.Succeeds P) m calls) :
    m.Lossless P ∧ (Run.Along (Call.next P) (fun m call => (call.next P m).Lossless P) m calls ↔
        Run.Along (Call.next P) (fun m call => call.HasRoom m) m calls) := by
  have hs := Recorded.of_newRecoveryRequired hstore.toRecordingStore hholds hread hnew
  refine ⟨(hs.1.lossless_iff hstore).2 hs.2, ?_⟩
  refine Run.along_congr (fun m => Recorded P config Holds m ∧ m.QueuesBounded) ?_ ?_ hs hok
  · rintro m call ⟨hm, hb⟩ ⟨ha, hk⟩
    obtain ⟨hn, hq⟩ := hm.step hstore.toRecordingStore call ha hk
    exact (hn.lossless_iff hstore).trans (hq hb)
  · rintro m call ⟨hm, hb⟩ ⟨ha, hk⟩ hl
    obtain ⟨hn, -⟩ := hm.step hstore.toRecordingStore call ha hk
    exact ⟨hn, (hn.lossless_iff hstore).1 hl⟩

end Runs

/-! ## Runs over the store of the source -/

/-- A recovery key that leaves everything readable, with stream keys in unary, over a database without faults. -/
def plainEnv : RecoveryEnv (PersistedReceiptSessionHeader ⊕ ReceiptRouteState) where
  encryptHeader header := .ok (.inl header)
  decryptHeader
    | .inl header => .ok header
    | .inr _ => .error ""
  encryptRoute route := .ok (.inr route)
  decryptRoute
    | .inr route => .ok route
    | .inl _ => .error ""
  streamKeyCbor key := List.replicate key.toNat 0
  fault _ := none

theorem lawful_plainEnv : plainEnv.Lawful where
  header h := by
    obtain rfl := Except.ok.inj h
    rfl
  route h := by
    obtain rfl := Except.ok.inj h
    rfl
  cbor key key' h := by
    have hl := congrArg List.length h
    simpa [plainEnv, BitVec.toNat_inj] using hl

/-- Primitives that know one key pair. -/
def Primitives.oneKey : Primitives := { Primitives.accepting with makeFromStr := fun _ => .ok ⟨[8], []⟩ }

theorem restores_oneKey (text : String) (cryptde : CryptDE) (h : Primitives.oneKey.makeFromStr text = .ok cryptde) :
    Primitives.oneKey.Restores cryptde := h

/-- A node that starts over an empty database. -/
def freshManager : ReceiptSessionManager (ReceiptSessionRecoveryStoreReal plainEnv) :=
  ⟨⟨⟨"chain", 0⟩, 1, 1, 1⟩, none, none, some ⟨.clear, 1⟩, true⟩

/-- A session with one route over the hops `providers`, and `payloads` requests recorded on it. -/
def routedCalls (providers : List PublicKey) (payloads : Nat) : List Call := [.propose "100" 60 1000 ⟨[8], []⟩ 7,
    .activate "0x0000000000000000000000000000000000000000000000000000000000000007" "" 1000,
    .requestForStream 3 5 1001,
    .bindRoutingQuotes 3 (providers.map fun provider => ⟨provider, 2, 3⟩) [] 1001] ++
  List.replicate payloads (.recordRoutingRequest 3 10 1002)

theorem crash_recovery_lossless_sample :
    Run.Along (Call.next .oneKey) (fun m call => (call.next .oneKey m).Lossless .oneKey) freshManager
      (routedCalls [[9], [6]] 3) := by
  have hn : newRecoveryRequired .oneKey ⟨⟨"chain", 0⟩, 1, 1, 1⟩ (some (.fresh plainEnv)) 1000 = .ok freshManager := rfl
  exact (crash_recovery_lossless .oneKey
    (faithfulStore_real lawful_plainEnv fun _ => rfl)
    (holds_fresh plainEnv) restores_oneKey hn (routedCalls [[9], [6]] 3)
    (by decide +kernel)).2.2 (by decide +kernel)

/-- A provider that occurs three times among the hops has 66 payloads queued after 22 requests. Every
call succeeded, the session is active, and the next start refuses it. -/
theorem repeated_provider_lost :
    Run.Along (Call.next .oneKey) (Call.Succeeds .oneKey) freshManager (routedCalls [[9], [9], [9]] 22) ∧
      (Run.run (Call.next .oneKey) freshManager (routedCalls [[9], [9], [9]] 22)).activeOpt.isSome ∧
      (newRecoveryRequired .oneKey ⟨⟨"chain", 0⟩, 1, 1, 1⟩
          (Run.run (Call.next .oneKey) freshManager (routedCalls [[9], [9], [9]] 22)).recoveryStoreOpt 1003).map
        (·.activeOpt) = .error (.persistence "recovered receipt route is inconsistent") := by
  decide +kernel

end MasqMobile
