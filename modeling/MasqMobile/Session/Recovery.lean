import MasqMobile.Session.Manager

/-!
# Restoring a session from the recovery store

`ReceiptSessionManager::restore_active` and `new_recovery_required` (receipt_session.rs:335, 482): the
constructor that the node uses, with a session read back from the store if the store holds one that
passes every check.
-/

namespace MasqMobile

open Fallible

namespace ReceiptSessionManager

variable {σ : Type} [ReceiptSessionRecoveryStore σ] (P : Primitives)

/-- The closure `checkpoint_matches` (receipt_session.rs:384). -/
def checkpointMatches (header : PersistedReceiptSessionHeader) (route : ReceiptRouteState)
    (checkpoint : ReceiptSequenceCheckpoint) (provider : PublicKey) : Bool :=
  checkpoint.routeEpoch = route.request.routeEpoch ∧ checkpoint.providerPublicKey = provider ∧
    checkpoint.accountingCommitment = route.request.accountingCommitment ∧
    checkpoint.payerSessionPublicKey = header.authorization.policy.payerSessionPublicKey

/-- The exit checkpoint, if there is one, belongs to the quoted exit of this route. -/
def exitCheckpointForeign (header : PersistedReceiptSessionHeader) (route : ReceiptRouteState) : Bool :=
  match route.checkpointOpt, route.expectedProviderPublicKeyOpt with
  | none, _ => false
  | some checkpoint, some provider => !checkpointMatches header route checkpoint provider
  | some _, none => true

def routingCheckpointForeign (header : PersistedReceiptSessionHeader) (route : ReceiptRouteState) : Bool :=
  route.routingProviderStates.any fun provider state =>
    match state.checkpointOpt with
    | some checkpoint => !checkpointMatches header route checkpoint provider
    | none => false

/-- The loop of `restore_active` (receipt_session.rs:365), with the two `HashSet`s as lists. -/
def checkRoutes (config : ReceiptSessionConfig) (header : PersistedReceiptSessionHeader) (nowUnixS : Nat)
    (streamKeys : List StreamKey) (routeEpochs : List Bytes32) :
    List ReceiptRouteState → Except ReceiptSessionManagerError Unit
  | [] => .ok ()
  | route :: routes => do
    failIf (route.streamKey ∈ streamKeys ∨ route.request.routeEpoch ∈ routeEpochs ∨
      route.request.authorization ≠ header.authorization ∨
      route.observedResponses.length > maxPendingReceiptResponsesPerRoute ∨
      (route.routingProviderStates.any fun _ state =>
        decide (state.observedPayloads.length > maxPendingReceiptResponsesPerRoute)) = true)
      (.persistence "recovered receipt route is inconsistent")
    mapErr .verification (route.request.verify P config.chainId config.settlementContract nowUnixS)
    failIf (exitCheckpointForeign header route ∨ routingCheckpointForeign header route)
      (.persistence "recovered receipt checkpoint identity is inconsistent")
    checkRoutes config header nowUnixS (route.streamKey :: streamKeys) (route.request.routeEpoch :: routeEpochs) routes

/-- receipt_session.rs:335 -/
def restoreActive (config : ReceiptSessionConfig) (header : PersistedReceiptSessionHeader)
    (routes : List ReceiptRouteState) (nowUnixS : Nat) :
    Except ReceiptSessionManagerError ActiveReceiptSession := do
  failIf (routes.length > maxReceiptSessionRoutes) (.persistence "recovered route limit is invalid")
  let payerCryptde ← mapErr .persistence (P.makeFromStr header.payerCryptde)
  mapErr .verification (header.authorization.verify P config.chainId config.settlementContract
    payerCryptde.publicKey nowUnixS header.spentChargeWei)
  failIf (header.authorization.policy.payerWalletAddress ≠ config.payerWalletAddress)
    (.persistence "recovered payer wallet differs from Node configuration")
  checkRoutes P config header nowUnixS [] [] routes
  return { authorization := header.authorization, payerCryptde, routes, spentChargeWei := header.spentChargeWei }

/-- receipt_session.rs:482 -/
def newRecoveryRequired (config : ReceiptSessionConfig) (recoveryStoreOpt : Option σ) (nowUnixS : Nat) :
    Except ReceiptSessionManagerError (ReceiptSessionManager σ) :=
  match recoveryStoreOpt with
  | none => .ok { config, pendingOpt := none, activeOpt := none, recoveryStoreOpt := none, recoveryRequired := true }
  | some store => do
    let answer := ReceiptSessionRecoveryStore.load store nowUnixS
    let recovered ← mapErr .persistence answer.1
    let activeOpt ← match recovered with
      | some (header, routes) => (restoreActive P config header routes nowUnixS).map some
      | none => .ok none
    return { config, pendingOpt := none, activeOpt, recoveryStoreOpt := some answer.2, recoveryRequired := true }

/-- The constructor returns a manager without a proposal, with the session it restored if the store had one. -/
theorem newRecoveryRequired_eq_ok_iff {P : Primitives} {st : σ} {nus : Nat} : newRecoveryRequired P c
    (some st) nus = .ok m ↔
      ∃ activeOpt, m = ⟨c, none, activeOpt, some (ReceiptSessionRecoveryStore.load st nus).2, true⟩ ∧
        ((activeOpt = none ∧ (ReceiptSessionRecoveryStore.load st nus).1 = .ok none) ∨
          ∃ header routes s, activeOpt = some s ∧
            (ReceiptSessionRecoveryStore.load st nus).1 = .ok (some (header, routes)) ∧
            restoreActive P c header routes nus = .ok s) := by
  simp only [newRecoveryRequired, bind_eq_ok, mapErr_eq_ok]
  constructor
  · rintro ⟨_ | ⟨header, routes⟩, hl, h⟩
    · simp only [bind_eq_ok, pure_eq_ok, Except.ok.injEq] at h
      obtain ⟨_, rfl, rfl⟩ := h
      exact ⟨none, rfl, .inl ⟨rfl, hl⟩⟩
    · cases hr : restoreActive P c header routes nus with
      | error e => simp [hr, Except.map, bind, Except.bind] at h
      | ok s =>
        simp only [hr, Except.map, bind_eq_ok, pure_eq_ok, Except.ok.injEq] at h
        obtain ⟨_, rfl, rfl⟩ := h
        exact ⟨some s, rfl, .inr ⟨header, routes, s, rfl, hl, hr⟩⟩
  · rintro ⟨activeOpt, rfl, ⟨rfl, hl⟩ | ⟨header, routes, s, rfl, hl, hr⟩⟩
    · exact ⟨none, hl, rfl⟩
    · refine ⟨some (header, routes), hl, ?_⟩
      simp only [hr, Except.map]
      rfl

end ReceiptSessionManager

end MasqMobile
