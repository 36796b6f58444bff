import MasqMobile.Lib.FirstMatch
import MasqMobile.Receipt.Verify

/-!
# The consumer's receipt session

`node/src/proxy_server/receipt_session.rs`. The manager proposes a spending policy, activates it once
the wallet has signed, and from then on countersigns the offers of exit and routing providers that
match what it has itself observed, up to the policy's limit.

The recovery store is a trait object of the source; here a type `σ` with the trait's operations, each
of which may fail in any way and change its state in any way. Key pairs and random bytes, which the
source draws from the operating system, are arguments of the operations that draw them.

An operation on the active session computes an `Outcome`, and `settle` does what the source does
after it: keep the session, or keep it and persist the route that was touched (`persistRoute`), which
on failure revokes the session. Routes are found with `find?` and assigned through `FirstMatch.update`.

| here | there |
| --- | --- |
| `ReceiptSessionRecoveryStore` | trait `ReceiptSessionRecoveryStore` (receipt_session.rs:254) |
| `acknowledgeOffer`, `acknowledgeExitOffer`, `acknowledgeRoutingOffer` | receipt_session.rs:1029, 1139 |
-/

namespace MasqMobile

open Fallible

/-- `StreamKey`: a SHA-1 hash. -/
abbrev StreamKey := BitVec 160

def maxReceiptSessionRoutes : Nat := 4096
def maxPendingReceiptResponsesPerRoute : Nat := 64

/-- Half the order of secp256k1: the largest canonical `s`. -/
def secp256k1HalfOrder : Bytes32 := 0x7fffffffffffffffffffffffffffffff5d576e7357a4501ddfe92f46681b20a0#256

structure Chain where
  literalIdentifier : String
  contract : Address
  deriving DecidableEq

/-- receipt_session.rs:33 -/
structure ReceiptSessionConfig where
  chain : Chain
  chainId : Nat
  settlementContract : Address
  payerWalletAddress : Address
  deriving DecidableEq

/-- receipt_session.rs:105 -/
inductive ReceiptSessionManagerError where
  | amount (text : String)
  | duration (seconds : Nat)
  | expired
  | noPendingProposal
  | noActiveSession
  | proposalMismatch
  | receiptObservationMismatch
  | receiptQuoteUnavailable
  | receiptRouteNotFound
  | signature (message : String)
  | persistence (message : String)
  | timeOverflow
  | verification (error : ServiceReceiptError)
  deriving DecidableEq

/-- receipt_session.rs:239 -/
structure RoutingProviderReceiptState where
  serviceRate : Nat
  byteRate : Nat
  observedPayloads : List Nat
  checkpointOpt : Option ReceiptSequenceCheckpoint
  acknowledgedPayloadOpt : Option ServiceReceiptPayload
  deriving DecidableEq

/-- receipt_session.rs:217. An observed response is its sequence, its payload size and its service
units, the requests since the previous response included. -/
structure ReceiptRouteState where
  streamKey : StreamKey
  request : ReceiptSessionRequest
  expectedProviderPublicKeyOpt : Option PublicKey
  exitServiceRateOpt : Option Nat
  exitByteRateOpt : Option Nat
  observedResponses : List (Nat × Nat × Nat)
  pendingRequestPayloadSize : Nat
  pendingRequestServiceUnits : Nat
  checkpointOpt : Option ReceiptSequenceCheckpoint
  acknowledgedPayloadOpt : Option ServiceReceiptPayload
  routingRequestProviders : List PublicKey
  routingResponseProviders : List PublicKey
  routingProviderStates : Finmap fun _ : PublicKey => RoutingProviderReceiptState
  deriving DecidableEq

structure PendingReceiptSession where
  proposalId : String
  policy : ReceiptSessionPolicy
  payerCryptde : CryptDE
  deriving DecidableEq

structure ActiveReceiptSession where
  authorization : AuthorizedReceiptSession
  payerCryptde : CryptDE
  routes : List ReceiptRouteState
  spentChargeWei : Nat
  deriving DecidableEq

/-- Assign to the first route that satisfies `p`. -/
def ActiveReceiptSession.assignRoute (active : ActiveReceiptSession) (p : ReceiptRouteState → Bool)
    (route : ReceiptRouteState) : ActiveReceiptSession :=
  { active with routes := FirstMatch.update p (fun _ => route) active.routes }

/-- receipt_session.rs:202 -/
structure PersistedReceiptSessionHeader where
  authorization : AuthorizedReceiptSession
  payerCryptde : String
  spentChargeWei : Nat
  deriving DecidableEq

/-- The trait `ReceiptSessionRecoveryStore` (receipt_session.rs:254): each operation answers and
leaves the store in some state. -/
class ReceiptSessionRecoveryStore (σ : Type) where
  load : σ → Nat → Except String (Option (PersistedReceiptSessionHeader × List ReceiptRouteState)) × σ
  saveHeader : σ → PersistedReceiptSessionHeader → Except String Unit × σ
  saveHeaderAndRoute : σ → PersistedReceiptSessionHeader → ReceiptRouteState → Except String Unit × σ
  clear : σ → Except String Unit × σ

/-- receipt_session.rs:281 -/
structure ReceiptSessionManager (σ : Type) where
  config : ReceiptSessionConfig
  pendingOpt : Option PendingReceiptSession
  activeOpt : Option ActiveReceiptSession
  recoveryStoreOpt : Option σ
  recoveryRequired : Bool

/-- receipt_session.rs:268 -/
structure RoutingReceiptQuote where
  providerPublicKey : PublicKey
  serviceRate : Nat
  byteRate : Nat
  deriving DecidableEq

/-- receipt_session.rs:41; the EIP-712 JSON, a rendering of `policy`, is left out. -/
structure ReceiptSessionProposal where
  proposalId : String
  chainName : String
  masqTokenContract : Address
  authorizationId : Bytes32
  policy : ReceiptSessionPolicy
  deriving DecidableEq

/-- receipt_session.rs:57: what an active session reports of itself. -/
structure ActiveSessionReport where
  protocolVersion : Nat
  chainName : String
  chainId : Nat
  masqTokenContract : Address
  settlementContract : Address
  payerWalletAddress : Address
  payerSessionPublicKey : PublicKey
  authorizationId : Bytes32
  maxTotalChargeWei : Nat
  spentChargeWei : Nat
  validFromUnixS : Nat
  expiresAtUnixS : Nat
  deriving DecidableEq

/-- `ReceiptSessionStatus`: its fields are all present or all absent. -/
abbrev ReceiptSessionStatus := Option ActiveSessionReport

/-! ## Text -/

def hexDigit (n : Nat) : Char := "0123456789abcdef".toList.getD n '0'

def toHex (bytes : List UInt8) : String :=
  String.ofList (bytes.flatMap fun b => [hexDigit (b.toNat / 16), hexDigit (b.toNat % 16)])

/-- `str::parse::<u128>`: an optional plus sign and at least one decimal digit, in range. -/
def parseU128 (text : String) : Option Nat :=
  let digits := match text.toList with
    | '+' :: rest => rest
    | chars => chars
  if digits ≠ [] ∧ digits.all Char.isDigit then
    let value := digits.foldl (fun n c => 10 * n + (c.toNat - '0'.toNat)) 0
    if value ≤ u128Max then some value else none
  else none

/-- receipt_session.rs:1251 -/
def signatureFromHex (P : Primitives) (input : String) : Except ReceiptSessionManagerError WalletSignature := do
  let unprefixed := match input.toList with
    | '0' :: 'x' :: rest => String.ofList rest
    | chars => String.ofList chars
  let bytes ← mapErr .signature (P.fromHex unprefixed)
  failIf (bytes.length ≠ 65) (.signature s!"expected 65 bytes, received {bytes.length}")
  let word (l : List UInt8) : Bytes32 := BitVec.ofNat 256 (l.foldl (fun n b => 256 * n + b.toNat) 0)
  let r := word (bytes.take 32)
  let s := word ((bytes.drop 32).take 32)
  failIf (r = 0 ∨ s = 0 ∨ s > secp256k1HalfOrder)
    (.signature "r and s must be non-zero and s must use canonical low-s form")
  let v ← match bytes.getD 64 0 with
    | 0 => .ok 0
    | 1 => .ok 1
    | 27 => .ok 0
    | 28 => .ok 1
    | other => .error (.signature s!"recovery ID {other} is not 0, 1, 27 or 28")
  return { v, r, s }

namespace ReceiptSessionManager

variable {σ : Type} [ReceiptSessionRecoveryStore σ] (P : Primitives) {α : Type}

/-! ## Persistence -/

/-- receipt_session.rs:309 -/
def routeState (streamKey : StreamKey) (request : ReceiptSessionRequest) : ReceiptRouteState where
  streamKey := streamKey
  request := request
  expectedProviderPublicKeyOpt := none
  exitServiceRateOpt := none
  exitByteRateOpt := none
  observedResponses := []
  pendingRequestPayloadSize := 0
  pendingRequestServiceUnits := 0
  checkpointOpt := none
  acknowledgedPayloadOpt := none
  routingRequestProviders := []
  routingResponseProviders := []
  routingProviderStates := ∅

/-- receipt_session.rs:327 -/
def persistedHeader (active : ActiveReceiptSession) : PersistedReceiptSessionHeader where
  authorization := active.authorization
  payerCryptde := P.cryptdeToString active.payerCryptde
  spentChargeWei := active.spentChargeWei

variable (m : ReceiptSessionManager σ)

/-- `let _ = store.clear()`: the answer is ignored. -/
def clearStore : ReceiptSessionManager σ :=
  { m with recoveryStoreOpt := m.recoveryStoreOpt.map fun store => (ReceiptSessionRecoveryStore.clear store).2 }

/-- receipt_session.rs:426 -/
def revokeAfterPersistenceError (message : String) : Except ReceiptSessionManagerError Unit × ReceiptSessionManager σ :=
  (.error (.persistence message), clearStore { m with activeOpt := none })

/-- What `persist_header` and `persist_route` share: one call of the store, revocation if it fails. -/
def persistWith (save : σ → Except String Unit × σ) :
    Except ReceiptSessionManagerError Unit × ReceiptSessionManager σ :=
  match m.recoveryStoreOpt with
  | some store =>
    match save store with
    | (.ok (), store) => (.ok (), { m with recoveryStoreOpt := some store })
    | (.error message, store) => revokeAfterPersistenceError { m with recoveryStoreOpt := some store } message
  | none =>
    if m.recoveryRequired then
      revokeAfterPersistenceError m "a database password is required for recoverable sessions"
    else (.ok (), m)

/-- receipt_session.rs:434 -/
def persistHeader : Except ReceiptSessionManagerError Unit × ReceiptSessionManager σ :=
  match m.activeOpt with
  | none => (.ok (), m)
  | some active => m.persistWith fun store => ReceiptSessionRecoveryStore.saveHeader store (persistedHeader P active)

/-- receipt_session.rs:449 -/
def persistRoute (streamKey : StreamKey) : Except ReceiptSessionManagerError Unit × ReceiptSessionManager σ :=
  match m.activeOpt with
  | none => (.ok (), m)
  | some active =>
    match active.routes.find? (·.streamKey = streamKey) with
    | none => (.error .receiptRouteNotFound, m)
    | some route =>
      m.persistWith fun store =>
        ReceiptSessionRecoveryStore.saveHeaderAndRoute store (persistedHeader P active) route

/-! ## The life of a session -/

variable (config : ReceiptSessionConfig)

/-- receipt_session.rs:472 -/
def new : ReceiptSessionManager σ where
  config := config
  pendingOpt := none
  activeOpt := none
  recoveryStoreOpt := none
  recoveryRequired := false

/-- receipt_session.rs:508. `payerCryptde` is the fresh key pair and `authorizationNonce` the random
bytes that the call draws. -/
def propose (maxTotalChargeWei : String) (durationSeconds nowUnixS : Nat)
    (payerCryptde : CryptDE) (authorizationNonce : Bytes32) :
    Except ReceiptSessionManagerError ReceiptSessionProposal × ReceiptSessionManager σ :=
  let policy : Except ReceiptSessionManagerError ReceiptSessionPolicy := do
    let limit ← okOr (parseU128 maxTotalChargeWei) (.amount maxTotalChargeWei)
    failIf (limit = 0 ∨ limit > maxReceiptSessionChargeWei) (.amount (toString limit))
    failIf (¬(minReceiptSessionDurationSeconds ≤ durationSeconds ∧
      durationSeconds ≤ maxReceiptSessionDurationSeconds)) (.duration durationSeconds)
    let expiresAtUnixS ← okOr (checkedAdd 64 nowUnixS durationSeconds) .timeOverflow
    failIf (authorizationNonce = 0) (.signature "secure nonce generation returned an invalid value")
    let policy : ReceiptSessionPolicy :=
      { protocolVersion := serviceReceiptProtocolVersion, chainId := m.config.chainId,
        settlementContract := m.config.settlementContract, payerWalletAddress := m.config.payerWalletAddress,
        payerSessionPublicKey := payerCryptde.publicKey, maxTotalChargeWei := limit,
        validFromUnixS := nowUnixS, expiresAtUnixS, authorizationNonce }
    -- the typed data of the proposal is refused for a malformed policy
    mapErr .verification policy.validateStructure
    return policy
  match policy with
  | .error e => (.error e, m)
  | .ok policy =>
    let proposalId := "0x" ++ toHex (wordBytes authorizationNonce)
    (.ok { proposalId, chainName := m.config.chain.literalIdentifier, masqTokenContract := m.config.chain.contract,
           authorizationId := receiptSessionContractId P policy.payerWalletAddress policy.authorizationNonce,
           policy },
     { m with pendingOpt := some { proposalId, policy, payerCryptde } })

/-- The first half of `status` (receipt_session.rs:627): an expired session is dropped. -/
def expire (nowUnixS : Nat) : ReceiptSessionManager σ :=
  match m.activeOpt with
  | some active =>
    if nowUnixS > active.authorization.policy.expiresAtUnixS then clearStore { m with activeOpt := none } else m
  | none => m

/-- The second half of `status` (receipt_session.rs:638). -/
def report (nowUnixS : Nat) : ReceiptSessionStatus :=
  match m.activeOpt with
  | some active =>
    let policy := active.authorization.policy
    if nowUnixS ≤ policy.expiresAtUnixS then
      some { protocolVersion := policy.protocolVersion, chainName := m.config.chain.literalIdentifier,
             chainId := policy.chainId, masqTokenContract := m.config.chain.contract,
             settlementContract := policy.settlementContract, payerWalletAddress := policy.payerWalletAddress,
             payerSessionPublicKey := active.payerCryptde.publicKey,
             authorizationId := receiptSessionContractId P policy.payerWalletAddress policy.authorizationNonce,
             maxTotalChargeWei := policy.maxTotalChargeWei, spentChargeWei := active.spentChargeWei,
             validFromUnixS := policy.validFromUnixS, expiresAtUnixS := policy.expiresAtUnixS }
    else none
  | none => none

/-- receipt_session.rs:626 -/
def status (nowUnixS : Nat) : ReceiptSessionStatus × ReceiptSessionManager σ :=
  ((m.expire nowUnixS).report P nowUnixS, m.expire nowUnixS)

/-- receipt_session.rs:1242 -/
def stop : ReceiptSessionStatus × ReceiptSessionManager σ :=
  (none, clearStore { m with pendingOpt := none, activeOpt := none })

/-- receipt_session.rs:570 -/
def activate (proposalId walletSignature : String) (nowUnixS : Nat) :
    Except ReceiptSessionManagerError ReceiptSessionStatus × ReceiptSessionManager σ :=
  match m.pendingOpt with
  | none => (.error .noPendingProposal, m)
  | some pending =>
    if pending.proposalId ≠ proposalId then (.error .proposalMismatch, m)
    else if nowUnixS > pending.policy.expiresAtUnixS then (.error .expired, { m with pendingOpt := none })
    else
      let authorization : Except ReceiptSessionManagerError AuthorizedReceiptSession := do
        let signature ← signatureFromHex P walletSignature
        let authorization := { policy := pending.policy, walletSignature := signature }
        mapErr .verification (AuthorizedReceiptSession.verify P authorization m.config.chainId
          m.config.settlementContract pending.policy.payerSessionPublicKey nowUnixS 0)
        return authorization
      match authorization with
      | .error e => (.error e, m)
      | .ok authorization =>
        -- the previous session's recovery data goes first, and nothing is activated if it stays
        let cleared : Except ReceiptSessionManagerError Unit × Option σ :=
          match m.recoveryStoreOpt with
          | some store =>
            let answer := ReceiptSessionRecoveryStore.clear store
            (mapErr .persistence answer.1, some answer.2)
          | none =>
            if m.recoveryRequired then
              (.error (.persistence "a database password is required for recoverable sessions"), none)
            else (.ok (), none)
        match cleared with
        | (.error e, storeOpt) => (.error e, { m with recoveryStoreOpt := storeOpt })
        | (.ok (), storeOpt) =>
          let activated := { m with
            pendingOpt := none
            activeOpt := some { authorization, payerCryptde := pending.payerCryptde, routes := [], spentChargeWei := 0 }
            recoveryStoreOpt := storeOpt }
          match persistHeader P activated with
          | (.error e, m) => (.error e, m)
          | (.ok (), m) => (.ok (m.status P nowUnixS).1, (m.status P nowUnixS).2)

/-! ## Operations on the active session -/

/-- How an operation on the active session ends: with an error, with a result that needs no saving,
or with a result after which the stream's route is persisted. -/
inductive Outcome (α : Type) where
  | fail (error : ReceiptSessionManagerError) (active : ActiveReceiptSession)
  | done (result : α) (active : ActiveReceiptSession)
  | persist (streamKey : StreamKey) (result : α) (active : ActiveReceiptSession)

def settle : Outcome α → Except ReceiptSessionManagerError α × ReceiptSessionManager σ
  | .fail e active => (.error e, { m with activeOpt := some active })
  | .done result active => (.ok result, { m with activeOpt := some active })
  | .persist streamKey result active =>
    match persistRoute P { m with activeOpt := some active } streamKey with
    | (.ok (), m) => (.ok result, m)
    | (.error e, m) => (.error e, m)

/-- Every operation first expires the session (`self.status(now_unix_s)`); without one it answers
`absent`. -/
def onActive (nowUnixS : Nat) (absent : Except ReceiptSessionManagerError α)
    (operation : ActiveReceiptSession → Outcome α) :
    Except ReceiptSessionManagerError α × ReceiptSessionManager σ :=
  let m := m.expire nowUnixS
  match m.activeOpt with
  | none => (absent, m)
  | some active => settle P m (operation active)

/-- receipt_session.rs:290; `routeEpoch` is what `random` filled in. -/
def freshRouteRequest (active : ActiveReceiptSession) (routeEpoch : Bytes32) :
    Except ReceiptSessionManagerError ReceiptSessionRequest := do
  failIf (routeEpoch = 0 ∨ active.routes.any (·.request.routeEpoch = routeEpoch))
    (.signature "secure route-epoch generation returned an invalid value")
  mapErr .verification (ReceiptSessionRequest.new P active.authorization routeEpoch)

def openRoute (active : ActiveReceiptSession) (streamKey : StreamKey) (routeEpoch : Bytes32) :
    Outcome (Option ReceiptSessionRequest) :=
  match active.routes.find? (·.streamKey = streamKey) with
  | some route => .done (some route.request) active
  | none =>
    if active.routes.length ≥ maxReceiptSessionRoutes then
      .fail (.signature "receipt session reached its route limit") active
    else
      match freshRouteRequest P active routeEpoch with
      | .error e => .fail e active
      | .ok request =>
        .persist streamKey (some request)
          { active with routes := active.routes ++ [routeState streamKey request] }

variable (streamKey : StreamKey)

/-- receipt_session.rs:667 -/
def requestForStream (routeEpoch : Bytes32) (nowUnixS : Nat) :
    Except ReceiptSessionManagerError (Option ReceiptSessionRequest) × ReceiptSessionManager σ :=
  m.onActive P nowUnixS (.ok none) fun active => openRoute P active streamKey routeEpoch

def rotateRoute (active : ActiveReceiptSession) (streamKey : StreamKey) (routeEpoch : Bytes32) :
    Outcome (Option ReceiptSessionRequest) :=
  match freshRouteRequest P active routeEpoch with
  | .error e => .fail e active
  | .ok replacement =>
    match active.routes.find? (·.streamKey = streamKey) with
    | some _ =>
      .persist streamKey (some replacement)
        (active.assignRoute (·.streamKey = streamKey) (routeState streamKey replacement))
    | none =>
      if active.routes.length < maxReceiptSessionRoutes then
        .persist streamKey (some replacement)
          { active with routes := active.routes ++ [routeState streamKey replacement] }
      else .fail (.signature "receipt session reached its route limit") active

/-- receipt_session.rs:700: the route state is replaced, the session's budget stays. -/
def rotateRouteForStream (routeEpoch : Bytes32)
    (nowUnixS : Nat) : Except ReceiptSessionManagerError (Option ReceiptSessionRequest) × ReceiptSessionManager σ :=
  m.onActive P nowUnixS (.ok none) fun active => rotateRoute P active streamKey routeEpoch

/-- How an operation on one route ends; a rejected one may leave the route changed. -/
inductive RouteUpdate where
  | reject (error : ReceiptSessionManagerError) (route : ReceiptRouteState)
  | keep
  | save (route : ReceiptRouteState)

/-- Find the route of a stream, update it and assign it back. -/
def updateRoute (update : ReceiptRouteState → RouteUpdate) (active : ActiveReceiptSession) : Outcome Unit :=
  match active.routes.find? (·.streamKey = streamKey) with
  | none => .fail .receiptRouteNotFound active
  | some route =>
    match update route with
    | .reject e route => .fail e (active.assignRoute (·.streamKey = streamKey) route)
    | .keep => .done () active
    | .save route => .persist streamKey () (active.assignRoute (·.streamKey = streamKey) route)

def onRoute (nowUnixS : Nat)
    (update : ReceiptRouteState → RouteUpdate) : Except ReceiptSessionManagerError Unit × ReceiptSessionManager σ :=
  m.onActive P nowUnixS (.error .noActiveSession) (updateRoute streamKey update)

def bindExit (route : ReceiptRouteState) (providerPublicKey : PublicKey) (exitServiceRate exitByteRate : Nat) :
    RouteUpdate :=
  match route.expectedProviderPublicKeyOpt, route.exitServiceRateOpt, route.exitByteRateOpt with
  | none, none, none =>
    .save { route with
      expectedProviderPublicKeyOpt := some providerPublicKey
      exitServiceRateOpt := some exitServiceRate
      exitByteRateOpt := some exitByteRate }
  | some existingProvider, some existingServiceRate, some existingByteRate =>
    if existingProvider = providerPublicKey ∧ existingServiceRate = exitServiceRate ∧
        existingByteRate = exitByteRate then .keep
    else .reject (.verification .providerPublicKeyMismatch) route
  | _, _, _ => .reject (.verification .providerPublicKeyMismatch) route

/-- receipt_session.rs:742 -/
def bindExitQuote (providerPublicKey : PublicKey) (exitServiceRate exitByteRate nowUnixS : Nat) :
    Except ReceiptSessionManagerError Unit × ReceiptSessionManager σ :=
  m.onRoute P streamKey nowUnixS fun route => bindExit route providerPublicKey exitServiceRate exitByteRate

/-- The loop of `bind_routing_quotes` (receipt_session.rs:829) that collects one state per provider;
two quotes of one provider must agree. -/
def collectProviderStates (states : Finmap fun _ : PublicKey => RoutingProviderReceiptState) :
    List RoutingReceiptQuote →
      Except ReceiptSessionManagerError (Finmap fun _ : PublicKey => RoutingProviderReceiptState)
  | [] => .ok states
  | quote :: quotes =>
    match states.lookup quote.providerPublicKey with
    | some existing =>
      if existing.serviceRate ≠ quote.serviceRate ∨ existing.byteRate ≠ quote.byteRate then
        .error .receiptQuoteUnavailable
      else collectProviderStates states quotes
    | none =>
      collectProviderStates (states.insert quote.providerPublicKey
        { serviceRate := quote.serviceRate, byteRate := quote.byteRate, observedPayloads := [],
          checkpointOpt := none, acknowledgedPayloadOpt := none }) quotes

def bindRouting (route : ReceiptRouteState) (requestQuotes responseQuotes : List RoutingReceiptQuote) : RouteUpdate :=
  let requestProviders := requestQuotes.map (·.providerPublicKey)
  let responseProviders := responseQuotes.map (·.providerPublicKey)
  let disagrees (quote : RoutingReceiptQuote) : Bool :=
    match route.routingProviderStates.lookup quote.providerPublicKey with
    | some state => decide (state.serviceRate ≠ quote.serviceRate ∨ state.byteRate ≠ quote.byteRate)
    | none => true
  if route.routingProviderStates ≠ ∅ then
    if route.routingRequestProviders ≠ requestProviders ∨ route.routingResponseProviders ≠ responseProviders ∨
        (requestQuotes ++ responseQuotes).any disagrees then .reject .receiptQuoteUnavailable route
    else .keep
  else
    match collectProviderStates ∅ (requestQuotes ++ responseQuotes) with
    | .error e => .reject e route
    | .ok providerStates =>
      .save { route with
        routingRequestProviders := requestProviders
        routingResponseProviders := responseProviders
        routingProviderStates := providerStates }

/-- receipt_session.rs:784 -/
def bindRoutingQuotes (requestQuotes responseQuotes : List RoutingReceiptQuote) (nowUnixS : Nat) :
    Except ReceiptSessionManagerError Unit × ReceiptSessionManager σ :=
  m.onRoute P streamKey nowUnixS fun route => bindRouting route requestQuotes responseQuotes

/-- One iteration of the recording loop: `get_mut(&provider)` and `push_back`. -/
def pushPayload (payloadSize : Nat) (states : Finmap fun _ : PublicKey => RoutingProviderReceiptState)
    (provider : PublicKey) : Finmap fun _ : PublicKey => RoutingProviderReceiptState :=
  match states.lookup provider with
  | some state => states.insert provider { state with observedPayloads := state.observedPayloads ++ [payloadSize] }
  | none => states

/-- receipt_session.rs:860: all providers are checked first, then each gets the payload, a provider
that occurs twice gets it twice. -/
def recordRoutingPayload (route : ReceiptRouteState) (providers : List PublicKey) (payloadSize : Nat) : RouteUpdate :=
  let full (provider : PublicKey) : Bool :=
    match route.routingProviderStates.lookup provider with
    | some state => decide (state.observedPayloads.length ≥ maxPendingReceiptResponsesPerRoute)
    | none => true
  if providers.any full then .reject .receiptObservationMismatch route
  else .save { route with routingProviderStates := providers.foldl (pushPayload payloadSize) route.routingProviderStates }

/-- receipt_session.rs:887 -/
def recordRoutingRequest (payloadSize nowUnixS : Nat) :
    Except ReceiptSessionManagerError Unit × ReceiptSessionManager σ :=
  m.onRoute P streamKey nowUnixS fun route => recordRoutingPayload route route.routingRequestProviders payloadSize

/-- receipt_session.rs:906 -/
def recordRoutingResponse (payloadSize nowUnixS : Nat) :
    Except ReceiptSessionManagerError Unit × ReceiptSessionManager σ :=
  m.onRoute P streamKey nowUnixS fun route => recordRoutingPayload route route.routingResponseProviders payloadSize

def observeResponse (route : ReceiptRouteState) (sequence payloadSize : Nat) : RouteUpdate :=
  if (∃ checkpoint ∈ route.checkpointOpt, sequence ≤ checkpoint.lastSequence) ∨
      route.observedResponses.length ≥ maxPendingReceiptResponsesPerRoute then
    .reject .receiptObservationMismatch route
  else if route.observedResponses.any (·.1 = sequence) then .reject .receiptObservationMismatch route
  else
    match checkedAdd 64 route.pendingRequestPayloadSize payloadSize,
        checkedAdd 64 route.pendingRequestServiceUnits 1 with
    | some aggregatePayloadSize, some aggregateServiceUnits =>
      .save { route with
        observedResponses := route.observedResponses ++ [(sequence, aggregatePayloadSize, aggregateServiceUnits)]
        pendingRequestPayloadSize := 0
        pendingRequestServiceUnits := 0 }
    | _, _ => .reject .receiptObservationMismatch route

/-- receipt_session.rs:948 -/
def recordExitResponse (sequence payloadSize nowUnixS : Nat) :
    Except ReceiptSessionManagerError Unit × ReceiptSessionManager σ :=
  m.onRoute P streamKey nowUnixS fun route => observeResponse route sequence payloadSize

def observeRequest (route : ReceiptRouteState) (payloadSize : Nat) : RouteUpdate := if payloadSize = 0 then .keep
  else
    match checkedAdd 64 route.pendingRequestPayloadSize payloadSize with
    | none => .reject .receiptObservationMismatch route
    | some size =>
      -- the size is already assigned when the units overflow
      match checkedAdd 64 route.pendingRequestServiceUnits 1 with
      | none => .reject .receiptObservationMismatch { route with pendingRequestPayloadSize := size }
      | some units => .save { route with pendingRequestPayloadSize := size, pendingRequestServiceUnits := units }

/-- receipt_session.rs:999 -/
def recordExitRequest (payloadSize nowUnixS : Nat) : Except ReceiptSessionManagerError Unit × ReceiptSessionManager σ :=
  m.onRoute P streamKey nowUnixS fun route => observeRequest route payloadSize

/-! ## Acknowledging an offer -/

/-- The second half of both `acknowledge_offer` (receipt_session.rs:1084) and
`acknowledge_routing_offer` (receipt_session.rs:1181): countersign, move the checkpoint and charge the
difference to the session. -/
def countersign (active : ActiveReceiptSession)
    (checkpointOpt : Option ReceiptSequenceCheckpoint) (signedReceipt : SignedServiceReceipt) (nowUnixS : Nat) :
    Except ReceiptSessionManagerError (ReceiptSequenceCheckpoint × ServiceReceiptPayload × Nat) := do
  let acknowledgedReceipt ← mapErr .verification (signedReceipt.acknowledge P active.payerCryptde)
  let _ ← mapErr .verification (active.authorization.verifyForReceipt P acknowledgedReceipt active.payerCryptde
    config.chainId config.settlementContract nowUnixS)
  let checkpoint ← mapErr .verification
    (match checkpointOpt with
    | some existing => existing.advance P acknowledgedReceipt active.payerCryptde
    | none => ReceiptSequenceCheckpoint.begin P acknowledgedReceipt active.payerCryptde)
  let previousCharge := (checkpointOpt.map (·.cumulativeChargeWei)).getD 0
  let delta ← okOr (checkedSub checkpoint.cumulativeChargeWei previousCharge) (.verification .cumulativeChargeMismatch)
  let spentChargeWei ← okOr (checkedAdd 128 active.spentChargeWei delta) (.verification .amountLimitExceeded)
  failIf (spentChargeWei > active.authorization.policy.maxTotalChargeWei) (.verification .amountLimitExceeded)
  return (checkpoint, { authorization := active.authorization, acknowledgedReceipt }, spentChargeWei)

/-- The stored payload, if the offer is the one it acknowledged. -/
def replay (acknowledgedPayloadOpt : Option ServiceReceiptPayload) (signedReceipt : SignedServiceReceipt) :
    Option ServiceReceiptPayload :=
  acknowledgedPayloadOpt.filter fun payload => payload.acknowledgedReceipt.signedReceipt = signedReceipt

/-- The exit offer must name the quoted provider and rates and match the oldest observed response. -/
def checkExitOffer (route : ReceiptRouteState) (offered : ServiceReceipt) : Except ReceiptSessionManagerError Unit := do
  let expectedProvider ← okOr route.expectedProviderPublicKeyOpt .receiptQuoteUnavailable
  let expectedServiceRate ← okOr route.exitServiceRateOpt .receiptQuoteUnavailable
  let expectedByteRate ← okOr route.exitByteRateOpt .receiptQuoteUnavailable
  let expectedResponse ← okOr route.observedResponses.head? .receiptObservationMismatch
  failIf (offered.providerPublicKey ≠ expectedProvider) (.verification .providerPublicKeyMismatch)
  failIf (offered.serviceKind ≠ .exit ∨ offered.serviceRate ≠ expectedServiceRate ∨
    offered.byteRate ≠ expectedByteRate ∨ offered.sequence ≠ expectedResponse.1 ∨
    offered.payloadSize ≠ expectedResponse.2.1 ∨ offered.serviceUnits ≠ expectedResponse.2.2)
    .receiptObservationMismatch

def acknowledgeExitOffer (active : ActiveReceiptSession)
    (signedReceipt : SignedServiceReceipt) (nowUnixS : Nat) : Outcome ServiceReceiptPayload :=
  match active.routes.find? (·.request.routeEpoch = signedReceipt.receipt.routeEpoch) with
  | none => .fail .receiptRouteNotFound active
  | some route =>
    match replay route.acknowledgedPayloadOpt signedReceipt with
    | some payload => .done payload active
    | none =>
      match (do checkExitOffer route signedReceipt.receipt
                countersign P config active route.checkpointOpt signedReceipt nowUnixS) with
      | .error e => .fail e active
      | .ok (checkpoint, payload, spentChargeWei) =>
        let acknowledged := { route with
          checkpointOpt := some checkpoint
          acknowledgedPayloadOpt := some payload
          observedResponses := route.observedResponses.tail }
        .persist route.streamKey payload
          { active.assignRoute (·.request.routeEpoch = signedReceipt.receipt.routeEpoch) acknowledged with
            spentChargeWei }

/-- receipt_session.rs:1165: the sequence after the last acknowledged one, 1 on a new stream. -/
def expectedSequence (checkpointOpt : Option ReceiptSequenceCheckpoint) : Except ReceiptSessionManagerError Nat :=
  match checkpointOpt with
  | some checkpoint => okOr (checkedAdd 64 checkpoint.lastSequence 1) .receiptObservationMismatch
  | none => .ok 1

/-- The routing offer must carry the next sequence, the quoted rates and the oldest observed payload. -/
def checkRoutingOffer (state : RoutingProviderReceiptState) (offered : ServiceReceipt) :
    Except ReceiptSessionManagerError Unit := do
  let expectedPayloadSize ← okOr state.observedPayloads.head? .receiptObservationMismatch
  let sequence ← expectedSequence state.checkpointOpt
  failIf (offered.serviceKind ≠ .routing ∨ offered.serviceRate ≠ state.serviceRate ∨
    offered.byteRate ≠ state.byteRate ∨ offered.sequence ≠ sequence ∨
    offered.payloadSize ≠ expectedPayloadSize ∨ offered.serviceUnits ≠ 1) .receiptObservationMismatch

/-- receipt_session.rs:1139 -/
def acknowledgeRoutingOffer (active : ActiveReceiptSession)
    (signedReceipt : SignedServiceReceipt) (nowUnixS : Nat) : Outcome ServiceReceiptPayload :=
  let provider := signedReceipt.receipt.providerPublicKey
  match active.routes.find? (·.request.routeEpoch = signedReceipt.receipt.routeEpoch) with
  | none => .fail .receiptRouteNotFound active
  | some route =>
    match route.routingProviderStates.lookup provider with
    | none => .fail .receiptQuoteUnavailable active
    | some state =>
      match replay state.acknowledgedPayloadOpt signedReceipt with
      | some payload => .done payload active
      | none =>
        match (do checkRoutingOffer state signedReceipt.receipt
                  countersign P config active state.checkpointOpt signedReceipt nowUnixS) with
        | .error e => .fail e active
        | .ok (checkpoint, payload, spentChargeWei) =>
          let acknowledged := { state with
            checkpointOpt := some checkpoint
            acknowledgedPayloadOpt := some payload
            observedPayloads := state.observedPayloads.tail }
          .persist route.streamKey payload
            { active.assignRoute (·.request.routeEpoch = signedReceipt.receipt.routeEpoch)
                { route with routingProviderStates := route.routingProviderStates.insert provider acknowledged } with
              spentChargeWei }

/-- receipt_session.rs:1029 -/
def acknowledgeOffer (signedReceipt : SignedServiceReceipt) (nowUnixS : Nat) :
    Except ReceiptSessionManagerError ServiceReceiptPayload × ReceiptSessionManager σ :=
  m.onActive P nowUnixS (.error .noActiveSession) fun active =>
    if signedReceipt.receipt.serviceKind = .routing then
      acknowledgeRoutingOffer P m.config active signedReceipt nowUnixS
    else acknowledgeExitOffer P m.config active signedReceipt nowUnixS

end ReceiptSessionManager

end MasqMobile
