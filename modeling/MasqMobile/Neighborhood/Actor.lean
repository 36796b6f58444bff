import MasqMobile.Neighborhood.Acceptor
import MasqMobile.Neighborhood.Routing

/-!
# The Neighborhood actor

The part of `Neighborhood` (`node/src/neighborhood/mod.rs`) that changes the database and the exit preferences and sends
gossip: incoming gossip, the loss of neighbors, a new public address, debuts to initial nodes, and the UI's requests
about exit countries and hops. One message is one `step`; a message whose handling panics has no step.

Gossip to other Nodes is kept in `sent` in the order in which it is handed to the Hopper, whose errors are logged;
refusals of a debut are left out. Of what goes to other actors the start of the Accountant is modelled, where failing
to send is a panic; the UI gateway is taken to be bound and alive. The connection stage is shown to the UI and left
out with it. Of a route only the keys are kept: its hops are encrypted to them, which works for keys of the right
length. -/

namespace MasqMobile

open Fallible Lists NeighborhoodDatabase CryptDEReal

/-! ## State -/

/-- sub_lib/neighborhood.rs:508 -/
structure Hops where
  value : Nat
  one_le : 1 ≤ value
  le_six : value ≤ 6
  deriving DecidableEq

/-- sub_lib/wallet.rs:38 -/
inductive WalletKind where
  | address
  | secretKey
  | publicKey
  | uninitialized
  deriving DecidableEq

/-- The Accountant's mailbox: not bound yet, closed, or open. -/
inductive Mailbox where
  | unbound
  | dead
  | alive
  deriving DecidableEq

/-- A gossip message that is sent, with what the Node's own record said at the time. -/
structure SentGossip where
  target : PublicKey
  gossip : Gossip
  root : NodeRecordInner
  deriving DecidableEq

structure Neighborhood where
  isZeroHop : Bool
  acceptor : GossipAcceptorReal
  lastDeadNodeCheck : Nat
  database : NeighborhoodDatabase
  preferences : UserExitPreferences
  minHops : Hops
  dbPatchSize : Nat
  hasDbPassword : Bool
  consumingWalletOpt : Option WalletKind
  topologyRouteAvailable : Bool
  accountantStarted : Bool
  accountant : Mailbox
  sent : List SentGossip := []

/-- What a handler finds in its surroundings: the time, the order of hash sets, random choices and the peers that the
Node is connecting to. -/
structure Moment where
  now : Nat
  hashOrder : NeighborOrder
  pickOver : Nat
  pickBack : Nat
  connectionProgressPeers : List IpAddr

namespace Neighborhood

variable (C : GossipPrimitives) (m : Moment)

/-! ## Routes -/

def responseUndesirabilityFactor : Nat := 1000

/-- The calls of `Wallet::as_payer` (sub_lib/wallet.rs:196) for the hops of a route, the first of which is for its first
key. -/
def asPayer (consumingWalletOpt : Option WalletKind) (keys : List PublicKey) : Except NeighborhoodPanic Unit :=
  failIf (∃ kind ∈ consumingWalletOpt, kind ≠ .secretKey) (.cannotSign (keys.headD []))

/-- mod.rs:1426; an `Err` of the source is `none`. -/
def composeRouteQueryResponse (overRoute back : List PublicKey) (n : Neighborhood) :
    Except NeighborhoodPanic (Option (List PublicKey × List PublicKey)) :=
  if overRoute = [] ∨ back = [] then .ok none
  else if n.consumingWalletOpt.isNone ∧ (overRoute.length > 2 ∨ back.length > 2) then .ok none
  else if ¬ ∀ key ∈ overRoute ++ back, (n.database.nodeByKey key).isSome then .ok none
  else do
    failIf (overRoute.getLast? ≠ back.head?) .badRoute
    asPayer n.consumingWalletOpt overRoute
    failIf (¬ ∀ key ∈ overRoute ++ back, encodesTo key) .badRoute
    return some (overRoute, back)

variable (n : Neighborhood)

/-- mod.rs:1368 for the query of `search_for_a_new_route` (mod.rs:1224). -/
def makeRoundTripRoute : Except NeighborhoodPanic (Option (List PublicKey × List PublicKey)) := do
  let payloadSize := 10000
  let overQuery : RouteQuery := ⟨none, payloadSize, .over, "booga.com", 0⟩
  match ← findBestRouteSegment n.database n.preferences overQuery m.hashOrder m.pickOver n.database.thisNode
      n.minHops.value with
  | none => return none
  | some overRoute =>
    match overRoute.getLast? with
    | none => .error .emptySegment
    | some exit =>
      let anticipatedResponsePayloadLen := saturatingMulU64 payloadSize responseUndesirabilityFactor
      let backQuery : RouteQuery :=
        ⟨some n.database.thisNode, anticipatedResponsePayloadLen, .back, "booga.com", 0⟩
      match ← findBestRouteSegment n.database n.preferences backQuery m.hashOrder m.pickBack exit n.minHops.value with
      | none => return none
      | some back => composeRouteQueryResponse overRoute back n

/-- mod.rs:764; the route of a Node in zero-hop mode leads to itself. -/
def routeExists : Except NeighborhoodPanic Bool := if n.isZeroHop then do
    failIf (¬ encodesTo n.database.thisNode) .zeroHopRoute
    return true
  else do
    let routeOpt ← makeRoundTripRoute m n
    return routeOpt.isSome

/-- mod.rs:1172 -/
def startAccountantIfNeeded : Except NeighborhoodPanic Neighborhood := if n.accountantStarted then .ok n
  else
    match n.accountant with
    | .unbound => .error .accountantUnbound
    | .dead => .error .accountantDead
    | .alive => .ok { n with accountantStarted := true }

/-- mod.rs:1219 -/
def searchForANewRoute : Except NeighborhoodPanic Neighborhood := do
  if ← routeExists m n then startAccountantIfNeeded { n with topologyRouteAvailable := true }
  else return { n with topologyRouteAvailable := false }

/-- mod.rs:1134 -/
def checkConnectedness : Except NeighborhoodPanic Neighborhood :=
  if n.topologyRouteAvailable then .ok n else searchForANewRoute m n

/-- mod.rs:2323 -/
def initDbCountries : Except NeighborhoodPanic (List String) := do
  let exitNodes ← findExitLocations n.database n.preferences m.hashOrder n.database.thisNode n.minHops.value
  let codes := exitNodes.filterMap fun key => (n.database.nodeByKey key).bind (·.inner.countryCodeOpt)
  return dedupBy id (sortBy id codes)

/-! ## Gossip -/

/-- mod.rs:1278 and 2343: hands gossip to the Hopper. -/
def send (target : PublicKey) (gossip : Gossip) (n : Neighborhood) : Neighborhood :=
  { n with sent := n.sent ++ [⟨target, gossip, n.database.root.inner⟩] }

/-- One turn of the loop of mod.rs:1268. -/
def gossipToNeighbor (neighbor : PublicKey) : Except NeighborhoodPanic Neighborhood := do
  let (gossipOpt, database, lastDeadNodeCheck) ←
    GossipProducerReal.produce m.now n.lastDeadNodeCheck n.database neighbor
  let n := { n with database, lastDeadNodeCheck }
  return match gossipOpt with
    | none => n
    | some gossip => n.send neighbor gossip

/-- mod.rs:1257 -/
def gossipToNeighbors : Except NeighborhoodPanic Neighborhood :=
  let n := { n with database := n.database.modifyRoot (NodeRecord.regenerateSignedGossip C) }
  n.database.root.inner.neighbors.foldlM (gossipToNeighbor m) n

/-- mod.rs:854 to the initial nodes, and mod.rs:465 to one that is tried again. -/
def sendDebutGossip (targets : List PublicKey) (n : Neighborhood) : Except NeighborhoodPanic Neighborhood :=
  if targets = [] then .ok n
  else do
    let gossip ← GossipProducerReal.produceDebut n.database
    return targets.foldl (fun n target => n.send target gossip) n

/-- What is done about one result of the acceptor (mod.rs:1056). -/
def handleResult : GossipAcceptanceResult → Except NeighborhoodPanic Neighborhood
  | .accepted => do
    let dbCountries ← initDbCountries m n
    gossipToNeighbors C m { n with preferences.dbCountries := dbCountries }
  | .reply nextDebut targetKey _ =>
    if n.minHops.value = 1 then do
      let dbCountries ← initDbCountries m n
      return send targetKey nextDebut { n with preferences.dbCountries := dbCountries }
    else .ok (n.send targetKey nextDebut)
  | .failed _ _ _ => .ok n
  | .ban _ => .ok n

/-- mod.rs:1031 -/
def handleAgrs (agrs : List AccessibleGossipRecord) (gossipSource : SocketAddr) (n : Neighborhood) :
    Except NeighborhoodPanic Neighborhood := do
  let metadata : NeighborhoodMetadata := ⟨m.connectionProgressPeers, n.dbPatchSize, some n.preferences⟩
  let (handled, acceptor) ← n.acceptor.handle C m.now n.database agrs gossipSource metadata
  handled.results.foldlM (handleResult C m) { n with database := handled.database, acceptor }

/-- mod.rs:1098: a descriptor is cut out of each neighbor's key. -/
def curatePastNeighbors (neighborKeys : List PublicKey) (n : Neighborhood) : Except NeighborhoodPanic Unit :=
  if n.hasDbPassword then
    neighborKeys.forM fun key =>
      failIf (key.length < publicKeyBytes) (.descriptorKey key.length)
  else .ok ()

/-- mod.rs:1022 -/
def neighborKeys : List PublicKey := n.database.fullNeighborKeys n.database.root

/-- mod.rs:1010 and 1082; two sets of neighbors are the same if they have the same elements. -/
def handleGossipAgrs (agrs : List AccessibleGossipRecord) (gossipSource : SocketAddr) (n : Neighborhood) :
    Except NeighborhoodPanic Neighborhood := do
  let n' ← handleAgrs C m agrs gossipSource n
  if ¬ (n.neighborKeys ⊆ n'.neighborKeys ∧ n'.neighborKeys ⊆ n.neighborKeys) then
    curatePastNeighbors n'.neighborKeys n'
  checkConnectedness m n'

/-- `AccessibleGossipRecord::try_from` (gossip.rs:513) -/
def accessible (gnr : GossipNodeRecord) : Option AccessibleGossipRecord :=
  (C.fromCbor gnr.signedData).map fun inner => ⟨gnr.signedData, gnr.signature, gnr.nodeAddrOpt, inner⟩

/-- Whether some signature is invalid; the records after it are not looked at (mod.rs:943). -/
def anySignatureInvalid : List AccessibleGossipRecord → Except NeighborhoodPanic Bool
  | [] => .ok false
  | agr :: agrs => do
    if ← verifySignature C agr.signedGossip agr.signature agr.inner.publicKey then anySignatureInvalid agrs
    else return true

/-- mod.rs:909 -/
def handleGossip (incomingGossip : Gossip) (gossipSource : SocketAddr) (n : Neighborhood) :
    Except NeighborhoodPanic Neighborhood := do
  let agrs := incomingGossip.filterMap (accessible C)
  if agrs.length < incomingGossip.length then return n
  if ← anySignatureInvalid C agrs then return n
  handleGossipAgrs C m agrs gossipSource n

/-! ## Neighbors and addresses -/

/-- mod.rs:1140, of which the stage is left out. -/
def invalidateRouteAfterNeighborLoss : Except NeighborhoodPanic Neighborhood :=
  let n := { n with topologyRouteAvailable := false }
  if n.accountant ≠ .unbound then checkConnectedness m n else .ok n

/-- What follows the removal of a neighbor from the database. -/
def afterRemoval (dbChanged : Bool) (n : Neighborhood) : Except NeighborhoodPanic Neighborhood := if dbChanged then do
    let n ← invalidateRouteAfterNeighborLoss m n
    gossipToNeighbors C m n
  else .ok n

/-- mod.rs:314 -/
def removeNeighborMessage (publicKey : PublicKey) (n : Neighborhood) : Except NeighborhoodPanic Neighborhood :=
  match n.database.removeNeighbor publicKey with
  | .error _ => .ok n
  | .ok (dbChanged, database) => afterRemoval C m dbChanged { n with database }

/-- mod.rs:2440 and 2507, for a clandestine stream. -/
def streamShutdown (peerIp : IpAddr) (n : Neighborhood) : Except NeighborhoodPanic Neighborhood :=
  match n.database.nodeByIp peerIp with
  | none => .ok n
  | some node =>
    match n.database.removeNeighbor node.publicKey with
    | .error _ => .error .neighborDisappeared
    | .ok (dbChanged, database) => afterRemoval C m dbChanged { n with database }

/-- mod.rs:747 and 757 -/
def newPublicIpMessage (newIp : IpAddr) (n : Neighborhood) : Except NeighborhoodPanic Neighborhood := do
  let database ← n.database.newPublicIp newIp
  return { n with database := database.modifyRoot fun root =>
    { root with inner.countryCodeOpt := C.findCountry newIp } }

/-! ## Exit countries -/

/-- The request of the UI (masq_lib/src/messages.rs:1561). -/
structure UiSetExitLocationRequest where
  fallbackRouting : Bool
  exitLocations : List ExitLocation
  showCountries : Bool

/-- One turn of the loop of mod.rs:2288. -/
def synchronizeExitCountry (p : UserExitPreferences) (code : String) : UserExitPreferences :=
  if code ∈ p.dbCountries ∨ p.fallbackPreference = .exitCountryWithFallback then
    if code ∈ p.exitCountries then p else { p with exitCountries := p.exitCountries ++ [code] }
  else { p with exitCountries := p.exitCountries.erase code }

/-- mod.rs:2283 for each group of countries; the missing countries are only reported. -/
def synchronizeExitCountries (locations : List ExitLocation) (p : UserExitPreferences) : UserExitPreferences :=
  (locations.flatMap ExitLocation.countryCodes).foldl synchronizeExitCountry p

/-- mod.rs:2219 -/
def setExitLocationsOpt (locations : List ExitLocation) (p : UserExitPreferences) : UserExitPreferences :=
  { p with locationsOpt := if p.exitCountries ≠ [] then some locations
      else if p.fallbackPreference = .exitCountryNoFallback then none
      else some locations }

/-- mod.rs:2230 -/
def setCountryUndesirabilityAndExitCountries (locations : List ExitLocation) (n : Neighborhood) : Neighborhood :=
  if locations ≠ [] then
    { n with database := n.database.mapNodes n.preferences.assignNodesCountryUndesirability fun _ => rfl }
  else
    { n with
      preferences.exitCountries := []
      database := n.database.mapNodes (fun r => { r with metadata.countryUndesirability := 0 }) fun _ => rfl }

variable (request : UiSetExitLocationRequest)

/-- The preference that a request asks for (mod.rs:2067). -/
def requestedPreference : FallbackPreference := if request.exitLocations = [] then .nothing
  else if request.fallbackRouting then .exitCountryWithFallback
  else .exitCountryNoFallback

/-- The preferences after a request, when the countries that can be reached are known. The exit countries are brought up
to date before the new fallback preference is set. -/
def requestedPreferences (dbCountries : List String) (p : UserExitPreferences) : UserExitPreferences :=
  let p := synchronizeExitCountries request.exitLocations { p with dbCountries }
  let p := { p with fallbackPreference := requestedPreference request }
  if request.showCountries then p else setExitLocationsOpt request.exitLocations p

/-- mod.rs:2058 -/
def exitLocationMessage (n : Neighborhood) : Except NeighborhoodPanic Neighborhood := do
  let dbCountries ← initDbCountries m n
  let n := { n with preferences := requestedPreferences request dbCountries n.preferences }
  if n.database.keys.length > 1 then return setCountryUndesirabilityAndExitCountries request.exitLocations n
  return n

/-- mod.rs:2540 -/
def calculateDbPatchSize (minHops : Hops) : Nat := if minHops.value ≤ 3 then 3 else minHops.value

/-- mod.rs:816: the countries of the last request are sought again among those that can be reached now. -/
def synchronizeLocations : Neighborhood :=
  match n.preferences.locationsOpt with
  | none => n
  | some locations =>
    setCountryUndesirabilityAndExitCountries locations
      { n with preferences := synchronizeExitCountries locations n.preferences }

/-- mod.rs:799 -/
def updateMinHops (newMinHops : Hops) (n : Neighborhood) : Except NeighborhoodPanic Neighborhood := do
  let n := { n with
    minHops := newMinHops
    dbPatchSize := calculateDbPatchSize newMinHops
    topologyRouteAvailable := false }
  let dbCountries ← initDbCountries m n
  searchForANewRoute m (synchronizeLocations { n with preferences.dbCountries := dbCountries })

end Neighborhood

/-! ## Steps -/

inductive NeighborhoodEvent where
  | gossip (incomingGossip : Gossip) (gossipSource : SocketAddr)
  | removeNeighbor (publicKey : PublicKey)
  | streamShutdown (peerIp : IpAddr)
  | newPublicIp (newIp : IpAddr)
  | debut (targets : List PublicKey)
  | exitLocation (request : Neighborhood.UiSetExitLocationRequest)
  | updateMinHops (newMinHops : Hops)

def Neighborhood.step (C : GossipPrimitives) (m : Moment) (n : Neighborhood) :
    NeighborhoodEvent → Except NeighborhoodPanic Neighborhood
  | .gossip incomingGossip gossipSource => n.handleGossip C m incomingGossip gossipSource
  | .removeNeighbor publicKey => n.removeNeighborMessage C m publicKey
  | .streamShutdown peerIp => n.streamShutdown C m peerIp
  | .newPublicIp newIp => n.newPublicIpMessage C newIp
  | .debut targets => n.sendDebutGossip targets
  | .exitLocation request => n.exitLocationMessage m request
  | .updateMinHops newMinHops => n.updateMinHops m newMinHops

end MasqMobile
