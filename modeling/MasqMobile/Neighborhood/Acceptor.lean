import MasqMobile.Neighborhood.Gossip

/-!
# Accepting gossip

`node/src/neighborhood/gossip_acceptor.rs`: a gossip message is offered to five handlers in turn, and the first that
finds it well formed or malformed deals with it. A debut introduces one new node, a pass refers us to another node, an
introduction names a node that we may debut to, and standard gossip describes the sender's neighborhood. Handlers change
the database and return what is to be done next.

| here | there |
| --- | --- |
| `PassHandler.qualifies`, `handle` | gossip_acceptor.rs:610, 641 |
| `IntroductionHandler.qualifies`, `handle` | gossip_acceptor.rs:746, 774 |
| `StandardGossipHandler.qualifies`, `handle` | gossip_acceptor.rs:1171, 1250 |
| `GossipAcceptorReal.handle` | gossip_acceptor.rs:1719 |

The reason of a ban is a constructor with the data of the text. Ties between neighbors of one degree are broken by the
order in which the database lists them. A `HashSet` is a list of which only membership is used.
-/

namespace MasqMobile

open Fallible Lists

/-! ## Results -/

/-- `GossipFailure_0v1` (sub_lib/neighborhood.rs:797) -/
inductive GossipFailure where
  | noNeighbors
  | noSuitableNeighbors
  | manualRejection
  | unknown
  deriving DecidableEq

/-- One entry of the error of `RatePackLimits::analyze` (sub_lib/neighborhood.rs:127). -/
structure RateViolation where
  name : String
  candidate : Nat
  isBelow : Bool
  bound : Nat
  deriving DecidableEq

inductive BanReason where
  /-- "Debut contained no NodeAddr" -/
  | debutWithoutNodeAddr
  /-- "Debut contained NodeAddr with no ports" -/
  | debutWithoutPorts
  /-- "Debut does not accept connections, yet contained NodeAddr" -/
  | debutWithNodeAddr
  /-- "Pass contained NodeAddr with no ports" -/
  | passWithoutPorts
  /-- "In Introduction, neither Node record claims the source IP" -/
  | introductionWithoutSource
  /-- "Introducer claims local Node's public key" -/
  | introducerClaimsOurKey
  /-- "Introducer has no ports" -/
  | introducerWithoutPorts
  /-- "Introducer claims to be at local Node's IP address" -/
  | introducerClaimsOurIp
  /-- "Introducer introduced introducee with no ports" -/
  | introduceeWithoutPorts
  /-- "Introducer claims the same IP address as its introducee" -/
  | introduceeAtSource
  /-- "Standard Gossip contains a record claiming that {} resides at this Node's IP address" -/
  | recordAtOurIp (key : PublicKey)
  /-- "Standard Gossip contains a record claiming this Node's public key" -/
  | recordClaimsOurKey
  /-- "Standard Gossip contains multiple records claiming to be from {}" -/
  | duplicateIp (ipAddr : IpAddr)
  /-- "Gossip with {} records is unclassifiable by any qualifier" -/
  | unclassifiable (records : Nat)
  /-- "{} rejected due to rate pack limit violation: {:?}" -/
  | ratePackLimits (description : String) (violations : List RateViolation)
  /-- "Introducer {} tried changing immutable characteristic: {}" -/
  | immutableCharacteristic (key : PublicKey) (error : NodeRecord.UpdateError)
  /-- "Standard gossip sender omitted its self-record; identity redacted" -/
  | omittedSelfRecord
  /-- "Node {} at {} sent Standard gossip that contained a record claiming our own public key" -/
  | claimedOurKey (key : PublicKey) (ipAddrOpt : Option IpAddr)
  /-- "Node {} at {:?} sent Standard gossip that contained an IP address for victim Node {} that we should not have
  known" -/
  | victimIp (source : PublicKey) (ipAddr : IpAddr) (victim : PublicKey)
  deriving DecidableEq

/-- malefactor.rs:15 without the timestamp. `new` (line 95) panics on a malefactor that nothing identifies; here there
is none. -/
structure Malefactor where
  publicKeyOpt : Option PublicKey
  ipAddressOpt : Option IpAddr
  earningWalletOpt : Option Address
  consumingWalletOpt : Option Address
  reason : BanReason
  identified : publicKeyOpt.isSome ∨ ipAddressOpt.isSome ∨ earningWalletOpt.isSome ∨ consumingWalletOpt.isSome
  deriving DecidableEq

def Malefactor.ofAgr (agr : AccessibleGossipRecord) (ipAddressOpt : Option IpAddr) (reason : BanReason) : Malefactor :=
  ⟨some agr.inner.publicKey, ipAddressOpt, some agr.inner.earningWallet, none, reason, .inl rfl⟩

def Malefactor.ofIp (ipAddress : IpAddr) (reason : BanReason) : Malefactor :=
  ⟨none, some ipAddress, none, none, reason, .inr (.inl rfl)⟩

/-- gossip_acceptor.rs:54 -/
inductive GossipAcceptanceResult where
  | accepted
  | reply (gossip : Gossip) (key : PublicKey) (nodeAddr : NodeAddr)
  | failed (failure : GossipFailure) (key : PublicKey) (nodeAddr : NodeAddr)
  | ban (malefactor : Malefactor)

/-- gossip_acceptor.rs:67 -/
inductive Qualification where
  | matched
  | unmatched (reason : String)
  | malformed (malefactor : Malefactor)
  deriving DecidableEq

/-- sub_lib/neighborhood.rs:743, of which the handlers send these. -/
inductive ConnectionProgressEvent where
  | passLoopFound
  | standardGossipReceived
  | introductionGossipReceived (ipAddr : IpAddr)
  | passGossipReceived (ipAddr : IpAddr)
  deriving DecidableEq

structure ConnectionProgressMessage where
  peerAddr : IpAddr
  event : ConnectionProgressEvent
  deriving DecidableEq

/-- sub_lib/neighborhood.rs:819 -/
structure NeighborhoodMetadata where
  connectionProgressPeers : List IpAddr
  dbPatchSize : Nat
  userExitPreferencesOpt : Option UserExitPreferences

/-- What a handler leaves: its results, the database, and the messages about the progress of a connection that it has
sent. -/
structure Handled where
  results : List GossipAcceptanceResult
  database : NeighborhoodDatabase
  progress : List ConnectionProgressMessage := []

/-! ## Common checks -/

/-- sub_lib/neighborhood.rs:113 -/
structure RatePackLimits where
  lo : RatePack
  hi : RatePack
  deriving DecidableEq

/-- The closure of sub_lib/neighborhood.rs:128. -/
def checkMinAndMax (candidate min max : Nat) (name : String) : List RateViolation :=
  if candidate < min then [⟨name, candidate, true, min⟩]
  else if candidate > max then [⟨name, candidate, false, max⟩]
  else []

/-- sub_lib/neighborhood.rs:127; no violation is `Ok`. -/
def RatePackLimits.analyze (limits : RatePackLimits) (r : RatePack) : List RateViolation :=
  checkMinAndMax r.routingByteRate limits.lo.routingByteRate limits.hi.routingByteRate "routing_byte_rate" ++
    checkMinAndMax r.routingServiceRate limits.lo.routingServiceRate limits.hi.routingServiceRate
      "routing_service_rate" ++
    checkMinAndMax r.exitByteRate limits.lo.exitByteRate limits.hi.exitByteRate "exit_byte_rate" ++
    checkMinAndMax r.exitServiceRate limits.lo.exitServiceRate limits.hi.exitServiceRate "exit_service_rate"

namespace GossipAcceptorReal

def maxDegree : Nat := 5
def passGossipExpiredTime : Nat := 60

/-- gossip_acceptor.rs:1822 -/
def validateIncomingAgr (limits : RatePackLimits) (description : String) (agr : AccessibleGossipRecord) :
    Except BanReason Unit :=
  let violations := limits.analyze agr.inner.ratePack
  failIf (agr.inner.routesData ∧ violations ≠ []) (.ratePackLimits description violations)

/-- gossip_acceptor.rs:1790; an error of the source is `none`. -/
def makeDebutTriple (db : NeighborhoodDatabase) (debutTarget : AccessibleGossipRecord) :
    Except NeighborhoodPanic (Option (Gossip × PublicKey × NodeAddr)) :=
  match debutTarget.nodeAddrOpt with
  | none => .ok none
  | some nodeAddr =>
    if nodeAddr.ports = [] then .ok none
    else do
      let gossip ← GossipProducerReal.produceDebut db
      return some (gossip, debutTarget.inner.publicKey, nodeAddr.clone)

end GossipAcceptorReal

open GossipAcceptorReal

/-- A new record, priced by the exit preferences. -/
def pricedRecord (now : Nat) (preferencesOpt : Option UserExitPreferences)
    (agr : AccessibleGossipRecord) : NodeRecord :=
  match preferencesOpt with
  | none => .ofAgr now agr
  | some preferences => preferences.assignNodesCountryUndesirability (.ofAgr now agr)

/-- `increment_version` and `regenerate_signed_gossip` of the root, after it has got a neighbor. -/
def NeighborhoodDatabase.republishRoot (C : GossipPrimitives) (db : NeighborhoodDatabase) : NeighborhoodDatabase :=
  db.modifyRoot fun root => root.incrementVersion.regenerateSignedGossip C

/-! ## Debut -/

namespace DebutHandler

variable (db : NeighborhoodDatabase)

/-- gossip_acceptor.rs:111 -/
def qualifies (agrs : List AccessibleGossipRecord) (gossipSource : SocketAddr) : Qualification :=
  match agrs with
  | [agr] =>
    if (db.nodeByKey agr.inner.publicKey).isSome then .unmatched "Node record already in database"
    else
      match agr.nodeAddrOpt, agr.inner.acceptsConnections with
      | none, true => .malformed (.ofAgr agr gossipSource.ip .debutWithoutNodeAddr)
      | none, false => .matched
      | some nodeAddr, true =>
        if nodeAddr.ports = [] then .malformed (.ofAgr agr gossipSource.ip .debutWithoutPorts)
        else if nodeAddr.ipAddr = gossipSource.ip then .matched
        else .unmatched "Node record is not Gossip source"
      | some _, false => .malformed (.ofAgr agr gossipSource.ip .debutWithNodeAddr)
  | _ => .unmatched s!"Debut has 1 Node record, not {agrs.length}"

/-- gossip_acceptor.rs:562 -/
def nodeAndNeighborKeys (agr : AccessibleGossipRecord) : List PublicKey := agr.inner.publicKey :: agr.inner.neighbors

/-- gossip_acceptor.rs:536 -/
def keysOrderedByDegreeExcluding (keys excluding : List PublicKey) : List PublicKey :=
  sortBy db.gossipTargetDegree (keys.filter (· ∉ excluding))

/-- A neighbor that accepts connections and routes data. -/
def isSuitable (key : PublicKey) : Bool := (db.nodeByKey key).any fun node => node.acceptsConnections && node.routesData

variable (excluded : AccessibleGossipRecord)

/-- gossip_acceptor.rs:272; the keys are those of full neighbors, so looking them up does not fail. -/
def findMoreAppropriateNeighbor : Option PublicKey :=
  let neighbors := keysOrderedByDegreeExcluding db (db.fullNeighborKeys db.root) (nodeAndNeighborKeys excluded)
  match ((neighbors.filter (isSuitable db)).dropWhile fun key => db.gossipTargetDegree key ≤ 2).head? with
  | none => none
  | some key =>
    if db.gossipTargetDegree key ≥ db.gossipTargetDegree db.root.publicKey then none else some key

/-- gossip_acceptor.rs:495 -/
def findLeastConnectedHalfNeighborExcluding : Option PublicKey :=
  (keysOrderedByDegreeExcluding db db.root.inner.neighbors (nodeAndNeighborKeys excluded)).head?

/-- gossip_acceptor.rs:506 -/
def findLeastConnectedFullNeighborExcluding : Option PublicKey :=
  (keysOrderedByDegreeExcluding db ((db.fullNeighborKeys db.root).filter (isSuitable db))
    (nodeAndNeighborKeys excluded)).head?

/-- gossip_acceptor.rs:587 -/
def makePassGossip (passTarget : PublicKey) : Except NeighborhoodPanic Gossip := do
  let builder ← GossipBuilder.node db passTarget true {}
  return builder.gossip

variable (debutingAgr : AccessibleGossipRecord)

/-- gossip_acceptor.rs:571 -/
def shouldNotMakeAnotherIntroduction : Bool :=
  debutingAgr.inner.neighbors.any fun key => (db.nodeByKey key).any (·.routesData)

/-- gossip_acceptor.rs:432 -/
def countsUsAmongNeighbors (db : NeighborhoodDatabase) : Bool := db.root.publicKey ∈ debutingAgr.inner.neighbors

variable (C : GossipPrimitives)

/-- gossip_acceptor.rs:440: the root's record with the debuting node as its only neighbor. -/
def createSecondNodeGossipResponse (db : NeighborhoodDatabase) (debutNodeKey : PublicKey) :
    Except NeighborhoodPanic Gossip :=
  if debutNodeKey = db.root.publicKey then .error (.selfDebut debutNodeKey)
  else
    let signedData := C.toCbor { db.root.inner with neighbors := [debutNodeKey] }
    .ok [⟨signedData, CryptDEReal.sign C signedData, db.root.nodeAddrOpt⟩]

/-- gossip_acceptor.rs:465; a failed attempt is `none`. -/
def tryToMakeIntroduction (gossipSource : SocketAddr) :
    Except NeighborhoodPanic (Option (Gossip × PublicKey × NodeAddr)) :=
  match findLeastConnectedFullNeighborExcluding db debutingAgr with
  | none => .ok none
  | some lcnKey => do
    let builder ← GossipBuilder.node db db.root.publicKey true {}
    let builder ← builder.node db lcnKey true
    let debutNodeAddr := (debutingAgr.nodeAddrOpt.map NodeAddr.clone).getD (.ofSocketAddr gossipSource)
    return some (builder.gossip, debutingAgr.inner.publicKey, debutNodeAddr)

/-- The answer to a debut that has been accepted into the database. -/
def answerDebut (db : NeighborhoodDatabase) (debutingAgr : AccessibleGossipRecord)
    (debutNodeAddr : NodeAddr) (gossipSource : SocketAddr) : Except NeighborhoodPanic GossipAcceptanceResult := do
  if shouldNotMakeAnotherIntroduction db debutingAgr then
    if countsUsAmongNeighbors debutingAgr db then return .accepted
    match ← makeDebutTriple db debutingAgr with
    | some (gossip, key, nodeAddr) => return .reply gossip key nodeAddr
    | none => return .accepted
  else
    match ← tryToMakeIntroduction db debutingAgr gossipSource with
    | some (gossip, key, nodeAddr) => return .reply gossip key nodeAddr
    | none =>
      if countsUsAmongNeighbors debutingAgr db then return .accepted
      let gossip ← createSecondNodeGossipResponse C db debutingAgr.inner.publicKey
      return .reply gossip debutingAgr.inner.publicKey debutNodeAddr.clone

/-- gossip_acceptor.rs:312; an `Err` of the source is `none`. -/
def tryAcceptDebut (now : Nat) (db : NeighborhoodDatabase) (debutingAgr : AccessibleGossipRecord)
    (debutNodeAddr : NodeAddr) (gossipSource : SocketAddr) (preferencesOpt : Option UserExitPreferences) :
    Except NeighborhoodPanic (Option (GossipAcceptanceResult × NeighborhoodDatabase)) :=
  if db.gossipTargetDegree db.root.publicKey ≥ maxDegree then .ok none
  else
    match db.addNode (pricedRecord now preferencesOpt debutingAgr.clone) with
    | .error e => .error (.debutingNodeAppeared e)
    | .ok (debutNodeKey, db) =>
      match db.addHalfNeighbor now debutNodeKey with
      | .error (.nodeKeyNotFound key) => .error (.debutingNodeDisappeared key)
      | .error e => .error (.debutNotAccepted e)
      | .ok (false, _) => .error .brandNewNeighborExisted
      | .ok (true, db) => do
        let db := db.republishRoot C
        let result ← answerDebut C db debutingAgr debutNodeAddr gossipSource
        return some (result, db)

/-- gossip_acceptor.rs:168 -/
def handle (limits : RatePackLimits) (now : Nat) (db : NeighborhoodDatabase)
    (agrs : List AccessibleGossipRecord) (gossipSource : SocketAddr) (metadata : NeighborhoodMetadata) :
    Except NeighborhoodPanic Handled :=
  match agrs with
  | [] => .error .emptyGossip
  | agr :: _ =>
    let sourceNodeAddr := agr.nodeAddrOpt.getD (.ofSocketAddr gossipSource)
    let sourceAgr := { agr with nodeAddrOpt := some sourceNodeAddr }
    match validateIncomingAgr limits "Debut" sourceAgr with
    | .error reason => .ok ⟨[.ban (.ofAgr sourceAgr sourceNodeAddr.ipAddr reason)], db, []⟩
    | .ok () => do
      match findMoreAppropriateNeighbor db sourceAgr with
      | some preferredKey =>
        let gossip ← makePassGossip db preferredKey
        return ⟨[.reply gossip sourceAgr.inner.publicKey sourceNodeAddr.clone], db, []⟩
      | none =>
        match ← tryAcceptDebut C now db sourceAgr sourceNodeAddr gossipSource metadata.userExitPreferencesOpt with
        | some (result, db) => return ⟨[result], db, []⟩
        | none =>
          match findLeastConnectedHalfNeighborExcluding db sourceAgr with
          | none => return ⟨[.failed .noSuitableNeighbors sourceAgr.inner.publicKey sourceNodeAddr.clone], db, []⟩
          | some lcnKey =>
            let gossip ← makePassGossip db lcnKey
            return ⟨[.reply gossip sourceAgr.inner.publicKey sourceNodeAddr.clone], db, []⟩

end DebutHandler

/-! ## Pass -/

namespace PassHandler

/-- gossip_acceptor.rs:610 -/
def qualifies (agrs : List AccessibleGossipRecord) (gossipSource : SocketAddr) : Qualification :=
  match agrs with
  | [agr] =>
    match agr.nodeAddrOpt with
    | none => .unmatched "Pass Node record always has a NodeAddr"
    | some nodeAddr =>
      if nodeAddr.ports = [] then .malformed (.ofAgr agr gossipSource.ip .passWithoutPorts)
      else if nodeAddr.ipAddr = gossipSource.ip then .unmatched "Pass Node record must not be Gossip source"
      else .matched
  | _ => .unmatched s!"Pass has 1 Node record, not {agrs.length}"

/-- gossip_acceptor.rs:641, with the pass targets met before. A target is answered if it is met for the first time or
after a minute. -/
def handle (now : Nat) (db : NeighborhoodDatabase) (agrs : List AccessibleGossipRecord) (gossipSource : SocketAddr)
    (metadata : NeighborhoodMetadata) (previousPassTargets : IpAddr → Option Nat) :
    Except NeighborhoodPanic (Handled × (IpAddr → Option Nat)) :=
  match agrs with
  | ⟨_, _, some nodeAddr, inner⟩ :: _ => do
    let loopFound : Handled := ⟨[], db, [⟨gossipSource.ip, .passLoopFound⟩]⟩
    let answered := do
      let gossip ← GossipProducerReal.produceDebut db
      return (⟨[.reply gossip inner.publicKey nodeAddr.clone], db,
        [⟨gossipSource.ip, .passGossipReceived nodeAddr.ipAddr⟩]⟩ : Handled)
    let remembered := Function.update previousPassTargets nodeAddr.ipAddr (some now)
    match previousPassTargets nodeAddr.ipAddr with
    | none =>
      if nodeAddr.ipAddr ∈ metadata.connectionProgressPeers then return (loopFound, previousPassTargets)
      return (← answered, remembered)
    | some timestamp =>
      if now - timestamp ≤ passGossipExpiredTime then return (loopFound, remembered)
      return (← answered, remembered)
  | _ => .error .emptyGossip

end PassHandler

/-! ## Introduction -/

namespace IntroductionHandler

/-- gossip_acceptor.rs:868 and 906: the introducer, which is the record at the source, and the introducee. -/
def identifyPlayers (first second : AccessibleGossipRecord) (gossipSource : SocketAddr) :
    Except Qualification (AccessibleGossipRecord × AccessibleGossipRecord) :=
  match first.ipAddrOpt, second.ipAddrOpt with
  | some firstIp, some secondIp =>
    if firstIp = gossipSource.ip then .ok (first, second)
    else if secondIp = gossipSource.ip then .ok (second, first)
    else .error (.malformed (.ofIp gossipSource.ip .introductionWithoutSource))
  | _, _ => .error (.unmatched "Both Node records in Introduction must have NodeAddr")

/-- gossip_acceptor.rs:922; players have a `NodeAddr`. -/
def verifyIntroducer (gossipSource : SocketAddr) (introducer : AccessibleGossipRecord) (nodeAddr : NodeAddr)
    (rootNode : NodeRecord) : Option Qualification :=
  if introducer.inner.publicKey = rootNode.publicKey then
    some (.malformed (.ofAgr introducer gossipSource.ip .introducerClaimsOurKey))
  else if nodeAddr.ports = [] then some (.malformed (.ofAgr introducer nodeAddr.ipAddr .introducerWithoutPorts))
  else if rootNode.ipAddrOpt = some nodeAddr.ipAddr then
    some (.malformed (.ofAgr introducer nodeAddr.ipAddr .introducerClaimsOurIp))
  else none

/-- gossip_acceptor.rs:963 -/
def verifyIntroducee (introducer : AccessibleGossipRecord) (nodeAddr : NodeAddr) (gossipSource : SocketAddr) :
    Option Qualification :=
  if nodeAddr.ports = [] then some (.malformed (.ofAgr introducer introducer.ipAddrOpt .introduceeWithoutPorts))
  else if nodeAddr.ipAddr = gossipSource.ip then
    some (.malformed (.ofAgr introducer gossipSource.ip .introduceeAtSource))
  else none

/-- gossip_acceptor.rs:1004 -/
def verifyBoth (db : NeighborhoodDatabase) (introducer introducee : AccessibleGossipRecord) : Option Qualification :=
  if introducee.inner.publicKey ∈ db.root.inner.neighbors ∧ introducer.inner.publicKey ∈ db.root.inner.neighbors then
    some (.unmatched "Introducer and introducee are already our half-neighbors")
  else none

/-- gossip_acceptor.rs:746 -/
def qualifies (db : NeighborhoodDatabase) (agrs : List AccessibleGossipRecord) (gossipSource : SocketAddr) :
    Qualification :=
  match agrs with
  | [first, second] =>
    match identifyPlayers first second gossipSource with
    | .error qualification => qualification
    | .ok (introducer, introducee) =>
      match introducer.nodeAddrOpt, introducee.nodeAddrOpt with
      | some introducerAddr, some introduceeAddr =>
        ((verifyIntroducer gossipSource introducer introducerAddr db.root).or
          ((verifyIntroducee introducer introduceeAddr gossipSource).or (verifyBoth db introducer introducee))).getD
            .matched
      | _, _ => .unmatched "Introducee has no NodeAddr"
  | _ => .unmatched s!"Introduction has 2 Node records, not {agrs.length}"

variable (C : GossipPrimitives)

/-- The end of `update_database` (gossip_acceptor.rs:1064), when the introducer is stored. -/
def becomeNeighbors (now : Nat) (introducerKey : PublicKey) (db : NeighborhoodDatabase) :
    Except NeighborhoodPanic (Except NodeRecord.UpdateError Bool × NeighborhoodDatabase) :=
  match db.addHalfNeighbor now introducerKey with
  | .error e => .error (.introducerNotInDatabase e)
  | .ok (true, db) => .ok (.ok true, db.republishRoot C)
  | .ok (false, db) => .ok (.ok true, db)

/-- gossip_acceptor.rs:1021, on a clone of the introducer. -/
def updateDatabase (now : Nat) (db : NeighborhoodDatabase) (introducer : AccessibleGossipRecord)
    (preferencesOpt : Option UserExitPreferences) :
    Except NeighborhoodPanic (Except NodeRecord.UpdateError Bool × NeighborhoodDatabase) :=
  match db.nodeByKey introducer.inner.publicKey with
  | some existingIntroducer =>
    if existingIntroducer.version < introducer.inner.version then
      match existingIntroducer.update now introducer with
      | .error e => .ok (.error e, db)
      | .ok updated => becomeNeighbors C now introducer.inner.publicKey (db.setNode updated)
    else .ok (.ok false, db)
  | none =>
    match db.addNode (pricedRecord now preferencesOpt introducer) with
    | .error e => .error (.introducerNotAdded e)
    | .ok (_, db) => becomeNeighbors C now introducer.inner.publicKey db

/-- gossip_acceptor.rs:1106 -/
def updateIntroducerIfAppropriate (now : Nat) (db : NeighborhoodDatabase)
    (introducer : AccessibleGossipRecord) (preferencesOpt : Option UserExitPreferences) (banOpt : Option BanReason) :
    Except NeighborhoodPanic (Option BanReason × Bool × NeighborhoodDatabase) :=
  match banOpt with
  | some reason => .ok (some reason, false, db)
  | none => do
    match ← updateDatabase C now db introducer.clone preferencesOpt with
    | (.ok updated, db) => return (none, updated, db)
    | (.error e, db) => return (some (.immutableCharacteristic introducer.inner.publicKey e), false, db)

def banReasonOpt : Except BanReason Unit → Option BanReason
  | .ok () => none
  | .error reason => some reason

/-- gossip_acceptor.rs:774 -/
def handle (limits : RatePackLimits) (now : Nat) (db : NeighborhoodDatabase)
    (agrs : List AccessibleGossipRecord) (gossipSource : SocketAddr) (metadata : NeighborhoodMetadata) :
    Except NeighborhoodPanic Handled :=
  if (db.fullNeighborKeys db.root).length ≥ maxDegree then .ok ⟨[], db, []⟩
  else
    match agrs with
    | [first, second] =>
      match identifyPlayers first second gossipSource with
      | .error _ => .error .introductionNotQualified
      | .ok (introducer, introducee) => do
        let introducerBanOpt := banReasonOpt (validateIncomingAgr limits "Introducer" introducer)
        let (introducerBanOpt, introducerUpdated, db) ←
          updateIntroducerIfAppropriate C now db introducer metadata.userExitPreferencesOpt introducerBanOpt
        let introduceeBanOpt := banReasonOpt (validateIncomingAgr limits "Introducee" introducee)
        let bans := (introducerBanOpt.map fun reason => GossipAcceptanceResult.ban
              (.ofAgr introducer introducer.ipAddrOpt reason)).toList ++
            (introduceeBanOpt.map fun reason => GossipAcceptanceResult.ban
              (.ofAgr introducee introducee.ipAddrOpt reason)).toList
        if introducerBanOpt.isSome then return ⟨bans, db, []⟩
        let results := bans ++ if introducerUpdated then [.accepted] else []
        if introduceeBanOpt.isSome then return ⟨results, db, []⟩
        match ← makeDebutTriple db introducee with
        | none => .error .introductionNotQualified
        | some (debut, targetKey, targetNodeAddr) =>
          return ⟨results ++ [.reply debut targetKey targetNodeAddr], db,
            introducer.ipAddrOpt.toList.map fun introducerIp =>
              ⟨introducerIp, .introductionGossipReceived targetNodeAddr.ipAddr⟩⟩
    | _ => .error .introductionNotQualified

end IntroductionHandler

/-! ## Standard gossip -/

namespace StandardGossipHandler

/-- The addresses that a list names again (gossip_acceptor.rs:1220). -/
def duplicates (seen : List IpAddr) : List IpAddr → List IpAddr
  | [] => []
  | ipAddr :: ipAddrs =>
    if ipAddr ∈ seen then ipAddr :: duplicates seen ipAddrs else duplicates (ipAddr :: seen) ipAddrs

/-- The record, if any, that claims the root's address. The root's address is read only if some record has one. -/
def impostorAtOurIp (rootNode : NodeRecord) (agrs : List AccessibleGossipRecord) :
    Except NeighborhoodPanic (Option AccessibleGossipRecord) :=
  if rootNode.acceptsConnections ∧ agrs.any (·.nodeAddrOpt.isSome) then
    match rootNode.ipAddrOpt with
    | none => .error .rootMustHaveNodeAddr
    | some rootIp => .ok (agrs.find? fun agr => agr.ipAddrOpt = some rootIp)
  else .ok none

variable (db : NeighborhoodDatabase) (agrs : List AccessibleGossipRecord)

/-- gossip_acceptor.rs:1171 -/
def qualifies (gossipSource : SocketAddr) : Except NeighborhoodPanic Qualification := do
  match ← impostorAtOurIp db.root agrs with
  | some impostor => return .malformed (.ofIp gossipSource.ip (.recordAtOurIp impostor.inner.publicKey))
  | none =>
    match agrs.find? fun agr => agr.inner.publicKey = db.root.publicKey with
    | some impostor => return .malformed (.ofAgr impostor none .recordClaimsOurKey)
    | none =>
      match duplicates [] (agrs.filterMap (·.ipAddrOpt)) with
      | [] => return .matched
      | firstDupIp :: _ => return .malformed (.ofIp gossipSource.ip (.duplicateIp firstDupIp))

/-- gossip_acceptor.rs:1387: the keys within a number of hops, visited depth first. -/
def computePatchRecursive (neighborsOf : PublicKey → Option (List PublicKey)) :
    Nat → PublicKey → List PublicKey → List PublicKey
  | 0, currentNodeKey, patch => currentNodeKey :: patch
  | hopsRemaining + 1, currentNodeKey, patch =>
    match neighborsOf currentNodeKey with
    | none => patch.filter (· ≠ currentNodeKey)
    | some neighbors =>
      neighbors.foldl (fun patch neighbor =>
        if neighbor ∈ patch then patch else computePatchRecursive neighborsOf hopsRemaining neighbor patch)
        (currentNodeKey :: patch)

/-- gossip_acceptor.rs:1364; of several records for one key the last counts. -/
def computePatch (rootNode : NodeRecord) (dbPatchSize : Nat) : List PublicKey :=
  let neighborsOf (key : PublicKey) : Option (List PublicKey) :=
    if key = rootNode.publicKey then some rootNode.inner.neighbors
    else (agrs.reverse.find? fun agr => agr.inner.publicKey = key).map (·.inner.neighbors)
  computePatchRecursive neighborsOf dbPatchSize rootNode.publicKey []

/-- The first pass of `extract_malefactors`: records that break the rate pack limits. -/
def ratePackBan (limits : RatePackLimits) (agr : AccessibleGossipRecord) : Option GossipAcceptanceResult :=
  (IntroductionHandler.banReasonOpt (validateIncomingAgr limits "Standard Gossip record" agr)).map fun reason =>
    .ban (.ofAgr agr agr.ipAddrOpt reason)

/-- The second pass: records that claim our key, or that give away an address we should not know. -/
def addressBan (gossipSourceAgr : AccessibleGossipRecord) (gossipSource : SocketAddr)
    (agr : AccessibleGossipRecord) : Option GossipAcceptanceResult :=
  if agr.inner.publicKey = db.thisNode then
    some (.ban (.ofAgr agr agr.ipAddrOpt (.claimedOurKey agr.inner.publicKey agr.ipAddrOpt)))
  else if agr.ipAddrOpt.isSome ∧ agr.ipAddrOpt ≠ some gossipSource.ip ∧
      agr.inner.publicKey ∉ db.root.inner.neighbors then
    some (.ban (.ofAgr gossipSourceAgr gossipSource.ip
      (.victimIp gossipSourceAgr.inner.publicKey gossipSource.ip agr.inner.publicKey)))
  else none

/-- gossip_acceptor.rs:1426 -/
def extractMalefactors (limits : RatePackLimits) (db : NeighborhoodDatabase) (gossipSourceAgr : AccessibleGossipRecord)
    (gossipSource : SocketAddr) (agrs : List AccessibleGossipRecord) :
    List AccessibleGossipRecord × List GossipAcceptanceResult :=
  let validAgrs := agrs.filter fun agr => (ratePackBan limits agr).isNone
  (validAgrs.filter fun agr => (addressBan db gossipSourceAgr gossipSource agr).isNone,
    agrs.filterMap (ratePackBan limits) ++ validAgrs.filterMap (addressBan db gossipSourceAgr gossipSource))

/-- gossip_acceptor.rs:1514 -/
def identifyNonIntroductoryNewAndObsoleteNodes : List AccessibleGossipRecord × List AccessibleGossipRecord :=
  (agrs.filter fun agr => (db.nodeByKey agr.inner.publicKey).isNone,
    agrs.filter fun agr => (db.nodeByKey agr.inner.publicKey).any fun node => agr.inner.version > node.version)

/-- gossip_acceptor.rs:1538 -/
def addNewNodes (now : Nat) (preferencesOpt : Option UserExitPreferences) (agrs : List AccessibleGossipRecord)
    (db : NeighborhoodDatabase) : Except NeighborhoodPanic NeighborhoodDatabase :=
  agrs.foldlM (fun db agr =>
    match db.addNode (pricedRecord now preferencesOpt agr) with
    | .error e => .error (.newNodeExisted e)
    | .ok (_, db) => .ok db) db

/-- gossip_acceptor.rs:1563; a failed update is only logged. -/
def updateObsoleteNodes (now : Nat) (agrs : List AccessibleGossipRecord) (db : NeighborhoodDatabase) :
    Except NeighborhoodPanic NeighborhoodDatabase :=
  agrs.foldlM (fun db agr =>
    match db.nodeByKey agr.inner.publicKey with
    | none => .error (.nodeDisappeared agr.inner.publicKey)
    | some existingNode =>
      match existingNode.update now agr with
      | .ok updated => .ok (db.setNode updated)
      | .error _ => .ok db) db

/-- gossip_acceptor.rs:1582 -/
def addSrcNodeAsHalfNeighbor (C : GossipPrimitives) (now : Nat) (gossipSource : SocketAddr)
    (db : NeighborhoodDatabase) :
    Bool × NeighborhoodDatabase :=
  match db.nodeByIp gossipSource.ip with
  | none => (false, db)
  | some gossipNode =>
    if (db.fullNeighborKeys db.root).length ≥ maxDegree then (false, db)
    else
      match db.addHalfNeighbor now gossipNode.publicKey with
      | .ok (true, db) => (true, db.republishRoot C)
      | _ => (false, db)

/-- gossip_acceptor.rs:1645 -/
def checkFullNeighbor (gossipSourceIp : IpAddr) : Bool :=
  (db.nodeByIp gossipSourceIp).any fun node => db.hasFullNeighbor db.root.publicKey node.publicKey

/-- Whether a record is that of the sender (gossip_acceptor.rs:1264). -/
def isFromSource (gossipSource : SocketAddr) (agr : AccessibleGossipRecord) : Bool :=
  if agr.inner.acceptsConnections then agr.ipAddrOpt = some gossipSource.ip
  else (db.nodeByIp gossipSource.ip).any fun node => node.publicKey = agr.inner.publicKey

/-- gossip_acceptor.rs:1250 -/
def handle (C : GossipPrimitives) (limits : RatePackLimits) (now : Nat) (db : NeighborhoodDatabase)
    (agrs : List AccessibleGossipRecord) (gossipSource : SocketAddr) (metadata : NeighborhoodMetadata) :
    Except NeighborhoodPanic Handled :=
  let initialNeighborshipStatus := checkFullNeighbor db gossipSource.ip
  match agrs.find? (isFromSource db gossipSource) with
  | none => .ok ⟨[.ban (.ofIp gossipSource.ip .omittedSelfRecord)], db, []⟩
  | some gossipSourceAgr => do
    let patch := computePatch agrs db.root metadata.dbPatchSize
    let inPatchAgrs := agrs.filter fun agr => agr.inner.publicKey ∈ patch
    let (worthyAgrs, malefactorBans) := extractMalefactors limits db gossipSourceAgr gossipSource inPatchAgrs
    let (newAgrs, obsoleteAgrs) := identifyNonIntroductoryNewAndObsoleteNodes db worthyAgrs
    let db ← addNewNodes now metadata.userExitPreferencesOpt newAgrs db
    let db ← updateObsoleteNodes now obsoleteAgrs db
    let (srcAdded, db) := addSrcNodeAsHalfNeighbor C now gossipSource db
    let finalNeighborshipStatus := checkFullNeighbor db gossipSource.ip
    if !newAgrs.isEmpty || !obsoleteAgrs.isEmpty || srcAdded then
      let progress := if !initialNeighborshipStatus && finalNeighborshipStatus then
        [⟨gossipSource.ip, .standardGossipReceived⟩] else []
      return ⟨.accepted :: malefactorBans, db, progress⟩
    return ⟨malefactorBans, db, []⟩

end StandardGossipHandler

/-! ## The acceptor -/

/-- The handlers, in the order in which they are asked (gossip_acceptor.rs:1778). -/
inductive GossipHandler where
  | debut
  | pass
  | introduction
  | standard
  | reject
  deriving DecidableEq

structure GossipAcceptorReal where
  ratePackLimits : RatePackLimits
  previousPassTargets : IpAddr → Option Nat

namespace GossipAcceptorReal

def gossipHandlers : List GossipHandler := [.debut, .pass, .introduction, .standard, .reject]

def qualifies (db : NeighborhoodDatabase) (agrs : List AccessibleGossipRecord) (gossipSource : SocketAddr) :
    GossipHandler → Except NeighborhoodPanic Qualification
  | .debut => .ok (DebutHandler.qualifies db agrs gossipSource)
  | .pass => .ok (PassHandler.qualifies agrs gossipSource)
  | .introduction => .ok (IntroductionHandler.qualifies db agrs gossipSource)
  | .standard => StandardGossipHandler.qualifies db agrs gossipSource
  | .reject => .ok (.malformed (.ofIp gossipSource.ip (.unclassifiable agrs.length)))

/-- The first handler for which the message is not unmatched, with its qualification. -/
def firstQualified (db : NeighborhoodDatabase) (agrs : List AccessibleGossipRecord) (gossipSource : SocketAddr) :
    List GossipHandler → Except NeighborhoodPanic (Qualification × GossipHandler)
  | [] => .error .nothingIntercepted
  | handler :: handlers => do
    match ← qualifies db agrs gossipSource handler with
    | .unmatched _ => firstQualified db agrs gossipSource handlers
    | qualification => return (qualification, handler)

variable (C : GossipPrimitives) (now : Nat) (acceptor : GossipAcceptorReal) (db : NeighborhoodDatabase)
  (agrs : List AccessibleGossipRecord) (gossipSource : SocketAddr) (metadata : NeighborhoodMetadata)

def delegate : GossipHandler → Except NeighborhoodPanic (Handled × GossipAcceptorReal)
  | .debut => do
    return (← DebutHandler.handle C acceptor.ratePackLimits now db agrs gossipSource metadata, acceptor)
  | .pass => do
    let (handled, previousPassTargets) ←
      PassHandler.handle now db agrs gossipSource metadata acceptor.previousPassTargets
    return (handled, { acceptor with previousPassTargets })
  | .introduction => do
    return (← IntroductionHandler.handle C acceptor.ratePackLimits now db agrs gossipSource metadata, acceptor)
  | .standard => do
    return (← StandardGossipHandler.handle C acceptor.ratePackLimits now db agrs gossipSource metadata, acceptor)
  | .reject => .error .rejectHandlerCalled

/-- gossip_acceptor.rs:1719 -/
def handle : Except NeighborhoodPanic (Handled × GossipAcceptorReal) := do
  match ← firstQualified db agrs gossipSource gossipHandlers with
  | (.matched, handler) => delegate C now acceptor db agrs gossipSource metadata handler
  | (.malformed malefactor, _) => return (⟨[.ban malefactor], db, []⟩, acceptor)
  | (.unmatched _, _) => .error .nothingIntercepted

end GossipAcceptorReal

end MasqMobile
