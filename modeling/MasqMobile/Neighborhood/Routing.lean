import MasqMobile.Lib.BranchAndBound
import MasqMobile.Neighborhood.Database

/-!
# Finding routes

The routing engine of `node/src/neighborhood/mod.rs`: a recursive search over the paths from a source that repeat no
node, with a bound on the undesirability that all branches share. In its other use, to research the neighborhood, it
collects the exits it meets and returns no routes.

The full neighbors of a node come out of a `HashSet` made for the occasion, so their order is a parameter that may
depend on the path. The random choice among the best routes is a number. The recursion has a supply of steps that
exceeds the number of nodes; no path without repetition is longer. -/

namespace MasqMobile

open Fallible

/-! ## Undesirability -/

def u64Max : Nat := 2 ^ 64 - 1
def i64Max : Int := 2 ^ 63 - 1
def i64Min : Int := -2 ^ 63

def saturatingAddU64 (a b : Nat) : Nat := min (a + b) u64Max
def saturatingMulU64 (a b : Nat) : Nat := min (a * b) u64Max
def saturatingAddI64 (a b : Int) : Int := max i64Min (min (a + b) i64Max)
def saturatingMulI64 (a b : Int) : Int := max i64Min (min (a * b) i64Max)

theorem saturatingAddI64_le (a b : Int) : saturatingAddI64 a b ≤ i64Max := by
  simp [saturatingAddI64, i64Min, i64Max]

theorem le_saturatingAddI64 (ha : a ≤ i64Max) (hb : 0 ≤ b) : a ≤ saturatingAddI64 a b := by
  unfold saturatingAddI64
  exact le_max_of_le_right (le_min (by omega) ha)

/-- sub_lib/neighborhood.rs:91 -/
def RatePack.routingCharge (r : RatePack) (payloadSize : Nat) : Nat :=
  saturatingAddU64 r.routingServiceRate (saturatingMulU64 r.routingByteRate payloadSize)

/-- sub_lib/neighborhood.rs:96 -/
def RatePack.exitCharge (r : RatePack) (payloadSize : Nat) : Nat :=
  saturatingAddU64 r.exitServiceRate (saturatingMulU64 r.exitByteRate payloadSize)

/-- mod.rs:562 -/
inductive RouteDirection where
  | over
  | back
  deriving DecidableEq

/-- mod.rs:2645 -/
inductive UndesirabilityType where
  | relay
  | exitRequest (hostname : String)
  | exitAndRouteResponse
  deriving DecidableEq

def unreachableHostPenalty : Int := 100000000
def routeLatencyUndesirabilityPerMs : Int := 1000

/-- mod.rs:1703 -/
def chargeToUndesirability (charge : Nat) : Int := if charge ≤ i64Max then charge else i64Max

variable (r : NodeRecord)

/-- mod.rs:1693 -/
def routeLatencyUndesirability : Int := (r.metadata.routeLatencyEwmaMsOpt.map fun latencyMs =>
    saturatingMulI64 latencyMs routeLatencyUndesirabilityPerMs).getD 0

/-- mod.rs:1642 -/
def computeUndesirability (payloadSize : Nat) : UndesirabilityType → Int
  | .relay => chargeToUndesirability (r.inner.ratePack.routingCharge payloadSize)
  | .exitRequest hostname =>
    let exitUndesirability := chargeToUndesirability (r.inner.ratePack.exitCharge payloadSize)
    let unreachableHostUndesirability := if hostname ∈ r.metadata.unreachableHosts then unreachableHostPenalty else 0
    saturatingAddI64
      (saturatingAddI64 (saturatingAddI64 exitUndesirability unreachableHostUndesirability)
        r.metadata.countryUndesirability)
      (routeLatencyUndesirability r)
  | .exitAndRouteResponse =>
    let totalCharge :=
      saturatingAddU64 (r.inner.ratePack.exitCharge payloadSize) (r.inner.ratePack.routingCharge payloadSize)
    saturatingAddI64 (chargeToUndesirability totalCharge) (routeLatencyUndesirability r)

theorem chargeToUndesirability_nonneg (charge : Nat) : 0 ≤ chargeToUndesirability charge := by
  unfold chargeToUndesirability i64Max
  split <;> omega

theorem saturatingAddI64_nonneg (ha : 0 ≤ a) (hb : 0 ≤ b) : 0 ≤ saturatingAddI64 a b := by
  unfold saturatingAddI64 i64Max
  exact le_max_of_le_right (le_min (by omega) (by omega))

theorem routeLatencyUndesirability_nonneg : 0 ≤ routeLatencyUndesirability r := by
  unfold routeLatencyUndesirability
  cases r.metadata.routeLatencyEwmaMsOpt with
  | none => simp
  | some latencyMs =>
    unfold saturatingMulI64 i64Max routeLatencyUndesirabilityPerMs
    exact le_max_of_le_right (le_min (by omega) (by omega))

theorem computeUndesirability_nonneg (p : Nat) (t : UndesirabilityType) : 0 ≤ computeUndesirability r p t := by
  cases t with
  | relay => exact chargeToUndesirability_nonneg _
  | exitRequest hostname =>
    refine saturatingAddI64_nonneg (saturatingAddI64_nonneg (saturatingAddI64_nonneg
      (chargeToUndesirability_nonneg _) ?_) (Int.natCast_nonneg _)) (routeLatencyUndesirability_nonneg r)
    unfold unreachableHostPenalty
    split <;> omega
  | exitAndRouteResponse =>
    exact saturatingAddI64_nonneg (chargeToUndesirability_nonneg _) (routeLatencyUndesirability_nonneg r)

/-! ## What is looked for -/

/-- The arguments of the search that stay the same throughout. -/
structure RouteQuery where
  targetOpt : Option PublicKey
  payloadSize : Nat
  direction : RouteDirection
  hostname : String
  minimumProtocolCapabilities : BitVec 64

/-- The order in which the full neighbors of the last node of a path are visited. -/
structure NeighborOrder where
  order : List PublicKey → List NodeRecord → List NodeRecord
  perm : ∀ path nodes, (order path nodes).Perm nodes

def asListed : NeighborOrder := ⟨fun _ nodes => nodes, fun _ nodes => .refl nodes⟩

/-- mod.rs:2652 -/
structure ComputedRouteSegment where
  nodes : List PublicKey
  undesirability : Int
  deriving DecidableEq

/-- What the branches of a search share. -/
structure SearchState where
  minimumUndesirability : Int
  researchExits : List PublicKey
  deriving DecidableEq

def serviceReceiptSettlementV1Capability : BitVec 64 := 1

section Search

variable (db : NeighborhoodDatabase) (preferences : UserExitPreferences) (q : RouteQuery)

/-- mod.rs:1554 -/
def lastKeyQualifies (lastNode : NodeRecord) (targetKeyOpt : Option PublicKey) : Bool :=
  match targetKeyOpt with
  | some targetKey => lastNode.publicKey = targetKey
  | none => true

/-- mod.rs:1565 -/
def validateLastNodeNotTooCloseToFirstNode (pathLen : Nat) (firstNodeKey candidateNodeKey : PublicKey) : Bool :=
  if pathLen ≤ 2 then true else !db.hasHalfNeighbor candidateNodeKey firstNodeKey

/-- mod.rs:1580 -/
def validateCountryCodeWhenFallbackRouting (lastNode : PublicKey) : Bool :=
  let lastCc := ((db.nodeByKey lastNode).bind (·.inner.countryCodeOpt)).getD zzCountryCodeString
  lastCc ∈ preferences.exitCountries || preferences.exitCountries.isEmpty ||
    preferences.exitCountries.all fun country => !(country ∈ preferences.dbCountries && country ≠ lastCc)

/-- mod.rs:1636 -/
def isFallbackAndLastNodeQualifies (lastNodeKey : PublicKey) : Bool :=
  preferences.fallbackPreference = .exitCountryWithFallback &&
    validateCountryCodeWhenFallbackRouting db preferences lastNodeKey

/-- mod.rs:1624 -/
def lastNodeIsAlwaysTrue (lastNodeKey : PublicKey) (researchNeighborhood : Bool) (direction : RouteDirection) : Bool :=
  preferences.fallbackPreference = .nothing || isFallbackAndLastNodeQualifies db preferences lastNodeKey ||
    researchNeighborhood || direction = .back

/-- mod.rs:1603 -/
def validateLastNodeCountryCode (lastNodeKey : PublicKey) (researchNeighborhood : Bool) (direction : RouteDirection) :
    Bool :=
  lastNodeIsAlwaysTrue db preferences lastNodeKey researchNeighborhood direction ||
    ((db.nodeByKey lastNodeKey).bind (·.inner.countryCodeOpt)).any (· ∈ preferences.exitCountries)

/-- mod.rs:1707 -/
def isOrigNodeOnBackLeg (node : NodeRecord) (targetKeyOpt : Option PublicKey) : RouteDirection → Bool
  | .over => false
  | .back => targetKeyOpt.any fun targetKey => node.publicKey = targetKey

/-- The filter of mod.rs:1925: a node has the capabilities asked for and, if receipts are, the root's contract. -/
def hasCapabilities (node : NodeRecord) : Bool :=
  let receiptCapabilityRequired := q.minimumProtocolCapabilities &&& serviceReceiptSettlementV1Capability ≠ 0
  let capabilitiesMatch :=
    node.inner.protocolCapabilities &&& q.minimumProtocolCapabilities = q.minimumProtocolCapabilities
  let settlementContractMatches := !receiptCapabilityRequired ||
    db.root.inner.receiptSettlementContractOpt.any fun required =>
      node.inner.receiptSettlementContractOpt = some required
  capabilitiesMatch && settlementContractMatches

/-- A node that may stand on a route after the source: the second and third filter of mod.rs:1917. -/
def isUsable (node : NodeRecord) : Bool :=
  (node.routesData || isOrigNodeOnBackLeg node q.targetOpt q.direction) && hasCapabilities db q node

/-- mod.rs:1996 -/
def computeInitialUndesirability (publicKey : PublicKey) (payloadSize : Nat) (direction : RouteDirection) :
    Except NeighborhoodPanic Int :=
  if direction = .over then .ok 0
  else
    match db.nodeByKey publicKey with
    | none => .error (.exitNodeDisappeared publicKey)
    | some node => .ok (computeUndesirability node payloadSize .exitAndRouteResponse)

/-- mod.rs:2018 -/
def computeNewUndesirability (node : NodeRecord) (undesirability : Int) (hopsRemaining : Nat) : Int :=
  let undesirabilityType : UndesirabilityType :=
    match q.direction, q.targetOpt with
    | .over, none => if hopsRemaining = 0 then .exitRequest q.hostname else .relay
    | _, _ => .relay
  saturatingAddI64 undesirability (computeUndesirability node q.payloadSize undesirabilityType)

/-! ## The engine -/

variable (hashOrder : NeighborOrder)

/-- The nodes that a path may be extended by. -/
def nextNodes (path : List PublicKey) (previousNode : NodeRecord) : List NodeRecord :=
  (hashOrder.order path (db.fullNeighbors previousNode)).filter fun node =>
    node.publicKey ∉ path && isUsable db q node

/-- Searches one extension after the other, each in the state that the ones before have left. -/
def searchEach (visit : NodeRecord → SearchState → Except NeighborhoodPanic (List ComputedRouteSegment × SearchState)) :
    List NodeRecord → SearchState → Except NeighborhoodPanic (List ComputedRouteSegment × SearchState)
  | [], state => .ok ([], state)
  | node :: nodes, state => do
    let (first, state) ← visit node state
    let (rest, state) ← searchEach visit nodes state
    return (first ++ rest, state)

/-- mod.rs:1893, given the engine for longer paths. -/
def routingGuts (engine : List PublicKey → Int → Nat → SearchState →
      Except NeighborhoodPanic (List ComputedRouteSegment × SearchState))
    (path : List PublicKey) (undesirability : Int) (hopsRemaining : Nat) (previousNode : NodeRecord) :
    SearchState → Except NeighborhoodPanic (List ComputedRouteSegment × SearchState) :=
  searchEach (fun node =>
    engine (path ++ [node.publicKey]) (computeNewUndesirability q node undesirability (hopsRemaining - 1))
      (hopsRemaining - 1)) (nextNodes db q hashOrder path previousNode)

/-- Whether a path is long enough, ends where it should and not next to its start (mod.rs:1827). -/
def isDone (path : List PublicKey) (firstNodeKey : PublicKey) (previousNode : NodeRecord) (hopsRemaining : Nat) :
    Bool :=
  hopsRemaining = 0 && lastKeyQualifies previousNode q.targetOpt &&
    validateLastNodeNotTooCloseToFirstNode db path.length firstNodeKey previousNode.publicKey

/-- A search without a target does not go on past the minimum hop count, unless it looks for an exit country
(mod.rs:1867). -/
def isPastMinimum (researchNeighborhood : Bool) (hopsRemaining : Nat) : Bool :=
  hopsRemaining = 0 && q.targetOpt.isNone && !researchNeighborhood &&
    (preferences.fallbackPreference = .nothing || preferences.exitCountries.isEmpty)

/-- mod.rs:1804 -/
def routingEngine (researchNeighborhood : Bool) : Nat → List PublicKey → Int → Nat → SearchState →
    Except NeighborhoodPanic (List ComputedRouteSegment × SearchState)
  | 0, _, _, _, state => .ok ([], state)
  | fuel + 1, path, undesirability, hopsRemaining, state =>
    if undesirability > state.minimumUndesirability && !researchNeighborhood then .ok ([], state)
    else
      match path.head?, path.getLast? with
      | some firstNodeKey, some lastNodeKey =>
        match db.nodeByKey lastNodeKey with
        | none => .error (.lastNodeDisappeared lastNodeKey)
        | some previousNode =>
          let guts := routingGuts db q hashOrder (routingEngine researchNeighborhood fuel) path undesirability
            hopsRemaining previousNode
          if isDone db q path firstNodeKey previousNode hopsRemaining then
            if !researchNeighborhood && validateLastNodeCountryCode db preferences previousNode.publicKey
                researchNeighborhood q.direction then
              .ok ([⟨path, undesirability⟩],
                { state with minimumUndesirability := min state.minimumUndesirability undesirability })
            else if researchNeighborhood && lastNodeKey ∈ state.researchExits then .ok ([], state)
            else if researchNeighborhood then
              guts { state with researchExits := state.researchExits ++ [lastNodeKey] }
            else guts state
          else if isPastMinimum preferences q researchNeighborhood hopsRemaining then .ok ([], state)
          else guts state
      | _, _ => .error .emptyPath

/-- More steps than any path without repetition needs. -/
def searchFuel : Nat := db.keys.length + 1

/-- mod.rs:1791; the random choice is `pick`. -/
def chooseUniformMinimumRoute (computedRoutes : List ComputedRouteSegment) (minimumUndesirability : Int) (pick : Nat) :
    Option (List PublicKey) :=
  let best := computedRoutes.filter fun route => route.undesirability = minimumUndesirability
  (best[pick % best.length]?).map ComputedRouteSegment.nodes

/-- mod.rs:1755 -/
def findBestRouteSegment (pick : Nat) (source : PublicKey) (minimumHops : Nat) :
    Except NeighborhoodPanic (Option (List PublicKey)) := do
  let initialUndesirability ← computeInitialUndesirability db source q.payloadSize q.direction
  let (computedRoutes, state) ← routingEngine db preferences q hashOrder false (searchFuel db) [source]
    initialUndesirability minimumHops ⟨i64Max, []⟩
  return chooseUniformMinimumRoute computedRoutes state.minimumUndesirability pick

/-- mod.rs:1721 -/
def findExitLocations (source : PublicKey) (minimumHops : Nat) : Except NeighborhoodPanic (List PublicKey) := do
  let query : RouteQuery := ⟨none, 0, .over, "booga.com", 0⟩
  let (_, state) ← routingEngine db preferences query hashOrder true (searchFuel db) [source] 0 minimumHops ⟨i64Max, []⟩
  return state.researchExits

end Search

variable {ro : List ComputedRouteSegment}

theorem mem_chooseUniformMinimumRoute {pick : Nat}
    {path : List PublicKey} (h : chooseUniformMinimumRoute ro l pick = some path) :
    ∃ route ∈ ro, route.undesirability = l ∧ route.nodes = path := by
  obtain ⟨route, hg, rfl⟩ := Option.map_eq_some_iff.1 h
  obtain ⟨hm, hl⟩ := List.mem_filter.1 (List.mem_of_getElem? hg)
  exact ⟨route, hm, of_decide_eq_true hl, rfl⟩

theorem chooseUniformMinimumRoute_eq_none_iff {least : Int} {pick : Nat} :
    chooseUniformMinimumRoute ro least pick = none ↔ ∀ route ∈ ro, route.undesirability ≠ least := by
  unfold chooseUniformMinimumRoute
  generalize hb : ro.filter (fun route => route.undesirability = least) = best
  have hn : best = [] ↔ ∀ route ∈ ro, route.undesirability ≠ least := by
    rw [← hb, List.filter_eq_nil_iff]
    simp
  rw [← hn, Option.map_eq_none_iff, List.getElem?_eq_none_iff]
  constructor
  · intro hle
    by_contra hne
    exact absurd (Nat.mod_lt pick (List.length_pos_iff.2 hne)) (not_lt.2 hle)
  · rintro rfl
    simp

end MasqMobile
