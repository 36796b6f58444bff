import MasqMobile.Lib.SortBy
import MasqMobile.Receipt.Data

/-!
# Node records

What a node knows about another node of the network: `node/src/neighborhood/node_record.rs`, with the records that
gossip carries (`gossip.rs`) and the exit preferences that price a record (`UserExitPreferences` of `mod.rs`).

| here | there |
| --- | --- |
| `GossipPrimitives` | `serde_cbor`, `sodiumoxide` and `ip_country_lib` |
| `NodeAddr` | sub_lib/node_addr.rs:14 |
| `NodeRecordInner`, `NodeRecord` | `NodeRecordInner_0v1` (node_record.rs:26), node_record.rs:141 |

A wallet of another node is its address. A `BTreeSet` of keys is the list of its elements in ascending order. Unsigned
arithmetic wraps, as it does in a release build. Of a record's metadata `node_location_opt` is left out: it is written
and never read. Functions that may panic return `Except NeighborhoodPanic`.
-/

namespace MasqMobile

open Fallible Lists

/-- `std::net::IpAddr`. -/
inductive IpAddr where
  | v4 (bits : BitVec 32)
  | v6 (bits : BitVec 128)
  deriving DecidableEq

structure SocketAddr where
  ip : IpAddr
  port : UInt16
  deriving DecidableEq

structure NodeAddr where
  ipAddr : IpAddr
  ports : List UInt16
  deriving DecidableEq

/-- node_addr.rs:22 -/
def NodeAddr.new (ipAddr : IpAddr) (ports : List UInt16) : NodeAddr :=
  ⟨ipAddr, dedupBy UInt16.toNat (sortBy UInt16.toNat ports)⟩

/-- `From<&SocketAddr>` (node_addr.rs:48) -/
def NodeAddr.ofSocketAddr (socketAddr : SocketAddr) : NodeAddr := .new socketAddr.ip [socketAddr.port]

/-- node_addr.rs:72: a clone is built anew, so its ports are sorted and without repetition. -/
def NodeAddr.clone (nodeAddr : NodeAddr) : NodeAddr := .new nodeAddr.ipAddr nodeAddr.ports

@[simp] theorem NodeAddr.ipAddr_new (ipAddr : IpAddr) : (new ipAddr p).ipAddr = ipAddr := rfl

@[simp] theorem NodeAddr.ports_new_eq_nil {ports : List UInt16} : (new ia ports).ports = [] ↔ ports = [] := by
  constructor
  · intro h
    refine List.eq_nil_iff_forall_not_mem.2 fun port hp => ?_
    have hs : port ∈ sortBy UInt16.toNat ports := mem_sortBy.2 hp
    obtain ⟨port', hp', -⟩ := exists_mem_dedupBy UInt16.toNat hs
    rw [show dedupBy UInt16.toNat (sortBy UInt16.toNat ports) = [] from h] at hp'
    cases hp'
  · rintro rfl
    rfl

@[simp] theorem NodeAddr.ipAddr_clone (na : NodeAddr) : na.clone.ipAddr = na.ipAddr := rfl

@[simp] theorem NodeAddr.ports_clone_eq_nil {na : NodeAddr} : na.clone.ports = [] ↔ na.ports = [] := ports_new_eq_nil

/-- sub_lib/neighborhood.rs:69 -/
structure RatePack where
  routingByteRate : Nat
  routingServiceRate : Nat
  exitByteRate : Nat
  exitServiceRate : Nat
  deriving DecidableEq

def zeroRatePack : RatePack := ⟨0, 0, 0, 0⟩

/-- node_record.rs:26 -/
structure NodeRecordInner where
  publicKey : PublicKey
  earningWallet : Address
  ratePack : RatePack
  neighbors : List PublicKey
  acceptsConnections : Bool
  routesData : Bool
  version : Nat
  countryCodeOpt : Option String
  protocolCapabilities : BitVec 64
  receiptSettlementContractOpt : Option Address
  deriving DecidableEq

/-- node_record.rs:432; a new one is as at node_record.rs:449. -/
structure NodeRecordMetadata where
  lastUpdate : Nat
  nodeAddrOpt : Option NodeAddr := none
  unreachableHosts : List String := []
  countryUndesirability : Nat := 0
  routeLatencyEwmaMsOpt : Option Nat := none
  deriving DecidableEq

structure NodeRecord where
  inner : NodeRecordInner
  metadata : NodeRecordMetadata
  signedGossip : List UInt8
  signature : CryptData
  deriving DecidableEq

/-- gossip.rs:24: a record on the wire. -/
structure GossipNodeRecord where
  signedData : List UInt8
  signature : CryptData
  nodeAddrOpt : Option NodeAddr
  deriving DecidableEq

/-- gossip.rs:473: a record whose signed data have been read. -/
structure AccessibleGossipRecord where
  signedGossip : List UInt8
  signature : CryptData
  nodeAddrOpt : Option NodeAddr
  inner : NodeRecordInner
  deriving DecidableEq

/-- A derived `Clone` clones the address. -/
def AccessibleGossipRecord.clone (agr : AccessibleGossipRecord) : AccessibleGossipRecord :=
  { agr with nodeAddrOpt := agr.nodeAddrOpt.map NodeAddr.clone }

def AccessibleGossipRecord.ipAddrOpt (agr : AccessibleGossipRecord) : Option IpAddr :=
  agr.nodeAddrOpt.map NodeAddr.ipAddr

theorem NodeAddr.ne_none_of_ip (h : o.map ipAddr = some ip) : o ≠ none := by
  rintro rfl
  cases h

/-- What is done outside this repository. -/
structure GossipPrimitives where
  /-- `serde_cbor::ser::to_vec` of a record. -/
  toCbor : NodeRecordInner → List UInt8
  /-- `serde_cbor::de::from_slice` to a record. -/
  fromCbor : List UInt8 → Option NodeRecordInner
  /-- `signing::sign_detached` with the Node's own key. -/
  signDetached : List UInt8 → CryptData
  /-- `signing::verify_detached` of a signature and data under a signing key. -/
  verifyDetached : CryptData → List UInt8 → List UInt8 → Bool
  /-- The contract address of the chain, which is signed with the data. -/
  preSharedData : List UInt8
  /-- The country code of `CountryCodeFinder::find_country`. -/
  findCountry : IpAddr → Option String

/-! ## Panics -/

/-- neighborhood_database.rs:375 -/
inductive NeighborhoodDatabaseError where
  | nodeKeyNotFound (key : PublicKey)
  | nodeKeyCollision (key : PublicKey)
  | selfNeighborAttempt (key : PublicKey)
  | nodeAddrAlreadySet (nodeAddr : NodeAddr)
  | emptyPortList
  deriving DecidableEq

/-- The `expect`, `unwrap`, `panic!` and slice operations that the handlers of the `Neighborhood` actor come across. -/
inductive NeighborhoodPanic where
  /-- cryptde_real.rs:317: `[32..]` of a shorter key. -/
  | keyOutOfRange (length : Nat)
  /-- cryptde_real.rs:317: `copy_from_slice` of another length. -/
  | keyLength (length : Nat)
  /-- cryptde_real.rs:167: `[..32]` of a shorter key. -/
  | descriptorKey (length : Nat)
  /-- gossip.rs:449, 453 -/
  | nodeAddedTwice (key : PublicKey)
  | nonexistentNode (key : PublicKey)
  /-- neighborhood_database.rs:278 -/
  | rootNodeAddr
  /-- gossip_acceptor.rs:177: `remove(0)` of an empty vector. -/
  | emptyGossip
  /-- gossip_acceptor.rs:334, 337, 339, 428 -/
  | debutingNodeAppeared (error : NeighborhoodDatabaseError)
  | debutingNodeDisappeared (key : PublicKey)
  | debutNotAccepted (error : NeighborhoodDatabaseError)
  | brandNewNeighborExisted
  /-- gossip_acceptor.rs:453 -/
  | selfDebut (key : PublicKey)
  /-- gossip_acceptor.rs:786, 820 -/
  | introductionNotQualified
  /-- gossip_acceptor.rs:1061, 1066 -/
  | introducerNotAdded (error : NeighborhoodDatabaseError)
  | introducerNotInDatabase (error : NeighborhoodDatabaseError)
  /-- gossip_acceptor.rs:1189 -/
  | rootMustHaveNodeAddr
  /-- gossip_acceptor.rs:1559 -/
  | newNodeExisted (error : NeighborhoodDatabaseError)
  /-- gossip_acceptor.rs:1571, 1616 -/
  | nodeDisappeared (key : PublicKey)
  /-- gossip_acceptor.rs:1688, 1741, 1758 -/
  | rejectHandlerCalled
  | nothingIntercepted
  /-- mod.rs:1821, 1825 -/
  | emptyPath
  | lastNodeDisappeared (key : PublicKey)
  /-- mod.rs:2008 -/
  | exitNodeDisappeared (key : PublicKey)
  /-- mod.rs:1360, 1392, 1397, 1463 -/
  | zeroHopRoute
  | emptySegment
  | noReturnComponent
  | badRoute
  /-- mod.rs:1178, 1180 -/
  | accountantUnbound
  | accountantDead
  /-- mod.rs:2509 -/
  | neighborDisappeared
  /-- wallet.rs:203 -/
  | cannotSign (key : PublicKey)
  deriving DecidableEq

namespace CryptDEReal

def publicKeyBytes : Nat := 32
def signatureBytes : Nat := 64

/-- cryptde_real.rs:315 -/
def signingPublicKeyFrom (localPublicKey : PublicKey) : Except NeighborhoodPanic (List UInt8) :=
  if localPublicKey.length < publicKeyBytes then .error (.keyOutOfRange localPublicKey.length)
  else if (localPublicKey.drop publicKeyBytes).length ≠ publicKeyBytes then .error (.keyLength localPublicKey.length)
  else .ok (localPublicKey.drop publicKeyBytes)

/-- cryptde_real.rs:142 -/
def verifySignature (C : GossipPrimitives) (data : List UInt8) (signature : CryptData) (publicKey : PublicKey) :
    Except NeighborhoodPanic Bool :=
  if signature.length ≠ signatureBytes then .ok false
  else do
    let signingPublicKey ← signingPublicKeyFrom publicKey
    return C.verifyDetached signature (data ++ C.preSharedData) signingPublicKey

/-- cryptde_real.rs:135; signing does not fail. -/
def sign (C : GossipPrimitives) (data : List UInt8) : CryptData := C.signDetached (data ++ C.preSharedData)

/-- cryptde_real.rs:36: data is encrypted only to keys of this length. -/
def encodesTo (key : PublicKey) : Bool := key.length = publicKeyBytes + publicKeyBytes

/-- Signatures of the right length are verified only under keys of the right length. -/
theorem verifySignature_ne_error_iff {data : List UInt8} {key : PublicKey} :
    (∃ valid, verifySignature C data si key = .ok valid) ↔
      (si.length = 64 → key.length = 64) := by
  unfold verifySignature signingPublicKeyFrom signatureBytes publicKeyBytes
  by_cases hs : si.length = 64
  · by_cases hk : key.length = 64
    · simp [hs, hk]
    · by_cases hsh : key.length < 32
      · simp [hs, hk, hsh]
      · have hl : key.length - 32 ≠ 32 := by omega
        simp [hs, hk, hsh, hl]
  · simp [hs]

end CryptDEReal

/-! ## Records -/

namespace NodeRecord

def publicKey (r : NodeRecord) : PublicKey := r.inner.publicKey

def nodeAddrOpt (r : NodeRecord) : Option NodeAddr := r.metadata.nodeAddrOpt.map NodeAddr.clone

variable (r : NodeRecord)

def ipAddrOpt : Option IpAddr := r.metadata.nodeAddrOpt.map NodeAddr.ipAddr

variable (key : PublicKey)

def hasHalfNeighbor : Bool := key ∈ r.inner.neighbors

def acceptsConnections (r : NodeRecord) : Bool := r.inner.acceptsConnections

def routesData (r : NodeRecord) : Bool := r.inner.routesData

def version (r : NodeRecord) : Nat := r.inner.version

/-- node_record.rs:288 -/
def regenerateSignedGossip (C : GossipPrimitives) (r : NodeRecord) : NodeRecord := { r with
    signedGossip := C.toCbor r.inner
    signature := CryptDEReal.sign C (C.toCbor r.inner) }

/-- node_record.rs:235 -/
def addHalfNeighborKey (r : NodeRecord) : Except NeighborhoodDatabaseError NodeRecord :=
  if key = r.publicKey then .error (.selfNeighborAttempt r.publicKey)
  else if key ∈ r.inner.neighbors then .ok r
  else .ok { r with inner.neighbors := r.inner.neighbors.orderedInsert (· ≤ ·) key }

/-- node_record.rs:245; whether the key was there is `hasHalfNeighbor`. -/
def removeHalfNeighborKey (r : NodeRecord) : NodeRecord :=
  { r with inner.neighbors := r.inner.neighbors.filter (· ≠ key) }

/-- node_record.rs:314 -/
def incrementVersion : NodeRecord := { r with inner.version := wrappingAdd 32 r.inner.version 1 }

def unsetNodeAddr : NodeRecord := { r with metadata.nodeAddrOpt := none }

/-- `From<AccessibleGossipRecord>` (node_record.rs:384) -/
def ofAgr (now : Nat) (agr : AccessibleGossipRecord) : NodeRecord where
  inner := agr.inner
  metadata := { lastUpdate := now, nodeAddrOpt := agr.nodeAddrOpt }
  signedGossip := agr.signedGossip
  signature := agr.signature

/-- The errors of `update`, which the source formats into a text. -/
inductive UpdateError where
  | publicKey (old new : PublicKey)
  | ratePack (old new : RatePack)
  | nodeAddr (old new : NodeAddr)
  deriving DecidableEq

/-- The address after an update: a known one stays, and must not be contradicted. -/
def updatedAddr : Option NodeAddr → Option NodeAddr → Except UpdateError (Option NodeAddr)
  | none, none => .ok none
  | none, some nodeAddr => .ok (some nodeAddr.clone)
  | some existing, none => .ok (some existing)
  | some existing, some incoming =>
    if existing ≠ incoming then .error (.nodeAddr existing incoming) else .ok (some existing)

/-- node_record.rs:348 -/
def update (now : Nat) (agr : AccessibleGossipRecord) (r : NodeRecord) : Except UpdateError NodeRecord := do
  failIf (agr.inner.publicKey ≠ r.publicKey) (.publicKey r.publicKey agr.inner.publicKey)
  failIf (agr.inner.ratePack ≠ r.inner.ratePack) (.ratePack r.inner.ratePack agr.inner.ratePack)
  let nodeAddrOpt ← updatedAddr r.metadata.nodeAddrOpt agr.nodeAddrOpt
  return { inner := agr.inner
           metadata := { r.metadata with nodeAddrOpt, lastUpdate := now }
           signedGossip := agr.signedGossip
           signature := agr.signature }

@[simp] theorem publicKey_regenerateSignedGossip : (r.regenerateSignedGossip C).publicKey = r.publicKey := rfl

@[simp] theorem publicKey_incrementVersion : r.incrementVersion.publicKey = r.publicKey := rfl

@[simp] theorem publicKey_unsetNodeAddr : r.unsetNodeAddr.publicKey = r.publicKey := rfl

@[simp] theorem publicKey_removeHalfNeighborKey : (r.removeHalfNeighborKey key).publicKey = r.publicKey := rfl

@[simp] theorem publicKey_ofAgr : (ofAgr now agr).publicKey = agr.inner.publicKey := rfl

variable {agr : AccessibleGossipRecord} {r : NodeRecord}

theorem update_eq_ok_iff {now : Nat} : r.update now agr = .ok r' ↔
      agr.inner.publicKey = r.publicKey ∧ agr.inner.ratePack = r.inner.ratePack ∧
      ∃ nodeAddrOpt, updatedAddr r.metadata.nodeAddrOpt agr.nodeAddrOpt = .ok nodeAddrOpt ∧
        { inner := agr.inner
          metadata := { r.metadata with nodeAddrOpt, lastUpdate := now }
          signedGossip := agr.signedGossip
          signature := agr.signature } = r' := by
  simp only [update, bind_eq_ok, failIf_eq_ok, pure_eq_ok, not_not, exists_and_left, exists_const]

theorem publicKey_update {now : Nat} (h : r.update now agr = .ok r') : r'.publicKey = r.publicKey := by
  obtain ⟨hk, -, _, -, rfl⟩ := update_eq_ok_iff.1 h
  exact hk

end NodeRecord

/-! ## Exit preferences -/

/-- mod.rs:2571 -/
inductive FallbackPreference where
  | nothing
  | exitCountryWithFallback
  | exitCountryNoFallback
  deriving DecidableEq

/-- masq_lib/messages.rs:1572; a request's `CountryGroups` have the same fields. -/
structure ExitLocation where
  countryCodes : List String
  priority : Nat
  deriving DecidableEq

/-- mod.rs:2587 -/
structure UserExitPreferences where
  exitCountries : List String := []
  fallbackPreference : FallbackPreference := .nothing
  locationsOpt : Option (List ExitLocation) := none
  dbCountries : List String := []
  deriving DecidableEq

def zzCountryCodeString : String := "ZZ"
def unreachableCountryPenalty : Nat := 100000000
def countryUndesirabilityFactor : Nat := 1000

namespace UserExitPreferences

/-- mod.rs:2626 -/
def shouldSetCountryUndesirability (countryCode : String) (exitLocation : ExitLocation) : Bool :=
  countryCode ∈ exitLocation.countryCodes ∧ countryCode ≠ zzCountryCodeString

variable (p : UserExitPreferences)

/-- mod.rs:2633 -/
def isUnreachableCountryPenalty (countryCode : String) : Bool :=
  (p.fallbackPreference = .exitCountryWithFallback ∧ countryCode ∉ p.exitCountries) ∨ countryCode = zzCountryCodeString

/-- mod.rs:2639, of a `usize` cast to `u32` -/
def calculateCountryUndesirability (priority : Nat) : Nat :=
  countryUndesirabilityFactor * wrappingSub 32 (priority % 2 ^ 32) 1 % 2 ^ 32

/-- mod.rs:2604: what the locations make of a record's undesirability, one after the other. -/
def countryUndesirability (countryCode : String) (undesirability : Nat) : Nat :=
  (p.locationsOpt.getD []).foldl (fun undesirability exitLocation =>
    let undesirability :=
      if shouldSetCountryUndesirability countryCode exitLocation then
        calculateCountryUndesirability exitLocation.priority
      else undesirability
    if p.isUnreachableCountryPenalty countryCode then unreachableCountryPenalty else undesirability) undesirability

/-- mod.rs:2604 -/
def assignNodesCountryUndesirability (r : NodeRecord) : NodeRecord :=
  { r with metadata.countryUndesirability :=
      p.countryUndesirability (r.inner.countryCodeOpt.getD zzCountryCodeString) r.metadata.countryUndesirability }

@[simp] theorem publicKey_assignNodesCountryUndesirability :
    (p.assignNodesCountryUndesirability r).publicKey = r.publicKey := rfl

end UserExitPreferences

end MasqMobile
