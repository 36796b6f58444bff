import MasqMobile.Lib.Database
import MasqMobile.Neighborhood.Records

/-!
# The neighborhood database

`node/src/neighborhood/neighborhood_database.rs`: the records of all known nodes by public key, and an index from IP
addresses to public keys that some of the operations keep up.

The map from keys to records is a table whose primary key is the key in the record: a record is stored under its own
key, and `update` does not change it. The root record is part of every database, so `root` and `root_mut` (line 79) do
not panic. The map's order of iteration is the order of the table.

| here | there |
| --- | --- |
| `NeighborhoodDatabase` | neighborhood_database.rs:27 |
-/

namespace MasqMobile

open Fallible

/-- sub_lib/neighborhood.rs:206 without the descriptors of the nodes to contact first. -/
inductive NeighborhoodMode where
  | standard (nodeAddr : NodeAddr) (ratePack : RatePack)
  | zeroHop
  | originateOnly (ratePack : RatePack)
  | consumeOnly
  deriving DecidableEq

namespace NeighborhoodMode

def nodeAddrOpt : NeighborhoodMode → Option NodeAddr
  | standard nodeAddr _ => some nodeAddr.clone
  | _ => none

def ratePack : NeighborhoodMode → RatePack
  | standard _ ratePack => ratePack
  | originateOnly ratePack => ratePack
  | _ => zeroRatePack

def acceptsConnections : NeighborhoodMode → Bool
  | standard _ _ => true
  | _ => false

def routesData : NeighborhoodMode → Bool
  | standard _ _ => true
  | originateOnly _ => true
  | _ => false

end NeighborhoodMode

structure NeighborhoodDatabase where
  thisNode : PublicKey
  byPublicKey : Table NodeRecord NodeRecord.publicKey
  byIpAddr : IpAddr → Option PublicKey
  root_isSome : (byPublicKey.find thisNode).isSome

namespace NeighborhoodDatabase

def isolatedNodeGracePeriodSecs : Nat := 30

variable {db : NeighborhoodDatabase}

/-! ## Reading -/

variable (db)

def nodeByKey (key : PublicKey) : Option NodeRecord := db.byPublicKey.find key

def root : NodeRecord := (db.nodeByKey db.thisNode).get db.root_isSome

def keys : List PublicKey := db.byPublicKey.rows.map NodeRecord.publicKey

/-- neighborhood_database.rs:110 -/
def nodeByIp (ipAddr : IpAddr) : Option NodeRecord := db.byIpAddr ipAddr >>= db.nodeByKey

/-- neighborhood_database.rs:117 -/
def hasHalfNeighbor (db : NeighborhoodDatabase) (source target : PublicKey) : Bool :=
  (db.nodeByKey source).any (·.hasHalfNeighbor target)

/-- neighborhood_database.rs:124 -/
def hasFullNeighbor (source target : PublicKey) : Bool :=
  db.hasHalfNeighbor source target && db.hasHalfNeighbor target source

/-- `NodeRecord::full_neighbors` (node_record.rs:254). The keys are those of `full_neighbor_keys`, so the second lookup
does not fail. -/
def fullNeighbors (r : NodeRecord) : List NodeRecord :=
  r.inner.neighbors.filterMap fun key => (db.nodeByKey key).filter (·.hasHalfNeighbor r.publicKey)

/-- `NodeRecord::full_neighbor_keys` (node_record.rs:265) -/
def fullNeighborKeys (r : NodeRecord) : List PublicKey :=
  r.inner.neighbors.filter fun key => (db.nodeByKey key).any (·.hasHalfNeighbor r.publicKey)

/-- neighborhood_database.rs:128 -/
def gossipTargetDegree (target : PublicKey) : Nat :=
  match db.nodeByKey target with
  | none => 0
  | some targetNode =>
    ((db.fullNeighbors targetNode).filter (·.acceptsConnections)).length +
      (targetNode.inner.neighbors.filter (· ∉ db.keys)).length

/-- neighborhood_database.rs:262 -/
def referencedNodeKeys : List PublicKey := db.root.publicKey :: db.byPublicKey.rows.flatMap (·.inner.neighbors)

variable {db} {key : PublicKey} {r : NodeRecord}

theorem nodeByKey_eq_some_iff :
    db.nodeByKey key = some r ↔ r ∈ db.byPublicKey.rows ∧ r.publicKey = key := Table.find_eq_some_iff

theorem publicKey_of_nodeByKey (h : db.nodeByKey key = some r) : r.publicKey = key := (nodeByKey_eq_some_iff.1 h).2

@[simp] theorem nodeByKey_thisNode : db.nodeByKey db.thisNode = some db.root :=
  (Option.some_get db.root_isSome).symm

@[simp] theorem publicKey_root (db : NeighborhoodDatabase) : db.root.publicKey = db.thisNode :=
  publicKey_of_nodeByKey db.nodeByKey_thisNode

theorem mem_keys_iff : key ∈ db.keys ↔ ∃ r, db.nodeByKey key = some r := by
  simp [keys, nodeByKey_eq_some_iff]

theorem thisNode_mem_keys (db : NeighborhoodDatabase) : db.thisNode ∈ db.keys :=
  mem_keys_iff.2 ⟨_, db.nodeByKey_thisNode⟩

theorem mem_fullNeighbors :
    n ∈ db.fullNeighbors r ↔ n.publicKey ∈ r.inner.neighbors ∧ db.nodeByKey n.publicKey = some n ∧
      r.publicKey ∈ n.inner.neighbors := by
  simp only [fullNeighbors, List.mem_filterMap, Option.filter_eq_some_iff, NodeRecord.hasHalfNeighbor,
    decide_eq_true_eq]
  constructor
  · rintro ⟨key, hk, hn, hb⟩
    obtain rfl := publicKey_of_nodeByKey hn
    exact ⟨hk, hn, hb⟩
  · rintro ⟨hk, hn, hb⟩
    exact ⟨_, hk, hn, hb⟩

theorem mem_fullNeighborKeys : key ∈ db.fullNeighborKeys r ↔ key ∈ r.inner.neighbors ∧
      ∃ n, db.nodeByKey key = some n ∧ r.publicKey ∈ n.inner.neighbors := by
  simp [fullNeighborKeys, NodeRecord.hasHalfNeighbor, Option.any_eq_true]

/-! ## Writing records -/

variable (db)

/-- Stores a record under its key, in the place of the one that was there. -/
def setNode (r : NodeRecord) : NeighborhoodDatabase where
  thisNode := db.thisNode
  byPublicKey := db.byPublicKey.put r
  byIpAddr := db.byIpAddr
  root_isSome := by
    by_cases hkey : r.publicKey = db.thisNode
    · rw [← hkey, Table.find_put_self]
      rfl
    · rw [Table.find_put_of_ne _ hkey]
      exact db.root_isSome

@[simp] theorem thisNode_setNode : (db.setNode r).thisNode = db.thisNode := rfl

@[simp] theorem byIpAddr_setNode : (db.setNode r).byIpAddr = db.byIpAddr := rfl

theorem nodeByKey_setNode :
    (db.setNode r).nodeByKey key = if r.publicKey = key then some r else db.nodeByKey key := by
  by_cases hk : r.publicKey = key
  · rw [if_pos hk, ← hk]
    exact Table.find_put_self _ _
  · rw [if_neg hk]
    exact Table.find_put_of_ne _ hk

variable {db}

theorem mem_keys_setNode : key ∈ (db.setNode r).keys ↔ r.publicKey = key ∨ key ∈ db.keys := by
  rw [mem_keys_iff, nodeByKey_setNode, mem_keys_iff]
  by_cases hk : r.publicKey = key <;> simp [hk]

theorem root_setNode : (db.setNode r).root = if r.publicKey = db.thisNode then r else db.root := by
  have h := (db.setNode r).nodeByKey_thisNode
  rw [thisNode_setNode, nodeByKey_setNode, nodeByKey_thisNode] at h
  by_cases hk : r.publicKey = db.thisNode
  · rw [if_pos hk] at h ⊢
    exact (Option.some.inj h).symm
  · rw [if_neg hk] at h ⊢
    exact (Option.some.inj h).symm

/-- `root_mut`: changes the root record, whose key stays. -/
def modifyRoot (f : NodeRecord → NodeRecord) (db : NeighborhoodDatabase) : NeighborhoodDatabase :=
  db.setNode (f db.root)

variable {f : NodeRecord → NodeRecord}

theorem nodeByKey_modifyRoot (hr : (f db.root).publicKey = db.thisNode) (hk : key ≠ db.thisNode) :
    (db.modifyRoot f).nodeByKey key = db.nodeByKey key := by
  rw [modifyRoot, nodeByKey_setNode, if_neg fun heq => hk (heq.symm.trans hr)]

theorem root_modifyRoot (hk : (f db.root).publicKey = db.thisNode) : (db.modifyRoot f).root = f db.root := by
  rw [modifyRoot, root_setNode, if_pos hk]

/-- `nodes_mut` (neighborhood_database.rs:103): changes every record, whose keys stay. -/
def mapNodes (f : NodeRecord → NodeRecord) (hkey : ∀ r, (f r).publicKey = r.publicKey) (db : NeighborhoodDatabase) :
    NeighborhoodDatabase where
  thisNode := db.thisNode
  byPublicKey := db.byPublicKey.mapRows f hkey
  byIpAddr := db.byIpAddr
  root_isSome := by
    rw [Table.find_mapRows, Option.isSome_map]
    exact db.root_isSome

theorem nodeByKey_mapNodes (f : NodeRecord → NodeRecord) (hk : ∀ r, (f r).publicKey = r.publicKey)
    (db : NeighborhoodDatabase) (key : PublicKey) : (db.mapNodes f hk).nodeByKey key = (db.nodeByKey key).map f :=
  Table.find_mapRows db.byPublicKey f hk key

variable (db)

/-- neighborhood_database.rs:341 -/
def addArbitraryNode (r : NodeRecord) : NeighborhoodDatabase :=
  match r.ipAddrOpt with
  | none => db.setNode r
  | some ipAddr => { db.setNode r with byIpAddr := Function.update db.byIpAddr ipAddr (some r.publicKey) }

/-- neighborhood_database.rs:151 -/
def addNode (r : NodeRecord) : Except NeighborhoodDatabaseError (PublicKey × NeighborhoodDatabase) := do
  failIf (∃ nodeAddr ∈ r.nodeAddrOpt, nodeAddr.ports = []) .emptyPortList
  failIf (r.publicKey ∈ db.keys) (.nodeKeyCollision r.publicKey)
  return (r.publicKey, db.addArbitraryNode r)

/-- neighborhood_database.rs:165: makes a known node a neighbor of the root. -/
def addHalfNeighbor (now : Nat) (newNeighbor : PublicKey) (db : NeighborhoodDatabase) :
    Except NeighborhoodDatabaseError (Bool × NeighborhoodDatabase) :=
  if newNeighbor ∉ db.keys then .error (.nodeKeyNotFound newNeighbor)
  else if db.hasHalfNeighbor db.thisNode newNeighbor then .ok (false, db)
  else do
    let root ← db.root.addHalfNeighborKey newNeighbor
    return (true, db.setNode { root with metadata.lastUpdate := now })

theorem nodeByKey_addArbitraryNode :
    (db.addArbitraryNode r).nodeByKey key = if r.publicKey = key then some r else db.nodeByKey key := by
  unfold addArbitraryNode
  split <;> exact nodeByKey_setNode db

theorem byIpAddr_addArbitraryNode : (db.addArbitraryNode r).byIpAddr =
    r.ipAddrOpt.elim db.byIpAddr fun ip => Function.update db.byIpAddr ip (some r.publicKey) := by
  unfold addArbitraryNode
  split <;> simp [*]

variable {db}

theorem mem_keys_addArbitraryNode : key ∈ (db.addArbitraryNode r).keys ↔ r.publicKey = key ∨ key ∈ db.keys := by
  unfold addArbitraryNode
  split <;> exact mem_keys_setNode

@[simp] theorem thisNode_addArbitraryNode : (db.addArbitraryNode r).thisNode = db.thisNode := by
  unfold addArbitraryNode
  split <;> rfl

theorem addNode_eq_ok_iff {result : PublicKey × NeighborhoodDatabase} :
    db.addNode r = .ok result ↔ (∀ nodeAddr ∈ r.metadata.nodeAddrOpt, nodeAddr.ports ≠ []) ∧ r.publicKey ∉ db.keys ∧
      (r.publicKey, db.addArbitraryNode r) = result := by
  simp only [addNode, bind_eq_ok, failIf_eq_ok, pure_eq_ok]
  simp [NodeRecord.nodeAddrOpt]

theorem addHalfNeighbor_eq_ok_iff {now : Nat} :
    db.addHalfNeighbor now key = .ok re ↔ key ∈ db.keys ∧ (key ∈ db.root.inner.neighbors ∧ re = (false, db) ∨
        key ∉ db.root.inner.neighbors ∧ key ≠ db.thisNode ∧ re = (true, db.modifyRoot fun root =>
            { root with
              inner.neighbors := root.inner.neighbors.orderedInsert (· ≤ ·) key
              metadata.lastUpdate := now })) := by
  have hh : db.hasHalfNeighbor db.thisNode key = true ↔ key ∈ db.root.inner.neighbors := by
    simp [hasHalfNeighbor, NodeRecord.hasHalfNeighbor]
  unfold addHalfNeighbor NodeRecord.addHalfNeighborKey modifyRoot
  by_cases hk : key ∈ db.keys
  · by_cases ho : key ∈ db.root.inner.neighbors
    · simp [hk, hh, ho, eq_comm]
    · by_cases hs : key = db.thisNode
      · have hr : db.thisNode ∉ db.root.inner.neighbors := hs ▸ ho
        simp [hs, hr, thisNode_mem_keys, hasHalfNeighbor, NodeRecord.hasHalfNeighbor, bind, Except.bind]
      · simp [hk, hh, ho, hs, eq_comm]
  · simp [hk]

theorem root_addArbitraryNode (h : r.publicKey ≠ db.thisNode) : (db.addArbitraryNode r).root = db.root := by
  have hr := (db.addArbitraryNode r).nodeByKey_thisNode
  rw [thisNode_addArbitraryNode, nodeByKey_addArbitraryNode, if_neg h, nodeByKey_thisNode] at hr
  exact (Option.some.inj hr).symm

/-! ## A new database -/

/-- neighborhood_database.rs:44, with the capabilities that `Neighborhood::new` (mod.rs:594) sets afterwards. -/
def firstRecord (C : GossipPrimitives) (now : Nat) (mode : NeighborhoodMode) (earningWallet : Address)
    (publicKey : PublicKey) (configuredContractOpt : Option Address) : NodeRecord :=
  let receiptSettlementContractOpt := if mode = .zeroHop then none else configuredContractOpt
  NodeRecord.regenerateSignedGossip C
    { inner :=
        { publicKey, earningWallet
          ratePack := mode.ratePack
          neighbors := []
          acceptsConnections := mode.acceptsConnections
          routesData := mode.routesData
          version := 0
          countryCodeOpt := mode.nodeAddrOpt.bind fun nodeAddr => C.findCountry nodeAddr.ipAddr
          protocolCapabilities := if receiptSettlementContractOpt.isSome then 3 else 0
          receiptSettlementContractOpt }
      metadata := { lastUpdate := now, nodeAddrOpt := mode.nodeAddrOpt }
      signedGossip := []
      signature := [] }

def ofRoot (r : NodeRecord) : NeighborhoodDatabase where
  thisNode := r.publicKey
  byPublicKey := ⟨[r], by simp⟩
  byIpAddr := fun ipAddr => if r.ipAddrOpt = some ipAddr then some r.publicKey else none
  root_isSome := by simp [Table.find]

theorem nodeByKey_ofRoot : (ofRoot r).nodeByKey key = if r.publicKey = key then some r else none := by
  by_cases hk : r.publicKey = key <;> simp [ofRoot, nodeByKey, Table.find, hk]

@[simp] theorem root_ofRoot : (ofRoot r).root = r := by
  have h := (ofRoot r).nodeByKey_thisNode
  rw [nodeByKey_ofRoot, if_pos (show r.publicKey = (ofRoot r).thisNode from rfl)] at h
  exact (Option.some.inj h).symm

/-! ## Removing -/

/-- neighborhood_database.rs:193: the address of a node is forgotten, and leaves the index under whatever key it stands
there. -/
def forgetNodeAddr (toRemove : NodeRecord) (db : NeighborhoodDatabase) : NeighborhoodDatabase :=
  let forgotten := db.setNode toRemove.unsetNodeAddr
  match toRemove.ipAddrOpt with
  | none => forgotten
  | some ipAddr => { forgotten with byIpAddr := Function.update forgotten.byIpAddr ipAddr none }

theorem byIpAddr_forgetNodeAddr : (db.forgetNodeAddr t).byIpAddr =
    t.ipAddrOpt.elim db.byIpAddr fun ip => Function.update db.byIpAddr ip none := by
  unfold forgetNodeAddr
  split <;> simp [*]

/-- neighborhood_database.rs:190; the error is a text that names the key. -/
def removeNeighbor (nodeKey : PublicKey) (db : NeighborhoodDatabase) : Except PublicKey (Bool × NeighborhoodDatabase) :=
  match db.nodeByKey nodeKey with
  | none => .error nodeKey
  | some toRemove =>
    let unindexed := db.forgetNodeAddr toRemove
    if unindexed.root.hasHalfNeighbor nodeKey then
      .ok (true, unindexed.modifyRoot fun root => (root.removeHalfNeighborKey nodeKey).incrementVersion)
    else .ok (false, unindexed)

/-- neighborhood_database.rs:220. Its one caller never removes the root. -/
def removeNode (db : NeighborhoodDatabase) (nodeKey : PublicKey) (hroot : nodeKey ≠ db.thisNode) :
    NeighborhoodDatabase where
  thisNode := db.thisNode
  byPublicKey := db.byPublicKey.erase nodeKey
  byIpAddr :=
    match (db.nodeByKey nodeKey).bind NodeRecord.ipAddrOpt with
    | none => db.byIpAddr
    | some ipAddr => Function.update db.byIpAddr ipAddr none
  root_isSome := by
    rw [Table.find_erase, if_neg hroot.symm]
    exact db.root_isSome

def removeNodes (db : NeighborhoodDatabase) :
    (nodeKeys : List PublicKey) → db.thisNode ∉ nodeKeys → NeighborhoodDatabase
  | [], _ => db
  | nodeKey :: nodeKeys, hroot =>
    removeNodes (db.removeNode nodeKey fun h => hroot (by simp [h])) nodeKeys fun h => hroot (List.mem_cons_of_mem _ h)

/-- The nodes that nobody lists as a neighbor and that have not been updated for some time. -/
def toCull (now : Nat) (db : NeighborhoodDatabase) : List PublicKey :=
  (db.byPublicKey.rows.filter fun r => r.publicKey ∉ db.referencedNodeKeys ∧
    r.metadata.lastUpdate ≤ wrappingSub 32 now isolatedNodeGracePeriodSecs).map NodeRecord.publicKey

theorem mem_toCull {now : Nat} (h : key ∈ db.toCull now) : key ∉ db.referencedNodeKeys := by
  simp only [toCull, List.mem_map, List.mem_filter, decide_eq_true_eq] at h
  obtain ⟨r, ⟨-, hn, -⟩, rfl⟩ := h
  exact hn

theorem thisNode_notMem_toCull (now : Nat) (db : NeighborhoodDatabase) : db.thisNode ∉ db.toCull now :=
  fun h => mem_toCull h (by simp [referencedNodeKeys])

/-- neighborhood_database.rs:231 -/
def cullDeadNodes (now : Nat) (db : NeighborhoodDatabase) : NeighborhoodDatabase :=
  db.removeNodes (db.toCull now) (db.thisNode_notMem_toCull now)

/-- neighborhood_database.rs:274 -/
def newPublicIp (publicIp : IpAddr) (db : NeighborhoodDatabase) : Except NeighborhoodPanic NeighborhoodDatabase :=
  match db.root.metadata.nodeAddrOpt with
  | none => .error .rootNodeAddr
  | some oldNodeAddr =>
    let moved := db.modifyRoot fun root =>
      { root with metadata.nodeAddrOpt := some (.new publicIp oldNodeAddr.clone.ports) }
    .ok { moved with
          byIpAddr := Function.update (Function.update db.byIpAddr oldNodeAddr.ipAddr none) publicIp
            (some db.root.publicKey) }

variable {nk : PublicKey}

@[simp] theorem thisNode_removeNode (hr : nk ≠ db.thisNode) : (db.removeNode nk hr).thisNode = db.thisNode := rfl

theorem nodeByKey_removeNode (hr : nk ≠ db.thisNode) :
    (db.removeNode nk hr).nodeByKey key = if key = nk then none else db.nodeByKey key :=
  Table.find_erase

theorem byIpAddr_removeNode (hr : nk ≠ db.thisNode) : (db.removeNode nk hr).byIpAddr =
    ((db.nodeByKey nk).bind NodeRecord.ipAddrOpt).elim db.byIpAddr fun ip => Function.update db.byIpAddr ip none := by
  cases h : (db.nodeByKey nk).bind NodeRecord.ipAddrOpt <;> simp [removeNode, h]

theorem root_removeNode (hr : nk ≠ db.thisNode) : (db.removeNode nk hr).root = db.root := by
  have h := (db.removeNode nk hr).nodeByKey_thisNode
  rw [thisNode_removeNode, nodeByKey_removeNode, if_neg hr.symm, nodeByKey_thisNode] at h
  exact (Option.some.inj h).symm

/-- Nodes are removed one after the other: what every removal keeps, culling keeps. -/
theorem removeNodes_induction (Inv : NeighborhoodDatabase → Prop) {nk : List PublicKey}
    (hs : ∀ db' nodeKey, (hr : nodeKey ≠ db'.thisNode) → nodeKey ∈ nk → Inv db' →
      Inv (db'.removeNode nodeKey hr)) (h : Inv db) (hr : db.thisNode ∉ nk) :
    Inv (db.removeNodes nk hr) := by
  induction nk generalizing db with
  | nil => exact h
  | cons nodeKey nk ih =>
    refine ih (fun db' key hk hm => hs db' key hk (List.mem_cons_of_mem _ hm)) ?_ _
    exact hs db nodeKey _ List.mem_cons_self h

theorem root_cullDeadNodes : (db.cullDeadNodes now).root = db.root :=
  removeNodes_induction (fun db' => db'.root = db.root) (fun _ _ hr _ h => (root_removeNode hr).trans h) rfl _

end NeighborhoodDatabase

end MasqMobile
