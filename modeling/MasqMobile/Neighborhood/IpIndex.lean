import MasqMobile.Lib.ReverseIndex
import MasqMobile.Neighborhood.Steps

/-!
# The index of addresses

`by_ip_addr` is to find a node by its address. It is written when a node is added, when the Node's own address
changes, and when a node is removed; it is not written when `NodeRecord::update` learns the address of a node that was
known without one, and an entry is overwritten or removed without looking at whose it is.

| here | there |
| --- | --- |
| `nodeByIp` | neighborhood_database.rs:110 |
| `removeNeighbor`, `removeNode` | neighborhood_database.rs:190, 220 |
| `newPublicIp`, `addArbitraryNode` | neighborhood_database.rs:274, 341 |
| `NodeRecord.update` | node_record.rs:348 |
-/

namespace MasqMobile

open Fallible ReverseIndex Neighborhood Function NodeRecord

variable {f : NodeRecord → NodeRecord}

namespace NeighborhoodDatabase

variable {db : NeighborhoodDatabase} {key : PublicKey} {ip : IpAddr} {db' : NeighborhoodDatabase} {nodeKey : PublicKey}

def knownIp (db : NeighborhoodDatabase) (key : PublicKey) : Option IpAddr :=
  (db.nodeByKey key).bind NodeRecord.ipAddrOpt

theorem knownIp_eq_some_iff : db.knownIp key = some ip ↔ ∃ r, db.nodeByKey key = some r ∧ r.ipAddrOpt = some ip := by
  simp [knownIp, Option.bind_eq_some_iff]

theorem knownIp_of_nodeByKey (h : db.nodeByKey key = some r) : db.knownIp key = r.ipAddrOpt := by
  simp [knownIp, h]

theorem knownIp_eq_none (h : key ∉ db.keys) : db.knownIp key = none := by
  have hno : db.nodeByKey key = none := by
    cases hn : db.nodeByKey key with
    | none => rfl
    | some r => exact absurd (mem_keys_iff.2 ⟨r, hn⟩) h
  simp [knownIp, hno]

theorem finds_iff : Finds db.byIpAddr db.knownIp ↔
    ∀ ip key, db.byIpAddr ip = some key → ∃ r, db.nodeByKey key = some r ∧ r.ipAddrOpt = some ip := by
  simp only [Finds, knownIp_eq_some_iff]

def IndexAgrees (db : NeighborhoodDatabase) : Prop := Indexes db.byIpAddr db.knownIp

/-! ## Operations on the database -/

theorem knownIp_setNode (db : NeighborhoodDatabase) (r : NodeRecord) :
    (db.setNode r).knownIp = update db.knownIp r.publicKey r.ipAddrOpt := by
  funext key
  by_cases hk : key = r.publicKey
  · subst hk
    simp [knownIp, nodeByKey_setNode]
  · simp [knownIp, nodeByKey_setNode, update_of_ne hk, Ne.symm hk]

/-- A record with the address that is known already changes no address. -/
theorem knownIp_setNode_same (h : r.ipAddrOpt = db.knownIp r.publicKey) : (db.setNode r).knownIp = db.knownIp := by
  rw [knownIp_setNode, h, update_eq_self]

theorem knownIp_modifyRoot (hk : (f db.root).publicKey = db.thisNode)
    (hip : (f db.root).ipAddrOpt = db.root.ipAddrOpt) : (db.modifyRoot f).knownIp = db.knownIp := by
  refine knownIp_setNode_same ?_
  rw [hip, hk, knownIp_of_nodeByKey db.nodeByKey_thisNode]

theorem knownIp_mapNodes (f : NodeRecord → NodeRecord) (hk : ∀ r, (f r).publicKey = r.publicKey)
    (hip : ∀ r, (f r).ipAddrOpt = r.ipAddrOpt) (db : NeighborhoodDatabase) :
    (db.mapNodes f hk).knownIp = db.knownIp := by
  funext key
  cases hn : db.nodeByKey key <;> simp [knownIp, nodeByKey_mapNodes, hn, hip]

theorem knownIp_addArbitraryNode : (db.addArbitraryNode r).knownIp = update db.knownIp r.publicKey r.ipAddrOpt := by
  unfold addArbitraryNode
  split <;> exact knownIp_setNode db r

theorem knownIp_removeNode (hr : nodeKey ≠ db.thisNode) :
    (db.removeNode nodeKey hr).knownIp = update db.knownIp nodeKey none := by
  funext key
  by_cases hk : key = nodeKey
  · simp [knownIp, nodeByKey_removeNode, hk]
  · simp [knownIp, nodeByKey_removeNode, hk]

theorem IndexAgrees.of_same (h : db.IndexAgrees) (hid : db'.byIpAddr = db.byIpAddr)
    (hk : db'.knownIp = db.knownIp) : db'.IndexAgrees := by
  unfold IndexAgrees
  rw [hid, hk]
  exact h

theorem ofRoot_agrees (r : NodeRecord) : (ofRoot r).IndexAgrees := by
  intro ip key
  have hid : (ofRoot r).byIpAddr ip = if r.ipAddrOpt = some ip then some r.publicKey else none := rfl
  have hkn : (ofRoot r).knownIp key = if r.publicKey = key then r.ipAddrOpt else none := by
    by_cases hk : r.publicKey = key <;> simp [knownIp, nodeByKey_ofRoot, hk]
  rw [hid, hkn]
  by_cases hip : r.ipAddrOpt = some ip <;> by_cases hk : r.publicKey = key <;> simp [hip, hk]

/-- A node is added under an address that nobody has. -/
theorem IndexAgrees.addArbitraryNode (h : db.IndexAgrees) (hne : r.publicKey ∉ db.keys)
    (hf : ∀ ip, r.ipAddrOpt = some ip → ∀ key, db.knownIp key ≠ some ip) : (db.addArbitraryNode r).IndexAgrees := by
  unfold IndexAgrees
  rw [byIpAddr_addArbitraryNode, knownIp_addArbitraryNode]
  exact h.insert (knownIp_eq_none hne) fun ip hip => h.eq_none (hf ip hip)

theorem IndexAgrees.removeNode (h : db.IndexAgrees) (hr : nodeKey ≠ db.thisNode) :
    (db.removeNode nodeKey hr).IndexAgrees := by
  unfold IndexAgrees
  rw [byIpAddr_removeNode, knownIp_removeNode]
  exact h.erase nodeKey

theorem IndexAgrees.cullDeadNodes (h : db.IndexAgrees) (now : Nat) : (db.cullDeadNodes now).IndexAgrees :=
  removeNodes_induction IndexAgrees (fun _ _ hr _ hdb => hdb.removeNode hr) h _

theorem knownIp_forgetNodeAddr (hn : db.nodeByKey key = some t) :
    (db.forgetNodeAddr t).knownIp = update db.knownIp key none := by
  have hs : (db.setNode t.unsetNodeAddr).knownIp = update db.knownIp key none := by
    rw [knownIp_setNode, publicKey_unsetNodeAddr, publicKey_of_nodeByKey hn]
    rfl
  unfold forgetNodeAddr
  split <;> exact hs

theorem IndexAgrees.forgetNodeAddr (h : db.IndexAgrees) (hn : db.nodeByKey key = some t) :
    (db.forgetNodeAddr t).IndexAgrees := by
  unfold IndexAgrees
  rw [byIpAddr_forgetNodeAddr, knownIp_forgetNodeAddr hn, ← knownIp_of_nodeByKey hn]
  exact h.erase key

/-- Removing a neighbor forgets its address; it may also strike it off the root's neighbors. -/
theorem IndexAgrees.removeNeighbor (hdb : db.IndexAgrees) (h : db.removeNeighbor nodeKey = .ok (d, db')) :
    db'.IndexAgrees ∧ db'.knownIp = update db.knownIp nodeKey none := by
  unfold NeighborhoodDatabase.removeNeighbor at h
  cases hn : db.nodeByKey nodeKey with
  | none => simp [hn] at h
  | some toRemove =>
    have ha := hdb.forgetNodeAddr hn
    have hk := knownIp_forgetNodeAddr hn
    simp only [hn] at h
    split_ifs at h
    · cases h
      have hr : ((db.forgetNodeAddr toRemove).modifyRoot fun root =>
          (root.removeHalfNeighborKey nodeKey).incrementVersion).knownIp = (db.forgetNodeAddr toRemove).knownIp :=
        knownIp_modifyRoot (by simp) rfl
      exact ⟨ha.of_same rfl hr, hr.trans hk⟩
    · cases h
      exact ⟨ha, hk⟩

/-- The Node moves to an address that nobody else has. -/
theorem IndexAgrees.newPublicIp (hdb : db.IndexAgrees) {publicIp : IpAddr}
    (hf : ∀ key, db.knownIp key = some publicIp → key = db.thisNode) (h : db.newPublicIp publicIp = .ok db') :
    db'.IndexAgrees := by
  unfold NeighborhoodDatabase.newPublicIp at h
  split at h
  · cases h
  · next oldNodeAddr ho =>
    cases h
    have hr : db.knownIp db.thisNode = some oldNodeAddr.ipAddr := by
      rw [knownIp_of_nodeByKey db.nodeByKey_thisNode, NodeRecord.ipAddrOpt, ho]
      rfl
    have he := hdb.erase db.thisNode
    rw [hr] at he
    have hn : ∀ key, update db.knownIp db.thisNode none key ≠ some publicIp := by
      intro key hk
      by_cases hs : key = db.thisNode
      · simp [hs] at hk
      · rw [update_of_ne hs] at hk
        exact hs (hf key hk)
    have hm := he.insert (o := some publicIp) (update_self db.thisNode none db.knownIp)
      fun ip hip => he.eq_none (Option.some.inj hip ▸ hn)
    rw [update_idem] at hm
    have hkn : (db.modifyRoot fun root =>
        { root with metadata.nodeAddrOpt := some (.new publicIp oldNodeAddr.clone.ports) }).knownIp =
          update db.knownIp db.thisNode (some publicIp) := by
      rw [modifyRoot, knownIp_setNode]
      exact congrArg (update db.knownIp · (some publicIp)) db.publicKey_root
    have ha : Indexes (update (update db.byIpAddr oldNodeAddr.ipAddr none) publicIp (some db.root.publicKey))
        (db.modifyRoot fun root =>
          { root with metadata.nodeAddrOpt := some (.new publicIp oldNodeAddr.clone.ports) }).knownIp := by
      rw [hkn, publicKey_root]
      exact hm
    exact ha

end NeighborhoodDatabase

open NeighborhoodDatabase

/-! ## Gossip -/

theorem ipAddrOpt_update {now : Nat} {agr : AccessibleGossipRecord} {r r' : NodeRecord}
    (hs : r.ipAddrOpt = none → agr.ipAddrOpt = none) (h : r.update now agr = .ok r') : r'.ipAddrOpt = r.ipAddrOpt := by
  obtain ⟨-, -, nodeAddrOpt, ha, rfl⟩ := update_eq_ok_iff.1 h
  simp only [NodeRecord.ipAddrOpt, AccessibleGossipRecord.ipAddrOpt, Option.map_eq_none_iff] at hs ⊢
  cases ho : r.metadata.nodeAddrOpt with
  | none =>
    rw [ho, hs ho] at ha
    cases ha
    rfl
  | some existing =>
    cases hn : agr.nodeAddrOpt with
    | none =>
      rw [ho, hn] at ha
      cases ha
      rfl
    | some incoming =>
      rw [ho, hn] at ha
      simp only [updatedAddr] at ha
      split_ifs at ha
      cases ha
      rfl

/-- No record gives a node an address that the index would not learn of or that is another node's: a newer record of a
node that is known without an address brings none, and a new node has an address that no known node has. -/
def AddressesApart (db : NeighborhoodDatabase) (agrs : List AccessibleGossipRecord)
    (gossipSource : SocketAddr) : Prop :=
  ∀ agr ∈ agrs, (∀ r, db.nodeByKey agr.inner.publicKey = some r → r.version < agr.inner.version → r.ipAddrOpt = none →
      agr.ipAddrOpt = none) ∧
    (agr.inner.publicKey ∉ db.keys → ∀ ip, Announces agrs gossipSource agr (some ip) → ∀ key, db.knownIp key ≠ some ip)

section

variable {now : Nat} {agrs : List AccessibleGossipRecord} {gossipSource : SocketAddr}
    {before db db' : NeighborhoodDatabase}
  {agr agr' : AccessibleGossipRecord} {r : NodeRecord}

/-- One address is announced by one record. -/
theorem Announces.unique (hd : AddressesDiffer agrs) (ha : agr ∈ agrs)
    (ha' : agr' ∈ agrs) (h : Announces agrs gossipSource agr (some ip))
    (h' : Announces agrs gossipSource agr' (some ip)) : agr = agr' := by
  obtain h | ⟨rfl, -, -⟩ := h
  · obtain h' | ⟨rfl, -, -⟩ := h'
    · by_contra hne
      let Differ (agr agr' : AccessibleGossipRecord) := ∀ ip ∈ agr.ipAddrOpt, ∀ ip' ∈ agr'.ipAddrOpt, ip ≠ ip'
      have hs : Std.Symm Differ := ⟨fun _ _ hxy ip hip ip' hip' => (hxy ip' hip' ip hip).symm⟩
      have hp : agrs.Pairwise Differ := List.pairwise_filterMap.1 hd
      exact hp.forall ha ha' hne ip h.symm ip h'.symm rfl
    · exact List.mem_singleton.1 ha
  · exact (List.mem_singleton.1 ha').symm

/-- In the middle of a message: what was known stays, and what is new has been announced. -/
structure MidMessage (agrs : List AccessibleGossipRecord) (gossipSource : SocketAddr)
    (before db : NeighborhoodDatabase) :
    Prop where
  agrees : db.IndexAgrees
  keys : before.keys ⊆ db.keys
  known : ∀ key ∈ before.keys, db.knownIp key = before.knownIp key
  announced : ∀ key ∉ before.keys, ∀ ip, db.knownIp key = some ip →
    ∃ agr ∈ agrs, agr.inner.publicKey = key ∧ Announces agrs gossipSource agr (some ip)

section

variable (h : MidMessage agrs gossipSource before db)
include h

theorem MidMessage.setNode
    (hk : (db.setNode r).knownIp = db.knownIp) : MidMessage agrs gossipSource before (db.setNode r) where
  agrees := h.agrees.of_same rfl hk
  keys := fun _ hke => mem_keys_setNode.2 (.inr (h.keys hke))
  known := hk ▸ h.known
  announced := hk ▸ h.announced

theorem MidMessage.modifyRoot (hk : (f db.root).publicKey = db.thisNode)
    (hip : (f db.root).ipAddrOpt = db.root.ipAddrOpt) :
    MidMessage agrs gossipSource before (db.modifyRoot f) := h.setNode (knownIp_modifyRoot hk hip)

theorem MidMessage.insert (hd : AddressesDiffer agrs) (hap : AddressesApart before agrs gossipSource)
    (hag : agr ∈ agrs) (hin : r.inner = agr.inner) (ha : Announces agrs gossipSource agr r.ipAddrOpt)
    (hn : r.publicKey ∉ db.keys) : MidMessage agrs gossipSource before (db.addArbitraryNode r) := by
  have hke : agr.inner.publicKey = r.publicKey := by rw [NodeRecord.publicKey, hin]
  have hu : r.publicKey ∉ before.keys := fun hm => hn (h.keys hm)
  have hf : ∀ ip, r.ipAddrOpt = some ip → ∀ key, db.knownIp key ≠ some ip := by
    intro ip hip key hk
    rw [hip] at ha
    by_cases ho : key ∈ before.keys
    · exact (hap agr hag).2 (hke ▸ hu) ip ha key (h.known key ho ▸ hk)
    · -- another new node with this address was announced by the same record, so it is the same node
      obtain ⟨agr', hag', hke', ha'⟩ := h.announced key ho ip hk
      obtain rfl := ha.unique hd hag hag' ha'
      rw [← hke', hke, knownIp_eq_none hn] at hk
      cases hk
  refine ⟨h.agrees.addArbitraryNode hn hf, fun key ho => mem_keys_addArbitraryNode.2 (.inr (h.keys ho)), ?_, ?_⟩
  · intro key ho
    have hne : key ≠ r.publicKey := fun heq => hu (heq ▸ ho)
    rw [knownIp_addArbitraryNode, update_of_ne hne]
    exact h.known key ho
  · intro key ho ip hk
    rw [knownIp_addArbitraryNode] at hk
    by_cases heq : key = r.publicKey
    · subst heq
      rw [update_self] at hk
      exact ⟨agr, hag, hke, hk ▸ ha⟩
    · rw [update_of_ne heq] at hk
      exact h.announced key ho ip hk

theorem MidMessage.update (hap : AddressesApart before agrs gossipSource) {old r' : NodeRecord} (hag : agr ∈ agrs)
    (ha : agr'.ipAddrOpt = agr.ipAddrOpt) (ho : before.nodeByKey agr.inner.publicKey = some old)
    (hne : old.version < agr.inner.version) (hr : db.nodeByKey agr.inner.publicKey = some r)
    (hu : r.update now agr' = .ok r') : MidMessage agrs gossipSource before (db.setNode r') := by
  have hk : r'.publicKey = agr.inner.publicKey := (publicKey_update hu).trans (publicKey_of_nodeByKey hr)
  have hs : r.ipAddrOpt = old.ipAddrOpt := by
    rw [← knownIp_of_nodeByKey hr, ← knownIp_of_nodeByKey ho]
    exact h.known _ (mem_keys_iff.2 ⟨old, ho⟩)
  have hst : r.ipAddrOpt = none → agr'.ipAddrOpt = none := by
    intro hn
    rw [ha]
    exact (hap agr hag).1 old ho hne (hs ▸ hn)
  refine h.setNode (knownIp_setNode_same ?_)
  rw [hk, knownIp_of_nodeByKey hr]
  exact ipAddrOpt_update hst hu

theorem MidMessage.change (hd : AddressesDiffer agrs)
    (hap : AddressesApart before agrs gossipSource) (hc : Change C now agrs gossipSource before db db') :
    MidMessage agrs gossipSource before db' := by
  cases hc with
  | insert hag hin ha hne => exact h.insert hd hap hag hin ha hne
  | update hag _ ha _ ho hn hr hu => exact h.update hap hag ha ho hn hr hu
  | neighbor | republish => exact h.modifyRoot db.publicKey_root rfl

end

/-- Gossip whose addresses are apart leaves the index right. -/
theorem Changes.indexAgrees (h : Changes C now agrs gossipSource before before db) (hd : AddressesDiffer agrs)
    (ha : AddressesApart before agrs gossipSource) (hb : before.IndexAgrees) : db.IndexAgrees := by
  have hm : MidMessage agrs gossipSource before db := by
    induction h with
    | refl =>
      refine ⟨hb, List.Subset.refl _, fun _ _ => rfl, fun key hk ip hip => ?_⟩
      rw [knownIp_eq_none hk] at hip
      cases hip
    | tail _ hl ih => exact ih.change hd ha hl
  exact hm.agrees

end

/-! ## Runs -/

namespace Neighborhood

variable {C : GossipPrimitives} {m : Moment} {n n' : Neighborhood}

theorem Upkeep.indexAgrees (h : Upkeep C m n n') (hn : n.database.IndexAgrees) : n'.database.IndexAgrees := by
  cases h with
  | countries | route | accountant | send => exact hn
  | regenerate => exact hn.of_same rfl (knownIp_modifyRoot n.database.publicKey_root rfl)
  | cull => exact hn.cullDeadNodes m.now

theorem Upkeeps.indexAgrees (h : Upkeeps C m n n') (hn : n.database.IndexAgrees) : n'.database.IndexAgrees :=
  h.invariant (fun n => n.database.IndexAgrees) (fun _ _ => Upkeep.indexAgrees) hn

/-- Pricing the nodes leaves the addresses alone. -/
theorem Priced.indexAgrees (h : Priced db db') (hn : db.IndexAgrees) : db'.IndexAgrees := by
  cases h with
  | refl => exact hn
  | map hk hf =>
    refine hn.of_same rfl (knownIp_mapNodes _ hk (fun r => ?_) _)
    rw [NodeRecord.ipAddrOpt, (hf r).2.2.2]
    rfl

/-- The messages after which the index is right if it was before. -/
def KeepsIndex (C : GossipPrimitives) (n : Neighborhood) : NeighborhoodEvent → Prop
  | .gossip incomingGossip gossipSource =>
    AddressesApart n.database (incomingGossip.filterMap (accessible C)) gossipSource
  | .newPublicIp newIp => ∀ key, n.database.knownIp key = some newIp → key = n.database.thisNode
  | _ => True

theorem step_indexAgrees (hk : KeepsIndex C n e) (h : n.step C m e = .ok n')
    (hn : n.database.IndexAgrees) : n'.database.IndexAgrees := by
  cases step_effect h with
  | gossip h =>
    obtain rfl | he := handleGossip_effect h
    · exact hn
    · obtain ⟨database, acceptor, rfl | ⟨hd, hc⟩, hu⟩ := he.changed
      · exact hu.indexAgrees hn
      · exact hu.indexAgrees (hc.indexAgrees hd hk hn)
  | removed hr hu => exact hu.indexAgrees (hn.removeNeighbor hr).1
  | @moved _ database hm => exact (hn.newPublicIp hk hm).of_same rfl (knownIp_modifyRoot database.publicKey_root rfl)
  | kept hu => exact hu.indexAgrees hn
  | adjusted ha => exact ha.database.indexAgrees hn

end Neighborhood

/-- **The index agrees with the records** in every state of a run whose messages keep addresses apart: it finds every
node with a known address and no other, and removing a node hides no other. -/
theorem ip_index_agrees {C : GossipPrimitives} {n n' : Neighborhood} (hfresh : n.IsFresh C)
    (hrun : Reaches C (KeepsIndex C) n n') :
    (∀ ip key, n'.database.byIpAddr ip = some key ↔ ∃ r, n'.database.nodeByKey key = some r ∧ r.ipAddrOpt = some ip) ∧
    (∀ ip r, n'.database.nodeByIp ip = some r ↔ n'.database.nodeByKey r.publicKey = some r ∧ r.ipAddrOpt = some ip) ∧
    (∀ key dbChanged db, n'.database.removeNeighbor key = .ok (dbChanged, db) → ∀ ip other, other ≠ key →
      n'.database.byIpAddr ip = some other → db.byIpAddr ip = some other) := by
  have hs : n.database.IndexAgrees := by
    obtain ⟨now, mode, earningWallet, publicKey, contractOpt, hdb⟩ := hfresh.database
    rw [hdb]
    exact ofRoot_agrees _
  have ha : n'.database.IndexAgrees :=
    hrun.invariant (fun n => n.database.IndexAgrees) (fun _ _ _ _ => step_indexAgrees) hs
  refine ⟨fun ip key => (ha ip key).trans knownIp_eq_some_iff, ?_, ?_⟩
  · intro ip r
    constructor
    · intro h
      obtain ⟨key, hid, hn⟩ := Option.bind_eq_some_iff.1 h
      obtain rfl := publicKey_of_nodeByKey hn
      exact ⟨hn, (knownIp_of_nodeByKey hn).symm.trans ((ha ip _).1 hid)⟩
    · rintro ⟨hn, hip⟩
      have hid := (ha ip r.publicKey).2 ((knownIp_of_nodeByKey hn).trans hip)
      exact Option.bind_eq_some_iff.2 ⟨r.publicKey, hid, hn⟩
  · intro key dbChanged db hr ip other ho hid
    obtain ⟨haf, hk⟩ := ha.removeNeighbor hr
    rw [haf ip other, hk, update_of_ne ho]
    exact (ha ip other).1 hid

open SmallNetwork

/-- A node that debuts is found by its address. -/
theorem debut_is_indexed :
    ∃ n', Reaches primitives (KeepsIndex primitives) node n' ∧ n'.database.byIpAddr (ip 1) = some (key 1) := by
  have hap : KeepsIndex primitives node (message [record 1 0 1 [] (listensAt 1)] 1) := by
    intro agr ha
    obtain rfl := List.mem_singleton.1 ha
    refine ⟨fun r hr => ?_, fun _ ip' han key' hk => ?_⟩
    · have hu : node.database.nodeByKey (key 1) = none := by decide +kernel
      cases hu.symm.trans hr
    · obtain heq | ⟨-, hn, -⟩ := han
      · obtain rfl : ip' = ip 1 := Option.some.inj heq
        obtain ⟨r, hr, hip⟩ := knownIp_eq_some_iff.1 hk
        rw [node, nodeByKey_ofRoot] at hr
        split_ifs at hr
        cases hr
        exact absurd hip (by decide)
      · cases hn
  obtain ⟨n', hs, hk⟩ :=
    map_eq_ok_iff.1 (show (node.step primitives moment (message [record 1 0 1 [] (listensAt 1)] 1)).map
      (fun n => n.database.knownIp (key 1)) = .ok (some (ip 1)) by decide +kernel)
  have hru : Reaches primitives (KeepsIndex primitives) node n' := .single ⟨moment, _, hap, hs⟩
  exact ⟨n', hru, ((ip_index_agrees node_isFresh hru).1 (ip 1) (key 1)).2 (knownIp_eq_some_iff.1 hk)⟩

/-- A node that was heard of without its address, and then sends its address, is not found by it. Of two nodes that
debut at one address the first is not found, and when it is removed the second is not found any more. -/
theorem ip_index_disagrees : (∃ n', Reaches primitives (fun _ _ => True) node n' ∧
      n'.database.knownIp (key 2) = some (ip 2) ∧ n'.database.byIpAddr (ip 2) = none) ∧
    (∃ n', Reaches primitives (fun _ _ => True) node n' ∧
      n'.database.knownIp (key 1) = some (ip 1) ∧ n'.database.byIpAddr (ip 1) = some (key 2)) ∧
    (∃ n', Reaches primitives (fun _ _ => True) node n' ∧
      n'.database.knownIp (key 2) = some (ip 1) ∧ n'.database.byIpAddr (ip 1) = none) := by
  have hd : ∀ events id ho entry, (node.run primitives moment events).map
          (fun n => (n.database.knownIp (key id), n.database.byIpAddr (ip ho))) = .ok (some (ip ho), entry) →
      ∃ n', Reaches primitives (fun _ _ => True) node n' ∧
        n'.database.knownIp (key id) = some (ip ho) ∧ n'.database.byIpAddr (ip ho) = entry := by
    intro events id ho entry h
    obtain ⟨n', hr, hob⟩ := map_eq_ok_iff.1 h
    exact ⟨n', reaches_of_run hr, Prod.mk.inj hob⟩
  refine ⟨?_, ?_, ?_⟩
  · exact hd [message [record 1 0 1 [2] (listensAt 1)] 1,
        message [record 1 1 1 [2] (listensAt 1), record 2 0 1 [1] none] 1,
        message [record 1 1 1 [2] none, record 2 1 1 [1] (listensAt 2)] 2] 2 2 none (by decide +kernel)
  · exact hd [message [record 1 0 1 [] (listensAt 1)] 1, message [record 2 0 1 [] (listensAt 1)] 1] 1 1 (some (key 2))
      (by decide +kernel)
  · exact hd
      [message [record 1 0 1 [] (listensAt 1)] 1, message [record 2 0 1 [] (listensAt 1)] 1, .removeNeighbor (key 1)]
      2 1 none (by decide +kernel)

end MasqMobile
