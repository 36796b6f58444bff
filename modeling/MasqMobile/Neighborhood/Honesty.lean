import MasqMobile.Neighborhood.Authenticity
import MasqMobile.Neighborhood.IpIndex
import MasqMobile.Neighborhood.Outgoing

/-!
# Honest nodes

Nodes of a network that all run this program, each at its own address. What one of them stores of another is some
record that the other has signed (`Stored`), what it sends is composed of such records (`Honest`), and a database
stays that way whatever honest messages come (`Sound`). How the neighbors of a record relate to those that the node
has now is left open here: `ever` says which nodes have ever been neighbors of which.

| here | there |
| --- | --- |
| `Honest.reveals` | gossip_producer.rs:68 |
| `standard_noBan` | gossip_acceptor.rs:1426 |
-/

namespace MasqMobile

open Fallible NeighborhoodDatabase GossipAcceptorReal GossipProducerReal GossipBuilder NodeRecord
open IntroductionHandler hiding qualifies
open StandardGossipHandler hiding qualifies

/-- The nodes of a network, with what they are configured to be. -/
structure Roster (ι : Type) where
  key : ι → PublicKey
  addr : ι → NodeAddr
  ratePack : ι → RatePack
  key_injective : Function.Injective key
  ip_injective : Function.Injective fun i => (addr i).ipAddr
  ports_ne_nil : ∀ i, (addr i).ports ≠ []
  clone_addr : ∀ i, (addr i).clone = addr i

variable {ι : Type}

/-! ## Records -/

/-- A record that a node has had at some time. -/
structure Genuine (R : Roster ι) (ever : ι → PublicKey → Prop) (i : ι) (inner : NodeRecordInner) : Prop where
  publicKey : inner.publicKey = R.key i
  ratePack : inner.ratePack = R.ratePack i
  acceptsConnections : inner.acceptsConnections = true
  neighbors : ∀ key ∈ inner.neighbors, ever i key

/-- What is stored of a node: a record of it, signed bytes of one, and its address or none. -/
structure Stored (C : ι → GossipPrimitives) (R : Roster ι) (ever : ι → PublicKey → Prop) (i : ι) (r : NodeRecord) :
    Prop where
  genuine : Genuine R ever i r.inner
  signed : ∃ told, Genuine R ever i told ∧ r.signedGossip = (C i).toCbor told
  address : r.metadata.nodeAddrOpt = none ∨ r.metadata.nodeAddrOpt = some (R.addr i)

/-- What is told of a node. -/
structure Credible (C : ι → GossipPrimitives) (R : Roster ι) (ever : ι → PublicKey → Prop) (i : ι)
    (agr : AccessibleGossipRecord) : Prop where
  genuine : Genuine R ever i agr.inner
  signed : agr.signedGossip = (C i).toCbor agr.inner
  address : agr.nodeAddrOpt = none ∨ agr.nodeAddrOpt = some (R.addr i)

/-- A database of the node `i` in which everything is stored as its owners have told it. -/
structure Records (C : ι → GossipPrimitives) (R : Roster ι) (ever : ι → PublicKey → Prop) (i : ι)
    (db : NeighborhoodDatabase) : Prop where
  thisNode : db.thisNode = R.key i
  nodes : ∀ key r, db.nodeByKey key = some r → ∃ l, Stored C R ever l r
  address : db.root.metadata.nodeAddrOpt = some (R.addr i)
  index : ∀ ip key, db.byIpAddr ip = some key → ∃ r, db.nodeByKey key = some r ∧ r.ipAddrOpt = some ip

/-- In such a database the addresses of neighbors are known. -/
structure Sound (C : ι → GossipPrimitives) (R : Roster ι) (ever : ι → PublicKey → Prop) (i : ι)
    (db : NeighborhoodDatabase) : Prop extends Records C R ever i db where
  neighbors : ∀ key ∈ db.root.inner.neighbors, key ≠ db.thisNode ∧
    ∃ r, db.nodeByKey key = some r ∧ r.metadata.nodeAddrOpt ≠ none

/-- A message from one node to another. Its records are credible and of different nodes other than the receiver; the
sender's is among them with its address, or it is a single record with an address; and a message that is more than two
records with addresses gives only addresses of the sender and of nodes that have been neighbors of the receiver. -/
structure Honest (C : ι → GossipPrimitives) (R : Roster ι) (ever : ι → PublicKey → Prop) (i j : ι)
    (agrs : List AccessibleGossipRecord) : Prop where
  records : ∀ agr ∈ agrs, ∃ l, l ≠ j ∧ Credible C R ever l agr
  nodup : (agrs.map (·.inner.publicKey)).Nodup
  sender : (∃ own ∈ agrs, own.inner.publicKey = R.key i ∧ own.nodeAddrOpt ≠ none) ∨
    ∃ agr, agrs = [agr] ∧ agr.nodeAddrOpt ≠ none
  reveals : agrs.length ≤ 2 ∧ (∀ agr ∈ agrs, agr.nodeAddrOpt ≠ none) ∨
    ∀ agr ∈ agrs, agr.nodeAddrOpt ≠ none → agr.inner.publicKey = R.key i ∨ ever j agr.inner.publicKey

section

variable {C : ι → GossipPrimitives} {R : Roster ι} {ever ever' : ι → PublicKey → Prop} {i j l l' : ι}
  {db db' : NeighborhoodDatabase} {agr : AccessibleGossipRecord} {r r' : NodeRecord} {key : PublicKey}
  {first second : AccessibleGossipRecord} {pre : NeighborhoodDatabase} {nodeAddr : NodeAddr}
  {nodeAddrOpt : Option NodeAddr} {prefs : Option UserExitPreferences} {reason : String}
  {agrs : List AccessibleGossipRecord}

/-! ### More neighbors -/

section

variable (he : ∀ l key, ever l key → ever' l key)
include he

theorem Genuine.mono {inner : NodeRecordInner} (h : Genuine R ever i inner) : Genuine R ever' i inner :=
  ⟨h.publicKey, h.ratePack, h.acceptsConnections, fun key hk => he i key (h.neighbors key hk)⟩

theorem Stored.mono (h : Stored C R ever i r) : Stored C R ever' i r := by
  obtain ⟨told, ht, hs⟩ := h.signed
  exact ⟨h.genuine.mono he, ⟨told, ht.mono he, hs⟩, h.address⟩

theorem Credible.mono (h : Credible C R ever i agr) : Credible C R ever' i agr :=
  ⟨h.genuine.mono he, h.signed, h.address⟩

theorem Sound.mono (h : Sound C R ever i db) : Sound C R ever' i db :=
  { h with nodes := fun key r hr => (h.nodes key r hr).imp fun _ hs => hs.mono he }

theorem Honest.mono (h : Honest C R ever i j agrs) : Honest C R ever' i j agrs :=
  { h with
    records := fun agr ha => (h.records agr ha).imp fun _ hc => ⟨hc.1, hc.2.mono he⟩
    reveals := h.reveals.imp_right fun hal agr ha hs => (hal agr ha hs).imp_right (he j _) }

end

/-! ### Owners -/

/-- The owner of a record is told by its key. -/
theorem Records.stored (h : Records C R ever i db) (hr : db.nodeByKey (R.key l) = some r) : Stored C R ever l r := by
  obtain ⟨l', hs⟩ := h.nodes _ r hr
  have hk : R.key l' = R.key l := hs.genuine.publicKey.symm.trans (publicKey_of_nodeByKey hr)
  exact R.key_injective hk ▸ hs

theorem Records.stored_root (h : Records C R ever i db) : Stored C R ever i db.root := by
  have hr := db.nodeByKey_thisNode
  rw [h.thisNode] at hr
  exact h.stored hr

theorem Roster.clone_eq (R : Roster ι)
    (h : nodeAddrOpt = none ∨ nodeAddrOpt = some (R.addr l)) : nodeAddrOpt.map NodeAddr.clone = nodeAddrOpt := by
  obtain rfl | rfl := h
  · rfl
  · simp [R.clone_addr]

theorem Credible.asTold (h : Credible C R ever l agr)
    (ht : AsTold nodeAddrOpt agr) : nodeAddrOpt = agr.nodeAddrOpt := by
  obtain ht | ht := ht
  · exact ht
  · rw [ht, R.clone_eq h.address]

/-- An address tells its owner. -/
theorem Credible.owner_of_ip (h : Credible C R ever l agr) (hip : agr.ipAddrOpt = some (R.addr i).ipAddr) : l = i := by
  obtain hn | hs := h.address
  · simp [AccessibleGossipRecord.ipAddrOpt, hn] at hip
  · simp only [AccessibleGossipRecord.ipAddrOpt, hs, Option.map_some, Option.some.injEq] at hip
    exact R.ip_injective hip

theorem Credible.ipAddrOpt (h : Credible C R ever l agr) (hs : agr.nodeAddrOpt ≠ none) :
    agr.ipAddrOpt = some (R.addr l).ipAddr := by
  simp [AccessibleGossipRecord.ipAddrOpt, h.address.resolve_left hs]

/-! ## Operations on the database -/

/-- A record in the place of another of the same node. -/
theorem Records.setNode (h : Records C R ever i db) (hr : db.nodeByKey r'.publicKey = some r)
    (hst : Stored C R ever l r')
    (ha : r.metadata.nodeAddrOpt ≠ none → r'.metadata.nodeAddrOpt = r.metadata.nodeAddrOpt) :
    Records C R ever i (db.setNode r') where
  thisNode := h.thisNode
  nodes key s hs := by
    rw [nodeByKey_setNode] at hs
    split_ifs at hs
    · obtain rfl := Option.some.inj hs
      exact ⟨l, hst⟩
    · exact h.nodes key s hs
  address := by
    rw [root_setNode]
    split_ifs with hro
    · rw [hro, nodeByKey_thisNode] at hr
      obtain rfl := Option.some.inj hr
      rw [ha (by simp [h.address])]
      exact h.address
    · exact h.address
  index ip key hid := by
    rw [byIpAddr_setNode] at hid
    obtain ⟨s, hs, hip⟩ := h.index ip key hid
    by_cases hk : r'.publicKey = key
    · subst hk
      obtain rfl : r = s := Option.some.inj (hr.symm.trans hs)
      refine ⟨r', by rw [nodeByKey_setNode, if_pos rfl], ?_⟩
      rw [NodeRecord.ipAddrOpt, ha (NodeAddr.ne_none_of_ip hip)]
      exact hip
    · exact ⟨s, by rw [nodeByKey_setNode, if_neg hk]; exact hs, hip⟩

variable {f : NodeRecord → NodeRecord} {now : Nat}

theorem Records.modifyRoot (h : Records C R ever i db)
    (hs : Stored C R ever i (f db.root)) (ha : (f db.root).metadata.nodeAddrOpt = db.root.metadata.nodeAddrOpt) :
    Records C R ever i (db.modifyRoot f) := by
  have hk : (f db.root).publicKey = db.thisNode := hs.genuine.publicKey.trans h.thisNode.symm
  refine h.setNode ?_ hs fun _ => ha
  rw [hk]
  exact db.nodeByKey_thisNode

section

variable (h : Sound C R ever i db)
include h

/-- A change of the root that adds no neighbor but one whose address is known. -/
theorem Sound.modifyRoot (hs : Stored C R ever i (f db.root))
    (ha : (f db.root).metadata.nodeAddrOpt = db.root.metadata.nodeAddrOpt)
    (hn : ∀ key ∈ (f db.root).inner.neighbors, key ≠ db.thisNode ∧
      ∃ r, db.nodeByKey key = some r ∧ r.metadata.nodeAddrOpt ≠ none) :
    Sound C R ever i (db.modifyRoot f) where
  toRecords := h.toRecords.modifyRoot hs ha
  neighbors key hk := by
    have hro : (f db.root).publicKey = db.thisNode := hs.genuine.publicKey.trans h.thisNode.symm
    rw [root_modifyRoot hro] at hk
    obtain ⟨ho, r, hr, hso⟩ := hn key hk
    exact ⟨ho, r, by rw [nodeByKey_modifyRoot hro ho]; exact hr, hso⟩

/-- Another node's record in the place of an older one. -/
theorem Sound.setOther (hr : db.nodeByKey r'.publicKey = some r)
    (ho : r'.publicKey ≠ db.thisNode) (hst : Stored C R ever l r')
    (ha : r.metadata.nodeAddrOpt ≠ none → r'.metadata.nodeAddrOpt = r.metadata.nodeAddrOpt) :
    Sound C R ever i (db.setNode r') where
  toRecords := h.toRecords.setNode hr hst ha
  neighbors key hk := by
    rw [root_setNode, if_neg ho] at hk
    obtain ⟨hne, s, hs, hso⟩ := h.neighbors key hk
    refine ⟨hne, ?_⟩
    by_cases hsa : r'.publicKey = key
    · subst hsa
      obtain rfl : r = s := Option.some.inj (hr.symm.trans hs)
      exact ⟨r', by rw [nodeByKey_setNode, if_pos rfl], by rw [ha hso]; exact hso⟩
    · exact ⟨s, by rw [nodeByKey_setNode, if_neg hsa]; exact hs, hso⟩

theorem Sound.addArbitraryNode (hn : r.publicKey ∉ db.keys)
    (hst : Stored C R ever l r) : Sound C R ever i (db.addArbitraryNode r) := by
  have ho : r.publicKey ≠ db.thisNode := fun heq => hn (heq ▸ thisNode_mem_keys db)
  have hr : (db.addArbitraryNode r).root = db.root := root_addArbitraryNode ho
  have hk : ∀ key s, db.nodeByKey key = some s → (db.addArbitraryNode r).nodeByKey key = some s := by
    intro key s hs
    have hne : r.publicKey ≠ key := fun heq => hn (heq ▸ mem_keys_iff.2 ⟨s, hs⟩)
    rw [nodeByKey_addArbitraryNode, if_neg hne]
    exact hs
  have hf : ReverseIndex.Finds (db.addArbitraryNode r).byIpAddr (db.addArbitraryNode r).knownIp := by
    rw [byIpAddr_addArbitraryNode, knownIp_addArbitraryNode]
    exact (finds_iff.2 h.index).insert (knownIp_eq_none hn)
  refine ⟨⟨by rw [thisNode_addArbitraryNode, h.thisNode], fun key s hs => ?_, by rw [hr]; exact h.address,
    finds_iff.1 hf⟩, ?_⟩
  · rw [nodeByKey_addArbitraryNode] at hs
    split_ifs at hs
    · obtain rfl := Option.some.inj hs
      exact ⟨l, hst⟩
    · exact h.nodes key s hs
  · rw [hr]
    intro key hkey
    obtain ⟨hne, s, hs, hso⟩ := h.neighbors key hkey
    exact ⟨by rw [thisNode_addArbitraryNode]; exact hne, s, hk key s hs, hso⟩

theorem Sound.mapNodes (hk : ∀ r, (f r).publicKey = r.publicKey) (hin : ∀ r, (f r).inner = r.inner)
    (hsi : ∀ r, (f r).signedGossip = r.signedGossip)
    (ha : ∀ r, (f r).metadata.nodeAddrOpt = r.metadata.nodeAddrOpt) : Sound C R ever i (db.mapNodes f hk) := by
  have hf : ∀ key r, db.nodeByKey key = some r → (db.mapNodes f hk).nodeByKey key = some (f r) := by
    intro key r hr
    rw [nodeByKey_mapNodes, hr, Option.map_some]
  have hro : (db.mapNodes f hk).root = f db.root :=
    Option.some.inj ((db.mapNodes f hk).nodeByKey_thisNode.symm.trans (hf _ _ db.nodeByKey_thisNode))
  refine ⟨⟨h.thisNode, fun key r' hr' => ?_, ?_, fun ip key hid => ?_⟩, fun key hk' => ?_⟩
  · rw [nodeByKey_mapNodes] at hr'
    obtain ⟨r, hr, rfl⟩ := Option.map_eq_some_iff.1 hr'
    obtain ⟨l, hs⟩ := h.nodes key r hr
    exact ⟨l, by rw [hin]; exact hs.genuine, by rw [hsi]; exact hs.signed, by rw [ha]; exact hs.address⟩
  · rw [hro, ha]
    exact h.address
  · obtain ⟨r, hr, hip⟩ := h.index ip key hid
    exact ⟨f r, hf key r hr, by rw [NodeRecord.ipAddrOpt, ha]; exact hip⟩
  · rw [hro, hin] at hk'
    obtain ⟨hne, r, hr, hso⟩ := h.neighbors key hk'
    exact ⟨hne, f r, hf key r hr, by rw [ha]; exact hso⟩

theorem Sound.removeNode {nodeKey : PublicKey} (hro : nodeKey ≠ db.thisNode)
    (hn : nodeKey ∉ db.root.inner.neighbors) : Sound C R ever i (db.removeNode nodeKey hro) := by
  have hf : ReverseIndex.Finds (db.removeNode nodeKey hro).byIpAddr (db.removeNode nodeKey hro).knownIp := by
    rw [byIpAddr_removeNode, knownIp_removeNode]
    exact (finds_iff.2 h.index).erase nodeKey
  refine ⟨⟨h.thisNode, fun key r hr => ?_, by rw [root_removeNode]; exact h.address, finds_iff.1 hf⟩, fun key hk => ?_⟩
  · rw [nodeByKey_removeNode] at hr
    split_ifs at hr
    exact h.nodes key r hr
  · rw [root_removeNode] at hk
    obtain ⟨hne, r, hr, hso⟩ := h.neighbors key hk
    have hst : key ≠ nodeKey := fun heq => hn (heq ▸ hk)
    exact ⟨hne, r, by rw [nodeByKey_removeNode, if_neg hst]; exact hr, hso⟩

/-- Neighbors of the root are not culled. -/
theorem Sound.cullDeadNodes (now : Nat) : Sound C R ever i (db.cullDeadNodes now) := by
  have hre : ∀ key ∈ db.root.inner.neighbors, key ∈ db.referencedNodeKeys := by
    intro key hk
    refine List.mem_cons_of_mem _ (List.mem_flatMap.2 ⟨db.root, ?_, hk⟩)
    exact (nodeByKey_eq_some_iff.1 db.nodeByKey_thisNode).1
  refine (removeNodes_induction (fun db' => db'.root = db.root ∧ Sound C R ever i db') ?_ ⟨rfl, h⟩ _).2
  rintro db' nodeKey hr hm ⟨hs, hdb'⟩
  refine ⟨(root_removeNode hr).trans hs, hdb'.removeNode hr ?_⟩
  rw [hs]
  exact fun hn => mem_toCull hm (hre nodeKey hn)

theorem Sound.regenerate : Sound C R ever i (db.modifyRoot (regenerateSignedGossip (C i))) := by
  have hr := h.stored_root
  exact h.modifyRoot ⟨hr.genuine, ⟨db.root.inner, hr.genuine, rfl⟩, hr.address⟩ rfl h.neighbors

theorem Sound.trims (ht : Trims (C i) now db db') : Sound C R ever i db' := by
  induction ht with
  | refl => exact h
  | tail _ hl ih =>
    cases hl with
    | regenerate => exact ih.regenerate
    | cull => exact ih.cullDeadNodes now

end

/-! ### Changes -/

/-- The record that an update leaves. -/
theorem Stored.update {agr agr' : AccessibleGossipRecord} (h : Stored C R ever l r)
    (hc : Credible C R ever l' agr) (hin : agr'.inner = agr.inner)
    (hs : SameSigned agr'.signedGossip agr'.signature agr) (ht : AsTold agr'.nodeAddrOpt agr)
    (hu : r.update now agr' = .ok r') :
    Stored C R ever l' r' ∧ (r.metadata.nodeAddrOpt ≠ none → r'.metadata.nodeAddrOpt = r.metadata.nodeAddrOpt) := by
  obtain ⟨hkey, -, nodeAddrOpt, ha, rfl⟩ := update_eq_ok_iff.1 hu
  have ho : l = l' := by
    refine R.key_injective (h.genuine.publicKey.symm.trans ?_)
    exact hkey.symm.trans ((congrArg NodeRecordInner.publicKey hin).trans hc.genuine.publicKey)
  subst ho
  rw [hc.asTold ht] at ha
  have hke : (nodeAddrOpt = none ∨ nodeAddrOpt = some (R.addr l)) ∧
      (r.metadata.nodeAddrOpt ≠ none → nodeAddrOpt = r.metadata.nodeAddrOpt) := by
    obtain hk | hk := h.address <;> obtain hb | hb := hc.address <;>
      simp only [hk, hb, updatedAddr, R.clone_addr, ne_eq, not_true_eq_false, if_false,
        Except.ok.injEq] at ha <;> subst ha <;> simp [hk]
  refine ⟨⟨?_, ⟨agr.inner, hc.genuine, hs.1.trans hc.signed⟩, hke.1⟩, hke.2⟩
  rw [show agr'.inner = agr.inner from hin]
  exact hc.genuine

variable {gossipSource : SocketAddr}

/-- What honest records do to a database, if its neighbors afterwards are among those that it ever has. -/
theorem Sound.change (h : Sound C R ever i db)
    (hagrs : ∀ agr ∈ agrs, ∃ l, Credible C R ever l agr) (hsi : ∀ agr, agrs = [agr] → agr.nodeAddrOpt ≠ none)
    (he : ∀ key ∈ db'.root.inner.neighbors, ever i key) (hch : Change (C i) now agrs gossipSource pre db db') :
    Sound C R ever i db' := by
  have hro := h.stored_root
  cases hch with
  | @insert agr r hag hin ha hne hs ht =>
    obtain ⟨l, hc⟩ := hagrs agr hag
    have had : r.metadata.nodeAddrOpt = agr.nodeAddrOpt := by
      by_cases hn : agr.nodeAddrOpt = none
      · obtain hip | ⟨hon, -, -⟩ := ha
        · rw [hn]
          simpa [NodeRecord.ipAddrOpt, AccessibleGossipRecord.ipAddrOpt, hn] using hip
        · exact absurd hn (hsi agr hon)
      · exact hc.asTold (ht hn)
    refine h.addArbitraryNode hne ⟨hin ▸ hc.genuine, ?_, had ▸ hc.address⟩
    exact ⟨agr.inner, hc.genuine, hs.1.trans hc.signed⟩
  | @update agr agr' old r r' hag hin _ hse _ _ hr hu hs ht =>
    obtain ⟨l, hc⟩ := hagrs agr hag
    obtain ⟨l', hst⟩ := h.nodes _ r hr
    obtain ⟨hst', ha⟩ := hst.update hc hin hs ht hu
    have hk : r'.publicKey = agr.inner.publicKey := (publicKey_update hu).trans (publicKey_of_nodeByKey hr)
    exact h.setOther (hk ▸ hr) (hk ▸ hse) hst' ha
  | @neighbor key hk hse hl =>
    have hkn : ∃ r, db.nodeByKey key = some r ∧ r.metadata.nodeAddrOpt ≠ none := by
      obtain hkn | ⟨ip, hid⟩ := hl
      · exact hkn
      · obtain ⟨r, hr, hip⟩ := h.index ip key hid
        exact ⟨r, hr, NodeAddr.ne_none_of_ip hip⟩
    rw [root_modifyRoot (publicKey_root db)] at he
    obtain ⟨hg, hs, had⟩ := hro
    refine h.modifyRoot ⟨⟨hg.publicKey, hg.ratePack, hg.acceptsConnections, he⟩, hs, had⟩
      rfl fun key' hk' => ?_
    obtain rfl | ho := (List.mem_orderedInsert (· ≤ ·)).1 hk'
    · exact ⟨hse, hkn⟩
    · exact h.neighbors key' ho
  | republish =>
    rw [republishRoot, root_modifyRoot (publicKey_root db)] at he
    have hg : Genuine R ever i db.root.incrementVersion.inner :=
      ⟨hro.genuine.publicKey, hro.genuine.ratePack, hro.genuine.acceptsConnections, he⟩
    exact h.modifyRoot ⟨hg, ⟨_, hg, rfl⟩, hro.address⟩ rfl h.neighbors

theorem neighbors_subset_of_change
    (hc : Change P now agrs gossipSource pre db db') :
    db.root.inner.neighbors ⊆ db'.root.inner.neighbors := by
  have hg := hc.rootGrows
  generalize db'.root.inner = after at hg
  induction hg with
  | refl => exact List.Subset.refl _
  | tail _ hl ih =>
    cases hl with
    | neighbor => exact fun key hk => (List.mem_orderedInsert (· ≤ ·)).2 (.inr (ih hk))
    | version => exact ih

/-- **Honest records leave a sound database.** -/
theorem Sound.changes (h : Sound C R ever i db)
    (ha : ∀ agr ∈ agrs, ∃ l, Credible C R ever l agr) (hs : ∀ agr, agrs = [agr] → agr.nodeAddrOpt ≠ none)
    (hc : Changes (C i) now agrs gossipSource pre db db')
    (he : ∀ key ∈ db'.root.inner.neighbors, ever i key) : Sound C R ever i db' := by
  induction hc with
  | refl => exact h
  | tail _ hl ih =>
    refine (ih fun key hk => he key (neighbors_subset_of_change hl hk)).change ha hs he hl

/-! ### Removals -/

theorem nodeByKey_forgetNodeAddr : (db.forgetNodeAddr t).nodeByKey key =
      if t.publicKey = key then some t.unsetNodeAddr else db.nodeByKey key := by
  have hs : (db.setNode t.unsetNodeAddr).nodeByKey key =
      if t.publicKey = key then some t.unsetNodeAddr else db.nodeByKey key := by
    rw [nodeByKey_setNode, publicKey_unsetNodeAddr]
  unfold forgetNodeAddr
  split <;> exact hs

theorem root_forgetNodeAddr (ho : t.publicKey ≠ db.thisNode) : (db.forgetNodeAddr t).root = db.root := by
  have hs : (db.setNode t.unsetNodeAddr).root = db.root := by
    rw [root_setNode, publicKey_unsetNodeAddr, if_neg ho]
  unfold forgetNodeAddr
  split <;> exact hs

theorem Records.forgetNodeAddr (h : Records C R ever i db) (hr : db.nodeByKey key = some t) (hot : key ≠ db.thisNode) :
    Records C R ever i (db.forgetNodeAddr t) := by
  obtain rfl := publicKey_of_nodeByKey hr
  have ht : (db.forgetNodeAddr t).thisNode = db.thisNode := by
    unfold NeighborhoodDatabase.forgetNodeAddr
    split <;> rfl
  have hf : ReverseIndex.Finds (db.forgetNodeAddr t).byIpAddr (db.forgetNodeAddr t).knownIp := by
    rw [byIpAddr_forgetNodeAddr, knownIp_forgetNodeAddr hr, ← knownIp_of_nodeByKey hr]
    exact (finds_iff.2 h.index).erase t.publicKey
  refine ⟨ht.trans h.thisNode, fun key r hr' => ?_, by rw [root_forgetNodeAddr hot]; exact h.address, finds_iff.1 hf⟩
  · rw [nodeByKey_forgetNodeAddr] at hr'
    split_ifs at hr'
    · obtain rfl := Option.some.inj hr'
      obtain ⟨l, hs⟩ := h.nodes _ t hr
      exact ⟨l, hs.genuine, hs.signed, .inl rfl⟩
    · exact h.nodes key r hr'

/-- A node that is removed loses its address, and the root a neighbor. -/
theorem Sound.removeNeighbor (h : Sound C R ever i db) (ho : key ≠ db.thisNode)
    (hre : db.removeNeighbor key = .ok (d, db')) : Sound C R ever i db' := by
  unfold NeighborhoodDatabase.removeNeighbor at hre
  split at hre
  · cases hre
  · next toRemove hr =>
    obtain rfl := publicKey_of_nodeByKey hr
    have hf := h.toRecords.forgetNodeAddr hr ho
    have hro : (db.forgetNodeAddr toRemove).root = db.root := root_forgetNodeAddr ho
    -- the neighbors that stay are other nodes, which keep their records
    have hst : ∀ key ∈ db.root.inner.neighbors, key ≠ toRemove.publicKey → key ≠ (db.forgetNodeAddr toRemove).thisNode ∧
        ∃ r, (db.forgetNodeAddr toRemove).nodeByKey key = some r ∧ r.metadata.nodeAddrOpt ≠ none := by
      intro key hk hne
      obtain ⟨ht, r, hr', hs⟩ := h.neighbors key hk
      refine ⟨?_, r, by rw [nodeByKey_forgetNodeAddr, if_neg hne.symm]; exact hr', hs⟩
      rw [hf.thisNode, ← h.thisNode]
      exact ht
    simp only at hre
    split_ifs at hre with hn
    · cases hre
      obtain ⟨hg, hsi, ha⟩ := hf.stored_root
      have hfi : ∀ key ∈ ((db.forgetNodeAddr toRemove).root.removeHalfNeighborKey
          toRemove.publicKey).incrementVersion.inner.neighbors,
          key ∈ db.root.inner.neighbors ∧ key ≠ toRemove.publicKey := by
        intro key hk
        rw [hro] at hk
        simpa [removeHalfNeighborKey, incrementVersion] using hk
      have hsto : Stored C R ever i
          ((db.forgetNodeAddr toRemove).root.removeHalfNeighborKey toRemove.publicKey).incrementVersion :=
        ⟨⟨hg.publicKey, hg.ratePack, hg.acceptsConnections, fun key hk =>
          hg.neighbors key (hro ▸ (hfi key hk).1)⟩, hsi, ha⟩
      refine ⟨hf.modifyRoot hsto rfl, fun key hk => ?_⟩
      rw [root_modifyRoot (publicKey_root _)] at hk
      obtain ⟨hol, hne⟩ := hfi key hk
      obtain ⟨ht, r, hr', hs⟩ := hst key hol hne
      exact ⟨ht, r, by rw [nodeByKey_modifyRoot (publicKey_root _) ht]; exact hr', hs⟩
    · cases hre
      refine ⟨hf, fun key hk => ?_⟩
      rw [hro] at hk hn
      refine hst key hk fun heq => hn ?_
      rw [NodeRecord.hasHalfNeighbor, decide_eq_true_eq, ← heq]
      exact hk

/-! ## What is told -/

/-- Everyone reads what another has written. -/
def Understand (C : ι → GossipPrimitives) : Prop := ∀ i j inner, (C j).fromCbor ((C i).toCbor inner) = some inner

/-- A record that is quoted is read as a credible one, with the address that is stored if it is to be revealed. -/
theorem Stored.quoted (h : Stored C R ever l r) (hw : Understand C) (re : Bool) (j : ι) :
    ∃ agr, Neighborhood.accessible (C j) (quote re r) = some agr ∧ Credible C R ever l agr ∧
      agr.nodeAddrOpt = if re then r.metadata.nodeAddrOpt else none := by
  obtain ⟨told, ht, hs⟩ := h.signed
  have ha : (quote re r).nodeAddrOpt = if re then r.metadata.nodeAddrOpt else none := by
    have hac : r.acceptsConnections = true := h.genuine.acceptsConnections
    cases re <;> simp [quote, hac, NodeRecord.nodeAddrOpt, R.clone_eq h.address]
  refine ⟨⟨r.signedGossip, r.signature, (quote re r).nodeAddrOpt, told⟩, ?_, ⟨ht, hs, ?_⟩, ha⟩
  · have hr : (C j).fromCbor r.signedGossip = some told := by rw [hs, hw l j told]
    simp [Neighborhood.accessible, quote, hr]
  · show (quote re r).nodeAddrOpt = none ∨ (quote re r).nodeAddrOpt = some (R.addr l)
    rw [ha]
    cases re
    · exact .inl rfl
    · exact h.address

/-- A single record with its address. -/
theorem Honest.single (hne : l ≠ j) (h : Credible C R ever l agr)
    (hs : agr.nodeAddrOpt ≠ none) : Honest C R ever i j [agr] where
  records agr' ha' := ⟨l, hne, List.mem_singleton.1 ha' ▸ h⟩
  nodup := List.nodup_singleton _
  sender := .inr ⟨agr, rfl, hs⟩
  reveals := .inl ⟨by simp, fun agr' ha' => List.mem_singleton.1 ha' ▸ hs⟩

/-- The sender's record and another, with their addresses. -/
theorem Honest.pair {own agr : AccessibleGossipRecord} (hij : i ≠ j) (hli : l ≠ i) (hne : l ≠ j)
    (ho : Credible C R ever i own) (how : own.nodeAddrOpt ≠ none) (h : Credible C R ever l agr)
    (hs : agr.nodeAddrOpt ≠ none) : Honest C R ever i j [own, agr] where
  records := List.forall_mem_cons.2 ⟨⟨i, hij, ho⟩, List.forall_mem_singleton.2 ⟨l, hne, h⟩⟩
  nodup := by
    have hk : own.inner.publicKey ≠ agr.inner.publicKey := by
      rw [ho.genuine.publicKey, h.genuine.publicKey]
      exact fun heq => hli (R.key_injective heq).symm
    simpa using hk
  sender := .inl ⟨own, List.mem_cons_self, ho.genuine.publicKey, how⟩
  reveals := .inl ⟨by simp, List.forall_mem_cons.2 ⟨how, List.forall_mem_singleton.2 hs⟩⟩

theorem Sound.quoted_root (h : Sound C R ever i db) (hw : Understand C) (j : ι) :
    ∃ own, Neighborhood.accessible (C j) (quote true db.root) = some own ∧ Credible C R ever i own ∧
      own.nodeAddrOpt ≠ none := by
  obtain ⟨own, hr, ho, ha⟩ := h.stored_root.quoted hw true j
  refine ⟨own, hr, ho, ?_⟩
  simp [ha, h.address]

/-- A neighbor's record has another owner, and its address is known. -/
theorem Sound.quoted_neighbor (h : Sound C R ever i db) (hw : Understand C)
    (hk : key ∈ db.root.inner.neighbors) (hr : db.nodeByKey key = some r) (j : ι) :
    ∃ l agr, key = R.key l ∧ l ≠ i ∧ Neighborhood.accessible (C j) (quote true r) = some agr ∧
      Credible C R ever l agr ∧ agr.nodeAddrOpt ≠ none := by
  obtain ⟨l, hs⟩ := h.nodes key r hr
  obtain ⟨hot, r', hr', hso⟩ := h.neighbors key hk
  obtain rfl : r = r' := Option.some.inj (hr.symm.trans hr')
  obtain ⟨agr, hre, hag, ha⟩ := hs.quoted hw true j
  have ho : key = R.key l := (publicKey_of_nodeByKey hr).symm.trans hs.genuine.publicKey
  refine ⟨l, agr, ho, fun heq => hot ?_, hre, hag, by simpa [ha] using hso⟩
  rw [ho, heq, h.thisNode]

/-- **Answers are honest.** -/
theorem honest_of_composed (hso : Sound C R ever i db) (hw : Understand C)
    (hij : i ≠ j)
    (h : Composed (C i) agrs pre db (R.key j) g) :
    Honest C R ever i j (g.filterMap (Neighborhood.accessible (C j))) := by
  obtain ⟨own, hre, how, hs⟩ := hso.quoted_root hw j
  cases h with
  | debut =>
    simp only [List.filterMap_cons, hre, List.filterMap_nil]
    exact .single hij how hs
  | pass hk ho hr =>
    obtain ⟨l, agr, rfl, -, hre', ha, hs'⟩ := hso.quoted_neighbor hw hk hr j
    simp only [List.filterMap_cons, hre', List.filterMap_nil]
    exact .single (fun heq => ho (congrArg R.key heq)) ha hs'
  | introduction hk ho hr =>
    obtain ⟨l, agr, rfl, hli, hre', ha, hs'⟩ := hso.quoted_neighbor hw hk hr j
    simp only [List.filterMap_cons, hre, hre', List.filterMap_nil]
    exact .pair hij hli (fun heq => ho (congrArg R.key heq)) how hs ha hs'
  | secondNode _ _ _ hn =>
    have hro := hso.stored_root.genuine
    have hg : Genuine R ever i { db.root.inner with neighbors := [R.key j] } := by
      refine ⟨hro.publicKey, hro.ratePack, hro.acceptsConnections, fun key hk => ?_⟩
      rw [List.mem_singleton.1 hk]
      exact hro.neighbors _ hn
    have had : db.root.nodeAddrOpt = some (R.addr i) := by
      simp [NodeRecord.nodeAddrOpt, hso.address, R.clone_addr]
    simp only [List.filterMap_cons, Neighborhood.accessible, hw i j, Option.map_some, List.filterMap_nil]
    exact .single hij ⟨hg, rfl, .inr had⟩ (by simp [had])

theorem map_filterMap_of_forall {α β γ : Type} {g : α → Option β} {f : β → γ} {e : α → γ} {xs : List α}
    (h : ∀ x ∈ xs, ∃ y, g x = some y ∧ f y = e x) : (xs.filterMap g).map f = xs.map e := by
  induction xs with
  | nil => rfl
  | cons x xs ih =>
    obtain ⟨y, hy, hf⟩ := h x List.mem_cons_self
    rw [List.filterMap_cons_some hy, List.map_cons, List.map_cons, hf,
      ih fun x' hx' => h x' (List.mem_cons_of_mem _ hx')]

/-- **Gossip to a neighbor is honest.** -/
theorem honest_of_gossipFor (hso : Sound C R ever i db) (hw : Understand C)
    (hij : i ≠ j) (hr : db.nodeByKey (R.key j) = some r) (h : gossipFor db r = .ok g) :
    Honest C R ever i j (g.filterMap (Neighborhood.accessible (C j))) := by
  have ht : r.publicKey = R.key j := publicKey_of_nodeByKey hr
  rw [gossipFor_eq_ok h, List.filterMap_filterMap]
  -- what the receiver reads under each key
  have hre : ∀ key ∈ db.keys.filter fun key => key ≠ r.publicKey ∧ key ∈ db.referencedNodeKeys, ∃ l agr,
      key = R.key l ∧ l ≠ j ∧ Credible C R ever l agr ∧
      ((db.nodeByKey key).map (quote ((db.nodeByKey key).any (·.acceptsConnections) &&
        (key = db.root.publicKey || r.hasHalfNeighbor key)))).bind (Neighborhood.accessible (C j)) = some agr ∧
      (agr.nodeAddrOpt ≠ none → key = R.key i ∨ ever j key) ∧ (key = R.key i → agr.nodeAddrOpt ≠ none) := by
    intro key hk
    obtain ⟨hme, hch⟩ := List.mem_filter.1 hk
    obtain ⟨hne, -⟩ := of_decide_eq_true hch
    obtain ⟨s, hs⟩ := mem_keys_iff.1 hme
    obtain ⟨l, hst⟩ := hso.nodes key s hs
    have ho : key = R.key l := (publicKey_of_nodeByKey hs).symm.trans hst.genuine.publicKey
    obtain ⟨agr, ha, hc, had⟩ := hst.quoted hw
      ((db.nodeByKey key).any (·.acceptsConnections) && (key = db.root.publicKey || r.hasHalfNeighbor key)) j
    refine ⟨l, agr, ho, fun heq => hne (by rw [ho, heq, ht]), hc, ?_, fun hsom => ?_, fun how => ?_⟩
    · rw [hs] at ha ⊢
      exact ha
    · rw [had] at hsom
      split_ifs at hsom with hreve
      · obtain ⟨-, hsh⟩ := Bool.and_eq_true_iff.1 hreve
        obtain hro | hh := Bool.or_eq_true_iff.1 hsh
        · left
          rw [of_decide_eq_true hro, publicKey_root, hso.thisNode]
        · right
          exact (hso.stored hr).genuine.neighbors key (of_decide_eq_true hh)
      · exact absurd rfl hsom
    · have hro : key = db.thisNode := how.trans hso.thisNode.symm
      obtain rfl : db.root = s := Option.some.inj ((hro ▸ db.nodeByKey_thisNode).symm.trans hs)
      have hac : db.root.acceptsConnections = true := hso.stored_root.genuine.acceptsConnections
      simp [had, hac, hro, hso.address]
  refine ⟨fun agr ha => ?_, ?_, .inl ?_, .inr fun agr ha hsom => ?_⟩
  · obtain ⟨key, hk, hm⟩ := List.mem_filterMap.1 ha
    obtain ⟨l, agr', -, hne, hc, hm', -⟩ := hre key hk
    obtain rfl : agr' = agr := Option.some.inj (hm'.symm.trans hm)
    exact ⟨l, hne, hc⟩
  · rw [map_filterMap_of_forall (e := id) fun key hk => ?_, List.map_id]
    · exact db.byPublicKey.nodup.filter _
    · obtain ⟨l, agr, ho, -, hc, hm, -⟩ := hre key hk
      exact ⟨agr, hm, hc.genuine.publicKey.trans ho.symm⟩
  · have how : R.key i ∈ db.keys.filter fun key => key ≠ r.publicKey ∧ key ∈ db.referencedNodeKeys := by
      refine List.mem_filter.2 ⟨hso.thisNode ▸ thisNode_mem_keys db, decide_eq_true ⟨?_, ?_⟩⟩
      · rw [ht]
        exact fun heq => hij (R.key_injective heq)
      · simp [referencedNodeKeys, hso.thisNode]
    obtain ⟨l, agr, ho, -, hc, hm, -, hsh⟩ := hre _ how
    exact ⟨agr, List.mem_filterMap.2 ⟨_, how, hm⟩, hc.genuine.publicKey.trans ho.symm, hsh rfl⟩
  · obtain ⟨key, hk, hm⟩ := List.mem_filterMap.1 ha
    obtain ⟨l, agr', ho, -, hc, hm', hrev, -⟩ := hre key hk
    obtain rfl : agr' = agr := Option.some.inj (hm'.symm.trans hm)
    rw [hc.genuine.publicKey, ← ho]
    exact hrev hsom

/-! ## What is accepted -/

variable {lim : RatePackLimits} {now : Nat} {agrs : List AccessibleGossipRecord} {src : SocketAddr}
  {md : NeighborhoodMetadata} {P : GossipPrimitives} {handled : Handled} {malefactor : Malefactor}

theorem Credible.clone (h : Credible C R ever l agr) : Credible C R ever l agr.clone := ⟨h.genuine, h.signed, by
    show agr.nodeAddrOpt.map NodeAddr.clone = none ∨ agr.nodeAddrOpt.map NodeAddr.clone = some (R.addr l)
    rw [R.clone_eq h.address]
    exact h.address⟩

theorem Credible.valid (h : Credible C R ever l agr) (hv : ∀ l, lim.analyze (R.ratePack l) = []) (d : String) :
    validateIncomingAgr lim d agr = .ok () := by
  simp [validateIncomingAgr, h.genuine.ratePack, hv, failIf_eq_ok]

theorem Credible.ports (h : Credible C R ever l agr) (ha : agr.nodeAddrOpt = some nodeAddr) : nodeAddr.ports ≠ [] := by
  obtain hn | hs := h.address
  · cases ha.symm.trans hn
  · obtain rfl := Option.some.inj (ha.symm.trans hs)
    exact R.ports_ne_nil l

/-- A record that stands alone has an address. -/
theorem Honest.addressed_of_single (h : Honest C R ever i j agrs) (ho : agrs = [agr]) : agr.nodeAddrOpt ≠ none := by
  obtain ⟨own, how, -, hs⟩ | ⟨agr', ho', hs⟩ := h.sender
  · rw [ho] at how
    exact List.mem_singleton.1 how ▸ hs
  · cases ho.symm.trans ho'
    exact hs

theorem Honest.ip_of_own (h : Honest C R ever i j agrs) (ha : agr ∈ agrs)
    (hk : agr.inner.publicKey = R.key i) (hs : agr.nodeAddrOpt ≠ none) :
    agr.ipAddrOpt = some (R.addr i).ipAddr := by
  obtain ⟨l, -, hc⟩ := h.records agr ha
  have ho : l = i := R.key_injective (hc.genuine.publicKey.symm.trans hk)
  rw [hc.ipAddrOpt hs, ho]

/-! ### Nothing is malformed -/

theorem debut_not_malformed (h : Honest C R ever i j agrs) :
    DebutHandler.qualifies db agrs src ≠ .malformed malefactor := by
  intro hm
  unfold DebutHandler.qualifies at hm
  split at hm
  · next agr =>
    obtain ⟨l, -, hc⟩ := h.records agr List.mem_cons_self
    obtain ⟨nodeAddr, ha⟩ := Option.ne_none_iff_exists'.1 (h.addressed_of_single rfl)
    simp only [ha, hc.genuine.acceptsConnections, hc.ports ha, if_false] at hm
    split_ifs at hm
  · cases hm

theorem pass_not_malformed (h : Honest C R ever i j agrs) : PassHandler.qualifies agrs src ≠ .malformed malefactor := by
  intro hm
  unfold PassHandler.qualifies at hm
  split at hm
  · next agr =>
    obtain ⟨l, -, hc⟩ := h.records agr List.mem_cons_self
    split at hm
    · cases hm
    · next nodeAddr ha =>
      rw [if_neg (hc.ports ha)] at hm
      split_ifs at hm
  · cases hm

/-- Of two records with addresses the sender's is found, and the other is somebody else's. -/
theorem identifyPlayers_of_honest (h : Honest C R ever i j [first, second])
    (hsr : src.ip = (R.addr i).ipAddr) (hfs : first.nodeAddrOpt ≠ none)
    (hsn : second.nodeAddrOpt ≠ none) :
    ∃ int introducee, identifyPlayers first second src =
        .ok (int, introducee) ∧ int ∈ [first, second] ∧ introducee ∈ [first, second] ∧
      int.inner.publicKey = R.key i ∧ introducee.inner.publicKey ≠ R.key i := by
  obtain ⟨l, -, hc⟩ := h.records first (by simp)
  obtain ⟨l', -, hc'⟩ := h.records second (by simp)
  have hke : first.inner.publicKey ≠ second.inner.publicKey := by simpa using h.nodup
  have hip : ∀ {l}, (R.addr l).ipAddr = src.ip ↔ l = i := by
    intro l
    rw [hsr]
    exact ⟨fun heq => R.ip_injective heq, fun heq => heq ▸ rfl⟩
  have hse : first.inner.publicKey = R.key i ∨ second.inner.publicKey = R.key i := by
    obtain ⟨own, ho, hk, -⟩ | ⟨agr, hon, -⟩ := h.sender
    · obtain rfl | ho := List.mem_cons.1 ho
      · exact .inl hk
      · exact .inr (List.mem_singleton.1 ho ▸ hk)
    · simp at hon
  unfold identifyPlayers
  simp only [hc.ipAddrOpt hfs, hc'.ipAddrOpt hsn]
  by_cases hf : l = i
  · rw [if_pos (hip.2 hf)]
    have hk : first.inner.publicKey = R.key i := by rw [hc.genuine.publicKey, hf]
    exact ⟨first, second, rfl, by simp, by simp, hk, fun heq => hke (hk.trans heq.symm)⟩
  · have hn : first.inner.publicKey ≠ R.key i := by
      rw [hc.genuine.publicKey]
      exact fun heq => hf (R.key_injective heq)
    have hk := hse.resolve_left hn
    have hs : l' = i := R.key_injective (hc'.genuine.publicKey.symm.trans hk)
    rw [if_neg (mt hip.1 hf), if_pos (hip.2 hs)]
    exact ⟨second, first, rfl, by simp, by simp, hk, hn⟩

/-- An introduction is matched, or both are neighbors already. -/
theorem introduction_qualifies_of_honest
    (h : Honest C R ever i j [first, second]) (hso : Sound C R ever j db) (hij : i ≠ j)
    (hsr : src.ip = (R.addr i).ipAddr) (hf : first.nodeAddrOpt ≠ none)
    (hsn : second.nodeAddrOpt ≠ none) :
    IntroductionHandler.qualifies db [first, second] src = .matched ∨
      (∃ reason, IntroductionHandler.qualifies db [first, second] src = .unmatched reason) ∧
        ∀ agr ∈ [first, second], agr.inner.publicKey ∈ db.root.inner.neighbors := by
  obtain ⟨int, introducee, hpl, hm, hm', hk, hk'⟩ := identifyPlayers_of_honest h hsr hf hsn
  have hs : ∀ agr ∈ [first, second], agr.nodeAddrOpt ≠ none :=
    List.forall_mem_cons.2 ⟨hf, List.forall_mem_singleton.2 hsn⟩
  obtain ⟨ia, ha⟩ := Option.ne_none_iff_exists'.1 (hs int hm)
  obtain ⟨ina, ha'⟩ := Option.ne_none_iff_exists'.1 (hs introducee hm')
  obtain ⟨l, hne, hc⟩ := h.records int hm
  obtain ⟨l', hne', hc'⟩ := h.records introducee hm'
  have hl : l = i := R.key_injective (hc.genuine.publicKey.symm.trans hk)
  have hl' : l' ≠ i := fun heq => hk' (by rw [hc'.genuine.publicKey, heq])
  have hip : ia = R.addr i := hl ▸ Option.some.inj (ha.symm.trans (hc.address.resolve_left (hs int hm)))
  have hip' : ina = R.addr l' := Option.some.inj (ha'.symm.trans (hc'.address.resolve_left (hs introducee hm')))
  have hin : verifyIntroducer src int ia db.root = none := by
    have ho : int.inner.publicKey ≠ db.root.publicKey := by
      rw [hk, publicKey_root, hso.thisNode]
      exact fun heq => hij (R.key_injective heq)
    have hou : db.root.ipAddrOpt ≠ some ia.ipAddr := by
      simp only [NodeRecord.ipAddrOpt, hso.address, hip, Option.map_some, ne_eq, Option.some.injEq]
      exact fun heq => hij (R.ip_injective heq).symm
    rw [verifyIntroducer, if_neg ho, if_neg (hc.ports ha), if_neg hou]
  have hint : verifyIntroducee int ina src = none := by
    have ho : ina.ipAddr ≠ src.ip := by
      rw [hip', hsr]
      exact fun heq => hl' (R.ip_injective heq)
    rw [verifyIntroducee, if_neg (hc'.ports ha'), if_neg ho]
  simp only [IntroductionHandler.qualifies, hpl, ha, ha', hin, hint, Option.none_or, verifyBoth]
  split_ifs with hb
  · refine .inr ⟨⟨_, rfl⟩, fun agr hag => ?_⟩
    -- the two players are all there is
    have hp : agr = int ∨ agr = introducee := by
      obtain rfl | hag := List.mem_cons.1 hag <;> obtain rfl | hm := List.mem_cons.1 hm <;>
        obtain rfl | hm' := List.mem_cons.1 hm'
      all_goals simp_all
    obtain rfl | rfl := hp
    · exact hb.2
    · exact hb.1
  · exact .inl rfl

theorem introduction_not_malformed (h : Honest C R ever i j agrs)
    (hso : Sound C R ever j db) (hij : i ≠ j) (hsr : src.ip = (R.addr i).ipAddr) :
    IntroductionHandler.qualifies db agrs src ≠ .malformed malefactor := by
  intro hm
  match agrs, h with
  | [first, second], h =>
    by_cases hf : first.nodeAddrOpt = none
    · simp [IntroductionHandler.qualifies, identifyPlayers, AccessibleGossipRecord.ipAddrOpt, hf] at hm
    · by_cases hs : second.nodeAddrOpt = none
      · simp [IntroductionHandler.qualifies, identifyPlayers, AccessibleGossipRecord.ipAddrOpt, hs] at hm
      · obtain hma | ⟨⟨reason, hu⟩, -⟩ := introduction_qualifies_of_honest h hso hij hsr hf hs
        · cases hma.symm.trans hm
        · cases hu.symm.trans hm
  | [], _ | [_], _ | _ :: _ :: _ :: _, _ => simp [IntroductionHandler.qualifies] at hm

/-- No two records bring the same address. -/
theorem Honest.ips_nodup (h : Honest C R ever i j agrs) : (agrs.filterMap (·.ipAddrOpt)).Nodup := by
  have hp : agrs.Pairwise fun agr agr' => agr.inner.publicKey ≠ agr'.inner.publicKey := List.pairwise_map.1 h.nodup
  refine List.pairwise_filterMap.2 (hp.imp_of_mem fun {agr agr'} ha ha' hk ip hip ip' hip' heq => ?_)
  obtain ⟨l, -, hc⟩ := h.records agr ha
  obtain ⟨l', -, hc'⟩ := h.records agr' ha'
  rw [hc'.ipAddrOpt (NodeAddr.ne_none_of_ip hip')] at hip'
  have ho : l = l' := hc.owner_of_ip (by rw [hip, heq]; exact hip'.symm)
  exact hk (by rw [hc.genuine.publicKey, hc'.genuine.publicKey, ho])

theorem standard_not_malformed (h : Honest C R ever i j agrs) (hs : Sound C R ever j db) :
    StandardGossipHandler.qualifies db agrs src ≠ .ok (.malformed malefactor) := by
  intro hm
  simp only [StandardGossipHandler.qualifies, bind_eq_ok] at hm
  obtain ⟨im, him, hm⟩ := hm
  have hn : im = none := by
    unfold impostorAtOurIp at him
    split_ifs at him
    · have hip : db.root.ipAddrOpt = some (R.addr j).ipAddr := by simp [NodeRecord.ipAddrOpt, hs.address]
      simp only [hip, Except.ok.injEq] at him
      rw [← him, List.find?_eq_none]
      intro agr ha
      obtain ⟨l, hne, hc⟩ := h.records agr ha
      simpa using fun heq => hne (hc.owner_of_ip heq)
    · exact (Except.ok.inj him).symm
  subst hn
  have hd : duplicates [] (agrs.filterMap (·.ipAddrOpt)) = [] :=
    duplicates_eq_nil_iff.2 ⟨h.ips_nodup, fun _ _ => List.not_mem_nil⟩
  simp only [hd] at hm
  split at hm
  · next impostor hf =>
    obtain ⟨l, hne, hc⟩ := h.records impostor (List.mem_of_find?_eq_some hf)
    have hk : impostor.inner.publicKey = R.key j := by
      have hf' := List.find?_some hf
      simpa [hs.thisNode] using hf'
    exact hne (R.key_injective (hc.genuine.publicKey.symm.trans hk))
  · cases hm

/-! ### Nobody is banned -/

/-- The handlers that were asked in vain found the message unmatched. -/
theorem unmatched_of_firstQualified {handler : GossipHandler} (h : firstQualified db agrs src ha = .ok (q, handler)) :
    ∀ e ∈ ha.takeWhile (· ≠ handler), ∃ reason, qualifies db agrs src e = .ok (.unmatched reason) := by
  induction ha with
  | nil => cases h
  | cons first ha ih =>
    simp only [firstQualified, bind_eq_ok] at h
    obtain ⟨found, hf, h⟩ := h
    intro e he
    cases found with
    | unmatched reason =>
      rw [List.takeWhile_cons] at he
      split_ifs at he
      · obtain rfl | hl := List.mem_cons.1 he
        · exact ⟨reason, hf⟩
        · exact ih h e hl
      · simp at he
    | matched | malformed =>
      cases h
      simp at he

theorem standard_not_unmatched : StandardGossipHandler.qualifies db agrs src ≠ .ok (.unmatched reason) := by
  intro h
  simp only [StandardGossipHandler.qualifies, bind_eq_ok] at h
  obtain ⟨im, -, h⟩ := h
  split at h
  · cases h
  · split at h
    · cases h
    · split at h <;> cases h

theorem answerDebut_ne_ban : DebutHandler.answerDebut P db agr nodeAddr src ≠ .ok (.ban malefactor) := by
  intro h
  unfold DebutHandler.answerDebut at h
  split_ifs at h
  · cases h
  all_goals
    simp only [bind_eq_ok] at h
    obtain ⟨t, -, h⟩ := h
  · cases t <;> cases h
  · cases t <;> cases h
  · cases t with
    | some triple => cases h
    | none =>
      simp only [bind_eq_ok] at h
      obtain ⟨gossip, -, h⟩ := h
      cases h

theorem debut_noBan (h : Honest C R ever i j agrs) (hv : ∀ l, lim.analyze (R.ratePack l) = [])
    (hh : DebutHandler.handle P lim now db agrs src md = .ok handled) (malefactor : Malefactor) :
    .ban malefactor ∉ handled.results := by
  cases agrs with
  | nil => cases hh
  | cons agr rest =>
    obtain ⟨l, -, hc⟩ := h.records agr List.mem_cons_self
    obtain ⟨hi, -⟩ | ⟨_, _, -, -, rfl⟩ | ⟨result, accepted, ht, rfl⟩ | ⟨_, _, _, rfl⟩ := debut_cases hh
    · exact absurd (hc.valid hv "Debut") hi
    · simp
    · have hn : result ≠ .ban malefactor := by
        rintro rfl
        obtain ⟨_, _, _, -, -, -, ha⟩ := tryAcceptDebut_cases ht
        exact answerDebut_ne_ban ha
      simpa using hn.symm
    · simp

/-- A credible record contradicts nothing that is stored. -/
theorem Sound.update_succeeds (h : Sound C R ever j db)
    (hc : Credible C R ever l agr) (hr : db.nodeByKey agr.inner.publicKey = some r) :
    ∃ updated, r.update now agr = .ok updated := by
  rw [hc.genuine.publicKey] at hr
  have hst := h.stored hr
  refine update_succeeds_iff.2 ⟨hc.genuine.publicKey.trans hst.genuine.publicKey.symm,
    hc.genuine.ratePack.trans hst.genuine.ratePack.symm, fun known hk nodeAddr hno => ?_⟩
  obtain hn | hs := hst.address
  · cases hn.symm.trans hk
  · obtain hn' | hs' := hc.address
    · cases hn'.symm.trans hno
    · exact (Option.some.inj (hs'.symm.trans hno)).symm.trans (Option.some.inj (hs.symm.trans hk))

theorem updateDatabase_ne_error (h : Sound C R ever j db) (hc : Credible C R ever l agr) :
    updateDatabase P now db agr prefs ≠ .ok (.error e, u) := by
  have hb : ∀ {key db'}, becomeNeighbors P now key db' ≠ .ok (.error e, u) := by
    intro key db' hb
    unfold becomeNeighbors at hb
    split at hb <;> cases hb
  intro hu
  unfold updateDatabase at hu
  split at hu
  · next existing he =>
    obtain ⟨updated, hup⟩ : ∃ updated, existing.update now agr = .ok updated := h.update_succeeds hc he
    split_ifs at hu
    · simp only [hup] at hu
      exact hb hu
    · cases hu
  · split at hu
    · cases hu
    · exact hb hu

/-- A single record that is not passed on is the sender's. -/
theorem Honest.ip_of_single (h : Honest C R ever i j [agr]) (hs : agr.nodeAddrOpt ≠ none)
    (hp : qualifies db [agr] src .pass = .ok (.unmatched reason)) : agr.ipAddrOpt = some src.ip := by
  obtain ⟨nodeAddr, ha⟩ := Option.ne_none_iff_exists'.1 hs
  obtain ⟨l, -, hc⟩ := h.records agr List.mem_cons_self
  simp only [qualifies, Except.ok.injEq, PassHandler.qualifies, ha, if_neg (hc.ports ha)] at hp
  split_ifs at hp with hip
  simp [AccessibleGossipRecord.ipAddrOpt, ha, hip]

section

variable (h : Honest C R ever i j agrs)
include h

theorem introduction_noBan (hso : Sound C R ever j db) (hv : ∀ l, lim.analyze (R.ratePack l) = [])
    (hq : IntroductionHandler.qualifies db agrs src = .matched)
    (hh : IntroductionHandler.handle P lim now db agrs src md = .ok handled)
    (malefactor : Malefactor) : .ban malefactor ∉ handled.results := by
  obtain ⟨first, second, introducer, introducee, rfl, hp, hin⟩ := introduction_qualified hq
  have hm : introducer ∈ [first, second] ∧ introducee ∈ [first, second] := by
    obtain heq | heq := hin.players <;> rw [heq] <;> simp
  obtain ⟨l, -, hc⟩ := h.records introducer hm.1
  obtain ⟨l', -, hc'⟩ := h.records introducee hm.2
  intro hm'
  obtain rfl | ⟨banOpt, updated, hs, hb, -⟩ := introduction_cases hp hh
  · cases hm'
  · simp only [hc.valid hv, hc'.valid hv, banReasonOpt, ne_eq, not_true_eq_false, or_false,
      updateIntroducerIfAppropriate, bind_eq_ok] at hs hb
    obtain ⟨⟨o, updatedDb⟩, hu, hs⟩ := hs
    cases o with
    | ok => exact hb malefactor hm' (Prod.mk.inj (Except.ok.inj hs)).1.symm
    | error e => exact updateDatabase_ne_error hso hc.clone hu

/-- A message that the handlers before standard gossip leave alone gives no address but the sender's and those of
neighbors, unless it was sent when the receiver had other neighbors. -/
theorem Honest.known_of_unmatched (hso : Sound C R ever j db) (hij : i ≠ j) (hsr : src.ip = (R.addr i).ipAddr)
    (hk : ∀ agr ∈ agrs, agr.nodeAddrOpt ≠ none → ever j agr.inner.publicKey →
      agr.inner.publicKey ∈ db.root.inner.neighbors)
    {reason' : String} (hp : qualifies db agrs src .pass = .ok (.unmatched reason))
    (hin : qualifies db agrs src .introduction = .ok (.unmatched reason'))
    (ha : agr ∈ agrs) (hs : agr.nodeAddrOpt ≠ none) :
    agr.ipAddrOpt = some src.ip ∨ agr.inner.publicKey ∈ db.root.inner.neighbors := by
  obtain ⟨hsh, hal⟩ | hal := h.reveals
  · match agrs, h, ha with
    | [only], h, ha =>
      obtain rfl := List.mem_singleton.1 ha
      exact .inl (h.ip_of_single hs hp)
    | [first, second], h, ha =>
      right
      obtain hm | ⟨-, hn⟩ := introduction_qualifies_of_honest h hso hij hsr (hal first (by simp)) (hal second (by simp))
      · cases hm.symm.trans (Except.ok.inj hin)
      · exact hn agr ha
    | _ :: _ :: _ :: _, _, _ => simp at hsh
  · obtain ho | he := hal agr ha hs
    · left
      rw [hsr]
      exact h.ip_of_own ha ho hs
    · exact .inr (hk agr ha hs he)

/-- The record of the sender is found. -/
theorem Honest.source_found (hsr : src.ip = (R.addr i).ipAddr)
    (hp : qualifies db agrs src .pass = .ok (.unmatched reason)) :
    agrs.find? (isFromSource db src) ≠ none := by
  have hf : ∃ own ∈ agrs, own.ipAddrOpt = some src.ip := by
    obtain ⟨own, ho, hk, hs⟩ | ⟨agr, rfl, hs⟩ := h.sender
    · exact ⟨own, ho, hsr ▸ h.ip_of_own ho hk hs⟩
    · exact ⟨agr, List.mem_cons_self, h.ip_of_single hs hp⟩
  obtain ⟨own, ho, hip⟩ := hf
  obtain ⟨l, -, hc⟩ := h.records own ho
  rw [Ne, List.find?_eq_none, not_forall₂]
  refine ⟨own, ho, not_not.2 ?_⟩
  simp [isFromSource, hc.genuine.acceptsConnections, hip]

theorem standard_noBan (hso : Sound C R ever j db) (hv : ∀ l, lim.analyze (R.ratePack l) = [])
    (hf : agrs.find? (isFromSource db src) ≠ none)
    (hk : ∀ agr ∈ agrs, agr.nodeAddrOpt ≠ none →
      agr.ipAddrOpt = some src.ip ∨ agr.inner.publicKey ∈ db.root.inner.neighbors)
    (hh : StandardGossipHandler.handle P lim now db agrs src md = .ok handled)
    (malefactor : Malefactor) : .ban malefactor ∉ handled.results := by
  have hr : ∀ agr ∈ agrs, ratePackBan lim agr = none := by
    intro agr ha
    obtain ⟨l, -, hc⟩ := h.records agr ha
    simp [ratePackBan, hc.valid hv, banReasonOpt]
  have had : ∀ agr ∈ agrs, ∀ so, addressBan db so src agr = none := by
    intro agr ha so
    obtain ⟨l, hne, hc⟩ := h.records agr ha
    have ho : agr.inner.publicKey ≠ db.thisNode := by
      rw [hc.genuine.publicKey, hso.thisNode]
      exact fun heq => hne (R.key_injective heq)
    have hal : ¬ (agr.ipAddrOpt.isSome ∧ agr.ipAddrOpt ≠ some src.ip ∧
        agr.inner.publicKey ∉ db.root.inner.neighbors) := by
      rintro ⟨hs, hip, hst⟩
      have hg : agr.nodeAddrOpt ≠ none := by
        intro hn
        simp [AccessibleGossipRecord.ipAddrOpt, hn] at hs
      exact (hk agr ha hg).elim hip hst
    rw [addressBan, if_neg ho, if_neg hal]
  have hb : ∀ so (p : AccessibleGossipRecord → Bool), (extractMalefactors lim db so src (agrs.filter p)).2 = [] := by
    intro so p
    refine List.append_eq_nil_iff.2 ⟨List.filterMap_eq_nil_iff.2 fun agr ha => ?_,
      List.filterMap_eq_nil_iff.2 fun agr ha => ?_⟩
    · exact hr agr (List.mem_filter.1 ha).1
    · exact had agr (List.mem_filter.1 (List.mem_filter.1 ha).1).1 so
  obtain ⟨so, hsr⟩ := Option.ne_none_iff_exists'.1 hf
  simp only [StandardGossipHandler.handle, hsr, bind_eq_ok, hb] at hh
  obtain ⟨ad, -, updated, -, hh⟩ := hh
  split_ifs at hh <;> cases hh <;> simp

/-- **Honest messages are not punished.** If a message gives only addresses of nodes that the receiver still counts
among its neighbors, or has never counted among them, nobody is banned for it. -/
theorem handle_noBan {ac : GossipAcceptorReal} {ac' : GossipAcceptorReal} (hs : Sound C R ever j db) (hij : i ≠ j)
    (hv : ∀ l, ac.ratePackLimits.analyze (R.ratePack l) = [])
    (hsr : src.ip = (R.addr i).ipAddr)
    (hk : ∀ agr ∈ agrs, agr.nodeAddrOpt ≠ none → ever j agr.inner.publicKey →
      agr.inner.publicKey ∈ db.root.inner.neighbors)
    (hh : ac.handle P now db agrs src md = .ok (handled, ac'))
    (malefactor : Malefactor) : .ban malefactor ∉ handled.results := by
  obtain ⟨-, q, handler, hq, ht⟩ := handle_taken hh
  have hf := firstQualified_spec hq
  cases ht with
  | malformed =>
    cases handler with
    | debut => exact absurd (Except.ok.inj hf) (debut_not_malformed h)
    | pass => exact absurd (Except.ok.inj hf) (pass_not_malformed h)
    | introduction => exact absurd (Except.ok.inj hf) (introduction_not_malformed h hs hij hsr)
    | standard => exact absurd hf (standard_not_malformed h hs)
    | reject =>
      obtain ⟨reason, hu⟩ := unmatched_of_firstQualified hq .standard (by decide)
      exact absurd hu standard_not_unmatched
  | debut hh => exact debut_noBan h hv hh malefactor
  | pass hh =>
    obtain ⟨-, hn | ⟨gossip, key, nodeAddr, -, hr⟩⟩ := pass_spec hh
    · rw [show handled.results = [] from hn]
      exact List.not_mem_nil
    · rw [show handled.results = _ from hr]
      simp
  | introduction hh => exact introduction_noBan h hs hv (Except.ok.inj hf) hh malefactor
  | standard hh =>
    have he := unmatched_of_firstQualified hq
    obtain ⟨reason, hp⟩ := he .pass (by decide)
    obtain ⟨reason', hin⟩ := he .introduction (by decide)
    exact standard_noBan h hs hv (h.source_found hsr hp)
      (fun agr ha hso => h.known_of_unmatched hs hij hsr hk hp hin ha hso) hh malefactor

end

end

end MasqMobile
