import MasqMobile.Neighborhood.RouteSearch
import MasqMobile.Neighborhood.Steps

/-!
# Gossip that cannot crash the Node

Gossip comes from strangers, and its way through `Neighborhood::handle_gossip` is full of `expect`s. Most of them hold
by what the database is like in every state that gossip leads to (`WellFormed`) or by what a handler has checked
before. Three do not, and a message that meets them ends the Node:

* `CryptDEReal::verify_signature` cuts the signing key out of a public key whose length nobody has checked;
* the standard handler adds a node twice if two records claim the same unknown key;
* it adds the sender under its own address without looking whether it names a port.

Messages free of these (`Harmless`) are handled to the end. The Accountant and the consuming wallet, which a first route
calls upon, have to be there (`RouteReady`).
-/

namespace MasqMobile

open Fallible Lists NeighborhoodDatabase SearchTree Returns DebutHandler GossipAcceptorReal IntroductionHandler
open StandardGossipHandler CryptDEReal GossipBuilder

variable {db : NeighborhoodDatabase} {C : GossipPrimitives} {now : Nat} {agrs : List AccessibleGossipRecord}

/-! ## Routes -/

section

variable {prefs : UserExitPreferences} {q : RouteQuery} {ord : NeighborOrder} {src : PublicKey}

theorem searchEach_returns
    {vi : NodeRecord → SearchState → Except NeighborhoodPanic (List ComputedRouteSegment × SearchState)}
    {nod : List NodeRecord} (h : ∀ node ∈ nod, ∀ st, Returns (vi node st)) (st : SearchState) :
    Returns (searchEach vi nod st) := by
  induction nod generalizing st with
  | nil => exact returns_ok _
  | cons node nod ih =>
    refine (h node List.mem_cons_self st).bind fun first _ => ?_
    exact (ih (fun n hn => h n (List.mem_cons_of_mem _ hn)) first.2).map

/-- The search for routes and for exits never loses the last node of a path: it comes from the database. -/
theorem routingEngine_returns (re : Bool) (fuel : Nat) {path : List PublicKey} {node : NodeRecord}
    (hl : path.getLast? = some node.publicKey) (hno : db.nodeByKey node.publicKey = some node) (u : Int)
    (hops : Nat) (st : SearchState) :
    Returns (routingEngine db prefs q ord re fuel path u hops st) := by
  induction fuel generalizing path node u hops st with
  | zero => exact returns_ok _
  | succ fuel ih =>
    obtain ⟨first, hfs⟩ : ∃ first, path.head? = some first := by
      cases path with
      | nil => cases hl
      | cons first rest => exact ⟨first, rfl⟩
    have hg : ∀ st, Returns (routingGuts db q ord (routingEngine db prefs q ord re fuel) path u hops node st) := by
      refine searchEach_returns fun next hn st => ?_
      have hf := (mem_nextNodes.1 hn).1
      exact ih (by simp) (mem_fullNeighbors.1 hf).2.1 _ _ st
    unfold routingEngine
    simp only [hfs, hl, hno]
    split_ifs
    all_goals first | exact returns_ok _ | exact hg _

theorem findExitLocations_returns (hs : src ∈ db.keys) (mh : Nat) :
    Returns (findExitLocations db prefs ord src mh) := by
  obtain ⟨node, hn⟩ := mem_keys_iff.1 hs
  obtain rfl := publicKey_of_nodeByKey hn
  exact (routingEngine_returns true (searchFuel db) rfl hn _ _ _).map

/-- A route starts at its source and leads over nodes of the database. -/
theorem findBestRouteSegment_returns (hs : src ∈ db.keys) (pick mh : Nat) :
    ∃ result, findBestRouteSegment db prefs q ord pick src mh = .ok result ∧
      ∀ path ∈ result, path.head? = some src ∧ ∀ key ∈ path, key ∈ db.keys := by
  obtain ⟨result, hr, -, hso⟩ := findBestRouteSegment_spec prefs q ord mh pick hs
  refine ⟨result, hr, fun path hpa => ?_⟩
  obtain ⟨g, hg, rfl, -⟩ := hso path hpa
  let Inv (p : Position) := p.undesirability ≤ i64Max ∧ p.path.head? = some src ∧ ∀ key ∈ p.path, key ∈ db.keys
  have hm : ∀ p, Inv p → ∀ c ∈ (routeTree db prefs q ord).children p, Inv c ∧ p.undesirability ≤ c.undesirability := by
    rintro p ⟨hle, hh, hke⟩ c hc
    obtain ⟨hcl, hco⟩ := routeTree_mono p hle c hc
    refine ⟨⟨hcl, ?_⟩, hco⟩
    simp only [routeTree] at hc
    split at hc
    · cases hc
    · obtain ⟨next, hn, rfl⟩ := List.mem_map.1 hc
      have hme : next.publicKey ∈ db.keys := mem_keys_iff.2 ⟨next, (mem_fullNeighbors.1 (mem_nextNodes.1 hn).1).2.1⟩
      refine ⟨?_, ?_⟩
      · cases hp : p.path with
        | nil => simp [hp] at hh
        | cons first rest => simpa [Position.extend, hp] using hh
      · exact List.forall_mem_append.2 ⟨hke, List.forall_mem_singleton.2 hme⟩
  have hst : Inv (positionOf db q src mh [src]) := ⟨initialUndesirability_le db q src, rfl, by simpa using hs⟩
  exact (Reaches.inv hm hg hst).2

end

/-! ## The database -/

/-- What the database is like after any gossip. -/
structure WellFormed (db : NeighborhoodDatabase) : Prop where
  keyLength : ∀ key ∈ db.keys, key.length = 64
  neighbors : ∀ key ∈ db.root.inner.neighbors, key ∈ db.keys
  notOwn : db.thisNode ∉ db.root.inner.neighbors
  address : db.root.acceptsConnections = true → db.root.ipAddrOpt.isSome = true

variable {r : NodeRecord} {keys : List PublicKey}

namespace WellFormed

variable {src : SocketAddr} {pre db' : NeighborhoodDatabase}

section

variable (h : WellFormed db)
include h

/-- A record of another node does not touch the root. -/
theorem setNode (hl : r.publicKey.length = 64) (ho : r.publicKey ≠ db.thisNode) : WellFormed (db.setNode r) := by
  have hr : (db.setNode r).root = db.root := by rw [root_setNode, if_neg ho]
  refine ⟨fun key hk => ?_, fun key hk => ?_, ?_, ?_⟩
  · obtain rfl | hk := mem_keys_setNode.1 hk
    · exact hl
    · exact h.keyLength key hk
  · rw [hr] at hk
    exact mem_keys_setNode.2 (.inr (h.neighbors key hk))
  · rw [hr]
    exact h.notOwn
  · rw [hr]
    exact h.address

theorem addArbitraryNode (hl : r.publicKey.length = 64)
    (ho : r.publicKey ≠ db.thisNode) : WellFormed (db.addArbitraryNode r) := by
  have hr := root_addArbitraryNode ho
  refine ⟨fun key hk => ?_, fun key hk => ?_, ?_, ?_⟩
  · obtain rfl | hk := mem_keys_addArbitraryNode.1 hk
    · exact hl
    · exact h.keyLength key hk
  · rw [hr] at hk
    exact mem_keys_addArbitraryNode.2 (.inr (h.neighbors key hk))
  · rw [hr, thisNode_addArbitraryNode]
    exact h.notOwn
  · rw [hr]
    exact h.address

variable {f : NodeRecord → NodeRecord}

/-- A change of the root that adds only known nodes to its neighbors. -/
theorem modifyRoot (hk : (f db.root).publicKey = db.thisNode)
    (hn : ∀ key ∈ (f db.root).inner.neighbors, key ∈ db.keys ∧ key ≠ db.thisNode)
    (ha : (f db.root).acceptsConnections = db.root.acceptsConnections)
    (hip : (f db.root).ipAddrOpt = db.root.ipAddrOpt) : WellFormed (db.modifyRoot f) := by
  have hr : (db.modifyRoot f).root = f db.root := by rw [NeighborhoodDatabase.modifyRoot, root_setNode, if_pos hk]
  refine ⟨fun key hm => ?_, fun key hm => ?_, ?_, ?_⟩
  · obtain rfl | hm := mem_keys_setNode.1 hm
    · exact h.keyLength _ (hk ▸ db.thisNode_mem_keys)
    · exact h.keyLength key hm
  · rw [hr] at hm
    exact mem_keys_setNode.2 (.inr (hn key hm).1)
  · rw [hr]
    exact fun hm => (hn _ hm).2 rfl
  · rw [hr, ha, hip]
    exact h.address

/-- A change of the root that leaves its neighbors alone. -/
theorem modifyRoot_same (hk : (f db.root).publicKey = db.thisNode)
    (hn : (f db.root).inner.neighbors = db.root.inner.neighbors)
    (ha : (f db.root).acceptsConnections = db.root.acceptsConnections)
    (hip : (f db.root).ipAddrOpt = db.root.ipAddrOpt) : WellFormed (db.modifyRoot f) := by
  refine h.modifyRoot hk (fun key hm => ?_) ha hip
  rw [hn] at hm
  exact ⟨h.neighbors key hm, fun heq => h.notOwn (heq ▸ hm)⟩

theorem insertNeighbor {key : PublicKey} (hk : key ∈ db.keys) (hs : key ≠ db.thisNode) :
    WellFormed (db.modifyRoot fun root =>
      { root with
        inner.neighbors := root.inner.neighbors.orderedInsert (· ≤ ·) key
        metadata.lastUpdate := now }) := by
  refine h.modifyRoot db.publicKey_root (fun key' hm => ?_) rfl rfl
  obtain rfl | hm := (List.mem_orderedInsert _).1 hm
  · exact ⟨hk, hs⟩
  · exact ⟨h.neighbors key' hm, fun heq => h.notOwn (heq ▸ hm)⟩

theorem republishRoot (C : GossipPrimitives) : WellFormed (db.republishRoot C) :=
  h.modifyRoot_same db.publicKey_root rfl rfl rfl

theorem change (hl : ∀ agr ∈ agrs, agr.inner.publicKey.length = 64)
    (hc : Change C now agrs src pre db db') : WellFormed db' := by
  cases hc with
  | @insert agr r ha hin _ hn =>
    have hk : r.publicKey = agr.inner.publicKey := by rw [NodeRecord.publicKey, hin]
    exact h.addArbitraryNode (hk ▸ hl agr ha) fun heq => hn (heq ▸ db.thisNode_mem_keys)
  | @update agr agr' old r r' ha _ _ hs _ _ hr hu =>
    have hk : r'.publicKey = agr.inner.publicKey := (NodeRecord.publicKey_update hu).trans (publicKey_of_nodeByKey hr)
    exact h.setNode (hk ▸ hl agr ha) (hk ▸ hs)
  | neighbor hk hs => exact h.insertNeighbor hk hs
  | republish => exact h.republishRoot C

theorem changes (hle : ∀ agr ∈ agrs, agr.inner.publicKey.length = 64)
    (hc : Changes C now agrs src pre db db') : WellFormed db' := by
  induction hc with
  | refl => exact h
  | tail _ hl ih => exact ih.change hle hl

/-- The root's neighbors are not culled: the root lists them. -/
theorem cullDeadNodes (now : Nat) : WellFormed (db.cullDeadNodes now) := by
  have hke : WellFormed (db.cullDeadNodes now) ∧ (db.cullDeadNodes now).root = db.root := by
    refine removeNodes_induction (fun db' => WellFormed db' ∧ db'.root = db.root) ?_ ⟨h, rfl⟩ _
    rintro db' nodeKey hro hc ⟨hdb, hs⟩
    have hu : nodeKey ∉ db.root.inner.neighbors := by
      intro hm
      refine mem_toCull hc (List.mem_cons_of_mem _ (List.mem_flatMap.2 ⟨db.root, ?_, hm⟩))
      exact (nodeByKey_eq_some_iff.1 db.nodeByKey_thisNode).1
    have hro' := root_removeNode hro
    refine ⟨⟨fun key hk => ?_, fun key hk => ?_, ?_, ?_⟩, hro'.trans hs⟩
    · obtain ⟨r, hr⟩ := mem_keys_iff.1 hk
      rw [nodeByKey_removeNode] at hr
      split_ifs at hr
      exact hdb.keyLength key (mem_keys_iff.2 ⟨r, hr⟩)
    · rw [hro'] at hk
      obtain ⟨r, hr⟩ := mem_keys_iff.1 (hdb.neighbors key hk)
      have hne : key ≠ nodeKey := fun heq => hu (hs ▸ heq ▸ hk)
      exact mem_keys_iff.2 ⟨r, by rw [nodeByKey_removeNode, if_neg hne, hr]⟩
    · rw [hro']
      exact hdb.notOwn
    · rw [hro']
      exact hdb.address
  exact hke.1

end

/-- As `NeighborhoodDatabase::new` makes it, with a key of the right length. -/
theorem ofRoot_firstRecord {mode : NeighborhoodMode} (hl : p.length = 64) :
    WellFormed (ofRoot (firstRecord C now mode e p c)) := by
  refine ⟨fun key hk => ?_, ?_, ?_, ?_⟩
  · obtain ⟨r, hr⟩ := mem_keys_iff.1 hk
    rw [nodeByKey_ofRoot] at hr
    split_ifs at hr with ho
    rw [← ho]
    exact hl
  · rw [root_ofRoot]
    intro key hk
    cases hk
  · rw [root_ofRoot]
    exact List.not_mem_nil
  · rw [root_ofRoot]
    cases mode with
    | standard nodeAddr ratePack => exact fun _ => rfl
    | zeroHop | originateOnly | consumeOnly => intro h; cases h

end WellFormed

/-- Records that no handler stumbles over: a key is as long as its signature makes one expect, no two records are about
the same unknown node, and a sender that is new has a port. -/
structure Harmless (db : NeighborhoodDatabase) (agrs : List AccessibleGossipRecord) (gossipSource : SocketAddr) :
    Prop where
  keyLength : ∀ agr ∈ agrs, agr.signature.length = 64 → agr.inner.publicKey.length = 64
  distinct : ((agrs.filter fun agr => agr.inner.publicKey ∉ db.keys).map (·.inner.publicKey)).Nodup
  ports : ∀ agr ∈ agrs, agr.inner.publicKey ∉ db.keys → agr.nodeAddrOpt ≠ some ⟨gossipSource.ip, []⟩

/-! ## The handlers -/

section

variable {lim : RatePackLimits} {src : SocketAddr} {md : NeighborhoodMetadata} {agr : AccessibleGossipRecord}

theorem produceDebut_returns (db : NeighborhoodDatabase) : Returns (GossipProducerReal.produceDebut db) := by
  have hr : db.root.publicKey ∈ db.keys := db.publicKey_root ▸ db.thisNode_mem_keys
  obtain ⟨b, hb, -⟩ : ∃ b, GossipBuilder.node db db.root.publicKey true {} = .ok b ∧ _ :=
    node_of_mem hr List.not_mem_nil
  exact returns_bind_of_ok hb (returns_ok _)

theorem makePassGossip_returns (h : p ∈ db.keys) : Returns (makePassGossip db p) := by
  obtain ⟨b, hb, -⟩ : ∃ b, GossipBuilder.node db p true {} = .ok b ∧ _ := node_of_mem h List.not_mem_nil
  exact returns_bind_of_ok hb (returns_ok _)

theorem makeDebutTriple_returns (db : NeighborhoodDatabase) (t : AccessibleGossipRecord) :
    Returns (makeDebutTriple db t) := by
  unfold makeDebutTriple
  split
  · exact returns_ok _
  · split_ifs
    · exact returns_ok _
    · exact (produceDebut_returns db).map

theorem publicKey_pricedRecord (now : Nat) (p : Option UserExitPreferences) (agr : AccessibleGossipRecord) :
    (pricedRecord now p agr).publicKey = agr.inner.publicKey := by
  rw [NodeRecord.publicKey, inner_pricedRecord]

/-- The record of an unknown node with ports is added. -/
theorem addNode_pricedRecord (hn : agr.inner.publicKey ∉ db.keys)
    (hp : ∀ nodeAddr ∈ agr.nodeAddrOpt, nodeAddr.ports ≠ []) (p : Option UserExitPreferences) :
    db.addNode (pricedRecord now p agr) = .ok (agr.inner.publicKey, db.addArbitraryNode (pricedRecord now p agr)) := by
  refine addNode_eq_ok_iff.2 ⟨?_, ?_, by rw [publicKey_pricedRecord]⟩
  · rw [nodeAddrOpt_pricedRecord]
    exact hp
  · rw [publicKey_pricedRecord]
    exact hn

/-- A full neighbor of the root is in the database. -/
theorem mem_keys_of_fullNeighborKeys {key : PublicKey} (h : key ∈ db.fullNeighborKeys r) : key ∈ db.keys := by
  obtain ⟨-, n, hn, -⟩ := mem_fullNeighborKeys.1 h
  exact mem_keys_iff.2 ⟨n, hn⟩

theorem mem_of_keysOrderedByDegreeExcluding {key : PublicKey}
    (h : key ∈ keysOrderedByDegreeExcluding db keys e) : key ∈ keys :=
  List.mem_of_mem_filter (mem_sortBy.1 h)

theorem mem_keys_of_findMoreAppropriateNeighbor {key : PublicKey}
    (h : findMoreAppropriateNeighbor db e = some key) : key ∈ db.keys := by
  unfold findMoreAppropriateNeighbor at h
  simp only at h
  split at h
  · cases h
  · next found hf =>
    split_ifs at h
    cases h
    have hm := List.mem_of_mem_head? hf
    have ho := List.mem_of_mem_filter ((List.dropWhile_sublist _).subset hm)
    exact mem_keys_of_fullNeighborKeys (mem_of_keysOrderedByDegreeExcluding ho)

namespace WellFormed

/-- A known node becomes a neighbor, if it is not one already. -/
theorem addHalfNeighbor_returns (h : WellFormed db) {key : PublicKey} (hk : key ∈ db.keys) (hs : key ≠ db.thisNode) :
    ∃ ad db', db.addHalfNeighbor now key = .ok (ad, db') ∧ WellFormed db' ∧ db'.thisNode = db.thisNode ∧
      (key ∉ db.root.inner.neighbors → ad = true) := by
  by_cases ho : key ∈ db.root.inner.neighbors
  · exact ⟨false, db, addHalfNeighbor_eq_ok_iff.2 ⟨hk, .inl ⟨ho, rfl⟩⟩, h, rfl, fun hn => absurd ho hn⟩
  · exact ⟨true, _, addHalfNeighbor_eq_ok_iff.2 ⟨hk, .inr ⟨ho, hs, rfl⟩⟩, h.insertNeighbor hk hs, rfl, fun _ => rfl⟩

theorem tryToMakeIntroduction_returns (h : WellFormed db) (d : AccessibleGossipRecord)
    (src : SocketAddr) : Returns (tryToMakeIntroduction db d src) := by
  unfold tryToMakeIntroduction
  split
  · exact returns_ok _
  · next lcnKey hl =>
    have ho := mem_of_keysOrderedByDegreeExcluding (List.mem_of_mem_head? hl)
    have hf := List.mem_of_mem_filter ho
    have hne : lcnKey ≠ db.thisNode := fun heq => h.notOwn (heq ▸ (mem_fullNeighborKeys.1 hf).1)
    obtain ⟨b, hb, hs⟩ : ∃ b, GossipBuilder.node db db.root.publicKey true {} = .ok b ∧
        b.keysSoFar = [db.root.publicKey] :=
      node_of_mem (db.publicKey_root ▸ db.thisNode_mem_keys) List.not_mem_nil
    have hfr : lcnKey ∉ b.keysSoFar := by
      rw [hs, publicKey_root]
      simpa using hne
    obtain ⟨b', hb', -⟩ : ∃ b', b.node db lcnKey true = .ok b' ∧ _ := node_of_mem (mem_keys_of_fullNeighborKeys hf) hfr
    refine returns_bind_of_ok hb ?_
    exact returns_bind_of_ok hb' (returns_ok _)

variable {d : AccessibleGossipRecord}

theorem answerDebut_returns (h : WellFormed db) (ho : d.inner.publicKey ≠ db.thisNode) (dna : NodeAddr)
    (src : SocketAddr) :
    Returns (answerDebut C db d dna src) := by
  have hs : Returns (createSecondNodeGossipResponse C db d.inner.publicKey) := by
    unfold createSecondNodeGossipResponse
    rw [publicKey_root, if_neg ho]
    exact returns_ok _
  unfold answerDebut
  split_ifs
  · exact returns_ok _
  · refine (makeDebutTriple_returns db d).bind fun t _ => ?_
    cases t <;> exact returns_ok _
  · refine (h.tryToMakeIntroduction_returns d src).bind fun t _ => ?_
    cases t with
    | some | none => exact returns_ok _
  · refine (h.tryToMakeIntroduction_returns d src).bind fun t _ => ?_
    cases t with
    | some t => exact returns_ok _
    | none => exact hs.map

/-- A node that nobody knew is added and becomes a neighbor. -/
theorem tryAcceptDebut_returns (h : WellFormed db) (hl : d.inner.publicKey.length = 64)
    (hn : d.inner.publicKey ∉ db.keys)
    (hp : ∀ nodeAddr ∈ d.nodeAddrOpt, nodeAddr.ports ≠ []) (dna : NodeAddr)
    (src : SocketAddr) (p : Option UserExitPreferences) :
    Returns (tryAcceptDebut C now db d dna src p) := by
  have ho : d.inner.publicKey ≠ db.thisNode := fun heq => hn (heq ▸ db.thisNode_mem_keys)
  have hp' : ∀ nodeAddr ∈ d.clone.nodeAddrOpt, nodeAddr.ports ≠ [] := by
    intro nodeAddr haddr
    obtain ⟨o, hor, rfl⟩ := Option.map_eq_some_iff.1 haddr
    rw [ne_eq, NodeAddr.ports_clone_eq_nil]
    exact hp o hor
  let r := pricedRecord now p d.clone
  have hk : r.publicKey = d.inner.publicKey := publicKey_pricedRecord now p d.clone
  have ha : db.addNode r = .ok (d.clone.inner.publicKey, db.addArbitraryNode r) :=
    addNode_pricedRecord (by exact hn) hp' p
  rw [inner_clone] at ha
  have hw : WellFormed (db.addArbitraryNode r) := h.addArbitraryNode (hk ▸ hl) (hk ▸ ho)
  have hs : d.inner.publicKey ≠ (db.addArbitraryNode r).thisNode := by
    rw [thisNode_addArbitraryNode]
    exact ho
  obtain ⟨ad, neighbors, hh, hne, ht, had⟩ :
      ∃ ad db', addHalfNeighbor now d.inner.publicKey (db.addArbitraryNode r) = _ ∧ _ :=
    hw.addHalfNeighbor_returns (mem_keys_addArbitraryNode.2 (.inl hk)) hs
  obtain rfl : ad = true := by
    refine had fun hm => hn (h.neighbors _ ?_)
    rwa [root_addArbitraryNode (hk ▸ ho)] at hm
  unfold tryAcceptDebut
  simp only [show pricedRecord now p d.clone = r from rfl, ha, hh]
  split_ifs
  · exact returns_ok _
  · have ho' : d.inner.publicKey ≠ (neighbors.republishRoot C).thisNode := by
      rw [show (neighbors.republishRoot C).thisNode = (db.addArbitraryNode r).thisNode from ht]
      exact hs
    exact ((hne.republishRoot C).answerDebut_returns ho' dna src).map

theorem debut_returns (h : WellFormed db) (hl : ∀ agr ∈ agrs, agr.inner.publicKey.length = 64)
    (hq : DebutHandler.qualifies db agrs src = .matched) :
    Returns (DebutHandler.handle C lim now db agrs src md) := by
  obtain ⟨agr, rfl, hn, hpo⟩ := debut_qualified hq
  have hp : ∀ key ∈ db.keys, ∀ target nodeAddr, Returns (do
      let gossip ← makePassGossip db key
      return (⟨[.reply gossip target nodeAddr], db, []⟩ : Handled)) :=
    fun key hk _ _ => (makePassGossip_returns hk).map
  unfold DebutHandler.handle
  simp only
  split
  · exact returns_ok _
  · split
    · next key hk => exact hp key (mem_keys_of_findMoreAppropriateNeighbor hk) _ _
    · -- a debut without an address is given that of the sender, with one port
      have hpo' : (agr.nodeAddrOpt.getD (.ofSocketAddr src)).ports ≠ [] := by
        cases ha : agr.nodeAddrOpt with
        | none => simp [NodeAddr.ofSocketAddr]
        | some nodeAddr => exact hpo nodeAddr ha
      have ht : Returns (tryAcceptDebut C now db
          { agr with nodeAddrOpt := some (agr.nodeAddrOpt.getD (.ofSocketAddr src)) }
          (agr.nodeAddrOpt.getD (.ofSocketAddr src)) src md.userExitPreferencesOpt) := by
        refine h.tryAcceptDebut_returns ?_ ?_ (fun nodeAddr ha => ?_) _ _ _
        · exact hl agr List.mem_cons_self
        · exact hn
        · rwa [← Option.some.inj ha]
      refine ht.bind fun t _ => ?_
      cases t with
      | some accepted => exact returns_ok _
      | none =>
        simp only
        split
        · exact returns_ok _
        · next key hk =>
          have hm := mem_of_keysOrderedByDegreeExcluding (List.mem_of_mem_head? hk)
          exact hp key (h.neighbors key hm) _ _

theorem pass_returns (hq : PassHandler.qualifies agrs src = .matched) (p : IpAddr → Option Nat) :
    Returns (PassHandler.handle now db agrs src md p) := by
  obtain ⟨agr, nodeAddr, rfl, ha⟩ : ∃ agr nodeAddr, agrs = [agr] ∧ agr.nodeAddrOpt = some nodeAddr := by
    unfold PassHandler.qualifies at hq
    split at hq
    · next agr =>
      split at hq
      · cases hq
      · next nodeAddr ha => exact ⟨agr, nodeAddr, rfl, ha⟩
    · cases hq
  obtain ⟨signedGossip, signature, nodeAddrOpt, inner⟩ := agr
  cases ha
  unfold PassHandler.handle
  simp only
  split
  · split_ifs
    · exact returns_ok _
    · exact ((produceDebut_returns db).map).map
  · split_ifs
    · exact returns_ok _
    · exact ((produceDebut_returns db).map).map

theorem becomeNeighbors_returns (h : WellFormed db) {key : PublicKey} (hk : key ∈ db.keys)
    (hs : key ≠ db.thisNode) : Returns (becomeNeighbors C now key db) := by
  obtain ⟨ad, db', hh, -⟩ : ∃ ad db', addHalfNeighbor now key db = _ ∧ _ := h.addHalfNeighbor_returns hk hs
  unfold becomeNeighbors
  cases ad <;> simp only [hh] <;> exact returns_ok _

theorem updateDatabase_returns (h : WellFormed db) {int : AccessibleGossipRecord}
    (hl : int.inner.publicKey.length = 64) (ho : int.inner.publicKey ≠ db.thisNode)
    (hp : ∀ nodeAddr ∈ int.nodeAddrOpt, nodeAddr.ports ≠ []) (p : Option UserExitPreferences) :
    Returns (updateDatabase C now db int p) := by
  unfold updateDatabase
  split
  · next existing he =>
    split_ifs
    · split
      · exact returns_ok _
      · next updated hup =>
        have hk : updated.publicKey = int.inner.publicKey :=
          (NodeRecord.publicKey_update hup).trans (publicKey_of_nodeByKey he)
        exact (h.setNode (hk ▸ hl) (hk ▸ ho)).becomeNeighbors_returns (mem_keys_setNode.2 (.inl hk)) ho
    · exact returns_ok _
  · next hu =>
    have hk := publicKey_pricedRecord now p int
    have hn : int.inner.publicKey ∉ db.keys := fun hm => by
      obtain ⟨r, hr⟩ := mem_keys_iff.1 hm
      cases hu.symm.trans hr
    simp only [addNode_pricedRecord hn hp p]
    refine (h.addArbitraryNode (hk ▸ hl) (hk ▸ ho)).becomeNeighbors_returns (mem_keys_addArbitraryNode.2 (.inl hk)) ?_
    rw [thisNode_addArbitraryNode]
    exact ho

theorem introduction_returns (h : WellFormed db) (hl : ∀ agr ∈ agrs, agr.inner.publicKey.length = 64)
    (hq : IntroductionHandler.qualifies db agrs src = .matched) :
    Returns (IntroductionHandler.handle C lim now db agrs src md) := by
  obtain ⟨first, second, introducer, introducee, rfl, hp, hin⟩ := introduction_qualified hq
  have hag : introducer ∈ [first, second] := by
    obtain heq | heq := hin.players <;> rw [heq] <;> simp
  have hpo : ∀ nodeAddr ∈ introducer.clone.nodeAddrOpt, nodeAddr.ports ≠ [] := by
    intro nodeAddr ha
    obtain ⟨ori, ho, rfl⟩ := Option.map_eq_some_iff.1 ha
    rw [ne_eq, NodeAddr.ports_clone_eq_nil]
    exact hin.introducerPorts ori ho
  have hu : ∀ b, Returns (updateIntroducerIfAppropriate C now db introducer
      md.userExitPreferencesOpt b) := by
    intro b
    cases b with
    | some reason => exact returns_ok _
    | none =>
      refine (h.updateDatabase_returns ?_ ?_ hpo _).bind fun result _ => ?_
      · exact hl introducer hag
      · exact hin.introducerKey
      · obtain ⟨o, db'⟩ := result
        cases o <;> exact returns_ok _
  -- the introducee has ports, so there is a debut for it
  obtain ⟨nodeAddr, ha, hn, -⟩ := hin.introducee
  have hd : ∀ db', ∃ debut, makeDebutTriple db' introducee = .ok (some debut) := by
    intro db'
    obtain ⟨gossip, hg⟩ := produceDebut_returns db'
    refine ⟨(gossip, introducee.inner.publicKey, nodeAddr.clone), ?_⟩
    simp only [makeDebutTriple, ha, if_neg hn]
    exact bind_eq_ok.2 ⟨gossip, hg, rfl⟩
  unfold IntroductionHandler.handle
  split_ifs
  · exact returns_ok _
  · simp only [hp]
    refine (hu _).bind fun result _ => ?_
    obtain ⟨b, updated, db'⟩ := result
    obtain ⟨debut, hd⟩ := hd db'
    simp only
    by_cases hba : b.isSome = true
    · rw [if_pos hba]
      exact returns_ok _
    · rw [if_neg hba]
      by_cases hb : (banReasonOpt
          (validateIncomingAgr lim "Introducee" introducee)).isSome = true
      · rw [if_pos hb]
        exact returns_ok _
      · rw [if_neg hb]
        refine returns_bind_of_ok hd ?_
        exact returns_ok _

/-- New nodes with distinct keys and with ports are all added. -/
theorem addNewNodes_returns (hn : ∀ agr ∈ na, agr.inner.publicKey ∉ db.keys) (hd : (na.map (·.inner.publicKey)).Nodup)
    (hp : ∀ agr ∈ na, ∀ nodeAddr ∈ agr.nodeAddrOpt, nodeAddr.ports ≠ [])
    (p : Option UserExitPreferences) :
    ∃ db', addNewNodes now p na db = .ok db' ∧ db.keys ⊆ db'.keys := by
  induction na generalizing db with
  | nil => exact ⟨db, rfl, fun _ hk => hk⟩
  | cons agr na ih =>
    obtain ⟨hf, hr⟩ := List.nodup_cons.1 hd
    have ha : db.addNode (pricedRecord now p agr) = _ :=
      addNode_pricedRecord (hn agr List.mem_cons_self) (hp agr List.mem_cons_self) p
    have hk := publicKey_pricedRecord now p agr
    obtain ⟨db', hdb', hke⟩ : ∃ db', addNewNodes now p na
        (db.addArbitraryNode (pricedRecord now p agr)) = .ok db' ∧ _ := by
      refine ih (fun agr' ha' hm => ?_) hr fun agr' ha' => hp agr' (List.mem_cons_of_mem _ ha')
      obtain heq | hm := mem_keys_addArbitraryNode.1 hm
      · exact hf (List.mem_map.2 ⟨agr', ha', (hk.symm.trans heq).symm⟩)
      · exact hn agr' (List.mem_cons_of_mem _ ha') hm
    refine ⟨db', ?_, fun key hm => hke (mem_keys_addArbitraryNode.2 (.inr hm))⟩
    simp only [addNewNodes, List.foldlM_cons, ha]
    exact hdb'

theorem updateObsoleteNodes_returns (hk : ∀ agr ∈ o, agr.inner.publicKey ∈ db.keys) :
    Returns (updateObsoleteNodes now o db) := by
  induction o generalizing db with
  | nil => exact returns_ok _
  | cons agr o ih =>
    obtain ⟨ex, he⟩ := mem_keys_iff.1 (hk agr List.mem_cons_self)
    have hr : ∀ agr' ∈ o, agr'.inner.publicKey ∈ db.keys := fun agr' ha' => hk agr' (List.mem_cons_of_mem _ ha')
    simp only [updateObsoleteNodes, List.foldlM_cons, he]
    cases hu : ex.update now agr with
    | error e => exact ih hr
    | ok updated => exact ih fun agr' ha' => mem_keys_setNode.2 (.inr (hr agr' ha'))

/-- A new node that is kept with an address is the sender; of any other the address should not be known. -/
theorem ports_of_worthy (h : WellFormed db) (hh : Harmless db agrs src) (hag : agr ∈ agrs) (hn : agr.inner.publicKey ∉ db.keys)
    (hk : addressBan db sa src agr = none) :
    ∀ nodeAddr ∈ agr.nodeAddrOpt, nodeAddr.ports ≠ [] := by
  intro nodeAddr ha hp
  have hst : agr.inner.publicKey ∉ db.root.inner.neighbors := fun hm => hn (h.neighbors _ hm)
  have hip : agr.ipAddrOpt = some nodeAddr.ipAddr := by
    rw [AccessibleGossipRecord.ipAddrOpt, Option.mem_def.1 ha, Option.map_some]
  unfold addressBan at hk
  split_ifs at hk with ho hkn
  have hs : nodeAddr.ipAddr = src.ip := by
    by_contra hne
    exact hkn ⟨by rw [hip, Option.isSome_some], by simpa [hip] using hne, hst⟩
  exact hh.ports agr hag hn (by rw [Option.mem_def.1 ha, ← hs, ← hp])

theorem identify_new :
    (identifyNonIntroductoryNewAndObsoleteNodes db agrs).1 = agrs.filter fun agr => agr.inner.publicKey ∉ db.keys := by
  refine List.filter_congr fun agr _ => ?_
  rw [Bool.eq_iff_iff, decide_eq_true_iff, mem_keys_iff, Option.isNone_iff_eq_none, Option.eq_none_iff_forall_ne_some,
    not_exists]

theorem standard_returns (h : WellFormed db) (hh : Harmless db agrs src) :
    Returns (StandardGossipHandler.handle C lim now db agrs src md) := by
  unfold StandardGossipHandler.handle
  simp only
  split
  · exact returns_ok _
  · next sourceAgr _ =>
    generalize hw : (extractMalefactors lim db sourceAgr src _) = worthy
    have hs : worthy.1.Sublist agrs := by
      rw [← hw]
      exact List.filter_sublist.trans (List.filter_sublist.trans List.filter_sublist)
    have hk : ∀ agr ∈ worthy.1, addressBan db sourceAgr src agr = none := by
      intro agr ha
      rw [← hw] at ha
      simpa using List.of_mem_filter ha
    obtain ⟨ad, had, hke⟩ : ∃ db', addNewNodes now md.userExitPreferencesOpt
        (identifyNonIntroductoryNewAndObsoleteNodes db worthy.1).1 db = .ok db' ∧ _ := by
      rw [identify_new]
      refine addNewNodes_returns (fun agr ha => ?_) ?_ (fun agr ha => ?_) _
      · exact of_decide_eq_true (List.mem_filter.1 ha).2
      · exact hh.distinct.sublist (List.Sublist.map _ (hs.filter _))
      · obtain ⟨hm, hn⟩ := List.mem_filter.1 ha
        exact h.ports_of_worthy hh (hs.subset hm) (of_decide_eq_true hn) (hk agr hm)
    refine returns_bind_of_ok had ?_
    refine (updateObsoleteNodes_returns fun agr ha => hke ?_).bind fun u _ => ?_
    · obtain ⟨r, hr, -⟩ := (Option.any_eq_true _ _).1 (List.mem_filter.1 ha).2
      exact mem_keys_iff.2 ⟨r, hr⟩
    · split_ifs <;> exact returns_ok _

/-- The root's own address is there when a record's is compared with it. -/
theorem qualifies_returns (h : WellFormed db) (handler : GossipHandler) :
    Returns (GossipAcceptorReal.qualifies db agrs src handler) := by
  cases handler with
  | debut | pass | introduction | reject => exact returns_ok _
  | standard =>
    have him : Returns (impostorAtOurIp db.root agrs) := by
      unfold impostorAtOurIp
      split_ifs with ha
      · obtain ⟨ri, hr⟩ := Option.isSome_iff_exists.1 (h.address ha.1)
        rw [hr]
        exact returns_ok _
      · exact returns_ok _
    refine him.bind fun im _ => ?_
    cases im with
    | some impostor => exact returns_ok _
    | none =>
      simp only
      split
      · exact returns_ok _
      · split <;> exact returns_ok _

/-- Some handler takes the message, if only to reject it. -/
theorem firstQualified_returns (h : WellFormed db) (hr : .reject ∈ ha) : ∃ qu handler, firstQualified db agrs src ha =
      .ok (qu, handler) ∧ ∀ reason, qu ≠ .unmatched reason := by
  induction ha with
  | nil => cases hr
  | cons first ha ih =>
    obtain ⟨qu, hf⟩ : Returns (GossipAcceptorReal.qualifies db agrs src first) := h.qualifies_returns first
    cases qu with
    | matched => exact ⟨.matched, first, bind_eq_ok.2 ⟨_, hf, rfl⟩, fun _ => nofun⟩
    | malformed malefactor => exact ⟨.malformed malefactor, first, bind_eq_ok.2 ⟨_, hf, rfl⟩, fun _ => nofun⟩
    | unmatched reason =>
      obtain rfl | hr := List.mem_cons.1 hr
      · cases hf
      · obtain ⟨qu, handler, hok, hm⟩ := ih hr
        exact ⟨qu, handler, bind_eq_ok.2 ⟨_, hf, hok⟩, hm⟩

/-- **The acceptor handles harmless gossip** of nodes whose keys have the right length. -/
theorem handle_returns (h : WellFormed db) (hh : Harmless db agrs src)
    (hl : ∀ agr ∈ agrs, agr.inner.publicKey.length = 64) (ac : GossipAcceptorReal) :
    Returns (ac.handle C now db agrs src md) := by
  obtain ⟨qu, handler, hf, hm⟩ : ∃ qu handler, firstQualified db agrs src gossipHandlers = _ ∧ _ :=
    h.firstQualified_returns (by simp [gossipHandlers])
  have hq := firstQualified_spec hf
  refine returns_bind_of_ok hf ?_
  cases qu with
  | unmatched reason => exact absurd rfl (hm reason)
  | malformed malefactor => exact returns_ok _
  | matched =>
    cases handler with
    | debut => exact (h.debut_returns hl (Except.ok.inj hq)).map
    | pass => exact (pass_returns (Except.ok.inj hq) _).map
    | introduction => exact (h.introduction_returns hl (Except.ok.inj hq)).map
    | standard => exact (h.standard_returns hh).map
    | reject => cases hq

end WellFormed

end

/-! ## The actor -/

namespace Neighborhood

variable {m : Moment} {n n' : Neighborhood}

/-- A route that is found can be signed for, and the Accountant can be told. -/
structure RouteReady (n : Neighborhood) : Prop where
  wallet : ∀ kind ∈ n.consumingWalletOpt, kind = .secretKey
  accountant : n.accountantStarted = true ∨ n.accountant = .alive

theorem Upkeep.wellFormed (h : Upkeep C m n n') (hn : WellFormed n.database) : WellFormed n'.database := by
  cases h with
  | countries | route | accountant | send => exact hn
  | regenerate => exact hn.modifyRoot_same n.database.publicKey_root rfl rfl rfl
  | cull => exact hn.cullDeadNodes m.now

theorem Upkeep.routeReady (h : Upkeep C m n n') (hn : n.RouteReady) : n'.RouteReady := by
  cases h with
  | countries | route | regenerate | cull | send => exact ⟨hn.wallet, hn.accountant⟩
  | accountant => exact ⟨hn.wallet, .inl rfl⟩

theorem initDbCountries_returns (m : Moment) (n : Neighborhood) : Returns (initDbCountries m n) :=
  (findExitLocations_returns n.database.thisNode_mem_keys _).map

theorem gossipToNeighbors_returns (C : GossipPrimitives) (m : Moment) (n : Neighborhood) :
    Returns (gossipToNeighbors C m n) := by
  refine returns_foldlM (fun before neighbor _ => ?_) _
  obtain ⟨g, after, hp, -⟩ := GossipProducerReal.produce_spec m.now before.lastDeadNodeCheck before.database neighbor
  exact returns_bind_of_ok hp (returns_ok _)

theorem handleResult_returns (C : GossipPrimitives) (m : Moment) (n : Neighborhood) (re : GossipAcceptanceResult) :
    Returns (handleResult C m n re) := by
  cases re with
  | accepted => exact (initDbCountries_returns m n).bind fun _ _ => gossipToNeighbors_returns C m _
  | reply gossip key nodeAddr =>
    unfold handleResult
    split_ifs
    · exact (initDbCountries_returns m n).map
    · exact returns_ok _
  | failed | ban => exact returns_ok _

theorem curatePastNeighbors_returns (hl : ∀ key ∈ keys, key.length = 64) :
    Returns (curatePastNeighbors keys n) := by
  unfold curatePastNeighbors
  split_ifs
  · induction keys with
    | nil => exact returns_ok _
    | cons key keys ih =>
      have hk : ¬ key.length < publicKeyBytes := by
        rw [hl key List.mem_cons_self]
        decide
      exact (returns_failIf hk).bind fun _ _ => ih fun key hm => hl key (List.mem_cons_of_mem _ hm)
  · exact returns_ok _

theorem encodesTo_of_mem (h : WellFormed n.database) {key : PublicKey} (hk : key ∈ n.database.keys) :
    encodesTo key = true := by
  simp [encodesTo, publicKeyBytes, h.keyLength key hk]

/-- The two halves of a round trip meet at the exit, and all their keys are known. -/
theorem composeRouteQueryResponse_returns (h : WellFormed n.database) (hr : n.RouteReady)
    {overRoute back : List PublicKey} (hm : overRoute.getLast? = back.head?)
    (hk : ∀ key ∈ overRoute ++ back, key ∈ n.database.keys) : Returns (composeRouteQueryResponse overRoute back n) := by
  unfold composeRouteQueryResponse
  split_ifs
  · exact returns_ok _
  · exact returns_ok _
  · refine (returns_failIf (not_not.2 hm)).bind fun _ _ => ?_
    have hp : Returns (asPayer n.consumingWalletOpt overRoute) := by
      refine returns_failIf ?_
      rintro ⟨kind, hki, hne⟩
      exact hne (hr.wallet kind hki)
    refine hp.bind fun _ _ => ?_
    refine (returns_failIf (not_not.2 fun key hke => ?_)).map
    exact encodesTo_of_mem h (hk key hke)
  · exact returns_ok _

theorem makeRoundTripRoute_returns (h : WellFormed n.database) (hr : n.RouteReady) :
    Returns (makeRoundTripRoute m n) := by
  obtain ⟨o, ho, hov⟩ : ∃ result, findBestRouteSegment n.database n.preferences
      ⟨none, 10000, .over, "booga.com", 0⟩ m.hashOrder m.pickOver n.database.thisNode n.minHops.value = .ok result ∧ _ :=
    findBestRouteSegment_returns n.database.thisNode_mem_keys m.pickOver n.minHops.value
  refine returns_bind_of_ok ho ?_
  cases o with
  | none => exact returns_ok _
  | some overRoute =>
    obtain ⟨hh, hk⟩ := hov overRoute rfl
    obtain ⟨exit, he⟩ : ∃ exit, overRoute.getLast? = some exit := by
      cases overRoute with
      | nil => cases hh
      | cons first rest => exact ⟨_, List.getLast?_eq_some_getLast (List.cons_ne_nil first rest)⟩
    simp only [he]
    obtain ⟨b, hb, hbackP⟩ : ∃ result, findBestRouteSegment n.database n.preferences
        ⟨some n.database.thisNode, saturatingMulU64 10000 responseUndesirabilityFactor, .back, "booga.com", 0⟩ m.hashOrder
        m.pickBack exit n.minHops.value = .ok result ∧ _ :=
      findBestRouteSegment_returns (hk exit (List.mem_of_getLast? he)) m.pickBack n.minHops.value
    refine returns_bind_of_ok hb ?_
    cases b with
    | none => exact returns_ok _
    | some back =>
      obtain ⟨hbac, hba⟩ := hbackP back rfl
      refine composeRouteQueryResponse_returns h hr (he.trans hbac.symm) fun key hke => ?_
      exact (List.mem_append.1 hke).elim (hk key) (hba key)

theorem checkConnectedness_returns (h : WellFormed n.database) (hr : n.RouteReady) :
    Returns (checkConnectedness m n) := by
  have hro : Returns (routeExists m n) := by
    unfold routeExists
    split_ifs
    · have ho : ¬ ¬ encodesTo n.database.thisNode = true := not_not.2 (encodesTo_of_mem h n.database.thisNode_mem_keys)
      exact (returns_failIf ho).map
    · exact (makeRoundTripRoute_returns h hr).map
  have hs : Returns (startAccountantIfNeeded { n with topologyRouteAvailable := true }) := by
    unfold startAccountantIfNeeded
    split_ifs with hst
    · exact returns_ok _
    · have ha : n.accountant = .alive := hr.accountant.resolve_left hst
      simp only [ha]
      exact returns_ok _
  unfold checkConnectedness searchForANewRoute
  split_ifs
  · exact returns_ok _
  · refine hro.bind fun found _ => ?_
    split_ifs
    · exact hs
    · exact returns_ok _

theorem keyLength_of_verified {data : List UInt8} {key : PublicKey}
    (h : verifySignature C data si key = .ok true) : key.length = 64 := by
  refine verifySignature_ne_error_iff.1 ⟨true, h⟩ ?_
  by_contra hl
  unfold verifySignature at h
  rw [if_pos (show si.length ≠ signatureBytes from hl)] at h
  cases h

theorem anySignatureInvalid_returns {agrs : List AccessibleGossipRecord}
    (h : ∀ agr ∈ agrs, agr.signature.length = 64 → agr.inner.publicKey.length = 64) :
    Returns (anySignatureInvalid C agrs) := by
  induction agrs with
  | nil => exact returns_ok _
  | cons agr agrs ih =>
    refine bind (verifySignature_ne_error_iff.2 (h agr List.mem_cons_self)) fun valid _ => ?_
    split_ifs
    · exact ih fun agr' ha' => h agr' (List.mem_cons_of_mem _ ha')
    · exact returns_ok _

theorem handleGossip_returns (h : WellFormed n.database) (hr : n.RouteReady) {gossipSource : SocketAddr}
    (hh : Harmless n.database (g.filterMap (accessible C)) gossipSource)
    (m : Moment) : Returns (n.handleGossip C m g gossipSource) := by
  unfold handleGossip
  simp only
  split_ifs
  · exact returns_ok _
  · refine (anySignatureInvalid_returns hh.keyLength).bind fun invalid hin => ?_
    split_ifs with hb
    · exact returns_ok _
    · obtain rfl : invalid = false := by simpa using hb
      have hl : ∀ agr ∈ g.filterMap (accessible C), agr.inner.publicKey.length = 64 :=
        fun agr hag => keyLength_of_verified (signatures_of_anySignatureInvalid hin agr hag)
      have ha : Returns (handleAgrs C m (g.filterMap (accessible C)) gossipSource n) := by
        refine (h.handle_returns hh hl n.acceptor).bind fun han _ => ?_
        exact returns_foldlM (fun n result _ => handleResult_returns C m n result) _
      refine ha.bind fun n' hn' => ?_
      simp only [handleAgrs, bind_eq_ok] at hn'
      obtain ⟨⟨han, acceptor⟩, hha, hre⟩ := hn'
      have hu := handleResults_upkeep hre
      have hr' : n'.RouteReady := hu.invariant RouteReady (fun _ _ => Upkeep.routeReady) ⟨hr.wallet, hr.accountant⟩
      have hw : WellFormed n'.database := by
        refine hu.invariant (fun n => WellFormed n.database) (fun _ _ => Upkeep.wellFormed) ?_
        obtain hs | ⟨-, hch⟩ := handle_changes hha
        · exact hs ▸ h
        · exact h.changes hl hch
      have hc := checkConnectedness_returns (m := m) hw hr'
      split_ifs
      · exact hc
      · refine (curatePastNeighbors_returns fun key hk => ?_).bind fun _ _ => hc
        exact hw.keyLength key (mem_keys_of_fullNeighborKeys hk)

/-- Gossip and nothing else. -/
def IsGossip (_ : Neighborhood) (event : NeighborhoodEvent) : Prop :=
  ∃ incomingGossip gossipSource, event = .gossip incomingGossip gossipSource

end Neighborhood

open Neighborhood

/-- **Harmless gossip cannot crash the Node**: in every state that a fresh Node reaches by whatever gossip, a harmless
message is handled to the end. -/
theorem harmless_gossip_never_panics {C : GossipPrimitives} {n n' : Neighborhood} (hfresh : n.IsFresh C)
    (hkey : n.database.thisNode.length = 64) (hrun : Reaches C IsGossip n n') (hready : n'.RouteReady) (m : Moment)
    (gossip : Gossip) (gossipSource : SocketAddr)
    (hharmless : Harmless n'.database (gossip.filterMap (accessible C)) gossipSource) :
    ∃ after, n'.handleGossip C m gossip gossipSource = .ok after := by
  have hst : WellFormed n.database := by
    obtain ⟨now, mode, earningWallet, publicKey, contractOpt, hdb⟩ := hfresh.database
    rw [hdb] at hkey ⊢
    exact .ofRoot_firstRecord hkey
  have hw : WellFormed n'.database := by
    refine hrun.invariant (fun n => WellFormed n.database) ?_ hst
    rintro m n _ n' ⟨gossip, gossipSource, rfl⟩ hs hn
    obtain rfl | he := handleGossip_effect hs
    · exact hn
    · obtain ⟨database, acceptor, hch, hu⟩ := he.changed
      refine hu.invariant (fun n => WellFormed n.database) (fun _ _ => Upkeep.wellFormed) ?_
      obtain rfl | ⟨-, hc⟩ := hch
      · exact hn
      · exact hn.changes (fun agr ha => keyLength_of_verified (he.signed agr ha)) hc
  exact handleGossip_returns hw hready hharmless m

open SmallNetwork

/-- Node 1 debuts with a fresh Node and then tells it of node 2. -/
theorem second_gossip_is_handled : ∃ n', Reaches primitives IsGossip node n' ∧
      ∃ after, n'.handleGossip primitives moment [record 1 1 1 [2] (listensAt 1), record 2 0 1 [1] none] ⟨ip 1, 5000⟩ =
        .ok after := by
  obtain ⟨n', hs, ho⟩ :=
    map_eq_ok_iff.1 (show (node.step primitives moment (message [record 1 0 1 [] (listensAt 1)] 1)).map
      (fun n => (n.database.keys, n.consumingWalletOpt, n.accountant)) =
        .ok ([key 0, key 1], some .secretKey, .alive) by decide +kernel)
  have hr : Reaches primitives IsGossip node n' := .single ⟨moment, _, ⟨_, _, rfl⟩, hs⟩
  simp only [Prod.mk.injEq] at ho
  obtain ⟨hk, hw, ha⟩ := ho
  have hre : n'.RouteReady := ⟨by rw [hw]; simp, .inr ha⟩
  refine ⟨n', hr, harmless_gossip_never_panics node_isFresh (by decide) hr hre moment _ _ ⟨?_, ?_, ?_⟩⟩
  · decide +kernel
  · rw [hk]
    decide +kernel
  · rw [hk]
    decide +kernel

/-- The three ways to crash the Node: a signature of 64 bytes with a key of three, a key that two records claim, and a
new sender without a port. -/
theorem gossip_panics :
    node.handleGossip { primitives with fromCbor := fun _ => some { inner 1 0 1 [] with publicKey := [1, 2, 3] } }
        moment [record 1 0 1 [] (listensAt 1)] ⟨ip 1, 5000⟩ = .error (.keyOutOfRange 3) ∧
    (∃ n', Reaches primitives IsGossip node n' ∧ n'.handleGossip primitives moment
        [record 1 1 1 [2] (listensAt 1), record 2 0 1 [1] none, record 2 0 1 [1] none] ⟨ip 1, 5000⟩ =
          .error (.newNodeExisted (.nodeKeyCollision (key 2)))) ∧
    (∃ n', Reaches primitives IsGossip node n' ∧
      n'.handleGossip primitives moment [record 1 1 1 [2] none, record 2 0 1 [1] (some ⟨ip 2, []⟩)] ⟨ip 2, 5000⟩ =
        .error (.newNodeExisted .emptyPortList)) := by
  have ha : ∀ gossip source panic, (node.step primitives moment (message [record 1 0 1 [] (listensAt 1)] 1)).map
        (fun n => verdict (n.handleGossip primitives moment gossip source)) = .ok (.error panic) →
      ∃ n', Reaches primitives IsGossip node n' ∧ n'.handleGossip primitives moment gossip source = .error panic := by
    intro gossip source panic h
    obtain ⟨n', hs, hp⟩ := map_eq_ok_iff.1 h
    exact ⟨n', .single ⟨moment, _, ⟨_, _, rfl⟩, hs⟩, verdict_eq_error.1 hp⟩
  refine ⟨verdict_eq_error.1 ?_, ha _ _ _ ?_, ha _ _ _ ?_⟩
  · decide +kernel
  · decide +kernel
  · decide +kernel

end MasqMobile
