import MasqMobile.Neighborhood.Steps

/-!
# Stored records

The records of other nodes come from gossip. Whatever happens to the Neighborhood, what it stores of another node is
what that node has signed (`Authentic`), and its own record changes by gossip in two ways only (`RootGrows`).

Standard gossip is to store the newest version of each record. `identify_non_introductory_new_and_obsolete_nodes`
compares every record with the database as it was before the message, and `update_obsolete_nodes` then applies all
that were newer in the order in which they came, whatever the ones before have stored. So of several records for one
key the last to be applied stays, newest or not, and an address that one of them brings can rule out the next.

| here | there |
| --- | --- |
| `StandardGossipHandler.handle` | gossip_acceptor.rs:1250 |
| `identifyNonIntroductoryNewAndObsoleteNodes` | gossip_acceptor.rs:1514 |
| `addNewNodes`, `updateObsoleteNodes` | gossip_acceptor.rs:1538, 1563 |
| `NodeRecord.update` | node_record.rs:348 |
-/

namespace MasqMobile

open Fallible NeighborhoodDatabase GossipAcceptorReal StandardGossipHandler NodeRecord CryptDEReal

variable {db db' pre : NeighborhoodDatabase} {C : GossipPrimitives} {m : Moment} {n n' : Neighborhood} {r : NodeRecord}
  {now : Nat} {agrs : List AccessibleGossipRecord} {src : SocketAddr}

/-! ## Records of other nodes -/

/-- The part of a record that is signed, with its signature. -/
structure SameContent (r r' : NodeRecord) : Prop where
  inner : r'.inner = r.inner
  signedGossip : r'.signedGossip = r.signedGossip
  signature : r'.signature = r.signature

theorem SameContent.refl (r : NodeRecord) : SameContent r r := ⟨rfl, rfl, rfl⟩

/-- The records of other nodes in a database come from another one, where only their metadata were different. -/
structure Retains (db db' : NeighborhoodDatabase) : Prop where
  thisNode : db'.thisNode = db.thisNode
  nodes : ∀ key r', key ≠ db.thisNode → db'.nodeByKey key = some r' → ∃ r, db.nodeByKey key = some r ∧ SameContent r r'

section

variable {db'' : NeighborhoodDatabase}

theorem Retains.refl (db : NeighborhoodDatabase) : Retains db db := ⟨rfl, fun _ r' _ h => ⟨r', h, .refl r'⟩⟩

theorem Retains.trans (h : Retains db db') (h' : Retains db' db'') : Retains db db'' where
  thisNode := h'.thisNode.trans h.thisNode
  nodes key r'' hk hr'' := by
    obtain ⟨r', hr', hs'⟩ := h'.nodes key r'' (h.thisNode ▸ hk) hr''
    obtain ⟨r, hr, hs⟩ := h.nodes key r' hk hr'
    exact ⟨r, hr, hs'.inner.trans hs.inner, hs'.signedGossip.trans hs.signedGossip, hs'.signature.trans hs.signature⟩

variable {f : NodeRecord → NodeRecord}

theorem retains_modifyRoot (hk : (f db.root).publicKey = db.thisNode) : Retains db (db.modifyRoot f) where
  thisNode := rfl
  nodes key r' ho h := by
    rw [modifyRoot, nodeByKey_setNode, if_neg (fun heq => ho (heq.symm.trans hk))] at h
    exact ⟨r', h, .refl r'⟩

theorem retains_mapNodes (hk : ∀ r, (f r).publicKey = r.publicKey)
    (hs : ∀ r, SameContent r (f r)) : Retains db (db.mapNodes f hk) where
  thisNode := rfl
  nodes key r' _ h := by
    rw [nodeByKey_mapNodes] at h
    obtain ⟨r, hr, rfl⟩ := Option.map_eq_some_iff.1 h
    exact ⟨r, hr, hs r⟩

theorem retains_removeNode (hr : nk ≠ db.thisNode) : Retains db (db.removeNode nk hr) where
  thisNode := rfl
  nodes key r' _ h := by
    rw [nodeByKey_removeNode] at h
    split_ifs at h
    exact ⟨r', h, .refl r'⟩

theorem retains_cullDeadNodes (now : Nat) (db : NeighborhoodDatabase) : Retains db (db.cullDeadNodes now) :=
  removeNodes_induction (Retains db) (fun _ _ hr _ h => h.trans (retains_removeNode hr)) (.refl db) _

theorem retains_removeNeighbor (h : db.removeNeighbor nk = .ok (d, db')) : Retains db db' := by
  unfold removeNeighbor at h
  split at h
  · cases h
  · next toRemove hl =>
    have hf : Retains db (db.forgetNodeAddr toRemove) := by
      have hs : Retains db (db.setNode toRemove.unsetNodeAddr) := by
        refine ⟨rfl, fun key r' _ hr' => ?_⟩
        rw [nodeByKey_setNode] at hr'
        split_ifs at hr' with hk
        · obtain rfl := Option.some.inj hr'
          refine ⟨toRemove, ?_, rfl, rfl, rfl⟩
          rw [← hk, publicKey_unsetNodeAddr, publicKey_of_nodeByKey hl]
          exact hl
        · exact ⟨r', hr', .refl r'⟩
      unfold forgetNodeAddr
      split
      · exact hs
      · exact ⟨hs.thisNode, hs.nodes⟩
    simp only at h
    split_ifs at h
    · cases h
      exact hf.trans (retains_modifyRoot (publicKey_root _))
    · cases h
      exact hf

end

variable {g : Gossip} {gossipSource : SocketAddr}

namespace Neighborhood

theorem Upkeep.retains (h : Upkeep C m n n') : Retains n.database n'.database := by
  cases h with
  | countries | route | accountant | send => exact .refl _
  | regenerate => exact retains_modifyRoot (publicKey_root _)
  | cull => exact retains_cullDeadNodes _ _

theorem Upkeeps.retains (h : Upkeeps C m n n') : Retains n.database n'.database := by
  induction h with
  | refl => exact .refl _
  | tail _ hl ih => exact ih.trans hl.retains

theorem Priced.retains (h : Priced db db') : Retains db db' := by
  cases h with
  | refl => exact .refl _
  | map hk hf => exact retains_mapNodes hk fun r => ⟨(hf r).1, (hf r).2.1, (hf r).2.2.1⟩

theorem step_retains (ho : ∀ gossip gossipSource, e ≠ .gossip gossip gossipSource)
    (h : n.step C m e = .ok n') : Retains n.database n'.database := by
  cases step_effect h with
  | gossip => exact absurd rfl (ho _ _)
  | removed hr hu => exact (retains_removeNeighbor hr).trans hu.retains
  | @moved newIp database hm =>
    have hret : Retains n.database database := by
      unfold newPublicIp at hm
      split at hm
      · cases hm
      · next oldNodeAddr _ =>
        cases hm
        have hr : Retains n.database (n.database.modifyRoot fun root =>
            { root with metadata.nodeAddrOpt := some (.new newIp oldNodeAddr.clone.ports) }) :=
          retains_modifyRoot (publicKey_root _)
        exact ⟨hr.thisNode, hr.nodes⟩
    have hc : Retains database (database.modifyRoot fun root =>
        { root with inner.countryCodeOpt := C.findCountry newIp }) := retains_modifyRoot (publicKey_root database)
    exact hret.trans hc
  | kept hu => exact hu.retains
  | adjusted ha => exact ha.database.retains

/-! ## Authenticity -/

def received (events : List NeighborhoodEvent) : List GossipNodeRecord := events.flatMap fun
    | .gossip gossip _ => gossip
    | _ => []

/-- What is stored of a node is a record that has been received: its signature is valid under the node's own key, and
what is signed is what is stored. -/
structure Authentic (C : GossipPrimitives) (events : List NeighborhoodEvent) (r : NodeRecord) : Prop where
  received : ∃ gnr ∈ received events, r.signedGossip = gnr.signedData ∧ r.signature = gnr.signature
  decodes : C.fromCbor r.signedGossip = some r.inner
  signed : verifySignature C r.signedGossip r.signature r.publicKey = .ok true

variable {e : List NeighborhoodEvent} {now : Nat}

theorem Authentic.of_sameContent (h : Authentic C e r) (hs : SameContent r r') : Authentic C e r' := by
  obtain ⟨hr, hd, hsi⟩ := h
  refine ⟨?_, ?_, ?_⟩
  · rw [hs.signedGossip, hs.signature]
    exact hr
  · rw [hs.signedGossip, hs.inner]
    exact hd
  · rw [NodeRecord.publicKey, hs.signedGossip, hs.signature, hs.inner]
    exact hsi

theorem Authentic.mono (h : Authentic C e r)
    (hs : Neighborhood.received e ⊆ Neighborhood.received e') : Authentic C e' r := by
  obtain ⟨gnr, hg, hc⟩ := h.received
  exact ⟨⟨gnr, hs hg, hc⟩, h.decodes, h.signed⟩

def AllAuthentic (C : GossipPrimitives) (events : List NeighborhoodEvent) (db : NeighborhoodDatabase) : Prop :=
  ∀ key r, key ≠ db.thisNode → db.nodeByKey key = some r → Authentic C events r

theorem AllAuthentic.of_retains (h : AllAuthentic C e db) (hre : Retains db db') : AllAuthentic C e db' := by
  intro key r' hk hr'
  rw [hre.thisNode] at hk
  obtain ⟨r, hr, hs⟩ := hre.nodes key r' hk hr'
  exact (h key r hk hr).of_sameContent hs

/-- A record of a message with valid signatures, however it is stored. -/
theorem authentic_of_signed {agr : AccessibleGossipRecord}
    (hgo : g ⊆ Neighborhood.received e) (hag : agr ∈ g.filterMap (accessible C))
    (hsi : verifySignature C agr.signedGossip agr.signature agr.inner.publicKey = .ok true)
    (hin : r.inner = agr.inner) (hs : SameSigned r.signedGossip r.signature agr) : Authentic C e r := by
  obtain ⟨gnr, hg, ha⟩ := List.mem_filterMap.1 hag
  obtain ⟨inner, hin', rfl⟩ := Option.map_eq_some_iff.1 ha
  refine ⟨⟨gnr, hgo hg, hs⟩, ?_, ?_⟩
  · rw [hs.1, hin]
    exact hin'
  · rw [NodeRecord.publicKey, hs.1, hs.2, hin]
    exact hsi

theorem AllAuthentic.change (h : AllAuthentic C e db) (hg : g ⊆ Neighborhood.received e)
    (hsi : ∀ agr ∈ g.filterMap (accessible C),
      verifySignature C agr.signedGossip agr.signature agr.inner.publicKey = .ok true)
    (hc : Change C now (g.filterMap (accessible C)) gossipSource pre db db') :
    AllAuthentic C e db' := by
  cases hc with
  | @insert agr r ha hin _ _ hs =>
    intro key r' hk hr'
    rw [thisNode_addArbitraryNode] at hk
    rw [nodeByKey_addArbitraryNode] at hr'
    split_ifs at hr'
    · obtain rfl := Option.some.inj hr'
      exact authentic_of_signed hg ha (hsi agr ha) hin hs
    · exact h key r' hk hr'
  | @update agr agr' old r updated ha hin _ _ _ _ _ hu hs =>
    intro key r' hk hr'
    rw [nodeByKey_setNode] at hr'
    split_ifs at hr'
    · obtain rfl := Option.some.inj hr'
      obtain ⟨-, -, _, -, rfl⟩ := update_eq_ok_iff.1 hu
      exact authentic_of_signed hg ha (hsi agr ha) hin hs
    · exact h key r' hk hr'
  | neighbor | republish => exact h.of_retains (retains_modifyRoot (publicKey_root _))

theorem AllAuthentic.changes (h : AllAuthentic C e db) (hg : g ⊆ Neighborhood.received e)
    (hs : ∀ agr ∈ g.filterMap (accessible C),
      verifySignature C agr.signedGossip agr.signature agr.inner.publicKey = .ok true)
    (hc : Changes C now (g.filterMap (accessible C)) gossipSource pre db db') :
    AllAuthentic C e db' := by
  induction hc with
  | refl => exact h
  | tail _ hl ih => exact ih.change hg hs hl

theorem received_concat (e : NeighborhoodEvent) :
    received (ev ++ [e]) = received ev ++ received [e] := List.flatMap_append

theorem AllAuthentic.concat (h : AllAuthentic C e db) (ev : NeighborhoodEvent) : AllAuthentic C (e ++ [ev]) db := by
  intro key r hk hr
  refine (h key r hk hr).mono ?_
  rw [received_concat]
  exact List.subset_append_left _ _

theorem subset_received (g : Gossip) (gossipSource : SocketAddr) :
    g ⊆ received (e ++ [.gossip g gossipSource]) := by
  rw [received_concat]
  exact List.subset_append_of_subset_right _ (by simp [received])

/-- What the acceptor leaves of a message with valid signatures. -/
theorem AllAuthentic.handle {ac : GossipAcceptorReal} {metadata : NeighborhoodMetadata}
    {re : Handled × GossipAcceptorReal} (h : AllAuthentic C e db)
    (hs : anySignatureInvalid C (g.filterMap (accessible C)) = .ok false)
    (hh : ac.handle C now db (g.filterMap (accessible C)) gossipSource metadata = .ok re) :
    AllAuthentic C (e ++ [.gossip g gossipSource]) re.1.database := by
  obtain heq | ⟨-, hc⟩ := handle_changes hh
  · rw [heq]
    exact h.concat _
  · exact (h.concat _).changes (subset_received g gossipSource) (signatures_of_anySignatureInvalid hs) hc

/-- One message more. -/
theorem AllAuthentic.step {ev : List NeighborhoodEvent} {e : NeighborhoodEvent}
    (h : AllAuthentic C ev n.database) (hs : n.step C m e = .ok n') :
    AllAuthentic C (ev ++ [e]) n'.database := by
  by_cases hg : ∃ gossip gossipSource, e = .gossip gossip gossipSource
  · obtain ⟨gossip, gossipSource, rfl⟩ := hg
    obtain ⟨rfl, -⟩ | ⟨rfl, -⟩ | ⟨hsi, ha, acceptor, after, hh, hr, hc⟩ := handleGossip_handled hs
    · exact h.concat _
    · exact h.concat _
    · have hu : Upkeeps C m { n with database := ha.database, acceptor } n' :=
        (handleResults_upkeep hr).trans (checkConnectedness_checked hc).upkeeps
      exact (h.handle hsi hh).of_retains hu.retains
  · exact (h.concat e).of_retains (step_retains (fun gossip gossipSource heq => hg ⟨gossip, gossipSource, heq⟩) hs)

theorem History.allAuthentic {ok : Neighborhood → NeighborhoodEvent → Prop} (hf : n.IsFresh C)
    (h : History C ok n e n') : AllAuthentic C e n'.database := by
  induction h with
  | nil =>
    obtain ⟨now, mode, earningWallet, publicKey, contractOpt, hdb⟩ := hf.database
    intro key r hk hr
    rw [hdb, nodeByKey_ofRoot] at hr
    rw [hdb] at hk
    split_ifs at hr with hro
    exact absurd hro.symm hk
  | snoc _ _ hs ih => exact ih.step hs

end Neighborhood

/-! ## The Node's own record -/

inductive RootGrows (inner : NodeRecordInner) : NodeRecordInner → Prop
  | neighbor (key : PublicKey) :
      RootGrows inner { inner with neighbors := inner.neighbors.orderedInsert (· ≤ ·) key }
  | version : RootGrows inner { inner with version := wrappingAdd 32 inner.version 1 }

section

theorem Change.rootGrows (h : Change C now agrs src pre db db') :
    Relation.ReflTransGen RootGrows db.root.inner db'.root.inner := by
  cases h with
  | insert _ _ _ hn =>
    rw [root_addArbitraryNode fun heq => hn (heq ▸ thisNode_mem_keys db)]
  | update _ _ _ hs _ _ hr hu =>
    have hk := (publicKey_update hu).trans (publicKey_of_nodeByKey hr)
    rw [root_setNode, if_neg (hk ▸ hs)]
  | neighbor =>
    rw [root_modifyRoot (publicKey_root db)]
    exact .single (.neighbor _)
  | republish =>
    rw [republishRoot, root_modifyRoot (publicKey_root db)]
    exact .single .version

theorem Changes.rootGrows (h : Changes C now agrs src pre db db') :
    Relation.ReflTransGen RootGrows db.root.inner db'.root.inner := by
  induction h with
  | refl => exact .refl
  | tail _ hl ih => exact ih.trans hl.rootGrows

end

namespace Neighborhood

theorem Upkeeps.root_inner (h : Upkeeps C m n n') : n'.database.root.inner = n.database.root.inner := by
  refine h.invariant (fun n' => n'.database.root.inner = n.database.root.inner) (fun _ _ hu hn => ?_) rfl
  cases hu with
  | countries | route | accountant | send => exact hn
  | regenerate =>
    rw [root_modifyRoot (publicKey_root _)]
    exact hn
  | cull =>
    rw [root_cullDeadNodes]
    exact hn

theorem gossip_rootGrows (h : n.step C m (.gossip g gossipSource) = .ok n') :
    Relation.ReflTransGen RootGrows n.database.root.inner n'.database.root.inner := by
  obtain rfl | he := handleGossip_effect h
  · exact .refl
  · obtain ⟨database, acceptor, rfl | ⟨-, hc⟩, hu⟩ := he.changed
    · rw [hu.root_inner]
    · rw [hu.root_inner]
      exact hc.rootGrows

end Neighborhood

/-! ## The newest version -/

/-- Records for one key come in the order of their versions, and at most one of them has an address. -/
def InVersionOrder (agrs : List AccessibleGossipRecord) : Prop :=
  agrs.Pairwise fun agr agr' => agr.inner.publicKey = agr'.inner.publicKey →
    agr.inner.version ≤ agr'.inner.version ∧ (agr.nodeAddrOpt = none ∨ agr'.nodeAddrOpt = none)

instance (agrs : List AccessibleGossipRecord) : Decidable (InVersionOrder agrs) := by
  unfold InVersionOrder
  infer_instance

/-- A record that does not contradict what is stored. -/
def NoContradiction (old : NodeRecord) (agr : AccessibleGossipRecord) : Prop :=
  agr.inner.ratePack = old.inner.ratePack ∧
    ∀ known ∈ old.metadata.nodeAddrOpt, ∀ nodeAddr ∈ agr.nodeAddrOpt, nodeAddr = known

instance (old : NodeRecord) (agr : AccessibleGossipRecord) : Decidable (NoContradiction old agr) := by
  unfold NoContradiction
  infer_instance

/-- A record of a message that lies in the patch and passes validation. -/
def Worthy (limits : RatePackLimits) (db : NeighborhoodDatabase) (agrs : List AccessibleGossipRecord)
    (gossipSource : SocketAddr) (dbPatchSize : Nat) (agr : AccessibleGossipRecord) : Prop :=
  ∃ gossipSourceAgr ∈ agrs.find? (isFromSource db gossipSource),
    agr ∈ (extractMalefactors limits db gossipSourceAgr gossipSource
      (agrs.filter fun agr => agr.inner.publicKey ∈ computePatch agrs db.root dbPatchSize)).1

instance (limits : RatePackLimits) (db : NeighborhoodDatabase) (agrs : List AccessibleGossipRecord)
    (gossipSource : SocketAddr) (dbPatchSize : Nat) (agr : AccessibleGossipRecord) :
    Decidable (Worthy limits db agrs gossipSource dbPatchSize agr) := by
  unfold Worthy
  infer_instance

/-- The versions of a record that standard gossip has to choose from: the one stored before, and those of the message
that keep to it. -/
def Candidates (limits : RatePackLimits) (db : NeighborhoodDatabase) (agrs : List AccessibleGossipRecord)
    (gossipSource : SocketAddr) (dbPatchSize : Nat) (key : PublicKey) : Set Nat :=
  {version | (∃ old ∈ db.nodeByKey key, version = old.version) ∨
    ∃ agr, Worthy limits db agrs gossipSource dbPatchSize agr ∧ agr.inner.publicKey = key ∧
      (∀ old ∈ db.nodeByKey key, NoContradiction old agr) ∧ version = agr.inner.version}

/-- The newest version of every record of another node is stored. -/
def NewestStored (limits : RatePackLimits) (db : NeighborhoodDatabase) (agrs : List AccessibleGossipRecord)
    (gossipSource : SocketAddr) (dbPatchSize : Nat) (db' : NeighborhoodDatabase) : Prop :=
  ∀ key, key ≠ db.thisNode →
    (∀ r ∈ db'.nodeByKey key, IsGreatest (Candidates limits db agrs gossipSource dbPatchSize key) r.version) ∧
    (db'.nodeByKey key = none → Candidates limits db agrs gossipSource dbPatchSize key = ∅)

section

variable {lim : RatePackLimits} {md : NeighborhoodMetadata} {key : PublicKey} {prefs : Option UserExitPreferences}
  {agr : AccessibleGossipRecord} {newAgrs obsolete worthy : List AccessibleGossipRecord} {old : NodeRecord}

theorem nodeByKey_addNewNodes (h : addNewNodes now prefs newAgrs db = .ok db') :
    (∀ agr ∈ newAgrs, agr.inner.publicKey ∉ db.keys) ∧ (newAgrs.map (·.inner.publicKey)).Nodup ∧
      ∀ key, db'.nodeByKey key = (db.nodeByKey key).or
        ((newAgrs.find? (·.inner.publicKey = key)).map (pricedRecord now prefs)) := by
  induction newAgrs generalizing db with
  | nil =>
    cases h
    simp
  | cons agr newAgrs ih =>
    simp only [addNewNodes, List.foldlM_cons, bind_eq_ok] at h
    obtain ⟨ad, ha, h⟩ := h
    split at ha
    · cases ha
    · next _ hno =>
      cases ha
      obtain ⟨-, hn, heq⟩ := addNode_eq_ok_iff.1 hno
      obtain ⟨-, rfl⟩ := Prod.mk.inj heq
      have hk : (pricedRecord now prefs agr).publicKey = agr.inner.publicKey := by simp [NodeRecord.publicKey]
      rw [hk] at hn
      obtain ⟨hfr, hd, hre⟩ := ih h
      refine ⟨List.forall_mem_cons.2 ⟨hn, fun agr' ha' hm => ?_⟩, List.nodup_cons.2 ⟨fun hm => ?_, hd⟩, fun key => ?_⟩
      · exact hfr agr' ha' (mem_keys_addArbitraryNode.2 (.inr hm))
      · -- the second of two records for one key would find the first in the database
        obtain ⟨agr', ha', hs⟩ := List.mem_map.1 hm
        exact hfr agr' ha' (mem_keys_addArbitraryNode.2 (.inl (hk.trans hs.symm)))
      · rw [hre, nodeByKey_addArbitraryNode, hk]
        by_cases heq : agr.inner.publicKey = key
        · subst heq
          have hnon : db.nodeByKey agr.inner.publicKey = none :=
            Option.eq_none_iff_forall_ne_some.2 fun r hr => hn (mem_keys_iff.2 ⟨r, hr⟩)
          simp [hnon]
        · simp [heq]

theorem updateObsoleteNodes_singleton (h : updateObsoleteNodes now [agr] db = .ok db') :
    ∃ e, db.nodeByKey agr.inner.publicKey = some e ∧ ((∃ u, e.update now agr = .ok u ∧ db' = db.setNode u) ∨
        (∀ u, e.update now agr ≠ .ok u) ∧ db' = db) := by
  simp only [updateObsoleteNodes, List.foldlM_cons, List.foldlM_nil, bind_eq_ok, pure_eq_ok] at h
  obtain ⟨_, h, rfl⟩ := h
  split at h
  · cases h
  · next e he =>
    refine ⟨e, he, ?_⟩
    split at h
    · next u hu =>
      cases h
      exact .inl ⟨u, hu, rfl⟩
    · next error hf =>
      cases h
      refine .inr ⟨fun u hu => ?_, rfl⟩
      cases hf.symm.trans hu

theorem nodeByKey_updateObsoleteNodes_singleton (hk : agr.inner.publicKey ≠ key)
    (h : updateObsoleteNodes now [agr] db = .ok db') : db'.nodeByKey key = db.nodeByKey key := by
  obtain ⟨e, he, ⟨updated, hu, rfl⟩ | ⟨-, rfl⟩⟩ := updateObsoleteNodes_singleton h
  · have ho : updated.publicKey ≠ key := by
      rw [publicKey_update hu, publicKey_of_nodeByKey he]
      exact hk
    rw [nodeByKey_setNode, if_neg ho]
  · rfl

theorem update_succeeds_iff :
    (∃ u, r.update now agr = .ok u) ↔ agr.inner.publicKey = r.publicKey ∧ NoContradiction r agr := by
  have ha : (∃ nodeAddrOpt, updatedAddr r.metadata.nodeAddrOpt agr.nodeAddrOpt = .ok nodeAddrOpt) ↔
      ∀ known ∈ r.metadata.nodeAddrOpt, ∀ nodeAddr ∈ agr.nodeAddrOpt, nodeAddr = known := by
    cases r.metadata.nodeAddrOpt with
    | none => cases agr.nodeAddrOpt <;> simp [updatedAddr]
    | some known =>
      cases agr.nodeAddrOpt with
      | none => simp [updatedAddr]
      | some nodeAddr => by_cases heq : known = nodeAddr <;> simp [updatedAddr, heq, eq_comm]
  rw [NoContradiction, ← ha]
  constructor
  · rintro ⟨u, h⟩
    obtain ⟨hk, hr, nodeAddrOpt, ha, -⟩ := update_eq_ok_iff.1 h
    exact ⟨hk, hr, nodeAddrOpt, ha⟩
  · rintro ⟨hk, hr, nodeAddrOpt, ha⟩
    exact ⟨_, update_eq_ok_iff.2 ⟨hk, hr, nodeAddrOpt, ha, rfl⟩⟩

theorem nodeAddrOpt_update (hn : agr.nodeAddrOpt = none)
    (h : r.update now agr = .ok u) : u.metadata.nodeAddrOpt = r.metadata.nodeAddrOpt := by
  obtain ⟨-, -, nodeAddrOpt, ha, rfl⟩ := update_eq_ok_iff.1 h
  rw [hn] at ha
  cases hk : r.metadata.nodeAddrOpt <;> rw [hk] at ha <;> exact (Except.ok.inj ha).symm

theorem updateObsoleteNodes_snoc (h : updateObsoleteNodes now (obsolete ++ [agr]) db = .ok db') :
    ∃ before, updateObsoleteNodes now obsolete db = .ok before ∧ updateObsoleteNodes now [agr] before = .ok db' := by
  simp only [updateObsoleteNodes, List.foldlM_append, bind_eq_ok] at h
  exact h

/-- What is stored under a key after some updates in the order of their versions, compared with what was before. -/
structure StoresNewest (key : PublicKey) (old : NodeRecord) (obsolete : List AccessibleGossipRecord) (r : NodeRecord) :
    Prop where
  ratePack : r.inner.ratePack = old.inner.ratePack
  address : r.metadata.nodeAddrOpt = old.metadata.nodeAddrOpt ∨
    ∃ agr ∈ obsolete, agr.inner.publicKey = key ∧ agr.nodeAddrOpt ≠ none
  version : IsGreatest {version | version = old.version ∨
    ∃ agr ∈ obsolete, agr.inner.publicKey = key ∧ NoContradiction old agr ∧ version = agr.inner.version} r.version

theorem StoresNewest.skip
    (h : StoresNewest key old obsolete r) (hsk : agr.inner.publicKey = key → ¬ NoContradiction old agr) :
    StoresNewest key old (obsolete ++ [agr]) r := by
  refine ⟨h.ratePack, ?_, ?_⟩
  · obtain ha | ⟨agr', ha', hk⟩ := h.address
    · exact .inl ha
    · exact .inr ⟨agr', List.mem_append_left _ ha', hk⟩
  · have hs : {version | version = old.version ∨ ∃ agr' ∈ obsolete ++ [agr],
        agr'.inner.publicKey = key ∧ NoContradiction old agr' ∧ version = agr'.inner.version} =
        {version | version = old.version ∨ ∃ agr' ∈ obsolete,
          agr'.inner.publicKey = key ∧ NoContradiction old agr' ∧ version = agr'.inner.version} := by
      ext version
      refine or_congr_right ⟨?_, ?_⟩
      · rintro ⟨agr', ha', hk, hke, hv⟩
        obtain ha' | ha' := List.mem_append.1 ha'
        · exact ⟨agr', ha', hk, hke, hv⟩
        · obtain rfl := List.mem_singleton.1 ha'
          exact absurd hke (hsk hk)
      · rintro ⟨agr', ha', hr⟩
        exact ⟨agr', List.mem_append_left _ ha', hr⟩
    rw [hs]
    exact h.version

/-- A record that follows without an address, or after records without one, keeps to what is stored now if it keeps to
what was stored before. -/
theorem StoresNewest.noContradiction_iff (h : StoresNewest key old obsolete r)
    (ha : ∀ agr' ∈ obsolete, agr'.inner.publicKey = key → agr'.nodeAddrOpt = none ∨ agr.nodeAddrOpt = none) :
    NoContradiction r agr ↔ NoContradiction old agr := by
  unfold NoContradiction
  rw [h.ratePack]
  cases hn : agr.nodeAddrOpt with
  | none => simp
  | some nodeAddr =>
    have hs : r.metadata.nodeAddrOpt = old.metadata.nodeAddrOpt := by
      obtain hs | ⟨agr', ha', hk, hso⟩ := h.address
      · exact hs
      · obtain hn' | hn' := ha agr' ha' hk
        · exact absurd hn' hso
        · cases hn.symm.trans hn'
    rw [hs]

theorem StoresNewest.apply {updated : NodeRecord} (h : StoresNewest agr.inner.publicKey old obsolete r)
    (hne : old.version < agr.inner.version)
    (hl : ∀ agr' ∈ obsolete, agr'.inner.publicKey = agr.inner.publicKey → agr'.inner.version ≤ agr.inner.version)
    (hke : NoContradiction old agr) (hu : r.update now agr = .ok updated) :
    StoresNewest agr.inner.publicKey old (obsolete ++ [agr]) updated := by
  have hin : updated.inner = agr.inner := by
    obtain ⟨-, -, _, -, rfl⟩ := update_eq_ok_iff.1 hu
    rfl
  have hv : updated.version = agr.inner.version := congrArg NodeRecordInner.version hin
  refine ⟨?_, ?_, ?_, ?_⟩
  · rw [hin]
    exact hke.1
  · by_cases hn : agr.nodeAddrOpt = none
    · rw [nodeAddrOpt_update hn hu]
      obtain ha | ⟨agr', ha', hk⟩ := h.address
      · exact .inl ha
      · exact .inr ⟨agr', List.mem_append_left _ ha', hk⟩
    · exact .inr ⟨agr, by simp, rfl, hn⟩
  · exact .inr ⟨agr, by simp, rfl, hke, hv⟩
  · rw [hv]
    rintro version (rfl | ⟨agr', ha', hk, -, rfl⟩)
    · exact hne.le
    · obtain ha' | ha' := List.mem_append.1 ha'
      · exact hl agr' ha' hk
      · rw [List.mem_singleton.1 ha']

theorem StoresNewest.refl : StoresNewest key old [] old := by
  refine ⟨rfl, .inl rfl, .inl rfl, ?_⟩
  rintro version (rfl | ⟨_, hni, -⟩)
  · exact le_rfl
  · cases hni

/-- **Updates in the order of their versions leave the newest that keeps to what was stored.** -/
theorem storesNewest_updateObsoleteNodes (hor : InVersionOrder obsolete) (ho : db.nodeByKey key = some old)
    (hn : ∀ agr ∈ obsolete, agr.inner.publicKey = key → old.version < agr.inner.version)
    (h : updateObsoleteNodes now obsolete db = .ok db') :
    ∃ r, db'.nodeByKey key = some r ∧ StoresNewest key old obsolete r := by
  induction obsolete using List.reverseRecOn generalizing db' with
  | nil =>
    cases h
    exact ⟨old, ho, .refl⟩
  | append_singleton obsolete agr ih =>
    obtain ⟨before, hb, hl⟩ := updateObsoleteNodes_snoc h
    obtain ⟨hfs, -, hc⟩ := List.pairwise_append.1 hor
    obtain ⟨r, hr, hs⟩ := ih hfs (fun agr' ha' => hn agr' (List.mem_append_left _ ha')) hb
    obtain ⟨e, he, hup⟩ := updateObsoleteNodes_singleton hl
    by_cases hk : agr.inner.publicKey = key
    · subst hk
      obtain rfl := Option.some.inj (he.symm.trans hr)
      have hc' : ∀ agr' ∈ obsolete, agr'.inner.publicKey = agr.inner.publicKey →
          agr'.inner.version ≤ agr.inner.version ∧ (agr'.nodeAddrOpt = none ∨ agr.nodeAddrOpt = none) :=
        fun agr' ha' hk => hc agr' ha' agr (List.mem_singleton_self agr) hk
      have hke := hs.noContradiction_iff fun agr' ha' hk => (hc' agr' ha' hk).2
      obtain ⟨u, hu, rfl⟩ | ⟨hf, rfl⟩ := hup
      · have hk : u.publicKey = agr.inner.publicKey := by
          rw [publicKey_update hu, publicKey_of_nodeByKey he]
        refine ⟨u, by rw [nodeByKey_setNode, if_pos hk], ?_⟩
        exact hs.apply (hn agr (by simp) rfl) (fun agr' ha' hk => (hc' agr' ha' hk).1)
          (hke.1 (update_succeeds_iff.1 ⟨u, hu⟩).2) hu
      · refine ⟨e, hr, hs.skip fun _ ho => ?_⟩
        obtain ⟨u, hu⟩ := update_succeeds_iff.2 ⟨(publicKey_of_nodeByKey hr).symm, hke.2 ho⟩
        exact hf u hu
    · -- another node is updated
      refine ⟨r, ?_, hs.skip fun heq => absurd heq hk⟩
      rw [nodeByKey_updateObsoleteNodes_singleton hk hl]
      exact hr

theorem nodeByKey_addSrcNodeAsHalfNeighbor (hk : key ≠ db.thisNode) :
    (addSrcNodeAsHalfNeighbor C now src db).2.nodeByKey key = db.nodeByKey key := by
  unfold addSrcNodeAsHalfNeighbor
  split
  · rfl
  · split_ifs
    · rfl
    · split
      · next added had =>
        obtain ⟨-, ⟨-, heq⟩ | ⟨-, -, heq⟩⟩ := addHalfNeighbor_eq_ok_iff.1 had
        · cases heq
        · have ha : added = _ := (Prod.mk.inj heq).2
          have ht : added.thisNode = db.thisNode := by rw [ha]; rfl
          have hs : added.nodeByKey key = db.nodeByKey key := by
            rw [ha]
            exact nodeByKey_modifyRoot (publicKey_root db) hk
          exact (nodeByKey_modifyRoot (publicKey_root added) (ht ▸ hk)).trans hs
      · rfl

theorem updateObsoleteNodes_of_ne (h : updateObsoleteNodes now obsolete db = .ok db') :
    db'.thisNode = db.thisNode ∧
    ∀ key, (∀ agr ∈ obsolete, agr.inner.publicKey ≠ key) → db'.nodeByKey key = db.nodeByKey key := by
  induction obsolete using List.reverseRecOn generalizing db' with
  | nil =>
    cases h
    exact ⟨rfl, fun _ _ => rfl⟩
  | append_singleton obsolete agr ih =>
    obtain ⟨before, hb, hl⟩ := updateObsoleteNodes_snoc h
    obtain ⟨ht, hn⟩ := ih hb
    constructor
    · obtain ⟨e, -, ⟨updated, -, rfl⟩ | ⟨-, rfl⟩⟩ := updateObsoleteNodes_singleton hl <;> exact ht
    · intro key ho
      rw [nodeByKey_updateObsoleteNodes_singleton (ho agr (by simp)) hl]
      exact hn key fun agr' ha' => ho agr' (List.mem_append_left _ ha')

/-- A node that was known. -/
theorem newest_of_known (hw : ∀ agr, Worthy lim db agrs src md.dbPatchSize agr ↔ agr ∈ worthy)
    (ho : db.nodeByKey key = some old)
    (h : StoresNewest key old (identifyNonIntroductoryNewAndObsoleteNodes db worthy).2 r) :
    IsGreatest (Candidates lim db agrs src md.dbPatchSize key) r.version := by
  have hob : ∀ agr, agr.inner.publicKey = key → (agr ∈ (identifyNonIntroductoryNewAndObsoleteNodes db worthy).2 ↔
        agr ∈ worthy ∧ old.version < agr.inner.version) := by
    rintro agr rfl
    simp [identifyNonIntroductoryNewAndObsoleteNodes, ho]
  have hkee : ∀ agr, (∀ old' ∈ db.nodeByKey key, NoContradiction old' agr) ↔ NoContradiction old agr := by
    intro agr
    simp [ho]
  refine ⟨?_, ?_⟩
  · obtain hv | ⟨agr, ha, hk, hke, hv⟩ := h.version.1
    · exact .inl ⟨old, ho, hv⟩
    · exact .inr ⟨agr, (hw agr).2 ((hob agr hk).1 ha).1, hk, (hkee agr).2 hke, hv⟩
  · have ho' : old.version ≤ r.version := h.version.2 (.inl rfl)
    rintro version (⟨old', hm, rfl⟩ | ⟨agr, ha, hk, hke, rfl⟩)
    · obtain rfl : old' = old := Option.some.inj (hm.symm.trans ho)
      exact ho'
    · by_cases hn : old.version < agr.inner.version
      · exact h.version.2 (.inr ⟨agr, (hob agr hk).2 ⟨(hw agr).1 ha, hn⟩, hk, (hkee agr).1 hke, rfl⟩)
      · exact (not_lt.1 hn).trans ho'

/-- A node that was not known: there is one record for it at most. -/
theorem newest_of_new (hw : ∀ agr, Worthy lim db agrs src md.dbPatchSize agr ↔ agr ∈ worthy)
    (hn : db.nodeByKey key = none)
    (hnd : ((identifyNonIntroductoryNewAndObsoleteNodes db worthy).1.map (·.inner.publicKey)).Nodup) :
    (∀ r ∈ ((identifyNonIntroductoryNewAndObsoleteNodes db worthy).1.find? (·.inner.publicKey = key)).map
        (pricedRecord now prefs),
      IsGreatest (Candidates lim db agrs src md.dbPatchSize key) r.version) ∧
    (((identifyNonIntroductoryNewAndObsoleteNodes db worthy).1.find? (·.inner.publicKey = key)).map
        (pricedRecord now prefs) = none →
      Candidates lim db agrs src md.dbPatchSize key = ∅) := by
  have hm : ∀ agr, agr.inner.publicKey = key →
      (agr ∈ (identifyNonIntroductoryNewAndObsoleteNodes db worthy).1 ↔ agr ∈ worthy) := by
    rintro agr rfl
    simp [identifyNonIntroductoryNewAndObsoleteNodes, hn]
  generalize (identifyNonIntroductoryNewAndObsoleteNodes db worthy).1 = newAgrs at hm hnd
  constructor
  · intro r hr
    obtain ⟨agr, hf, rfl⟩ := Option.map_eq_some_iff.1 hr
    have hk : agr.inner.publicKey = key := by simpa using List.find?_some hf
    have ha := List.mem_of_find?_eq_some hf
    have hv : (pricedRecord now prefs agr).version = agr.inner.version := by simp [NodeRecord.version]
    rw [hv]
    refine ⟨.inr ⟨agr, (hw agr).2 ((hm agr hk).1 ha), hk, by simp [hn], rfl⟩, ?_⟩
    rintro version (⟨old, ho, -⟩ | ⟨agr', ha', hk', -, rfl⟩)
    · cases hn.symm.trans ho
    · have hs : agr' = agr := List.inj_on_of_nodup_map hnd ((hm agr' hk').2 ((hw agr').1 ha')) ha (hk'.trans hk.symm)
      rw [hs]
  · intro hno
    rw [Option.map_eq_none_iff] at hno
    refine Set.eq_empty_iff_forall_notMem.2 ?_
    rintro version (⟨old, ho, -⟩ | ⟨agr, ha, hk, -⟩)
    · cases hn.symm.trans ho
    · have hnot := List.find?_eq_none.1 hno agr ((hm agr hk).2 ((hw agr).1 ha))
      simp [hk] at hnot

/-- **Standard gossip stores the newest version of each record**, if they come in the order of their versions. -/
theorem standard_newest {han : Handled} (ho : InVersionOrder agrs)
    (h : StandardGossipHandler.handle C lim now db agrs src md = .ok han) :
    NewestStored lim db agrs src md.dbPatchSize han.database := by
  intro key hke
  unfold StandardGossipHandler.handle at h
  simp only at h
  split at h
  · next hn =>
    -- the sender has left itself out: nothing of the message is stored
    cases h
    have hw : ∀ agr, Worthy lim db agrs src md.dbPatchSize agr ↔ agr ∈ ([] : List AccessibleGossipRecord) := by
      simp [Worthy, hn]
    exact ⟨fun r hr => newest_of_known hw hr .refl, fun hnew => by simp [Candidates, hw, hnew]⟩
  · next gossipSourceAgr hsr =>
    simp only [bind_eq_ok] at h
    obtain ⟨added, ha, updated, hu, h⟩ := h
    have hw : ∀ agr, Worthy lim db agrs src md.dbPatchSize agr ↔ agr ∈ (extractMalefactors lim db gossipSourceAgr src
          (agrs.filter fun agr => agr.inner.publicKey ∈ computePatch agrs db.root md.dbPatchSize)).1 := by
      simp [Worthy, hsr]
    have hd : han.database.nodeByKey key = updated.nodeByKey key := by
      have had : Changes C now _ src db db added := (addNewNodes_changes (fun _ hag => hag) ha).1
      have ht : updated.thisNode = db.thisNode := by
        rw [(updateObsoleteNodes_of_ne hu).1, had.thisNode]
      have hl : (addSrcNodeAsHalfNeighbor C now src updated).2.nodeByKey key = updated.nodeByKey key :=
        nodeByKey_addSrcNodeAsHalfNeighbor (ht ▸ hke)
      split_ifs at h <;> cases h <;> exact hl
    rw [hd]
    have hs : (extractMalefactors lim db gossipSourceAgr src
        (agrs.filter fun agr => agr.inner.publicKey ∈ computePatch agrs db.root md.dbPatchSize)).1.Sublist agrs :=
      (List.filter_sublist.trans List.filter_sublist).trans List.filter_sublist
    generalize (extractMalefactors lim db gossipSourceAgr src
      (agrs.filter fun agr => agr.inner.publicKey ∈ computePatch agrs db.root md.dbPatchSize)).1 = worthy
      at hw ha hu hs
    cases hk : db.nodeByKey key with
    | some old =>
      have hst : added.nodeByKey key = some old := by
        rw [(nodeByKey_addNewNodes ha).2.2, hk, Option.some_or]
      have hne : ∀ agr ∈ (identifyNonIntroductoryNewAndObsoleteNodes db worthy).2,
          agr.inner.publicKey = key → old.version < agr.inner.version := by
        rintro agr hag rfl
        simpa [hk] using List.of_mem_filter hag
      obtain ⟨r, hr, hnewe⟩ := storesNewest_updateObsoleteNodes (List.Pairwise.sublist (List.filter_sublist.trans hs) ho) hst hne hu
      rw [hr]
      refine ⟨fun r' hr' => ?_, fun hn => by cases hn⟩
      obtain rfl := Option.some.inj hr'
      exact newest_of_known hw hk hnewe
    | none =>
      have hu' : updated.nodeByKey key = added.nodeByKey key := by
        refine (updateObsoleteNodes_of_ne hu).2 key fun agr hag hsa => ?_
        subst hsa
        simpa [hk] using List.of_mem_filter hag
      rw [hu', (nodeByKey_addNewNodes ha).2.2, hk, Option.none_or]
      exact newest_of_new hw hk (nodeByKey_addNewNodes ha).2.1

end

/-! ## Runs -/

namespace Neighborhood

/-- A message that is handled as standard gossip. -/
def IsStandardGossip (C : GossipPrimitives) (n : Neighborhood) (gossip : Gossip) (gossipSource : SocketAddr) : Prop :=
  (gossip.filterMap (accessible C)).length = gossip.length ∧
  anySignatureInvalid C (gossip.filterMap (accessible C)) = .ok false ∧
  firstQualified n.database (gossip.filterMap (accessible C)) gossipSource gossipHandlers = .ok (.matched, .standard)

/-- Standard gossip brings the records for each key in the order of their versions. -/
def InOrder (C : GossipPrimitives) (n : Neighborhood) : NeighborhoodEvent → Prop
  | .gossip gossip gossipSource =>
    IsStandardGossip C n gossip gossipSource → InVersionOrder (gossip.filterMap (accessible C))
  | _ => True

theorem handle_of_isStandardGossip (hs : IsStandardGossip C n g gossipSource)
    (h : n.step C m (.gossip g gossipSource) = .ok n') :
    ∃ ha acceptor, n.acceptor.handle C m.now n.database (g.filterMap (accessible C)) gossipSource
        (n.gossipMetadata m) = .ok (ha, acceptor) ∧
      StandardGossipHandler.handle C n.acceptor.ratePackLimits m.now n.database (g.filterMap (accessible C))
        gossipSource (n.gossipMetadata m) = .ok ha ∧
      Upkeeps C m { n with database := ha.database, acceptor } n' := by
  obtain ⟨hl, hsi, hfs⟩ := hs
  obtain ⟨-, hsh⟩ | ⟨-, hin⟩ | ⟨-, ha, acceptor, after, hh, hr, hc⟩ := handleGossip_handled h
  · exact absurd hl hsh.ne
  · cases hsi.symm.trans hin
  · refine ⟨ha, acceptor, hh, ?_, (handleResults_upkeep hr).trans (checkConnectedness_checked hc).upkeeps⟩
    rw [GossipAcceptorReal.handle, hfs] at hh
    obtain ⟨_, hf, hd⟩ := bind_eq_ok.1 hh
    cases hf
    obtain ⟨ha', hs, heq⟩ := bind_eq_ok.1 hd
    obtain ⟨rfl, -⟩ := Prod.mk.inj (Except.ok.inj heq)
    exact hs

/-- **Stored records are authentic and newest.** What is stored of another node is a record that has been received
with a valid signature of that node; gossip changes the Node's own record by new neighbors and versions only; and
after standard gossip with its records in order the newest version of every record is stored. -/
theorem stored_records_authentic_and_newest {events : List NeighborhoodEvent} (hfresh : n.IsFresh C)
    (h : History C (InOrder C) n events n') :
    (∀ key r, key ≠ n'.database.thisNode → n'.database.nodeByKey key = some r → Authentic C events r) ∧
    (∀ m gossip gossipSource n'', n'.step C m (.gossip gossip gossipSource) = .ok n'' →
      Relation.ReflTransGen RootGrows n'.database.root.inner n''.database.root.inner) ∧
    (∀ m gossip gossipSource n'', InOrder C n' (.gossip gossip gossipSource) →
      IsStandardGossip C n' gossip gossipSource → n'.step C m (.gossip gossip gossipSource) = .ok n'' →
      ∃ handled acceptor, n'.acceptor.handle C m.now n'.database (gossip.filterMap (accessible C)) gossipSource
          (n'.gossipMetadata m) = .ok (handled, acceptor) ∧
        NewestStored n'.acceptor.ratePackLimits n'.database (gossip.filterMap (accessible C)) gossipSource
          n'.dbPatchSize handled.database ∧
        ∀ key r, key ≠ n'.database.thisNode → n''.database.nodeByKey key = some r →
          IsGreatest (Candidates n'.acceptor.ratePackLimits n'.database (gossip.filterMap (accessible C)) gossipSource
            n'.dbPatchSize key) r.version) := by
  refine ⟨h.allAuthentic hfresh, fun m gossip gossipSource n'' hs => gossip_rootGrows hs, ?_⟩
  intro m gossip gossipSource n'' ho hst hs
  obtain ⟨handled, acceptor, hh, hstd, hu⟩ := handle_of_isStandardGossip hst hs
  have hn := standard_newest (ho hst) hstd
  refine ⟨handled, acceptor, hh, hn, fun key r hk hr => ?_⟩
  have ht : handled.database.thisNode = n'.database.thisNode := by
    obtain heq | ⟨-, hc⟩ := handle_changes hh
    · exact congrArg NeighborhoodDatabase.thisNode heq
    · exact hc.thisNode
  obtain ⟨r', hr', hsa⟩ := hu.retains.nodes key r (ht ▸ hk) hr
  have hv : r.version = r'.version := congrArg NodeRecordInner.version hsa.inner
  rw [hv]
  exact (hn key hk).1 r' hr'

open SmallNetwork

/-- A neighbor introduces itself and then tells of a node 2. -/
def aboutNodeTwo : List NeighborhoodEvent := [message [record 1 0 1 [0] (listensAt 1)] 1,
    message [record 1 1 1 [0, 2] (listensAt 1), record 2 1 2 [1] none] 1]

/-- Two records of node 2, the newer before the older. -/
def newerFirst : Gossip := [record 1 1 1 [0, 2] (listensAt 1), record 2 3 2 [1] none, record 2 2 2 [1] none]

def newerLast : Gossip := [record 1 1 1 [0, 2] (listensAt 1), record 2 2 2 [1] none, record 2 3 2 [1] none]

/-- The record of version 3, read. -/
def versionThree : AccessibleGossipRecord := ⟨[2, 3, 2, 1], List.replicate 64 0, none, inner 2 3 2 [1]⟩

/-- The message is standard gossip in which the record of version 3 is worthy and keeps to what is stored. -/
def offersThree (gossip : Gossip) (n : Neighborhood) : Prop := IsStandardGossip primitives n gossip ⟨ip 1, 5000⟩ ∧
  Worthy n.acceptor.ratePackLimits n.database (gossip.filterMap (accessible primitives)) ⟨ip 1, 5000⟩ n.dbPatchSize
    versionThree ∧
  ∀ old ∈ n.database.nodeByKey (key 2), NoContradiction old versionThree

instance (gossip : Gossip) (n : Neighborhood) : Decidable (offersThree gossip n) := by
  unfold offersThree IsStandardGossip
  infer_instance

def storedVersion (n : Neighborhood) : Option Nat := (n.database.nodeByKey (key 2)).map NodeRecord.version

theorem inOrder_aboutNodeTwo (n : Neighborhood) : ∀ event ∈ aboutNodeTwo, InOrder primitives n event := by
  intro event he
  obtain rfl | he := List.mem_cons.1 he
  · exact fun _ => by decide
  · obtain rfl := List.mem_singleton.1 he
    exact fun _ => by decide

/-- In order, the newer record is stored. -/
theorem newest_is_stored : ∃ n n' r, History primitives (InOrder primitives) node aboutNodeTwo n ∧
      n.step primitives moment (message newerLast 1) = .ok n' ∧ n'.database.nodeByKey (key 2) = some r ∧
      r.version = 3 ∧
      IsGreatest (Candidates n.acceptor.ratePackLimits n.database (newerLast.filterMap (accessible primitives))
        ⟨ip 1, 5000⟩ n.dbPatchSize (key 2)) r.version := by
  have ho : (node.run primitives moment aboutNodeTwo).map (fun n => (n.database.thisNode,
      decide (offersThree newerLast n), (n.step primitives moment (message newerLast 1)).map storedVersion)) =
        .ok (key 0, true, .ok (some 3)) := by
    decide +kernel
  obtain ⟨n, hn, ho⟩ := map_eq_ok_iff.1 ho
  obtain ⟨ht, ho⟩ := Prod.mk.injEq .. ▸ ho
  obtain ⟨hof, ha⟩ := Prod.mk.injEq .. ▸ ho
  obtain ⟨n', hs, hv⟩ := map_eq_ok_iff.1 ha
  obtain ⟨r, hr, hth⟩ := Option.map_eq_some_iff.1 hv
  have hst := (of_decide_eq_true hof).1
  have hh : History primitives (InOrder primitives) node aboutNodeTwo n := history_of_run inOrder_aboutNodeTwo hn
  obtain ⟨-, -, hne⟩ := stored_records_authentic_and_newest node_isFresh hh
  obtain ⟨_, _, -, -, hg⟩ := hne moment newerLast ⟨ip 1, 5000⟩ n' (fun _ => by decide) hst hs
  exact ⟨n, n', r, hh, hs, hr, hth, hg (key 2) r (by rw [ht]; decide) hr⟩

/-- The newer record is dropped for the older one that follows it. -/
theorem newest_not_stored : ∃ n n' r, History primitives (fun _ _ => True) node aboutNodeTwo n ∧
      IsStandardGossip primitives n newerFirst ⟨ip 1, 5000⟩ ∧
      n.step primitives moment (message newerFirst 1) = .ok n' ∧ n'.database.nodeByKey (key 2) = some r ∧
      ¬ IsGreatest (Candidates n.acceptor.ratePackLimits n.database (newerFirst.filterMap (accessible primitives))
        ⟨ip 1, 5000⟩ n.dbPatchSize (key 2)) r.version := by
  have ho : (node.run primitives moment aboutNodeTwo).map (fun n => (decide (offersThree newerFirst n),
      (n.step primitives moment (message newerFirst 1)).map storedVersion)) = .ok (true, .ok (some 2)) := by
    decide +kernel
  obtain ⟨n, hn, ho⟩ := map_eq_ok_iff.1 ho
  obtain ⟨hof, ha⟩ := Prod.mk.injEq .. ▸ ho
  obtain ⟨n', hs, hv⟩ := map_eq_ok_iff.1 ha
  obtain ⟨r, hr, ht⟩ := Option.map_eq_some_iff.1 hv
  obtain ⟨hst, hw, hk⟩ := of_decide_eq_true hof
  refine ⟨n, n', r, history_of_run (fun _ _ _ => trivial) hn, hst, hs, hr, fun hg => ?_⟩
  have hle : 3 ≤ r.version := hg.2 (.inr ⟨versionThree, hw, rfl, hk, rfl⟩)
  omega

end Neighborhood

end MasqMobile
