import MasqMobile.Neighborhood.Authenticity
import MasqMobile.Neighborhood.Outgoing
import MasqMobile.Neighborhood.Wire

/-!
# The Node's own record in gossip

Others take a record for newer only if its version is larger. So whenever the Node's own record has changed, it should
be told with a larger version, and what is told should be the record as it is (`TellsInOrder`).

A neighbor that comes or goes brings a new version and a new signature. A new public address does not: it changes the
country of the record and leaves the version and the signed bytes alone (mod.rs:757). Until some other occasion signs
the record again, debuts tell the old country, and what is signed then has the version that others already know. The
record that answers the debut of an isolated node (gossip_acceptor.rs:440) is signed with a neighbor list made up for
that node, under the version of the real one.

| here | there |
| --- | --- |
| `InSync` | `regenerate_signed_gossip` (node_record.rs:288) |
| `Republished` | gossip_acceptor.rs:345, 1068, 1601 |
-/

namespace MasqMobile

open Fallible NeighborhoodDatabase GossipAcceptorReal GossipProducerReal GossipBuilder NodeRecord

variable {C : GossipPrimitives} {now : Nat} {db db' : NeighborhoodDatabase} {agrs : List AccessibleGossipRecord}

/-! ## Reading one's own record -/

/-- A record that comes later is the same, or has a larger version. -/
def Precedes (inner inner' : NodeRecordInner) : Prop := inner' = inner ∨ inner.version < inner'.version

theorem Precedes.trans {inner inner' inner'' : NodeRecordInner} (h : Precedes inner inner')
    (h' : Precedes inner' inner'') : Precedes inner inner'' := by
  obtain rfl | hlt := h
  · exact h'
  · obtain rfl | hlt' := h'
    · exact .inr hlt
    · exact .inr (hlt.trans hlt')

/-- What is signed in the database is what is stored: the root's bytes are those of its record as it is, and the bytes
of others are read as what is stored of them. -/
structure InSync (C : GossipPrimitives) (db : NeighborhoodDatabase) : Prop where
  root : db.root.signedGossip = C.toCbor db.root.inner
  others : ∀ key r, key ≠ db.thisNode → db.nodeByKey key = some r → C.fromCbor r.signedGossip = some r.inner

/-- The records of a message that are those of the Node itself, read. -/
def ownRecords (C : GossipPrimitives) (thisNode : PublicKey) (gossip : Gossip) : List NodeRecordInner :=
  (gossip.filterMap fun gnr => C.fromCbor gnr.signedData).filter fun inner => inner.publicKey = thisNode

section

variable {gp : Gossip}

theorem InSync.reads (h : InSync C db) (hre : RoundTrips C) {key : PublicKey} (hr : db.nodeByKey key = some r) :
    C.fromCbor r.signedGossip = some r.inner := by
  by_cases hro : key = db.thisNode
  · subst hro
    obtain rfl := Option.some.inj (db.nodeByKey_thisNode.symm.trans hr)
    rw [h.root, hre]
  · exact h.others key r hro hr

theorem InSync.trim (h : InSync C db) (ht : Trim C now db db') : InSync C db' := by
  have hre : Retains db db' := by
    cases ht with
    | regenerate => exact retains_modifyRoot (publicKey_root _)
    | cull => exact retains_cullDeadNodes now db
  refine ⟨?_, fun key r' hk hr' => ?_⟩
  · cases ht with
    | regenerate =>
      rw [root_modifyRoot (publicKey_root _)]
      rfl
    | cull =>
      rw [root_cullDeadNodes]
      exact h.root
  · rw [hre.thisNode] at hk
    obtain ⟨r, hr, hs⟩ := hre.nodes key r' hk hr'
    rw [hs.signedGossip, hs.inner]
    exact h.others key r hk hr

theorem InSync.trims (h : InSync C db) (ht : Trims C now db db') : InSync C db' := by
  induction ht with
  | refl => exact h
  | tail _ hl ih => exact ih.trim hl

theorem Trims.thisNode (h : Trims C now db db') : db'.thisNode = db.thisNode := by
  induction h with
  | refl => rfl
  | tail _ hl ih =>
    cases hl with
    | regenerate => exact ih
    | cull => exact (retains_cullDeadNodes now _).thisNode.trans ih

theorem mem_ownRecords {thisNode : PublicKey} {inn : NodeRecordInner} : inn ∈ ownRecords C thisNode gp ↔
      (∃ gnr ∈ gp, C.fromCbor gnr.signedData = some inn) ∧ inn.publicKey = thisNode := by
  simp [ownRecords]

/-- A message that quotes records of the database tells the own record as it is. -/
theorem ownRecords_of_quotes (h : InSync C db) (hre : RoundTrips C)
    (hq : ∀ gnr ∈ gp, ∃ key r reveal, db.nodeByKey key = some r ∧ gnr = quote reveal r) :
    ∀ inner ∈ ownRecords C db.thisNode gp, inner = db.root.inner := by
  intro inner hin
  obtain ⟨⟨gnr, hg, hin⟩, ho⟩ := mem_ownRecords.1 hin
  obtain ⟨key, r, reveal, hr, rfl⟩ := hq gnr hg
  obtain rfl : r.inner = inner := Option.some.inj ((h.reads hre hr).symm.trans hin)
  have hk : key = db.thisNode := (publicKey_of_nodeByKey hr).symm.trans ho
  subst hk
  rw [Option.some.inj (db.nodeByKey_thisNode.symm.trans hr)]

theorem quotes_of_gossipFor (h : gossipFor db t = .ok gp) :
    ∀ gnr ∈ gp, ∃ key r re, db.nodeByKey key = some r ∧ gnr = quote re r := by
  rw [gossipFor_eq_ok h]
  intro gnr hg
  obtain ⟨key, -, hq⟩ := List.mem_filterMap.1 hg
  obtain ⟨r, hr, rfl⟩ := Option.map_eq_some_iff.1 hq
  exact ⟨key, r, _, hr, rfl⟩

/-- An answer tells the own record as it is, unless it isolates the node that it answers. -/
theorem ownRecords_of_composed (hs : InSync C db) (hre : RoundTrips C)
    (hn : ∀ agr ∈ agrs, ¬ Isolates b agr.inner)
    (h : Composed C agrs b db t gp) :
    ∀ inner ∈ ownRecords C db.thisNode gp, inner = db.root.inner := by
  cases h with
  | debut =>
    refine ownRecords_of_quotes hs hre fun gnr hg => ?_
    exact ⟨db.thisNode, db.root, true, db.nodeByKey_thisNode, List.mem_singleton.1 hg⟩
  | @pass key r _ _ hr =>
    refine ownRecords_of_quotes hs hre fun gnr hg => ?_
    exact ⟨key, r, true, hr, List.mem_singleton.1 hg⟩
  | @introduction key r _ _ hr =>
    refine ownRecords_of_quotes hs hre fun gnr hg => ?_
    obtain rfl | hg := List.mem_cons.1 hg
    · exact ⟨db.thisNode, db.root, true, db.nodeByKey_thisNode, rfl⟩
    · exact ⟨key, r, true, hr, List.mem_singleton.1 hg⟩
  | @secondNode agr hag _ _ _ ha =>
    obtain his | ha := ha
    · exact absurd his (hn agr hag)
    · intro inner hin
      obtain ⟨⟨gnr, hg, hin⟩, -⟩ := mem_ownRecords.1 hin
      obtain rfl := List.mem_singleton.1 hg
      simp only [← ha] at hin
      exact (Option.some.inj ((hre db.root.inner).symm.trans hin)).symm

end

/-! ## Signing one's own record -/

/-- The own record is as it was, or has been published with the next version. -/
def Republished (C : GossipPrimitives) (db db' : NeighborhoodDatabase) : Prop := SameContent db.root db'.root ∨
    db'.root.inner.version = wrappingAdd 32 db.root.inner.version 1 ∧ db'.root.signedGossip = C.toCbor db'.root.inner

section

variable {lim : RatePackLimits} {agrs : List AccessibleGossipRecord} {src : SocketAddr} {md : NeighborhoodMetadata}
  {prefs : Option UserExitPreferences}
variable {hd : Handled} {key : PublicKey}

theorem Republished.of_root_eq (h : db'.root = db.root) : Republished C db db' := .inl (h ▸ .refl _)

/-- What is stored of others first does not matter. -/
theorem Republished.after (hr : st.root = db.root) (h : Republished C st db') : Republished C db db' := by
  unfold Republished at h ⊢
  rw [← hr]
  exact h

theorem republished_of_addHalfNeighbor (h : db.addHalfNeighbor now key = .ok (true, ad)) :
    Republished C db (ad.republishRoot C) := by
  obtain ⟨-, ⟨-, heq⟩ | ⟨-, -, heq⟩⟩ := addHalfNeighbor_eq_ok_iff.1 h
  · cases heq
  · obtain ⟨-, rfl⟩ := Prod.mk.inj heq
    refine .inr ⟨?_, ?_⟩
    · rw [republishRoot, root_modifyRoot (publicKey_root _)]
      simp only [regenerateSignedGossip, incrementVersion]
      rw [root_modifyRoot (publicKey_root _)]
    · rw [republishRoot, root_modifyRoot (publicKey_root _)]
      rfl

/-- **Gossip publishes the own record with a new version, or leaves it alone.** -/
theorem handle_republished {ac : GossipAcceptorReal} {re : Handled × GossipAcceptorReal}
    (h : ac.handle C now db agrs src md = .ok re) : Republished C db re.1.database := by
  obtain heq | ⟨-, stored, -, hr, heq | ⟨key, joined, -, hj, heq⟩⟩ := handle_absorbed h
  · exact .of_root_eq (congrArg root heq)
  · exact .of_root_eq (heq ▸ hr)
  · rw [heq]
    exact (republished_of_addHalfNeighbor hj).after hr

theorem Republished.sync (h : Republished C db db') (hsy : db.root.signedGossip = C.toCbor db.root.inner) :
    db'.root.signedGossip = C.toCbor db'.root.inner := by
  obtain hs | ⟨-, hsi⟩ := h
  · rw [hs.signedGossip, hs.inner]
    exact hsy
  · exact hsi

theorem Republished.precedes (h : Republished C db db') (hv : db.root.inner.version + 1 < 2 ^ 32) :
    Precedes db.root.inner db'.root.inner := by
  obtain hs | ⟨hn, -⟩ := h
  · exact .inl hs.inner
  · refine .inr ?_
    rw [hn, wrappingAdd, Nat.mod_eq_of_lt hv]
    exact Nat.lt_succ_self _

end

namespace Neighborhood

variable {m : Moment} {n n' : Neighborhood}
variable {events : List NeighborhoodEvent} {database : NeighborhoodDatabase}

/-! ## What a message makes the Node tell -/

/-- All messages of a step tell the own record as the step leaves it. -/
structure Tells (C : GossipPrimitives) (n n' : Neighborhood) : Prop where
  thisNode : n'.database.thisNode = n.database.thisNode
  sync : n'.database.root.signedGossip = C.toCbor n'.database.root.inner
  precedes : Precedes n.database.root.inner n'.database.root.inner
  sent : ∃ said, n'.sent = n.sent ++ said ∧ ∀ s ∈ said, s.root = n'.database.root.inner ∧
    ∀ inner ∈ ownRecords C n.database.thisNode s.gossip, inner = s.root

/-- A step in which nothing is said and the own record stays as it is. -/
theorem Tells.of_silent (hsy : InSync C n.database) (ht : n'.database.thisNode = n.database.thisNode)
    (hs : SameContent n.database.root n'.database.root) (hse : n'.sent = n.sent) : Tells C n n' where
  thisNode := ht
  sync := by
    rw [hs.signedGossip, hs.inner]
    exact hsy.root
  precedes := .inl hs.inner
  sent := ⟨[], by rw [hse, List.append_nil], by simp⟩

/-- A step in which the own record may be changed and is then told. -/
theorem Tells.of_speaks (hre : RoundTrips C) (hn : ∀ agr ∈ agrs,
    ¬ Isolates b agr.inner) (hsy : InSync C db)
    (hth : db.thisNode = n.database.thisNode) (hp : Precedes n.database.root.inner db.root.inner)
    (hdb : c.database = db) (hse : c.sent = n.sent)
    (h : Speaks C m (Composed C agrs b db) db c n') : Tells C n n' := by
  have hst : Trims C m.now db c.database := hdb ▸ .refl
  have ht := h.database hst
  obtain ⟨said, hsa, ha⟩ := h.sent hst
  refine ⟨ht.thisNode.trans hth, (hsy.trims ht).root, ht.root_inner ▸ hp, said, hse ▸ hsa, fun s hs => ?_⟩
  rw [ht.root_inner, ← hth]
  obtain ⟨t, r, htr, hr, -, hg⟩ | ⟨han, hr⟩ := ha s hs
  · refine ⟨hr.trans htr.root_inner, ?_⟩
    rw [hr, ← htr.thisNode]
    exact ownRecords_of_quotes (hsy.trims htr) hre (quotes_of_gossipFor hg)
  · refine ⟨hr, ?_⟩
    rw [hr]
    exact ownRecords_of_composed hsy hre hn han

/-- What a step may not do: bring the own record another country by a new address, isolate a debuting node from other
neighbors, or meet the last version. -/
def ToldInOrder (C : GossipPrimitives) (n : Neighborhood) (event : NeighborhoodEvent) : Prop :=
  n.database.root.inner.version + 1 < 2 ^ 32 ∧
    match event with
    | .newPublicIp newIp => C.findCountry newIp = n.database.root.inner.countryCodeOpt
    | .gossip gossip _ => ∀ agr ∈ gossip.filterMap (accessible C), ¬ Isolates n.database agr.inner
    | _ => True

theorem gossip_tells {gossip : Gossip} {gossipSource : SocketAddr}
    (hre : RoundTrips C) (hok : ToldInOrder C n (.gossip gossip gossipSource)) (hs : InSync C n.database)
    (hau : AllAuthentic C events n.database) (h : n.step C m (.gossip gossip gossipSource) = .ok n') :
    Tells C n n' := by
  obtain ⟨hv, hn⟩ := hok
  obtain rfl | ⟨hsi, handled, acceptor, hh, hsp⟩ := gossip_speaks h
  · exact .of_silent hs rfl (.refl _) rfl
  · have hp : Republished C n.database handled.database := handle_republished hh
    have ha : AllAuthentic C _ handled.database := hau.handle hsi hh
    have ht : handled.database.thisNode = n.database.thisNode := by
      obtain heq | ⟨-, hc⟩ := handle_changes hh
      · exact congrArg NeighborhoodDatabase.thisNode heq
      · exact hc.thisNode
    have hs' : InSync C handled.database := ⟨hp.sync hs.root, fun key r hk hr => (ha key r hk hr).decodes⟩
    exact .of_speaks hre hn hs' ht (hp.precedes hv) (by rfl) (by rfl) hsp

/-! ### Other messages -/

theorem root_of_removeNeighbor {key : PublicKey} (h : db.removeNeighbor key = .ok (d, database)) :
    (d = false → SameContent db.root database.root) ∧
    (d = true → database.root.inner.version = wrappingAdd 32 db.root.inner.version 1) := by
  unfold removeNeighbor at h
  split at h
  · cases h
  · next toRemove hl =>
    have hf : SameContent db.root (db.forgetNodeAddr toRemove).root := by
      have hs : SameContent db.root (db.setNode toRemove.unsetNodeAddr).root := by
        rw [root_setNode]
        split_ifs with hr
        · have hk : key = db.thisNode := (publicKey_of_nodeByKey hl).symm.trans hr
          subst hk
          obtain rfl := Option.some.inj (db.nodeByKey_thisNode.symm.trans hl)
          exact ⟨rfl, rfl, rfl⟩
        · exact .refl _
      unfold forgetNodeAddr
      split
      · exact hs
      · exact hs
    simp only at h
    split_ifs at h
    · cases h
      refine ⟨nofun, fun _ => ?_⟩
      rw [root_modifyRoot (publicKey_root _), ← hf.inner]
      rfl
    · cases h
      exact ⟨fun _ => hf, nofun⟩

/-- A neighbor that is lost is told of with a new version. -/
theorem removal_tells (hrea : RoundTrips C) (hv : n.database.root.inner.version + 1 < 2 ^ 32)
    (hs : InSync C n.database) (h : RemovalSpeaks C m n n') : Tells C n n' := by
  obtain rfl | ⟨key, dbChanged, database, hre, hu, hch⟩ := h
  · exact .of_silent hs rfl (.refl _) rfl
  · have hret := retains_removeNeighbor hre
    obtain ⟨hsa, hn⟩ := root_of_removeNeighbor hre
    cases dbChanged with
    | false =>
      obtain ⟨rfl, hse⟩ := hu rfl
      exact .of_silent hs hret.thisNode (hsa rfl) hse
    | true =>
      obtain ⟨before, rfl, hse, hg⟩ := hch rfl
      have hreg : Retains before.database
          (before.database.modifyRoot (regenerateSignedGossip C)) := retains_modifyRoot (publicKey_root _)
      have hsi : Republished C n.database (before.database.modifyRoot (regenerateSignedGossip C)) := by
        refine .inr ⟨?_, ?_⟩
        · rw [root_modifyRoot (publicKey_root _)]
          exact hn rfl
        · rw [root_modifyRoot (publicKey_root _)]
          rfl
      have ha := hret.trans hreg
      -- what is told speaks of the own record as it has just been signed
      have hsp : Speaks C m (Composed C [] n.database (before.database.modifyRoot (regenerateSignedGossip C)))
          (before.database.modifyRoot (regenerateSignedGossip C)) _ n' := gossipToEach_speaks hg
      refine .of_speaks hrea (List.forall_mem_nil _) ⟨hsi.sync hs.root, fun key r' hk hr' => ?_⟩ ha.thisNode
        (hsi.precedes hv) (by rfl) (by exact hse) hsp
      rw [ha.thisNode] at hk
      obtain ⟨r, hr, hc⟩ := ha.nodes key r' hk hr'
      rw [hc.signedGossip, hc.inner]
      exact hs.others key r hk hr

theorem sameContent_root_mapNodes {f : NodeRecord → NodeRecord}
    (hk : ∀ r, (f r).publicKey = r.publicKey) (hs : ∀ r, SameContent r (f r)) :
    SameContent db.root (db.mapNodes f hk).root := by
  have h : (db.mapNodes f hk).nodeByKey db.thisNode = some (db.mapNodes f hk).root :=
    (db.mapNodes f hk).nodeByKey_thisNode
  rw [nodeByKey_mapNodes, nodeByKey_thisNode] at h
  rw [← Option.some.inj h]
  exact hs db.root

/-- New settings change the prices of nodes only. -/
theorem Adjusts.tells (h : Adjusts n n') (hs : InSync C n.database) : Tells C n n' := by
  have hq : n'.database.thisNode = n.database.thisNode ∧ SameContent n.database.root n'.database.root := by
    obtain ⟨hd, -, -⟩ := h
    generalize n'.database = db' at hd
    cases hd with
    | refl => exact ⟨rfl, .refl _⟩
    | map hk hf => exact ⟨rfl, sameContent_root_mapNodes hk fun r => ⟨(hf r).1, (hf r).2.1, (hf r).2.2.1⟩⟩
  exact .of_silent hs hq.1 hq.2 h.sent

theorem sameContent_root_newPublicIp (h : db.newPublicIp ni = .ok database) : database.thisNode = db.thisNode ∧
    SameContent db.root database.root := by
  unfold newPublicIp at h
  split at h
  · cases h
  · next oldNodeAddr _ =>
    cases h
    have hs : SameContent db.root (db.modifyRoot fun root =>
        { root with metadata.nodeAddrOpt := some (.new ni oldNodeAddr.clone.ports) }).root := by
      rw [root_modifyRoot (publicKey_root _)]
      exact ⟨rfl, rfl, rfl⟩
    exact ⟨rfl, hs⟩

/-- The own record is not changed by a new address in the same country. -/
theorem newPublicIp_quiet (hc : C.findCountry ni = n.database.root.inner.countryCodeOpt)
    (h : n.newPublicIpMessage C ni = .ok n') :
    n'.database.thisNode = n.database.thisNode ∧ n'.sent = n.sent ∧ SameContent n.database.root n'.database.root := by
  simp only [newPublicIpMessage, bind_eq_ok, pure_eq_ok] at h
  obtain ⟨database, hm, rfl⟩ := h
  obtain ⟨ht, hin, hs, hsi⟩ := sameContent_root_newPublicIp hm
  refine ⟨ht, rfl, ?_⟩
  rw [root_modifyRoot (publicKey_root _), hc, ← hin]
  exact ⟨hin, hs, hsi⟩

/-- **One message.** -/
theorem step_tells (hr : RoundTrips C)
    (hok : ToldInOrder C n e) (hs : InSync C n.database) (ha : AllAuthentic C events n.database)
    (h : n.step C m e = .ok n') : Tells C n n' := by
  cases e with
  | gossip gossip gossipSource => exact gossip_tells hr hok hs ha h
  | removeNeighbor publicKey => exact removal_tells hr hok.1 hs (removeNeighborMessage_speaks h)
  | streamShutdown peerIp => exact removal_tells hr hok.1 hs (streamShutdown_speaks h)
  | newPublicIp newIp =>
    obtain ⟨ht, hse, hsa⟩ := newPublicIp_quiet hok.2 h
    exact .of_silent hs ht hsa hse
  | debut targets =>
    exact .of_speaks hr (List.forall_mem_nil _) hs rfl (.inl rfl) rfl rfl (sendDebutGossip_speaks (m := m) h)
  | exitLocation => exact (exitLocationMessage_adjusts h).tells hs
  | updateMinHops => exact (updateMinHops_adjusts h).tells hs

/-! ## Runs -/

/-- What the Node has told of itself: each message tells its record as it was then, and of two messages the later tells
the same or a larger version. -/
structure Told (C : GossipPrimitives) (n : Neighborhood) : Prop where
  own : ∀ s ∈ n.sent, ∀ inner ∈ ownRecords C n.database.thisNode s.gossip, inner = s.root
  order : n.sent.Pairwise fun s s' => Precedes s.root s'.root
  last : ∀ s ∈ n.sent, Precedes s.root n.database.root.inner

theorem Told.step (h : Told C n) (hst : Tells C n n') : Told C n' := by
  obtain ⟨said, hsa, ha⟩ := hst.sent
  refine ⟨?_, ?_, ?_⟩
  · rw [hsa, hst.thisNode]
    intro s hs
    obtain hs | hs := List.mem_append.1 hs
    · exact h.own s hs
    · exact (ha s hs).2
  · rw [hsa]
    refine List.pairwise_append.2 ⟨h.order, ?_, fun s hs s' hs' => ?_⟩
    · exact List.pairwise_of_forall_mem_list fun s hs s' hs' => .inl ((ha s' hs').1.trans (ha s hs).1.symm)
    · rw [(ha s' hs').1]
      exact (h.last s hs).trans hst.precedes
  · rw [hsa]
    intro s hs
    obtain hs | hs := List.mem_append.1 hs
    · exact (h.last s hs).trans hst.precedes
    · exact .inl (ha s hs).1.symm

theorem History.told (hre : RoundTrips C) (hf : n.IsFresh C)
    (hs : n.sent = []) (h : History C (ToldInOrder C) n events n') : InSync C n'.database ∧ Told C n' := by
  induction h with
  | nil =>
    have hn : History C (ToldInOrder C) n [] n := .nil
    have ha := hn.allAuthentic hf
    refine ⟨⟨?_, fun key r hk hr => (ha key r hk hr).decodes⟩, ?_, ?_, ?_⟩
    · obtain ⟨now, mode, earningWallet, publicKey, contractOpt, hdb⟩ := hf.database
      rw [hdb, root_ofRoot]
      rfl
    · simp [hs]
    · simp [hs]
    · simp [hs]
  | snoc hb hok hst ih =>
    obtain ⟨hsy, hto⟩ := ih
    have ha := hb.allAuthentic hf
    have ht := step_tells hre hok hsy ha hst
    refine ⟨⟨ht.sync, fun key r hk hr => (ha.step hst key r hk hr).decodes⟩, hto.step ht⟩

/-- Every message tells the own record as it was when it was sent, and of two messages that tell it differently the
later has the larger version. -/
structure TellsInOrder (C : GossipPrimitives) (n : Neighborhood) : Prop where
  current : ∀ s ∈ n.sent, ∀ inner ∈ ownRecords C n.database.thisNode s.gossip, inner = s.root
  versions : n.sent.Pairwise fun s s' => ∀ inner ∈ ownRecords C n.database.thisNode s.gossip,
    ∀ inner' ∈ ownRecords C n.database.thisNode s'.gossip, inner' ≠ inner → inner.version < inner'.version

/-- **Changes of the own record reach the neighbors.** -/
theorem own_record_told_in_order {events : List NeighborhoodEvent} (hread : RoundTrips C) (hfresh : n.IsFresh C)
    (hsent : n.sent = []) (h : History C (ToldInOrder C) n events n') : TellsInOrder C n' := by
  obtain ⟨-, ht⟩ := h.told hread hfresh hsent
  refine ⟨ht.own, ht.order.imp_of_mem ?_⟩
  intro s s' hs hs' hp inner hin inner' hin' hd
  rw [ht.own s hs inner hin, ht.own s' hs' inner' hin'] at hd ⊢
  exact hp.resolve_left hd

open SmallNetwork

instance (db : NeighborhoodDatabase) (debuting : NodeRecordInner) : Decidable (Isolates db debuting) :=
  decidable_of_iff (db.root.inner.neighbors ≠ [] ∧ debuting.publicKey ∉ db.keys ∧ db.thisNode ∉ debuting.neighbors ∧
      (∀ key ∈ debuting.neighbors, ∀ r ∈ db.nodeByKey key, r.routesData = false) ∧
      ∀ key ∈ db.fullNeighborKeys db.root, DebutHandler.isSuitable db key = false)
    ⟨fun ⟨hothers, hnew, hus, hstrangers, hnobody⟩ => ⟨hothers, hnew, hus, hstrangers, hnobody⟩,
      fun h => ⟨h.others, h.new, h.notUs, h.strangers, h.nobody⟩⟩

instance (C : GossipPrimitives) (n : Neighborhood) (event : NeighborhoodEvent) : Decidable (ToldInOrder C n event) := by
  unfold ToldInOrder
  cases event <;> infer_instance

def nodeOneDebuts : NeighborhoodEvent := message [wiredRecord 1 0 1 [] (listensAt 1)] 1

def nodeOneTells : NeighborhoodEvent := message [wiredRecord 1 1 1 [0, 2] (listensAt 1), wiredRecord 2 1 2 [1] none] 1

/-- A debut is answered, and gossip is passed on. -/
theorem neighbor_told_in_order :
    ∃ n', History wired (ToldInOrder wired) wiredNode [nodeOneDebuts, nodeOneTells] n' ∧ n'.sent.length = 2 ∧
      (∀ s ∈ n'.sent, ownRecords wired (key 0) s.gossip ≠ []) ∧ TellsInOrder wired n' := by
  have ho : (wiredNode.step wired moment nodeOneDebuts).map (fun n => (decide (ToldInOrder wired n nodeOneTells),
      (n.step wired moment nodeOneTells).map fun n' => (n'.sent.length,
        decide (∀ s ∈ n'.sent, ownRecords wired (key 0) s.gossip ≠ [])))) = .ok (true, .ok (2, true)) := by
    decide +kernel
  obtain ⟨n, hf, ho⟩ := map_eq_ok_iff.1 ho
  obtain ⟨hok, ho⟩ := Prod.mk.injEq .. ▸ ho
  obtain ⟨n', hs, ho⟩ := map_eq_ok_iff.1 ho
  obtain ⟨hl, ht⟩ := Prod.mk.injEq .. ▸ ho
  have hh : History wired (ToldInOrder wired) wiredNode [nodeOneDebuts, nodeOneTells] n' :=
    (History.nil.snoc (by decide +kernel) hf).snoc (of_decide_eq_true hok) hs
  exact ⟨n', hh, hl, of_decide_eq_true ht, own_record_told_in_order wired_roundTrips wiredNode_isFresh rfl hh⟩

/-- The Node gets an address in another country before it debuts once more and passes gossip on. -/
def movesAbroad : List NeighborhoodEvent := [nodeOneDebuts, .newPublicIp (ip 2), .debut [key 1], nodeOneTells]

/-- The debut tells the old country, and the gossip the new one with the old version. -/
theorem country_told_out_of_order : ∃ n', History wired (fun _ _ => True) wiredNode movesAbroad n' ∧
      (¬ ∀ s ∈ n'.sent, ∀ inner ∈ ownRecords wired n'.database.thisNode s.gossip, inner = s.root) ∧
      ¬ n'.sent.Pairwise fun s s' => ∀ inner ∈ ownRecords wired n'.database.thisNode s.gossip,
        ∀ inner' ∈ ownRecords wired n'.database.thisNode s'.gossip, inner' ≠ inner →
          inner.version < inner'.version := by
  have ho : (wiredNode.run wired moment movesAbroad).map (fun n' =>
      (decide (∀ s ∈ n'.sent, ∀ inner ∈ ownRecords wired n'.database.thisNode s.gossip, inner = s.root),
        decide (n'.sent.Pairwise fun s s' => ∀ inner ∈ ownRecords wired n'.database.thisNode s.gossip,
          ∀ inner' ∈ ownRecords wired n'.database.thisNode s'.gossip, inner' ≠ inner →
            inner.version < inner'.version))) = .ok (false, false) := by
    decide +kernel
  obtain ⟨n', hr, ho⟩ := map_eq_ok_iff.1 ho
  obtain ⟨hc, hv⟩ := Prod.mk.injEq .. ▸ ho
  exact ⟨n', history_of_run (fun _ _ _ => trivial) hr, of_decide_eq_false hc, of_decide_eq_false hv⟩

end Neighborhood

end MasqMobile
