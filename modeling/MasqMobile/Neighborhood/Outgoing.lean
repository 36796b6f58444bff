import MasqMobile.Neighborhood.Steps

/-!
# What a Node tells others

Neighbors are told what is known, from the database as `gossip_to_neighbors` has trimmed it (`Trim`). To the gossip of
others the acceptor answers in a few ways (`Composed`): with the Node's own record, as in a debut; with a pass to a
neighbor; with an introduction of a neighbor; or with its own record in which the debuting node is the only neighbor,
if there is nobody to introduce.

| here | there |
| --- | --- |
| `gossipFor` | gossip_producer.rs:40 |
| `Composed.debut` | gossip_producer.rs:84 |
| `Composed.pass`, `Composed.introduction` | gossip_acceptor.rs:587, 465 |
| `Composed.secondNode` | gossip_acceptor.rs:440 |
-/

namespace MasqMobile

open Fallible NeighborhoodDatabase GossipAcceptorReal GossipProducerReal GossipBuilder Lists
open DebutHandler NodeRecord StandardGossipHandler

variable {db : NeighborhoodDatabase} {C : GossipPrimitives} {gossip : Gossip}

/-! ## Debuts

A debut is answered as by a Node without other neighbors if there is nobody to introduce. -/

/-- The debut of a node that gets to see none of the Node's other neighbors. -/
structure Isolates (db : NeighborhoodDatabase) (debuting : NodeRecordInner) : Prop where
  others : db.root.inner.neighbors ≠ []
  new : debuting.publicKey ∉ db.keys
  notUs : db.thisNode ∉ debuting.neighbors
  strangers : ∀ key ∈ debuting.neighbors, ∀ r ∈ db.nodeByKey key, r.routesData = false
  nobody : ∀ key ∈ db.fullNeighborKeys db.root, DebutHandler.isSuitable db key = false

/-- The nodes of a database are in another one, with the same abilities and all their neighbors. -/
structure Includes (db db' : NeighborhoodDatabase) : Prop where
  thisNode : db'.thisNode = db.thisNode
  nodes : ∀ key r, db.nodeByKey key = some r → ∃ r', db'.nodeByKey key = some r' ∧ r'.routesData = r.routesData ∧
    r'.acceptsConnections = r.acceptsConnections ∧ r.inner.neighbors ⊆ r'.inner.neighbors

variable {ac : NeighborhoodDatabase}

section

variable {db' db'' : NeighborhoodDatabase} {key : PublicKey}

theorem Includes.trans (h : Includes db db') (h' : Includes db' db'') : Includes db db'' where
  thisNode := h'.thisNode.trans h.thisNode
  nodes key r hr := by
    obtain ⟨r', hr', hro, ha, hn⟩ := h.nodes key r hr
    obtain ⟨r'', hr'', hro', ha', hn'⟩ := h'.nodes key r' hr'
    exact ⟨r'', hr'', hro'.trans hro, ha'.trans ha, List.Subset.trans hn hn'⟩

theorem includes_addArbitraryNode (hn : r.publicKey ∉ db.keys) : Includes db (db.addArbitraryNode r) where
  thisNode := thisNode_addArbitraryNode
  nodes key r' hr' := by
    have ho : r.publicKey ≠ key := fun heq => hn (heq ▸ mem_keys_iff.2 ⟨r', hr'⟩)
    exact ⟨r', by rw [nodeByKey_addArbitraryNode, if_neg ho]; exact hr', rfl, rfl, List.Subset.refl _⟩

theorem includes_modifyRoot {f : NodeRecord → NodeRecord} (hk : (f db.root).publicKey = db.thisNode)
    (hrou : (f db.root).routesData = db.root.routesData)
    (ha : (f db.root).acceptsConnections = db.root.acceptsConnections)
    (hn : db.root.inner.neighbors ⊆ (f db.root).inner.neighbors) : Includes db (db.modifyRoot f) where
  thisNode := rfl
  nodes key r hr := by
    by_cases hro : key = db.thisNode
    · subst hro
      obtain rfl := Option.some.inj (db.nodeByKey_thisNode.symm.trans hr)
      exact ⟨f db.root, by rw [modifyRoot, nodeByKey_setNode, if_pos hk], hrou, ha, hn⟩
    · exact ⟨r, by rw [nodeByKey_modifyRoot hk hro]; exact hr, rfl, rfl, List.Subset.refl _⟩

theorem Includes.fullNeighborKeys (h : Includes db db') (hk : key ∈ db.fullNeighborKeys db.root) :
    key ∈ db'.fullNeighborKeys db'.root := by
  obtain ⟨hne, r, hr, hb⟩ := mem_fullNeighborKeys.1 hk
  obtain ⟨root', hro', -, -, hn⟩ := h.nodes db.thisNode db.root db.nodeByKey_thisNode
  rw [← h.thisNode, nodeByKey_thisNode] at hro'
  obtain rfl := Option.some.inj hro'
  obtain ⟨r', hr', -, -, hn'⟩ := h.nodes key r hr
  rw [publicKey_root, ← h.thisNode] at hb
  exact mem_fullNeighborKeys.2 ⟨hn hne, r', hr', by rw [publicKey_root]; exact hn' hb⟩

theorem Includes.isSuitable (h : Includes db db') (hk : DebutHandler.isSuitable db key = true) :
    DebutHandler.isSuitable db' key = true := by
  obtain ⟨r, hr, hs⟩ := (Option.any_eq_true _ _).1 hk
  obtain ⟨r', hr', hro, ha, -⟩ := h.nodes key r hr
  exact (Option.any_eq_true _ _).2 ⟨r', hr', by rw [hro, ha]; exact hs⟩

/-- A debut that has been accepted is answered with the Node's own record alone. -/
theorem isolates_of_accepted {agr : AccessibleGossipRecord} (hin : Includes db ac)
    (ho : db.root.inner.neighbors ≠ []) (hne : agr.inner.publicKey ∉ db.keys)
    (han : shouldNotMakeAnotherIntroduction ac agr = false)
    (hno : findLeastConnectedFullNeighborExcluding ac agr = none)
    (hus : countsUsAmongNeighbors agr ac = false) : Isolates db agr.inner := by
  have hst : ∀ key ∈ agr.inner.neighbors, ∀ r ∈ db.nodeByKey key, r.routesData = false := by
    intro key hk r hr
    obtain ⟨r', hr', hro, -⟩ := hin.nodes key r hr
    have hn := List.any_eq_false.1 han key hk
    rw [hr'] at hn
    simpa [hro] using hn
  refine ⟨ho, hne, ?_, hst, fun key hk => ?_⟩
  · simpa [countsUsAmongNeighbors, hin.thisNode] using hus
  · by_contra hs
    rw [Bool.not_eq_false] at hs
    have he : key ∈ nodeAndNeighborKeys agr := by
      by_contra hnot
      have hm : key ∈ keysOrderedByDegreeExcluding ac
          ((ac.fullNeighborKeys ac.root).filter (DebutHandler.isSuitable ac))
          (nodeAndNeighborKeys agr) := by
        rw [keysOrderedByDegreeExcluding, mem_sortBy]
        exact List.mem_filter.2 ⟨List.mem_filter.2 ⟨hin.fullNeighborKeys hk, hin.isSuitable hs⟩, by simpa using hnot⟩
      rw [List.head?_eq_none_iff.1 hno] at hm
      cases hm
    obtain ⟨r, hr, ha⟩ := (Option.any_eq_true _ _).1 hs
    obtain rfl | hl := List.mem_cons.1 he
    · exact hne (mem_keys_iff.2 ⟨r, hr⟩)
    · simp [hst key hl r hr] at ha

end

/-! ## Answers -/

/-- How a message for a target is composed from the database, in answer to some records that came `before` or for a
debut. -/
inductive Composed (C : GossipPrimitives) (agrs : List AccessibleGossipRecord) (before db : NeighborhoodDatabase)
    (target : PublicKey) : Gossip → Prop
  | debut : Composed C agrs before db target [quote true db.root]
  | pass {key : PublicKey} {r : NodeRecord} (hkey : key ∈ db.root.inner.neighbors) (hother : key ≠ target)
      (hr : db.nodeByKey key = some r) : Composed C agrs before db target [quote true r]
  | introduction {key : PublicKey} {r : NodeRecord} (hkey : key ∈ db.root.inner.neighbors) (hother : key ≠ target)
      (hr : db.nodeByKey key = some r) : Composed C agrs before db target [quote true db.root, quote true r]
  | secondNode {agr : AccessibleGossipRecord} (hagr : agr ∈ agrs) (hkey : agr.inner.publicKey = target)
      (hself : target ≠ db.thisNode) (hneighbor : target ∈ db.root.inner.neighbors)
      (halone : Isolates before agr.inner ∨ db.root.inner.neighbors = [target]) :
      Composed C agrs before db target [⟨C.toCbor { db.root.inner with neighbors := [target] },
        CryptDEReal.sign C (C.toCbor { db.root.inner with neighbors := [target] }), db.root.nodeAddrOpt⟩]

section

variable {limits : RatePackLimits} {now : Nat} {agrs : List AccessibleGossipRecord} {gossipSource : SocketAddr}
  {metadata : NeighborhoodMetadata} {before : NeighborhoodDatabase}
  {agr debutingAgr excluded : AccessibleGossipRecord} {handled : Handled} {previous : IpAddr → Option Nat}
  {nodeAddr : NodeAddr} {key : PublicKey}

/-- Every answer is composed from the database that the acceptor leaves. -/
def AnswersComposed (C : GossipPrimitives) (agrs : List AccessibleGossipRecord) (before : NeighborhoodDatabase)
    (handled : Handled) : Prop :=
  ∀ gossip key nodeAddr, .reply gossip key nodeAddr ∈ handled.results →
    Composed C agrs before handled.database key gossip

theorem makeDebutTriple_composed (h : makeDebutTriple db d = .ok (some (gossip, key, nodeAddr))) :
    Composed C agrs before db key gossip := by
  unfold makeDebutTriple at h
  split at h
  · cases h
  · split_ifs at h
    · cases h
    · simp only [bind_eq_ok, pure_eq_ok, Option.some.injEq, Prod.mk.injEq] at h
      obtain ⟨gossip', hg, rfl, rfl, rfl⟩ := h
      rw [produceDebut_eq_ok hg]
      exact .debut

theorem makePassGossip_composed (hk : p ∈ db.root.inner.neighbors) (ho : p ≠ t) (h : makePassGossip db p = .ok gossip) :
    Composed C agrs before db t gossip := by
  simp only [makePassGossip, bind_eq_ok, pure_eq_ok] at h
  obtain ⟨b, hb, rfl⟩ := h
  obtain ⟨r, hr, hg⟩ := node_eq_ok hb
  rw [hg]
  exact .pass hk ho hr

theorem ne_of_notMem_nodeAndNeighborKeys (h : key ∉ nodeAndNeighborKeys agr) : key ≠ agr.inner.publicKey :=
  fun heq => h (heq ▸ List.mem_cons_self)

theorem tryToMakeIntroduction_composed
    (h : tryToMakeIntroduction db debutingAgr gossipSource = .ok (some (gossip, key, nodeAddr))) :
    Composed C agrs before db key gossip := by
  unfold tryToMakeIntroduction at h
  split at h
  · cases h
  · next lcnKey hl =>
    simp only [bind_eq_ok, pure_eq_ok, Option.some.injEq, Prod.mk.injEq] at h
    obtain ⟨first, hfs, second, hs, rfl, rfl, rfl⟩ := h
    obtain ⟨root, hro, hg⟩ := node_eq_ok hfs
    obtain ⟨r, hr, hg'⟩ := node_eq_ok hs
    rw [publicKey_root, nodeByKey_thisNode] at hro
    obtain rfl := Option.some.inj hro
    rw [hg', hg]
    have hm : lcnKey ∈ keysOrderedByDegreeExcluding db
        ((db.fullNeighborKeys db.root).filter (DebutHandler.isSuitable db))
        (nodeAndNeighborKeys debutingAgr) := List.mem_of_mem_head? hl
    rw [keysOrderedByDegreeExcluding, mem_sortBy] at hm
    obtain ⟨hf, he⟩ := List.mem_filter.1 hm
    have hn := (mem_fullNeighborKeys.1 (List.mem_of_mem_filter hf)).1
    exact .introduction hn (ne_of_notMem_nodeAndNeighborKeys (by simpa using he)) hr

theorem answerDebut_composed (hag : agr ∈ agrs) (hinn : agr.inner = debutingAgr.inner)
    (hne : debutingAgr.inner.publicKey ∈ db.root.inner.neighbors)
    (hal : shouldNotMakeAnotherIntroduction db debutingAgr = false →
      findLeastConnectedFullNeighborExcluding db debutingAgr = none →
      countsUsAmongNeighbors debutingAgr db = false →
      Isolates before debutingAgr.inner ∨ db.root.inner.neighbors = [debutingAgr.inner.publicKey])
    (h : answerDebut C db debutingAgr d gossipSource = .ok (.reply gossip key nodeAddr)) :
    Composed C agrs before db key gossip := by
  unfold answerDebut at h
  by_cases ha : shouldNotMakeAnotherIntroduction db debutingAgr = true
  · rw [if_pos ha] at h
    split_ifs at h
    · cases h
    · simp only [bind_eq_ok] at h
      obtain ⟨t, ht, h⟩ := h
      split at h
      · cases h
        exact makeDebutTriple_composed ht
      · cases h
  · rw [if_neg ha] at h
    simp only [bind_eq_ok] at h
    obtain ⟨int, hin, h⟩ := h
    split at h
    · cases h
      exact tryToMakeIntroduction_composed hin
    · split_ifs at h with hus
      · cases h
      · simp only [bind_eq_ok, pure_eq_ok] at h
        obtain ⟨response, hr, heq⟩ := h
        cases heq
        unfold createSecondNodeGossipResponse at hr
        split_ifs at hr with hs
        cases hr
        have hno : findLeastConnectedFullNeighborExcluding db debutingAgr = none := by
          unfold tryToMakeIntroduction at hin
          split at hin
          · assumption
          · simp only [bind_eq_ok, pure_eq_ok] at hin
            obtain ⟨_, -, _, -, hn⟩ := hin
            cases hn
        refine .secondNode hag (congrArg _ hinn) (by rwa [publicKey_root] at hs) hne ?_
        rw [hinn]
        exact hal (Bool.eq_false_iff.2 ha) hno (Bool.eq_false_iff.2 hus)

theorem neighbors_republishRoot (C : GossipPrimitives) (h : db.addHalfNeighbor now key = .ok (true, ad)) :
    (ad.republishRoot C).root.inner.neighbors = db.root.inner.neighbors.orderedInsert (· ≤ ·) key := by
  obtain ⟨-, ⟨-, heq⟩ | ⟨-, -, heq⟩⟩ := addHalfNeighbor_eq_ok_iff.1 h
  · cases heq
  · obtain ⟨-, rfl⟩ := Prod.mk.inj heq
    rw [republishRoot, root_modifyRoot (publicKey_root _)]
    simp only [regenerateSignedGossip, incrementVersion]
    rw [root_modifyRoot (publicKey_root _)]

theorem tryAcceptDebut_composed (hag : agr ∈ agrs) (hin : agr.inner = debutingAgr.inner)
    (h : tryAcceptDebut C now db debutingAgr d gossipSource p =
      .ok (some (.reply gossip key nodeAddr, ac))) : Composed C agrs db ac key gossip := by
  obtain ⟨debutKey, added, neighbors, ha, hh, rfl, hre⟩ := tryAcceptDebut_cases h
  obtain ⟨-, hne, heq⟩ := addNode_eq_ok_iff.1 ha
  obtain ⟨rfl, rfl⟩ := Prod.mk.inj heq
  have hk : (pricedRecord now p debutingAgr.clone).publicKey = debutingAgr.inner.publicKey := by
    simp [publicKey]
  have hn := neighbors_republishRoot C hh
  obtain ⟨-, ⟨-, heq⟩ | ⟨-, -, heq⟩⟩ := addHalfNeighbor_eq_ok_iff.1 hh
  · cases heq
  obtain ⟨-, rfl⟩ := Prod.mk.inj heq
  have hot : (pricedRecord now p debutingAgr.clone).publicKey ≠ db.thisNode := fun hr => hne (hr ▸ thisNode_mem_keys db)
  rw [root_addArbitraryNode hot] at hn
  refine answerDebut_composed hag hin ?_ (fun han hno hus => ?_) hre
  · rw [hn, hk]
    exact (List.mem_orderedInsert (· ≤ ·)).2 (.inl rfl)
  by_cases ho : db.root.inner.neighbors = []
  · refine .inr ?_
    rw [hn, ho, hk]
    rfl
  · refine .inl (isolates_of_accepted ?_ ho (hk ▸ hne) han hno hus)
    have hs := includes_addArbitraryNode hne
    generalize db.addArbitraryNode (pricedRecord now p debutingAgr.clone) = added at hs
    have hneig : Includes added (added.modifyRoot fun root =>
        { root with
          inner.neighbors := root.inner.neighbors.orderedInsert (· ≤ ·)
            (pricedRecord now p debutingAgr.clone).publicKey
          metadata.lastUpdate := now }) :=
      includes_modifyRoot (publicKey_root added) rfl rfl fun key hk => by simp [hk]
    exact (hs.trans hneig).trans
      (includes_modifyRoot (publicKey_root _) rfl rfl (List.Subset.refl _))

theorem neighbor_of_findMoreAppropriateNeighbor (h : findMoreAppropriateNeighbor db excluded = some key) :
    key ∈ db.root.inner.neighbors ∧ key ≠ excluded.inner.publicKey := by
  simp only [findMoreAppropriateNeighbor] at h
  split at h
  · cases h
  · next found hfo =>
    split_ifs at h
    obtain rfl := Option.some.inj h
    have hm := (List.dropWhile_sublist _).subset (List.mem_of_mem_head? hfo)
    have hs := List.mem_of_mem_filter hm
    rw [keysOrderedByDegreeExcluding, mem_sortBy] at hs
    obtain ⟨hf, he⟩ := List.mem_filter.1 hs
    exact ⟨(mem_fullNeighborKeys.1 hf).1, ne_of_notMem_nodeAndNeighborKeys (by simpa using he)⟩

theorem neighbor_of_findLeastConnectedHalfNeighborExcluding
    (h : findLeastConnectedHalfNeighborExcluding db excluded = some key) :
    key ∈ db.root.inner.neighbors ∧ key ≠ excluded.inner.publicKey := by
  have hm := List.mem_of_mem_head? h
  rw [keysOrderedByDegreeExcluding, mem_sortBy] at hm
  obtain ⟨hn, he⟩ := List.mem_filter.1 hm
  exact ⟨hn, ne_of_notMem_nodeAndNeighborKeys (by simpa using he)⟩

theorem debut_composed (h : DebutHandler.handle C limits now db agrs gossipSource metadata = .ok handled) :
    AnswersComposed C agrs db handled := by
  intro gossip key nodeAddr hr
  cases agrs with
  | nil => cases h
  | cons agr rest =>
    obtain ⟨-, _, rfl⟩ | ⟨preferred, pass, hpr, hp, rfl⟩ | ⟨result, accepted, ht, rfl⟩ | ⟨_, _, _, rfl⟩ := debut_cases h
    · simp at hr
    · obtain ⟨rfl, rfl, rfl⟩ : gossip = pass ∧ key = _ ∧ nodeAddr = _ := by simpa using hr
      obtain ⟨hn, ho⟩ := hpr.elim neighbor_of_findMoreAppropriateNeighbor
        neighbor_of_findLeastConnectedHalfNeighborExcluding
      exact makePassGossip_composed hn ho hp
    · obtain rfl := List.mem_singleton.1 hr
      exact tryAcceptDebut_composed List.mem_cons_self (by rfl) ht
    · simp at hr

theorem pass_composed {re : Handled × (IpAddr → Option Nat)}
    (h : PassHandler.handle now db agrs gossipSource metadata previous = .ok re) :
    AnswersComposed C agrs db re.1 := by
  intro gossip key nodeAddr hr
  obtain ⟨hdb, hn | ⟨debut, _, _, hd, ho⟩⟩ := pass_spec h
  · rw [hn] at hr
    cases hr
  · rw [ho] at hr
    obtain ⟨rfl, rfl, rfl⟩ : gossip = debut ∧ key = _ ∧ nodeAddr = _ := by simpa using hr
    rw [hdb, produceDebut_eq_ok hd]
    exact .debut

theorem introduction_composed (hq : IntroductionHandler.qualifies db agrs gossipSource = .matched)
    (h : IntroductionHandler.handle C limits now db agrs gossipSource metadata = .ok handled) :
    AnswersComposed C agrs db handled := by
  obtain ⟨first, second, introducer, introducee, rfl, hp, -⟩ := introduction_qualified hq
  intro gossip key nodeAddr hr
  obtain rfl | ⟨_, _, -, -, hre⟩ := introduction_cases hp h
  · cases hr
  · exact makeDebutTriple_composed (hre gossip key nodeAddr hr)

theorem reply_notMem_extractMalefactors : GossipAcceptanceResult.reply gossip key nodeAddr ∉
      (extractMalefactors limits db g gossipSource agrs).2 := by
  intro hm
  obtain hm | hm := List.mem_append.1 hm
  · obtain ⟨agr, -, hb⟩ := List.mem_filterMap.1 hm
    obtain ⟨reason, -, heq⟩ := Option.map_eq_some_iff.1 hb
    cases heq
  · obtain ⟨agr, -, hb⟩ := List.mem_filterMap.1 hm
    unfold addressBan at hb
    split_ifs at hb <;> cases hb

theorem standard_composed (h : StandardGossipHandler.handle C limits now db agrs gossipSource metadata = .ok handled) :
    AnswersComposed C agrs db handled := by
  intro gossip key nodeAddr hr
  unfold StandardGossipHandler.handle at h
  simp only at h
  split at h
  · cases h
    simp at hr
  · next gossipSourceAgr _ =>
    simp only [bind_eq_ok] at h
    obtain ⟨ad, -, updated, -, h⟩ := h
    have hm : GossipAcceptanceResult.reply gossip key nodeAddr ∈
        (extractMalefactors limits db gossipSourceAgr gossipSource (agrs.filter fun agr =>
          agr.inner.publicKey ∈ computePatch agrs db.root metadata.dbPatchSize)).2 := by
      split_ifs at h <;> cases h <;> simpa using hr
    exact absurd hm reply_notMem_extractMalefactors

theorem handle_composed {ac ac' : GossipAcceptorReal}
    (h : ac.handle C now db agrs gossipSource metadata = .ok (handled, ac')) : AnswersComposed C agrs db handled := by
  obtain ⟨-, q, handler, hf, ht⟩ := handle_taken h
  cases ht with
  | malformed hh =>
    subst hh
    intro gossip key nodeAddr hr
    simp at hr
  | debut hh => exact debut_composed hh
  | pass hh => exact pass_composed hh
  | introduction hh => exact introduction_composed (Except.ok.inj (firstQualified_spec hf)) hh
  | standard hh => exact standard_composed hh

end

/-! ## What is said in a step -/

/-- What `gossip_to_neighbors` does to the database before it speaks. -/
inductive Trim (C : GossipPrimitives) (now : Nat) (db : NeighborhoodDatabase) : NeighborhoodDatabase → Prop
  | regenerate : Trim C now db (db.modifyRoot (regenerateSignedGossip C))
  | cull : Trim C now db (db.cullDeadNodes now)

abbrev Trims (C : GossipPrimitives) (now : Nat) := Relation.ReflTransGen (Trim C now)

theorem Trims.root_inner {now : Nat} (h : Trims C now db db') : db'.root.inner = db.root.inner := by
  induction h with
  | refl => rfl
  | tail _ hl ih =>
    cases hl with
    | regenerate =>
      rw [root_modifyRoot (publicKey_root _)]
      exact ih
    | cull =>
      rw [root_cullDeadNodes]
      exact ih

namespace Neighborhood

variable {m : Moment} {answers : PublicKey → Gossip → Prop} {n n' n'' : Neighborhood}
/-- A message that tells a neighbor of the trimmed database, or an answer. -/
def Said (now : Nat) (answers : PublicKey → Gossip → Prop) (C : GossipPrimitives) (db : NeighborhoodDatabase)
    (s : SentGossip) : Prop :=
  (∃ trimmed r, Trims C now db trimmed ∧ s.root = trimmed.root.inner ∧ trimmed.nodeByKey s.target = some r ∧
    gossipFor trimmed r = .ok s.gossip) ∨
  answers s.target s.gossip ∧ s.root = db.root.inner

/-- From one state to another the database is only trimmed, and every message that is sent speaks of it. -/
structure Speaks (C : GossipPrimitives) (m : Moment) (answers : PublicKey → Gossip → Prop) (db : NeighborhoodDatabase)
    (n n' : Neighborhood) : Prop where
  database : Trims C m.now db n.database → Trims C m.now db n'.database
  sent : Trims C m.now db n.database → ∃ said, n'.sent = n.sent ++ said ∧ ∀ s ∈ said, Said m.now answers C db s

theorem Speaks.of_silent (hdb : n'.database = n.database) (hs : n'.sent = n.sent) : Speaks C m answers db n n' :=
  ⟨fun h => hdb ▸ h, fun _ => ⟨[], by rw [hs, List.append_nil], by simp⟩⟩

theorem Speaks.trans (h : Speaks C m answers db n n') (h' : Speaks C m answers db n' n'') :
    Speaks C m answers db n n'' where
  database hn := h'.database (h.database hn)
  sent hn := by
    obtain ⟨said, hsa, ha⟩ := h.sent hn
    obtain ⟨said', hsa', ha'⟩ := h'.sent (h.database hn)
    refine ⟨said ++ said', by rw [hsa', hsa, List.append_assoc], fun s hs => ?_⟩
    obtain hs | hs := List.mem_append.1 hs
    · exact ha s hs
    · exact ha' s hs

theorem Speaks.tell (hr : n.database.nodeByKey t = some r)
    (h : gossipFor n.database r = .ok gossip) : Speaks C m answers db n (n.send t gossip) :=
  ⟨id, fun hn => ⟨[⟨t, gossip, n.database.root.inner⟩], rfl, fun s hs => by
    obtain rfl := List.mem_singleton.1 hs
    exact .inl ⟨n.database, r, hn, rfl, hr, h⟩⟩⟩

theorem Speaks.answer (h : answers t gossip) : Speaks C m answers db n (n.send t gossip) :=
  ⟨id, fun hn => ⟨[⟨t, gossip, n.database.root.inner⟩], rfl, fun s hs => by
    obtain rfl := List.mem_singleton.1 hs
    exact .inr ⟨h, hn.root_inner⟩⟩⟩

/-! ### Gossip to neighbors -/

theorem gossipToNeighbor_speaks (h : gossipToNeighbor m n ne = .ok n') : Speaks C m answers db n n' := by
  obtain ⟨g, after, hp, ha⟩ := produce_spec m.now n.lastDeadNodeCheck n.database ne
  simp only [gossipToNeighbor, hp, bind_eq_ok, Except.ok.injEq, exists_eq_left', pure_eq_ok] at h
  subst h
  have hpr : Speaks C m answers db n { n with database := after.1, lastDeadNodeCheck := after.2 } := by
    refine ⟨fun hn => ?_, fun _ => ⟨[], by simp, by simp⟩⟩
    obtain rfl | rfl := ha
    · exact hn
    · exact hn.tail .cull
  cases g with
  | none => exact hpr
  | some gossip =>
    obtain ⟨r, hr, hg⟩ := gossip_of_produce hp
    exact hpr.trans (.tell hr hg)

theorem gossipToEach_speaks {ne : List PublicKey} (h : ne.foldlM (gossipToNeighbor m) n = .ok n') :
    Speaks C m answers db n n' := by
  induction ne generalizing n with
  | nil =>
    cases h
    exact .of_silent rfl rfl
  | cons neighbor ne ih =>
    simp only [List.foldlM_cons, bind_eq_ok] at h
    obtain ⟨next, hn, h⟩ := h
    exact (gossipToNeighbor_speaks hn).trans (ih h)

theorem gossipToNeighbors_speaks (h : gossipToNeighbors C m n = .ok n') : Speaks C m answers db n n' := by
  have hr : Speaks C m answers db n
      { n with database := n.database.modifyRoot (regenerateSignedGossip C) } :=
    ⟨fun hn => hn.tail .regenerate, fun _ => ⟨[], by simp, by simp⟩⟩
  exact hr.trans (gossipToEach_speaks h)

/-! ### Messages -/

theorem handleResult_speaks (han : ∀ gossip key nodeAddr, re = .reply gossip key nodeAddr → answers key gossip)
    (h : handleResult C m n re = .ok n') : Speaks C m answers db n n' := by
  cases re with
  | accepted =>
    simp only [handleResult, bind_eq_ok] at h
    obtain ⟨dbCountries, -, h⟩ := h
    have hc : Speaks C m answers db n { n with preferences.dbCountries := dbCountries } := .of_silent rfl rfl
    exact hc.trans (gossipToNeighbors_speaks h)
  | reply gossip key nodeAddr =>
    have ha : ∀ n : Neighborhood, Speaks C m answers db n (n.send key gossip) :=
      fun _ => .answer (han gossip key nodeAddr rfl)
    simp only [handleResult] at h
    split_ifs at h
    · simp only [bind_eq_ok, pure_eq_ok] at h
      obtain ⟨dbCountries, -, rfl⟩ := h
      have hc : Speaks C m answers db n { n with preferences.dbCountries := dbCountries } := .of_silent rfl rfl
      exact hc.trans (ha _)
    · cases h
      exact ha n
  | failed | ban =>
    cases h
    exact .of_silent rfl rfl

theorem handleResults_speaks {re : List GossipAcceptanceResult}
    (ha : ∀ gossip key nodeAddr, .reply gossip key nodeAddr ∈ re → answers key gossip)
    (h : re.foldlM (handleResult C m) n = .ok n') : Speaks C m answers db n n' := by
  induction re generalizing n with
  | nil =>
    cases h
    exact .of_silent rfl rfl
  | cons result re ih =>
    simp only [List.foldlM_cons, bind_eq_ok] at h
    obtain ⟨next, hn, h⟩ := h
    have hf : Speaks C m answers db n next :=
      handleResult_speaks (fun gossip key nodeAddr heq => ha gossip key nodeAddr (heq ▸ List.mem_cons_self)) hn
    exact hf.trans (ih (fun gossip key nodeAddr hm =>
      ha gossip key nodeAddr (List.mem_cons_of_mem _ hm)) h)

/-- Gossip is ignored, or its signatures are valid and what is said speaks of the database that the acceptor leaves. -/
theorem gossip_speaks {gossipSource : SocketAddr} (h : n.step C m (.gossip gossip gossipSource) = .ok n') :
    n' = n ∨ anySignatureInvalid C (gossip.filterMap (accessible C)) = .ok false ∧
      ∃ handled acceptor, n.acceptor.handle C m.now n.database (gossip.filterMap (accessible C)) gossipSource
          (n.gossipMetadata m) = .ok (handled, acceptor) ∧
        Speaks C m (Composed C (gossip.filterMap (accessible C)) n.database handled.database) handled.database
          { n with database := handled.database, acceptor } n' := by
  obtain ⟨rfl, -⟩ | ⟨rfl, -⟩ | ⟨hsi, handled, acceptor, after, hh, hr, hc⟩ := handleGossip_handled h
  · exact .inl rfl
  · exact .inl rfl
  · obtain ⟨hdb, hs⟩ := (checkConnectedness_checked hc).silent
    exact .inr ⟨hsi, handled, acceptor, hh, (handleResults_speaks (handle_composed hh) hr).trans (.of_silent hdb hs)⟩

/-- A message of which nothing is done, or after which what is said speaks of the database without a neighbor. -/
def RemovalSpeaks (C : GossipPrimitives) (m : Moment) (n n' : Neighborhood) : Prop :=
  n' = n ∨ ∃ key dbChanged database, n.database.removeNeighbor key = .ok (dbChanged, database) ∧
    (dbChanged = false → n'.database = database ∧ n'.sent = n.sent) ∧
    (dbChanged = true → ∃ before, before.database = database ∧ before.sent = n.sent ∧
      gossipToNeighbors C m before = .ok n')

theorem afterRemoval_speaks {database : NeighborhoodDatabase} (h : afterRemoval C m d { n with database } = .ok n') :
    (d = false → n'.database = database ∧ n'.sent = n.sent) ∧
    (d = true → ∃ before, before.database = database ∧ before.sent = n.sent ∧
      gossipToNeighbors C m before = .ok n') := by
  unfold afterRemoval at h
  split_ifs at h with hc
  · simp only [bind_eq_ok] at h
    obtain ⟨next, hl, h⟩ := h
    obtain ⟨hdb, hs⟩ := (invalidateRouteAfterNeighborLoss_checked hl).silent
    exact ⟨fun hf => absurd hc (by simp [hf]), fun _ => ⟨next, hdb, hs, h⟩⟩
  · cases h
    exact ⟨fun _ => ⟨rfl, rfl⟩, fun ht => absurd ht hc⟩

theorem removeNeighborMessage_speaks (h : n.removeNeighborMessage C m p = .ok n') : RemovalSpeaks C m n n' := by
  unfold removeNeighborMessage at h
  split at h
  · cases h
    exact .inl rfl
  · next dbChanged database hr => exact .inr ⟨p, dbChanged, database, hr, afterRemoval_speaks h⟩

theorem streamShutdown_speaks (h : n.streamShutdown C m p = .ok n') : RemovalSpeaks C m n n' := by
  unfold streamShutdown at h
  split at h
  · cases h
    exact .inl rfl
  · next node _ =>
    split at h
    · cases h
    · next dbChanged database hr =>
      exact .inr ⟨node.publicKey, dbChanged, database, hr, afterRemoval_speaks h⟩

theorem sendEach_speaks (ha : ∀ target, answers target gossip) (t : List PublicKey) (n : Neighborhood) :
    Speaks C m answers db n (t.foldl (fun n target => n.send target gossip) n) := by
  induction t generalizing n with
  | nil => exact .of_silent rfl rfl
  | cons target t ih => exact (Speaks.answer (ha target)).trans (ih _)

theorem sendDebutGossip_speaks (h : n.sendDebutGossip t = .ok n') :
    Speaks C m (Composed C [] n.database n.database) n.database n n' := by
  unfold sendDebutGossip at h
  split_ifs at h
  · cases h
    exact .of_silent rfl rfl
  · simp only [bind_eq_ok, pure_eq_ok] at h
    obtain ⟨gossip, hg, rfl⟩ := h
    have hc : ∀ target, Composed C [] n.database n.database target gossip := by
      rw [produceDebut_eq_ok hg]
      exact fun _ => .debut
    exact sendEach_speaks hc t n

end Neighborhood

end MasqMobile
