import MasqMobile.Neighborhood.Acceptor

/-!
# What gossip does to the database

A gossip message changes the database by a few operations: it adds nodes from its records, updates known ones, makes a
node a neighbor of the root, publishes the root anew. `Change` lists them, with what the handlers have checked before.
Whatever handler deals with the message, the database afterwards is reached by such operations (`handle_changes`).
-/

namespace MasqMobile

open Fallible NeighborhoodDatabase GossipAcceptorReal DebutHandler IntroductionHandler StandardGossipHandler NodeRecord

/-- The address under which a record is added: its own, or the sender's for a debut that brings none. -/
def Announces (agrs : List AccessibleGossipRecord) (gossipSource : SocketAddr) (agr : AccessibleGossipRecord)
    (ipAddrOpt : Option IpAddr) : Prop :=
  ipAddrOpt = agr.ipAddrOpt ∨ agrs = [agr] ∧ agr.nodeAddrOpt = none ∧ ipAddrOpt = some gossipSource.ip

/-- Two records are signed as one: the bytes and the signature over them are the same. -/
def SameSigned (signedGossip : List UInt8) (signature : CryptData) (agr : AccessibleGossipRecord) : Prop :=
  signedGossip = agr.signedGossip ∧ signature = agr.signature

/-- The address that a record brings, as it came or cloned. -/
def AsTold (nodeAddrOpt : Option NodeAddr) (agr : AccessibleGossipRecord) : Prop :=
  nodeAddrOpt = agr.nodeAddrOpt ∨ nodeAddrOpt = agr.nodeAddrOpt.map NodeAddr.clone

/-- A node whose address is in its record or in the index. -/
def Located (db : NeighborhoodDatabase) (key : PublicKey) : Prop :=
  (∃ r, db.nodeByKey key = some r ∧ r.metadata.nodeAddrOpt ≠ none) ∨ ∃ ip, db.byIpAddr ip = some key

/-- One operation on the database, on account of a message that came when it was `before`. -/
inductive Change (C : GossipPrimitives) (now : Nat) (agrs : List AccessibleGossipRecord) (gossipSource : SocketAddr)
    (before db : NeighborhoodDatabase) : NeighborhoodDatabase → Prop
  | insert {agr : AccessibleGossipRecord} {r : NodeRecord} (hagr : agr ∈ agrs) (hinner : r.inner = agr.inner)
      (haddr : Announces agrs gossipSource agr r.ipAddrOpt) (hnew : r.publicKey ∉ db.keys)
      (hsigned : SameSigned r.signedGossip r.signature agr)
      (htold : agr.nodeAddrOpt ≠ none → AsTold r.metadata.nodeAddrOpt agr) :
      Change C now agrs gossipSource before db (db.addArbitraryNode r)
  | update {agr agr' : AccessibleGossipRecord} {old r r' : NodeRecord} (hagr : agr ∈ agrs)
      (hinner : agr'.inner = agr.inner) (haddr : agr'.ipAddrOpt = agr.ipAddrOpt)
      (hself : agr.inner.publicKey ≠ db.thisNode) (hold : before.nodeByKey agr.inner.publicKey = some old)
      (hnewer : old.version < agr.inner.version) (hr : db.nodeByKey agr.inner.publicKey = some r)
      (h : r.update now agr' = .ok r') (hsigned : SameSigned agr'.signedGossip agr'.signature agr)
      (htold : AsTold agr'.nodeAddrOpt agr) :
      Change C now agrs gossipSource before db (db.setNode r')
  | neighbor {key : PublicKey} (hkey : key ∈ db.keys) (hself : key ≠ db.thisNode) (hlocated : Located db key) :
      Change C now agrs gossipSource before db (db.modifyRoot fun root =>
        { root with
          inner.neighbors := root.inner.neighbors.orderedInsert (· ≤ ·) key
          metadata.lastUpdate := now })
  | republish : Change C now agrs gossipSource before db (db.republishRoot C)

abbrev Changes (C : GossipPrimitives) (now : Nat) (agrs : List AccessibleGossipRecord) (gossipSource : SocketAddr)
    (before : NeighborhoodDatabase) :=
  Relation.ReflTransGen (Change C now agrs gossipSource before)

/-- What a message leaves: what it tells of others is stored first, and then at most one node becomes a neighbor, for
which the root is published anew. -/
def Absorbed (C : GossipPrimitives) (now : Nat) (agrs : List AccessibleGossipRecord) (gossipSource : SocketAddr)
    (before db db' : NeighborhoodDatabase) : Prop :=
  ∃ stored, Changes C now agrs gossipSource before db stored ∧ stored.root = db.root ∧
    (db' = stored ∨ ∃ key joined, Located stored key ∧ stored.addHalfNeighbor now key = .ok (true, joined) ∧
      db' = joined.republishRoot C)

section

variable {C : GossipPrimitives} {lim : RatePackLimits} {now : Nat} {agrs : List AccessibleGossipRecord}
  {gossipSource : SocketAddr} {md : NeighborhoodMetadata} {pre db db' : NeighborhoodDatabase}
  {prefs : Option UserExitPreferences}
  {introducee introducer sourceAgr : AccessibleGossipRecord} {handled : Handled} {key : PublicKey}

variable {agr : AccessibleGossipRecord}

@[simp] theorem inner_pricedRecord : (pricedRecord now prefs agr).inner = agr.inner := by
  cases prefs <;> rfl

@[simp] theorem nodeAddrOpt_pricedRecord : (pricedRecord now prefs agr).metadata.nodeAddrOpt = agr.nodeAddrOpt := by
  cases prefs <;> rfl

theorem signed_pricedRecord :
    SameSigned (pricedRecord now prefs agr).signedGossip (pricedRecord now prefs agr).signature agr := by
  cases prefs <;> exact ⟨rfl, rfl⟩

@[simp] theorem ipAddrOpt_pricedRecord : (pricedRecord now prefs agr).ipAddrOpt = agr.ipAddrOpt := by
  simp [NodeRecord.ipAddrOpt, AccessibleGossipRecord.ipAddrOpt]

@[simp] theorem ipAddrOpt_clone : agr.clone.ipAddrOpt = agr.ipAddrOpt := by
  cases h : agr.nodeAddrOpt <;> simp [AccessibleGossipRecord.clone, AccessibleGossipRecord.ipAddrOpt, h]

@[simp] theorem inner_clone : agr.clone.inner = agr.inner := rfl

theorem changes_addNode {agr' : AccessibleGossipRecord} (hag : agr ∈ agrs)
    (hin : agr'.inner = agr.inner) (ha : Announces agrs gossipSource agr agr'.ipAddrOpt)
    (hs : SameSigned agr'.signedGossip agr'.signature agr)
    (ht : agr.nodeAddrOpt ≠ none → AsTold agr'.nodeAddrOpt agr)
    (h : db.addNode (pricedRecord now prefs agr') = .ok (key, db')) :
    Changes C now agrs gossipSource pre db db' ∧ key = agr.inner.publicKey ∧ db'.root = db.root ∧
      db'.nodeByKey key = some (pricedRecord now prefs agr') := by
  obtain ⟨-, hn, heq⟩ := addNode_eq_ok_iff.1 h
  obtain ⟨rfl, rfl⟩ := Prod.mk.inj heq
  have hk : (pricedRecord now prefs agr').publicKey = agr.inner.publicKey := by
    simp [publicKey, hin]
  have hsa : SameSigned (pricedRecord now prefs agr').signedGossip (pricedRecord now prefs agr').signature agr :=
    ⟨signed_pricedRecord.1.trans hs.1, signed_pricedRecord.2.trans hs.2⟩
  have hr := root_addArbitraryNode fun heq => hn (heq ▸ thisNode_mem_keys db)
  refine ⟨.single (.insert hag (by simp [hin]) (by simpa using ha) hn hsa (by simpa using ht)), hk, hr, ?_⟩
  rw [nodeByKey_addArbitraryNode, if_pos rfl]

theorem Located.of_priced (hs : agr.nodeAddrOpt ≠ none)
    (h : db.nodeByKey key = some (pricedRecord now prefs agr)) : Located db key :=
  .inl ⟨_, h, by simpa using hs⟩

theorem Absorbed.refl (db : NeighborhoodDatabase) : Absorbed C now agrs gossipSource pre db db :=
    ⟨db, .refl, rfl, .inl rfl⟩

theorem Absorbed.changes (h : Absorbed C now agrs gossipSource pre db db') :
    Changes C now agrs gossipSource pre db db' := by
  obtain ⟨st, hst, -, rfl | ⟨key, joined, hl, hj, rfl⟩⟩ := h
  · exact hst
  · obtain ⟨hk, ⟨-, heq⟩ | ⟨-, hs, heq⟩⟩ := addHalfNeighbor_eq_ok_iff.1 hj
    · cases heq
    · rw [(Prod.mk.inj heq).2]
      exact (hst.tail (.neighbor hk hs hl)).tail .republish

/-! ## Debut -/

variable {re : GossipAcceptanceResult}

/-- A debut that is accepted adds a node, which becomes a neighbor before it is answered. -/
theorem tryAcceptDebut_cases (h : tryAcceptDebut C now db sourceAgr na gossipSource prefs = .ok (some (re, db'))) :
    ∃ key added joined, db.addNode (pricedRecord now prefs sourceAgr.clone) = .ok (key, added) ∧
      added.addHalfNeighbor now key = .ok (true, joined) ∧ db' = joined.republishRoot C ∧
      answerDebut C db' sourceAgr na gossipSource = .ok re := by
  unfold tryAcceptDebut at h
  split_ifs at h
  · cases h
  · split at h
    · cases h
    · next key added ha =>
      split at h
      · cases h
      · cases h
      · cases h
      · next joined hj =>
        simp only [bind_eq_ok, pure_eq_ok] at h
        obtain ⟨_, hr, heq⟩ := h
        obtain ⟨rfl, rfl⟩ := Prod.mk.inj (Option.some.inj heq)
        exact ⟨key, added, joined, ha, hj, rfl, hr⟩

/-- A debut is refused, passed on to a neighbor, accepted, or fails. -/
theorem debut_cases {rest : List AccessibleGossipRecord}
    (h : DebutHandler.handle C lim now db (agr :: rest) gossipSource md = .ok handled) :
    let nodeAddr := agr.nodeAddrOpt.getD (.ofSocketAddr gossipSource)
    let sourceAgr := { agr with nodeAddrOpt := some nodeAddr }
    (validateIncomingAgr lim "Debut" sourceAgr ≠ .ok () ∧ ∃ malefactor, handled = ⟨[.ban malefactor], db, []⟩) ∨
    (∃ key gossip, (findMoreAppropriateNeighbor db sourceAgr = some key ∨
        findLeastConnectedHalfNeighborExcluding db sourceAgr = some key) ∧
      makePassGossip db key = .ok gossip ∧
      handled = ⟨[.reply gossip agr.inner.publicKey nodeAddr.clone], db, []⟩) ∨
    (∃ result accepted, tryAcceptDebut C now db sourceAgr nodeAddr gossipSource
        md.userExitPreferencesOpt = .ok (some (result, accepted)) ∧ handled = ⟨[result], accepted, []⟩) ∨
    ∃ failure key nodeAddr, handled = ⟨[.failed failure key nodeAddr], db, []⟩ := by
  unfold DebutHandler.handle at h
  simp only at h
  split at h
  · next hv =>
    cases h
    exact .inl ⟨by simp [hv], _, rfl⟩
  · split at h
    · next key hk =>
      simp only [bind_eq_ok, pure_eq_ok] at h
      obtain ⟨gossip, hg, rfl⟩ := h
      exact .inr (.inl ⟨key, gossip, .inl hk, hg, rfl⟩)
    · simp only [bind_eq_ok] at h
      obtain ⟨t, ht, h⟩ := h
      split at h
      · next result accepted =>
        cases h
        exact .inr (.inr (.inl ⟨result, accepted, ht, rfl⟩))
      · split at h
        · cases h
          exact .inr (.inr (.inr ⟨_, _, _, rfl⟩))
        · next key hk =>
          simp only [bind_eq_ok, pure_eq_ok] at h
          obtain ⟨gossip, hg, rfl⟩ := h
          exact .inr (.inl ⟨key, gossip, .inr hk, hg, rfl⟩)

theorem tryAcceptDebut_absorbed (hagr : agr ∈ agrs) (hin : sourceAgr.inner = agr.inner)
    (ha : Announces agrs gossipSource agr sourceAgr.ipAddrOpt)
    (hsi : SameSigned sourceAgr.signedGossip sourceAgr.signature agr) (hs : sourceAgr.nodeAddrOpt ≠ none)
    (ht : agr.nodeAddrOpt ≠ none → sourceAgr.nodeAddrOpt = agr.nodeAddrOpt)
    (h : tryAcceptDebut C now db sourceAgr na gossipSource prefs =
      .ok (some (re, db'))) : Absorbed C now agrs gossipSource pre db db' := by
  obtain ⟨key, added, joined, had, hj, rfl, -⟩ := tryAcceptDebut_cases h
  have hc : agr.nodeAddrOpt ≠ none → AsTold sourceAgr.clone.nodeAddrOpt agr := by
    intro hag
    exact .inr (by rw [← ht hag]; rfl)
  obtain ⟨hins, -, hr, hst⟩ : Changes C now agrs gossipSource pre db added ∧ _ :=
    changes_addNode hagr (by simpa using hin) (by simpa using ha) (by exact hsi) hc had
  have hl : Located added key := .of_priced (by simpa [AccessibleGossipRecord.clone] using hs) hst
  exact ⟨added, hins, hr, .inr ⟨key, _, hl, hj, rfl⟩⟩

theorem debut_absorbed (ho : ∃ agr, agrs = [agr])
    (h : DebutHandler.handle C lim now db agrs gossipSource md = .ok handled) :
    Absorbed C now agrs gossipSource db db handled.database := by
  obtain ⟨agr, rfl⟩ := ho
  obtain ⟨-, _, rfl⟩ | ⟨_, _, -, -, rfl⟩ | ⟨result, accepted, ht, rfl⟩ | ⟨_, _, _, rfl⟩ := debut_cases h
  · exact .refl db
  · exact .refl db
  · refine tryAcceptDebut_absorbed List.mem_cons_self (by rfl) ?_ (by exact ⟨rfl, rfl⟩) (by simp) ?_ ht
    · cases ha : agr.nodeAddrOpt with
      | none => exact .inr ⟨rfl, ha, by simp [AccessibleGossipRecord.ipAddrOpt, NodeAddr.ofSocketAddr]⟩
      | some nodeAddr => exact .inl (by simp [AccessibleGossipRecord.ipAddrOpt, ha])
    · intro hs
      obtain ⟨nodeAddr, ha⟩ := Option.ne_none_iff_exists'.1 hs
      simp [ha]
  · exact .refl db

/-! ## Pass -/

/-- A pass leaves the database alone and is answered by a debut, or not at all. -/
theorem pass_spec {p : IpAddr → Option Nat} {re : Handled × (IpAddr → Option Nat)}
    (h : PassHandler.handle now db agrs gossipSource md p = .ok re) :
    re.1.database = db ∧ (re.1.results = [] ∨ ∃ gossip key nodeAddr,
      GossipProducerReal.produceDebut db = .ok gossip ∧ re.1.results = [.reply gossip key nodeAddr]) := by
  unfold PassHandler.handle at h
  split at h
  · simp only at h
    split at h
    all_goals
      split_ifs at h
      · cases h
        exact ⟨rfl, .inl rfl⟩
      · simp only [bind_eq_ok, pure_eq_ok] at h
        obtain ⟨_, ⟨gossip, hg, rfl⟩, rfl⟩ := h
        exact ⟨rfl, .inr ⟨gossip, _, _, hg, rfl⟩⟩
  · cases h

/-! ## Introduction -/

variable {re : Except NodeRecord.UpdateError Bool × NeighborhoodDatabase}

theorem becomeNeighbors_absorbed (hs : Changes C now agrs gossipSource pre db st) (hr : st.root = db.root)
    (hl : Located st key)
    (h : becomeNeighbors C now key st = .ok re) :
    Absorbed C now agrs gossipSource pre db re.2 := by
  unfold becomeNeighbors at h
  split at h
  · cases h
  · next hh =>
    cases h
    exact ⟨st, hs, hr, .inr ⟨key, _, hl, hh, rfl⟩⟩
  · next hh =>
    cases h
    obtain ⟨-, ⟨-, heq⟩ | ⟨-, -, heq⟩⟩ := addHalfNeighbor_eq_ok_iff.1 hh
    · exact ⟨st, hs, hr, .inl (Prod.mk.inj heq).2⟩
    · cases heq

theorem nodeAddrOpt_update_ne_none {r r' : NodeRecord} (hs : agr.nodeAddrOpt ≠ none)
    (h : r.update now agr = .ok r') : r'.metadata.nodeAddrOpt ≠ none := by
  obtain ⟨-, -, nodeAddrOpt, ha, rfl⟩ := update_eq_ok_iff.1 h
  obtain ⟨nodeAddr, hn⟩ := Option.ne_none_iff_exists'.1 hs
  rw [hn] at ha
  cases hk : r.metadata.nodeAddrOpt with
  | none =>
    rw [hk] at ha
    cases ha
    simp
  | some known =>
    rw [hk, updatedAddr] at ha
    split_ifs at ha
    cases ha
    simp

theorem updateDatabase_absorbed (ha : introducer ∈ agrs)
    (hs : introducer.inner.publicKey ≠ db.thisNode) (hso : introducer.nodeAddrOpt ≠ none)
    (h : updateDatabase C now db introducer.clone prefs = .ok re) :
    Absorbed C now agrs gossipSource db db re.2 := by
  have hc : introducer.clone.nodeAddrOpt ≠ none := by simpa [AccessibleGossipRecord.clone] using hso
  unfold updateDatabase at h
  split at h
  · next existing he =>
    split_ifs at h with hn
    · split at h
      · cases h
        exact .refl db
      · next updated hu =>
        have hup : Change C now agrs gossipSource db db (db.setNode updated) :=
          .update ha inner_clone ipAddrOpt_clone hs he hn he hu ⟨rfl, rfl⟩ (.inr rfl)
        have hk : updated.publicKey = introducer.clone.inner.publicKey := by
          rw [publicKey_update hu, publicKey_of_nodeByKey he]
        have hl : Located (db.setNode updated) introducer.clone.inner.publicKey :=
          .inl ⟨updated, by rw [nodeByKey_setNode, if_pos hk], nodeAddrOpt_update_ne_none hc hu⟩
        exact becomeNeighbors_absorbed (.single hup) (by rw [root_setNode, if_neg (hk ▸ hs)]) hl h
    · cases h
      exact .refl db
  · split at h
    · cases h
    · next key added had =>
      obtain ⟨hin, hk, hr, hst⟩ : Changes C now agrs gossipSource db db added ∧ _ :=
        changes_addNode ha inner_clone (.inl ipAddrOpt_clone) ⟨rfl, rfl⟩
          (fun _ => .inr rfl) had
      exact becomeNeighbors_absorbed hin hr (.of_priced hc (hk ▸ hst)) h

structure IsIntroduction (agrs : List AccessibleGossipRecord) (gossipSource : SocketAddr) (db : NeighborhoodDatabase)
    (introducer introducee : AccessibleGossipRecord) : Prop where
  players : agrs = [introducer, introducee] ∨ agrs = [introducee, introducer]
  introducerIp : introducer.ipAddrOpt = some gossipSource.ip
  introducerKey : introducer.inner.publicKey ≠ db.thisNode
  introducerPorts : ∀ nodeAddr ∈ introducer.nodeAddrOpt, nodeAddr.ports ≠ []
  introducee : ∃ nodeAddr, introducee.nodeAddrOpt = some nodeAddr ∧ nodeAddr.ports ≠ [] ∧
    nodeAddr.ipAddr ≠ gossipSource.ip

theorem introduction_qualified (h : IntroductionHandler.qualifies db agrs gossipSource = .matched) :
    ∃ first se introducer introducee, agrs = [first, se] ∧
      identifyPlayers first se gossipSource = .ok (introducer, introducee) ∧
      IsIntroduction agrs gossipSource db introducer introducee := by
  unfold IntroductionHandler.qualifies at h
  split at h
  · next first se =>
    split at h
    · next qualification hp =>
      -- players that cannot be told apart are never a match
      subst h
      unfold identifyPlayers at hp
      split at hp
      · split_ifs at hp
        cases hp
      · cases hp
    · next introducer introducee hp =>
      refine ⟨first, se, introducer, introducee, rfl, hp, ?_⟩
      have hsi : ([first, se] = [introducer, introducee] ∨ [first, se] = [introducee, introducer]) ∧
          introducer.ipAddrOpt = some gossipSource.ip := by
        unfold identifyPlayers at hp
        split at hp
        · next firstIp secondIp hfs hsn =>
          split_ifs at hp with hf hs
          · cases hp
            exact ⟨.inl rfl, by rw [hfs, hf]⟩
          · cases hp
            exact ⟨.inr rfl, by rw [hsn, hs]⟩
        · cases hp
      split at h
      · next introducerAddr introduceeAddr hin hint =>
        have hn : (verifyIntroducer gossipSource introducer introducerAddr db.root).or
            ((verifyIntroducee introducer introduceeAddr gossipSource).or
              (verifyBoth db introducer introducee)) = none := by
          cases hor : (verifyIntroducer gossipSource introducer introducerAddr db.root).or
            ((verifyIntroducee introducer introduceeAddr gossipSource).or
              (verifyBoth db introducer introducee)) with
          | none => rfl
          | some qualification =>
            rw [hor, Option.getD_some] at h
            subst h
            simp only [verifyIntroducer, verifyIntroducee, verifyBoth] at hor
            split_ifs at hor <;> simp at hor
        obtain ⟨hfs, hr⟩ := Option.or_eq_none_iff.1 hn
        obtain ⟨hsn, -⟩ := Option.or_eq_none_iff.1 hr
        simp only [verifyIntroducer] at hfs
        simp only [verifyIntroducee] at hsn
        split_ifs at hfs with hk hpo hip
        split_ifs at hsn with hpo' hip'
        refine ⟨hsi.1, hsi.2, by simpa using hk, ?_, introduceeAddr, hint, hpo', hip'⟩
        intro nodeAddr hno
        obtain rfl : introducerAddr = nodeAddr := Option.some.inj (hin.symm.trans hno)
        exact hpo
      · cases h
  · cases h

/-- An introduction is ignored, or the introducer is brought up to date and the introducee answered, unless one of them
is banned. -/
theorem introduction_cases {first second : AccessibleGossipRecord}
    (hp : identifyPlayers first second gossipSource = .ok (introducer, introducee))
    (h : IntroductionHandler.handle C lim now db [first, second] gossipSource md = .ok handled) :
    handled = ⟨[], db, []⟩ ∨ ∃ banOpt updated, updateIntroducerIfAppropriate C now db introducer
        md.userExitPreferencesOpt (banReasonOpt (validateIncomingAgr lim "Introducer" introducer)) =
          .ok (banOpt, updated, handled.database) ∧
      (∀ malefactor, .ban malefactor ∈ handled.results → banOpt ≠ none ∨
        banReasonOpt (validateIncomingAgr lim "Introducee" introducee) ≠ none) ∧
      ∀ gossip key nodeAddr, .reply gossip key nodeAddr ∈ handled.results →
        makeDebutTriple handled.database introducee = .ok (some (gossip, key, nodeAddr)) := by
  unfold IntroductionHandler.handle at h
  split_ifs at h
  · cases h
    exact .inl rfl
  · simp only [hp, bind_eq_ok] at h
    obtain ⟨⟨banOpt, updated, stored⟩, hs, h⟩ := h
    refine .inr ⟨banOpt, updated, ?_⟩
    cases banOpt with
    | some ban =>
      cases h
      exact ⟨hs, by simp, by simp⟩
    | none =>
      cases hb : banReasonOpt (validateIncomingAgr lim "Introducee" introducee) with
      | some ban =>
        simp only [hb] at h
        cases h
        exact ⟨hs, by simp, by simp⟩
      | none =>
        simp only [hb, Option.isSome_none, Bool.false_eq_true, if_false, bind_eq_ok] at h
        obtain ⟨d, hd, h⟩ := h
        cases d with
        | none => cases h
        | some debut =>
          cases h
          refine ⟨hs, by simp, fun gossip key nodeAddr hr => ?_⟩
          obtain ⟨rfl, rfl, rfl⟩ : gossip = debut.1 ∧ key = debut.2.1 ∧ nodeAddr = debut.2.2 := by simpa using hr
          exact hd

theorem introduction_absorbed (hq : IntroductionHandler.qualifies db agrs gossipSource = .matched)
    (h : IntroductionHandler.handle C lim now db agrs gossipSource md = .ok handled) :
    Absorbed C now agrs gossipSource db db handled.database := by
  obtain ⟨first, second, introducer, introducee, rfl, hp, hin⟩ := introduction_qualified hq
  have ha : introducer ∈ [first, second] := by
    obtain heq | heq := hin.players <;> rw [heq] <;> simp
  obtain rfl | ⟨banOpt, updated, hs, -, -⟩ := introduction_cases hp h
  · exact .refl db
  · unfold updateIntroducerIfAppropriate at hs
    split at hs
    · obtain ⟨-, -, heq⟩ : _ ∧ _ ∧ db = handled.database := by simpa using hs
      exact heq ▸ .refl db
    · simp only [bind_eq_ok] at hs
      obtain ⟨⟨o, updatedDb⟩, hu, hs⟩ := hs
      have hup : Absorbed C now [first, second] gossipSource db db updatedDb :=
        updateDatabase_absorbed ha hin.introducerKey (NodeAddr.ne_none_of_ip hin.introducerIp) hu
      cases o <;> cases hs <;> exact hup

/-! ## Standard gossip -/

theorem Change.thisNode (h : Change C now agrs gossipSource pre db db') : db'.thisNode = db.thisNode := by
  cases h with
  | insert => simp
  | update | neighbor | republish => rfl

theorem Changes.thisNode (h : Changes C now agrs gossipSource pre db db') : db'.thisNode = db.thisNode := by
  induction h with
  | refl => rfl
  | tail _ hl ih => exact hl.thisNode.trans ih

theorem duplicates_eq_nil_iff {seen ips : List IpAddr} :
    duplicates seen ips = [] ↔ ips.Nodup ∧ ∀ ip ∈ ips, ip ∉ seen := by
  induction ips generalizing seen with
  | nil => simp [duplicates]
  | cons ip ips ih =>
    by_cases hs : ip ∈ seen
    · simp [duplicates, hs]
    · simp only [duplicates, hs, if_false, ih, List.nodup_cons, List.mem_cons, not_or]
      grind

/-- What standard gossip has been checked for. -/
theorem standard_qualified (h : StandardGossipHandler.qualifies db agrs gossipSource = .ok .matched) :
    (∀ agr ∈ agrs, agr.inner.publicKey ≠ db.thisNode) ∧ (agrs.filterMap (·.ipAddrOpt)).Nodup := by
  simp only [StandardGossipHandler.qualifies, bind_eq_ok] at h
  obtain ⟨im, -, h⟩ := h
  cases im with
  | some impostor => cases h
  | none =>
    simp only at h
    split at h
    · cases h
    · next hk =>
      split at h
      · next hd =>
        refine ⟨fun agr ha => ?_, (duplicates_eq_nil_iff.1 hd).1⟩
        simpa using List.find?_eq_none.1 hk agr ha
      · cases h

theorem addNewNodes_changes (hs : ∀ agr ∈ na, agr ∈ agrs) (h : addNewNodes now prefs na db = .ok db') :
    Changes C now agrs gossipSource pre db db' ∧ db'.root = db.root := by
  induction na generalizing db with
  | nil =>
    cases h
    exact ⟨.refl, rfl⟩
  | cons agr na ih =>
    simp only [addNewNodes, List.foldlM_cons, bind_eq_ok] at h
    obtain ⟨added, ha, h⟩ := h
    split at ha
    · cases ha
    · next key _ hn =>
      cases ha
      obtain ⟨hf, -, hr, -⟩ : Changes C now agrs gossipSource pre db added ∧ _ :=
        changes_addNode (hs agr List.mem_cons_self) rfl (.inl rfl) ⟨rfl, rfl⟩ (fun _ => .inl rfl) hn
      obtain ⟨hl, hr'⟩ := ih (fun agr' ha' => hs agr' (List.mem_cons_of_mem _ ha')) h
      exact ⟨hf.trans hl, hr'.trans hr⟩

theorem updateObsoleteNodes_changes (hsu : ∀ agr ∈ o, agr ∈ agrs)
    (hn : ∀ agr ∈ o, ∃ old, pre.nodeByKey agr.inner.publicKey = some old ∧ old.version < agr.inner.version)
    (hs : ∀ agr ∈ agrs, agr.inner.publicKey ≠ db.thisNode)
    (h : updateObsoleteNodes now o db = .ok db') :
    Changes C now agrs gossipSource pre db db' ∧ db'.root = db.root := by
  induction o generalizing db with
  | nil =>
    cases h
    exact ⟨.refl, rfl⟩
  | cons agr o ih =>
    simp only [updateObsoleteNodes, List.foldlM_cons, bind_eq_ok] at h
    obtain ⟨updatedDb, hu, h⟩ := h
    have hf : Changes C now agrs gossipSource pre db updatedDb ∧ updatedDb.root = db.root := by
      split at hu
      · cases hu
      · next existing he =>
        have ha := hsu agr List.mem_cons_self
        split at hu
        · next updated hok =>
          cases hu
          obtain ⟨old, ho, hv⟩ := hn agr List.mem_cons_self
          have hk := (publicKey_update hok).trans (publicKey_of_nodeByKey he)
          exact ⟨.single (.update ha rfl rfl (hs agr ha) ho hv he hok ⟨rfl, rfl⟩ (.inl rfl)),
            by rw [root_setNode, if_neg (hk ▸ hs agr ha)]⟩
        · cases hu
          exact ⟨.refl, rfl⟩
    obtain ⟨hl, hr⟩ := ih (fun agr' ha' => hsu agr' (List.mem_cons_of_mem _ ha'))
      (fun agr' ha' => hn agr' (List.mem_cons_of_mem _ ha')) (by rw [hf.1.thisNode]; exact hs) h
    exact ⟨hf.1.trans hl, hr.trans hf.2⟩

theorem absorbed_addSrcNodeAsHalfNeighbor (h : Changes C now agrs gossipSource pre db db') (hr : db'.root = db.root) :
    Absorbed C now agrs gossipSource pre db
      (addSrcNodeAsHalfNeighbor C now gossipSource db').2 := by
  unfold addSrcNodeAsHalfNeighbor
  split
  · exact ⟨db', h, hr, .inl rfl⟩
  · next gossipNode hn =>
    obtain ⟨key, hid, hk⟩ := Option.bind_eq_some_iff.1 hn
    split_ifs
    · exact ⟨db', h, hr, .inl rfl⟩
    · split
      · next hh =>
        have hl : Located db' gossipNode.publicKey := .inr ⟨_, publicKey_of_nodeByKey hk ▸ hid⟩
        exact ⟨db', h, hr, .inr ⟨_, _, hl, hh, rfl⟩⟩
      · exact ⟨db', h, hr, .inl rfl⟩

theorem mem_of_worthy {p : List PublicKey} (h : agr ∈ (extractMalefactors lim db sourceAgr gossipSource
      (agrs.filter fun agr => agr.inner.publicKey ∈ p)).1) : agr ∈ agrs :=
  List.mem_of_mem_filter (List.mem_of_mem_filter (List.mem_of_mem_filter h))

theorem standard_absorbed (hq : StandardGossipHandler.qualifies db agrs gossipSource = .ok .matched)
    (h : StandardGossipHandler.handle C lim now db agrs gossipSource md = .ok handled) :
    Absorbed C now agrs gossipSource db db handled.database := by
  obtain ⟨hs, -⟩ := standard_qualified hq
  unfold StandardGossipHandler.handle at h
  simp only at h
  split at h
  · cases h
    exact .refl db
  · next sourceAgr _ =>
    simp only [bind_eq_ok] at h
    obtain ⟨added, had, updated, hu, h⟩ := h
    obtain ⟨hn, hr⟩ : Changes C now agrs gossipSource db db added ∧ _ :=
      addNewNodes_changes (fun agr ha => mem_of_worthy (List.mem_of_mem_filter ha)) had
    obtain ⟨ho, hr'⟩ : Changes C now agrs gossipSource db added updated ∧ _ := by
      refine updateObsoleteNodes_changes (fun agr ha => mem_of_worthy (List.mem_of_mem_filter ha)) ?_
        (by rw [hn.thisNode]; exact hs) hu
      intro agr ha
      simpa [Option.any_eq_true] using List.of_mem_filter ha
    have hal := absorbed_addSrcNodeAsHalfNeighbor (hn.trans ho) (hr'.trans hr)
    split_ifs at h <;> cases h <;> exact hal

/-! ## Any gossip -/

/-- What the handler that takes a message has found. -/
theorem firstQualified_spec {qualification : Qualification} {handler : GossipHandler}
    (h : firstQualified db agrs gossipSource ha = .ok (qualification, handler)) :
    qualifies db agrs gossipSource handler = .ok qualification := by
  induction ha with
  | nil => cases h
  | cons first ha ih =>
    simp only [firstQualified, bind_eq_ok] at h
    obtain ⟨found, hf, h⟩ := h
    cases found with
    | unmatched => exact ih h
    | matched | malformed =>
      cases h
      exact hf

theorem debut_qualified (h : DebutHandler.qualifies db agrs gossipSource = .matched) :
    ∃ agr, agrs = [agr] ∧ agr.inner.publicKey ∉ db.keys ∧ ∀ nodeAddr ∈ agr.nodeAddrOpt, nodeAddr.ports ≠ [] := by
  unfold DebutHandler.qualifies at h
  split at h
  · next agr =>
    split_ifs at h with hk
    refine ⟨agr, rfl, fun hm => ?_, ?_⟩
    · obtain ⟨r, hr⟩ := mem_keys_iff.1 hm
      simp [hr] at hk
    · intro nodeAddr had
      rw [Option.mem_def.1 had] at h
      cases ha : agr.inner.acceptsConnections with
      | false =>
        rw [ha] at h
        cases h
      | true =>
        simp only [ha] at h
        split_ifs at h with hp
        exact hp
  · cases h

/-- No two records of a message that is handled and changes the database bring the same address. -/
def AddressesDiffer (agrs : List AccessibleGossipRecord) : Prop := (agrs.filterMap (·.ipAddrOpt)).Nodup

theorem IsIntroduction.addressesDiffer
    (h : IsIntroduction agrs gossipSource db introducer introducee) : AddressesDiffer agrs := by
  obtain ⟨nodeAddr, ha, -, hip⟩ := h.introducee
  have hin : introducee.ipAddrOpt = some nodeAddr.ipAddr := by
    simp [AccessibleGossipRecord.ipAddrOpt, ha]
  obtain heq | heq := h.players
  · simp [AddressesDiffer, heq, h.introducerIp, hin, hip.symm]
  · simp [AddressesDiffer, heq, h.introducerIp, hin, hip]

/-- How the acceptor takes a message: as malformed, or by the handler that it qualifies for. -/
inductive Taken (C : GossipPrimitives) (now : Nat) (limits : RatePackLimits) (db : NeighborhoodDatabase)
    (agrs : List AccessibleGossipRecord) (gossipSource : SocketAddr) (metadata : NeighborhoodMetadata)
    (handled : Handled) : Qualification → GossipHandler → Prop
  | malformed {malefactor : Malefactor} {handler : GossipHandler} (h : handled = ⟨[.ban malefactor], db, []⟩) :
      Taken C now limits db agrs gossipSource metadata handled (.malformed malefactor) handler
  | debut (h : DebutHandler.handle C limits now db agrs gossipSource metadata = .ok handled) :
      Taken C now limits db agrs gossipSource metadata handled .matched .debut
  | pass {previous previous' : IpAddr → Option Nat}
      (h : PassHandler.handle now db agrs gossipSource metadata previous = .ok (handled, previous')) :
      Taken C now limits db agrs gossipSource metadata handled .matched .pass
  | introduction (h : IntroductionHandler.handle C limits now db agrs gossipSource metadata = .ok handled) :
      Taken C now limits db agrs gossipSource metadata handled .matched .introduction
  | standard (h : StandardGossipHandler.handle C limits now db agrs gossipSource metadata = .ok handled) :
      Taken C now limits db agrs gossipSource metadata handled .matched .standard

section Handle

variable {ac ac' : GossipAcceptorReal} (h : ac.handle C now db agrs gossipSource md = .ok (handled, ac'))
include h

theorem handle_taken : ac'.ratePackLimits = ac.ratePackLimits ∧ ∃ qualification handler,
      firstQualified db agrs gossipSource gossipHandlers = .ok (qualification, handler) ∧
      Taken C now ac.ratePackLimits db agrs gossipSource md handled qualification handler := by
  simp only [GossipAcceptorReal.handle, bind_eq_ok] at h
  obtain ⟨⟨q, handler⟩, hf, h⟩ := h
  cases q with
  | unmatched => cases h
  | malformed malefactor =>
    cases h
    exact ⟨rfl, _, _, hf, .malformed rfl⟩
  | matched =>
    cases handler with
    | reject => cases h
    | debut | pass | introduction | standard =>
      simp only [delegate, bind_eq_ok, pure_eq_ok] at h
      obtain ⟨_, hh, heq⟩ := h
      cases heq
      exact ⟨rfl, _, _, hf, by constructor; exact hh⟩

theorem handle_absorbed : handled.database = db ∨ AddressesDiffer agrs ∧ Absorbed C now agrs gossipSource db db handled.database := by
  obtain ⟨-, q, handler, hf, ht⟩ := handle_taken h
  have hq := firstQualified_spec hf
  cases ht with
  | malformed hh => exact .inl (by rw [hh])
  | debut hh =>
    obtain ⟨agr, rfl, -, -⟩ := debut_qualified (Except.ok.inj hq)
    refine .inr ⟨?_, debut_absorbed ⟨agr, rfl⟩ hh⟩
    cases hip : agr.ipAddrOpt <;> simp [AddressesDiffer, hip]
  | pass hh => exact .inl (pass_spec hh).1
  | introduction hh =>
    have hin := Except.ok.inj hq
    obtain ⟨_, _, _, _, -, -, hp⟩ := introduction_qualified hin
    exact .inr ⟨hp.addressesDiffer, introduction_absorbed hin hh⟩
  | standard hh => exact .inr ⟨(standard_qualified hq).2, standard_absorbed hq hh⟩

/-- **Whatever a message does to the database is a sequence of changes.** -/
theorem handle_changes : handled.database = db ∨
    AddressesDiffer agrs ∧ Changes C now agrs gossipSource db db handled.database :=
  (handle_absorbed h).imp_right fun ⟨hd, ha⟩ => ⟨hd, ha.changes⟩

end Handle

end

end MasqMobile
