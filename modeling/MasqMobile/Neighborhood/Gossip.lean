import MasqMobile.Neighborhood.Database

/-!
# Gossip messages

What a Node tells others about its database: `GossipBuilder` (gossip.rs:427) and `GossipProducerReal` of
`node/src/neighborhood/gossip_producer.rs`. A message is built record by record; the builder panics on a key that it has
already used or that the database does not hold. Producing gossip for a neighbor also culls the database once a minute.
-/

namespace MasqMobile

open Fallible NeighborhoodDatabase

/-- `Gossip_0v1`. -/
abbrev Gossip := List GossipNodeRecord

structure GossipBuilder where
  gossip : Gossip := []
  keysSoFar : List PublicKey := []

namespace GossipBuilder

/-- gossip.rs:446: an address is revealed only of a node that accepts connections. -/
def node (db : NeighborhoodDatabase) (publicKey : PublicKey) (revealNodeAddr : Bool) (b : GossipBuilder) :
    Except NeighborhoodPanic GossipBuilder :=
  if publicKey ∈ b.keysSoFar then .error (.nodeAddedTwice publicKey)
  else
    match db.nodeByKey publicKey with
    | none => .error (.nonexistentNode publicKey)
    | some r =>
      let nodeAddrOpt := if !revealNodeAddr || !r.acceptsConnections then none else r.nodeAddrOpt
      .ok { gossip := b.gossip ++ [⟨r.signedGossip, r.signature, nodeAddrOpt⟩], keysSoFar := publicKey :: b.keysSoFar }

/-- A record as it is told to others, with its address or without. -/
def quote (revealNodeAddr : Bool) (r : NodeRecord) : GossipNodeRecord :=
  ⟨r.signedGossip, r.signature, if !revealNodeAddr || !r.acceptsConnections then none else r.nodeAddrOpt⟩

variable {db : NeighborhoodDatabase} {b b' : GossipBuilder} {key : PublicKey} {reveal : Bool} {keys : List PublicKey}

theorem node_eq_ok (h : b.node db key reveal = .ok b') :
    ∃ r, db.nodeByKey key = some r ∧ b'.gossip = b.gossip ++ [quote reveal r] := by
  unfold node at h
  split_ifs at h
  split at h
  · cases h
  · next r hr =>
    cases h
    exact ⟨r, hr, rfl⟩

theorem gossip_foldlM_node (reveal : PublicKey → Bool)
    (h : keys.foldlM (fun b key => b.node db key (reveal key)) b = .ok b') :
    b'.gossip = b.gossip ++ keys.filterMap fun key => (db.nodeByKey key).map (quote (reveal key)) := by
  induction keys generalizing b with
  | nil =>
    cases h
    simp
  | cons key keys ih =>
    simp only [List.foldlM_cons, bind_eq_ok] at h
    obtain ⟨next, hn, h⟩ := h
    obtain ⟨r, hr, hg⟩ := node_eq_ok hn
    rw [ih h, hg]
    simp [hr]

theorem node_of_mem (hk : key ∈ db.keys) (hf : key ∉ b.keysSoFar) :
    ∃ b', b.node db key reveal = .ok b' ∧ b'.keysSoFar = key :: b.keysSoFar := by
  obtain ⟨r, hr⟩ := mem_keys_iff.1 hk
  simp [node, hf, hr]

theorem foldlM_node (reveal : PublicKey → Bool) (hke : ∀ key ∈ keys, key ∈ db.keys)
    (hnd : keys.Nodup) (b : GossipBuilder) (hf : ∀ key ∈ keys, key ∉ b.keysSoFar) :
    ∃ b', keys.foldlM (fun b key => b.node db key (reveal key)) b = .ok b' := by
  induction keys generalizing b with
  | nil => exact ⟨b, rfl⟩
  | cons key keys ih =>
    obtain ⟨hh, hr⟩ := List.nodup_cons.1 hnd
    obtain ⟨b', hb', hs⟩ : ∃ b', b.node db key (reveal key) = .ok b' ∧ b'.keysSoFar = key :: b.keysSoFar :=
      node_of_mem (hke key List.mem_cons_self) (hf key List.mem_cons_self)
    simp only [List.foldlM_cons, hb']
    refine ih (fun k hk => hke k (List.mem_cons_of_mem _ hk)) hr b' fun k hk => ?_
    rw [hs, List.mem_cons, not_or]
    exact ⟨fun h => hh (h ▸ hk), hf k (List.mem_cons_of_mem _ hk)⟩

end GossipBuilder

namespace GossipProducerReal

def deadNodeCheckIntervalSecs : Nat := 60

variable (db : NeighborhoodDatabase)

/-- The records of `produce`: all nodes but the target that somebody lists as a neighbor. -/
def gossipFor (target : NodeRecord) : Except NeighborhoodPanic Gossip := do
  let keys := db.keys.filter fun key => key ≠ target.publicKey ∧ key ∈ db.referencedNodeKeys
  let builder ← keys.foldlM (fun (b : GossipBuilder) key =>
    let revealNodeAddr := (db.nodeByKey key).any (·.acceptsConnections) &&
      (key = db.root.publicKey || target.hasHalfNeighbor key)
    b.node db key revealNodeAddr) {}
  return builder.gossip

/-- gossip_producer.rs:40: the gossip, if the target is known, with the database and the time of the last check for dead
nodes afterwards. -/
def produce (now lastDeadNodeCheck : Nat) (db : NeighborhoodDatabase) (target : PublicKey) :
    Except NeighborhoodPanic (Option Gossip × NeighborhoodDatabase × Nat) := do
  let (db, lastDeadNodeCheck) :=
    if deadNodeCheckIntervalSecs ≤ wrappingSub 32 now lastDeadNodeCheck then (db.cullDeadNodes now, now)
    else (db, lastDeadNodeCheck)
  match db.nodeByKey target with
  | none => return (none, db, lastDeadNodeCheck)
  | some targetNode =>
    let gossip ← gossipFor db targetNode
    return (some gossip, db, lastDeadNodeCheck)

/-- gossip_producer.rs:84 -/
def produceDebut : Except NeighborhoodPanic Gossip := do
  let builder ← GossipBuilder.node db db.root.publicKey true {}
  return builder.gossip

theorem produceDebut_eq_ok {db : NeighborhoodDatabase} (h : produceDebut db = .ok g) :
    g = [GossipBuilder.quote true db.root] := by
  simp only [produceDebut, bind_eq_ok, pure_eq_ok] at h
  obtain ⟨bu, hb, rfl⟩ := h
  obtain ⟨r, hr, hg⟩ := GossipBuilder.node_eq_ok hb
  rw [publicKey_root, nodeByKey_thisNode] at hr
  rw [hg, ← Option.some.inj hr]
  rfl

theorem gossipFor_eq_ok {db : NeighborhoodDatabase} {target : NodeRecord} (h : gossipFor db target = .ok g) :
    g = (db.keys.filter fun key => key ≠ target.publicKey ∧ key ∈ db.referencedNodeKeys).filterMap fun key =>
      (db.nodeByKey key).map (GossipBuilder.quote ((db.nodeByKey key).any (·.acceptsConnections) &&
        (key = db.root.publicKey || target.hasHalfNeighbor key))) := by
  simp only [gossipFor, bind_eq_ok, pure_eq_ok] at h
  obtain ⟨bu, hb, rfl⟩ := h
  rw [GossipBuilder.gossip_foldlM_node _ hb]
  rfl

theorem gossipFor_ok (target : NodeRecord) : ∃ gossip, gossipFor db target = .ok gossip := by
  let keys := db.keys.filter fun key => key ≠ target.publicKey ∧ key ∈ db.referencedNodeKeys
  have hk : ∀ key ∈ keys, key ∈ db.keys := fun key hke => List.mem_of_mem_filter hke
  have hnd : keys.Nodup := db.byPublicKey.nodup.filter _
  obtain ⟨b, hb⟩ := GossipBuilder.foldlM_node (fun key => (db.nodeByKey key).any (·.acceptsConnections) &&
      (key = db.root.publicKey || target.hasHalfNeighbor key)) hk hnd {} fun _ _ => by simp
  exact ⟨b.gossip, bind_eq_ok.2 ⟨b, hb, rfl⟩⟩

/-- Producing gossip never panics; it leaves the database as it was, or culls it and notes the time. -/
theorem produce_spec (now l : Nat) (db : NeighborhoodDatabase) (t : PublicKey) :
    ∃ g after, produce now l db t = .ok (g, after) ∧ (after = (db, l) ∨ after = (db.cullDeadNodes now, now)) := by
  have hp : ∀ db' last, ∃ g, (match db'.nodeByKey t with
      | none => pure (none, db', last)
      | some targetNode => do
        let gossip ← gossipFor db' targetNode
        return (some gossip, db', last) : Except NeighborhoodPanic (Option Gossip × NeighborhoodDatabase × Nat)) =
      .ok (g, db', last) := by
    intro db' last
    cases hn : db'.nodeByKey t with
    | none => exact ⟨none, rfl⟩
    | some targetNode =>
      obtain ⟨gossip, hg⟩ := gossipFor_ok db' targetNode
      simp only [hg]
      exact ⟨some gossip, rfl⟩
  unfold produce
  by_cases hd : deadNodeCheckIntervalSecs ≤ wrappingSub 32 now l
  · obtain ⟨g, hg⟩ := hp (db.cullDeadNodes now) now
    simp only [hd, if_true]
    exact ⟨g, _, hg, .inr rfl⟩
  · obtain ⟨g, hg⟩ := hp db l
    simp only [hd, if_false]
    exact ⟨g, _, hg, .inl rfl⟩

theorem gossip_of_produce {now last : Nat} {db : NeighborhoodDatabase} {gossip : Gossip}
    (h : produce now l db t = .ok (some gossip, db', last)) :
    ∃ r, db'.nodeByKey t = some r ∧ gossipFor db' r = .ok gossip := by
  simp only [produce] at h
  generalize (if deadNodeCheckIntervalSecs ≤ wrappingSub 32 now l then (db.cullDeadNodes now, now)
    else (db, l)) = checked at h
  cases hn : checked.1.nodeByKey t with
  | none =>
    simp only [hn] at h
    cases h
  | some r =>
    simp only [hn, bind_eq_ok, pure_eq_ok, Prod.mk.injEq, Option.some.injEq] at h
    obtain ⟨_, hg, rfl, rfl, -⟩ := h
    exact ⟨r, hn, hg⟩

end GossipProducerReal

end MasqMobile
