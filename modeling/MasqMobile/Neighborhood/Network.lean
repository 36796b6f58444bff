import MasqMobile.Neighborhood.Honesty
import MasqMobile.Neighborhood.Wire

/-!
# A network of honest Nodes

Nodes that all run this program and listen at fixed addresses. A message that one of them has sent to another may arrive
at any time, in any order, more than once or never. In between every Node gets messages of its own: debuts to send,
neighbors to remove, streams that are shut down, requests of its UI.

| here | there |
| --- | --- |
| `Network.deliver` | `handle_gossip` (mod.rs:909), with what another Node has handed to its Hopper |
| `Network.dropped` | the keys that `remove_neighbor` (neighborhood_database.rs:190) takes out |

What a sender reveals depends on its copy of the receiver's record (gossip_producer.rs:68), and the receiver judges it
by the neighbors that it has now (gossip_acceptor.rs:1426). The two differ when the receiver has removed a neighbor.
-/

namespace MasqMobile

open Fallible NeighborhoodDatabase GossipAcceptorReal Neighborhood

variable {ι : Type} {n : Neighborhood} {m : Moment}

/-- The Nodes, and which neighbors each has lost. The latter is not part of any Node's state. -/
structure Network (ι : Type) where
  node : ι → Neighborhood
  dropped : ι → List PublicKey

/-- A message that `sender` has sent, by its number, reaches `receiver`; or a Node gets a message of its own. -/
inductive NetworkEvent (ι : Type) where
  | deliver (sender receiver : ι) (number : Nat) (port : UInt16)
  | own (i : ι) (event : NeighborhoodEvent)

namespace Network

def neighbors (net : Network ι) (i : ι) : List PublicKey := (net.node i).database.root.inner.neighbors

/-- Whether a node is a neighbor of `i` or has been one. -/
def Ever (net : Network ι) (i : ι) (key : PublicKey) : Prop := key ∈ net.neighbors i ∨ key ∈ net.dropped i

def records (C : ι → GossipPrimitives) (j : ι) (s : SentGossip) : List AccessibleGossipRecord :=
  s.gossip.filterMap (accessible (C j))

variable [DecidableEq ι] (C : ι → GossipPrimitives) (R : Roster ι)

def become (net : Network ι) (i : ι) (n : Neighborhood) : Network ι where
  node := Function.update net.node i n
  dropped := Function.update net.dropped i
    (net.dropped i ++ (net.neighbors i).filter (· ∉ n.database.root.inner.neighbors))

/-- A message arrives; one that was not sent to the receiver does not. -/
def deliver (m : Moment) (net : Network ι) (i j : ι) (s : SentGossip) (port : UInt16) :
    Except NeighborhoodPanic (Network ι) :=
  if i ≠ j ∧ s.target = R.key j then do
    let n ← (net.node j).step (C j) m (.gossip s.gossip ⟨(R.addr i).ipAddr, port⟩)
    return net.become j n
  else .ok net

def step (m : Moment) (net : Network ι) : NetworkEvent ι → Except NeighborhoodPanic (Network ι)
  | .deliver i j number port =>
    match (net.node i).sent[number]? with
    | none => .ok net
    | some s => net.deliver C R m i j s port
  | .own i event => do
    let n ← (net.node i).step (C i) m event
    return net.become i n

/-- What a Node may get besides the messages of others: its address stays, and it is not told to forget itself. -/
def Local : NetworkEvent ι → Prop
  | .deliver .. => True
  | .own _ (.gossip ..) => False
  | .own _ (.newPublicIp _) => False
  | .own i (.removeNeighbor publicKey) => publicKey ≠ R.key i
  | .own i (.streamShutdown peerIp) => peerIp ≠ (R.addr i).ipAddr
  | .own _ _ => True

abbrev Reaches := Relation.ReflTransGen fun net net' => ∃ m event, Local R event ∧ step C R m net event = .ok net'

/-- The Nodes have just been started, with limits that allow the rate packs of all. -/
structure IsFresh (net : Network ι) : Prop where
  database : ∀ i, ∃ now earningWallet contractOpt, (net.node i).database =
    ofRoot (firstRecord (C i) now (.standard (R.addr i) (R.ratePack i)) earningWallet (R.key i) contractOpt)
  limits : ∀ i l, (net.node i).acceptor.ratePackLimits.analyze (R.ratePack l) = []
  sent : ∀ i, (net.node i).sent = []
  dropped : ∀ i, net.dropped i = []

/-- The receiver, as it is, bans nobody for a message. -/
def Peaceful (net : Network ι) (i j : ι) (s : SentGossip) : Prop :=
  ∀ m port handled acceptor, (net.node j).acceptor.handle (C j) m.now (net.node j).database (records C j s)
    ⟨(R.addr i).ipAddr, port⟩ ((net.node j).gossipMetadata m) = .ok (handled, acceptor) →
    ∀ malefactor, .ban malefactor ∉ handled.results

/-- A message gives no address of a neighbor that the receiver has lost and not taken back. -/
def SparesLost (net : Network ι) (j : ι) (s : SentGossip) : Prop :=
  ∀ agr ∈ records C j s, agr.nodeAddrOpt ≠ none → agr.inner.publicKey ∈ net.dropped j →
    agr.inner.publicKey ∈ net.neighbors j

end Network

/-! ## One Node -/

section

variable {C : ι → GossipPrimitives} {R : Roster ι} {ever ever' : ι → PublicKey → Prop} {i j : ι} {n' : Neighborhood}
variable {P : GossipPrimitives} {agrs : List AccessibleGossipRecord} {before db : NeighborhoodDatabase}

/-- A Node with a sound database that has sent honest messages only. -/
structure Behaves (C : ι → GossipPrimitives) (R : Roster ι) (ever : ι → PublicKey → Prop) (i : ι) (n : Neighborhood) :
    Prop where
  database : Sound C R ever i n.database
  sent : ∀ s ∈ n.sent, ∀ j, i ≠ j → s.target = R.key j → Honest C R ever i j (Network.records C j s)
  limits : ∀ l, n.acceptor.ratePackLimits.analyze (R.ratePack l) = []

theorem Behaves.mono (h : Behaves C R ever i n) (he : ∀ l key, ever l key → ever' l key) : Behaves C R ever' i n :=
  ⟨h.database.mono he, fun s hs j hij ht => (h.sent s hs j hij ht).mono he, h.limits⟩

/-- What is said of a sound database is honest. -/
theorem honest_of_said {now : Nat}
    (hs : Sound C R ever i db) (hw : Understand C) (hij : i ≠ j) (ht : s.target = R.key j)
    (h : Said now (Composed (C i) agrs before db) (C i) db s) : Honest C R ever i j (Network.records C j s) := by
  obtain ⟨t, r, htr, -, hr, hg⟩ | ⟨hc, -⟩ := h
  · exact honest_of_gossipFor (hs.trims htr) hw hij (ht ▸ hr) hg
  · exact honest_of_composed hs hw hij (ht ▸ hc)

/-- A Node that speaks of a sound database goes on to behave. -/
theorem Behaves.of_speaks (h : Behaves C R ever i n) (hw : Understand C)
    (hl : n'.acceptor.ratePackLimits = n.acceptor.ratePackLimits)
    (hsp : Speaks (C i) m (Composed (C i) agrs before n.database) n.database n n') : Behaves C R ever i n' where
  database := h.database.trims (hsp.database .refl)
  sent s hs j hij ht := by
    obtain ⟨said, hsa, ha⟩ := hsp.sent .refl
    rw [hsa] at hs
    obtain hs | hs := List.mem_append.1 hs
    · exact h.sent s hs j hij ht
    · exact honest_of_said h.database hw hij ht (ha s hs)
  limits := by
    rw [hl]
    exact h.limits

/-! ### The limits stay -/

theorem ratePackLimits_upkeeps (h : Upkeeps P m n n') : n'.acceptor.ratePackLimits = n.acceptor.ratePackLimits := by
  refine h.invariant (fun n' => n'.acceptor.ratePackLimits = n.acceptor.ratePackLimits) ?_ rfl
  rintro _ _ hu hs
  cases hu <;> exact hs

/-- The limits are never changed. -/
theorem ratePackLimits_step (h : n.step P m e = .ok n') : n'.acceptor.ratePackLimits = n.acceptor.ratePackLimits := by
  cases step_effect h with
  | gossip h =>
    obtain ⟨rfl, -⟩ | ⟨rfl, -⟩ | ⟨-, ha, acceptor, after, hh, hre, hc⟩ := handleGossip_handled h
    · rfl
    · rfl
    · have hu : Upkeeps P m { n with database := ha.database, acceptor } n' :=
        (handleResults_upkeep hre).trans (checkConnectedness_checked hc).upkeeps
      exact (ratePackLimits_upkeeps hu).trans (handle_taken hh).1
  | removed _ hu => rw [ratePackLimits_upkeeps hu]
  | moved => rfl
  | kept hu => exact ratePackLimits_upkeeps hu
  | adjusted ha => rw [ha.acceptor]

/-! ### Messages of others -/

/-- **An honest message leaves a Node that behaves.** -/
theorem Behaves.gossip (h : Behaves C R ever j n) (hw : Understand C)
    (hho : Honest C R ever i j (g.filterMap (accessible (C j))))
    (he : ∀ key ∈ n'.database.root.inner.neighbors, ever j key)
    (hst : n.step (C j) m (.gossip g gs) = .ok n') : Behaves C R ever j n' := by
  have hl := ratePackLimits_step hst
  obtain rfl | ⟨-, ha, acceptor, hh, hsp⟩ := gossip_speaks hst
  · exact h
  · have hn : ∀ key ∈ ha.database.root.inner.neighbors, ever j key := by
      have hs := (hsp.database .refl).root_inner
      rw [← hs]
      exact he
    have hag : ∀ agr ∈ g.filterMap (accessible (C j)), ∃ l, Credible C R ever l agr := by
      intro agr hagr
      obtain ⟨l, -, hcr⟩ := hho.records agr hagr
      exact ⟨l, hcr⟩
    have hso : Sound C R ever j ha.database := by
      obtain hs | ⟨-, hc⟩ := handle_changes hh
      · rw [show ha.database = n.database from hs]
        exact h.database
      · exact h.database.changes hag (fun agr ho => hho.addressed_of_single ho) hc hn
    have hk : acceptor.ratePackLimits = n.acceptor.ratePackLimits := (handle_taken hh).1
    have hha : Behaves C R ever j { n with database := ha.database, acceptor } :=
      ⟨hso, h.sent, fun l => by rw [show acceptor.ratePackLimits = _ from hk]; exact h.limits l⟩
    exact hha.of_speaks hw (hl.trans hk.symm) hsp

/-! ### Messages of its own -/

/-- A neighbor is removed, and the others may be told. -/
theorem Behaves.removal {key : PublicKey} {database : NeighborhoodDatabase}
    (h : Behaves C R ever i n) (hw : Understand C) (ho : key ≠ n.database.thisNode)
    (hr : n.database.removeNeighbor key = .ok (d, database))
    (ha : afterRemoval (C i) m d { n with database } = .ok n') : Behaves C R ever i n' := by
  have hso : Sound C R ever i database := h.database.removeNeighbor ho hr
  have hl : n'.acceptor.ratePackLimits = n.acceptor.ratePackLimits := by
    rw [ratePackLimits_upkeeps (afterRemoval_upkeep ha)]
  obtain ⟨hsi, ht⟩ := afterRemoval_speaks ha
  cases d with
  | false =>
    obtain ⟨hdb, hs⟩ := hsi rfl
    exact ⟨hdb ▸ hso, hs ▸ h.sent, hl ▸ h.limits⟩
  | true =>
    obtain ⟨before, hdb, hs, hg⟩ := ht rfl
    have hsa := ratePackLimits_upkeeps (gossipToNeighbors_upkeep hg)
    have hb : Behaves C R ever i before := ⟨hdb ▸ hso, hs ▸ h.sent, by rw [← hsa, hl]; exact h.limits⟩
    have hsp : Speaks (C i) m (Composed (C i) [] before.database before.database) before.database before n' :=
      gossipToNeighbors_speaks hg
    exact hb.of_speaks hw hsa hsp

theorem Behaves.adjusts (h : Behaves C R ever i n) (ha : Adjusts n n') : Behaves C R ever i n' := by
  refine ⟨?_, ha.sent ▸ h.sent, ha.acceptor ▸ h.limits⟩
  obtain ⟨hd, -, -⟩ := ha
  generalize n'.database = db' at hd
  cases hd with
  | refl => exact h.database
  | map hk hf => exact h.database.mapNodes hk (fun r => (hf r).1) (fun r => (hf r).2.1) fun r => (hf r).2.2.2

/-- The Node itself is found at its own address only. -/
theorem Sound.ip_of_root (h : Sound C R ever i db)
    (hr : db.nodeByIp ip = some r) (hro : r.publicKey = db.thisNode) : ip = (R.addr i).ipAddr := by
  obtain ⟨key, hid, hr⟩ := Option.bind_eq_some_iff.1 hr
  obtain ⟨s, hs, hip⟩ := h.index ip key hid
  obtain rfl : r = s := Option.some.inj (hr.symm.trans hs)
  obtain rfl : db.root = r := by
    rw [← publicKey_of_nodeByKey hr, hro, nodeByKey_thisNode] at hr
    exact Option.some.inj hr
  simpa [NodeRecord.ipAddrOpt, h.address] using hip.symm

/-- **A message of its own leaves a Node that behaves.** -/
theorem Behaves.own (h : Behaves C R ever i n) (hw : Understand C)
    (hl : Network.Local R (.own i e)) (hs : n.step (C i) m e = .ok n') : Behaves C R ever i n' := by
  have hli := ratePackLimits_step hs
  cases e with
  | gossip | newPublicIp => exact hl.elim
  | removeNeighbor publicKey =>
    simp only [Neighborhood.step, removeNeighborMessage] at hs
    split at hs
    · cases hs
      exact h
    · next dbChanged database hr =>
      exact h.removal hw (by rw [h.database.thisNode]; exact hl) hr hs
  | streamShutdown peerIp =>
    simp only [Neighborhood.step, Neighborhood.streamShutdown] at hs
    split at hs
    · cases hs
      exact h
    · next node hno =>
      split at hs
      · cases hs
      · next dbChanged database hr =>
        refine h.removal hw (fun heq => hl ?_) hr hs
        -- a node at another address is another node
        exact h.database.ip_of_root hno heq
  | debut targets => exact h.of_speaks hw hli (sendDebutGossip_speaks (m := m) hs)
  | exitLocation => exact h.adjusts (exitLocationMessage_adjusts hs)
  | updateMinHops => exact h.adjusts (updateMinHops_adjusts hs)

/-! ## Runs -/

theorem behaves_of_fresh {now : Nat} (hdb : n.database =
      ofRoot (firstRecord (C i) now (.standard (R.addr i) (R.ratePack i)) e (R.key i) c))
    (hs : n.sent = []) (hl : ∀ l, n.acceptor.ratePackLimits.analyze (R.ratePack l) = []) :
    Behaves C R ever i n := by
  refine ⟨?_, by simp [hs], hl⟩
  rw [hdb]
  have hg : Genuine R ever i (firstRecord (C i) now (.standard (R.addr i) (R.ratePack i)) e (R.key i) c).inner :=
    ⟨rfl, rfl, rfl, by simp [firstRecord, NodeRecord.regenerateSignedGossip]⟩
  have ha : (firstRecord (C i) now (.standard (R.addr i) (R.ratePack i)) e (R.key i)
      c).metadata.nodeAddrOpt = some (R.addr i) := congrArg some (R.clone_addr i)
  refine ⟨⟨rfl, fun key r hr => ?_, by rw [root_ofRoot]; exact ha, fun ip key hid => ?_⟩, ?_⟩
  · rw [nodeByKey_ofRoot] at hr
    split_ifs at hr
    obtain rfl := Option.some.inj hr
    exact ⟨i, hg, ⟨_, hg, rfl⟩, .inr ha⟩
  · simp only [ofRoot] at hid
    split_ifs at hid with hip
    obtain rfl := Option.some.inj hid
    exact ⟨_, by rw [nodeByKey_ofRoot, if_pos rfl], hip⟩
  · rw [root_ofRoot]
    simp [firstRecord, NodeRecord.regenerateSignedGossip]

end

namespace Network

variable [DecidableEq ι] {C : ι → GossipPrimitives} {R : Roster ι} {net net' : Network ι} {i j : ι}

theorem neighbors_become :
    (net.become i n).neighbors l = if l = i then n.database.root.inner.neighbors else net.neighbors l := by
  simp only [neighbors, become, Function.update_apply]
  split_ifs <;> rfl

/-- Who has ever been a neighbor stays one that has. -/
theorem Ever.become {key : PublicKey} (h : net.Ever l key) : (net.become i n).Ever l key := by
  unfold Ever at h ⊢
  rw [neighbors_become]
  simp only [Network.become, Function.update_apply]
  by_cases hl : l = i
  · subst hl
    rw [if_pos rfl, if_pos rfl]
    by_cases hk : key ∈ n.database.root.inner.neighbors
    · exact .inl hk
    · refine .inr (List.mem_append.2 (h.symm.imp_right fun ho => ?_))
      exact List.mem_filter.2 ⟨ho, decide_eq_true hk⟩
  · rw [if_neg hl, if_neg hl]
    exact h

def AllBehave (C : ι → GossipPrimitives) (R : Roster ι) (net : Network ι) : Prop :=
  ∀ i, Behaves C R net.Ever i (net.node i)

theorem AllBehave.become (h : AllBehave C R net) (hn : Behaves C R (net.become i n).Ever i n) :
    AllBehave C R (net.become i n) := by
  intro l
  by_cases hl : l = i
  · subst hl
    rw [show (net.become l n).node l = n from Function.update_self ..]
    exact hn
  · rw [show (net.become i n).node l = net.node l from Function.update_of_ne hl ..]
    exact (h l).mono fun _ _ => Ever.become

theorem AllBehave.step (h : AllBehave C R net) (hw : Understand C) (hl : Local R e)
    (hst : net.step C R m e = .ok net') : AllBehave C R net' := by
  have he : ∀ {i : ι} {n : Neighborhood} key, key ∈ n.database.root.inner.neighbors → (net.become i n).Ever i key := by
    intro i n key hk
    refine .inl ?_
    rw [neighbors_become, if_pos rfl]
    exact hk
  cases e with
  | deliver i j number port =>
    simp only [Network.step] at hst
    split at hst
    · cases hst
      exact h
    · next s hs =>
      simp only [Network.deliver] at hst
      split_ifs at hst with hto
      · simp only [bind_eq_ok, pure_eq_ok] at hst
        obtain ⟨n, hst, rfl⟩ := hst
        have hh := (h i).sent s (List.mem_of_getElem? hs) j hto.1 hto.2
        refine h.become (Behaves.gossip (i := i) ((h j).mono fun _ _ => Ever.become) hw ?_ he hst)
        exact hh.mono fun _ _ => Ever.become
      · cases hst
        exact h
  | own i e =>
    simp only [Network.step, bind_eq_ok, pure_eq_ok] at hst
    obtain ⟨n, hst, rfl⟩ := hst
    exact h.become (((h i).mono fun _ _ => Ever.become).own hw hl hst)

theorem Reaches.allBehave (hw : Understand C) (hf : net.IsFresh C R) (h : Reaches C R net net') :
    AllBehave C R net' := by
  induction h with
  | refl =>
    intro i
    obtain ⟨now, earningWallet, contractOpt, hdb⟩ := hf.database i
    exact behaves_of_fresh hdb (hf.sent i) (hf.limits i)
  | tail _ hl ih =>
    obtain ⟨m, event, hlo, hs⟩ := hl
    exact ih.step hw hlo hs

/-- **Honest gossip is not called malicious**, whenever it arrives, if it gives no address of a neighbor that the
receiver has lost. -/
theorem honest_gossip_not_banned (hwire : Understand C) (hfresh : net.IsFresh C R) (h : Reaches C R net net')
    (hij : i ≠ j) {s : SentGossip} (hs : s ∈ (net'.node i).sent) (htarget : s.target = R.key j)
    (hspares : SparesLost C net' j s) : Peaceful C R net' i j s := by
  have ha := h.allBehave hwire hfresh
  intro m port han acceptor hh
  refine handle_noBan ((ha i).sent s hs j hij htarget) (ha j).database hij (ha j).limits rfl ?_ hh
  intro agr hag hso he
  exact he.elim id (hspares agr hag hso)

/-! ## Four Nodes -/

open SmallNetwork

/-- Node `i` has the key `i` and listens at the host `i`. -/
def fourNodes : Roster (Fin 4) where
  key i := SmallNetwork.key (UInt8.ofNat i)
  addr i := ⟨ip (BitVec.ofNat 32 i), [5000]⟩
  ratePack _ := ⟨1, 10, 2, 20⟩
  key_injective := by decide
  ip_injective := by decide
  ports_ne_nil := by decide
  clone_addr := by decide

def wiredAll : Fin 4 → GossipPrimitives := fun _ => wired

def fourFresh : Network (Fin 4) where
  node i := { wiredNode with
      database := ofRoot (firstRecord wired 0 (.standard (fourNodes.addr i) (fourNodes.ratePack i)) 0 (fourNodes.key i)
        none) }
  dropped _ := []

theorem understand_wiredAll : Understand wiredAll := fun _ _ => wired_roundTrips

theorem fourFresh_isFresh : fourFresh.IsFresh wiredAll fourNodes where
  database i := ⟨0, 0, none, rfl⟩
  limits := by decide
  sent _ := rfl
  dropped _ := rfl

def run (net : Network (Fin 4)) (events : List (NetworkEvent (Fin 4))) : Except NeighborhoodPanic (Network (Fin 4)) :=
  events.foldlM (fun net event => net.step wiredAll fourNodes moment event) net

theorem reaches_of_run {net net' : Network (Fin 4)} (hl : ∀ event ∈ e, Local fourNodes event)
    (h : net.run e = .ok net') :
    Reaches wiredAll fourNodes net net' := by
  induction e generalizing net with
  | nil =>
    cases h
    exact .refl
  | cons event e ih =>
    simp only [run, List.foldlM_cons, bind_eq_ok] at h
    obtain ⟨next, hn, h⟩ := h
    exact .head ⟨moment, event, hl event List.mem_cons_self, hn⟩
      (ih (fun event he => hl event (List.mem_cons_of_mem _ he)) h)

/-- Node 0 debuts to node 1, node 2 to both, and node 3 to node 1. Node 0 tells node 1 of its neighbor 2, so that node 1
has a record of node 0 with the neighbor 2 and tells node 0 the address of that node. -/
def gathering : List (NetworkEvent (Fin 4)) :=
  [.own 0 (.debut [key 1]), .deliver 0 1 0 5000, .own 2 (.debut [key 0, key 1]), .deliver 2 0 0 5000,
    .deliver 1 0 0 5000, .deliver 2 1 1 5000, .own 3 (.debut [key 1]), .deliver 3 1 0 5000, .deliver 0 1 2 5000]

/-- Then node 0 removes node 2, before that message arrives. -/
def parting : List (NetworkEvent (Fin 4)) := gathering ++ [.own 0 (.removeNeighbor (key 2))]

theorem local_parting : ∀ event ∈ parting, Local fourNodes event := by
  simp only [parting, gathering, List.cons_append, List.nil_append, List.forall_mem_cons, Local, true_and]
  exact ⟨by decide, List.forall_mem_nil _⟩

instance (j : Fin 4) (net : Network (Fin 4)) (s : SentGossip) : Decidable (SparesLost wiredAll net j s) := by
  unfold SparesLost
  infer_instance

/-- The message in question, from node 1 to node 0. -/
def aboutNodeTwo (net : Network (Fin 4)) : Option SentGossip := (net.node 1).sent[3]?

/-- Before node 2 is removed, the message does no harm. -/
theorem told_neighbor_not_banned :
    ∃ net s, Reaches wiredAll fourNodes fourFresh net ∧ s ∈ (net.node 1).sent ∧ s.target = fourNodes.key 0 ∧
      (records wiredAll 0 s).length = 3 ∧ Peaceful wiredAll fourNodes net 1 0 s := by
  have ho : (fourFresh.run gathering).map (fun net => net.aboutNodeTwo.map fun s =>
      (decide (s.target = fourNodes.key 0), (records wiredAll 0 s).length, decide (SparesLost wiredAll net 0 s))) =
      .ok (some (true, 3, true)) := by
    decide +kernel
  obtain ⟨net, hru, ho⟩ := map_eq_ok_iff.1 ho
  obtain ⟨s, hs, ho⟩ := Option.map_eq_some_iff.1 ho
  simp only [Prod.mk.injEq, decide_eq_true_eq] at ho
  obtain ⟨ht, hl, hsp⟩ := ho
  have hr : Reaches wiredAll fourNodes fourFresh net :=
    reaches_of_run (fun event he => local_parting event (List.mem_append_left _ he)) hru
  have hse : s ∈ (net.node 1).sent := List.mem_of_getElem? hs
  exact ⟨net, s, hr, hse, ht, hl,
    honest_gossip_not_banned understand_wiredAll fourFresh_isFresh hr (by decide) hse ht hsp⟩

/-- Whether a result is a ban for giving away an address. -/
def isVictimBan : GossipAcceptanceResult → Bool
  | .ban malefactor => malefactor.reason = .victimIp (SmallNetwork.key 1) (ip 1) (SmallNetwork.key 2)
  | _ => false

/-- After it, node 1 is banned for the address that it was free to tell when it sent the message. -/
theorem told_neighbor_banned :
    ∃ net s, Reaches wiredAll fourNodes fourFresh net ∧ s ∈ (net.node 1).sent ∧ s.target = fourNodes.key 0 ∧
      ¬ SparesLost wiredAll net 0 s ∧ ¬ Peaceful wiredAll fourNodes net 1 0 s := by
  have ho : (fourFresh.run parting).map (fun net => net.aboutNodeTwo.map fun s =>
      (decide (s.target = fourNodes.key 0), decide (SparesLost wiredAll net 0 s),
        ((net.node 0).acceptor.handle wired moment.now (net.node 0).database (records wiredAll 0 s)
          ⟨(fourNodes.addr 1).ipAddr, 5000⟩ ((net.node 0).gossipMetadata moment)).map fun ha =>
            ha.1.results.any isVictimBan)) = .ok (some (true, false, .ok true)) := by
    decide +kernel
  obtain ⟨net, hru, ho⟩ := map_eq_ok_iff.1 ho
  obtain ⟨s, hs, ho⟩ := Option.map_eq_some_iff.1 ho
  simp only [Prod.mk.injEq, decide_eq_true_eq, decide_eq_false_iff_not] at ho
  obtain ⟨ht, hsp, hha⟩ := ho
  obtain ⟨⟨ha, acceptor⟩, hh, hb⟩ := map_eq_ok_iff.1 hha
  obtain ⟨result, hr, hb⟩ := List.any_eq_true.1 hb
  refine ⟨net, s, reaches_of_run local_parting hru, List.mem_of_getElem? hs, ht, hsp, fun hp => ?_⟩
  cases result with
  | ban malefactor => exact hp moment 5000 ha acceptor hh malefactor hr
  | accepted | reply | failed => cases hb

end Network

end MasqMobile
