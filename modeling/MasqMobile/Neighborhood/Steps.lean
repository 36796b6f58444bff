import MasqMobile.Neighborhood.Actor
import MasqMobile.Neighborhood.Changes

/-!
# What a message does to the Neighborhood

Each message has its own effect on the state. After it the actor looks for a route, lists the countries it can reach
and tells its neighbors, which culls the database from time to time. `Upkeep` lists what happens on these occasions.
One theorem for each kind of message says that the state afterwards is the effect of the message followed by upkeep.

| here | there |
| --- | --- |
| `Upkeep.countries` | `init_db_countries` (mod.rs:2323) |
| `Upkeep.route`, `Upkeep.accountant` | `search_for_a_new_route` (mod.rs:1219) |
| `Upkeep.regenerate`, `Upkeep.cull`, `Upkeep.send` | `gossip_to_neighbors` (mod.rs:1257) |
-/

namespace MasqMobile

open Fallible NeighborhoodDatabase

namespace Neighborhood

/-! ## Upkeep -/

inductive Upkeep (C : GossipPrimitives) (m : Moment) (n : Neighborhood) : Neighborhood → Prop
  | countries (dbCountries : List String) : Upkeep C m n { n with preferences.dbCountries := dbCountries }
  | route (available : Bool) : Upkeep C m n { n with topologyRouteAvailable := available }
  | accountant : Upkeep C m n { n with accountantStarted := true }
  | regenerate :
      Upkeep C m n { n with database := n.database.modifyRoot (NodeRecord.regenerateSignedGossip C) }
  | cull : Upkeep C m n { n with database := n.database.cullDeadNodes m.now, lastDeadNodeCheck := m.now }
  | send (target : PublicKey) (gossip : Gossip) : Upkeep C m n (n.send target gossip)

abbrev Upkeeps (C : GossipPrimitives) (m : Moment) := Relation.ReflTransGen (Upkeep C m)

section

variable {C : GossipPrimitives} {m : Moment} {n n' : Neighborhood}

theorem Upkeeps.invariant (Inv : Neighborhood → Prop) (hs : ∀ n n', Upkeep C m n n' → Inv n → Inv n')
    (h : Upkeeps C m n n') (hn : Inv n) : Inv n' := by
  induction h with
  | refl => exact hn
  | tail _ hl ih => exact hs _ _ hl ih

/-- A search for a route changes what is known of one, and may start the accountant. -/
def Checked (n n' : Neighborhood) : Prop := ∃ available, n' = { n with topologyRouteAvailable := available } ∨
    n' = { n with topologyRouteAvailable := available, accountantStarted := true }

theorem Checked.upkeeps (h : Checked n n') : Upkeeps C m n n' := by
  obtain ⟨available, rfl | rfl⟩ := h
  · exact .single (.route available)
  · exact .tail (.single (.route available)) .accountant

theorem Checked.silent (h : Checked n n') : n'.database = n.database ∧ n'.sent = n.sent := by
  obtain ⟨_, rfl | rfl⟩ := h <;> exact ⟨rfl, rfl⟩

theorem startAccountantIfNeeded_checked (h : startAccountantIfNeeded n = .ok n') : Checked n n' := by
  refine ⟨n.topologyRouteAvailable, ?_⟩
  unfold startAccountantIfNeeded at h
  split_ifs at h
  · cases h
    exact .inl rfl
  · split at h
    · cases h
    · cases h
    · cases h
      exact .inr rfl

theorem searchForANewRoute_checked (h : searchForANewRoute m n = .ok n') : Checked n n' := by
  simp only [searchForANewRoute, bind_eq_ok] at h
  obtain ⟨exists_, -, h⟩ := h
  split_ifs at h
  · obtain ⟨available, ha⟩ := startAccountantIfNeeded_checked h
    exact ⟨available, ha⟩
  · cases h
    exact ⟨false, .inl rfl⟩

theorem checkConnectedness_checked (h : checkConnectedness m n = .ok n') : Checked n n' := by
  unfold checkConnectedness at h
  split_ifs at h
  · cases h
    exact ⟨n.topologyRouteAvailable, .inl rfl⟩
  · exact searchForANewRoute_checked h

theorem invalidateRouteAfterNeighborLoss_checked (h : invalidateRouteAfterNeighborLoss m n = .ok n') :
    Checked n n' := by
  simp only [invalidateRouteAfterNeighborLoss] at h
  split_ifs at h
  · obtain ⟨available, ha⟩ := checkConnectedness_checked h
    exact ⟨available, ha⟩
  · cases h
    exact ⟨false, .inl rfl⟩

/-- The gossip for each neighbor is produced from the database as the one before has left it. -/
theorem gossipToNeighbor_upkeep (h : gossipToNeighbor m n ne = .ok n') : Upkeeps C m n n' := by
  obtain ⟨g, after, hpr, ha⟩ := GossipProducerReal.produce_spec m.now n.lastDeadNodeCheck n.database ne
  simp only [gossipToNeighbor, hpr, bind_eq_ok, Except.ok.injEq, exists_eq_left', pure_eq_ok] at h
  subst h
  have hp : Upkeeps C m n { n with database := after.1, lastDeadNodeCheck := after.2 } := by
    obtain rfl | rfl := ha
    · exact .refl
    · exact .single .cull
  cases g with
  | none => exact hp
  | some gossip => exact hp.tail (.send ne gossip)

theorem gossipToNeighbors_upkeep (h : gossipToNeighbors C m n = .ok n') : Upkeeps C m n n' := by
  refine .head .regenerate ?_
  simp only [gossipToNeighbors] at h
  generalize n.database.modifyRoot (NodeRecord.regenerateSignedGossip C) = database at h
  generalize database.root.inner.neighbors = neighbors at h
  generalize { n with database } = n at h
  induction neighbors generalizing n with
  | nil =>
    cases h
    exact .refl
  | cons neighbor neighbors ih =>
    simp only [List.foldlM_cons, bind_eq_ok] at h
    obtain ⟨next, hn, h⟩ := h
    exact (gossipToNeighbor_upkeep hn).trans (ih next h)

theorem handleResult_upkeep (h : handleResult C m n re = .ok n') : Upkeeps C m n n' := by
  cases re with
  | accepted =>
    simp only [handleResult, bind_eq_ok] at h
    obtain ⟨dbCountries, -, h⟩ := h
    exact .head (.countries dbCountries) (gossipToNeighbors_upkeep h)
  | reply gossip key nodeAddr =>
    simp only [handleResult] at h
    split_ifs at h
    · simp only [bind_eq_ok, pure_eq_ok] at h
      obtain ⟨dbCountries, -, rfl⟩ := h
      exact .head (.countries dbCountries) (.single (.send key gossip))
    · cases h
      exact .single (.send key gossip)
  | failed | ban =>
    cases h
    exact .refl

theorem handleResults_upkeep {re : List GossipAcceptanceResult}
    (h : re.foldlM (handleResult C m) n = .ok n') : Upkeeps C m n n' := by
  induction re generalizing n with
  | nil =>
    cases h
    exact .refl
  | cons result re ih =>
    simp only [List.foldlM_cons, bind_eq_ok] at h
    obtain ⟨next, hr, h⟩ := h
    exact (handleResult_upkeep hr).trans (ih h)

/-! ## Gossip -/

theorem signatures_of_anySignatureInvalid {agrs : List AccessibleGossipRecord}
    (h : anySignatureInvalid C agrs = .ok false) :
    ∀ agr ∈ agrs, CryptDEReal.verifySignature C agr.signedGossip agr.signature agr.inner.publicKey = .ok true := by
  induction agrs with
  | nil => simp
  | cons agr agrs ih =>
    simp only [anySignatureInvalid, bind_eq_ok] at h
    obtain ⟨valid, hv, h⟩ := h
    split_ifs at h with ht
    · subst ht
      intro agr' ha'
      obtain rfl | ha' := List.mem_cons.1 ha'
      · exact hv
      · exact ih h agr' ha'
    · cases h

def gossipMetadata (m : Moment) (n : Neighborhood) : NeighborhoodMetadata :=
  ⟨m.connectionProgressPeers, n.dbPatchSize, some n.preferences⟩

/-- A message is ignored, or its signatures are valid and the acceptor handles its records. -/
theorem handleGossip_handled (h : n.handleGossip C m g gs = .ok n') :
    n' = n ∧ (g.filterMap (accessible C)).length < g.length ∨
    n' = n ∧ anySignatureInvalid C (g.filterMap (accessible C)) = .ok true ∨
    anySignatureInvalid C (g.filterMap (accessible C)) = .ok false ∧
      ∃ ha acceptor after, n.acceptor.handle C m.now n.database (g.filterMap (accessible C)) gs
          (n.gossipMetadata m) = .ok (ha, acceptor) ∧
        ha.results.foldlM (handleResult C m) { n with database := ha.database, acceptor } = .ok after ∧
        checkConnectedness m after = .ok n' := by
  simp only [handleGossip] at h
  split_ifs at h with hsh
  · cases h
    exact .inl ⟨rfl, hsh⟩
  · simp only [bind_eq_ok] at h
    obtain ⟨invalid, hs, h⟩ := h
    split_ifs at h with hin
    · cases h
      exact .inr (.inl ⟨rfl, hin ▸ hs⟩)
    · obtain rfl : invalid = false := by simpa using hin
      refine .inr (.inr ⟨hs, ?_⟩)
      simp only [handleGossipAgrs, handleAgrs, bind_eq_ok] at h
      obtain ⟨after, ⟨⟨ha, acceptor⟩, hh, hr⟩, h⟩ := h
      refine ⟨ha, acceptor, after, hh, hr, ?_⟩
      split_ifs at h
      · exact h
      · simp only [bind_eq_ok] at h
        obtain ⟨-, -, h⟩ := h
        exact h

/-- What is done about the records of a message whose signatures are valid. -/
structure GossipEffect (C : GossipPrimitives) (m : Moment) (agrs : List AccessibleGossipRecord)
    (gossipSource : SocketAddr) (n n' : Neighborhood) : Prop where
  signed : ∀ agr ∈ agrs, CryptDEReal.verifySignature C agr.signedGossip agr.signature agr.inner.publicKey = .ok true
  changed : ∃ database acceptor, (database = n.database ∨
      AddressesDiffer agrs ∧ Changes C m.now agrs gossipSource n.database n.database database) ∧
    Upkeeps C m { n with database, acceptor } n'

theorem handleGossip_effect {gs : SocketAddr} (h : n.handleGossip C m g gs = .ok n') :
    n' = n ∨ GossipEffect C m (g.filterMap (accessible C)) gs n n' := by
  obtain ⟨rfl, -⟩ | ⟨rfl, -⟩ | ⟨hs, ha, acceptor, after, hh, hr, hc⟩ := handleGossip_handled h
  · exact .inl rfl
  · exact .inl rfl
  · refine .inr ⟨signatures_of_anySignatureInvalid hs, _, acceptor, handle_changes hh, ?_⟩
    exact (handleResults_upkeep hr).trans (checkConnectedness_checked hc).upkeeps

/-! ## Other messages -/

theorem afterRemoval_upkeep (h : afterRemoval C m d n = .ok n') : Upkeeps C m n n' := by
  unfold afterRemoval at h
  split_ifs at h
  · simp only [bind_eq_ok] at h
    obtain ⟨next, hl, h⟩ := h
    exact (invalidateRouteAfterNeighborLoss_checked hl).upkeeps.trans (gossipToNeighbors_upkeep h)
  · cases h
    exact .refl

/-- A message of which nothing is done, or by which a neighbor is removed. -/
def RemovalEffect (C : GossipPrimitives) (m : Moment) (n n' : Neighborhood) : Prop :=
  n' = n ∨ ∃ key dbChanged database, n.database.removeNeighbor key = .ok (dbChanged, database) ∧
    Upkeeps C m { n with database } n'

theorem removeNeighborMessage_effect (h : n.removeNeighborMessage C m p = .ok n') : RemovalEffect C m n n' := by
  unfold removeNeighborMessage at h
  split at h
  · cases h
    exact .inl rfl
  · next dbChanged database hr => exact .inr ⟨p, dbChanged, database, hr, afterRemoval_upkeep h⟩

theorem streamShutdown_effect (h : n.streamShutdown C m p = .ok n') : RemovalEffect C m n n' := by
  unfold streamShutdown at h
  split at h
  · cases h
    exact .inl rfl
  · next node _ =>
    split at h
    · cases h
    · next dbChanged database hr =>
      exact .inr ⟨node.publicKey, dbChanged, database, hr, afterRemoval_upkeep h⟩

theorem sendEach_upkeep (g : Gossip) (t : List PublicKey) (n : Neighborhood) :
    Upkeeps C m n (t.foldl (fun n target => n.send target g) n) := by
  induction t generalizing n with
  | nil => exact .refl
  | cons target t ih => exact .head (.send target g) (ih (n.send target g))

theorem sendDebutGossip_upkeep (h : n.sendDebutGossip t = .ok n') : Upkeeps C m n n' := by
  unfold sendDebutGossip at h
  split_ifs at h
  · cases h
    exact .refl
  · simp only [bind_eq_ok, pure_eq_ok] at h
    obtain ⟨gossip, -, rfl⟩ := h
    exact sendEach_upkeep gossip t n

theorem exitLocationMessage_effect (h : n.exitLocationMessage m re = .ok n') :
    ∃ dbCountries, n' = { n with preferences := requestedPreferences re dbCountries n.preferences } ∨
      n' = setCountryUndesirabilityAndExitCountries re.exitLocations
        { n with preferences := requestedPreferences re dbCountries n.preferences } := by
  simp only [exitLocationMessage, bind_eq_ok] at h
  obtain ⟨dbCountries, -, h⟩ := h
  refine ⟨dbCountries, ?_⟩
  split_ifs at h
  · cases h
    exact .inr rfl
  · cases h
    exact .inl rfl

theorem updateMinHops_effect {nmh : Hops} (h : n.updateMinHops m nmh = .ok n') : ∃ dbCountries, Upkeeps C m
      (synchronizeLocations { n with
        minHops := nmh
        dbPatchSize := calculateDbPatchSize nmh
        topologyRouteAvailable := false
        preferences.dbCountries := dbCountries }) n' := by
  simp only [updateMinHops, bind_eq_ok] at h
  obtain ⟨dbCountries, -, h⟩ := h
  exact ⟨dbCountries, (searchForANewRoute_checked h).upkeeps⟩

/-! ## Settings -/

/-- The nodes may be priced anew. -/
inductive Priced (db : NeighborhoodDatabase) : NeighborhoodDatabase → Prop
  | refl : Priced db db
  | map {f : NodeRecord → NodeRecord} (hk : ∀ r, (f r).publicKey = r.publicKey)
      (hf : ∀ r, (f r).inner = r.inner ∧ (f r).signedGossip = r.signedGossip ∧ (f r).signature = r.signature ∧
        (f r).metadata.nodeAddrOpt = r.metadata.nodeAddrOpt) : Priced db (db.mapNodes f hk)

/-- What new settings of exits and hops leave alone. -/
structure Adjusts (n n' : Neighborhood) : Prop where
  database : Priced n.database n'.database
  acceptor : n'.acceptor = n.acceptor
  sent : n'.sent = n.sent

theorem setCountryUndesirability_adjusts (l : List ExitLocation) (n : Neighborhood) :
    Adjusts n (setCountryUndesirabilityAndExitCountries l n) := by
  unfold setCountryUndesirabilityAndExitCountries
  split_ifs
  · exact ⟨.map _ fun _ => ⟨rfl, rfl, rfl, rfl⟩, rfl, rfl⟩
  · exact ⟨.map _ fun _ => ⟨rfl, rfl, rfl, rfl⟩, rfl, rfl⟩

theorem exitLocationMessage_adjusts (h : n.exitLocationMessage m re = .ok n') : Adjusts n n' := by
  obtain ⟨_, rfl | rfl⟩ := exitLocationMessage_effect h
  · exact ⟨.refl, rfl, rfl⟩
  · obtain ⟨hd, ha, hs⟩ := setCountryUndesirability_adjusts re.exitLocations _
    exact ⟨hd, ha, hs⟩

theorem synchronizeLocations_adjusts (n : Neighborhood) : Adjusts n (synchronizeLocations n) := by
  unfold synchronizeLocations
  split
  · exact ⟨.refl, rfl, rfl⟩
  · next locations _ =>
    obtain ⟨hd, ha, hs⟩ := setCountryUndesirability_adjusts locations _
    exact ⟨hd, ha, hs⟩

theorem updateMinHops_adjusts {nmh : Hops} (h : n.updateMinHops m nmh = .ok n') : Adjusts n n' := by
  simp only [updateMinHops, bind_eq_ok] at h
  obtain ⟨dbCountries, -, h⟩ := h
  obtain ⟨hd, ha, hs⟩ := synchronizeLocations_adjusts { n with
    minHops := nmh, dbPatchSize := calculateDbPatchSize nmh, topologyRouteAvailable := false,
    preferences.dbCountries := dbCountries }
  obtain ⟨_, rfl | rfl⟩ := searchForANewRoute_checked h
  · exact ⟨hd, ha, hs⟩
  · exact ⟨hd, ha, hs⟩

/-- All that a message can do. -/
inductive StepEffect (C : GossipPrimitives) (m : Moment) (n : Neighborhood) :
    NeighborhoodEvent → Neighborhood → Prop
  | gossip {g gs after} (h : n.handleGossip C m g gs = .ok after) : StepEffect C m n (.gossip g gs) after
  | removed {e key d db after} (hr : n.database.removeNeighbor key = .ok (d, db))
      (hu : Upkeeps C m { n with database := db } after) : StepEffect C m n e after
  | moved {newIp db} (hm : n.database.newPublicIp newIp = .ok db) : StepEffect C m n (.newPublicIp newIp)
      { n with database := db.modifyRoot fun root => { root with inner.countryCodeOpt := C.findCountry newIp } }
  | kept {e after} (hu : Upkeeps C m n after) : StepEffect C m n e after
  | adjusted {e after} (ha : Adjusts n after) : StepEffect C m n e after

theorem step_effect (h : n.step C m e = .ok n') : StepEffect C m n e n' := by
  have hr : ∀ {e}, RemovalEffect C m n n' → StepEffect C m n e n' := by
    rintro e (rfl | ⟨_, _, _, hr, hu⟩)
    · exact .kept .refl
    · exact .removed hr hu
  cases e with
  | gossip => exact .gossip h
  | removeNeighbor => exact hr (removeNeighborMessage_effect h)
  | streamShutdown => exact hr (streamShutdown_effect h)
  | newPublicIp newIp =>
    simp only [step, newPublicIpMessage, bind_eq_ok, pure_eq_ok] at h
    obtain ⟨database, hm, rfl⟩ := h
    exact .moved hm
  | debut => exact .kept (sendDebutGossip_upkeep h)
  | exitLocation => exact .adjusted (exitLocationMessage_adjusts h)
  | updateMinHops => exact .adjusted (updateMinHops_adjusts h)

end

end Neighborhood

/-! ## Runs -/

/-- As `Neighborhood::new` makes it (mod.rs:568). -/
structure Neighborhood.IsFresh (C : GossipPrimitives) (n : Neighborhood) : Prop where
  database : ∃ now mode earningWallet publicKey contractOpt,
    n.database = ofRoot (firstRecord C now mode earningWallet publicKey contractOpt)
  preferences : n.preferences = {}

/-- A run of messages that `ok` admits; a message whose handling panics ends it. -/
abbrev Neighborhood.Reaches (C : GossipPrimitives) (ok : Neighborhood → NeighborhoodEvent → Prop) :=
  Relation.ReflTransGen fun n n' => ∃ m event, ok n event ∧ Neighborhood.step C m n event = .ok n'

variable {C : GossipPrimitives} {events : List NeighborhoodEvent} {n n' : Neighborhood}
  {ok : Neighborhood → NeighborhoodEvent → Prop}

theorem Neighborhood.Reaches.invariant (Inv : Neighborhood → Prop)
    (hs : ∀ m n event n', ok n event → n.step C m event = .ok n' → Inv n → Inv n') (h : Reaches C ok n n')
    (hn : Inv n) : Inv n' := by
  induction h with
  | refl => exact hn
  | tail _ hl ih =>
    obtain ⟨m, event, hok, he⟩ := hl
    exact hs m _ event _ hok he ih

/-- A run that keeps the list of its messages. -/
inductive Neighborhood.History (C : GossipPrimitives) (ok : Neighborhood → NeighborhoodEvent → Prop)
    (n : Neighborhood) : List NeighborhoodEvent → Neighborhood → Prop
  | nil : History C ok n [] n
  | snoc {events : List NeighborhoodEvent} {m : Moment} {event : NeighborhoodEvent} {n' n'' : Neighborhood}
      (h : History C ok n events n') (hok : ok n' event) (hstep : n'.step C m event = .ok n'') :
      History C ok n (events ++ [event]) n''

/-- Messages handled one after the other at one moment. -/
def Neighborhood.run (C : GossipPrimitives) (m : Moment) (n : Neighborhood) (events : List NeighborhoodEvent) :
    Except NeighborhoodPanic Neighborhood :=
  events.foldlM (fun n event => n.step C m event) n

theorem Neighborhood.reaches_of_run (h : n.run C m events = .ok n') : Reaches C (fun _ _ => True) n n' := by
  induction events generalizing n with
  | nil =>
    cases h
    exact .refl
  | cons event events ih =>
    simp only [run, List.foldlM_cons, bind_eq_ok] at h
    obtain ⟨next, hn, h⟩ := h
    exact .head ⟨m, event, trivial, hn⟩ (ih h)

theorem Neighborhood.history_of_run (hok : ∀ n, ∀ event ∈ events, ok n event)
    (h : n.run C m events = .ok n') : History C ok n events n' := by
  induction events using List.reverseRecOn generalizing n' with
  | nil =>
    cases h
    exact .nil
  | append_singleton events event ih =>
    simp only [run, List.foldlM_append, List.foldlM_cons, List.foldlM_nil, bind_eq_ok, pure_eq_ok] at h
    obtain ⟨before, hb, _, hs, rfl⟩ := h
    have hf := ih (fun n event he => hok n event (List.mem_append_left _ he)) hb
    exact .snoc hf (hok before event (by simp)) hs

/-! ## A small network

Nodes with keys of one repeated byte. A record on the wire is that byte, the version, a country and the neighbors. -/

namespace SmallNetwork

def key (id : UInt8) : PublicKey := List.replicate 64 id

def ip (host : BitVec 32) : IpAddr := .v4 host

def countryCodeOpt (country : UInt8) : Option String :=
  if country = 0 then none else if country = 1 then some "FR" else some "CZ"

def inner (id version country : UInt8) (neighbors : List UInt8) : NodeRecordInner where
  publicKey := key id
  earningWallet := 0
  ratePack := ⟨1, 10, 2, 20⟩
  neighbors := neighbors.map key
  acceptsConnections := true
  routesData := true
  version := version.toNat
  countryCodeOpt := countryCodeOpt country
  protocolCapabilities := 0
  receiptSettlementContractOpt := none

def primitives : GossipPrimitives where
  toCbor _ := []
  fromCbor
    | id :: version :: country :: neighbors => some (inner id version country neighbors)
    | _ => none
  signDetached _ := List.replicate 64 0
  verifyDetached _ _ _ := true
  preSharedData := []
  findCountry _ := none

def record (id version country : UInt8) (neighbors : List UInt8) (nodeAddrOpt : Option NodeAddr) : GossipNodeRecord :=
  ⟨id :: version :: country :: neighbors, List.replicate 64 0, nodeAddrOpt⟩

def moment : Moment := ⟨0, asListed, 0, 0, []⟩

/-- A Node with the key 0 at the address 0 that has just been started. -/
def node : Neighborhood where
  isZeroHop := false
  acceptor := ⟨⟨⟨0, 0, 0, 0⟩, ⟨100, 100, 100, 100⟩⟩, fun _ => none⟩
  lastDeadNodeCheck := 0
  database := ofRoot (firstRecord primitives 0 (.standard ⟨ip 0, [5000]⟩ ⟨1, 10, 2, 20⟩) 0 (key 0) none)
  preferences := {}
  minHops := ⟨1, by decide, by decide⟩
  dbPatchSize := 3
  hasDbPassword := true
  consumingWalletOpt := some .secretKey
  topologyRouteAvailable := false
  accountantStarted := false
  accountant := .alive

theorem node_isFresh : node.IsFresh primitives where
  database := ⟨0, .standard ⟨ip 0, [5000]⟩ ⟨1, 10, 2, 20⟩, 0, key 0, none, rfl⟩
  preferences := rfl

def listensAt (host : BitVec 32) : Option NodeAddr := some ⟨ip host, [5000]⟩

def message (gossip : Gossip) (host : BitVec 32) : NeighborhoodEvent := .gossip gossip ⟨ip host, 5000⟩

end SmallNetwork

end MasqMobile
