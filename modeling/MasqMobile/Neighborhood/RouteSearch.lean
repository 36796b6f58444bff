import MasqMobile.Neighborhood.Routing

/-!
# The best route

What `find_best_route_segment` finds, against the paths of the neighborhood: `Qualifies` says which paths may be
routes and `routeUndesirability` what they cost. The engine is a branch and bound search over the positions of a walk
(`routingEngine_eq`), for whatever exit preferences; without a preference its goals are the qualifying paths
(`reaches_iff_qualifies`).

A source that the database does not hold makes the search panic.
-/

namespace MasqMobile

open Fallible NeighborhoodDatabase SearchTree

variable {db : NeighborhoodDatabase} {prefs : UserExitPreferences} {q : RouteQuery} {ord : NeighborOrder}
  {src : PublicKey} {minimumHops hops : Nat}

/-! ## Paths -/

/-- A node that may stand on a route after its source. -/
structure IsRelay (db : NeighborhoodDatabase) (q : RouteQuery) (node : NodeRecord) : Prop where
  routes : node.routesData = true ∨ q.direction = .back ∧ q.targetOpt = some node.publicKey
  capabilities : node.inner.protocolCapabilities &&& q.minimumProtocolCapabilities = q.minimumProtocolCapabilities
  contract : q.minimumProtocolCapabilities &&& serviceReceiptSettlementV1Capability ≠ 0 →
    ∃ contract, db.root.inner.receiptSettlementContractOpt = some contract ∧
      node.inner.receiptSettlementContractOpt = some contract

/-- A path from the source over full neighbors that repeats no node. -/
structure IsWalk (db : NeighborhoodDatabase) (q : RouteQuery) (source : PublicKey) (path : List PublicKey) : Prop where
  head : path.head? = some source
  nodup : path.Nodup
  edges : path.IsChain fun a b => db.hasFullNeighbor a b = true
  later : ∀ key ∈ path.tail, ∃ node, db.nodeByKey key = some node ∧ IsRelay db q node

structure Qualifies (db : NeighborhoodDatabase) (q : RouteQuery) (source : PublicKey) (minimumHops : Nat)
    (path : List PublicKey) : Prop extends IsWalk db q source path where
  hops : minimumHops + 1 ≤ path.length
  exact : q.targetOpt = none → path.length = minimumHops + 1
  target : ∀ key ∈ q.targetOpt, path.getLast? = some key
  apart : 2 < path.length → ∀ last ∈ path.getLast?, db.hasHalfNeighbor last source = false

def undesirabilityAlong (db : NeighborhoodDatabase) (q : RouteQuery) : Int → Nat → List PublicKey → Int
  | undesirability, _, [] => undesirability
  | undesirability, hopsRemaining, key :: keys =>
    let undesirability :=
      match db.nodeByKey key with
      | none => undesirability
      | some node => computeNewUndesirability q node undesirability (hopsRemaining - 1)
    undesirabilityAlong db q undesirability (hopsRemaining - 1) keys

def initialUndesirability (db : NeighborhoodDatabase) (q : RouteQuery) (source : PublicKey) : Int :=
  match q.direction with
  | .over => 0
  | .back => ((db.nodeByKey source).map fun node =>
      computeUndesirability node q.payloadSize .exitAndRouteResponse).getD 0

def routeUndesirability (db : NeighborhoodDatabase) (q : RouteQuery) (source : PublicKey) (minimumHops : Nat)
    (path : List PublicKey) : Int :=
  undesirabilityAlong db q (initialUndesirability db q source) minimumHops path.tail

variable {node : NodeRecord} {path : List PublicKey}

section

theorem isUsable_iff : isUsable db q node = true ↔ IsRelay db q node := by
  have hr : (node.routesData || isOrigNodeOnBackLeg node q.targetOpt q.direction) = true ↔
      node.routesData = true ∨ q.direction = .back ∧ q.targetOpt = some node.publicKey := by
    cases q.direction with
    | «over» => simp [isOrigNodeOnBackLeg]
    | back =>
      cases q.targetOpt with
      | none => simp [isOrigNodeOnBackLeg]
      | some target => simp [isOrigNodeOnBackLeg, eq_comm (a := target)]
  have hc : hasCapabilities db q node = true ↔
      node.inner.protocolCapabilities &&& q.minimumProtocolCapabilities = q.minimumProtocolCapabilities ∧
        (q.minimumProtocolCapabilities &&& serviceReceiptSettlementV1Capability ≠ 0 →
          ∃ contract, db.root.inner.receiptSettlementContractOpt = some contract ∧
            node.inner.receiptSettlementContractOpt = some contract) := by
    simp only [hasCapabilities, Bool.and_eq_true, Bool.or_eq_true, decide_eq_true_eq, Option.any_eq_true,
      Bool.not_eq_true', decide_eq_false_iff_not, not_not, imp_iff_not_or]
  unfold isUsable
  rw [Bool.and_eq_true, hr, hc]
  exact ⟨fun ⟨h1, h2, h3⟩ => ⟨h1, h2, h3⟩, fun h => ⟨h.routes, h.capabilities, h.contract⟩⟩

theorem IsWalk.exists_cons (h : IsWalk db q src path) : ∃ rest, path = src :: rest := by
  cases path with
  | nil => simpa using h.head
  | cons first rest => exact ⟨rest, by rw [Option.some.inj h.head]⟩

theorem IsWalk.mem_keys (h : IsWalk db q src path) (hs : src ∈ db.keys) (hk : key ∈ path) :
    key ∈ db.keys := by
  obtain ⟨rest, rfl⟩ := h.exists_cons
  obtain rfl | hr := List.mem_cons.1 hk
  · exact hs
  · obtain ⟨node, hn, -⟩ := h.later key hr
    exact mem_keys_iff.2 ⟨node, hn⟩

theorem IsWalk.last (h : IsWalk db q src path) (hs : src ∈ db.keys) :
    ∃ node, path.getLast? = some node.publicKey ∧ db.nodeByKey node.publicKey = some node := by
  obtain ⟨rest, rfl⟩ := h.exists_cons
  have hne := List.cons_ne_nil src rest
  obtain ⟨node, hn⟩ := mem_keys_iff.1 (h.mem_keys hs (List.getLast_mem hne))
  have hk := publicKey_of_nodeByKey hn
  exact ⟨node, by rw [List.getLast?_eq_some_getLast hne, hk], by rw [hk, hn]⟩

theorem isWalk_append {key : PublicKey} (hne : path ≠ []) :
    IsWalk db q src (path ++ [key]) ↔ IsWalk db q src path ∧ key ∉ path ∧
      (∀ last ∈ path.getLast?, db.hasFullNeighbor last key = true) ∧
      ∃ node, db.nodeByKey key = some node ∧ IsRelay db q node := by
  have hh : (path ++ [key]).head? = path.head? := by
    cases path with
    | nil => exact absurd rfl hne
    | cons => rfl
  have ht : (path ++ [key]).tail = path.tail ++ [key] := List.tail_append_of_ne_nil hne
  constructor
  · intro h
    have hnd := List.nodup_append.1 h.nodup
    have he := List.isChain_append.1 h.edges
    refine ⟨⟨hh ▸ h.head, hnd.1, he.1, ?_⟩, ?_, ?_, ?_⟩
    · intro k hk
      exact h.later k (by rw [ht]; exact List.mem_append_left _ hk)
    · intro hm
      exact hnd.2.2 key hm key (List.mem_singleton_self key) rfl
    · intro last hl
      exact he.2.2 last hl key (by simp)
    · exact h.later key (by rw [ht]; simp)
  · rintro ⟨h, hf, hed, hn⟩
    refine ⟨hh.trans h.head, ?_, ?_, ?_⟩
    · refine List.nodup_append.2 ⟨h.nodup, List.nodup_singleton key, ?_⟩
      rintro a ha b hb rfl
      exact hf (List.mem_singleton.1 hb ▸ ha)
    · refine List.isChain_append.2 ⟨h.edges, List.isChain_singleton key, ?_⟩
      intro last hl k hk
      obtain rfl : key = k := by simpa using hk
      exact hed last hl
    · intro k hk
      rw [ht, List.mem_append, List.mem_singleton] at hk
      obtain hk | rfl := hk
      · exact h.later k hk
      · exact hn

theorem hasFullNeighbor_iff (hr : db.nodeByKey r.publicKey = some r) (hn : db.nodeByKey n.publicKey = some n) :
    db.hasFullNeighbor r.publicKey n.publicKey = true ↔ n ∈ db.fullNeighbors r := by
  simp [hasFullNeighbor, NeighborhoodDatabase.hasHalfNeighbor, NodeRecord.hasHalfNeighbor, mem_fullNeighbors, hr, hn]

theorem undesirabilityAlong_append (u : Int) (hops : Nat) (keys : List PublicKey)
    (hn : db.nodeByKey node.publicKey = some node) :
    undesirabilityAlong db q u hops (keys ++ [node.publicKey]) =
      computeNewUndesirability q node (undesirabilityAlong db q u hops keys) (hops - keys.length - 1) := by
  induction keys generalizing u hops with
  | nil => simp [undesirabilityAlong, hn]
  | cons key keys ih =>
    simp only [List.cons_append, undesirabilityAlong, List.length_cons]
    rw [ih, Nat.sub_sub hops 1, Nat.add_comm 1]

end

/-! ## The engine as a search tree -/

structure Position where
  path : List PublicKey
  undesirability : Int
  hopsRemaining : Nat

def Position.segment (p : Position) : ComputedRouteSegment := ⟨p.path, p.undesirability⟩

def Position.extend (q : RouteQuery) (p : Position) (node : NodeRecord) : Position where
  path := p.path ++ [node.publicKey]
  undesirability := computeNewUndesirability q node p.undesirability (p.hopsRemaining - 1)
  hopsRemaining := p.hopsRemaining - 1

def Position.lastNode (db : NeighborhoodDatabase) (p : Position) : Option NodeRecord :=
  p.path.getLast?.bind db.nodeByKey

def Position.done (db : NeighborhoodDatabase) (q : RouteQuery) (p : Position) : Bool :=
  match p.path.head?, p.lastNode db with
  | some first, some node => isDone db q p.path first node p.hopsRemaining
  | _, _ => false

/-- The tree that the engine searches when it does not research the neighborhood. -/
def routeTree (db : NeighborhoodDatabase) (preferences : UserExitPreferences) (q : RouteQuery)
    (hashOrder : NeighborOrder) : SearchTree Position Int where
  children p :=
    match p.lastNode db with
    | none => []
    | some node => (nextNodes db q hashOrder p.path node).map (p.extend q)
  isGoal p := p.done db q && (p.lastNode db).any fun node =>
    validateLastNodeCountryCode db preferences node.publicKey false q.direction
  isDead p := !p.done db q && isPastMinimum preferences q false p.hopsRemaining
  cost := Position.undesirability

section

theorem mem_nextNodes :
    n ∈ nextNodes db q ord path r ↔ n ∈ db.fullNeighbors r ∧ n.publicKey ∉ path ∧ IsRelay db q n := by
  simp [nextNodes, (ord.perm path _).mem_iff, isUsable_iff]

theorem searchEach_eq {vi : NodeRecord → SearchState →
    Except NeighborhoodPanic (List ComputedRouteSegment × SearchState)}
    {find : Position → Int → List Position × Int} {e : NodeRecord → Position} {nod : List NodeRecord}
    (h : ∀ node ∈ nod, ∀ state, vi node state = .ok ((find (e node) state.minimumUndesirability).1.map Position.segment,
        { state with minimumUndesirability := (find (e node) state.minimumUndesirability).2 })) (state : SearchState) :
    searchEach vi nod state = .ok ((visitAll find (nod.map e) state.minimumUndesirability).1.map Position.segment,
        { state with minimumUndesirability := (visitAll find (nod.map e) state.minimumUndesirability).2 }) := by
  induction nod generalizing state with
  | nil => rfl
  | cons node nod ih =>
    have hr := ih (fun n hn => h n (List.mem_cons_of_mem _ hn))
    simp only [searchEach, h node List.mem_cons_self, hr, bind, Except.bind, pure, Except.pure, List.map_cons, visitAll,
      List.map_append]

/-- **The engine is a branch and bound search.** -/
theorem routingEngine_eq (fuel : Nat) (p : Position) (st : SearchState) (hno : p.lastNode db = some node) :
    routingEngine db prefs q ord false fuel p.path p.undesirability p.hopsRemaining st =
      .ok (((routeTree db prefs q ord).search fuel p st.minimumUndesirability).1.map Position.segment,
        { st with minimumUndesirability :=
            ((routeTree db prefs q ord).search fuel p st.minimumUndesirability).2 }) := by
  induction fuel generalizing p st node with
  | zero => rfl
  | succ fuel ih =>
    obtain ⟨last, hl, hlo⟩ := Option.bind_eq_some_iff.1 hno
    obtain ⟨first, hf⟩ : ∃ first, p.path.head? = some first := by
      cases hp : p.path with
      | nil => simp [hp] at hl
      | cons first rest => exact ⟨first, rfl⟩
    have hdo : p.done db q = isDone db q p.path first node p.hopsRemaining := by
      simp [Position.done, hf, hno]
    have hg : ∀ st, routingGuts db q ord (routingEngine db prefs q ord false fuel) p.path
        p.undesirability p.hopsRemaining node st =
        .ok ((visitAll ((routeTree db prefs q ord).search fuel)
            ((routeTree db prefs q ord).children p) st.minimumUndesirability).1.map Position.segment,
          { st with minimumUndesirability := (visitAll ((routeTree db prefs q ord).search fuel)
            ((routeTree db prefs q ord).children p) st.minimumUndesirability).2 }) := by
      intro st
      have hch : (routeTree db prefs q ord).children p =
          (nextNodes db q ord p.path node).map (p.extend q) := by simp [routeTree, hno]
      rw [hch]
      refine searchEach_eq (fun n hn st => ?_) st
      have hn' := (mem_fullNeighbors.1 (mem_nextNodes.1 hn).1).2.1
      have hla : (p.extend q n).lastNode db = some n := by simp [Position.lastNode, Position.extend, hn']
      exact ih (p.extend q n) st hla
    have hco : (routeTree db prefs q ord).cost p = p.undesirability := rfl
    have hgo : (routeTree db prefs q ord).isGoal p = (isDone db q p.path first node p.hopsRemaining &&
        validateLastNodeCountryCode db prefs node.publicKey false q.direction) := by
      simp [routeTree, hdo, hno]
    have hde : (routeTree db prefs q ord).isDead p = (!isDone db q p.path first node p.hopsRemaining &&
        isPastMinimum prefs q false p.hopsRemaining) := by
      simp [routeTree, hdo]
    unfold routingEngine search
    simp only [hco, hgo, hde, hf, hl, hlo, Bool.not_false, Bool.and_true, Bool.true_and,
      decide_eq_true_eq, Bool.false_and, Bool.false_eq_true, if_false, gt_iff_lt]
    by_cases hc : st.minimumUndesirability < p.undesirability
    · simp [hc]
    · cases hd : isDone db q p.path first node p.hopsRemaining with
      | true =>
        cases hv : validateLastNodeCountryCode db prefs node.publicKey false q.direction with
        | true => simp [hc, Position.segment]
        | false => simpa [hc] using hg st
      | false =>
        cases hp : isPastMinimum prefs q false p.hopsRemaining with
        | true => simp [hc]
        | false => simpa [hc] using hg st

theorem routeTree_mono (p : Position) (hp : p.undesirability ≤ i64Max) :
    ∀ c ∈ (routeTree db prefs q ord).children p, c.undesirability ≤ i64Max ∧ p.undesirability ≤ c.undesirability := by
  intro c hc
  simp only [routeTree] at hc
  split at hc
  · cases hc
  · obtain ⟨n, -, rfl⟩ := List.mem_map.1 hc
    exact ⟨saturatingAddI64_le _ _, le_saturatingAddI64 hp (computeUndesirability_nonneg _ _ _)⟩

theorem initialUndesirability_le (db : NeighborhoodDatabase) (q : RouteQuery) (src : PublicKey) :
    initialUndesirability db q src ≤ i64Max := by
  unfold initialUndesirability
  cases q.direction with
  | «over» => simp [i64Max]
  | back =>
    cases db.nodeByKey src with
    | none => simp [i64Max]
    | some node => exact saturatingAddI64_le _ _

theorem computeInitialUndesirability_eq (hs : src ∈ db.keys) :
    computeInitialUndesirability db src q.payloadSize q.direction = .ok (initialUndesirability db q src) := by
  obtain ⟨node, hn⟩ := mem_keys_iff.1 hs
  unfold computeInitialUndesirability initialUndesirability
  cases q.direction <;> simp [hn]

end

/-! ## Goals and qualifying paths -/

def positionOf (db : NeighborhoodDatabase) (q : RouteQuery) (source : PublicKey) (minimumHops : Nat)
    (path : List PublicKey) : Position :=
  ⟨path, routeUndesirability db q source minimumHops path, minimumHops - (path.length - 1)⟩

section

variable {path : List PublicKey}

@[simp] theorem path_positionOf : (positionOf db q src hops path).path = path := rfl

@[simp] theorem hopsRemaining_positionOf :
    (positionOf db q src hops path).hopsRemaining = hops - (path.length - 1) := rfl

theorem extend_positionOf (hne : path ≠ []) (hn : db.nodeByKey n.publicKey = some n) :
    (positionOf db q src hops path).extend q n = positionOf db q src hops (path ++ [n.publicKey]) := by
  have hl : 0 < path.length := List.length_pos_iff.2 hne
  have hh : hops - (path.length - 1) - 1 = hops - path.length := by omega
  have hs : routeUndesirability db q src hops (path ++ [n.publicKey]) =
      computeNewUndesirability q n (routeUndesirability db q src hops path) (hops - path.length) := by
    unfold routeUndesirability
    rw [List.tail_append_of_ne_nil hne, undesirabilityAlong_append _ _ _ hn, List.length_tail, hh]
  simp [positionOf, Position.extend, hs, hh]

/-- The children of a walk's position are the positions of the walks that are one step longer. -/
theorem mem_children_iff (hs : src ∈ db.keys) (h : IsWalk db q src path) :
    c ∈ (routeTree db prefs q ord).children (positionOf db q src hops path) ↔
      ∃ key, IsWalk db q src (path ++ [key]) ∧ c = positionOf db q src hops (path ++ [key]) := by
  obtain ⟨r, hla, hr⟩ := h.last hs
  have hne : path ≠ [] := by
    rintro rfl
    cases hla
  have hno : (positionOf db q src hops path).lastNode db = some r := by
    simp [Position.lastNode, positionOf, hla, hr]
  have hc : (routeTree db prefs q ord).children (positionOf db q src hops path) =
      (nextNodes db q ord path r).map ((positionOf db q src hops path).extend q) := by
    simp [routeTree, hno]
  rw [hc, List.mem_map]
  constructor
  · rintro ⟨n, hn, rfl⟩
    obtain ⟨hfu, hf, hre⟩ := mem_nextNodes.1 hn
    have hn' := (mem_fullNeighbors.1 hfu).2.1
    refine ⟨n.publicKey, (isWalk_append hne).2 ⟨h, hf, ?_, n, hn', hre⟩, extend_positionOf hne hn'⟩
    intro last hl
    obtain rfl : r.publicKey = last := Option.some.inj (hla.symm.trans hl)
    exact (hasFullNeighbor_iff hr hn').2 hfu
  · rintro ⟨key, hw, rfl⟩
    obtain ⟨-, hf, he, n, hn, hre⟩ := (isWalk_append hne).1 hw
    obtain rfl := publicKey_of_nodeByKey hn
    refine ⟨n, mem_nextNodes.2 ⟨?_, hf, hre⟩, extend_positionOf hne hn⟩
    exact (hasFullNeighbor_iff hr hn).1 (he _ hla)

theorem done_positionOf_iff (hsr : src ∈ db.keys) (h : IsWalk db q src path) :
    (positionOf db q src hops path).done db q = true ↔ hops + 1 ≤ path.length ∧
      (∀ key ∈ q.targetOpt, path.getLast? = some key) ∧
      (2 < path.length → ∀ last ∈ path.getLast?, db.hasHalfNeighbor last src = false) := by
  obtain ⟨r, hl, hr⟩ := h.last hsr
  have hle : 0 < path.length := by
    cases path with
    | nil => cases hl
    | cons => simp
  have hh : hops - (path.length - 1) = 0 ↔ hops + 1 ≤ path.length := by omega
  have ht : lastKeyQualifies r q.targetOpt = true ↔ ∀ key ∈ q.targetOpt, path.getLast? = some key := by
    cases q.targetOpt with
    | none => simp [lastKeyQualifies]
    | some target => simp [lastKeyQualifies, hl]
  have ha : validateLastNodeNotTooCloseToFirstNode db path.length src r.publicKey = true ↔
      (2 < path.length → ∀ last ∈ path.getLast?, db.hasHalfNeighbor last src = false) := by
    by_cases hs : path.length ≤ 2
    · simp [validateLastNodeNotTooCloseToFirstNode, hs]
    · simp [validateLastNodeNotTooCloseToFirstNode, hs, hl, not_le.1 hs]
  simp only [Position.done, Position.lastNode, positionOf, h.head, hl, hr, Option.bind_some, isDone, Bool.and_eq_true,
    decide_eq_true_eq, hh, ht, ha, and_assoc]

theorem Qualifies.length_le (h : Qualifies db q src hops path) (hs : src ∈ db.keys) : path.length ≤ db.keys.length :=
  (h.nodup.subperm fun _ hk => h.mem_keys hs hk).length_le

variable (hnothing : prefs.fallbackPreference = .nothing)

include hnothing

theorem isGoal_positionOf (hs : src ∈ db.keys) (h : IsWalk db q src path) :
    (routeTree db prefs q ord).isGoal (positionOf db q src hops path) = (positionOf db q src hops path).done db q := by
  obtain ⟨r, hl, hr⟩ := h.last hs
  have hn : (positionOf db q src hops path).lastNode db = some r := by
    simp [Position.lastNode, positionOf, hl, hr]
  simp [routeTree, hn, validateLastNodeCountryCode, lastNodeIsAlwaysTrue, hnothing]

/-- Without a target the search stops at the minimum hop count, whether the path is done or not. -/
theorem exact_of_reaches (hs : src ∈ db.keys) {fuel : Nat} (h : IsWalk db q src path)
    (hl : q.targetOpt = none → path.length ≤ hops + 1)
    (hr : (routeTree db prefs q ord).Reaches fuel (positionOf db q src hops path) g) :
    ∃ path', g = positionOf db q src hops path' ∧ Qualifies db q src hops path' := by
  generalize hp : positionOf db q src hops path = p at hr
  induction hr generalizing path with
  | goal hg =>
    subst hp
    rw [isGoal_positionOf hnothing hs h, done_positionOf_iff hs h] at hg
    obtain ⟨hh, ht, ha⟩ := hg
    exact ⟨path, rfl, h, hh, fun hn => le_antisymm (hl hn) hh, ht, ha⟩
  | child hg hd hc _ ih =>
    subst hp
    obtain ⟨key, hw, rfl⟩ := (mem_children_iff hs h).1 hc
    refine ih hw (fun hn => ?_) rfl
    rw [isGoal_positionOf hnothing hs h] at hg
    have hm : hops - (path.length - 1) ≠ 0 := by
      intro hz
      simp [routeTree, hg, isPastMinimum, hz, hn, hnothing] at hd
    rw [List.length_append, List.length_singleton]
    omega

/-- A qualifying path is met on the way along it: none of the paths it extends is done or past the minimum. -/
theorem reaches_of_qualifies (hs : src ∈ db.keys) {start rest : List PublicKey} {fuel : Nat}
    (h : Qualifies db q src hops (start ++ rest)) (hne : start ≠ []) (hf : rest.length < fuel) :
    (routeTree db prefs q ord).Reaches fuel (positionOf db q src hops start)
      (positionOf db q src hops (start ++ rest)) := by
  induction rest generalizing start fuel with
  | nil =>
    obtain ⟨fuel, rfl⟩ := Nat.exists_eq_add_of_lt hf
    rw [List.append_nil] at h ⊢
    refine .goal ?_
    rw [isGoal_positionOf hnothing hs h.toIsWalk, done_positionOf_iff hs h.toIsWalk]
    exact ⟨h.hops, h.target, h.apart⟩
  | cons key rest ih =>
    obtain ⟨fuel, rfl⟩ : ∃ n, fuel = n + 1 := ⟨fuel - 1, by simp at hf; omega⟩
    have hsp : start ++ key :: rest = (start ++ [key]) ++ rest := by simp
    have hw : IsWalk db q src (start ++ [key]) := by
      have hed := h.edges
      have hnd := h.nodup
      rw [hsp] at hed hnd
      refine ⟨?_, (List.nodup_append.1 hnd).1, (List.isChain_append.1 hed).1, fun k hk => h.later k ?_⟩
      · have hh := h.head
        cases start with
        | nil => exact absurd rfl hne
        | cons first more => simpa using hh
      · rw [hsp, List.tail_append_of_ne_nil (by simp)]
        exact List.mem_append_left _ hk
    have hst := ((isWalk_append hne).1 hw).1
    -- the end of the whole path is not yet on the walk, and without a target there are hops to go
    have hno : (positionOf db q src hops start).done db q = false := by
      rw [Bool.eq_false_iff]
      intro hd
      obtain ⟨hho, hta, -⟩ := (done_positionOf_iff hs hst).1 hd
      cases ht : q.targetOpt with
      | none =>
        have he := h.exact ht
        simp only [List.length_append, List.length_cons] at he
        omega
      | some target =>
        have hme : target ∈ start := List.mem_of_getLast? (hta target ht)
        have hen : target ∈ key :: rest := by
          have hl := h.target target ht
          rw [List.getLast?_append_of_ne_nil _ (List.cons_ne_nil key rest)] at hl
          exact List.mem_of_getLast? hl
        exact (List.nodup_append.1 h.nodup).2.2 target hme target hen rfl
    have hnot : (routeTree db prefs q ord).isDead (positionOf db q src hops start) = false := by
      have hm : q.targetOpt = none → hops - (start.length - 1) ≠ 0 := by
        intro hn
        have he := h.exact hn
        simp only [List.length_append, List.length_cons] at he
        have := List.length_pos_iff.2 hne
        omega
      cases ht : q.targetOpt with
      | none => simp [routeTree, isPastMinimum, hm ht]
      | some target => simp [routeTree, isPastMinimum, ht]
    refine .child ?_ hnot ((mem_children_iff hs hst).2 ⟨key, hw, rfl⟩) ?_
    · rw [isGoal_positionOf hnothing hs hst]
      exact hno
    · rw [hsp] at h ⊢
      exact ih h (by simp) (by simp at hf; omega)

/-- **The goals of the search are the qualifying paths.** -/
theorem reaches_iff_qualifies (hs : src ∈ db.keys) :
    (routeTree db prefs q ord).Reaches (searchFuel db) (positionOf db q src hops [src]) g ↔
      ∃ path, g = positionOf db q src hops path ∧ Qualifies db q src hops path := by
  constructor
  · have hw : IsWalk db q src [src] := ⟨rfl, List.nodup_singleton src, List.isChain_singleton src, by simp⟩
    exact exact_of_reaches hnothing hs hw fun _ => by simp
  · rintro ⟨path, rfl, h⟩
    obtain ⟨rest, rfl⟩ : ∃ rest, path = [src] ++ rest := h.exists_cons
    refine reaches_of_qualifies hnothing hs h (by simp) ?_
    have hl := h.length_le hs
    simp only [List.length_append, List.length_singleton] at hl
    unfold searchFuel
    omega

end

/-! ## The result -/

section

variable {preferences : UserExitPreferences} {hashOrder : NeighborOrder} {source : PublicKey} {pick : Nat}

/-- A position in which the engine, started at the source, ends a route. -/
def RouteGoal (db : NeighborhoodDatabase) (preferences : UserExitPreferences) (q : RouteQuery)
    (hashOrder : NeighborOrder) (source : PublicKey) (minimumHops : Nat) : Position → Prop :=
  (routeTree db preferences q hashOrder).Reaches (searchFuel db) (positionOf db q source minimumHops [source])

/-- **The result of the search, for whatever preferences**: one of the cheapest goals of the tree, if there is a goal.
-/
theorem findBestRouteSegment_spec (preferences : UserExitPreferences) (q : RouteQuery) (hashOrder : NeighborOrder)
    (minimumHops pick : Nat) (hs : source ∈ db.keys) :
    ∃ result, findBestRouteSegment db preferences q hashOrder pick source minimumHops = .ok result ∧
      (result = none ↔ ¬ ∃ g, RouteGoal db preferences q hashOrder source minimumHops g) ∧
      ∀ path ∈ result, ∃ g, RouteGoal db preferences q hashOrder source minimumHops g ∧ g.path = path ∧
        ∀ g', RouteGoal db preferences q hashOrder source minimumHops g' → g.undesirability ≤ g'.undesirability := by
  obtain ⟨node, hn⟩ := mem_keys_iff.1 hs
  have hl : (positionOf db q source minimumHops [source]).lastNode db = some node := by
    simp [Position.lastNode, hn]
  have hle : (positionOf db q source minimumHops [source]).undesirability ≤ i64Max :=
    initialUndesirability_le db q source
  have he : routingEngine db preferences q hashOrder false (searchFuel db) [source]
      (initialUndesirability db q source) minimumHops ⟨i64Max, []⟩ = _ :=
    routingEngine_eq (searchFuel db) (positionOf db q source minimumHops [source]) ⟨i64Max, []⟩ hl
  have hf : Found Position.undesirability (RouteGoal db preferences q hashOrder source minimumHops) i64Max
      ((routeTree db preferences q hashOrder).search (searchFuel db) (positionOf db q source minimumHops [source])
        i64Max) := search_found routeTree_mono (searchFuel db) hle i64Max
  have ht : ∀ g, RouteGoal db preferences q hashOrder source minimumHops g → g.undesirability ≤ i64Max :=
    fun g hg => hg.inv routeTree_mono hle
  generalize (routeTree db preferences q hashOrder).search (searchFuel db)
    (positionOf db q source minimumHops [source]) i64Max = result at he hf
  refine ⟨chooseUniformMinimumRoute (result.1.map Position.segment) result.2 pick, ?_, ?_, ?_⟩
  · rw [findBestRouteSegment, computeInitialUndesirability_eq hs]
    exact bind_eq_ok.2 ⟨_, rfl, bind_eq_ok.2 ⟨_, he, rfl⟩⟩
  · rw [chooseUniformMinimumRoute_eq_none_iff, ← hf.exists_cheapest_iff ht]
    simp [Position.segment]
  · intro path hp
    obtain ⟨route, hr, hlea, rfl⟩ := mem_chooseUniformMinimumRoute hp
    obtain ⟨g, hg, rfl⟩ := List.mem_map.1 hr
    obtain ⟨hgo, hc⟩ := (hf.mem_cheapest_iff ht g).1 ⟨hg, hlea⟩
    exact ⟨g, hgo, rfl, hc⟩

/-- From a source that the database does not hold, nothing is searched. -/
theorem findBestRouteSegment_panics (hs : source ∉ db.keys) :
    ∃ panic, findBestRouteSegment db preferences q hashOrder pick source minimumHops = .error panic := by
  have hn : db.nodeByKey source = none := by
    cases hno : db.nodeByKey source with
    | none => rfl
    | some node => exact absurd (mem_keys_iff.2 ⟨node, hno⟩) hs
  cases hd : q.direction with
  | «over» =>
    refine ⟨.lastNodeDisappeared source, bind_eq_error.2 (.inr ⟨0, ?_, bind_eq_error.2 (.inl ?_)⟩)⟩
    · simp [computeInitialUndesirability, hd]
    · simp [searchFuel, routingEngine, hn, i64Max]
  | back =>
    refine ⟨.exitNodeDisappeared source, bind_eq_error.2 (.inl ?_)⟩
    simp [computeInitialUndesirability, hd, hn]

/-- **The route search is sound, complete and optimal** from every source that the database holds, in whatever order the
neighbors are visited and whichever of the best routes is chosen; from any other source it panics. -/
theorem find_best_route_segment_optimal (db : NeighborhoodDatabase) (preferences : UserExitPreferences)
    (hnothing : preferences.fallbackPreference = .nothing) (q : RouteQuery) (hashOrder : NeighborOrder) (pick : Nat)
    (source : PublicKey) (minimumHops : Nat) :
    (source ∉ db.keys →
      ∃ panic, findBestRouteSegment db preferences q hashOrder pick source minimumHops = .error panic) ∧
    (source ∈ db.keys → ∃ result, findBestRouteSegment db preferences q hashOrder pick source minimumHops = .ok result ∧
        (result = none ↔ ¬ ∃ path, Qualifies db q source minimumHops path) ∧
        ∀ path ∈ result, Qualifies db q source minimumHops path ∧ ∀ path', Qualifies db q source minimumHops path' →
            routeUndesirability db q source minimumHops path ≤ routeUndesirability db q source minimumHops path') := by
  refine ⟨findBestRouteSegment_panics, fun hs => ?_⟩
  obtain ⟨result, hok, hn, hso⟩ := findBestRouteSegment_spec preferences q hashOrder minimumHops pick hs
  have hgo : ∀ g, RouteGoal db preferences q hashOrder source minimumHops g ↔
      ∃ path, g = positionOf db q source minimumHops path ∧ Qualifies db q source minimumHops path :=
    fun g => reaches_iff_qualifies hnothing hs
  refine ⟨result, hok, ?_, ?_⟩
  · rw [hn, not_iff_not]
    constructor
    · rintro ⟨g, hg⟩
      obtain ⟨path, -, hp⟩ := (hgo g).1 hg
      exact ⟨path, hp⟩
    · rintro ⟨path, hp⟩
      exact ⟨_, (hgo _).2 ⟨path, rfl, hp⟩⟩
  · intro path hp
    obtain ⟨g, hg, rfl, hl⟩ := hso path hp
    obtain ⟨path, rfl, hq⟩ := (hgo g).1 hg
    exact ⟨hq, fun path' hp' => hl _ ((hgo _).2 ⟨path', rfl, hp'⟩)⟩

end

/-! ## Two nodes -/

def routingRecord (publicKey neighbor : PublicKey) : NodeRecord where
  inner :=
    { publicKey
      earningWallet := 0
      ratePack := ⟨1, 10, 2, 20⟩
      neighbors := [neighbor]
      acceptsConnections := true
      routesData := true
      version := 0
      countryCodeOpt := some "FR"
      protocolCapabilities := 0
      receiptSettlementContractOpt := none }
  metadata := { lastUpdate := 0 }
  signedGossip := []
  signature := []

def twoNodes : NeighborhoodDatabase := (ofRoot (routingRecord [1] [2])).addArbitraryNode (routingRecord [2] [1])

def oneHopQuery : RouteQuery := ⟨none, 1000, .over, "booga.com", 0⟩

theorem one_hop_route_found : findBestRouteSegment twoNodes {} oneHopQuery asListed 0 [1] 1 = .ok (some [[1], [2]]) ∧
      Qualifies twoNodes oneHopQuery [1] 1 [[1], [2]] := by
  have hr : findBestRouteSegment twoNodes {} oneHopQuery asListed 0 [1] 1 = .ok (some [[1], [2]]) := by decide +kernel
  obtain ⟨result, hok, -, hs⟩ :=
    (find_best_route_segment_optimal twoNodes {} rfl oneHopQuery asListed 0 [1] 1).2 (by decide +kernel)
  obtain rfl : some [[1], [2]] = result := Except.ok.inj (hr.symm.trans hok)
  exact ⟨hr, (hs _ rfl).1⟩

/-- From an unknown source no path qualifies, and yet the search does not return: it panics. -/
theorem unknown_source_panics :
    findBestRouteSegment twoNodes {} oneHopQuery asListed 0 [9] 1 = .error (.lastNodeDisappeared [9]) ∧
      ¬ ∃ path, Qualifies twoNodes oneHopQuery [9] 1 path := by
  refine ⟨by decide +kernel, ?_⟩
  rintro ⟨path, h⟩
  match path, h.head, h.hops, h.edges with
  | first :: second :: _, hh, _, hed =>
    obtain rfl : first = [9] := Option.some.inj hh
    have he : twoNodes.hasFullNeighbor [9] second = true := (List.isChain_cons_cons.1 hed).1
    have hu : twoNodes.nodeByKey [9] = none := by decide +kernel
    simp [NeighborhoodDatabase.hasFullNeighbor, NeighborhoodDatabase.hasHalfNeighbor, hu] at he
  | [_], _, hho, _ => simp at hho

end MasqMobile
