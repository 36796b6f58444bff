import MasqMobile.Neighborhood.RouteSearch
import MasqMobile.Neighborhood.Steps

/-!
# Exit countries

A user asks for exit countries by `UiSetExitLocationRequest`, and `validate_last_node_country_code` looks at
`exit_countries` when a route ends. That list belongs to no single request: each request adds the reachable countries
among its own and removes only the unreachable among its own, so that what an earlier request has left stays in it. A
request that only asks to be shown the countries goes the same way, against what USER-INTERFACE-INTERFACE.md says of
it: it sets the fallback preference, and without locations it clears the list.

| here | there |
| --- | --- |
| `exitLocationMessage` | mod.rs:2058 |
| `synchronizeExitCountries` | mod.rs:2283 |
| `setCountryUndesirabilityAndExitCountries` | mod.rs:2230 |
| `validateLastNodeCountryCode` | mod.rs:1603 |
-/

namespace MasqMobile

open Fallible NeighborhoodDatabase SearchTree

variable {p : UserExitPreferences}

namespace Neighborhood

def UiSetExitLocationRequest.codes (request : UiSetExitLocationRequest) : List String :=
  request.exitLocations.flatMap ExitLocation.countryCodes

/-- The last request that was not only to show the countries. -/
def lastRequest (events : List NeighborhoodEvent) : Option UiSetExitLocationRequest := (events.filterMap fun
    | .exitLocation request => if request.showCountries then none else some request
    | _ => none).getLast?

/-- A request for exits in some countries comes when no others are left from before, and a request to show the countries
comes when no exits are asked for. -/
def ObeysRequests (n : Neighborhood) : NeighborhoodEvent → Prop
  | .exitLocation request =>
    if request.showCountries then
      request.exitLocations = [] ∧ n.preferences.fallbackPreference = .nothing ∧ n.preferences.exitCountries = [] ∧
        ∀ key, ∀ r ∈ n.database.nodeByKey key, r.metadata.countryUndesirability = 0
    else request.fallbackRouting = false → request.exitLocations ≠ [] →
      ∀ code ∈ n.preferences.exitCountries, code ∈ request.codes
  | _ => True

/-! ## The list of exit countries -/

variable {allowed : List String}

theorem synchronizeExitCountry_subset {code : String}
    (hp : p.exitCountries ⊆ allowed) (hc : code ∈ allowed) :
    (synchronizeExitCountry p code).exitCountries ⊆ allowed := by
  unfold synchronizeExitCountry
  split_ifs
  · exact hp
  · exact List.append_subset.2 ⟨hp, List.cons_subset.2 ⟨hc, List.nil_subset _⟩⟩
  · exact List.Subset.trans List.erase_subset hp

theorem synchronizeExitCountries_subset (hp : p.exitCountries ⊆ allowed)
    (hl : l.flatMap ExitLocation.countryCodes ⊆ allowed) :
    (synchronizeExitCountries l p).exitCountries ⊆ allowed := by
  unfold synchronizeExitCountries
  generalize l.flatMap ExitLocation.countryCodes = codes at hl
  induction codes generalizing p with
  | nil => exact hp
  | cons code codes ih =>
    obtain ⟨hc, hco⟩ := List.cons_subset.1 hl
    exact ih (synchronizeExitCountry_subset hp hc) hco

theorem synchronizeExitCountries_eq : synchronizeExitCountries l p =
      { p with exitCountries := (synchronizeExitCountries l p).exitCountries } := by
  unfold synchronizeExitCountries
  generalize l.flatMap ExitLocation.countryCodes = codes
  induction codes generalizing p with
  | nil => rfl
  | cons code codes ih =>
    have ho : ∃ exitCountries, synchronizeExitCountry p code = { p with exitCountries } := by
      unfold synchronizeExitCountry
      split_ifs
      · exact ⟨p.exitCountries, rfl⟩
      · exact ⟨_, rfl⟩
      · exact ⟨_, rfl⟩
    obtain ⟨exitCountries, ho⟩ := ho
    rw [List.foldl_cons, ih, ho]

/-! ## After a request -/

/-- The preferences keep to a request for exits in some countries and nowhere else. -/
structure KeepsTo (p : UserExitPreferences) (request : UiSetExitLocationRequest) : Prop where
  preference : p.fallbackPreference = .exitCountryNoFallback
  exitCountries : p.exitCountries ⊆ request.codes
  locations : ∀ locations ∈ p.locationsOpt, locations.flatMap ExitLocation.countryCodes ⊆ request.codes

structure SameExits (n n' : Neighborhood) : Prop where
  preference : n'.preferences.fallbackPreference = n.preferences.fallbackPreference
  exitCountries : n'.preferences.exitCountries = n.preferences.exitCountries
  locations : n'.preferences.locationsOpt = n.preferences.locationsOpt
  undesirability : ∀ key, (n'.database.nodeByKey key).map (·.metadata.countryUndesirability) =
    (n.database.nodeByKey key).map (·.metadata.countryUndesirability)

section

variable {C : GossipPrimitives} {m : Moment} {n n' : Neighborhood} {request : UiSetExitLocationRequest}

theorem KeepsTo.setCountryUndesirability (h : KeepsTo n.preferences request) :
    KeepsTo (setCountryUndesirabilityAndExitCountries l n).preferences request := by
  unfold setCountryUndesirabilityAndExitCountries
  split_ifs
  · exact h
  · exact ⟨h.preference, List.nil_subset _, h.locations⟩

theorem keepsTo_requestedPreferences (hs : request.showCountries = false)
    (hf : request.fallbackRouting = false) (hso : request.exitLocations ≠ [])
    (hc : p.exitCountries ⊆ request.codes) (dbCountries : List String) :
    KeepsTo (requestedPreferences request dbCountries p) request := by
  have hsu : (synchronizeExitCountries request.exitLocations { p with dbCountries }).exitCountries ⊆ request.codes :=
    synchronizeExitCountries_subset hc (List.Subset.refl _)
  have hp : requestedPreference request = .exitCountryNoFallback := by
    simp [requestedPreference, hso, hf]
  unfold requestedPreferences
  simp only [hs, Bool.false_eq_true, if_false, hp]
  refine ⟨rfl, hsu, fun locations hl => ?_⟩
  unfold setExitLocationsOpt at hl
  simp only at hl
  split_ifs at hl
  · obtain rfl := Option.some.inj hl
    exact List.Subset.refl _
  · cases hl

theorem Upkeep.keepsTo (h : Upkeep C m n n') (hn : KeepsTo n.preferences request) : KeepsTo n'.preferences request := by
  cases h with
  | countries => exact ⟨hn.preference, hn.exitCountries, hn.locations⟩
  | route | accountant | regenerate | cull | send => exact hn

theorem Upkeeps.keepsTo (h : Upkeeps C m n n') (hn : KeepsTo n.preferences request) : KeepsTo n'.preferences request :=
  h.invariant (fun n => KeepsTo n.preferences request) (fun _ _ => Upkeep.keepsTo) hn

theorem KeepsTo.synchronizeLocations (h : KeepsTo n.preferences request) :
    KeepsTo (Neighborhood.synchronizeLocations n).preferences request := by
  unfold Neighborhood.synchronizeLocations
  split
  · exact h
  · next locations hl =>
    refine KeepsTo.setCountryUndesirability ?_
    have hs := synchronizeExitCountries_subset h.exitCountries (h.locations locations hl)
    rw [synchronizeExitCountries_eq]
    exact ⟨h.preference, hs, h.locations⟩

theorem KeepsTo.step (ho : ∀ request, e ≠ .exitLocation request)
    (h : KeepsTo n.preferences request) (hs : n.step C m e = .ok n') : KeepsTo n'.preferences request := by
  have hr : RemovalEffect C m n n' → KeepsTo n'.preferences request := by
    rintro (rfl | ⟨_, _, _, -, hu⟩)
    · exact h
    · exact hu.keepsTo h
  cases e with
  | gossip incomingGossip gossipSource =>
    obtain rfl | he := handleGossip_effect hs
    · exact h
    · obtain ⟨database, acceptor, -, hu⟩ := he.changed
      exact hu.keepsTo h
  | removeNeighbor publicKey => exact hr (removeNeighborMessage_effect hs)
  | streamShutdown peerIp => exact hr (streamShutdown_effect hs)
  | newPublicIp newIp =>
    simp only [Neighborhood.step, newPublicIpMessage, bind_eq_ok, pure_eq_ok] at hs
    obtain ⟨database, -, rfl⟩ := hs
    exact h
  | debut targets => exact (sendDebutGossip_upkeep (C := C) (m := m) hs).keepsTo h
  | exitLocation request' => exact absurd rfl (ho request')
  | updateMinHops newMinHops =>
    obtain ⟨dbCountries, hu⟩ := updateMinHops_effect (C := C) hs
    exact hu.keepsTo (KeepsTo.synchronizeLocations ⟨h.preference, h.exitCountries, h.locations⟩)

theorem lastRequest_snoc : lastRequest (ev ++ [e]) = (match e with
      | .exitLocation request => if request.showCountries then lastRequest ev else some request
      | _ => lastRequest ev) := by
  unfold lastRequest
  rw [List.filterMap_append]
  cases e with
  | exitLocation request =>
    by_cases hs : request.showCountries = true
    · simp [hs]
    · simp [hs]
  | _ => simp

/-- A request that is only to show the countries changes nothing if no exits are asked for. -/
theorem shown_sameExits (hsh : request.showCountries = true) (he : request.exitLocations = [])
    (hno : n.preferences.fallbackPreference = .nothing) (hc : n.preferences.exitCountries = [])
    (hz : ∀ key, ∀ r ∈ n.database.nodeByKey key, r.metadata.countryUndesirability = 0)
    (h : n.step C m (.exitLocation request) = .ok n') : SameExits n n' := by
  have hp : requestedPreference request = .nothing := by simp [requestedPreference, he]
  have hs : ∀ dbCountries, requestedPreferences request dbCountries n.preferences =
      { n.preferences with dbCountries } := by
    intro dbCountries
    simp only [requestedPreferences, hsh, if_true, hp, he, synchronizeExitCountries, List.flatMap_nil,
      List.foldl_nil, ← hno]
  obtain ⟨dbCountries, rfl | rfl⟩ := exitLocationMessage_effect h
  · rw [hs]
    exact ⟨rfl, rfl, rfl, fun _ => rfl⟩
  · rw [hs]
    simp only [setCountryUndesirabilityAndExitCountries, he, ne_eq, not_true_eq_false, if_false]
    refine ⟨rfl, hc.symm, rfl, fun key => ?_⟩
    refine (congrArg _ (nodeByKey_mapNodes (fun r => { r with metadata.countryUndesirability := 0 }) _ _ key)).trans ?_
    cases hn : n.database.nodeByKey key with
    | none => rfl
    | some r => simp [hz key r hn]

/-- **Along a run the preferences keep to the last request.** -/
theorem History.keepsTo (h : History C ObeysRequests n e n')
    (hl : lastRequest e = some request) (hf : request.fallbackRouting = false)
    (hso : request.exitLocations ≠ []) : KeepsTo n'.preferences request := by
  induction h with
  | nil => cases hl
  | @snoc e m event before after _ hok hst ih =>
    rw [lastRequest_snoc] at hl
    by_cases hr : ∃ request', event = .exitLocation request'
    · obtain ⟨request', rfl⟩ := hr
      obtain ⟨dbCountries, he⟩ := exitLocationMessage_effect hst
      cases hs : request'.showCountries with
      | true =>
        -- a request to show the countries comes only when no exits are asked for
        simp only [hs, if_true] at hl
        have hn : before.preferences.fallbackPreference = .nothing := by
          simp only [ObeysRequests, hs, if_true] at hok
          exact hok.2.1
        cases hn.symm.trans (ih hl).preference
      | false =>
        simp only [hs, Bool.false_eq_true, if_false] at hl
        obtain rfl := Option.some.inj hl
        have hcl : before.preferences.exitCountries ⊆ request'.codes := by
          simp only [ObeysRequests, hs, Bool.false_eq_true, if_false] at hok
          exact fun code hc => hok hf hso code hc
        have hk := keepsTo_requestedPreferences hs hf hso hcl dbCountries
        obtain rfl | rfl := he
        · exact hk
        · exact KeepsTo.setCountryUndesirability hk
    · have ho : ∀ request', event ≠ .exitLocation request' := fun request' heq => hr ⟨request', heq⟩
      refine KeepsTo.step ho (ih ?_) hst
      cases event with
      | exitLocation request' => exact absurd rfl (ho request')
      | _ => exact hl

end

end Neighborhood

/-! ## Routes -/

/-- Without fallback a route to anywhere ends in an exit country. -/
theorem exit_of_findBestRouteSegment {hashOrder : NeighborOrder} {pick : Nat} {path : List PublicKey}
    (hpr : p.fallbackPreference = .exitCountryNoFallback) (ho : q.direction = .over)
    (h : findBestRouteSegment db p q hashOrder pick so mh = .ok (some path)) :
    ∃ last node code, path.getLast? = some last ∧ db.nodeByKey last = some node ∧
      node.inner.countryCodeOpt = some code ∧ code ∈ p.exitCountries := by
  have hsr : so ∈ db.keys := by
    by_contra hno
    obtain ⟨panic, hpa⟩ : ∃ panic, findBestRouteSegment db p q hashOrder pick so mh = .error panic :=
      findBestRouteSegment_panics hno
    cases h.symm.trans hpa
  obtain ⟨result, hr, -, hs⟩ := findBestRouteSegment_spec p q hashOrder mh pick hsr
  obtain rfl := Except.ok.inj (h.symm.trans hr)
  obtain ⟨g, hg, rfl, -⟩ := hs path rfl
  obtain ⟨-, hla⟩ := Bool.and_eq_true_iff.1 hg.isGoal
  obtain ⟨node, hn, hv⟩ := (Option.any_eq_true _ _).1 hla
  obtain ⟨last, hp, hl⟩ := Option.bind_eq_some_iff.1 hn
  have hk : node.publicKey = last := db.publicKey_of_nodeByKey hl
  simp only [validateLastNodeCountryCode, lastNodeIsAlwaysTrue, isFallbackAndLastNodeQualifies, hpr, ho,
    hk, hl, Option.bind_some, reduceCtorEq, decide_false, Bool.false_and, Bool.or_false,
    Bool.false_or] at hv
  obtain ⟨code, hc, hm⟩ := (Option.any_eq_true _ _).1 hv
  exact ⟨last, node, code, hp, hl, hc, of_decide_eq_true hm⟩

/-! ## The result -/

namespace Neighborhood

def endsIn (db : NeighborhoodDatabase) (path : List PublicKey) : Option String :=
  path.getLast?.bind fun last => (db.nodeByKey last).bind (·.inner.countryCodeOpt)

/-- **Routes obey the last request for exit countries, and a request to show the countries changes nothing**, if each
request comes when nothing is left of the ones before that it does not ask for itself. -/
theorem exit_countries_obeyed {C : GossipPrimitives} {n n' : Neighborhood} {events : List NeighborhoodEvent}
    (h : History C ObeysRequests n events n') :
    (∀ request, lastRequest events = some request → request.fallbackRouting = false → request.exitLocations ≠ [] →
      ∀ q hashOrder pick source minimumHops path, q.targetOpt = none → q.direction = .over →
        findBestRouteSegment n'.database n'.preferences q hashOrder pick source minimumHops = .ok (some path) →
        ∃ code ∈ request.codes, endsIn n'.database path = some code) ∧
    (∀ request m n'', request.showCountries = true → ObeysRequests n' (.exitLocation request) →
      n'.step C m (.exitLocation request) = .ok n'' → SameExits n' n'') := by
  refine ⟨fun request hl hf hso q hashOrder pick source minimumHops path _ ho hp => ?_,
    fun request m n'' hs hok hst => ?_⟩
  · have hk := h.keepsTo hl hf hso
    obtain ⟨last, node, code, hg, hlo, hc, hm⟩ := exit_of_findBestRouteSegment hk.preference ho hp
    exact ⟨code, hk.exitCountries hm, by simp [endsIn, hg, hlo, hc]⟩
  · simp only [ObeysRequests, hs, if_true] at hok
    exact shown_sameExits hs hok.1 hok.2.1 hok.2.2.1 hok.2.2.2 hst

open SmallNetwork

def exitIn (code : String) : UiSetExitLocationRequest := ⟨false, [⟨[code], 1⟩], false⟩

def showCountries : UiSetExitLocationRequest := ⟨false, [], true⟩

/-- Two neighbors, one in France and one in the Czech Republic, introduce themselves. -/
def twoCountries : List NeighborhoodEvent :=
  [message [record 1 0 1 [0] (listensAt 1)] 1, message [record 2 0 2 [0] (listensAt 2)] 2]

def overQuery : RouteQuery := ⟨none, 1000, .over, "booga.com", 0⟩

def routeOf (n : Neighborhood) : Except NeighborhoodPanic (Option (List PublicKey)) :=
  findBestRouteSegment n.database n.preferences overQuery asListed 0 n.database.thisNode 1

theorem obeysRequests_twoCountries (n : Neighborhood) : ∀ event ∈ twoCountries, ObeysRequests n event := by
  intro event he
  obtain rfl | he := List.mem_cons.1 he
  · trivial
  · obtain rfl := List.mem_singleton.1 he
    trivial

/-- With exits in the Czech Republic asked for, the route ends there. -/
theorem czech_exit_obeyed :
    ∃ n' path, History primitives ObeysRequests node (twoCountries ++ [.exitLocation (exitIn "CZ")]) n' ∧
      routeOf n' = .ok (some path) ∧ ∃ code ∈ (exitIn "CZ").codes, endsIn n'.database path = some code := by
  have ho : (node.run primitives moment twoCountries).map (fun n => (n.preferences.exitCountries,
      (n.step primitives moment (.exitLocation (exitIn "CZ"))).bind routeOf)) =
        .ok ([], .ok (some [key 0, key 2])) := by
    decide +kernel
  obtain ⟨n, hn, ho⟩ := map_eq_ok_iff.1 ho
  obtain ⟨hcl, ha⟩ := Prod.mk.injEq .. ▸ ho
  obtain ⟨n', hs, hr⟩ := bind_eq_ok.1 ha
  have hh : History primitives ObeysRequests node (twoCountries ++ [.exitLocation (exitIn "CZ")]) n' := by
    refine .snoc (history_of_run obeysRequests_twoCountries hn) (fun _ _ code hc => ?_) hs
    rw [hcl] at hc
    cases hc
  exact ⟨n', _, hh, hr,
    (exit_countries_obeyed hh).1 (exitIn "CZ") rfl rfl (by decide) overQuery asListed 0 _ 1 _ rfl rfl hr⟩

/-- With exits in France and then in the Czech Republic asked for, the route still ends in France; and a request to show
the countries clears the list of exit countries. -/
theorem exit_countries_disobeyed : (∃ n', History primitives (fun _ _ => True) node
        (twoCountries ++ [.exitLocation (exitIn "FR"), .exitLocation (exitIn "CZ")]) n' ∧
      routeOf n' = .ok (some [key 0, key 1]) ∧ endsIn n'.database [key 0, key 1] = some "FR") ∧
    (∃ n n', History primitives (fun _ _ => True) node (twoCountries ++ [.exitLocation (exitIn "CZ")]) n ∧
      n.step primitives moment (.exitLocation showCountries) = .ok n' ∧ ¬ SameExits n n') := by
  constructor
  · have ho : (node.run primitives moment
        (twoCountries ++ [.exitLocation (exitIn "FR"), .exitLocation (exitIn "CZ")])).map
          (fun n => (routeOf n, endsIn n.database [key 0, key 1])) =
        .ok (.ok (some [key 0, key 1]), some "FR") := by
      decide +kernel
    obtain ⟨n', hn', ho⟩ := map_eq_ok_iff.1 ho
    obtain ⟨hr, he⟩ := Prod.mk.injEq .. ▸ ho
    exact ⟨n', history_of_run (fun _ _ _ => trivial) hn', hr, he⟩
  · have ho : (node.run primitives moment (twoCountries ++ [.exitLocation (exitIn "CZ")])).map
        (fun n => (n.preferences.exitCountries, (n.step primitives moment (.exitLocation showCountries)).map
          (·.preferences.exitCountries))) = .ok (["CZ"], .ok []) := by
      decide +kernel
    obtain ⟨n, hn, ho⟩ := map_eq_ok_iff.1 ho
    obtain ⟨hb, ha⟩ := Prod.mk.injEq .. ▸ ho
    obtain ⟨n', hst, hc⟩ := map_eq_ok_iff.1 ha
    refine ⟨n, n', history_of_run (fun _ _ _ => trivial) hn, hst, fun hs => ?_⟩
    have hk := hs.exitCountries
    rw [hb, hc] at hk
    cases hk

end Neighborhood

end MasqMobile
