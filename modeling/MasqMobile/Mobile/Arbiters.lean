import MasqMobile.Lib.Run

/-!
# The arbiters of an embedded node

`mobile_runtime.rs` counts the arbiters of a run from `prepare` on, and `wait_for_actor_arbiters` confirms that all are
gone. The lock of `ACTOR_ARBITERS` makes `expect`, `register` and one turn of the wait single steps; `stop` sets its
flag, copies the list and sends to the copy in steps between which all others may come. A confirmation ends the tracking
for the rest of the run, so that arbiters which are expected after one are neither waited for nor stopped.
-/

namespace MasqMobile

open Run

/-- The statics of the run, and beside them what its threads have done. -/
structure ArbiterTracking where
  actorArbiters : List Nat := []
  expectedActorArbiters : Nat := 0
  registeredActorArbiters : Nat := 0
  trackingActive : Bool := true
  shutdownRequested : Bool := false
  /-- The calls of `stop` that have set the flag and copied nothing yet, and the copied arbiters not yet sent to. -/
  copying : Nat := 0
  copied : List Nat := []
  stopped : Bool := false
  /-- The arbiters that are expected and have not registered, and those that have. -/
  awaited : List Nat := []
  arrived : Finset Nat := ∅
  disconnected : Finset Nat := ∅
  /-- The arbiters that `StopArbiter` was sent to. -/
  sent : Finset Nat := ∅

inductive ArbiterEvent
  | expect (arbiter : Nat)
  | register (arbiter : Nat)
  | wait
  | stop
  | copy
  | send (arbiter : Nat)
  | disconnect (arbiter : Nat)

namespace ArbiterTracking

variable (s : ArbiterTracking)

/-- Line 159. -/
def expectActorArbiter (arbiter : Nat) : ArbiterTracking := { s with
    expectedActorArbiters := if s.trackingActive then s.expectedActorArbiters + 1 else s.expectedActorArbiters
    awaited := arbiter :: s.awaited }

/-- Line 168. -/
def registerActorArbiter (arbiter : Nat) : ArbiterTracking :=
  let s := { s with awaited := s.awaited.erase arbiter, arrived := insert arbiter s.arrived }
  if s.trackingActive then
    let s := if arbiter ∈ s.actorArbiters then s else { s with
      actorArbiters := s.actorArbiters ++ [arbiter]
      registeredActorArbiters := s.registeredActorArbiters + 1 }
    if s.shutdownRequested then { s with sent := insert arbiter s.sent } else s
  else s

/-- A turn of the loop of `wait_for_actor_arbiters`, line 196, and whether it confirms. -/
def waitForActorArbiters : Bool × ArbiterTracking :=
  let s := { s with actorArbiters := s.actorArbiters.filter (· ∉ s.disconnected) }
  if s.expectedActorArbiters ≤ s.registeredActorArbiters ∧ s.actorArbiters = [] then
    (true, { s with trackingActive := false, shutdownRequested := false })
  else (false, s)

/-- An arbiter registers after its expectation, and `stop` (line 424) sends to what it has copied. -/
def step : ArbiterEvent → ArbiterTracking
  | .expect arbiter => s.expectActorArbiter arbiter
  | .register arbiter => if arbiter ∈ s.awaited then s.registerActorArbiter arbiter else s
  | .wait => s.waitForActorArbiters.2
  | .stop => { s with shutdownRequested := true, stopped := true, copying := s.copying + 1 }
  | .copy => if s.copying = 0 then s else { s with copying := s.copying - 1, copied := s.actorArbiters ++ s.copied }
  | .send arbiter =>
    if arbiter ∈ s.copied then { s with sent := insert arbiter s.sent, copied := s.copied.erase arbiter } else s
  | .disconnect arbiter => { s with disconnected := insert arbiter s.disconnected }

/-- A wait confirms only when all arbiters have arrived and are gone; and once `stop` has returned, `StopArbiter` was
sent to all that have arrived, except for those that a wait had found disconnected. -/
structure Acknowledges : Prop where
  confirmed : s.waitForActorArbiters.1 = true → s.awaited = [] ∧ ∀ a ∈ s.arrived, a ∈ s.disconnected
  stops : s.stopped → s.copying = 0 → s.copied = [] →
    ∀ a ∈ s.arrived, a ∈ s.sent ∨ a ∉ s.actorArbiters ∧ a ∈ s.disconnected

/-- None is expected after a confirmation. -/
def ExpectsTracked : ArbiterEvent → Prop
  | .expect _ => s.trackingActive
  | _ => True

/-- While arbiters are tracked, each is awaited, in the list or gone; a `stop` has yet to send to those it has not. -/
structure Tracked : Prop where
  counted : s.trackingActive → s.registeredActorArbiters + s.awaited.length ≤ s.expectedActorArbiters
  confirmed : s.trackingActive = false → s.awaited = [] ∧ s.actorArbiters = []
  listed : ∀ a ∈ s.arrived, a ∈ s.actorArbiters ∨ a ∈ s.disconnected
  requested : s.stopped → s.trackingActive → s.shutdownRequested
  stops : s.stopped → ∀ a ∈ s.arrived, a ∈ s.sent ∨ a ∈ s.copied ∨ (a ∈ s.actorArbiters ∧ 0 < s.copying) ∨
    a ∉ s.actorArbiters ∧ a ∈ s.disconnected

variable {s : ArbiterTracking} {e : ArbiterEvent}

theorem Tracked.gone (h : s.Tracked) (hr : s.expectedActorArbiters ≤ s.registeredActorArbiters)
    (hl : s.actorArbiters.filter (· ∉ s.disconnected) = []) : s.awaited = [] ∧ ∀ a ∈ s.arrived, a ∈ s.disconnected := by
  refine ⟨?_, fun a ha => (h.listed a ha).elim (fun hm => ?_) id⟩
  · cases ht : s.trackingActive with
    | false => exact (h.confirmed ht).1
    | true =>
      have := h.counted ht
      exact List.length_eq_zero_iff.1 (by omega)
  · simpa using List.filter_eq_nil_iff.1 hl a hm

theorem Tracked.acknowledges (h : s.Tracked) : s.Acknowledges where
  confirmed hw := by
    simp only [waitForActorArbiters] at hw
    split_ifs at hw with hc
    exact h.gone hc.1 hc.2
  stops hs hc hd a ha := by simpa [hc, hd] using h.stops hs a ha

theorem Tracked.register (h : s.Tracked) (ha : a ∈ s.awaited) : (s.registerActorArbiter a).Tracked := by
  have ht : s.trackingActive = true := by
    by_contra ht
    simp [(h.confirmed (by simpa using ht)).1] at ha
  have hl := List.length_erase_of_mem ha
  have hpos := List.length_pos_of_mem ha
  obtain ⟨hc, -, hli, hre, hst⟩ := h
  have := hc ht
  simp only [registerActorArbiter, ht, if_true]
  split_ifs with hm hs hs
  all_goals refine ⟨fun _ => ?_, by simp, ?_, by simpa [ht] using hre, ?_⟩
  all_goals first | (dsimp only; omega) | grind

theorem Tracked.wait (h : s.Tracked) : s.waitForActorArbiters.2.Tracked := by
  obtain ⟨hc, hco, hli, hre, hst⟩ := id h
  simp only [waitForActorArbiters]
  split_ifs with hg
  · obtain ⟨hw, hd⟩ := h.gone hg.1 hg.2
    refine ⟨by simp, fun _ => ⟨hw, hg.2⟩, fun a ha => .inr (hd a ha), by simp, fun _ a ha => ?_⟩
    simp [hd a ha]
  · refine ⟨hc, fun ht => ⟨(hco ht).1, by simp [(hco ht).2]⟩, ?_, hre, ?_⟩
    · grind
    · grind

theorem Tracked.step (h : s.Tracked) (he : s.ExpectsTracked e) : (s.step e).Tracked := by
  obtain ⟨hc, hco, hli, hre, hst⟩ := id h
  cases e with
  | expect a =>
    have ht : s.trackingActive = true := he
    refine ⟨fun _ => ?_, by simp [ArbiterTracking.step, expectActorArbiter, ht], hli, hre, hst⟩
    have := hc ht
    simp [ArbiterTracking.step, expectActorArbiter, ht]
    omega
  | register a =>
    simp only [ArbiterTracking.step]
    split_ifs with ha
    · exact h.register ha
    · exact h
  | wait => exact h.wait
  | stop => exact ⟨hc, hco, hli, fun _ _ => rfl, fun _ a ha => by grind [ArbiterTracking.step]⟩
  | copy =>
    simp only [ArbiterTracking.step]
    split_ifs with h0
    · exact h
    · exact ⟨hc, hco, hli, hre, fun hs a ha => by grind⟩
  | send a =>
    simp only [ArbiterTracking.step]
    split_ifs with ha
    · exact ⟨hc, hco, hli, hre, fun hs b hb => by grind⟩
    · exact h
  | disconnect a => exact ⟨hc, hco, by grind [ArbiterTracking.step], hre, by grind [ArbiterTracking.step]⟩

end ArbiterTracking

end MasqMobile
