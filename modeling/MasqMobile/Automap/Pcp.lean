import MasqMobile.Lib.Run

/-!
# Renewing mapped ports

`add_mapping` makes a mapping and sends it to the housekeeping thread of its `PcpTransactor`. Every pass of the thread's
loop takes one command, sleeps, and remaps the port of the mapping it has if the mapping's interval has gone by since it
remapped last. It has one mapping only: a new one takes the place of the one before.

Times are nanoseconds. The router approves every request, for a lifetime of its choice.
-/

namespace MasqMobile.Pcp

def secs (n : Nat) : Nat := n * 10 ^ 9

structure MappingConfig where
  holePort : UInt16
  nextLifetime : Nat
  remapInterval : Nat

def MappingConfig.nextLifetimeSecs (c : MappingConfig) : Nat := c.nextLifetime / 10 ^ 9 % 2 ^ 32

/-- What `transact` leaves of the configuration. -/
def MappingConfig.transact (c : MappingConfig) (approved : Nat) : MappingConfig :=
  { c with nextLifetime := secs approved, remapInterval := secs (approved / 2) }

inductive HousekeepingThreadCommand where
  | stop
  | setRemapIntervalMs (remapAfter : Nat)
  | initializeMappingConfig (c : MappingConfig)

/-- The variables of `thread_guts`. -/
structure ThreadGuts where
  lastRemapped : Nat
  mappingConfigOpt : Option MappingConfig

/-- `Stop` ends the loop. -/
def ThreadGuts.receive (t : ThreadGuts) : HousekeepingThreadCommand → Option ThreadGuts
  | .stop => none
  | .setRemapIntervalMs ms =>
    some { t with mappingConfigOpt := t.mappingConfigOpt.map ({ · with remapInterval := ms * 10 ^ 6 }) }
  | .initializeMappingConfig c => some { t with mappingConfigOpt := some c }

/-- The request of `remap_port`, if it is time for one. -/
def ThreadGuts.remapPort (t : ThreadGuts) (now : Nat) : Option MappingConfig :=
  match t.mappingConfigOpt with
  | none => none
  | some c =>
    if c.remapInterval < now - t.lastRemapped then some { c with nextLifetime := secs (max 1 c.nextLifetimeSecs) }
    else none

/-- `mapped` says when each port was mapped last, and its remap interval. -/
structure Transactor where
  clock : Nat
  commands : List HousekeepingThreadCommand
  thread : ThreadGuts
  mapped : UInt16 → Option (Nat × Nat)

/-- A call of `add_mapping` after some time, or a pass of the loop: it sleeps, and a transaction takes its time. -/
inductive Event where
  | addMapping (holePort : UInt16) (lifetime approved elapsed : Nat)
  | pass (slept transaction approved : Nat)

namespace Transactor

variable (s : Transactor)

def start (now : Nat) : Transactor := ⟨now, [], ⟨now, none⟩, fun _ => none⟩

def received : Option ThreadGuts := (s.commands.take 1).foldlM ThreadGuts.receive s.thread

def step : Event → Transactor
  | .addMapping holePort lifetime approved elapsed =>
    let c := MappingConfig.transact ⟨holePort, secs lifetime, 0⟩ approved
    ⟨s.clock + elapsed, s.commands ++ [.initializeMappingConfig c], s.thread,
      Function.update s.mapped holePort (some (s.clock + elapsed, c.remapInterval))⟩
  | .pass slept transaction approved =>
    match s.received with
    | none => s
    | some t =>
      match t.remapPort (s.clock + slept) with
      | none => ⟨s.clock + slept, s.commands.tail, t, s.mapped⟩
      | some request =>
        let c := request.transact approved
        let now := s.clock + slept + transaction
        ⟨now, s.commands.tail, ⟨now, some c⟩, Function.update s.mapped c.holePort (some (now, c.remapInterval))⟩

/-- A pass asks the router again for every port whose own interval has gone by, for a second at least. -/
def Renews : Event → Prop
  | .addMapping .. => True
  | .pass slept _ _ => ∀ port mapping, s.mapped port = some mapping → mapping.2 < s.clock + slept - mapping.1 →
      ∃ t ∈ s.received, ∃ request ∈ t.remapPort (s.clock + slept),
        request.holePort = port ∧ 1 ≤ request.nextLifetimeSecs

/-- No port is added but the one that was, and no pass finds more than one command. -/
def SinglePort : Event → Prop
  | .addMapping holePort _ _ _ => ∀ port, s.mapped port ≠ none → port = holePort
  | .pass .. => s.commands.length ≤ 1

/-- The thread has the mapping of every mapped port. -/
def TrackedBy (t : ThreadGuts) : Prop := t.lastRemapped ≤ s.clock ∧ ∀ port mapping, s.mapped port = some mapping →
  t.lastRemapped ≤ mapping.1 ∧ ∃ c, t.mappingConfigOpt = some c ∧ c.holePort = port ∧ c.remapInterval = mapping.2

/-- It will, once it has received all commands. -/
def UpToDate : Prop := ∃ t, s.commands.foldlM ThreadGuts.receive s.thread = some t ∧ s.TrackedBy t

variable {s} {e : Event}

theorem UpToDate.received (h : s.UpToDate) (hc : s.commands.length ≤ 1) :
    ∃ t, s.received = some t ∧ s.commands.tail = [] ∧ s.TrackedBy t := by
  obtain ⟨t, hr, ht⟩ := h
  exact ⟨t, by rw [Transactor.received, List.take_of_length_le hc, hr],
    List.length_eq_zero_iff.1 (by rw [List.length_tail]; omega), ht⟩

theorem UpToDate.renews (h : s.UpToDate) (hs : s.SinglePort e) : s.Renews e := by
  cases e with
  | addMapping => trivial
  | pass slept transaction approved =>
    intro port mapping hm hd
    obtain ⟨t, hr, -, -, hp⟩ := h.received hs
    obtain ⟨hl, c, hc, rfl, hi⟩ := hp port mapping hm
    have hdue : c.remapInterval < s.clock + slept - t.lastRemapped := by omega
    refine ⟨t, hr, { c with nextLifetime := secs (max 1 c.nextLifetimeSecs) }, ?_, rfl, ?_⟩
    · simp [ThreadGuts.remapPort, hc, hdue]
    · simp only [MappingConfig.nextLifetimeSecs, secs]
      omega

theorem UpToDate.step (h : s.UpToDate) (hs : s.SinglePort e) : (s.step e).UpToDate := by
  cases e with
  | addMapping holePort lifetime approved elapsed =>
    obtain ⟨t, hr, hl, -⟩ := h
    have hl' : t.lastRemapped ≤ s.clock + elapsed := Nat.le_add_right_of_le hl
    refine ⟨{ t with mappingConfigOpt := some _ }, by simp [Transactor.step, hr, ThreadGuts.receive]; rfl, hl', ?_⟩
    intro port mapping hm
    simp only [Transactor.step, Function.update_apply] at hm
    split_ifs at hm with hk
    · cases hm
      exact ⟨hl', _, rfl, hk.symm, rfl⟩
    · exact absurd (hs port (by simp [hm])) hk
  | pass slept transaction approved =>
    obtain ⟨t, hr, hn, hl, hp⟩ := h.received hs
    simp only [Transactor.step, hr]
    cases hq : t.remapPort (s.clock + slept) with
    | none => exact ⟨t, by simp [hn], Nat.le_add_right_of_le hl, hp⟩
    | some request =>
      refine ⟨_, by simp only [hn]; rfl, le_rfl, fun port mapping hm => ?_⟩
      simp only [Function.update_apply] at hm
      split_ifs at hm with hk
      · cases hm
        exact ⟨le_rfl, _, rfl, hk.symm, rfl⟩
      · obtain ⟨-, c, hc, rfl, -⟩ := hp port mapping hm
        simp only [ThreadGuts.remapPort, hc] at hq
        split_ifs at hq
        cases hq
        exact absurd rfl hk

def onePort : List Event := [.addMapping 80 600 600 1, .pass 1 1 600, .pass (secs 301) 1 600]

end Transactor

end MasqMobile.Pcp
