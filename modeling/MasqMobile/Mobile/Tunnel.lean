import MasqMobile.Lib.Run

/-!
# The packet tunnel

One cell holds the cancellation token of the tunnel that runs. `run` puts it there, and both `stop` and the end of a run
take whatever is in the cell.

| here | there |
| --- | --- |
| `PacketTunnel.run` | masq-packet-tunnel/src/lib.rs:10, up to the start of the tunnel |
| `TunnelOp.ended`, `PacketTunnel.cleanUp` | the tunnel returns (lib.rs:44), and what `run` does then (lib.rs:55) |
| `PacketTunnel.stop` | lib.rs:61 |

A tunnel ends when it likes, cancelled or not, and other calls may come before its run has cleaned up. The mutex is
never poisoned, since nothing panics while it is held. -/

namespace MasqMobile

open Run

structure TunnelRun where
  id : Nat
  cancelled : Bool := false
  ended : Bool := false

structure PacketTunnel where
  /-- The run whose token is in the cell. -/
  active : Option Nat := none
  runs : List TunnelRun := []
  next : Nat := 0

inductive TunnelOp
  | run (tunFd : Int) (proxyPort mtu : Nat)
  | stop
  | ended (id : Nat)
  | cleanUp (id : Nat)

namespace PacketTunnel

variable (s : PacketTunnel)

def run (tunFd : Int) (proxyPort mtu : Nat) : Except String Unit × PacketTunnel :=
  if tunFd < 0 ∨ proxyPort = 0 ∨ ¬(1280 ≤ mtu ∧ mtu ≤ 9000) then (.error "Invalid packet-tunnel configuration.", s)
  else if s.active.isSome then (.error "A MASQ packet tunnel is already active.", s)
  else (.ok (), ⟨some s.next, ⟨s.next, false, false⟩ :: s.runs, s.next + 1⟩)

def onRun (id : Nat) (f : TunnelRun → TunnelRun) : List TunnelRun := s.runs.map fun r => if r.id = id then f r else r

def stop : Bool × PacketTunnel :=
  match s.active with
  | none => (false, s)
  | some id => (true, { s with active := none, runs := s.onRun id fun r => { r with cancelled := true } })

/-- Whosever token is in the cell. -/
def cleanUp (id : Nat) : PacketTunnel :=
  if s.runs.any fun r => r.id = id && r.ended then { s with active := none, runs := s.runs.filter (·.id ≠ id) } else s

def step : TunnelOp → PacketTunnel
  | .run tunFd proxyPort mtu => (s.run tunFd proxyPort mtu).2
  | .stop => s.stop.2
  | .ended id => { s with runs := s.onRun id fun r => { r with ended := true } }
  | .cleanUp id => s.cleanUp id

/-- One tunnel at a time; a stop cancels the tunnel that runs, unless it is cancelled already; and the clean-up of one
run leaves the token of another. -/
structure OneTunnel (s : PacketTunnel) : Prop where
  atMostOne : (s.runs.filter fun r => !r.ended).length ≤ 1
  stoppable : ∀ r ∈ s.runs, r.ended = false → r.cancelled = false →
    s.stop.1 = true ∧ ∃ r' ∈ s.stop.2.runs, r'.id = r.id ∧ r'.cancelled = true
  ownToken : ∀ id other, other ≠ id → s.active = some other → (s.cleanUp id).active = some other

/-- A tunnel is started without a token in the cell only once every run before has cleaned up. -/
def Alone : TunnelOp → Prop
  | .run _ _ _ => s.active = none → s.runs = []
  | _ => True

/-- There is one run at most, and its token is in the cell until it is cancelled. -/
def Single : Prop := s.runs = [] ∧ s.active = none ∨
    ∃ r, s.runs = [r] ∧ (s.active = some r.id ∧ r.cancelled = false ∨ s.active = none ∧ r.cancelled = true)

variable {s : PacketTunnel} {op : TunnelOp}

theorem Single.step (h : s.Single) (ho : s.Alone op) : (s.step op).Single := by
  obtain ⟨hr, ha⟩ | ⟨r, hr, ha⟩ := h
  · cases op with
    | run tunFd proxyPort mtu =>
      simp only [PacketTunnel.step, PacketTunnel.run, ha]
      split
      · exact .inl ⟨hr, ha⟩
      · exact .inr ⟨⟨s.next, false, false⟩, by simp [hr], .inl ⟨rfl, rfl⟩⟩
    | stop => exact .inl (by simp [PacketTunnel.step, PacketTunnel.stop, hr, ha])
    | ended id => exact .inl (by simp [PacketTunnel.step, onRun, hr, ha])
    | cleanUp id => exact .inl (by simp [PacketTunnel.step, PacketTunnel.cleanUp, hr, ha])
  · cases op with
    | run tunFd proxyPort mtu =>
      -- the token is there, or the run before would be left
      have hs : s.active.isSome := by
        obtain ⟨ha, -⟩ | ⟨ha, -⟩ := ha
        · simp [ha]
        · cases hr.symm.trans (ho ha)
      simp only [PacketTunnel.step, PacketTunnel.run, hs, if_true]
      split <;> exact .inr ⟨r, hr, ha⟩
    | stop =>
      obtain ⟨ha, -⟩ | ⟨ha, hc⟩ := ha
      · exact .inr ⟨{ r with cancelled := true }, by simp [PacketTunnel.step, PacketTunnel.stop, onRun, hr, ha]⟩
      · exact .inr ⟨r, by simp [PacketTunnel.step, PacketTunnel.stop, hr, ha, hc]⟩
    | ended id =>
      refine .inr ⟨if r.id = id then { r with ended := true } else r, by simp [PacketTunnel.step, onRun, hr], ?_⟩
      split <;> exact ha
    | cleanUp id =>
      simp only [PacketTunnel.step, PacketTunnel.cleanUp, hr]
      split
      · rename_i hid
        exact .inl (by simp_all)
      · exact .inr ⟨r, hr, ha⟩

theorem Single.oneTunnel (h : s.Single) : s.OneTunnel := by
  obtain ⟨hr, ha⟩ | ⟨r, hr, ha⟩ := h
  · exact ⟨by simp [hr], by simp [hr], by simp [ha]⟩
  refine ⟨by rw [hr]; exact List.length_filter_le _ _, fun r' hr' _ hc => ?_, fun id other hne hother => ?_⟩
  · obtain rfl : r' = r := by simpa [hr] using hr'
    obtain ⟨ha, -⟩ | ⟨-, hc'⟩ := ha
    · simp [PacketTunnel.stop, onRun, hr, ha]
    · cases hc.symm.trans hc'
  · obtain ⟨ha, -⟩ | ⟨ha, -⟩ := ha
    · obtain rfl := Option.some.inj (ha.symm.trans hother)
      simp [PacketTunnel.cleanUp, hr, hne, ha]
    · cases ha.symm.trans hother

/-- **One tunnel at a time, always stoppable,** in every state on the way of a run in which no tunnel is started before
those that were stopped have cleaned up. -/
theorem one_tunnel_at_a_time (ops : List TunnelOp) (h : Along step Alone {} ops) : (Run.run step {} ops).OneTunnel :=
  (along_invariant Single (fun _ _ hs ho => hs.step ho) (.inl ⟨rfl, rfl⟩) h).oneTunnel

/-- A tunnel is started while the one that was stopped still runs. The end of the first then takes the token of the
second, which cannot be stopped any more. -/
theorem stopped_tunnel_takes_token : let ops : List TunnelOp := [.run 3 44443 1500, .stop, .run 4 44443 1500]
    ¬(Run.run step {} ops).OneTunnel ∧
      (Run.run step {} (ops ++ [.ended 0, .cleanUp 0])).runs.map (fun r => (r.id, r.cancelled)) = [(1, false)] ∧
      (Run.run step {} (ops ++ [.ended 0, .cleanUp 0])).stop.1 = false :=
  ⟨fun h => absurd h.atMostOne (by decide), by decide, by decide⟩

theorem one_tunnel_at_a_time_sample :
    (Run.run step {} [.run 3 44443 1500, .stop, .ended 0, .cleanUp 0, .run 4 44443 1500]).OneTunnel :=
  one_tunnel_at_a_time _ ⟨fun _ => rfl, trivial, trivial, trivial, fun _ => rfl, trivial⟩

end PacketTunnel

end MasqMobile
