import MasqMobile.Mobile.Core

/-!
# The proxy flag

The app routes its browser through the node while the flag is up, so the flag must not outlive the connection. Along a
run of the core, `Watched` keeps whether an engine was reported stuck that no new one has replaced.
-/

namespace MasqMobile

open Run MobileCore

/-- The core, and whether its engine was reported stuck. -/
structure Watched where
  core : MobileCore := {}
  stuck : Bool := false

namespace Watched

def step (w : Watched) (op : CoreOp) : Watched where
  core := (w.core.step op).2
  stuck := let launched := w.core.engine.isNone && (w.core.step op).2.engine.isSome
    (w.stuck && !launched) || (w.core.engine.isSome && op.reportsStuck)

/-- What is to hold of an operation: a status that shows the flag up shows a connection, or one being made, and a
port; the flag goes up by `set_proxy_enabled` on a connection only; and with a stuck engine there is no connection to
show, and no flag to put up. -/
structure FailClosed (w : Watched) (op : CoreOp) : Prop where
  status : ∀ poll, op = .statusJson poll → (w.step op).core.proxyEnabled →
    ((w.step op).core.phase = .connected ∨ (w.step op).core.phase = .connecting) ∧ (w.step op).core.proxyPort.isSome
  raised : w.core.proxyEnabled = false → (w.step op).core.proxyEnabled →
    op = .setProxyEnabled true ∧ w.core.phase = .connected
  stuck : w.stuck → (∀ poll, op = .statusJson poll → (w.step op).core.phase ≠ .connected) ∧
    (op = .setProxyEnabled true → (w.core.step op).1 ≠ .ok ())

/-- The profile and the wallet are replaced with the flag down only, a snapshot with a stop request comes with the
flag down only, and that of a stuck engine shows no neighbor. -/
def Orderly (w : Watched) (op : CoreOp) : Prop := (op.replaces → w.core.proxyEnabled = false) ∧
  ∀ p, op.poll = some p → (w.stuck → p.routeStage = 0) ∧ (p.stopRequested → w.core.proxyEnabled = false)

/-- With the flag up there is a connection or one being made; and this and a connection need an engine that is not
stuck. -/
structure Guarded (w : Watched) : Prop where
  phase : w.core.proxyEnabled → w.core.phase = .connected ∨ w.core.phase = .connecting
  flag : w.core.proxyEnabled → w.core.engine.isSome ∧ w.stuck = false
  connected : w.core.phase = .connected → w.core.engine.isSome ∧ w.stuck = false

variable {w : Watched} {op : CoreOp} {c c' : MobileCore}

theorem step_eq (he : (w.core.step op).2.engine.isSome = w.core.engine.isSome) (hr : op.reportsStuck = false) :
    w.step op = ⟨(w.core.step op).2, w.stuck⟩ := by
  cases h : w.core.engine <;> simp_all [step]

theorem Guarded.of_same (h : Guarded ⟨c, st⟩) (hs : Same c c') : Guarded ⟨c', st⟩ := by
  obtain ⟨hp, hf, he⟩ := hs
  exact ⟨by simpa [hp, hf] using h.phase, by simpa [hf, he] using h.flag, by simpa [hp, he] using h.connected⟩

theorem guarded_of_quiet (hf : w.core.proxyEnabled = false) (hp : w.core.phase ≠ .connected) : w.Guarded := by
  refine ⟨?_, ?_, fun hc => absurd hc hp⟩ <;> simp [hf]

variable {p : EnginePoll}

/-- A poll keeps the guard, if it shows no neighbor of a stuck engine and no stop request under the flag. -/
theorem Guarded.refresh (h : Guarded ⟨c, st⟩) (hs : st → p.routeStage = 0)
    (hf : p.stopRequested → c.proxyEnabled = false) : Guarded ⟨c.refreshEngineStatus p, st⟩ := by
  obtain ⟨hp, hflag, hc⟩ := h
  unfold refreshEngineStatus
  constructor <;> grind [recordError]

theorem reportsStuck_of_poll (h : op.poll = some p) : op.reportsStuck = false := by
  cases op <;> simp_all [CoreOp.poll, CoreOp.reportsStuck]

theorem Guarded.step (h : w.Guarded) (ho : w.Orderly op) : (w.step op).Guarded := by
  cases effect w.core op with
  | same hr hs =>
    rw [step_eq (by rw [hs.2.2]) hr]
    exact Guarded.of_same h hs
  | failed hp hf | paused hp hf | stuck _ hp hf | launched hp hf =>
    exact guarded_of_quiet hf (by simp [Watched.step, hp])
  | replaced hop hp hf =>
    exact guarded_of_quiet (hf.trans (ho.1 hop)) (by obtain hp | hp := hp <;> simp [Watched.step, hp])
  | idled hp hf => exact guarded_of_quiet hf (by obtain hp | hp := hp <;> simp [Watched.step, hp])
  | polled p c₀ hp h₀ hs =>
    have he : c₀.engine = w.core.engine := h₀.elim (fun h => h.2.2) fun h => h.2.2
    rw [step_eq (by rw [hs.2.2, isSome_engine_refresh, he]) (reportsStuck_of_poll hp)]
    obtain ⟨hst, hsr⟩ := ho.2 p hp
    obtain h₀ | ⟨hc, hf, -⟩ := h₀
    · exact ((Guarded.of_same h h₀).refresh hst fun hr => h₀.2.1.trans (hsr hr)).of_same hs
    · exact ((guarded_of_quiet hf (by simp [hc])).refresh hst fun _ => hf).of_same hs
  | flagged enabled hop hc hs =>
    rw [step_eq (by rw [hs]) (by rw [hop]; rfl), hs]
    exact ⟨fun he => .inl (hc he), fun he => h.connected (hc he), h.connected⟩

theorem refresh_flag (h : (c.refreshEngineStatus p).proxyEnabled) : c.proxyEnabled := by
  unfold refreshEngineStatus at h
  grind [recordError]

theorem raised (hf : w.core.proxyEnabled = false) (h : (w.step op).core.proxyEnabled) :
    op = .setProxyEnabled true ∧ w.core.phase = .connected := by
  have h : (w.core.step op).2.proxyEnabled := h
  have heff := effect w.core op
  cases heff with
  | same _ hs => simp [hs.2.1, hf] at h
  | failed _ hf' | paused _ hf' | idled _ hf' | stuck _ _ hf' | launched _ hf' => simp [hf'] at h
  | replaced _ _ hf' => simp [hf', hf] at h
  | polled p c₀ hp h₀ hs =>
    have hc := refresh_flag (hs.2.1 ▸ h)
    obtain h₀ | h₀ := h₀
    · simp [h₀.2.1, hf] at hc
    · simp [h₀.2.1] at hc
  | flagged enabled hop hc hs =>
    obtain rfl : enabled = true := by simpa [hs] using h
    exact ⟨hop, hc rfl⟩

theorem port_refresh (he : c.engine.isSome) (h : (c.refreshEngineStatus p).phase ≠ .ready) :
    (c.refreshEngineStatus p).proxyPort.isSome := by
  unfold refreshEngineStatus at h ⊢
  grind [recordError]

theorem Guarded.failClosed (h : w.Guarded) (ho : w.Orderly op) : w.FailClosed op where
  status := by
    rintro poll rfl hf
    have hs := h.step ho
    have he : w.core.engine.isSome := (isSome_engine_refresh _ poll).symm.trans (hs.flag hf).1
    refine ⟨hs.phase hf, port_refresh he fun hr => ?_⟩
    obtain hp | hp := hs.phase hf <;> cases hr.symm.trans hp
  raised := raised
  stuck hst := by
    have hne : w.core.phase ≠ .connected := fun hc => by simp [(h.connected hc).2] at hst
    refine ⟨?_, ?_⟩
    · rintro poll rfl hc
      have hs := ((h.step ho).connected hc).2
      rw [step_eq (by rw [MobileCore.step, isSome_engine_refresh]) rfl, hst] at hs
      cases hs
    · rintro rfl
      simp [MobileCore.step, setProxyEnabled, hne, fail]

/-- **The flag is fail-closed** in every operation of an orderly run. -/
theorem proxy_fail_closed (ops : List CoreOp) (h : Along step Orderly {} ops) : Along step FailClosed {} ops := by
  have hg : Guarded {} := guarded_of_quiet rfl (by decide)
  generalize ({} : Watched) = w at h hg
  induction ops generalizing w with
  | nil => trivial
  | cons op ops ih => exact ⟨hg.failClosed h.1, ih _ h.2 (hg.step h.1)⟩

/-- The node is launched, and does not stop in time. -/
def sampleStuck : List CoreOp :=
  [.configure (.ok sampleConfig), .importWallet (.ok "0x01"), .start (.ok ()) (.ok 44443) (samplePoll 0),
    .shutdown (.error (.didNotStop, true))]

/-- While the stuck node still reports a neighbor, the next status shows a connection, and the flag can be put up. -/
theorem stuck_node_connects :
    ¬Along step FailClosed {} (sampleStuck ++ [.statusJson (samplePoll 1), .setProxyEnabled true]) := by
  rintro ⟨-, -, -, -, h, -⟩
  exact (h.stuck rfl).1 _ rfl rfl

theorem proxy_fail_closed_sample :
    Along step FailClosed {} (sampleStuck ++ [.statusJson (samplePoll 0), .setProxyEnabled true]) :=
  proxy_fail_closed _ (by simp [sampleStuck, Along, Orderly, CoreOp.replaces, CoreOp.poll, samplePoll, step,
    MobileCore.step, configure])

end Watched

end MasqMobile
