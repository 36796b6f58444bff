import MasqMobile.Mobile.Core

/-!
# The embedded node

The node runs on a thread of its own and tells the core how it fares by values that both can write. When it ends,
`finish` resets them one after the other, and a poll that reads them meanwhile can meet some before and some after.

| here | there |
| --- | --- |
| `Runtime`, `Runtime.prepare`, `Runtime.stop` | mobile_runtime.rs:24, 95, 424 |
| `Runtime.advance` | what the node reports, and `finish` (mobile_runtime.rs:478) |
| `Runtime.snapshot` | mobile_runtime.rs:449, with the progress of the node between two reads |
| `Runtime.retryConnection`, `Runtime.setMinHops` | mobile_runtime.rs:292, 331 |
| `Runtime.stopWithTimeout` | engine.rs:123, with the progress of the node during the waits |

The recipients of the actors are left out: whether there is one, and a message could be sent, comes in with the
operation. What a failed launch has prepared is not read before the next one.
-/

namespace MasqMobile

open Run MobileCore

inductive NodeThread
  | absent
  | running
  | finishing (exitCode : Int) (stores : Nat)
  | ended (exitCode : Int)
  deriving DecidableEq

def NodeThread.alive : NodeThread → Bool
  | .running | .finishing _ _ => true
  | _ => false

structure Runtime where
  started : Bool := false
  stopRequested : Bool := false
  proxyPort : Nat := 0
  routeStage : Nat := 0
  routeHops : Nat := 0
  lastExitCode : Option Int := none
  lastConnectionError : Option String := none
  thread : NodeThread := .absent
  /-- Some registered actor arbiter is connected. -/
  arbiters : Bool := false

inductive NodeStep
  | markStarted
  | reportRouteStage (stage : Nat)
  | reportRouteHops (hops : Nat)
  | reportConnectionError (message : String)
  | arbiterConnected
  | arbitersGone
  | exit (exitCode : Int)
  | store

/-- What the node does while it is asked to stop, while its thread is waited for, and then while the arbiters are. -/
structure StopWait where
  asking : List NodeStep
  thread : List NodeStep
  arbiters : List NodeStep

namespace Runtime

/-- `prepare`, and the thread is spawned. -/
def prepare (proxyPort : Nat) : Runtime := { proxyPort, thread := .running }

variable (r : Runtime)

def embedded : Bool :=
  match r.thread with
  | .running => true
  | .finishing _ stores => stores < 7
  | _ => false

/-- The next store of `finish`. -/
def store (exitCode : Int) : Nat → Runtime
  | 0 => { r with started := false, thread := .finishing exitCode 1 }
  | 1 => { r with stopRequested := false, thread := .finishing exitCode 2 }
  | 2 => { r with proxyPort := 0, thread := .finishing exitCode 3 }
  | 3 => { r with routeStage := 0, thread := .finishing exitCode 4 }
  | 4 => { r with routeHops := 0, thread := .finishing exitCode 5 }
  | 5 => { r with lastExitCode := some exitCode, thread := .finishing exitCode 6 }
  | 6 => { r with thread := .finishing exitCode 7 }
  | _ => { r with thread := .ended exitCode }

def advance : NodeStep → Runtime
  | .markStarted => if r.embedded then { r with started := true } else r
  | .reportRouteStage stage =>
    if r.embedded then { r with routeStage := min stage 2, routeHops := if stage = 0 then 0 else r.routeHops } else r
  | .reportRouteHops hops => if r.embedded then { r with routeHops := min hops 255 } else r
  | .reportConnectionError message => if r.embedded then { r with lastConnectionError := some message } else r
  | .arbiterConnected => if r.thread = .running then { r with arbiters := true } else r
  | .arbitersGone => { r with arbiters := false }
  | .exit exitCode => if r.thread = .running then { r with thread := .finishing exitCode 0 } else r
  | .store =>
    match r.thread with
    | .finishing exitCode stores => r.store exitCode stores
    | _ => r

def stop (asking : List NodeStep) : Runtime :=
  if r.embedded then { run advance r asking with stopRequested := true } else r

/-- The values are read one by one; `between i` is what the node does before the next. The last connection error and the
thread are looked at together: no poll depends on both. -/
def snapshot (between : Fin 6 → List NodeStep) (secs : Nat) : EnginePoll × Runtime :=
  let r₁ := run advance r (between 0)
  let r₂ := run advance r₁ (between 1)
  let r₃ := run advance r₂ (between 2)
  let r₄ := run advance r₃ (between 3)
  let r₅ := run advance r₄ (between 4)
  let r₆ := run advance r₅ (between 5)
  (⟨⟨r₂.started, r₃.stopRequested, if r.proxyPort = 0 then none else some r.proxyPort, r₄.routeStage, r₅.routeHops,
    r₁.lastExitCode, secs, r₆.lastConnectionError⟩, !r₆.thread.alive⟩, r₆)

def retryConnection (sent : Option Bool) : Except CoreError Unit × Runtime :=
  if ¬r.embedded ∨ ¬r.started then (.error (.retry "The embedded MASQ Node is not ready to retry."), r)
  else
    let r := { r with routeStage := 0, routeHops := 0, lastConnectionError := none }
    let retried := match sent with
      | none => .error (.retry "The MASQ neighborhood is not ready to retry.")
      | some false => .error (.retry "The MASQ neighborhood could not restart its handshake.")
      | some true => .ok ()
    (retried, r)

def setMinHops (sent : Bool) : Except CoreError Unit × Runtime :=
  if sent then (.ok (), { r with routeStage := min r.routeStage 1, routeHops := 0 }) else (.error .hopsNotApplied, r)

def stopWithTimeout (engine : EngineHandle) (wait : StopWait) : Except (CoreError × Bool) Unit × Runtime :=
  let r₁ := run advance (r.stop wait.asking) wait.thread
  if engine.thread ∧ r₁.thread.alive then (.error (.didNotStop, true), r₁)
  else
    let r₂ := run advance r₁ wait.arbiters
    if r₂.arbiters then (.error (.actorsDidNotStop, false), r₂)
    else match engine.thread, r₁.thread with
      | true, .ended 0 => (.ok (), r₂)
      | true, .ended exitCode => (.error (.stoppedWith exitCode, false), r₂)
      | _, _ => (.ok (), r₂)

end Runtime

/-- The app's process: the core, the node, and whether the engine launched last was asked to stop. -/
structure MobileApp where
  core : MobileCore := {}
  runtime : Runtime := {}
  stopAsked : Bool := false

inductive AppOp
  | node (step : NodeStep)
  | configure (parsed : Except CoreError MobileConfig)
  | importWallet (imported : Except CoreError String)
  | updateMinHops (minHops : Nat) (sent : Bool)
  | start (sent : Option Bool) (launched : Except CoreError Nat) (between : Fin 6 → List NodeStep)
  | stop
  | shutdown (wait : StopWait)
  | reset (wait : StopWait)
  | resetNetworkProfile (wait : StopWait)
  | removeWallet (wait : StopWait)
  | setProxyEnabled (enabled : Bool)
  | statusJson (between : Fin 6 → List NodeStep) (secs : Nat)

namespace MobileApp

/-- An operation of the core that does not touch the node. -/
def onCore (a : MobileApp) (op : CoreOp) : Except CoreError Unit × MobileApp :=
  ((a.core.step op).1, { a with core := (a.core.step op).2 })

def stopEngine (a : MobileApp) (wait : StopWait) (op : Except (CoreError × Bool) Unit → CoreOp) : MobileApp :=
  match a.core.engine with
  | none => (a.onCore (op (.ok ()))).2
  | some engine =>
    let stopped := a.runtime.stopWithTimeout engine wait
    ⟨(a.core.step (op stopped.1)).2, stopped.2, true⟩

def start (a : MobileApp) (sent : Option Bool) (launched : Except CoreError Nat) (between : Fin 6 → List NodeStep) :
    Except CoreError Unit × MobileApp :=
  let retried := a.runtime.retryConnection sent
  let polled := retried.2.snapshot between 0
  let o := a.core.start retried.1 launched polled.1
  if a.core.config.isNone ∨ a.core.wallet.isNone ∨ a.core.phase = .connected then (o.1, { a with core := o.2 })
  else match a.core.engine, retried.1, launched with
    | some _, .error _, _ => (o.1, { a with core := o.2, runtime := retried.2 })
    | some _, .ok _, _ => (o.1, { a with core := o.2, runtime := polled.2 })
    | none, _, .ok proxyPort => (o.1, ⟨o.2, .prepare proxyPort, false⟩)
    | none, _, .error _ => (o.1, { a with core := o.2 })

def updateMinHops (a : MobileApp) (minHops : Nat) (sent : Bool) : MobileApp := let applied := a.runtime.setMinHops sent
  let asked := (1 ≤ minHops ∧ minHops ≤ 6) ∧ a.core.config.isSome ∧ a.core.engine.isSome
  { (a.onCore (.updateMinHops minHops applied.1)).2 with runtime := if asked then applied.2 else a.runtime }

def statusJson (a : MobileApp) (between : Fin 6 → List NodeStep) (secs : Nat) : MobileApp :=
  if a.core.engine.isNone then a
  else
    let polled := a.runtime.snapshot between secs
    { a with core := a.core.refreshEngineStatus polled.1, runtime := polled.2 }

def step (a : MobileApp) : AppOp → MobileApp
  | .node s => { a with runtime := a.runtime.advance s }
  | .configure parsed => (a.onCore (.configure parsed)).2
  | .importWallet imported => (a.onCore (.importWallet imported)).2
  | .updateMinHops minHops sent => a.updateMinHops minHops sent
  | .start sent launched between => (a.start sent launched between).2
  | .stop => (a.onCore .stop).2
  | .shutdown wait => a.stopEngine wait .shutdown
  | .reset wait => a.stopEngine wait .reset
  | .resetNetworkProfile wait => a.stopEngine wait .resetNetworkProfile
  | .removeWallet wait => a.stopEngine wait .removeWallet
  | .setProxyEnabled enabled => (a.onCore (.setProxyEnabled enabled)).2
  | .statusJson between secs => a.statusJson between secs

end MobileApp

/-! ## What the node does by itself -/

namespace Runtime

variable {r r' r'' : Runtime}

/-- What nothing undoes without a launch or a stop: a thread that has ended, arbiters gone after it, and that no stop
was asked for. -/
structure Follows (r r' : Runtime) : Prop where
  thread : r.thread.alive = false → r'.thread = r.thread
  arbiters : r.thread.alive = false → r.arbiters = false → r'.arbiters = false
  unasked : r.stopRequested = false → r'.stopRequested = false

theorem Follows.refl (r : Runtime) : Follows r r := ⟨fun _ => rfl, fun _ => id, id⟩

theorem Follows.trans (h : Follows r r') (h' : Follows r' r'') : Follows r r'' where
  thread hr := (h'.thread (by rw [h.thread hr, hr])).trans (h.thread hr)
  arbiters hr ha := h'.arbiters (by rw [h.thread hr, hr]) (h.arbiters hr ha)
  unasked hu := h'.unasked (h.unasked hu)

variable (r)

theorem follows_store (ht : r.thread.alive) : Follows r (r.store exitCode stores) := by
  unfold store
  split <;> constructor <;> simp_all

theorem follows_advance (s : NodeStep) : Follows r (r.advance s) := by
  cases s with
  | store =>
    simp only [advance]
    split
    · rename_i ht
      exact follows_store _ (by rw [ht]; rfl)
    · exact .refl r
  | _ =>
    -- the thread and the arbiters change while it runs only, and nothing else here counts
    simp only [advance]
    constructor <;> grind [NodeThread.alive]

theorem follows_run (steps : List NodeStep) : Follows r (run advance r steps) :=
  run_invariant (Follows r) (fun _ s h => h.trans (follows_advance _ s)) (.refl r) steps

/-- A poll reads no stop request that was not made, and finds the thread finished only if it has ended. -/
theorem follows_snapshot (between : Fin 6 → List NodeStep) (secs : Nat) : Follows r (r.snapshot between secs).2 ∧
      (r.stopRequested = false → (r.snapshot between secs).1.stopRequested = false) ∧
      (r.snapshot between secs).1.finished = !(r.snapshot between secs).2.thread.alive := by
  have h₃ := ((follows_run r (between 0)).trans (follows_run _ (between 1))).trans (follows_run _ (between 2))
  refine ⟨?_, h₃.unasked, rfl⟩
  exact ((h₃.trans (follows_run _ (between 3))).trans (follows_run _ (between 4))).trans (follows_run _ (between 5))

/-- The thread ends with code 0 before the time is over, and the arbiters go. -/
def EndsInTime (engine : EngineHandle) (wait : StopWait) : Prop :=
  let r₁ := run advance (r.stop wait.asking) wait.thread
  (engine.thread → r₁.thread = .ended 0) ∧ (run advance r₁ wait.arbiters).arbiters = false

variable {r}

theorem embedded_of_ended (h : r.thread.alive = false) : r.embedded = false := by
  unfold embedded
  cases ht : r.thread <;> simp_all [NodeThread.alive]

theorem stopWithTimeout_of_endsInTime {engine : EngineHandle} {wait : StopWait} (h : r.EndsInTime engine wait)
    (hj : engine.thread = false → r.thread.alive = false) :
    (r.stopWithTimeout engine wait).1 = .ok () ∧ (r.stopWithTimeout engine wait).2.thread.alive = false ∧
      (r.stopWithTimeout engine wait).2.arbiters = false := by
  obtain ⟨ht, ha⟩ := h
  have hr₂ := follows_run (run advance (r.stop wait.asking) wait.thread) wait.arbiters
  have hgone : (run advance (r.stop wait.asking) wait.thread).thread.alive = false := by
    cases he : engine.thread with
    | true => rw [ht he]; rfl
    | false =>
      rw [stop, embedded_of_ended (hj he), if_neg (by decide), (follows_run r wait.thread).thread (hj he), hj he]
  have hgone₂ := hgone
  rw [← hr₂.thread hgone] at hgone₂
  cases he : engine.thread <;> simp_all [stopWithTimeout]

end Runtime

/-! ## Starting again -/

namespace MobileApp

variable {a : MobileApp} {op : AppOp}

theorem core_stopEngine (op : Except (CoreError × Bool) Unit → CoreOp) :
    ∃ stopped, (a.stopEngine wait op).core = (a.core.step (op stopped)).2 := by
  unfold stopEngine
  split
  · exact ⟨.ok (), rfl⟩
  · exact ⟨_, rfl⟩

theorem core_step : (a.step op).core = a.core ∨ ∃ cop, (a.step op).core = (a.core.step cop).2 := by
  cases op with
  | node s => exact .inl rfl
  | configure parsed => exact .inr ⟨.configure parsed, rfl⟩
  | importWallet imported => exact .inr ⟨.importWallet imported, rfl⟩
  | updateMinHops minHops sent => exact .inr ⟨.updateMinHops minHops _, rfl⟩
  | start sent launched between =>
    refine .inr ⟨.start (a.runtime.retryConnection sent).1 launched
      ((a.runtime.retryConnection sent).2.snapshot between 0).1, ?_⟩
    unfold step start MobileCore.step
    grind
  | stop => exact .inr ⟨.stop, rfl⟩
  | shutdown wait => exact .inr ((core_stopEngine .shutdown).imp' _ fun _ h => h)
  | reset wait => exact .inr ((core_stopEngine .reset).imp' _ fun _ h => h)
  | resetNetworkProfile wait => exact .inr ((core_stopEngine .resetNetworkProfile).imp' _ fun _ h => h)
  | removeWallet wait => exact .inr ((core_stopEngine .removeWallet).imp' _ fun _ h => h)
  | setProxyEnabled enabled => exact .inr ⟨.setProxyEnabled enabled, rfl⟩
  | statusJson between secs =>
    refine .inr ⟨.statusJson (a.runtime.snapshot between secs).1, ?_⟩
    unfold step statusJson MobileCore.step refreshEngineStatus
    grind

variable {c : MobileCore} {p : EnginePoll}

theorem connected_refresh (hc : c.phase = .connected → c.engine.isSome)
    (h : (c.refreshEngineStatus p).phase = .connected) : c.engine.isSome := by
  unfold refreshEngineStatus at h
  grind

theorem connected_run (ops : List AppOp) :
    (run step {} ops).core.phase = .connected → (run step {} ops).core.engine.isSome := by
  refine run_invariant (fun a : MobileApp => a.core.phase = .connected → a.core.engine.isSome) (fun a op h => ?_)
    (by simp) ops
  obtain hs | ⟨cop, hs⟩ := core_step <;> rw [hs]
  · exact h
  intro hc
  have heff := a.core.effect cop
  cases heff with
  | same _ hs => rw [hs.2.2]; exact h (hs.1 ▸ hc)
  | failed hp | paused hp | stuck _ hp | launched hp => simp [hp] at hc
  | replaced _ hp | idled hp => obtain hp | hp := hp <;> simp [hp] at hc
  | polled p c₀ _ h₀ hs =>
    rw [hs.2.2, isSome_engine_refresh]
    refine connected_refresh (p := p) ?_ (hs.1 ▸ hc)
    obtain h₀ | h₀ := h₀
    · rw [h₀.1, h₀.2.2]; exact h
    · simp [h₀.1]
  | flagged enabled _ _ hs => rw [hs] at hc ⊢; exact h hc

/-- The start launches a new thread, or returns the error of the launch. -/
def StartsAnew (a : MobileApp) (sent : Option Bool) (launched : Except CoreError Nat)
    (between : Fin 6 → List NodeStep) : Prop :=
  match launched with
  | .ok _ => (a.start sent launched between).1 = .ok () ∧ (a.start sent launched between).2.runtime.thread = .running
  | .error e => (a.start sent launched between).1 = .error e

def sampleLaunch : List AppOp :=
  [.configure (.ok MobileCore.sampleConfig), .importWallet (.ok "0x01"), .start (some true) (.ok 44443) fun _ => []]

def sampleExit (exitCode : Int) : List NodeStep := .exit exitCode :: List.replicate 8 .store

/-- **An ended engine can be started again exactly if the core has given up its handle.** In every state that is
reached, with a profile and a wallet. -/
theorem restart_iff (ops : List AppOp) (hconfig : (run step {} ops).core.config.isSome)
    (hwallet : (run step {} ops).core.wallet.isSome) (hended : (run step {} ops).runtime.thread.alive = false) :
    (∀ sent launched between, (run step {} ops).StartsAnew sent launched between) ↔
      (run step {} ops).core.engine = none := by
  have hconn := connected_run ops
  generalize run step {} ops = a at *
  constructor
  · intro h
    by_contra he
    -- the retry of an ended engine fails
    have hr : ∀ sent, a.runtime.retryConnection sent =
        (.error (.retry "The embedded MASQ Node is not ready to retry."), a.runtime) := by
      intro sent
      simp [Runtime.retryConnection, Runtime.embedded_of_ended hended]
    have := (h (some true) (.ok 0) fun _ => []).2
    have ht : a.runtime.thread ≠ .running := fun ht => by simp [ht, NodeThread.alive] at hended
    unfold start at this
    grind
  · intro he sent launched between
    have hn : a.core.phase ≠ .connected := fun hc => by simp [he] at hconn; exact hconn hc
    have hc : a.core.config.isNone = false := by simpa using hconfig
    have hw : a.core.wallet.isNone = false := by simpa using hwallet
    cases launched with
    | ok port => simp [StartsAnew, start, MobileCore.start, he, hc, hw, hn, Runtime.prepare]
    | error e => simp [StartsAnew, start, MobileCore.start, he, hc, hw, hn, MobileCore.fail]

/-- A node that fails by itself cannot be started again: the retry of its connection is refused. -/
theorem failed_node_not_restarted : let a := run step {} (sampleLaunch ++ (sampleExit 1).map .node)
    a.runtime.thread = .ended 1 ∧ (a.start (some true) (.ok 44443) fun _ => []).1 =
        .error (.retry "The embedded MASQ Node is not ready to retry.") ∧
      ¬a.StartsAnew (some true) (.ok 44443) fun _ => [] :=
  ⟨rfl, rfl, fun h => nomatch h.1⟩

theorem restart_iff_after_shutdown : let ops := sampleLaunch ++ [.shutdown ⟨[], sampleExit 0, []⟩]
    (∀ sent launched between, (run step {} ops).StartsAnew sent launched between) ↔
      (run step {} ops).core.engine = none :=
  restart_iff _ rfl rfl rfl

/-! ## Ready means stopped -/

/-- What is to hold of a status poll: one that shows no engine finds the thread ended and the arbiters gone, and one
after an engine has ended with code 0 on request reports no error of it. -/
def ReadyMeansStopped (a : MobileApp) : Prop := ∀ between secs, ((a.statusJson between secs).core.IsIdle →
      (a.statusJson between secs).runtime.thread.alive = false ∧ (a.statusJson between secs).runtime.arbiters = false) ∧
    (a.stopAsked → a.runtime.thread = .ended 0 → (a.statusJson between secs).core.phase = .error →
      a.core.phase = .error ∧ a.core.engine = none)

/-- The profile and the wallet are replaced without an engine only, and an engine that is asked to stop ends in time. -/
def Prompt (a : MobileApp) : AppOp → Prop
  | .configure _ | .importWallet _ => a.core.engine = none
  | .shutdown wait | .reset wait | .resetNetworkProfile wait | .removeWallet wait =>
    ∀ engine, a.core.engine = some engine → a.runtime.EndsInTime engine wait
  | _ => True

/-- Without an engine nothing of the node is left; with one the phase is not idle, no stop was asked for, and a joined
thread has ended. -/
structure Attended (a : MobileApp) : Prop where
  gone : a.core.engine = none → a.runtime.thread.alive = false ∧ a.runtime.arbiters = false
  busy : a.core.engine.isSome → ¬a.core.IsIdle ∧ a.runtime.stopRequested = false ∧ a.stopAsked = false
  joined : ∀ engine, a.core.engine = some engine → engine.thread = false → a.runtime.thread.alive = false

theorem Attended.keep (h : a.Attended) (he : c.engine = a.core.engine)
    (hp : c.engine.isSome → ¬a.core.IsIdle → ¬c.IsIdle) (hr : a.runtime.Follows r) :
    Attended { a with core := c, runtime := r } where
  gone hn := by
    obtain ⟨ht, ha⟩ := h.gone (he.symm.trans hn)
    exact ⟨by rw [hr.thread ht, ht], hr.arbiters ht ha⟩
  busy hs := by
    obtain ⟨hi, hu, hask⟩ := h.busy (he ▸ hs)
    exact ⟨hp hs hi, hr.unasked hu, hask⟩
  joined engine hs hj := by
    have ht := h.joined engine (he.symm.trans hs) hj
    rw [hr.thread ht, ht]

theorem not_isIdle_refresh (hp : p.stopRequested = false) (hc : ¬c.IsIdle) : ¬(c.refreshEngineStatus p).IsIdle := by
  unfold MobileCore.IsIdle refreshEngineStatus at *
  grind [recordError]

theorem Attended.refresh (h : Attended { a with core := c, runtime := r }) (hp : p.stopRequested = false)
    (hf : p.finished = !r.thread.alive) :
    Attended { a with core := c.refreshEngineStatus p, runtime := r } where
  gone hn := by
    have hs := isSome_engine_refresh c p
    rw [show (c.refreshEngineStatus p).engine = none from hn] at hs
    exact h.gone (Option.not_isSome_iff_eq_none.1 (by simp [← hs]))
  busy hs := by
    obtain ⟨hi, hu, hask⟩ := h.busy (by rwa [isSome_engine_refresh] at hs)
    exact ⟨not_isIdle_refresh hp hi, hu, hask⟩
  joined engine hs hj := by
    have := h.joined
    unfold refreshEngineStatus at hs
    grind [recordError]

theorem Attended.statusJson (h : a.Attended) (between : Fin 6 → List NodeStep) (secs : Nat) :
    (a.statusJson between secs).Attended := by
  unfold MobileApp.statusJson
  split
  · exact h
  · rename_i he
    obtain ⟨hr, hu, hf⟩ := a.runtime.follows_snapshot between secs
    exact (h.keep rfl (fun _ => id) hr).refresh (hu (h.busy (by simpa [Option.isSome_iff_ne_none] using he)).2.1) hf

theorem engine_stopEngine
    (hi : ∀ c, c.engine = none → (idled c).engine = none) : (c.stopEngine (.ok ()) idled).engine = none := by
  unfold MobileCore.stopEngine
  split
  · contradiction
  · exact hi _ rfl

theorem Attended.stopEngine (h : a.Attended) {wait : StopWait} {op : Except (CoreError × Bool) Unit → CoreOp}
    (hop : ∀ engine, a.core.engine = some engine → a.runtime.EndsInTime engine wait)
    (he : (a.core.step (op (.ok ()))).2.engine = none) : (a.stopEngine wait op).Attended := by
  unfold MobileApp.stopEngine
  split
  · rename_i hn
    exact ⟨fun _ => h.gone hn, fun hs => by simp [onCore, he] at hs, fun e hs => by simp [onCore, he] at hs⟩
  · rename_i engine hs
    obtain ⟨hok, ht, ha⟩ := Runtime.stopWithTimeout_of_endsInTime (hop engine hs) (h.joined engine hs)
    exact ⟨fun _ => ⟨ht, ha⟩, fun hs => by simp [hok, he] at hs, fun e hs => by simp [hok, he] at hs⟩

theorem start_cases
    :
    let r := (a.runtime.retryConnection sent).2
    let polled := r.snapshot between 0
    let a' := (a.start sent launched between).2
    (∃ e, a' = { a with core := a.core.recordError e }) ∨ a' = a ∨ a' = { a with runtime := r } ∨
      a.core.engine.isSome ∧ a' = ⟨a.core.retrying.refreshEngineStatus polled.1, polled.2, a.stopAsked⟩ ∨
      ∃ port, a' = ⟨{ a.core with phase := .connecting, proxyEnabled := false, engine := some ⟨true, port⟩ },
        .prepare port, false⟩ := by
  simp only [start, MobileCore.start, MobileCore.fail]
  by_cases hc : a.core.config.isNone ∨ a.core.wallet.isNone
  · simp only [if_pos hc, if_pos (or_assoc.1 (.inl hc))]
    exact .inl ⟨_, rfl⟩
  by_cases hn : a.core.phase = .connected
  · simp only [if_neg hc, if_pos hn, if_pos (or_assoc.1 (.inr hn)), true_or, or_true]
  simp only [if_neg hc, if_neg hn, if_neg (mt or_assoc.2 (not_or.2 ⟨hc, hn⟩))]
  cases a.core.engine with
  | none =>
    cases launched with
    | ok port => exact .inr (.inr (.inr (.inr ⟨port, rfl⟩)))
    | error e => exact .inl ⟨e, rfl⟩
  | some engine =>
    cases (a.runtime.retryConnection sent).1 with
    | ok _ => exact .inr (.inr (.inr (.inl ⟨rfl, rfl⟩)))
    | error e => exact .inr (.inr (.inl rfl))

theorem Attended.start (h : a.Attended) (sent : Option Bool) (launched : Except CoreError Nat)
    (between : Fin 6 → List NodeStep) :
    (a.start sent launched between).2.Attended := by
  have hr : a.runtime.Follows (a.runtime.retryConnection sent).2 := by
    unfold Runtime.retryConnection
    split
    · exact .refl _
    · exact ⟨fun _ => rfl, fun _ => id, id⟩
  obtain ⟨hp, hu, hf⟩ := (a.runtime.retryConnection sent).2.follows_snapshot between 0
  obtain ⟨e, hs⟩ | hs | hs | ⟨he, hs⟩ | ⟨port, hs⟩ := start_cases <;> rw [hs]
  · exact h.keep rfl (fun _ _ => by simp [MobileCore.IsIdle, recordError]) (.refl _)
  · exact h
  · exact h.keep rfl (fun _ => id) hr
  · refine Attended.refresh (h.keep rfl (fun _ _ => ?_) (hr.trans hp)) (hu (hr.unasked (h.busy he).2.1)) hf
    simp [MobileCore.IsIdle, retrying]
  · exact ⟨by simp, by simp [MobileCore.IsIdle, Runtime.prepare], by simp⟩

/-- An operation that neither stops nor polls keeps the engine, and does not make the phase idle unless it replaces the
profile or the wallet. -/
theorem engine_kept {cop : CoreOp} (hs : cop.stops = false) (hp : cop.poll = none) : (c.step cop).2.engine = c.engine ∧
      (cop.replaces = false → (c.step cop).2.engine.isSome → ¬c.IsIdle → ¬(c.step cop).2.IsIdle) := by
  have heff := c.effect cop
  cases heff with
  | same _ h => exact ⟨h.2.2, fun _ _ hi => by rwa [MobileCore.IsIdle, h.1]⟩
  | failed h _ he | paused h _ he => exact ⟨he, fun _ _ _ => by simp [MobileCore.IsIdle, h]⟩
  | replaced hop _ _ he => exact ⟨he, by simp [hop]⟩
  | idled _ _ he he₀ => exact ⟨he.trans (he₀ hs).symm, by simp [he]⟩
  | stuck hop => cases cop <;> simp_all [CoreOp.reportsStuck, CoreOp.stops]
  | launched _ _ hop => simp [hp] at hop
  | polled _ _ hop => simp [hp] at hop
  | flagged _ _ _ h => rw [h]; exact ⟨rfl, fun _ _ => id⟩

theorem Attended.onCore (h : a.Attended) {cop : CoreOp} (hs : cop.stops = false) (hp : cop.poll = none)
    (hr : cop.replaces → a.core.engine = none) : (a.onCore cop).2.Attended := by
  obtain ⟨he, hi⟩ := engine_kept (c := a.core) hs hp
  refine h.keep he (fun hsome => ?_) (.refl _)
  cases hrep : cop.replaces with
  | true => rw [he, hr hrep] at hsome; cases hsome
  | false => exact hi hrep hsome

theorem Attended.step (h : a.Attended) (ho : a.Prompt op) : (a.step op).Attended := by
  cases op with
  | node s => exact h.keep rfl (fun _ => id) (Runtime.follows_advance _ s)
  | configure | importWallet => exact h.onCore rfl rfl fun _ => ho
  | updateMinHops minHops sent =>
    have hc : (a.onCore (.updateMinHops minHops (a.runtime.setMinHops sent).1)).2.Attended :=
      h.onCore rfl rfl (by simp [CoreOp.replaces])
    refine hc.keep rfl (fun _ => id) ?_
    unfold Runtime.setMinHops
    constructor <;> grind [MobileApp.onCore]
  | start sent launched between => exact h.start sent launched between
  | stop | setProxyEnabled => exact h.onCore rfl rfl (by simp [CoreOp.replaces])
  | shutdown | resetNetworkProfile | removeWallet => exact h.stopEngine ho (engine_stopEngine fun _ => id)
  | reset wait => exact h.stopEngine ho (engine_stopEngine fun _ _ => rfl)
  | statusJson between secs => exact h.statusJson between secs

theorem Attended.readyMeansStopped (h : a.Attended) : a.ReadyMeansStopped := by
  refine fun between secs => ⟨fun hi => ?_, fun ha _ hp => ?_⟩
  · have hs := h.statusJson between secs
    cases he : (a.statusJson between secs).core.engine with
    | none => exact hs.gone he
    | some engine => exact absurd hi (hs.busy (by simp [he])).1
  · cases he : a.core.engine with
    | none => exact ⟨by simpa [MobileApp.statusJson, he] using hp, rfl⟩
    | some engine => simp [(h.busy (by simp [he])).2.2] at ha

/-- **A node that stops in time leaves nothing behind.** In every run in which the profile and the wallet are replaced
without an engine only, and every engine asked to stop ends in time, a poll that shows no engine finds no thread and
no arbiter, and none reports an error of an engine that ended with code 0 on request. -/
theorem ready_means_stopped (ops : List AppOp) (h : Along step Prompt {} ops) : (run step {} ops).ReadyMeansStopped :=
  (along_invariant Attended (fun _ _ ha ho => ha.step ho) ⟨fun _ => ⟨rfl, rfl⟩, by simp, by simp⟩ h).readyMeansStopped

/-- A profile that is replaced while the node starts shows the core ready. And an engine that ends on request, but too
late, is reported as an error: `finish` takes the stop request back before it stores the exit code. -/
theorem late_stop_is_error :
    ¬(run step {} (sampleLaunch ++ [.configure (.ok MobileCore.sampleConfig)])).ReadyMeansStopped ∧
      ¬(run step {} (sampleLaunch ++ .shutdown ⟨[], [], []⟩ :: (sampleExit 0).map .node)).ReadyMeansStopped := by
  refine ⟨fun h => ?_, fun h => ?_⟩
  · cases ((h (fun _ => []) 0).1 (.inl rfl)).1
  · cases ((h (fun _ => []) 0).2 rfl rfl rfl).2

theorem ready_means_stopped_sample :
    (run step {} (sampleLaunch ++ [.shutdown ⟨[], sampleExit 0, []⟩])).ReadyMeansStopped :=
  ready_means_stopped _ ⟨rfl, rfl, trivial, fun _ h => by cases h; exact ⟨fun _ => rfl, rfl⟩, trivial⟩

end MobileApp

end MasqMobile
