import MasqMobile.Lib.Run

/-!
# The mobile core

`MobileCore` starts and stops the embedded node and tells the app what to show. What the node answers (a snapshot of its
state, how a launch, a retry or a stop went) comes in with each operation; Engine.lean computes it from the node.

| here | there |
| --- | --- |
| `MobileCore` and its operations | core.rs:43, 80-440 |
| `MobileCore.refreshEngineStatus` | core.rs:397 |
| `MobileCore.stopEngine` | `stop_with_timeout` as used at core.rs:213, 278 |
| `EnginePoll` | `EngineHandle::snapshot` and `reap_if_finished` (engine.rs:90, 164) |

The errors stand for their texts. The parsing of a profile and of a key, the counters of bytes, the exit countries and
the build without an engine are left out.
-/

namespace MasqMobile

open Run

inductive CorePhase
  | unconfigured | ready | connecting | connected | paused | stopping | blocked | error
  deriving DecidableEq, Repr

inductive MobileChain
  | baseMainnet | baseSepolia
  deriving DecidableEq, Repr

structure MobileConfig where
  chain : MobileChain
  rpcUrl : String
  neighbors : List String
  minHops : Nat
  exitCountry : Option String
  exitCountryFallback : Bool
  dataDirectory : Option String
  deriving DecidableEq, Repr

inductive CoreError
  | invalidConfiguration | invalidWallet | runningProfileMissing | restartRequired | hopsOutOfRange | profileMissing
  | hopsNotApplied | incomplete | launch (message : String) | retry (message : String) | proxyNotTestable | proxyTest
  | proxyNeedsRoute | didNotStop | stoppedWith (exitCode : Int) | actorsDidNotStop
  | tcpBlocked | noAnswer | handshake (error : String) | waiting
  deriving DecidableEq, Repr

/-- The join handle is held until the thread was joined. -/
structure EngineHandle where
  thread : Bool
  proxyPort : Nat
  deriving DecidableEq, Repr

structure EngineSnapshot where
  started : Bool
  stopRequested : Bool
  proxyPort : Option Nat
  routeStage : Nat
  routeHops : Nat
  lastExitCode : Option Int
  runningForSecs : Nat
  lastConnectionError : Option String

structure EnginePoll extends EngineSnapshot where
  finished : Bool

structure MobileCore where
  config : Option MobileConfig := none
  wallet : Option String := none
  phase : CorePhase := .unconfigured
  proxyEnabled : Bool := false
  proxyPort : Option Nat := none
  connectedNeighbors : Nat := 0
  routeHops : Nat := 0
  lastError : Option CoreError := none
  engine : Option EngineHandle := none
  deriving DecidableEq, Repr

def connectionTimeoutMessage (s : EngineSnapshot) : Option CoreError := if s.runningForSecs < 12 then none
  else some <| match s.lastConnectionError with
    | some error =>
      if (error.splitOn "Operation not permitted").length ≠ 1 then .tcpBlocked
      else if (error.splitOn "timed out").length ≠ 1 then .noAnswer else .handshake error
    | none => .waiting

namespace MobileCore

/-- An operation that returns an error, and the core afterwards. -/
abbrev Outcome := Except CoreError Unit × MobileCore

variable (c : MobileCore)

def recordError (e : CoreError) : MobileCore := { c with phase := .error, proxyEnabled := false, lastError := some e }

def fail (e : CoreError) : Outcome := (.error e, c.recordError e)

/-- The phase without an engine. -/
def idlePhase : CorePhase := if c.config.isSome ∧ c.wallet.isSome then .ready else .unconfigured

def idle : MobileCore :=
  { c with phase := c.idlePhase, proxyEnabled := false, proxyPort := none, connectedNeighbors := 0, routeHops := 0,
           lastError := none }

def configure : Except CoreError MobileConfig → Outcome
  | .error e => (.error e, c)
  | .ok config =>
    let configured := { c with config := some config }
    let done : Outcome := (.ok (), { configured with phase := configured.idlePhase, lastError := none })
    match c.engine, c.config with
    | none, _ => done
    | some _, none => (.error .runningProfileMissing, c)
    -- with an engine only the entry nodes may change
    | some _, some current =>
      if { current with neighbors := config.neighbors } = config then done else c.fail .restartRequired

def importWallet : Except CoreError String → Outcome
  | .error e => (.error e, c)
  | .ok wallet =>
    let imported := { c with wallet := some wallet }
    (.ok (), { imported with phase := imported.idlePhase, lastError := none })

def updateMinHops (minHops : Nat) (applied : Except CoreError Unit) : Outcome :=
  if ¬(1 ≤ minHops ∧ minHops ≤ 6) then c.fail .hopsOutOfRange
  else match c.config, c.engine, applied with
    | none, _, _ => c.fail .profileMissing
    | some _, some _, .error e => (.error e, c)
    | some config, _, _ =>
      (.ok (), { c with config := some { config with minHops }, routeHops := 0, lastError := none })

def refreshEngineStatus (p : EnginePoll) : MobileCore :=
  match c.engine with
  | none => c
  | some engine =>
    let c := { c with proxyPort := some (p.proxyPort.getD engine.proxyPort) }
    if 1 ≤ p.routeStage then
      { c with phase := if c.phase = .paused then .paused else .connected, connectedNeighbors := 1,
               routeHops := if 2 ≤ p.routeStage then p.routeHops else 0, lastError := none }
    else if p.started then
      { c with phase := if p.stopRequested then .stopping else .connecting, connectedNeighbors := 0, routeHops := 0,
               lastError := connectionTimeoutMessage p.toEngineSnapshot }
    else match p.lastExitCode with
      | none => c
      | some exitCode =>
        let c := { c with engine := some { engine with thread := engine.thread && !p.finished } }
        if p.stopRequested ∧ exitCode = 0 then { c with phase := .ready, proxyPort := none }
        else c.recordError (.stoppedWith exitCode)

def retrying : MobileCore :=
  { c with phase := .connecting, proxyEnabled := false, connectedNeighbors := 0, routeHops := 0, lastError := none }

def start (retried : Except CoreError Unit) (launched : Except CoreError Nat) (p : EnginePoll) : Outcome :=
  if c.config.isNone ∨ c.wallet.isNone then c.fail .incomplete
  else if c.phase = .connected then (.ok (), c)
  else match c.engine, retried, launched with
    | some _, .error e, _ => (.error e, c)
    | some _, .ok (), _ => (.ok (), c.retrying.refreshEngineStatus p)
    | none, _, .error e => c.fail e
    | none, _, .ok proxyPort =>
      (.ok (), { c with phase := .connecting, proxyEnabled := false, engine := some ⟨true, proxyPort⟩ })

/-- A pause keeps the engine. -/
def stop : MobileCore := if c.engine.isSome then { c with phase := .paused, proxyEnabled := false } else c.idle

variable (stopped : Except (CoreError × Bool) Unit)

/-- The engine is kept if it does not stop; the error comes with whether its thread is still to be joined. -/
def stopEngine (idled : MobileCore → MobileCore) : MobileCore :=
  match c.engine, stopped with
  | some engine, .error (e, thread) => { c.recordError e with engine := some { engine with thread } }
  | _, _ => idled { c with engine := none }

def shutdown : MobileCore := c.stopEngine stopped idle

def reset : MobileCore := c.stopEngine stopped fun _ => {}

def resetNetworkProfile : MobileCore := c.stopEngine stopped fun c => { c with config := none }.idle

def removeWallet : MobileCore :=
  c.stopEngine stopped fun c => { c with wallet := none }.idle

def preflightProxy (answered : Except CoreError Unit) (p : EnginePoll) : Outcome :=
  if ¬c.proxyEnabled ∨ c.phase ≠ .connected then c.fail .proxyNotTestable
  else match c.proxyPort, answered with
    | none, _ => (.error .proxyTest, c)
    | _, .error e => (.error e, c)
    | _, .ok () => (.ok (), { c.refreshEngineStatus p with lastError := none })

def setProxyEnabled (enabled : Bool) : Outcome :=
  if enabled ∧ c.phase ≠ .connected then c.fail .proxyNeedsRoute else (.ok (), { c with proxyEnabled := enabled })

end MobileCore

inductive CoreOp
  | configure (parsed : Except CoreError MobileConfig)
  | importWallet (imported : Except CoreError String)
  | updateMinHops (minHops : Nat) (applied : Except CoreError Unit)
  | start (retried : Except CoreError Unit) (launched : Except CoreError Nat) (poll : EnginePoll)
  | stop
  | shutdown (stopped : Except (CoreError × Bool) Unit)
  | reset (stopped : Except (CoreError × Bool) Unit)
  | resetNetworkProfile (stopped : Except (CoreError × Bool) Unit)
  | removeWallet (stopped : Except (CoreError × Bool) Unit)
  | preflightProxy (answered : Except CoreError Unit) (poll : EnginePoll)
  | setProxyEnabled (enabled : Bool)
  | recordError (e : CoreError)
  | statusJson (poll : EnginePoll)

namespace MobileCore

/-- The status of `status_json` is read off the core afterwards. -/
def step (c : MobileCore) : CoreOp → Outcome
  | .configure parsed => c.configure parsed
  | .importWallet imported => c.importWallet imported
  | .updateMinHops minHops applied => c.updateMinHops minHops applied
  | .start retried launched poll => c.start retried launched poll
  | .stop => (.ok (), c.stop)
  | .shutdown stopped => (.ok (), c.shutdown stopped)
  | .reset stopped => (.ok (), c.reset stopped)
  | .resetNetworkProfile stopped => (.ok (), c.resetNetworkProfile stopped)
  | .removeWallet stopped => (.ok (), c.removeWallet stopped)
  | .preflightProxy answered poll => c.preflightProxy answered poll
  | .setProxyEnabled enabled => c.setProxyEnabled enabled
  | .recordError e => (.ok (), c.recordError e)
  | .statusJson poll => (.ok (), c.refreshEngineStatus poll)

end MobileCore

/-! ## What an operation does -/

/-- The operation stops the engine, and the engine does not stop. -/
def CoreOp.reportsStuck : CoreOp → Bool
  | .shutdown (.error _) | .reset (.error _) | .resetNetworkProfile (.error _) | .removeWallet (.error _) => true
  | _ => false

def CoreOp.stops : CoreOp → Bool
  | .shutdown _ | .reset _ | .resetNetworkProfile _ | .removeWallet _ => true
  | _ => false

/-- The operation replaces the profile or the wallet. -/
def CoreOp.replaces : CoreOp → Bool
  | .configure _ | .importWallet _ => true
  | _ => false

def CoreOp.poll : CoreOp → Option EnginePoll
  | .start _ _ poll | .preflightProxy _ poll | .statusJson poll => some poll
  | _ => none

namespace MobileCore

variable {c c' : MobileCore} {op : CoreOp}

/-- Phase, flag and engine are the same. -/
def Same (c c' : MobileCore) : Prop := c'.phase = c.phase ∧ c'.proxyEnabled = c.proxyEnabled ∧ c'.engine = c.engine

def IsIdle (c : MobileCore) : Prop := c.phase = .ready ∨ c.phase = .unconfigured

inductive Effect (c : MobileCore) (op : CoreOp) (c' : MobileCore) : Prop
  | same (hr : op.reportsStuck = false) (h : Same c c')
  | failed (hp : c'.phase = .error) (hf : c'.proxyEnabled = false) (he : c'.engine = c.engine)
  | replaced (hop : op.replaces) (hp : c'.IsIdle) (hf : c'.proxyEnabled = c.proxyEnabled) (he : c'.engine = c.engine)
  | paused (hp : c'.phase = .paused) (hf : c'.proxyEnabled = false) (he : c'.engine = c.engine)
  | idled (hp : c'.IsIdle) (hf : c'.proxyEnabled = false) (he : c'.engine = none)
      (he₀ : op.stops = false → c.engine = none)
  | stuck (hop : op.reportsStuck) (hp : c'.phase = .error) (hf : c'.proxyEnabled = false) (he : c'.engine.isSome)
  | launched (hp : c'.phase = .connecting) (hf : c'.proxyEnabled = false) (hop : op.poll.isSome) (he : c'.engine.isSome)
  | polled (p : EnginePoll) (c₀ : MobileCore) (hp : op.poll = some p)
      (h₀ : Same c c₀ ∨ c₀.phase = .connecting ∧ c₀.proxyEnabled = false ∧ c₀.engine = c.engine)
      (h : Same (c₀.refreshEngineStatus p) c')
  | flagged (enabled : Bool) (hop : op = .setProxyEnabled enabled) (hc : enabled → c.phase = .connected)
      (h : c' = { c with proxyEnabled := enabled })

theorem isIdle_idle (c : MobileCore) : c.idle.IsIdle := by
  unfold IsIdle idle idlePhase
  grind

theorem effect_stopEngine {stopped : Except (CoreError × Bool) Unit} (idled : MobileCore → MobileCore)
    (hi : ∀ c, (idled c).IsIdle ∧ (idled c).proxyEnabled = false ∧ (c.engine = none → (idled c).engine = none))
    (hop : ∀ e, stopped = .error e → op.reportsStuck) (hs : op.stops) : Effect c op (c.stopEngine stopped idled) := by
  have hn := hi { c with engine := none }
  unfold stopEngine
  split
  · exact .stuck (hop _ rfl) rfl rfl rfl
  · exact .idled hn.1 hn.2.1 (hn.2.2 rfl) (by simp [hs])

theorem effect (c : MobileCore) (op : CoreOp) : Effect c op (c.step op).2 := by
  cases op with
  | configure parsed =>
    have h : Same c (c.configure parsed).2 ∨ (∃ e, c.configure parsed = c.fail e) ∨
        (c.configure parsed).2.IsIdle ∧ (c.configure parsed).2.proxyEnabled = c.proxyEnabled ∧
          (c.configure parsed).2.engine = c.engine := by
      unfold Same IsIdle configure idlePhase
      grind
    obtain h | ⟨e, h⟩ | ⟨hp, hf, he⟩ := h
    · exact .same rfl h
    · exact .failed (by rw [step, h]; rfl) (by rw [step, h]; rfl) (by rw [step, h]; rfl)
    · exact .replaced rfl hp hf he
  | importWallet imported =>
    cases imported with
    | error e => exact .same rfl ⟨rfl, rfl, rfl⟩
    | ok wallet => exact .replaced rfl (isIdle_idle { c with wallet := some wallet }) rfl rfl
  | updateMinHops minHops applied =>
    have h : Same c (c.updateMinHops minHops applied).2 ∨ ∃ e, c.updateMinHops minHops applied = c.fail e := by
      unfold Same updateMinHops
      grind
    obtain h | ⟨e, h⟩ := h
    · exact .same rfl h
    · exact .failed (by rw [step, h]; rfl) (by rw [step, h]; rfl) (by rw [step, h]; rfl)
  | start retried launched p =>
    have h : (∃ e, c.start retried launched p = c.fail e) ∨ (c.start retried launched p).2 = c ∨
        (c.start retried launched p).2 = c.retrying.refreshEngineStatus p ∨ ∃ port, (c.start retried launched p).2 =
          { c with phase := .connecting, proxyEnabled := false, engine := some ⟨true, port⟩ } := by
      unfold start
      grind
    rw [step]
    obtain ⟨e, h⟩ | h | h | ⟨port, h⟩ := h <;> rw [h]
    · exact .failed rfl rfl rfl
    · exact .same rfl ⟨rfl, rfl, rfl⟩
    · exact .polled p c.retrying rfl (.inr ⟨rfl, rfl, rfl⟩) ⟨rfl, rfl, rfl⟩
    · exact .launched rfl rfl rfl rfl
  | stop =>
    rw [step, stop]
    split
    · exact .paused rfl rfl rfl
    · rename_i he
      exact .idled (isIdle_idle c) rfl (by simpa [idle] using he) fun _ => by simpa using he
  | shutdown stopped =>
    exact effect_stopEngine _ (fun c => ⟨isIdle_idle c, rfl, id⟩) (by rintro e rfl; rfl) rfl
  | reset stopped =>
    exact effect_stopEngine (fun _ => {}) (fun _ => ⟨.inr rfl, rfl, fun _ => rfl⟩) (by rintro e rfl; rfl) rfl
  | resetNetworkProfile stopped =>
    exact effect_stopEngine _ (fun c => ⟨isIdle_idle { c with config := none }, rfl, id⟩) (by rintro e rfl; rfl) rfl
  | removeWallet stopped =>
    exact effect_stopEngine _ (fun c => ⟨isIdle_idle { c with wallet := none }, rfl, id⟩) (by rintro e rfl; rfl) rfl
  | preflightProxy answered p =>
    have h : (∃ e, c.preflightProxy answered p = c.fail e) ∨ (c.preflightProxy answered p).2 = c ∨
        (c.preflightProxy answered p).2 = { c.refreshEngineStatus p with lastError := none } := by
      unfold preflightProxy
      grind
    rw [step]
    obtain ⟨e, h⟩ | h | h := h <;> rw [h]
    · exact .failed rfl rfl rfl
    · exact .same rfl ⟨rfl, rfl, rfl⟩
    · exact .polled p c rfl (.inl ⟨rfl, rfl, rfl⟩) ⟨rfl, rfl, rfl⟩
  | setProxyEnabled enabled =>
    rw [step, setProxyEnabled]
    split
    · exact .failed rfl rfl rfl
    · rename_i h
      exact .flagged enabled rfl (fun he => by simpa [he] using h) rfl
  | recordError e => exact .failed rfl rfl rfl
  | statusJson p => exact .polled p c rfl (.inl ⟨rfl, rfl, rfl⟩) ⟨rfl, rfl, rfl⟩

theorem isSome_engine_refresh (c : MobileCore) (p : EnginePoll) :
    (c.refreshEngineStatus p).engine.isSome = c.engine.isSome := by
  unfold refreshEngineStatus
  grind [recordError]

/-! ## Pausing -/

/-- The status shows the pause, and the proxy cannot be switched on. -/
structure Pausing (c : MobileCore) : Prop where
  phase : c.phase = .paused
  proxy : c.proxyEnabled = false
  refused : (c.setProxyEnabled true).1 ≠ .ok ()

theorem pausing_iff : c.Pausing ↔ c.phase = .paused ∧ c.proxyEnabled = false := by
  refine ⟨fun h => ⟨h.phase, h.proxy⟩, fun h => ⟨h.1, h.2, ?_⟩⟩
  simp [setProxyEnabled, h.1, fail]

theorem pausing_refresh_iff (he : c.engine.isSome) (h : c.Pausing) (hp : p.started) :
    (c.refreshEngineStatus p).Pausing ↔ 1 ≤ p.routeStage := by
  obtain ⟨engine, he⟩ := Option.isSome_iff_exists.1 he
  rw [pausing_iff] at h ⊢
  by_cases hr : 1 ≤ p.routeStage
  · simp [refreshEngineStatus, he, hr, h]
  · by_cases hs : p.stopRequested <;> simp [refreshEngineStatus, he, hr, hp, hs]

def samplePoll (routeStage : Nat) : EnginePoll := ⟨⟨true, false, some 44443, routeStage, 1, none, 1, none⟩, false⟩

def sampleConfig : MobileConfig := ⟨.baseMainnet, "rpc", ["entry"], 1, none, true, none⟩

end MobileCore

end MasqMobile
