import MasqMobile.Mobile.Core

/-!
# Connecting and disconnecting

The controller of the app makes one connection attempt at a time. An attempt sees that it was cancelled only where it
looks at the signal, between two awaits, and meanwhile the native start waits for the discovery of entry nodes on a
thread of its own.

| here | there |
| --- | --- |
| `Controller.connect`, `Controller.disconnect` | useMasqController.ts:211, 253, with `run` (78) and singleFlight.ts:9 |
| `Controller.begin`, `Controller.failed`, `Controller.wake` | entryNodeRefresh.ts:22 |
| `Controller.deliver` | connectionReadiness.ts:23, after `start` or `getStatus` |
| `Event.native`, `Event.nativeStop` | MasqCoreModule.kt:403, 448 |
| `Controller.settle` | connectionLifecycle.ts:11, and the end of `run` |

How a native call is answered, whether the time is up and whether an error is one of entry nodes comes in with the
event. The issue, the busy mark and the progress of the refresh are left out, as is what else shows a status. -/

namespace MasqMobile

open Run

structure CoreStatus where
  phase : CorePhase
  lastError : Option String := none
  deriving DecidableEq

inductive Await
  | operation
  | start
  | status
  /-- A native call has been answered, and the attempt has not gone on yet. -/
  | answer (result : Except Unit CoreStatus)
  | poll
  | retry
  /-- Its promise is settled, and the flight not yet cleared. -/
  | settled
  deriving DecidableEq

structure Attempt where
  await : Await := .operation
  attempt : Nat := 0
  aborted : Bool := false
  /-- There was a disconnect since. -/
  cancelled : Bool := false
  deriving DecidableEq

structure Disconnect where
  epoch : Nat
  stopped : Option CoreStatus := none
  /-- There was a connect since. -/
  superseded : Bool := false

structure Controller where
  flight : Option Attempt := none
  operationEpoch : Nat := 0
  status : CoreStatus
  disconnects : List Disconnect := []
  /-- The native core has been started, and not stopped since. -/
  started : Bool := false
  /-- A disconnect has resolved, and there was no connect since its call. -/
  won : Bool := false

namespace Controller

inductive Event
  | connect
  | disconnect
  | begin
  | native (result : Except Unit CoreStatus)
  | deliver (timedOut entryNodes : Bool)
  | wake
  | clear
  | nativeStop (epoch : Nat) (status : CoreStatus)
  | settle (epoch : Nat)

def entryNodeRefreshAttempts : Nat := 6

variable (s : Controller)

/-- An attempt that is under way is the one that both callers get. -/
def connect : Controller := { s with
    flight := some (s.flight.getD {})
    disconnects := s.disconnects.map ({ · with superseded := true })
    won := false }

def Attempt.abort (a : Attempt) : Attempt := { a with
    cancelled := true
    aborted := a.aborted || a.await ≠ .settled
    await := if a.await = .poll ∨ a.await = .retry then .settled else a.await }

def disconnect : Controller := { s with
    flight := s.flight.map Attempt.abort
    operationEpoch := s.operationEpoch + 1
    status := { s.status with phase := .stopping }
    disconnects := ⟨s.operationEpoch + 1, none, false⟩ :: s.disconnects }

def begin (a : Attempt) : Controller := { s with
    operationEpoch := s.operationEpoch + 1
    status := ⟨.connecting, none⟩
    flight := some { a with await := if a.aborted then .settled else .start, attempt := 1 } }

def failed (a : Attempt) (entryNodes : Bool) : Controller := { s with flight := some { a with
    await := if ¬a.aborted ∧ entryNodes ∧ a.attempt < entryNodeRefreshAttempts then .retry else .settled } }

/-- The status is shown before anything is checked. -/
def deliver (a : Attempt) (timedOut entryNodes : Bool) : Except Unit CoreStatus → Controller
  | .error () => s.failed a entryNodes
  | .ok status =>
    let s := { s with status }
    if status.phase = .connected then { s with flight := some { a with await := .settled } }
    else if a.aborted then { s with flight := some { a with await := .settled } }
    else if status.phase = .error ∨ status.lastError.isSome ∨ timedOut then s.failed a entryNodes
    else { s with flight := some { a with await := .poll } }

/-- A disconnect that ends without having stopped the core is rejected. -/
def settle (d : Disconnect) : Controller := let s := { s with disconnects := s.disconnects.filter (·.epoch ≠ d.epoch) }
  match d.stopped with
  | none => s
  | some status =>
    { s with
      status := if d.epoch = s.operationEpoch then status else s.status
      won := s.won || !d.superseded }

/-- What the attempt does, or is answered. -/
def advance (a : Attempt) (e : Event) : Controller :=
  match a.await, e with
  | .operation, .begin => s.begin a
  | .start, .native result =>
    { s with started := s.started || result.isOk, flight := some { a with await := .answer result } }
  | .status, .native result => { s with flight := some { a with await := .answer result } }
  | .answer result, .deliver timedOut entryNodes => s.deliver a timedOut entryNodes result
  | .poll, .wake => { s with flight := some { a with await := .status } }
  | .retry, .wake => { s with flight := some { a with await := .start, attempt := a.attempt + 1 } }
  | .settled, .clear => { s with flight := none }
  | _, _ => s

def step : Event → Controller
  | .connect => s.connect
  | .disconnect => s.disconnect
  | .nativeStop epoch status =>
    if s.disconnects.any (·.epoch = epoch) then
      { s with
        started := false
        disconnects := s.disconnects.map fun d => if d.epoch = epoch then { d with stopped := some status } else d }
    else s
  | .settle epoch => (s.disconnects.find? (·.epoch = epoch)).elim s s.settle
  | e => s.flight.elim s fun a => s.advance a e

/-- Once a disconnect has won, the attempt neither starts the core nor shows a status, and a connect gets no attempt
that was cancelled. -/
def Wins (e : Event) : Prop := (s.won → e ≠ .disconnect → (∀ epoch, e ≠ .settle epoch) →
    ((s.step e).started → s.started) ∧ (s.step e).status = s.status) ∧
  (e = .connect → ∀ a ∈ (s.step e).flight, a.cancelled = false)

/-- A disconnect comes while the attempt sleeps, or there is none, and the next connect once the flight is cleared. -/
def Timely : Event → Prop
  | .disconnect => ∀ a ∈ s.flight, a.await = .poll ∨ a.await = .retry ∨ a.await = .settled
  | .connect => ∀ a ∈ s.flight, a.cancelled = false
  | _ => True

/-- What was cancelled is over, and it is all that is left behind a disconnect. -/
structure Cancels (s : Controller) : Prop where
  settled : ∀ a ∈ s.flight, a.cancelled → a.await = .settled
  won : s.won → ∀ a ∈ s.flight, a.cancelled
  pending : ∀ d ∈ s.disconnects, d.superseded = false → ∀ a ∈ s.flight, a.cancelled

variable {s : Controller} {a : Attempt} {e : Event}

theorem advance_keeps (hf : s.flight = some a) : (s.advance a e).won = s.won ∧
    (s.advance a e).disconnects = s.disconnects ∧ ∀ a' ∈ (s.advance a e).flight, a'.cancelled = a.cancelled := by
  unfold advance
  split
  case h_4 result timedOut entryNodes _ =>
    unfold deliver
    split
    · simp [failed]
    · split_ifs <;> simp [failed]
  all_goals simp [begin, hf]

theorem advance_of_settled (hf : s.flight = some a) (ha : a.await = .settled) :
    (s.advance a e).started = s.started ∧ (s.advance a e).status = s.status ∧
      ∀ a' ∈ (s.advance a e).flight, a'.await = .settled := by
  unfold advance
  rw [ha]
  split <;> simp_all

theorem connect_flight (ht : s.Timely .connect) : ∀ a ∈ s.connect.flight, a.cancelled = false := by
  intro a ha
  obtain rfl := Option.some.inj ha
  cases hf : s.flight with
  | none => rfl
  | some a => exact ht a hf

theorem Cancels.wins (h : s.Cancels) (ht : s.Timely e) : s.Wins e := by
  refine ⟨fun hw hd hs => ?_, by rintro rfl; exact connect_flight ht⟩
  cases e with
  | connect => exact ⟨id, rfl⟩
  | disconnect => exact absurd rfl hd
  | settle epoch => exact absurd rfl (hs epoch)
  | nativeStop epoch status =>
    simp only [Controller.step]
    split_ifs <;> simp
  | _ =>
    simp only [Controller.step]
    cases hf : s.flight with
    | none => exact ⟨id, rfl⟩
    | some a =>
      obtain ⟨hs, hst, -⟩ := advance_of_settled hf (h.settled a hf (h.won hw a hf))
      exact ⟨fun h => hs ▸ h, hst⟩

theorem Cancels.step (h : s.Cancels) (ht : s.Timely e) : (s.step e).Cancels := by
  cases e with
  | connect =>
    refine ⟨fun a ha hc => ?_, by simp [Controller.step, connect], by simp [Controller.step, connect]⟩
    simp [connect_flight ht a ha] at hc
  | disconnect =>
    have hc : ∀ a ∈ s.disconnect.flight, a.cancelled = true ∧ a.await = .settled := by
      intro a ha
      obtain ⟨b, hb, rfl⟩ := Option.map_eq_some_iff.1 ha
      obtain hp | hp | hp := ht b hb <;> simp [Attempt.abort, hp]
    exact ⟨fun a ha _ => (hc a ha).2, fun _ a ha => (hc a ha).1, fun _ _ _ a ha => (hc a ha).1⟩
  | nativeStop epoch status =>
    simp only [Controller.step]
    split_ifs
    · refine ⟨h.settled, h.won, fun d hd hs => ?_⟩
      obtain ⟨d', hd', rfl⟩ := List.mem_map.1 hd
      refine h.pending d' hd' ?_
      split_ifs at hs <;> exact hs
    · exact h
  | settle epoch =>
    simp only [Controller.step]
    cases hd : s.disconnects.find? (·.epoch = epoch) with
    | none => exact h
    | some d =>
      have hp := fun d' (hd' : d' ∈ s.disconnects.filter (·.epoch ≠ d.epoch)) =>
        h.pending d' (List.mem_of_mem_filter hd')
      simp only [Option.elim_some, Controller.settle]
      split
      · exact ⟨h.settled, h.won, hp⟩
      · refine ⟨h.settled, fun hw => ?_, hp⟩
        simp only [Bool.or_eq_true, Bool.not_eq_true'] at hw
        exact hw.elim h.won (h.pending d (List.mem_of_find?_eq_some hd))
  | _ =>
    simp only [Controller.step]
    cases hf : s.flight with
    | none => exact h
    | some a =>
      obtain ⟨hw, hd, hc⟩ := advance_keeps hf
      refine ⟨fun a' ha' hca => ?_, fun hw' a' ha' => ?_, fun d hd' hs a' ha' => ?_⟩
      · rw [hc a' ha'] at hca
        exact (advance_of_settled hf (h.settled a hf hca)).2.2 a' ha'
      · rw [hc a' ha']
        exact h.won (hw ▸ hw') a hf
      · rw [hc a' ha']
        exact h.pending d (hd ▸ hd') hs a hf

/-- **A disconnect wins,** if it comes while the attempt sleeps and the next connect once the flight is cleared. -/
theorem disconnect_wins (operationEpoch : Nat) (status : CoreStatus) (started : Bool) (events : List Event)
    (h : Along step Timely { operationEpoch, status, started } events) :
    Along step Wins { operationEpoch, status, started } events := by
  have hc : Cancels { operationEpoch, status, started } := ⟨by simp, by simp, by simp⟩
  generalize ({ operationEpoch, status, started } : Controller) = s at h hc
  induction events generalizing s with
  | nil => trivial
  | cons e events ih => exact ⟨hc.wins h.1, ih _ h.2 (hc.step h.1)⟩

/-- The native start is still queued when the disconnect resolves. It then starts the core, and its status is shown; a
connect meanwhile gets the attempt that was cancelled. -/
theorem cancelled_start_runs :
    let s := run step { status := ⟨.ready, none⟩ }
      [.connect, .begin, .disconnect, .nativeStop 2 ⟨.ready, none⟩, .settle 2]
    let s' := run step s [.native (.ok ⟨.connecting, none⟩), .deliver false false]
    s.won ∧ ¬s.started ∧ s.status.phase = .ready ∧ s'.won ∧ s'.started ∧ s'.status.phase = .connecting ∧
      ¬s.Wins .connect :=
  ⟨by decide, by decide, by decide, by decide, by decide, by decide, fun h => absurd (h.2 rfl _ rfl) (by decide)⟩

theorem disconnect_wins_sample : Along step Wins { operationEpoch := 0, status := ⟨.ready, none⟩, started := false }
    [.connect, .begin, .native (.ok ⟨.connecting, none⟩), .deliver false false, .disconnect, .clear, .connect] :=
  disconnect_wins 0 ⟨.ready, none⟩ false _ (by simp [Along, step, connect, begin, Timely, advance, deliver, disconnect,
    Attempt.abort])

end Controller

end MasqMobile
