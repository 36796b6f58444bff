import MasqMobile.Payments.Continuation

/-!
# Scans that a user asks for

With automatic scans disabled, scans are started by requests of a user and by the messages for retry payables that
follow a scan for pending payables after a delay. The scans for payables and for pending payables are meant to exclude
each other, but only the guard of the latter looks at both marks: the guard for new payables does not ask whether a
scan for pending payables is running, and that for retry payables takes for granted that no scan is. `Unopposed` is
what the two leave to the order of the events.

| here | there |
|---|---|
| `idleNode` | `StartMessage` with scans off, mod.rs:224 |
| `UserDriven` | what the messages of such a Node have in common |
| `Unopposed` | scanners/mod.rs:104 and 139, the checks that are not made |
-/

namespace MasqMobile

open Fallible

variable {now : Nat} {skel : Option ResponseSkeleton}

def BridgeRequest.responseSkeletonOpt : BridgeRequest → Option ResponseSkeleton
  | .initialTemplates request => request.responseSkeletonOpt
  | .outboundPayments request => request.responseSkeletonOpt
  | .transactionReceipts request => request.responseSkeletonOpt

/-- The `unreachable!` branches of `start_retry_payable_scan_guarded` and `start_pending_payable_scan_guarded`. -/
def AccountantPanic.isIntrusion : AccountantPanic → Bool
  | .payableScanIntruded _ | .scannersInParallel _ _ => true
  | _ => false

namespace Accountant

variable {th : PaymentThresholds} {s s' : Accountant}

/-! ## What a user can rely on -/

/-- The Accountant of a freshly started Node with automatic scans disabled. -/
def idleNode (db : PaymentDb) (consumingWalletOpt : Option Address) (earningWallet : Address) : Accountant :=
  (Accountant.new db consumingWalletOpt earningWallet false).handleStartMessage

/-- Every scan answers to a user, what waits is a retry, and the scans exclude each other. -/
structure UserDriven (s : Accountant) : Prop where
  scheduled : ∀ message ∈ s.scheduled, ∃ skeleton, message = .scanForRetryPayables (some skeleton)
  outstanding : ∀ request ∈ s.outstanding, request.responseSkeletonOpt.isSome
  exclusive : s.scanners.payableInitiatedAt = none ∨ s.scanners.pendingPayable.initiatedAt = none

/-- A request for new payables that an idle scanner would take comes while no receipts are awaited, and a retry
comes while no scan is running. -/
def Unopposed (s : Accountant) : Event → Prop
  | .uiScanRequest .payables _ =>
    s.scanners.payableInitiatedAt = none → s.scanners.pendingPayable.initiatedAt = none
  | .scanMessage (.scanForRetryPayables _) => s.consumingWalletOpt.isSome →
    s.scanners.payableInitiatedAt = none ∧ s.scanners.pendingPayable.initiatedAt = none
  | _ => True

theorem idleNode_userDriven (db : PaymentDb) (c : Option Address) (e : Address) : (idleNode db c e).UserDriven :=
  ⟨by simp [idleNode, handleStartMessage, Accountant.new], by simp [idleNode, handleStartMessage, Accountant.new],
    .inl rfl⟩

namespace UserDriven

/-! ### Requests -/

variable {ev : Event} {skeleton : ResponseSkeleton}

section

variable (h : s.UserDriven)
include h

theorem outstanding_send (hr : re.responseSkeletonOpt.isSome) :
    ∀ re' ∈ s.outstanding ++ [re], re'.responseSkeletonOpt.isSome := by
  exact List.forall_mem_append.2 ⟨h.outstanding, List.forall_mem_singleton.2 hr⟩

theorem retry (hu : s.Unopposed (.scanMessage (.scanForRetryPayables (some skeleton))))
    (hh : s.handle th now (.scanMessage (.scanForRetryPayables (some skeleton))) = .ok s') :
    s'.UserDriven := by
  have hs : ∀ message ∈ s.scheduled.erase (.scanForRetryPayables (some skeleton)),
      ∃ skeleton, message = .scanForRetryPayables (some skeleton) :=
    fun message hm => h.scheduled message (List.mem_of_mem_erase hm)
  cases retryRequested (show handleRequestOfScanForRetryPayable now _ _ = _ from hh) with
  | started hw => exact ⟨hs, h.outstanding_send rfl, .inr (hu hw).2⟩
  | dropped => exact ⟨hs, h.outstanding, h.exclusive⟩

theorem newRequest (hu : s.Unopposed (.uiScanRequest .payables skeleton))
    (hh : s.handle th now (.uiScanRequest .payables skeleton) = .ok s') : s'.UserDriven := by
  simp only [handle, handleExternallyTriggeredScan, bind_eq_ok, pure_eq_ok] at hh
  obtain ⟨⟨hin, s₁⟩, hre, rfl⟩ := hh
  cases newRequested hre with
  | started hid => exact ⟨h.scheduled, h.outstanding_send rfl, .inr (hu hid)⟩
  | refused | postponed => exact h

theorem pendingRequest (hh : s.handle th now (.uiScanRequest .pendingPayables skeleton) = .ok s') : s'.UserDriven := by
  simp only [handle, handleExternallyTriggeredScan, bind_eq_ok, pure_eq_ok] at hh
  obtain ⟨⟨hin, s₁⟩, hre, rfl⟩ := hh
  cases pendingRequested hre with
  | started _ hid => exact ⟨h.scheduled, h.outstanding_send rfl, .inl hid⟩
  | refused | skipped | postponed => exact ⟨h.scheduled, h.outstanding, h.exclusive⟩

/-! ### Answers -/

theorem answered (he : re ∈ s.outstanding) :
    (s.answered re).UserDriven ∧ ∃ skeleton, re.responseSkeletonOpt = some skeleton :=
  ⟨⟨h.scheduled, fun re' hm => h.outstanding re' (List.mem_of_mem_erase hm), h.exclusive⟩,
    Option.isSome_iff_exists.1 (h.outstanding re he)⟩

theorem templatesScanError (he : s.Expects (.templatesScanError re))
    (hh : s.handle th now (.templatesScanError re) = .ok s') : s'.UserDriven := by
  obtain ⟨ha, skeleton, hs⟩ := h.answered he
  obtain rfl := Except.ok.inj hh
  simp only [handlePayableScanError, show re.responseSkeletonOpt = _ from hs]
  exact ⟨ha.scheduled, ha.outstanding, .inl rfl⟩

variable {re : RequestTransactionReceipts}

theorem receiptsScanError (he : s.Expects (.receiptsScanError re))
    (hh : s.handle th now (.receiptsScanError re) = .ok s') : s'.UserDriven := by
  obtain ⟨ha, skeleton, hs⟩ := h.answered he
  obtain rfl := Except.ok.inj hh
  simp only [handlePendingPayableScanError, show re.responseSkeletonOpt = _ from hs]
  exact ⟨ha.scheduled, ha.outstanding, .inr rfl⟩

theorem pricedTemplates {re : InitialTemplatesMessage} (he : s.Expects (.pricedTemplates re))
    (hh : s.handle th now (.pricedTemplates re) = .ok s') : s'.UserDriven := by
  have hs := h.outstanding _ he
  have ha := (h.answered he).1
  obtain rfl := Except.ok.inj hh
  exact ⟨ha.scheduled, ha.outstanding_send hs, ha.exclusive⟩

theorem sentPayables {re : OutboundPaymentsInstructions} {res : Except String BatchResults}
    (he : s.Expects (.sentPayables re res))
    (hh : s.handle th now (.sentPayables re res) = .ok s') : s'.UserDriven := by
  obtain ⟨ha, skeleton, hs⟩ := h.answered he
  simp only [handle, handleSentPayables, bind_eq_ok] at hh
  obtain ⟨⟨sr, scanners⟩, hf, hh⟩ := hh
  obtain ⟨-, hui, hp, -⟩ := finishPayableScan_ok hf
  -- the answer to the user takes the place of the next scan
  simp only [hui, show re.responseSkeletonOpt = _ from hs, Option.map_some, pure_eq_ok] at hh
  subst hh
  exact ⟨ha.scheduled, ha.outstanding, .inl hp⟩

theorem txReceipts {res : List (TxHashByTable × TxReceiptResult)}
    (he : s.Expects (.txReceipts re res)) (hh : s.handle th now (.txReceipts re res) = .ok s') : s'.UserDriven := by
  obtain ⟨ha, skeleton, hs⟩ := h.answered he
  simp only [handle, handleTxReceipts, bind_eq_ok] at hh
  obtain ⟨⟨sr, scanners⟩, hf, hh⟩ := hh
  obtain ⟨scanner, -, hm, rfl, ro, rfl⟩ := finishPendingPayableScan_ok hf
  simp only [show re.responseSkeletonOpt = _ from hs] at hh
  rcases ro with _ | _ | _ <;> obtain rfl := pure_eq_ok.1 hh
  · exact ⟨ha.scheduled, ha.outstanding, .inr hm⟩
  · exact ⟨List.forall_mem_append.2 ⟨h.scheduled, List.forall_mem_singleton.2 ⟨skeleton, rfl⟩⟩, ha.outstanding, .inr hm⟩
  · exact ⟨ha.scheduled, ha.outstanding, .inr hm⟩

/-! ### Every event -/

theorem step (hu : s.Unopposed ev) (hs : s.Step th now ev s') : s'.UserDriven := by
  obtain ⟨he, hh⟩ := hs
  cases ev with
  | scanMessage message =>
    obtain ⟨skeleton, rfl⟩ := h.scheduled message he
    exact h.retry hu hh
  | uiScanRequest scanType skeleton =>
    cases scanType with
    | payables => exact h.newRequest hu hh
    | pendingPayables => exact h.pendingRequest hh
    | receivables =>
      obtain rfl := pure_eq_ok.1 hh
      exact h
  | updateWallets earningWallet consumingWallet =>
    obtain rfl := Except.ok.inj hh
    exact ⟨h.scheduled, h.outstanding, h.exclusive⟩
  | servicesConsumed timestamp wallet totalCharge =>
    simp only [handle, recordServiceConsumed] at hh
    split at hh
    · obtain rfl := Except.ok.inj hh
      exact h
    · simp only [bind_eq_ok, pure_eq_ok] at hh
      obtain ⟨_, -, rfl⟩ := hh
      exact ⟨h.scheduled, h.outstanding, h.exclusive⟩
  | pricedTemplates request => exact h.pricedTemplates he hh
  | templatesScanError request => exact h.templatesScanError he hh
  | sentPayables request result => exact h.sentPayables he hh
  | txReceipts request results => exact h.txReceipts he hh
  | receiptsScanError request => exact h.receiptsScanError he hh

theorem not_intruded (he : s.Expects ev) (hu : s.Unopposed ev) (hh : s.handle th now ev = .error p) :
    p.isIntrusion = false := by
  by_cases hm : ∃ message, ev = .scanMessage message
  · obtain ⟨message, rfl⟩ := hm
    obtain ⟨skeleton, rfl⟩ := h.scheduled message he
    cases retryRequested (show handleRequestOfScanForRetryPayable now _ _ = _ from hh) with
    | panicked => rfl
    | intruded hw hst => exact absurd (hu hw).1 (by simp_all)
    | walletless _ hs => cases hs
  · cases hui : ev.isUiScanRequest with
    | false =>
      rcases handle_panics_of_answer (not_exists.1 hm) hui hh with
        ⟨c, rfl⟩ | ⟨e, rfl⟩ | ⟨_, _, c, -, rfl, -⟩ <;> rfl
    | true =>
      cases ev with
      | uiScanRequest scanType skeleton =>
        cases scanType with
        | payables =>
          simp only [handle, handleExternallyTriggeredScan, bind_eq_error, pure_ne_error,
            and_false, exists_false, or_false] at hh
          cases newRequested hh
          rfl
        | pendingPayables =>
          simp only [handle, handleExternallyTriggeredScan, bind_eq_error, pure_ne_error,
            and_false, exists_false, or_false] at hh
          cases pendingRequested hh with
          | inParallel hpe hp => exact absurd h.exclusive (by simp [hpe, hp])
          | walletless _ _ hs => cases hs
        | receivables => cases hh
      | _ => cases hui

/-- An opposed event that leaves a payable scan running leaves both scans running. -/
theorem both_of_opposed (he : s.Expects ev) (ho : ¬s.Unopposed ev) (hh : s.handle th now ev = .ok s')
    (hst : s'.scanners.payableInitiatedAt.isSome) : s'.scanners.pendingPayable.initiatedAt.isSome := by
  cases ev with
  | scanMessage message =>
    obtain ⟨skeleton, rfl⟩ := h.scheduled message he
    simp only [Unopposed, Classical.not_imp, not_and] at ho
    cases retryRequested (show handleRequestOfScanForRetryPayable now _ _ = _ from hh) with
    | started _ hid => exact Option.isSome_iff_ne_none.2 (ho.2 hid)
    | dropped hw => simp [show s.consumingWalletOpt = _ from hw] at ho
  | uiScanRequest scanType skeleton =>
    cases scanType with
    | payables =>
      simp only [Unopposed, Classical.not_imp] at ho
      simp only [handle, handleExternallyTriggeredScan, bind_eq_ok, pure_eq_ok] at hh
      obtain ⟨⟨hin, s₁⟩, hr, rfl⟩ := hh
      have hsa : s₁.scanners.pendingPayable = s.scanners.pendingPayable := by
        cases newRequested hr <;> rfl
      rw [hsa]
      exact Option.isSome_iff_ne_none.2 ho.2
    | pendingPayables | receivables => exact absurd trivial ho
  | _ => exact absurd trivial ho

end

end UserDriven

/-- **The scans of payables and of pending payables exclude each other.** With automatic scans disabled, in every
run of unopposed events, the two are never both started, and the next unopposed event does not reach either
`unreachable!`. An opposed event that starts a scan sets both going. -/
theorem scanners_exclude_each_other {db : PaymentDb} {consumingWalletOpt : Option Address} {earningWallet : Address}
    (hrun : Runs th Unopposed (idleNode db consumingWalletOpt earningWallet) s) :
    ¬(s.scanners.payableInitiatedAt.isSome ∧ s.scanners.pendingPayable.initiatedAt.isSome) ∧
      (∀ now event panic, s.Expects event → s.Unopposed event → s.handle th now event = .error panic →
        panic.isIntrusion = false) ∧
      ∀ now event s', s.Expects event → ¬s.Unopposed event → s.handle th now event = .ok s' →
        s'.scanners.payableInitiatedAt.isSome → s'.scanners.pendingPayable.initiatedAt.isSome := by
  have hd : s.UserDriven :=
    hrun.invariant UserDriven (idleNode_userDriven db consumingWalletOpt earningWallet) UserDriven.step
  refine ⟨?_, ?_, ?_⟩
  · rintro ⟨hp, hpe⟩
    rcases hd.exclusive with hid | hid
    · simp [hid] at hp
    · simp [hid] at hpe
  · intro now event panic he hu hh
    exact hd.not_intruded he hu hh
  · intro now event s' he ho hh hs
    exact hd.both_of_opposed he ho hh hs

/-! ### Scans in parallel -/

def sampleSkeleton : ResponseSkeleton := ⟨1, 2⟩

def sampleUiPending : Event := .uiScanRequest .pendingPayables sampleSkeleton

def sampleUiPayables : Event := .uiScanRequest .payables sampleSkeleton

/-- A user asked for pending payables; the receipt of the one there is is awaited. -/
def sampleUserAsked : Accountant := (idleNode samplePendingDb (some 20) 21).after sampleThresholds 2000 sampleUiPending

/-- The user asks for payables as well. -/
def sampleBothScans : Accountant := sampleUserAsked.after sampleThresholds 2200 sampleUiPayables

/-- The payment was reverted, so that a retry is due. -/
def sampleReverted : Event := .txReceipts ⟨[.sentPayable 8], some sampleSkeleton⟩ [(.sentPayable 8, .ok .reverted)]

def sampleRetryDue : Accountant := sampleUserAsked.after sampleThresholds 2010 sampleReverted

def sampleRetry : Event := .scanMessage (.scanForRetryPayables (some sampleSkeleton))

/-- The user asks for payables before it comes. -/
def sampleForestalled : Accountant := sampleRetryDue.after sampleThresholds 2200 sampleUiPayables

theorem sampleUserAsked_step :
    (idleNode samplePendingDb (some 20) 21).Step sampleThresholds 2000 sampleUiPending sampleUserAsked :=
  step_after trivial ⟨_, rfl⟩

theorem sampleRetryDue_step : sampleUserAsked.Step sampleThresholds 2010 sampleReverted sampleRetryDue :=
  step_after (by decide) ⟨_, rfl⟩

/-- A user's second request sets both scans going, and a request before a retry makes the retry panic. -/
theorem scans_in_parallel :
    (Runs sampleThresholds (fun _ _ => True) (idleNode samplePendingDb (some 20) 21) sampleBothScans ∧
        sampleBothScans.scanners.payableInitiatedAt = some 2200 ∧
        sampleBothScans.scanners.pendingPayable.initiatedAt = some 2000) ∧
      Runs sampleThresholds (fun _ _ => True) (idleNode samplePendingDb (some 20) 21) sampleForestalled ∧
        sampleForestalled.Expects sampleRetry ∧
        sampleForestalled.handle sampleThresholds 2300 sampleRetry = .error (.payableScanIntruded 2200) := by
  have hb : sampleUserAsked.Step sampleThresholds 2200 sampleUiPayables sampleBothScans := step_after trivial ⟨_, rfl⟩
  have hf : sampleRetryDue.Step sampleThresholds 2200 sampleUiPayables sampleForestalled := step_after trivial ⟨_, rfl⟩
  have ha : Runs sampleThresholds (fun _ _ => True) _ sampleUserAsked :=
    (Runs.refl _ _ _).step trivial sampleUserAsked_step
  refine ⟨⟨ha.step trivial hb, rfl, rfl⟩, ?_, by decide, rfl⟩
  exact (ha.step trivial sampleRetryDue_step).step trivial hf

theorem scanners_exclude_each_other_sample :
    Runs sampleThresholds Unopposed (idleNode samplePendingDb (some 20) 21) sampleRetryDue ∧
      ¬(sampleRetryDue.scanners.payableInitiatedAt.isSome ∧
        sampleRetryDue.scanners.pendingPayable.initiatedAt.isSome) := by
  have ha : (idleNode samplePendingDb (some 20) 21).Unopposed sampleUiPending := trivial
  have hre : sampleUserAsked.Unopposed sampleReverted := trivial
  have hr : Runs sampleThresholds Unopposed (idleNode samplePendingDb (some 20) 21) sampleRetryDue :=
    ((Runs.refl _ _ _).step ha sampleUserAsked_step).step hre sampleRetryDue_step
  exact ⟨hr, (scanners_exclude_each_other hr).1⟩

end Accountant

end MasqMobile
