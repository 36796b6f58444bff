import MasqMobile.Payments.Gate

/-!
# The chain neither breaks nor forks

With automatic scans enabled, one continuation is in hand after every message: `chain_continues` derives it from the
phases of the chain, together with what keeps the handlers from their `unreachable!` branches. A consuming wallet,
once known, is never forgotten, and the chain gets past its initial scan only with a wallet (`Walleted`), so that a
retry is never without one.

The initial scan itself is scheduled again for as long as there is no wallet, and only its first attempt counts as
initial.

| here | there |
|---|---|
| `AccountantPanic.isUnreachable` | scanners/mod.rs:147, 193; scan_schedulers.rs:330, 352, 370; |
| | mod.rs:254, 287; tx_receipt_interpreter.rs:87 |
| `Attended` | what scan_schedulers.rs:352 and the interpreter rely on |
-/

namespace MasqMobile

open Fallible RescheduleScanOnErrorResolver TxReceiptInterpreter Scanners

/-- The panics that the source writes as `unreachable!`. -/
def AccountantPanic.isUnreachable : AccountantPanic → Bool
  | .payableScanIntruded _ | .scannersInParallel _ _ | .retryImpossible _ | .walletStillMissing
  | .pendingImpossible _ | .followUpNotSupported _ | .pendingPayableScan (.pendingAndFailed _) => true
  | .payableScan _ | .pendingPayableScan _ | .recordingConsumedServices _ => false

def Event.isUiScanRequest : Event → Bool
  | .uiScanRequest _ _ => true
  | _ => false

/-! ## Where the receipts stop the scanner -/

namespace PendingPayableScanner

variable {ck : Nat} {s : PendingPayableScanner} {db : PaymentDb} {rep rep' : ReceiptScanReport}
  {reason : FailureReason}

/-- No failed transaction that is reported pending had failed for another reason than that. -/
def RechecksPending (s : PendingPayableScanner) (results : List (TxHashByTable × TxReceiptResult)) : Prop :=
  ∀ hash failedTx, (.failedPayable hash, .ok .pending) ∈ results → s.suspectedFailedPayables.find hash = some failedTx →
    failedTx.reason = .pendingTooLong

theorem interpretCase_pendingAndFailed (h : interpretCase ck db.sentPayable rep tx re =
    .error (.pendingAndFailed reason)) :
    ∃ f, tx = .failedPayable f ∧ re = .ok .pending ∧ f.reason ≠ .pendingTooLong := by
  rcases re with e | _ | block | _
  · cases h
  · cases h
  · cases h
  · cases tx with
    | sentPayable sentTx =>
      simp [interpretCase, handleStillPendingTx, elapsedInMs] at h
    | failedPayable f =>
      refine ⟨f, rfl, rfl, ?_⟩
      intro hr
      simp [interpretCase, handleStillPendingTx, hr, bind_eq_error] at h

theorem composeReceiptScanReport_pendingAndFailed
    (h : composeReceiptScanReport ck db.sentPayable rep t = .error (.pendingAndFailed reason)) :
    ∃ f, (.failedPayable f, .ok .pending) ∈ t ∧ f.reason ≠ .pendingTooLong := by
  induction t generalizing rep with
  | nil => cases h
  | cons txCase rest ih =>
    obtain ⟨tx, result⟩ := txCase
    simp only [composeReceiptScanReport, bind_eq_error] at h
    rcases h with h | ⟨rep', -, h⟩
    · obtain ⟨f, rfl, rfl, hr⟩ := interpretCase_pendingAndFailed h
      exact ⟨f, List.mem_cons_self, hr⟩
    · obtain ⟨f, hm, hr⟩ := ih h
      exact ⟨f, List.mem_cons_of_mem _ hm, hr⟩

theorem resolveRealQueries_ne_pendingAndFailed {sent : SentPayables} :
    resolveRealQueries sent f re ≠ .error (.pendingAndFailed reason) := by
  induction re generalizing sent f with
  | nil => simp [resolveRealQueries]
  | cons answer rest ih =>
    obtain ⟨key, result⟩ := answer
    cases key <;> simp [resolveRealQueries, bind_eq_error, ih]

variable {message : TxReceiptsMessage} {txs : List SentTx}

theorem interpretTxReceipts_ne_pendingAndFailed (h : s.RechecksPending message.results) :
    s.interpretTxReceipts ck message ≠ .error (.pendingAndFailed reason) := by
  simp only [interpretTxReceipts, ne_eq, bind_eq_error, resolveRealQueries_ne_pendingAndFailed, false_or]
  rintro ⟨t, hre, hc⟩
  obtain ⟨f, hm, hrea⟩ := composeReceiptScanReport_pendingAndFailed hc
  obtain ⟨-, hres⟩ := resolveRealQueries_eq_ok_iff.1 hre
  obtain ⟨⟨key, result⟩, ha, hr, rfl⟩ := hres.exists_answer hm
  cases key with
  | sentPayable hash => simp [recordOf] at hr
  | failedPayable hash =>
    obtain ⟨_, hf, hs⟩ := Option.map_eq_some_iff.1 hr
    obtain rfl := TxByTable.failedPayable.inj hs
    exact hrea (h hash _ ha hf)

theorem addToTheTotalOfPaidPayable_ne_pendingAndFailed :
    s.addToTheTotalOfPaidPayable txs ≠ .error (.pendingAndFailed reason) := by
  simp [addToTheTotalOfPaidPayable, bind_eq_error]

theorem collectHashesAndBlocks_ne_pendingAndFailed :
    collectHashesAndBlocks txs ≠ .error (.pendingAndFailed reason) := by
  induction txs with
  | nil => simp [collectHashesAndBlocks]
  | cons tx rest ih => cases hs : tx.status <;> simp [collectHashesAndBlocks, hs, ih]

theorem handleConfirmedTransactions_ne_pendingAndFailed :
    s.handleConfirmedTransactions rep ≠ .error (.pendingAndFailed reason) := by
  refine bind_ne_error ?_ fun s' => ?_
  · unfold handleTxFailureReclaims
    split <;> simp [bind_eq_error, addToTheTotalOfPaidPayable_ne_pendingAndFailed,
      collectHashesAndBlocks_ne_pendingAndFailed]
  · unfold handleStandardConfirmations
    split <;> simp [bind_eq_error, addToTheTotalOfPaidPayable_ne_pendingAndFailed,
      collectHashesAndBlocks_ne_pendingAndFailed]

theorem prepareStatusesForUpdate_ne_pendingAndFailed {σ : Type} {f : List (FailedValidation σ)}
    {u : BlockchainErrorKind → Nat → σ → Option (Option σ)} :
    prepareStatusesForUpdate u ck f ≠ .error (.pendingAndFailed reason) := by
  induction f with
  | nil => simp [prepareStatusesForUpdate]
  | cons failure rest ih => simp [prepareStatusesForUpdate, bind_eq_error, ih]

theorem handleFailedTransactions_ne_pendingAndFailed :
    handleFailedTransactions ck rep db ≠ .error (.pendingAndFailed reason) := by
  refine bind_ne_error ?_ fun db₁ => bind_ne_error ?_ fun db₂ => bind_ne_error ?_ fun db₃ => ?_
  · unfold addNewFailures
    split <;> simp [bind_eq_error]
  · unfold finalizeSuspectedFailures
    split <;> simp
  · refine bind_ne_error prepareStatusesForUpdate_ne_pendingAndFailed fun u => ?_
    split <;> simp [pure_ne_error]
  · refine bind_ne_error prepareStatusesForUpdate_ne_pendingAndFailed fun u => ?_
    split <;> simp [pure_ne_error]

/-- The `unreachable!` of the interpreter is the only one on the way of a receipt. -/
theorem finishScan_ne_pendingAndFailed (h : s.RechecksPending message.results) :
    s.finishScan ck message ≠ .error (.pendingAndFailed reason) := by
  simp [finishScan, bind_eq_error, interpretTxReceipts_ne_pendingAndFailed h,
    handleConfirmedTransactions_ne_pendingAndFailed, handleFailedTransactions_ne_pendingAndFailed]

end PendingPayableScanner

/-! ## Where the requests for scans stop the Accountant -/

namespace Accountant

variable {th : PaymentThresholds} {now : Nat} {s s' : Accountant} {panic : AccountantPanic}
  {skel : Option ResponseSkeleton} {event : Event} {phase : Phase} {msg : ScanMessage}

theorem handleScanMessage_new_panics (h : s.handleScanMessage th now (.scanForNewPayables skel) = .error panic) :
    ∃ cause, panic = .payableScan cause := by
  simp only [handleScanMessage, bind_eq_error] at h
  rcases h with h | ⟨⟨hint, s₁⟩, hh, h⟩
  · cases newRequested h
    exact ⟨_, rfl⟩
  · cases newRequested hh <;> cases h

theorem handleScanMessage_pending_panics
    (h : s.handleScanMessage th now (.scanForPendingPayables skel) = .error panic) :
    PendingRequested now skel s (.error panic) := by
  simp only [handleScanMessage, bind_eq_error] at h
  rcases h with h | ⟨⟨hint, s₁⟩, hh, h⟩
  · exact pendingRequested h
  · cases pendingRequested hh <;> cases h

/-- Where the answers of the bridge, and the events beside the scans, stop the Accountant. -/
theorem handle_panics_of_answer (hm : ∀ msg, event ≠ .scanMessage msg)
    (hui : event.isUiScanRequest = false) (h : s.handle th now event = .error panic) :
    (∃ cause, panic = .payableScan cause) ∨ (∃ e, panic = .recordingConsumedServices e) ∨
      ∃ request results cause, event = .txReceipts request results ∧ panic = .pendingPayableScan cause ∧
        s.scanners.pendingPayable.finishScan now ⟨results, request.responseSkeletonOpt⟩ = .error cause := by
  cases event with
  | scanMessage msg => exact absurd rfl (hm msg)
  | uiScanRequest scanType skeleton => cases hui
  | updateWallets earningWallet consumingWallet => cases h
  | servicesConsumed timestamp wallet totalCharge =>
    simp only [handle, recordServiceConsumed] at h
    split at h
    · cases h
    · simp only [bind_eq_error, mapErr_eq_error, pure_ne_error, and_false, exists_false, or_false] at h
      obtain ⟨e, -, rfl⟩ := h
      exact .inr (.inl ⟨e, rfl⟩)
  | pricedTemplates request | templatesScanError request | receiptsScanError request => cases h
  | sentPayables request result =>
    simp only [handle, handleSentPayables, finishPayableScan, bind_eq_error,
      mapErr_eq_error, pure_ne_error, and_false, exists_false, or_false] at h
    rcases h with ⟨cause, -, rfl⟩ | ⟨⟨scanResult, scanners⟩, -, h⟩
    · exact .inl ⟨cause, rfl⟩
    · dsimp only at h
      split at h <;> cases h
  | txReceipts request results =>
    simp only [handle, handleTxReceipts, finishPendingPayableScan, bind_eq_error,
      mapErr_eq_error, pure_ne_error, and_false, exists_false, or_false] at h
    rcases h with ⟨cause, hf, rfl⟩ | ⟨⟨scanResult, scanners⟩, -, h⟩
    · exact .inr (.inr ⟨request, results, cause, rfl, rfl, hf⟩)
    · dsimp only at h
      split at h <;> cases h

/-! ## The wallet -/

theorem handleScanMessage_consumingWalletOpt
    (h : s.handleScanMessage th now msg = .ok s') : s'.consumingWalletOpt = s.consumingWalletOpt := by
  cases msg with
  | scanForNewPayables skel =>
    simp only [handleScanMessage, bind_eq_ok] at h
    obtain ⟨⟨hint, s₁⟩, hr, h⟩ := h
    cases newRequested hr <;> obtain rfl := pure_eq_ok.1 h <;> rfl
  | scanForRetryPayables skel =>
    cases retryRequested (show handleRequestOfScanForRetryPayable now _ _ = _ from h) <;> rfl
  | scanForPendingPayables skel =>
    simp only [handleScanMessage, bind_eq_ok] at h
    obtain ⟨⟨hint, s₁⟩, hr, h⟩ := h
    cases pendingRequested hr <;> obtain rfl := pure_eq_ok.1 h <;> rfl

/-- A consuming wallet changes only with a message about wallets, and is never taken away. -/
theorem isSome_wallet_of_handle (hw : s.consumingWalletOpt.isSome)
    (h : s.handle th now event = .ok s') : s'.consumingWalletOpt.isSome := by
  cases event with
  | scanMessage msg =>
    rw [handleScanMessage_consumingWalletOpt h]
    exact hw
  | uiScanRequest scanType skeleton =>
    cases scanType with
    | payables =>
      simp only [handle, handleExternallyTriggeredScan, bind_eq_ok, pure_eq_ok] at h
      obtain ⟨⟨hint, s₁⟩, hr, rfl⟩ := h
      cases newRequested hr <;> exact hw
    | pendingPayables =>
      simp only [handle, handleExternallyTriggeredScan, bind_eq_ok, pure_eq_ok] at h
      obtain ⟨⟨hint, s₁⟩, hr, rfl⟩ := h
      cases pendingRequested hr <;> exact hw
    | receivables =>
      obtain rfl := pure_eq_ok.1 h
      exact hw
  | updateWallets earningWallet consumingWallet =>
    obtain rfl := Except.ok.inj h
    rfl
  | servicesConsumed timestamp wallet totalCharge =>
    simp only [handle, recordServiceConsumed] at h
    split at h
    · obtain rfl := Except.ok.inj h
      exact hw
    · simp only [bind_eq_ok, pure_eq_ok] at h
      obtain ⟨_, -, rfl⟩ := h
      exact hw
  | pricedTemplates request =>
    obtain rfl := Except.ok.inj h
    exact hw
  | templatesScanError request | receiptsScanError request =>
    obtain rfl := Except.ok.inj h
    simp only [handlePayableScanError, handlePendingPayableScanError]
    split <;> exact hw
  | sentPayables request result =>
    simp only [handle, handleSentPayables, bind_eq_ok] at h
    obtain ⟨⟨sr, scanners⟩, -, h⟩ := h
    split at h
    · obtain rfl := pure_eq_ok.1 h
      unfold scheduleNextAutomaticScan
      split <;> exact hw
    · obtain rfl := pure_eq_ok.1 h
      exact hw
  | txReceipts request results =>
    simp only [handle, handleTxReceipts, bind_eq_ok] at h
    obtain ⟨⟨sr, scanners⟩, -, h⟩ := h
    split at h <;> obtain rfl := pure_eq_ok.1 h <;> exact hw

/-- Without a wallet the chain does not get past the scan for pending payables. -/
theorem At.pendingScheduled_of_no_wallet (hw : s.consumingWalletOpt = none)
    (h : s.handle th now (.scanMessage (.scanForPendingPayables none)) = .ok s') (hat : s'.At phase) :
    phase = .pendingScheduled := by
  simp only [handle, handleScanMessage, bind_eq_ok] at h
  obtain ⟨⟨hint, s₁⟩, hr, h⟩ := h
  cases pendingRequested hr with
  | started hs => simp [hw] at hs
  | skipped hs => simp [hw] at hs
  | refused hbusy => simp [hw] at hbusy
  | postponed =>
    obtain rfl := pure_eq_ok.1 h
    have hm : .scanForPendingPayables none ∈ phase.scheduled := by
      rw [← hat.scheduled]
      simp [schedule]
    cases phase <;> simp_all [Phase.scheduled]

/-- There is a wallet, or the chain still waits for it. -/
def Walleted (s : Accountant) (phase : Phase) : Prop := s.consumingWalletOpt.isSome ∨ phase = .pendingScheduled

theorem Walleted.move {phase' : Phase} (h : s.Walleted phase)
    (hs : s.Step th now event s') (hat' : s'.At phase') (hm : Move now s s' event phase phase') :
    s'.Walleted phase' := by
  rcases h with hw | rfl
  · exact .inl (isSome_wallet_of_handle hw hs.2)
  · cases hm with
    | stays => exact .inr rfl
    | pendingSkipped _ hw _ => exact .inl (isSome_wallet_of_handle hw hs.2)
    | pendingStarted hdb =>
      cases hw : s.consumingWalletOpt with
      | some wallet => exact .inl (isSome_wallet_of_handle (by simp [hw]) hs.2)
      | none => exact .inr (hat'.pendingScheduled_of_no_wallet hw hs.2)

/-! ## Every run -/

def startedScans (s : Accountant) : Nat :=
  s.scanners.payableInitiatedAt.isSome.toNat + s.scanners.pendingPayable.initiatedAt.isSome.toNat

/-- What the payable family has in hand: messages that wait, and started scans. -/
def continuations (s : Accountant) : Nat := s.scheduled.length + s.startedScans

theorem At.continuations (hat : s.At phase) : s.continuations = 1 := by
  unfold Accountant.continuations startedScans
  rw [hat.scheduled, hat.payable, hat.pending]
  cases phase <;> rfl

theorem At.length_outstanding (hat : s.At phase) : s.outstanding.length = s.startedScans := by
  have ha := hat.awaits
  unfold startedScans
  rw [hat.payable, hat.pending]
  cases phase with
  | newScheduled | retryScheduled | pendingScheduled =>
    rw [show s.outstanding = [] from ha]
    rfl
  | paying scanType =>
    rcases ha with ⟨request, -, -, ho⟩ | ho
    · rw [ho]
      rfl
    · rw [ho]
      rfl
  | checking txHashes =>
    rw [show s.outstanding = [_] from ha]
    rfl

/-- What the handlers rely on: a scan for pending payables after the initial one finds a wallet, and of the
failed transactions only those that were pending too long are still reported pending. -/
def Attended (s : Accountant) : Event → Prop
  | .scanMessage (.scanForPendingPayables _) =>
    s.consumingWalletOpt.isSome ∨ s.scanners.initialPendingPayableScan = true
  | .txReceipts _ results => s.scanners.pendingPayable.RechecksPending results
  | _ => True

/-- An event of the automatic mode, without any user, that the handlers can rely on. -/
def Undisturbed (s : Accountant) (event : Event) : Prop := event.isUiScanRequest = false ∧ s.Attended event

theorem walleted_of_runs {ok : Accountant → Event → Prop} {phase₀ : Phase}
    (hr : Runs th ok s₀ s) (hat₀ : s₀.At phase₀) (hw₀ : s₀.Walleted phase₀) :
    ∃ phase, s.At phase ∧ s.Walleted phase := by
  refine hr.invariant (fun s => ∃ phase, s.At phase ∧ s.Walleted phase) ⟨phase₀, hat₀, hw₀⟩ ?_
  rintro s now event s' ⟨phase, hat, hw⟩ - hs
  obtain ⟨phase', hat', hm⟩ := exists_move hat hs
  exact ⟨phase', hat', hw.move hs hat' hm⟩

/-- Of the messages that start a scan, only a late one for pending payables may reach an `unreachable!`. -/
theorem At.scanMessage_reachable (hat : s.At phase) (hw : s.Walleted phase)
    (he : s.Expects (.scanMessage msg)) (ha : s.Attended (.scanMessage msg))
    (h : s.handle th now (.scanMessage msg) = .error panic) : panic.isUnreachable = false := by
  have hm : msg ∈ phase.scheduled := hat.scheduled ▸ he
  cases phase with
  | newScheduled =>
    obtain rfl := List.mem_singleton.1 hm
    obtain ⟨c, rfl⟩ := handleScanMessage_new_panics h
    rfl
  | retryScheduled =>
    obtain rfl := List.mem_singleton.1 hm
    cases retryRequested (show handleRequestOfScanForRetryPayable now _ _ = _ from h) with
    | panicked => rfl
    | intruded _ hs => exact absurd (hat.payable_idle rfl) (by simp_all)
    | walletless hn => exact absurd hw (by simp_all [Walleted])
  | pendingScheduled =>
    obtain rfl := List.mem_singleton.1 hm
    cases handleScanMessage_pending_panics (show handleScanMessage th now _ _ = _ from h) with
    | inParallel hp => exact absurd (hat.pending_idle rfl) (by simp_all)
    | walletless hn hin => exact absurd ha (by simp_all [Attended])
  | paying _ | checking _ => simp [Phase.scheduled] at hm

theorem At.reachable (hat : s.At phase) (hw : s.Walleted phase) (he : s.Expects event) (hu : s.Undisturbed event)
    (h : s.handle th now event = .error panic) : panic.isUnreachable = false := by
  obtain ⟨hui, ha⟩ := hu
  by_cases hm : ∃ msg, event = .scanMessage msg
  · obtain ⟨msg, rfl⟩ := hm
    exact hat.scanMessage_reachable hw he ha h
  · rcases handle_panics_of_answer (not_exists.1 hm) hui h with
      ⟨cause, rfl⟩ | ⟨e, rfl⟩ | ⟨request, results, cause, rfl, rfl, hf⟩
    · rfl
    · rfl
    · cases cause with
      | pendingAndFailed reason =>
        exact absurd hf (PendingPayableScanner.finishScan_ne_pendingAndFailed ha)
      | _ => rfl

theorem handle_walletStillMissing (hsk : msg = .scanForPendingPayables none) (h : ¬s.Attended (.scanMessage msg)) :
    s.handle th now (.scanMessage msg) = .error .walletStillMissing := by
  subst hsk
  have hw : s.consumingWalletOpt = none := by simpa using fun hs => h (.inl hs)
  have hin : s.scanners.initialPendingPayableScan = false := by simpa using fun ht => h (.inr ht)
  simp [handle, handleScanMessage, handleRequestOfScanForPendingPayable, startPendingPayableScan, hw, hin,
    resolveReschedulingOnError, resolvePendingPayables,
    bind, Except.bind]

/-- **The chain neither breaks nor forks.** From whatever tables the Node starts, with a wallet or without, every
state of every undisturbed run has one continuation in hand, and no event that the handlers can rely on leads to
an `unreachable!`; a scan for pending payables that they cannot rely on does. -/
theorem chain_continues {db : PaymentDb} {consumingWalletOpt : Option Address} {earningWallet : Address}
    (hrun : Runs th Undisturbed (started db consumingWalletOpt earningWallet) s) :
    s.continuations = 1 ∧ s.outstanding.length = s.startedScans ∧
      (∀ now event panic, s.Expects event → s.Undisturbed event → s.handle th now event = .error panic →
        panic.isUnreachable = false) ∧
      ∀ now msg, s.Expects (.scanMessage msg) → ¬s.Attended (.scanMessage msg) →
        s.handle th now (.scanMessage msg) = .error .walletStillMissing := by
  obtain ⟨phase, hat, hw⟩ := walleted_of_runs hrun (started_at db consumingWalletOpt earningWallet) (.inr rfl)
  refine ⟨hat.continuations, hat.length_outstanding, ?_, ?_⟩
  · intro now event panic he hu h
    exact hat.reachable hw he hu h
  · intro now msg he ha
    have hm : msg ∈ phase.scheduled := hat.scheduled ▸ he
    refine handle_walletStillMissing ?_ ha
    cases phase with
    | newScheduled | retryScheduled =>
      obtain rfl := List.mem_singleton.1 hm
      exact absurd trivial ha
    | pendingScheduled => exact List.mem_singleton.1 hm
    | paying _ | checking _ => simp [Phase.scheduled] at hm

/-! ### A Node without a wallet -/

def sampleWalletless : Accountant := started samplePendingDb none 21

/-- The initial scan finds no wallet and is scheduled again. -/
def sampleStillWalletless : Accountant := sampleWalletless.after sampleThresholds 2000 samplePendingRequest

/-- Started without a wallet and given none, the Accountant panics when the initial scan comes round again. -/
theorem chain_ends_without_wallet :
    Runs sampleThresholds (fun _ event => event.isUiScanRequest = false) (started samplePendingDb none 21)
        sampleStillWalletless ∧
      sampleStillWalletless.Expects samplePendingRequest ∧
      ∃ panic, sampleStillWalletless.handle sampleThresholds 2600 samplePendingRequest = .error panic ∧
        panic.isUnreachable = true := by
  have hs : sampleWalletless.Step sampleThresholds 2000 samplePendingRequest sampleStillWalletless :=
    step_after (by decide) ⟨_, rfl⟩
  exact ⟨(Runs.refl _ _ _).step rfl hs, by decide, .walletStillMissing, rfl, rfl⟩

theorem chain_continues_sample :
    Runs sampleThresholds Undisturbed (started samplePendingDb (some 20) 21) sampleConfirmed ∧
      sampleConfirmed.continuations = 1 := by
  have ha : sampleRestart.Step sampleThresholds 2000 samplePendingRequest sampleAsked := step_after (by decide) ⟨_, rfl⟩
  have hc : sampleAsked.Step sampleThresholds 2010 sampleReceipts sampleConfirmed := step_after (by decide) ⟨_, rfl⟩
  have has : sampleRestart.Undisturbed samplePendingRequest := ⟨rfl, Or.inl rfl⟩
  have hre : sampleAsked.Undisturbed sampleReceipts := by
    refine ⟨rfl, ?_⟩
    intro hash failedTx hm
    simp at hm
  have hr : Runs sampleThresholds Undisturbed (started samplePendingDb (some 20) 21) sampleConfirmed :=
    ((Runs.refl _ _ _).step has ha).step hre hc
  exact ⟨hr, (chain_continues hr).1⟩

end Accountant

end MasqMobile
