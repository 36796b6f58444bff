import MasqMobile.Payments.Accountant

/-!
# The chain of automatic scans

With automatic scans enabled, the Accountant always has one thing in hand: one scan is scheduled, or one started scan
waits for its answer. `Phase` says which, `At s phase` that the state `s` is in it. `Move` lists what an event can do
to the chain, together with what it does to the tables, and `exists_move` says that the handlers do nothing else.

A run is the reflexive transitive closure of `Step`; a handler that panics ends it.
-/

namespace MasqMobile

open Fallible RescheduleScanOnErrorResolver Scanners

inductive Phase
  | newScheduled
  | retryScheduled
  | pendingScheduled
  | paying (scanType : PayableScanType)
  | checking (txHashes : List TxHashByTable)
  deriving DecidableEq, Repr

namespace Phase

def scheduled : Phase → List ScanMessage
  | .newScheduled => [.scanForNewPayables none]
  | .retryScheduled => [.scanForRetryPayables none]
  | .pendingScheduled => [.scanForPendingPayables none]
  | .paying _ | .checking _ => []

def Awaits : Phase → List BridgeRequest → Prop
  | .newScheduled, requests | .retryScheduled, requests | .pendingScheduled, requests => requests = []
  | .paying scanType, requests =>
    (∃ request : InitialTemplatesMessage, request.initialTemplates.scanType = scanType ∧
      request.responseSkeletonOpt = none ∧ requests = [.initialTemplates request]) ∨
    requests = [.outboundPayments ⟨scanType, none⟩]
  | .checking txHashes, requests => requests = [.transactionReceipts ⟨txHashes, none⟩]

def isPaying : Phase → Bool
  | .paying _ => true
  | _ => false

def isChecking : Phase → Bool
  | .checking _ => true
  | _ => false

/-- The scan that is scheduled next. -/
def ofNextScan : NextScanToRun → Phase
  | .newPayableScan => .newScheduled
  | .retryPayableScan => .retryScheduled
  | .pendingPayableScan => .pendingScheduled

/-- The scan that is scheduled after the receipts. -/
def ofScanResult : PendingPayableScanResult → Phase
  | .noPendingPayablesLeft _ => .newScheduled
  | .paymentRetryRequired _ => .retryScheduled
  | .procedureShouldBeRepeated _ => .pendingScheduled

/-- The scan that is scheduled again after an error. -/
def again : PayableScanType → Phase
  | .new => .newScheduled
  | .retry => .retryScheduled

end Phase

namespace Accountant

structure At (s : Accountant) (phase : Phase) : Prop where
  automatic : s.automaticScansEnabled = true
  scheduled : s.scheduled = phase.scheduled
  awaits : phase.Awaits s.outstanding
  payable : s.scanners.payableInitiatedAt.isSome = phase.isPaying
  pending : s.scanners.pendingPayable.initiatedAt.isSome = phase.isChecking

/-- No transaction was recorded or changed. -/
def SameTxs (db db' : PaymentDb) : Prop := db'.sentPayable = db.sentPayable ∧ db'.failedPayable = db.failedPayable

/-- A scan for pending payables is refused out of hand. -/
def Refused (s : Accountant) : Prop :=
  s.scanners.initialPendingPayableScan = false ∧ s.scanners.awareOfUnresolvedPendingPayable = false

inductive Move (now : Nat) (s s' : Accountant) : Event → Phase → Phase → Prop
  | stays {event phase} (htxs : SameTxs s.db s'.db) : Move now s s' event phase phase
  | newStarted (hdb : s'.db = s.db) :
      Move now s s' (.scanMessage (.scanForNewPayables none)) .newScheduled (.paying .new)
  | retryStarted (hdb : s'.db = s.db) :
      Move now s s' (.scanMessage (.scanForRetryPayables none)) .retryScheduled (.paying .retry)
  | pendingStarted (hdb : s'.db = s.db) :
      Move now s s' (.scanMessage (.scanForPendingPayables none)) .pendingScheduled (.checking s.db.askedFor)
  | pendingSkipped (hdb : s'.db = s.db) (hwallet : s.consumingWalletOpt.isSome)
      (hskip : s.Refused ∨ s.db.askedFor = []) :
      Move now s s' (.scanMessage (.scanForPendingPayables none)) .pendingScheduled .newScheduled
  | payingFailed {request : InitialTemplatesMessage} {scanType} (hdb : s'.db = s.db) :
      Move now s s' (.templatesScanError request) (.paying scanType) (.again scanType)
  | paid {result : PayableScanResult} {scanType paymentProcedureResult}
      (hfinish : PayableScanner.finishScan ⟨paymentProcedureResult, scanType, none⟩ s.db = .ok (result, s'.db)) :
      Move now s s' (.sentPayables ⟨scanType, none⟩ paymentProcedureResult) (.paying scanType)
        (.ofNextScan result.result)
  | checked {txHashes results} {result : PendingPayableScanResult}
      (hfinish : s.scanners.pendingPayable.finishScan now ⟨results, none⟩ = .ok (result, s'.scanners.pendingPayable)) :
      Move now s s' (.txReceipts ⟨txHashes, none⟩ results) (.checking txHashes) (.ofScanResult result)
  | checkingFailed {txHashes} (hdb : s'.db = s.db) :
      Move now s s' (.receiptsScanError ⟨txHashes, none⟩) (.checking txHashes) .pendingScheduled

/-- The event takes the chain to some phase. -/
def Moves (now : Nat) (s s' : Accountant) (event : Event) (phase : Phase) : Prop :=
  ∃ phase', s'.At phase' ∧ Move now s s' event phase phase'

end Accountant

/-! ## What a request for a scan does -/

namespace Accountant

variable {thresholds : PaymentThresholds} {now : Nat} {s s' : Accountant} {skel : Option ResponseSkeleton}

inductive NewRequested (now : Nat) (skel : Option ResponseSkeleton) (s : Accountant) :
    Except AccountantPanic (ScanReschedulingAfterEarlyStop × Accountant) → Prop
  | started {t w} (hidle : s.scanners.payableInitiatedAt = none)
      (hman : skel.isSome → s.automaticScansEnabled = false) :
      NewRequested now skel s (.ok (.doNotSchedule, { s with
        scanners := { s.scanners with payableInitiatedAt := some now } }.send (.initialTemplates ⟨.new t, w, skel⟩)))
  | refused (hidle : s.scanners.payableInitiatedAt = none → skel.isSome) :
      NewRequested now skel s (.ok (.doNotSchedule, s))
  | postponed : NewRequested now skel s (.ok (.schedule .payables, s))
  | panicked {cause} : NewRequested now skel s (.error (.payableScan cause))

def notInitial (s : Accountant) : Accountant :=
  { s with scanners := { s.scanners with initialPendingPayableScan := false } }

inductive PendingRequested (now : Nat) (skel : Option ResponseSkeleton) (s : Accountant) :
    Except AccountantPanic (ScanReschedulingAfterEarlyStop × Accountant) → Prop
  | started {sc} (hwallet : s.consumingWalletOpt.isSome) (hpayable : s.scanners.payableInitiatedAt = none)
      (hman : skel.isSome → s.automaticScansEnabled = false) (hdb : sc.db = s.db) (hmark : sc.initiatedAt = some now) :
      PendingRequested now skel s (.ok (.doNotSchedule, { s.notInitial with
        scanners := { s.notInitial.scanners with pendingPayable := sc } }.send
          (.transactionReceipts ⟨s.db.askedFor, skel⟩)))
  | refused (hbusy : skel.isSome ∨ s.consumingWalletOpt.isSome ∧
        ¬(s.scanners.payableInitiatedAt = none ∧ s.scanners.pendingPayable.initiatedAt = none)) :
      PendingRequested now skel s (.ok (.doNotSchedule, s.notInitial))
  | skipped (hwallet : s.consumingWalletOpt.isSome) (hskip : s.Refused ∨ s.db.askedFor = []) :
      PendingRequested now skel s (.ok (.schedule .payables, s.notInitial))
  | postponed (hwallet : s.consumingWalletOpt = none) :
      PendingRequested now skel s (.ok (.schedule .pendingPayables, s.notInitial))
  | inParallel {startedAt payableStartedAt} (hpending : s.scanners.pendingPayable.initiatedAt = some startedAt)
      (hpayable : s.scanners.payableInitiatedAt = some payableStartedAt) :
      PendingRequested now skel s (.error (.scannersInParallel startedAt payableStartedAt))
  | walletless (hwallet : s.consumingWalletOpt = none) (hinitial : s.scanners.initialPendingPayableScan = false)
      (hskel : skel = none) : PendingRequested now skel s (.error .walletStillMissing)

/-- The resolver schedules a refused scan again, unless one is running or a user asked. -/
theorem NewRequested.of_error (he : s.startNewPayableScan thresholds now skel = .ok (.error e, s.scanners))
    (hidle : s.scanners.payableInitiatedAt = none → resolveNewPayables e = .schedule .payables) :
    NewRequested now skel s (s.handleRequestOfScanForNewPayable thresholds now skel) := by
  simp only [handleRequestOfScanForNewPayable, he, resolveReschedulingOnError, bind, Except.bind]
  cases hs : skel.isSome with
  | true => exact .refused fun _ => hs
  | false =>
    cases e with
    | scanAlreadyRunning _ _ => exact .refused fun hid => by cases hidle hid
    | nothingToProcess | noConsumingWalletFound | manualTriggerError _ => exact .postponed

variable {r : Except AccountantPanic (ScanReschedulingAfterEarlyStop × Accountant)} {phase : Phase}

theorem newRequested (h : s.handleRequestOfScanForNewPayable thresholds now skel = r) : NewRequested now skel s r := by
  subst h
  cases hw : s.consumingWalletOpt with
  | none => exact .of_error (by rw [startNewPayableScan, hw]) fun _ => rfl
  | some w =>
    have hg : ∀ e, s.scanners.checkNewPayableScan skel s.automaticScansEnabled = .error e →
        s.startNewPayableScan thresholds now skel = .ok (.error e, s.scanners) := by
      intro e hc
      simp [startNewPayableScan, hw, startNewPayableScanGuarded, hc]
    by_cases hman : skel.isSome = true ∧ s.automaticScansEnabled = true
    · exact .of_error (hg (.manualTriggerError .automaticScanConflict) (by simp [checkNewPayableScan, hman, failIf,
        bind, Except.bind])) fun _ => rfl
    · cases hid : s.scanners.payableInitiatedAt with
      | some startedAt =>
        exact .of_error (hg (.scanAlreadyRunning none startedAt) (by simp [checkNewPayableScan, hman, hid, failIf, bind,
          Except.bind, throw, throwThe, MonadExceptOf.throw])) (by simp [hid])
      | none =>
        have hc : s.scanners.checkNewPayableScan skel s.automaticScansEnabled = .ok () := by
          simp [checkNewPayableScan, hman, hid]
        have hsa : { s.scanners with payableInitiatedAt := none } = s.scanners := by rw [← hid]
        cases hst : PayableScanner.startNewScan thresholds now s.scanners.db with
        | error cause =>
          simp only [handleRequestOfScanForNewPayable, startNewPayableScan, hw, startNewPayableScanGuarded,
            hc, hst, bind,
            Except.bind, mapErr]
          exact .panicked
        | ok started =>
          have hst' := hst
          simp only [PayableScanner.startNewScan, bind_eq_ok, pure_eq_ok] at hst'
          obtain ⟨_, -, qualified, -, rfl⟩ := hst'
          by_cases hn : qualified = []
          · simp only [hn, if_true] at hst
            refine .of_error (e := .nothingToProcess) ?_ fun _ => rfl
            simp only [startNewPayableScan, hw, startNewPayableScanGuarded, hc, hst, hsa]
            rfl
          · simp only [hn, if_false] at hst
            have hs : s.startNewPayableScan thresholds now skel =
              .ok (.ok ⟨.new (qualified.map NewTxTemplate.ofAccount), w,
                skel⟩, { s.scanners with payableInitiatedAt := some now }) := by
              simp only [startNewPayableScan, hw, startNewPayableScanGuarded, hc, hst]
              rfl
            simp only [handleRequestOfScanForNewPayable, hs, bind, Except.bind]
            exact .started hid (by simpa using hman)

/-- What keeps a request for pending payables from starting a scan. -/
theorem PendingRequested.of_error (he : s.startPendingPayableScan now skel = .ok (.error e, s.scanners))
    (hcause : skel.isSome ∨ (e = .nothingToProcess ∧ s.consumingWalletOpt.isSome ∧
        (s.Refused ∨ s.db.askedFor = [])) ∨ (e = .noConsumingWalletFound ∧ s.consumingWalletOpt = none) ∨
      (∃ c t, e = .scanAlreadyRunning c t) ∧ s.consumingWalletOpt.isSome ∧
        ¬(s.scanners.payableInitiatedAt = none ∧ s.scanners.pendingPayable.initiatedAt = none)) :
    PendingRequested now skel s (s.handleRequestOfScanForPendingPayable now skel) := by
  simp only [handleRequestOfScanForPendingPayable, he, resolveReschedulingOnError, bind, Except.bind]
  cases hs : skel with
  | some skeleton => exact .refused (.inl rfl)
  | none =>
    rcases hcause with hc | ⟨rfl, hw, hsk⟩ | ⟨rfl, hw⟩ | ⟨⟨c, t, rfl⟩, hbusy⟩
    · simp [hs] at hc
    · exact .skipped hw hsk
    · cases hin : s.scanners.initialPendingPayableScan with
      | true => exact .postponed hw
      | false => exact .walletless hw hin rfl
    · exact .refused (.inr hbusy)

theorem pendingRequested (h : s.handleRequestOfScanForPendingPayable now skel = r) : PendingRequested now skel s r := by
  subst h
  cases hw : s.consumingWalletOpt with
  | none => exact .of_error (by rw [startPendingPayableScan, hw]) (.inr (.inr (.inl ⟨rfl, hw⟩)))
  | some w =>
    by_cases hman : skel.isSome = true ∧ s.automaticScansEnabled = true
    · refine .of_error (e := .manualTriggerError .automaticScanConflict) ?_ (.inl hman.1)
      simp only [startPendingPayableScan, hw, startPendingPayableScanGuarded, hman, and_self, if_true]
    · have hst : s.startPendingPayableScan now skel =
          s.scanners.startPendingPayableScanGuarded now skel s.automaticScansEnabled :=
            by rw [startPendingPayableScan, hw]
      rw [startPendingPayableScanGuarded, if_neg hman] at hst
      split at hst
      · rename_i e hc
        refine .of_error hst ?_
        unfold checkPendingPayableExistence at hc
        split at hc
        · cases hc
        · split at hc
          · rename_i hm
            exact .inl hm.1
          · split at hc
            · exact .inr (.inl ⟨(Except.error.inj hc).symm, by simp [hw], .inl ⟨by simp_all, by simp_all⟩⟩)
            · cases hc
      · split at hst
        · rename_i hpe hp
          simp only [handleRequestOfScanForPendingPayable, hst, bind, Except.bind]
          exact .inParallel hpe hp
        · rename_i hpe hp
          exact .of_error hst (.inr (.inr (.inr ⟨⟨_, _, rfl⟩, by simp [hw, hpe]⟩)))
        · rename_i hpe hp
          exact .of_error hst (.inr (.inr (.inr ⟨⟨_, _, rfl⟩, by simp [hw, hp]⟩)))
        · rename_i hpe hp
          rcases s.scanners.pendingPayable.startScan_cases now with ⟨sc, hs, hdb, hm, -⟩ | ⟨hs, hn⟩
          · simp only [hs] at hst
            simp only [handleRequestOfScanForPendingPayable, hst, bind, Except.bind]
            exact .started (by simp [hw]) hp (by simpa using hman) hdb hm
          · simp only [hs] at hst
            refine .of_error ?_ (.inr (.inl ⟨rfl, by simp [hw], .inr hn⟩))
            rw [hst, ← hpe]

inductive RetryRequested (now : Nat) (skel : Option ResponseSkeleton) (s : Accountant) :
    Except AccountantPanic Accountant → Prop
  | started {t w} (hwallet : s.consumingWalletOpt.isSome) (hidle : s.scanners.payableInitiatedAt = none) :
      RetryRequested now skel s (.ok ({ s with
        scanners := { s.scanners with payableInitiatedAt := some now } }.send (.initialTemplates ⟨.retry t, w, skel⟩)))
  | dropped (hwallet : s.consumingWalletOpt = none) (hskel : skel.isSome) : RetryRequested now skel s (.ok s)
  | intruded {startedAt} (hwallet : s.consumingWalletOpt.isSome)
      (hpayable : s.scanners.payableInitiatedAt = some startedAt) :
      RetryRequested now skel s (.error (.payableScanIntruded startedAt))
  | walletless (hwallet : s.consumingWalletOpt = none) (hskel : skel = none) :
      RetryRequested now skel s (.error (.retryImpossible .noConsumingWalletFound))
  | panicked {cause} : RetryRequested now skel s (.error (.payableScan cause))

theorem retryRequested {r : Except AccountantPanic Accountant}
    (h : s.handleRequestOfScanForRetryPayable now skel = r) : RetryRequested now skel s r := by
  subst h
  unfold handleRequestOfScanForRetryPayable
  split
  · rename_i w hw
    cases hid : s.scanners.payableInitiatedAt with
    | some startedAt =>
      simp only [startRetryPayableScanGuarded, hid]
      exact .intruded (by simp [hw]) hid
    | none =>
      simp only [startRetryPayableScanGuarded, hid, PayableScanner.startRetryScan]
      cases PayableScanner.retryTemplates s.scanners.db with
      | error cause => exact .panicked
      | ok t => exact .started (by simp [hw]) hid
  · rename_i hw
    cases hs : skel with
    | none => exact .walletless hw rfl
    | some skeleton => exact .dropped hw rfl

/-- The next scan follows, unless a user is answered. -/
theorem finishPayableScan_ok {scanners scanners' : Scanners} {msg : SentPayablesMessage} {result : PayableScanResult}
    (h : scanners.finishPayableScan msg = .ok (result, scanners')) :
    PayableScanner.finishScan msg scanners.db = .ok (result, scanners'.db) ∧
      result.uiResponseOpt = msg.responseSkeletonOpt.map PendingPayableScanner.uiResponse ∧
      scanners'.payableInitiatedAt = none ∧
      scanners'.pendingPayable.initiatedAt = scanners.pendingPayable.initiatedAt := by
  simp only [finishPayableScan, bind_eq_ok, mapErr_eq_ok, pure_eq_ok, Prod.mk.injEq] at h
  obtain ⟨⟨result', db⟩, hf, rfl, rfl⟩ := h
  have hui : result'.uiResponseOpt = msg.responseSkeletonOpt.map PendingPayableScanner.uiResponse := by
    simp only [PayableScanner.finishScan, bind_eq_ok, pure_eq_ok, Prod.mk.injEq] at hf
    obtain ⟨_, -, rfl, -⟩ := hf
    rfl
  dsimp only
  split <;> exact ⟨hf, hui, rfl, rfl⟩

theorem finishPendingPayableScan_ok {scanners scanners' : Scanners} {msg : TxReceiptsMessage}
    {result : PendingPayableScanResult} (h : scanners.finishPendingPayableScan now msg = .ok (result, scanners')) :
    ∃ scanner, scanners.pendingPayable.finishScan now msg = .ok (result, scanner) ∧ scanner.initiatedAt = none ∧
      scanners' = { scanners with pendingPayable := scanner } ∧
      ∃ ro, result = PendingPayableScanner.composeScanResult ro msg.responseSkeletonOpt := by
  simp only [finishPendingPayableScan, bind_eq_ok, mapErr_eq_ok, pure_eq_ok, Prod.mk.injEq] at h
  obtain ⟨⟨result', scanner⟩, hf, rfl, rfl⟩ := h
  have hr := hf
  simp only [PendingPayableScanner.finishScan, bind_eq_ok, pure_eq_ok, Prod.mk.injEq] at hr
  obtain ⟨_, -, _, -, _, -, rfl, rfl⟩ := hr
  exact ⟨_, hf, rfl, rfl, _, rfl⟩

/-! ## The three messages -/

theorem At.payable_idle (hat : s.At phase) (h : phase.isPaying = false) :
    s.scanners.payableInitiatedAt = none := by
  have hm := hat.payable
  rw [h] at hm
  simpa using hm

theorem At.pending_idle (hat : s.At phase) (h : phase.isChecking = false) :
    s.scanners.pendingPayable.initiatedAt = none := by
  have hm := hat.pending
  rw [h] at hm
  simpa using hm

theorem At.new_move (hat : s.At .newScheduled)
    (h : s.handle thresholds now (.scanMessage (.scanForNewPayables none)) = .ok s') :
    Moves now s s' (.scanMessage (.scanForNewPayables none)) .newScheduled := by
  have hn : s.outstanding = [] := hat.awaits
  simp only [handle, handleScanMessage, hat.scheduled, Phase.scheduled, List.erase_cons_head, bind_eq_ok] at h
  obtain ⟨⟨hint, s₁⟩, hreq, h⟩ := h
  -- an idle scanner starts, or the scan is scheduled again
  cases newRequested hreq with
  | @started t w _ _ =>
    obtain rfl := pure_eq_ok.1 h
    refine ⟨.paying .new, ⟨hat.automatic, rfl, .inl ⟨⟨.new t, w, none⟩, rfl, rfl, ?_⟩, rfl, hat.pending⟩,
      .newStarted rfl⟩
    rw [send, hn, List.nil_append]
  | refused hidle => cases hidle (hat.payable_idle rfl)
  | postponed =>
    obtain rfl := pure_eq_ok.1 h
    exact ⟨.newScheduled, { hat with scheduled := rfl }, .stays ⟨rfl, rfl⟩⟩

theorem At.retry_move (hat : s.At .retryScheduled)
    (h : s.handle thresholds now (.scanMessage (.scanForRetryPayables none)) = .ok s') :
    Moves now s s' (.scanMessage (.scanForRetryPayables none)) .retryScheduled := by
  have hn : s.outstanding = [] := hat.awaits
  simp only [handle, handleScanMessage, hat.scheduled, Phase.scheduled, List.erase_cons_head] at h
  cases retryRequested h with
  | @started t w =>
    refine ⟨.paying .retry, ⟨hat.automatic, rfl, .inl ⟨⟨.retry t, w, none⟩, rfl, rfl, ?_⟩, rfl, hat.pending⟩,
      .retryStarted rfl⟩
    rw [send, hn, List.nil_append]
  | dropped _ hs => cases hs

theorem At.pending_move (hat : s.At .pendingScheduled)
    (h : s.handle thresholds now (.scanMessage (.scanForPendingPayables none)) = .ok s') :
    Moves now s s' (.scanMessage (.scanForPendingPayables none)) .pendingScheduled := by
  have hn : s.outstanding = [] := hat.awaits
  simp only [handle, handleScanMessage, hat.scheduled, Phase.scheduled, List.erase_cons_head, bind_eq_ok] at h
  obtain ⟨⟨hint, s₁⟩, hreq, h⟩ := h
  cases pendingRequested hreq with
  | started _ _ _ hdb hm =>
    obtain rfl := pure_eq_ok.1 h
    refine ⟨.checking s.db.askedFor, ⟨hat.automatic, rfl, ?_, hat.payable, ?_⟩, .pendingStarted hdb⟩
    · simp [Phase.Awaits, send, notInitial, hn, Accountant.db]
    · simp [send, hm, Phase.isChecking]
  | refused hbusy =>
    rcases hbusy with hs | ⟨-, hbusy⟩
    · cases hs
    · exact absurd ⟨hat.payable_idle rfl, hat.pending_idle rfl⟩ hbusy
  | skipped hw hsk =>
    obtain rfl := pure_eq_ok.1 h
    exact ⟨.newScheduled, { hat with scheduled := rfl }, .pendingSkipped rfl hw hsk⟩
  | postponed _ =>
    obtain rfl := pure_eq_ok.1 h
    exact ⟨.pendingScheduled, { hat with scheduled := rfl }, .stays ⟨rfl, rfl⟩⟩

/-! ## The answers -/

variable {ph : Phase}

/-- An answer about templates comes while paying. -/
theorem At.of_initialTemplates {request : InitialTemplatesMessage} (hat : s.At ph)
    (h : .initialTemplates request ∈ s.outstanding) :
    ph = .paying request.initialTemplates.scanType ∧ request.responseSkeletonOpt = none ∧
      s.outstanding = [.initialTemplates request] := by
  have ha := hat.awaits
  cases ph with
  | newScheduled | retryScheduled | pendingScheduled | checking txHashes => simp_all [Phase.Awaits]
  | paying scanType =>
    rcases ha with ⟨request', rfl, hs, ho⟩ | ho
    · obtain rfl : request = request' := by simpa [ho] using h
      exact ⟨rfl, hs, ho⟩
    · simp [ho] at h

theorem At.of_outboundPayments (hat : s.At ph) (h : .outboundPayments re ∈ s.outstanding) :
    ph = .paying re.scanType ∧ re = ⟨re.scanType, none⟩ ∧ s.outstanding = [.outboundPayments re] := by
  have ha := hat.awaits
  cases ph with
  | newScheduled | retryScheduled | pendingScheduled | checking txHashes => simp_all [Phase.Awaits]
  | paying scanType =>
    rcases ha with ⟨re', -, -, ho⟩ | ho
    · simp [ho] at h
    · obtain rfl : re = ⟨scanType, none⟩ := by simpa [ho] using h
      exact ⟨rfl, rfl, ho⟩

variable {re : RequestTransactionReceipts}

theorem At.of_transactionReceipts (hat : s.At ph) (h : .transactionReceipts re ∈ s.outstanding) :
    ph = .checking re.txHashes ∧ re = ⟨re.txHashes, none⟩ ∧ s.outstanding = [.transactionReceipts re] := by
  have ha := hat.awaits
  cases ph with
  | newScheduled | retryScheduled | pendingScheduled => simp_all [Phase.Awaits]
  | paying scanType => rcases ha with ⟨re', -, -, ho⟩ | ho <;> simp [ho] at h
  | checking txHashes =>
    obtain rfl : re = ⟨txHashes, none⟩ := by simpa [show s.outstanding = _ from ha] using h
    exact ⟨rfl, rfl, ha⟩

theorem At.priced_move {re : InitialTemplatesMessage} (hat : s.At ph) (he : s.Expects (.pricedTemplates re))
    (h : s.handle thresholds now (.pricedTemplates re) = .ok s') :
    Moves now s s' (.pricedTemplates re) ph := by
  obtain ⟨rfl, hs, ho⟩ := hat.of_initialTemplates he
  obtain rfl := Except.ok.inj h
  refine ⟨_, ⟨hat.automatic, hat.scheduled, .inr ?_, hat.payable, hat.pending⟩, .stays ⟨rfl, rfl⟩⟩
  simp [answered, send, ho, hs]

theorem At.templatesScanError_move {re : InitialTemplatesMessage} (hat : s.At ph)
    (he : s.Expects (.templatesScanError re))
    (h : s.handle thresholds now (.templatesScanError re) = .ok s') :
    Moves now s s' (.templatesScanError re) ph := by
  obtain ⟨rfl, hs, ho⟩ := hat.of_initialTemplates he
  obtain rfl := Except.ok.inj h
  have hsc : s.scheduled = [] := hat.scheduled
  refine ⟨.again re.initialTemplates.scanType, ?_, .payingFailed ?_⟩
  · cases ht : re.initialTemplates <;>
      simp only [handlePayableScanError, hs, ht, InitialTemplates.scanType, Phase.again] <;>
      exact ⟨hat.automatic, by simp [schedule, answered, hsc, Phase.scheduled],
        by simp [Phase.Awaits, schedule, answered, ho], rfl, hat.pending⟩
  · cases ht : re.initialTemplates <;>
      simp [handlePayableScanError, hs, ht, schedule, answered, Accountant.db, Scanners.db, acknowledgePayableScanError]

theorem At.receiptsScanError_move (hat : s.At ph) (he : s.Expects (.receiptsScanError re))
    (h : s.handle thresholds now (.receiptsScanError re) = .ok s') :
    Moves now s s' (.receiptsScanError re) ph := by
  obtain ⟨rfl, hr, ho⟩ := hat.of_transactionReceipts he
  obtain rfl := Except.ok.inj h
  have hs : s.scheduled = [] := hat.scheduled
  rw [hr] at ho ⊢
  refine ⟨.pendingScheduled, ⟨hat.automatic, ?_, ?_, hat.payable, rfl⟩, .checkingFailed rfl⟩
  · simp [handlePendingPayableScanError, schedule, answered, hs, Phase.scheduled]
  · simp [Phase.Awaits, handlePendingPayableScanError, schedule, answered, ho]

theorem At.sentPayables_move {re : OutboundPaymentsInstructions} (hat : s.At ph) (he : s.Expects (.sentPayables re p))
    (h : s.handle thresholds now (.sentPayables re p) = .ok s') :
    Moves now s s' (.sentPayables re p) ph := by
  obtain ⟨rfl, hr, ho⟩ := hat.of_outboundPayments he
  have hsc : s.scheduled = [] := hat.scheduled
  rw [hr] at h ho ⊢
  simp only [handle, handleSentPayables, bind_eq_ok] at h
  obtain ⟨⟨result, scanners⟩, hf, h⟩ := h
  obtain ⟨hf, hui, hp, hpe⟩ := finishPayableScan_ok hf
  simp only [hui, Option.map_none, pure_eq_ok] at h
  obtain rfl := h
  have hm : scanners.pendingPayable.initiatedAt.isSome = false := hpe ▸ hat.pending
  refine ⟨.ofNextScan result.result, ?_, ?_⟩
  · cases hre : result.result <;>
      exact ⟨hat.automatic, by simp [scheduleNextAutomaticScan, schedule, answered, hsc, Phase.ofNextScan,
          Phase.scheduled], by simp [scheduleNextAutomaticScan, schedule, answered, ho, Phase.ofNextScan,
          Phase.Awaits], by simp [scheduleNextAutomaticScan, schedule, hp, Phase.ofNextScan, Phase.isPaying], hm⟩
  · refine .paid ?_
    cases hre : result.result <;> exact hf

theorem At.txReceipts_move {res : List (TxHashByTable × TxReceiptResult)}
    (hat : s.At ph) (hexp : s.Expects (.txReceipts re res))
    (h : s.handle thresholds now (.txReceipts re res) = .ok s') :
    Moves now s s' (.txReceipts re res) ph := by
  obtain ⟨rfl, hr, ho⟩ := hat.of_transactionReceipts hexp
  have hsc : s.scheduled = [] := hat.scheduled
  rw [hr] at h ho ⊢
  simp only [handle, handleTxReceipts, bind_eq_ok] at h
  obtain ⟨⟨result, scanners⟩, hp, h⟩ := h
  obtain ⟨scanner, hf, hm, rfl, ro, rfl⟩ := finishPendingPayableScan_ok hp
  have hat' : ∀ message next, next.scheduled = [message] → next.Awaits [] → next.isPaying = false →
      next.isChecking = false →
      ({ s.answered (.transactionReceipts ⟨re.txHashes, none⟩) with
        scanners := { s.scanners with pendingPayable := scanner } }.schedule message).At next := by
    intro message next hms ha hp hc
    refine ⟨hat.automatic, by simp [schedule, answered, hsc, hms], ?_, ?_, by simp [schedule, hm, hc]⟩
    · simpa [schedule, answered, ho] using ha
    · rw [hp]
      exact hat.payable
  -- the answer carries no response skeleton, so that each outcome schedules a scan
  rcases ro with _ | _ | _ <;> obtain rfl := pure_eq_ok.1 h
  · exact ⟨.ofScanResult (.noPendingPayablesLeft none), hat' _ .newScheduled rfl rfl rfl rfl, .checked hf⟩
  · exact ⟨.ofScanResult (.paymentRetryRequired none), hat' _ .retryScheduled rfl rfl rfl rfl, .checked hf⟩
  · exact ⟨.ofScanResult (.procedureShouldBeRepeated none), hat' _ .pendingScheduled rfl rfl rfl rfl, .checked hf⟩

/-! ## Events beside the chain -/

/-- A user's request changes nothing but the flag of the initial scan. -/
theorem At.uiScanRequest_move (hat : s.At ph) (h : s.handle thresholds now (.uiScanRequest st sk) = .ok s') :
    Moves now s s' (.uiScanRequest st sk) ph := by
  have hst : ∃ ini, s' = { s with scanners := { s.scanners with initialPendingPayableScan := ini } } := by
    cases st with
    | payables =>
      simp only [handle, handleExternallyTriggeredScan, bind_eq_ok, pure_eq_ok] at h
      obtain ⟨⟨hint, s₁⟩, hre, rfl⟩ := h
      cases newRequested hre with
      | started _ hman => exact absurd hat.automatic (by simp [hman rfl])
      | refused | postponed => exact ⟨_, rfl⟩
    | pendingPayables =>
      simp only [handle, handleExternallyTriggeredScan, bind_eq_ok, pure_eq_ok] at h
      obtain ⟨⟨hint, s₁⟩, hre, rfl⟩ := h
      cases pendingRequested hre with
      | started _ _ hman => exact absurd hat.automatic (by simp [hman rfl])
      | refused | skipped | postponed => exact ⟨_, rfl⟩
    | receivables => exact ⟨_, (pure_eq_ok.1 h).symm⟩
  obtain ⟨ini, rfl⟩ := hst
  exact ⟨ph, { hat with }, .stays ⟨rfl, rfl⟩⟩

theorem At.servicesConsumed_move (hat : s.At ph) (h : s.handle thresholds now (.servicesConsumed t w tc) = .ok s') :
    Moves now s s' (.servicesConsumed t w tc) ph := by
  simp only [handle, recordServiceConsumed] at h
  split at h
  · obtain rfl := Except.ok.inj h
    exact ⟨ph, hat, .stays ⟨rfl, rfl⟩⟩
  · simp only [bind_eq_ok, pure_eq_ok] at h
    obtain ⟨payable, -, rfl⟩ := h
    exact ⟨ph, { hat with }, .stays ⟨rfl, rfl⟩⟩

/-! ## Every event -/

/-- **What an event does to the chain.** -/
theorem exists_move (hat : s.At ph) (hs : s.Step thresholds now e s') : Moves now s s' e ph := by
  obtain ⟨he, h⟩ := hs
  cases e with
  | scanMessage message =>
    have hm : message ∈ ph.scheduled := hat.scheduled ▸ he
    cases ph with
    | newScheduled =>
      obtain rfl := List.mem_singleton.1 hm
      exact hat.new_move h
    | retryScheduled =>
      obtain rfl := List.mem_singleton.1 hm
      exact hat.retry_move h
    | pendingScheduled =>
      obtain rfl := List.mem_singleton.1 hm
      exact hat.pending_move h
    | paying _ | checking _ => simp [Phase.scheduled] at hm
  | uiScanRequest scanType skeleton => exact hat.uiScanRequest_move h
  | updateWallets earningWallet consumingWallet =>
    obtain rfl := Except.ok.inj h
    exact ⟨ph, { hat with }, .stays ⟨rfl, rfl⟩⟩
  | servicesConsumed timestamp wallet totalCharge => exact hat.servicesConsumed_move h
  | pricedTemplates request => exact hat.priced_move he h
  | templatesScanError request => exact hat.templatesScanError_move he h
  | sentPayables request result => exact hat.sentPayables_move he h
  | txReceipts request results => exact hat.txReceipts_move he h
  | receiptsScanError request => exact hat.receiptsScanError_move he h

/-! ## Runs -/

/-- The Accountant of a freshly started Node, over the tables that the last one left. -/
def started (db : PaymentDb) (consumingWalletOpt : Option Address) (earningWallet : Address) : Accountant :=
  (Accountant.new db consumingWalletOpt earningWallet true).handleStartMessage

theorem started_at (db : PaymentDb) (c : Option Address) (e : Address) : (started db c e).At .pendingScheduled :=
  ⟨rfl, rfl, rfl, rfl, rfl⟩

/-- The states that are reached by events all of which meet `ok`. -/
def Runs (thresholds : PaymentThresholds) (ok : Accountant → Event → Prop) : Accountant → Accountant → Prop :=
  Relation.ReflTransGen fun s s' => ∃ now event, ok s event ∧ s.Step thresholds now event s'

theorem Runs.refl (thresholds : PaymentThresholds) (ok : Accountant → Event → Prop) (s : Accountant) :
    Runs thresholds ok s s := Relation.ReflTransGen.refl

variable {ok : Accountant → Event → Prop}

theorem Runs.step (h : Runs thresholds ok s₀ s)
    (hok : ok s e) (hs : s.Step thresholds now e s') : Runs thresholds ok s₀ s' :=
  Relation.ReflTransGen.tail h ⟨now, e, hok, hs⟩

/-- A property that every event meeting `ok` keeps holds in every state of a run. -/
theorem Runs.invariant (h : Runs thresholds ok s₀ s) (Inv : Accountant → Prop) (h₀ : Inv s₀)
    (hs : ∀ {s now event s'}, Inv s → ok s event → s.Step thresholds now event s' → Inv s') : Inv s := by
  induction h with
  | refl => exact h₀
  | tail _ hl ih =>
    obtain ⟨now, event, hok, hl⟩ := hl
    exact hs ih hok hl

end Accountant

end MasqMobile
