import MasqMobile.Payments.Chain
import MasqMobile.Payments.Outcome

/-!
# New payments and open ones

A scan for new payables must not start while an earlier payment is open: the debt would be paid again. Nothing at the
start of the scan checks this. What should keep it is the order of the scans: a scan for new payables is scheduled
when a scan for pending payables was not worth while, when all receipts were successes, or when a payable scan sent
nothing. `Cautious` is what these three occasions need in order to mean that no payment is open. The code does not
ensure it: an initial scan without receipts is scheduled again, but its flag is used up, so that it is refused as
having nothing to do.
-/

namespace MasqMobile

variable {db : PaymentDb} {db' : PaymentDb}

theorem PaymentDb.Resolved.of_sameTxs (h : db.Resolved) (hs : Accountant.SameTxs db db') : db'.Resolved := by
  obtain ⟨hse, hf⟩ := hs
  constructor
  · rw [hse]
    exact h.noPending
  · rw [hf]
    exact h.noRetryRequired
  · rw [hf]
    exact h.noRecheckRequired

theorem PaymentDb.askedFor_of_sameTxs (hs : Accountant.SameTxs db db') : db'.askedFor = db.askedFor := by
  obtain ⟨hse, hf⟩ := hs
  simp only [askedFor, hse, hf]

theorem PaymentDb.sentPayable_mem_askedFor (hm : tx ∈ db.sentPayable.rows)
    (hp : tx.status.isPending) : .sentPayable tx.hash ∈ db.askedFor := by
  refine List.mem_append_left _ (List.mem_map.2 ⟨tx, ?_, rfl⟩)
  simp [SentPayables.retrievePending, hm, hp]

theorem PaymentDb.failedPayable_mem_askedFor (hm : tx ∈ db.failedPayable)
    (hr : tx.status.isRecheckRequired) : .failedPayable tx.hash ∈ db.askedFor := by
  refine List.mem_append_right _ (List.mem_map.2 ⟨tx, ?_, rfl⟩)
  simp [FailedPayables.retrieveRecheckRequired, hm, hr]

namespace Accountant

variable {thresholds : PaymentThresholds} {now : Nat} {s s' : Accountant}

/-! ## The start of a scan for new payables -/

/-- The response skeleton of a request for new payables. -/
def newPayableRequest : Event → Option (Option ResponseSkeleton)
  | .scanMessage (.scanForNewPayables responseSkeletonOpt) => some responseSkeletonOpt
  | .uiScanRequest .payables responseSkeleton => some (some responseSkeleton)
  | _ => none

/-- Handling the event, `start_new_payable_scan_guarded` reaches `start_scan`. -/
def StartsNewPayableScan (s : Accountant) (event : Event) : Prop :=
  s.Expects event ∧ ∃ responseSkeletonOpt, newPayableRequest event = some responseSkeletonOpt ∧
    s.consumingWalletOpt.isSome ∧
    s.scanners.checkNewPayableScan responseSkeletonOpt s.automaticScansEnabled = .ok ()

/-- In automatic mode, only the scheduled message starts a scan for new payables. -/
theorem At.newScheduled_of_starts (hat : s.At p) (h : s.StartsNewPayableScan e) : p = .newScheduled := by
  obtain ⟨he, responseSkeletonOpt, hr, -, hc⟩ := h
  unfold newPayableRequest at hr
  split at hr
  · simp only [Expects, hat.scheduled] at he
    cases p with
    | newScheduled => rfl
    | retryScheduled | pendingScheduled | paying _ | checking _ => simp [Phase.scheduled] at he
  · obtain rfl := Option.some.inj hr
    simp [Scanners.checkNewPayableScan, hat.automatic] at hc
  · cases hr

/-! ## What the order of the scans has to ensure -/

/-- What the phase says about the tables. -/
def Settled (db : PaymentDb) : Phase → Prop
  | .newScheduled | .paying .new => db.Resolved
  | .checking txHashes => txHashes = db.askedFor
  | .retryScheduled | .pendingScheduled | .paying .retry => True

/-- The three occasions on which a scan for new payables is scheduled:
* a scan for pending payables that is refused, or finds nothing to ask for, meets no open payment;
* receipts that are all successes answer for everything that was asked, and no transaction waits for a retry;
* a retry that sent nothing and failed in nothing leaves no open payment. -/
def Cautious (s : Accountant) : Event → Prop
  | .scanMessage (.scanForPendingPayables _) =>
    s.consumingWalletOpt.isSome → s.Refused ∨ s.db.askedFor = [] → s.db.Resolved
  | .txReceipts request results => (∀ answer ∈ results, PendingPayableScanner.succeeded answer.2) →
    request.txHashes ⊆ results.map Prod.fst ∧ ∀ tx ∈ s.db.failedPayable, tx.status ≠ .retryRequired
  | .sentPayables ⟨.retry, _⟩ (.ok ⟨[], []⟩) => s.db.Resolved
  | _ => True

theorem Settled.of_sameTxs {phase : Phase} (h : Settled db phase) (hs : SameTxs db db') : Settled db' phase := by
  cases phase with
  | newScheduled => exact PaymentDb.Resolved.of_sameTxs h hs
  | checking txHashes => exact h.trans (PaymentDb.askedFor_of_sameTxs hs).symm
  | paying scanType =>
    cases scanType with
    | new => exact PaymentDb.Resolved.of_sameTxs h hs
    | retry => trivial
  | retryScheduled | pendingScheduled => trivial

/-- Payments that were all sent, failed or not even tried: what follows them. -/
theorem settled_of_paid (hs : Settled s.db (.paying st)) (hc : s.Cautious (.sentPayables ⟨st, none⟩ p))
    (hf : PayableScanner.finishScan ⟨p, st, none⟩ s.db = .ok (re, db')) :
    Settled db' (.ofNextScan re.result) := by
  cases hr : re.result with
  | pendingPayableScan | retryPayableScan => trivial
  | newPayableScan =>
    obtain rfl := PayableScanner.finishScan_newPayableScan hf hr
    cases st with
    | new => exact hs
    | retry =>
      -- a retry leads on to new payables only if its batch was empty
      simp only [PayableScanner.finishScan, Fallible.bind_eq_ok, Fallible.pure_eq_ok, Prod.mk.injEq] at hf
      obtain ⟨_, -, rfl, -⟩ := hf
      rcases p with e | ⟨sentTxs, failedTxs⟩
      · cases hr
      · simp only [PayableScanner.determineNextScanToRun] at hr
        split at hr
        · split at hr
          · subst_vars
            exact hc
          · cases hr
        · cases hr

/-- The receipts of everything that was asked for: what follows them. -/
theorem settled_of_checked {res : List (TxHashByTable × TxReceiptResult)}
    (hs : Settled s.db (.checking t)) (hca : s.Cautious (.txReceipts ⟨t, none⟩ res))
    (hf : s.scanners.pendingPayable.finishScan now ⟨res, none⟩ = .ok (re, sc)) :
    Settled sc.db (.ofScanResult re) := by
  cases re with
  | paymentRetryRequired _ | procedureShouldBeRepeated _ => trivial
  | noPendingPayablesLeft uiMessage =>
    refine PendingPayableScanner.finishScan_resolved hf ?_
    intro ha
    obtain ⟨hc, hre⟩ := hca ha
    obtain rfl : t = s.db.askedFor := hs
    refine ⟨?_, ?_, hre⟩
    · intro tx htx hp
      exact hc (PaymentDb.sentPayable_mem_askedFor htx hp)
    · intro tx htx hr
      exact hc (PaymentDb.failedPayable_mem_askedFor htx hr)

theorem Settled.move {phase phase' : Phase} (hs : Settled s.db phase)
    (hc : s.Cautious e) (hm : Move now s s' e phase phase') : Settled s'.db phase' := by
  cases hm with
  | stays ht => exact hs.of_sameTxs ht
  | newStarted hdb =>
    rw [hdb]
    exact hs
  | retryStarted | checkingFailed => trivial
  | pendingStarted hdb =>
    rw [hdb]
    exact rfl
  | pendingSkipped hdb hw hsk =>
    rw [hdb]
    exact hc hw hsk
  | @payingFailed _ scanType hdb =>
    cases scanType with
    | new =>
      rw [hdb]
      exact hs
    | retry => trivial
  | paid hf => exact settled_of_paid hs hc hf
  | checked hf => exact settled_of_checked hs hc hf

theorem settled_of_runs {phase₀ : Phase} (hr : Runs thresholds Cautious s₀ s)
    (hat₀ : s₀.At phase₀) (hs₀ : Settled s₀.db phase₀) : ∃ phase, s.At phase ∧ Settled s.db phase := by
  refine hr.invariant (fun s => ∃ phase, s.At phase ∧ Settled s.db phase) ⟨phase₀, hat₀, hs₀⟩ ?_
  rintro s now event s' ⟨phase, hat, hs⟩ hc hst
  obtain ⟨phase', hat', hm⟩ := exists_move hat hst
  exact ⟨phase', hat', hs.move hc hm⟩

/-- **No new payments while old ones are open.** From whatever tables the Node starts, in every run of cautious
events, a scan for new payables starts only when no payment is open. -/
theorem new_payments_only_when_resolved {db : PaymentDb} {consumingWalletOpt : Option Address}
    {earningWallet : Address} {event : Event}
    (hrun : Runs thresholds Cautious (started db consumingWalletOpt earningWallet) s)
    (hstarts : s.StartsNewPayableScan event) : s.db.Resolved := by
  obtain ⟨phase, hat, hs⟩ := settled_of_runs hrun (started_at db consumingWalletOpt earningWallet) trivial
  obtain rfl := hat.newScheduled_of_starts hstarts
  exact hs

/-! ### A debt that is paid twice -/

/-- The state after an event, the same if the handler panics. -/
def after (thresholds : PaymentThresholds) (s : Accountant) (now : Nat) (event : Event) : Accountant :=
  match s.handle thresholds now event with
  | .ok s' => s'
  | .error _ => s

theorem step_after (he : s.Expects e)
    (hr : ∃ s', s.handle thresholds now e = .ok s') : s.Step thresholds now e (s.after thresholds now e) := by
  obtain ⟨s', h⟩ := hr
  exact ⟨he, by rw [after, h]⟩

def sampleThresholds : PaymentThresholds where
  debtThresholdGwei := 10
  maturityThresholdSec := 100
  permanentDebtAllowedGwei := 1
  thresholdIntervalSec := 100

/-- Wallet 1 is owed 5 gwei; the transaction that pays them is pending. -/
def samplePendingDb : PaymentDb where
  payable := ⟨[⟨1, .ofInt 5000000000 (by decide), 1000, none⟩], by decide⟩
  sentPayable := ⟨[⟨8, 1, 5000000000, 1500, 3, 5, .pending .waiting⟩], by decide⟩
  failedPayable := []

def sampleRestart : Accountant := started samplePendingDb (some 20) 21

def samplePendingRequest : Event := .scanMessage (.scanForPendingPayables none)

def sampleNewRequest : Event := .scanMessage (.scanForNewPayables none)

def sampleReceiptsRequest : RequestTransactionReceipts := ⟨[.sentPayable 8], none⟩

/-- The initial scan asks for the receipt. -/
def sampleAsked : Accountant := sampleRestart.after sampleThresholds 2000 samplePendingRequest

/-- The receipt cannot be had. -/
def sampleError : Accountant := sampleAsked.after sampleThresholds 2010 (.receiptsScanError sampleReceiptsRequest)

/-- The scan is asked for again, and refused. -/
def sampleRefused : Accountant := sampleError.after sampleThresholds 2100 samplePendingRequest

/-- After a restart with a pending payment and one failed query, a scan for new payables starts while the
payment is pending, and makes it again. -/
theorem new_payments_while_pending : ∃ s : Accountant,
    Runs sampleThresholds (fun _ _ => True) (started samplePendingDb (some 20) 21) s ∧
      s.StartsNewPayableScan sampleNewRequest ∧ ¬s.db.Resolved ∧
      (s.after sampleThresholds 2200 sampleNewRequest).outstanding =
        [.initialTemplates ⟨.new [⟨⟨1, 5000000000⟩⟩], 20, none⟩] := by
  have ha : sampleRestart.Step sampleThresholds 2000 samplePendingRequest sampleAsked := step_after (by decide) ⟨_, rfl⟩
  have he : sampleAsked.Step sampleThresholds 2010 (.receiptsScanError sampleReceiptsRequest) sampleError :=
    step_after (by decide) ⟨_, rfl⟩
  have hr : sampleError.Step sampleThresholds 2100 samplePendingRequest sampleRefused := step_after (by decide) ⟨_, rfl⟩
  refine ⟨sampleRefused, ?_, ⟨by decide, none, rfl, rfl, rfl⟩, ?_, by decide⟩
  · exact (((Runs.refl _ _ _).step trivial ha).step trivial he).step trivial hr
  · intro hre
    exact hre.noPending _ (List.mem_singleton.2 rfl) rfl

/-- The receipt that the initial scan gets in the good case. -/
def sampleReceipts : Event := .txReceipts sampleReceiptsRequest [(.sentPayable 8, .ok (.succeeded ⟨4, 40⟩))]

def sampleConfirmed : Accountant := sampleAsked.after sampleThresholds 2010 sampleReceipts

theorem new_payments_only_when_resolved_sample :
    Runs sampleThresholds Cautious (started samplePendingDb (some 20) 21) sampleConfirmed ∧
      sampleConfirmed.StartsNewPayableScan sampleNewRequest ∧ sampleConfirmed.db.Resolved := by
  have ha : sampleRestart.Step sampleThresholds 2000 samplePendingRequest sampleAsked := step_after (by decide) ⟨_, rfl⟩
  have hc : sampleAsked.Step sampleThresholds 2010 sampleReceipts sampleConfirmed := step_after (by decide) ⟨_, rfl⟩
  have has : sampleRestart.Cautious samplePendingRequest := by
    -- the initial scan is admitted, and it has something to ask for
    rintro - (⟨hin, -⟩ | hn)
    · exact absurd hin (by decide)
    · exact absurd hn (by decide)
  have hre : sampleAsked.Cautious sampleReceipts := by
    intro _
    exact ⟨by decide, by simp [show sampleAsked.db.failedPayable = [] from rfl]⟩
  have hr : Runs sampleThresholds Cautious (started samplePendingDb (some 20) 21) sampleConfirmed :=
    ((Runs.refl _ _ _).step has ha).step hre hc
  have hs : sampleConfirmed.StartsNewPayableScan sampleNewRequest := ⟨by decide, none, rfl, rfl, rfl⟩
  exact ⟨hr, hs, new_payments_only_when_resolved hr hs⟩

end Accountant

end MasqMobile
