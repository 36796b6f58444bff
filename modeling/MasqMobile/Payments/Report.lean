import MasqMobile.Payments.PendingScan

/-!
# The receipt scan report

What `interpret_tx_receipts` makes of a message. `interpretTxReceipts_eq_ok_iff` says it in one equivalence: the
message names no record twice and only records of the caches (`Resolves`), no case panics (`Interpretable`), and the
report lists each case in one place (`reportOf`).
-/

namespace MasqMobile

open Fallible TxReceiptInterpreter

def TxByTable.key : TxByTable → TxHashByTable
  | .sentPayable tx => .sentPayable tx.hash
  | .failedPayable tx => .failedPayable tx.hash

namespace PendingPayableScanner

/-! ## One case -/

/-- The confirmation in a case, once its record is known. -/
def caseConfirmation : TxByTable × TxReceiptResult → Option SentTx
  | (.sentPayable tx, .ok (.succeeded block)) => some { tx with status := .confirmed block .normal }
  | _ => none

/-- The reclaim in a case, once its record is known. -/
def caseReclaim : TxByTable × TxReceiptResult → Option SentTx
  | (.failedPayable tx, .ok (.succeeded block)) => some (SentTx.ofFailed tx block)
  | _ => none

/-- The failure in a case: new for a sent transaction, settled for a failed one. -/
def caseFailure : TxByTable × TxReceiptResult → Option PresortedTxFailure
  | (.sentPayable tx, .ok .reverted) => some (.newEntry (.ofSent tx .reverted))
  | (.sentPayable tx, .ok .pending) => some (.newEntry (.ofSent tx .pendingTooLong))
  | (.failedPayable tx, .ok .reverted) => some (.recheckCompleted tx.hash)
  | _ => none

/-- The validation failure in a case. -/
def caseRpcFailure : TxByTable × TxReceiptResult → Option FailedValidationByTable
  | (tx, .error e) => some (rpcFailure tx e)
  | (.failedPayable tx, .ok .pending) =>
    some (.failedPayable ⟨tx.hash, .internal .pendingTooLongNotReplaced, tx.status⟩)
  | _ => none

/-- The interpreter gets over a case without a panic. -/
def Interpretable (clock : Nat) (sentPayable : SentPayables) : TxByTable × TxReceiptResult → Prop
  | (.sentPayable tx, .ok .pending) => 0 ≤ tx.timestamp ∧ tx.timestamp ≤ clock
  | (.failedPayable tx, .ok .pending) => tx.reason = .pendingTooLong ∧ sentPayable.retrieveByNonce tx.nonce ≠ []
  | _ => True

def reportOf (txCases : List (TxByTable × TxReceiptResult)) : ReceiptScanReport where
  standardConfirmations := txCases.filterMap caseConfirmation
  reclaims := txCases.filterMap caseReclaim
  txFailures := txCases.filterMap caseFailure
  txReceiptRpcFailures := txCases.filterMap caseRpcFailure

def append (report report' : ReceiptScanReport) : ReceiptScanReport where
  standardConfirmations := report.standardConfirmations ++ report'.standardConfirmations
  reclaims := report.reclaims ++ report'.reclaims
  txFailures := report.txFailures ++ report'.txFailures
  txReceiptRpcFailures := report.txReceiptRpcFailures ++ report'.txReceiptRpcFailures

variable {ck : Nat} {sentPayable : SentPayables} {report report' : ReceiptScanReport}

theorem append_reportOf_cons :
    append (append report (reportOf [t])) (reportOf txCases) = append report (reportOf (t :: txCases)) := by
  simp only [append, reportOf, List.append_assoc, ← List.filterMap_append, List.singleton_append]

theorem append_singleton (t : TxByTable × TxReceiptResult) : append report (reportOf [t]) =
      ⟨report.standardConfirmations ++ (caseConfirmation t).toList, report.reclaims ++ (caseReclaim t).toList,
        report.txFailures ++ (caseFailure t).toList,
        report.txReceiptRpcFailures ++ (caseRpcFailure t).toList⟩ := by
  have hs : ∀ {α : Type} (f : TxByTable × TxReceiptResult → Option α), [t].filterMap f = (f t).toList := by
    intro α f
    cases h : f t <;> simp [h]
  simp only [append, reportOf, hs]

theorem interpretCase_eq_ok_iff : interpretCase ck sentPayable report tx re = .ok report' ↔
      Interpretable ck sentPayable (tx, re) ∧ append report (reportOf [(tx, re)]) = report' := by
  rcases re with e | _ | block | _
  · cases tx <;> simp [interpretCase, handleRpcFailure, Interpretable,
      append_singleton, caseConfirmation, caseReclaim, caseFailure, caseRpcFailure]
  · cases tx <;> simp [interpretCase, handleRevertedTx, Interpretable,
      append_singleton, caseConfirmation, caseReclaim, caseFailure, caseRpcFailure]
  · cases tx <;> simp [interpretCase, handleTxConfirmation, Interpretable,
      append_singleton, caseConfirmation, caseReclaim, caseFailure, caseRpcFailure]
  · cases tx with
    | sentPayable sentTx =>
      simp only [interpretCase, handleStillPendingTx, elapsedInMs, bind_eq_ok, failIf_eq_ok, pure_eq_ok,
        Interpretable, append_singleton, caseConfirmation, caseReclaim, caseFailure, caseRpcFailure]
      simp
    | failedPayable failedTx =>
      simp only [interpretCase, handleStillPendingTx, bind_eq_ok, failIf_eq_ok, pure_eq_ok,
        Interpretable, append_singleton, caseConfirmation, caseReclaim, caseFailure, caseRpcFailure]
      simp [and_assoc]

theorem composeReceiptScanReport_eq_ok_iff {txCases : List (TxByTable × TxReceiptResult)} :
    composeReceiptScanReport ck sentPayable report txCases = .ok report' ↔
      (∀ t ∈ txCases, Interpretable ck sentPayable t) ∧ append report (reportOf txCases) = report' := by
  induction txCases generalizing report with
  | nil => simp [composeReceiptScanReport, append, reportOf]
  | cons t rest ih =>
    obtain ⟨tx, result⟩ := t
    rw [← append_reportOf_cons]
    simp only [composeReceiptScanReport, bind_eq_ok, interpretCase_eq_ok_iff, ih, List.forall_mem_cons]
    constructor
    · rintro ⟨_, ⟨hc, rfl⟩, hr, rfl⟩
      exact ⟨⟨hc, hr⟩, rfl⟩
    · rintro ⟨⟨hc, hr⟩, rfl⟩
      exact ⟨_, ⟨hc, rfl⟩, hr, rfl⟩

/-! ## Answers and records -/

/-- The record that the caches hold under a key. -/
def recordOf (sent : SentPayables) (failed : RecheckRequiringFailures) : TxHashByTable → Option TxByTable
  | .sentPayable hash => (sent.find hash).map .sentPayable
  | .failedPayable hash => (failed.find hash).map .failedPayable

variable {key : TxHashByTable}

theorem key_of_recordOf {sent : SentPayables} {failed : RecheckRequiringFailures}
    (h : recordOf sent failed key = some tx) : tx.key = key := by
  cases key with
  | sentPayable hash =>
    obtain ⟨st, hf, rfl⟩ := Option.map_eq_some_iff.1 h
    exact congrArg _ (Table.find_eq_some_iff.1 hf).2
  | failedPayable hash =>
    obtain ⟨f, hf, rfl⟩ := Option.map_eq_some_iff.1 h
    exact congrArg _ (Table.find_eq_some_iff.1 hf).2

/-- Each answer is about the record that the caches hold under its key. -/
def Resolves (sent : SentPayables) (failed : RecheckRequiringFailures) :
    List (TxHashByTable × TxReceiptResult) → List (TxByTable × TxReceiptResult) → Prop :=
  List.Forall₂ fun answer txCase => recordOf sent failed answer.1 = some txCase.1 ∧ answer.2 = txCase.2

variable {sent : SentPayables} {failed : RecheckRequiringFailures} {results : List (TxHashByTable × TxReceiptResult)}
  {txCases : List (TxByTable × TxReceiptResult)}

section

variable (h : Resolves sent failed results txCases)
include h

theorem Resolves.map_key : txCases.map (·.1.key) = results.map Prod.fst := by
  induction h with
  | nil => rfl
  | cons hc _ ih => rw [List.map_cons, List.map_cons, ih, key_of_recordOf hc.1]

theorem Resolves.unique {txCases' : List (TxByTable × TxReceiptResult)}
    (h' : Resolves sent failed results txCases') : txCases = txCases' := by
  refine Relator.RightUnique.forall₂ ?_ h h'
  intro answer t t' hc hc'
  exact Prod.ext (Option.some.inj (hc.1.symm.trans hc'.1)) (hc.2.symm.trans hc'.2)

theorem Resolves.exists_answer (hm : t ∈ txCases) : ∃ answer ∈ results,
    recordOf sent failed answer.1 = some t.1 ∧ answer.2 = t.2 :=
  List.Forall₂.exists_mem (.flip h) hm

theorem Resolves.exists_case (hm : an ∈ results) : ∃ tx, recordOf sent failed an.1 = some tx ∧
    (tx, an.2) ∈ txCases := by
  obtain ⟨txCase, hc, hr, heq⟩ := List.Forall₂.exists_mem h hm
  exact ⟨txCase.1, hr, heq ▸ hc⟩

end

/-- A record that has left its cache is not found again; the others still are. -/
theorem recordOf_erase_sent {hash : TxHash} :
    recordOf (sent.erase hash) failed key = if key = .sentPayable hash then none else recordOf sent failed key := by
  cases key with
  | failedPayable ha' => simp [recordOf]
  | sentPayable ha' =>
    by_cases hh : ha' = hash <;> simp [recordOf, Table.find_erase, hh]

theorem recordOf_erase_failed {hash : TxHash} :
    recordOf sent (failed.erase hash) key = if key = .failedPayable hash then none else recordOf sent failed key := by
  cases key with
  | sentPayable ha' => simp [recordOf]
  | failedPayable ha' =>
    by_cases hh : ha' = hash <;> simp [recordOf, Table.find_erase, hh]

/-- Taking the record of `key` out of the caches costs nothing as long as no other answer names it. -/
theorem resolves_of_erased {sent' : SentPayables} {failed' : RecheckRequiringFailures} (he : ∀ key',
    recordOf sent' failed' key' = if key' = key then none else recordOf sent failed key') :
    Resolves sent' failed' results txCases ↔ key ∉ results.map Prod.fst ∧ Resolves sent failed results txCases := by
  constructor
  · intro h
    induction h with
    | nil => exact ⟨List.not_mem_nil, .nil⟩
    | @cons answer _ _ _ hc _ ih =>
      rw [he] at hc
      by_cases hk : answer.1 = key
      · simp [hk] at hc
      · rw [if_neg hk] at hc
        exact ⟨by simpa [Ne.symm hk] using ih.1, .cons hc ih.2⟩
  · rintro ⟨hn, h⟩
    induction h with
    | nil => exact .nil
    | @cons answer _ _ _ hc _ ih =>
      simp only [List.map_cons, List.mem_cons, not_or] at hn
      refine .cons ?_ (ih hn.2)
      rw [he, if_neg (Ne.symm hn.1)]
      exact hc

theorem resolveRealQueries_eq_ok_iff : resolveRealQueries sent failed results = .ok txCases ↔
      (results.map Prod.fst).Nodup ∧ Resolves sent failed results txCases := by
  induction results generalizing sent failed txCases with
  | nil =>
    constructor
    · rintro ⟨⟩
      exact ⟨List.nodup_nil, .nil⟩
    · rintro ⟨-, ⟨⟩⟩
      rfl
  | cons answer rest ih =>
    obtain ⟨key, result⟩ := answer
    rw [List.map_cons, List.nodup_cons]
    -- the answer takes its record out of the cache, and the rest is resolved from what is left
    have hs : ∀ (sent' : SentPayables) (failed' : RecheckRequiringFailures),
        (∀ key', recordOf sent' failed' key' = if key' = key then none else recordOf sent failed key') →
        ((∃ tx, recordOf sent failed key = some tx ∧ ∃ rest', resolveRealQueries sent' failed' rest = .ok rest' ∧
            (tx, result) :: rest' = txCases) ↔
          (key ∉ rest.map Prod.fst ∧ (rest.map Prod.fst).Nodup) ∧
            Resolves sent failed ((key, result) :: rest) txCases) := by
      intro sent' failed' he
      constructor
      · rintro ⟨tx, hrec, rest', hre, rfl⟩
        obtain ⟨hnd, hr⟩ := ih.1 hre
        obtain ⟨hn, hr⟩ := (resolves_of_erased he).1 hr
        exact ⟨⟨hn, hnd⟩, .cons ⟨hrec, rfl⟩ hr⟩
      · rintro ⟨⟨hn, hnd⟩, hr⟩
        cases hr with
        | @cons _ txCase _ rest' hc hre =>
          obtain ⟨tx, result'⟩ := txCase
          obtain ⟨hrec, rfl⟩ := hc
          exact ⟨tx, hrec, rest', ih.2 ⟨hnd, (resolves_of_erased he).2 ⟨hn, hre⟩⟩, rfl⟩
    cases key with
    | sentPayable hash =>
      rw [← hs (sent.erase hash) failed fun key' => recordOf_erase_sent]
      simp only [resolveRealQueries, recordOf, bind_eq_ok, okOr_eq_ok, pure_eq_ok,
        Option.map_eq_some_iff, exists_exists_and_eq_and]
    | failedPayable hash =>
      rw [← hs sent (failed.erase hash) fun key' => recordOf_erase_failed]
      simp only [resolveRealQueries, recordOf, bind_eq_ok, okOr_eq_ok, pure_eq_ok,
        Option.map_eq_some_iff, exists_exists_and_eq_and]

/-! ## The report on a message -/

/-- **The report on a message.** -/
theorem interpretTxReceipts_eq_ok_iff {s : PendingPayableScanner} {m : TxReceiptsMessage} :
    s.interpretTxReceipts ck m = .ok report ↔ (m.results.map Prod.fst).Nodup ∧
        ∃ txCases, Resolves s.currentSentPayables s.suspectedFailedPayables m.results txCases ∧
          (∀ t ∈ txCases, Interpretable ck s.db.sentPayable t) ∧ reportOf txCases = report := by
  simp only [interpretTxReceipts, bind_eq_ok, resolveRealQueries_eq_ok_iff,
    composeReceiptScanReport_eq_ok_iff, and_assoc, exists_and_left]
  rfl

end PendingPayableScanner

end MasqMobile
