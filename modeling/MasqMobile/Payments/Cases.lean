import MasqMobile.Payments.Outcome

/-!
# The cases of a receipt scan

What `finish_scan` works on, if the tables are consistent (`PaymentDb.Consistent`) and the message answers exactly what
`start_scan` asked for. Each answer is then about the record that was asked about (`exists_casesOf`), and the report
asks the tables for statements over hashes that are pairwise distinct (`nodup_picked`).
-/

namespace MasqMobile

/-! ## Consistent tables -/

def PaymentDb.hashes (db : PaymentDb) : List TxHash := db.sentPayable.hashes ++ FailedPayables.hashes db.failedPayable

def PaymentDb.HashesUnique (db : PaymentDb) : Prop := db.hashes.Nodup

instance (db : PaymentDb) : Decidable db.HashesUnique := inferInstanceAs (Decidable db.hashes.Nodup)

/-- What the scan relies on in the tables: hashes and the nonces of sent transactions are unique, and a failed
transaction that is to be checked again was given up as pending for too long and replaced. -/
structure PaymentDb.Consistent (db : PaymentDb) : Prop where
  hashesUnique : db.HashesUnique
  noncesUnique : (db.sentPayable.rows.map SentTx.nonce).Nodup
  replaced : ∀ tx ∈ db.failedPayable, tx.status.isRecheckRequired → tx.reason = .pendingTooLong ∧
      ∃! sentTx, sentTx ∈ db.sentPayable.rows ∧ sentTx.status.isPending ∧ sentTx.nonce = tx.nonce

/-- The amounts are such as the columns of the table hold. -/
def PaymentDb.AmountsStorable (db : PaymentDb) : Prop :=
  ∀ tx ∈ db.sentPayable.rows, storable tx.amountMinor ∧ storable tx.gasPriceMinor

def PaymentDb.Asks (db : PaymentDb) : TxByTable → Prop
  | .sentPayable tx => tx ∈ db.sentPayable.rows ∧ tx.status.isPending
  | .failedPayable tx => tx ∈ db.failedPayable ∧ tx.status.isRecheckRequired

def TxByTable.nonce : TxByTable → Nat
  | .sentPayable tx => tx.nonce
  | .failedPayable tx => tx.nonce

def TxReceiptResult.isMined : TxReceiptResult → Bool
  | .ok (.succeeded _) | .ok .reverted => true
  | _ => false

/-- At most one of the transactions with a nonce is on the chain. -/
def PaymentDb.MinedOnce (db : PaymentDb) (results : List (TxHashByTable × TxReceiptResult)) : Prop :=
  ∀ tx tx' result result', db.Asks tx → db.Asks tx' → (tx.key, result) ∈ results → (tx'.key, result') ∈ results →
    TxReceiptResult.isMined result → TxReceiptResult.isMined result' → tx.nonce = tx'.nonce → tx.key = tx'.key

variable {error : BlockchainErrorKind} {ck : Nat} {db : PaymentDb}

theorem PaymentDb.mem_askedFor_iff {key : TxHashByTable} : key ∈ db.askedFor ↔ ∃ tx, db.Asks tx ∧ tx.key = key := by
  simp only [askedFor, List.mem_append, List.mem_map, SentPayables.retrievePending,
    FailedPayables.retrieveRecheckRequired, List.mem_dedup, List.mem_filter]
  constructor
  · rintro (⟨tx, htx, rfl⟩ | ⟨tx, htx, rfl⟩)
    · exact ⟨.sentPayable tx, htx, rfl⟩
    · exact ⟨.failedPayable tx, htx, rfl⟩
  · rintro ⟨tx, ha, rfl⟩
    cases tx with
    | sentPayable tx => exact .inl ⟨tx, ha, rfl⟩
    | failedPayable tx => exact .inr ⟨tx, ha, rfl⟩

theorem PaymentDb.HashesUnique.failed (h : db.HashesUnique) : (FailedPayables.hashes db.failedPayable).Nodup :=
  (List.nodup_append.1 h).2.1

theorem PaymentDb.HashesUnique.disjoint (h : db.HashesUnique) :
    List.Disjoint db.sentPayable.hashes (FailedPayables.hashes db.failedPayable) :=
  List.disjoint_of_nodup_append h

/-! ## Counted attempts -/

def ValidationStatus.attemptsOf (error : BlockchainErrorKind) : ValidationStatus → Nat
  | .waiting => 0
  | .reattempting attempts => (attempts.find? (·.1 = error)).elim 0 (·.2.attempts)

theorem PreviousAttempts.isSome_addAttempt_iff (att : PreviousAttempts) :
    (att.addAttempt error ck).isSome ↔ (att.find? (·.1 = error)).elim 0 (·.2.attempts) + 1 < 2 ^ 16 := by
  induction att with
  | nil => simp [addAttempt]
  | cons attempt rest ih =>
    obtain ⟨kind, stats⟩ := attempt
    by_cases hk : kind = error
    · simp [addAttempt, hk, ErrorStats.increment, Fallible.checkedAdd]
      split <;> simp_all
    · rw [List.find?_cons_of_neg (by simpa using hk), ← ih, addAttempt, if_neg hk]
      cases addAttempt error ck rest <;> rfl

theorem ValidationStatus.isSome_afterFailure_iff
    (st : ValidationStatus) : (st.afterFailure error ck).isSome ↔ st.attemptsOf error + 1 < 2 ^ 16 := by
  cases st with
  | waiting => simp [afterFailure, attemptsOf]
  | reattempting attempts =>
    rw [afterFailure, Option.isSome_map]
    exact attempts.isSome_addAttempt_iff

def TxStatus.attemptsOf (error : BlockchainErrorKind) : TxStatus → Nat
  | .pending status => status.attemptsOf error
  | .confirmed _ _ => 0

def FailureStatus.attemptsOf (error : BlockchainErrorKind) : FailureStatus → Nat
  | .recheckRequired status => status.attemptsOf error
  | .retryRequired | .concluded => 0

theorem TxStatus.isSome_updateAfterFailure_iff (st : TxStatus) :
    (st.updateAfterFailure error ck).isSome ↔ st.attemptsOf error + 1 < 2 ^ 16 := by
  cases st with
  | pending st =>
    rw [updateAfterFailure, Option.isSome_map]
    exact st.isSome_afterFailure_iff
  | confirmed _ _ => simp [updateAfterFailure, attemptsOf]

theorem FailureStatus.isSome_updateAfterFailure_iff (st : FailureStatus) :
    (st.updateAfterFailure error ck).isSome ↔ st.attemptsOf error + 1 < 2 ^ 16 := by
  cases st with
  | recheckRequired st =>
    rw [updateAfterFailure, Option.isSome_map]
    exact st.isSome_afterFailure_iff
  | retryRequired | concluded => simp [updateAfterFailure, attemptsOf]

namespace PendingPayableScanner

/-! ## The cases of a message -/

/-- The answers are about the records that were asked for, each of them once. -/
structure CasesOf (db : PaymentDb) (results : List (TxHashByTable × TxReceiptResult))
    (txCases : List (TxByTable × TxReceiptResult)) : Prop where
  nodup : (txCases.map (·.1.key)).Nodup
  asked : ∀ txCase ∈ txCases, db.Asks txCase.1
  answered : ∀ tx, db.Asks tx → ∃ result, (tx, result) ∈ txCases
  mem_iff : ∀ tx result, db.Asks tx → ((tx, result) ∈ txCases ↔ (tx.key, result) ∈ results)

variable {txCase : TxByTable × TxReceiptResult}

theorem nodup_retrievePending (db : PaymentDb) : (db.sentPayable.retrievePending.map SentTx.hash).Nodup :=
  db.sentPayable.nodup.sublist (List.filter_sublist.map _)

theorem nodup_retrieveRecheckRequired (hu : db.HashesUnique) :
    ((FailedPayables.retrieveRecheckRequired db.failedPayable).map FailedTx.hash).Nodup :=
  hu.failed.sublist (((List.dedup_sublist _).trans List.filter_sublist).map _)

theorem recordOf_startScan {t : Nat} {s s' : PendingPayableScanner} {th : List TxHashByTable}
    (hu : s.db.HashesUnique) (hs : s.startScan t = (.ok th, s')) :
    s'.db = s.db ∧ th = s.db.askedFor ∧
      ∀ tx, s.db.Asks tx → recordOf s'.currentSentPayables s'.suspectedFailedPayables tx.key = some tx := by
  rcases s.startScan_cases t with ⟨s₁, hok, hdb, -, hse, hf⟩ | ⟨he, -⟩
  · obtain ⟨hh, rfl⟩ := Prod.mk.inj (hok.symm.trans hs)
    refine ⟨hdb, (Except.ok.inj hh).symm, ?_⟩
    intro tx ha
    cases tx with
    | sentPayable tx =>
      have hm : tx ∈ s.db.sentPayable.retrievePending := List.mem_filter.2 ha
      simp only [recordOf, TxByTable.key, hse, loadCache, Table.find_foldl_put (nodup_retrievePending _) hm,
        Option.map_some]
    | failedPayable tx =>
      have hm : tx ∈ FailedPayables.retrieveRecheckRequired s.db.failedPayable :=
        List.mem_dedup.2 (List.mem_filter.2 ha)
      simp only [recordOf, TxByTable.key, hf, loadCache,
        Table.find_foldl_put (nodup_retrieveRecheckRequired hu) hm, Option.map_some]
  · rw [he] at hs
    cases hs

theorem nodup_askedFor (hu : db.HashesUnique) : db.askedFor.Nodup := by
  refine List.nodup_append.2 ⟨?_, ?_, ?_⟩
  · have := (nodup_retrievePending db).map (f := TxHashByTable.sentPayable) fun _ _ h => TxHashByTable.sentPayable.inj h
    simpa [List.map_map, Function.comp_def] using this
  · have := (nodup_retrieveRecheckRequired hu).map (f := TxHashByTable.failedPayable)
      fun _ _ h => TxHashByTable.failedPayable.inj h
    simpa [List.map_map, Function.comp_def] using this
  · intro key hk key' hk'
    obtain ⟨_, -, rfl⟩ := List.mem_map.1 hk
    obtain ⟨_, -, rfl⟩ := List.mem_map.1 hk'
    exact TxHashByTable.noConfusion

/-- Answers to exactly what was asked for resolve to the records that were asked about. -/
theorem exists_casesOf {sent : SentPayables} (hu : db.HashesUnique)
    (hcac : ∀ tx, db.Asks tx → recordOf sent fa tx.key = some tx)
    (hansw : (re.map Prod.fst).Perm db.askedFor) :
    ∃ txCases, Resolves sent fa re txCases ∧ CasesOf db re txCases := by
  have hres : ∀ answers ⊆ re, ∃ txCases, Resolves sent fa answers txCases := by
    intro answers hs
    induction answers with
    | nil => exact ⟨[], .nil⟩
    | cons answer rest ih =>
      obtain ⟨han, hre⟩ := List.cons_subset.1 hs
      obtain ⟨txCases, hc⟩ := ih hre
      obtain ⟨tx, ha, hk⟩ := PaymentDb.mem_askedFor_iff.1 (hansw.mem_iff.1 (List.mem_map_of_mem (f := Prod.fst) han))
      exact ⟨(tx, answer.2) :: txCases, .cons ⟨hk ▸ hcac tx ha, rfl⟩ hc⟩
  obtain ⟨txCases, hc⟩ := hres re (List.Subset.refl _)
  -- the caches hold one record under a key, the one that was asked about
  have hm : ∀ tx result, db.Asks tx → ((tx, result) ∈ txCases ↔ (tx.key, result) ∈ re) := by
    intro tx result ha
    constructor
    · intro hca
      obtain ⟨answer, han, hr, hresu⟩ := hc.exists_answer hca
      rw [key_of_recordOf hr, ← show answer.2 = result from hresu]
      exact han
    · intro han
      obtain ⟨tx', hr, hca⟩ := hc.exists_case han
      obtain rfl := Option.some.inj ((hcac tx ha).symm.trans hr)
      exact hca
  refine ⟨txCases, hc, ?_, ?_, ?_, hm⟩
  · rw [hc.map_key]
    exact hansw.nodup_iff.2 (nodup_askedFor hu)
  · intro txCase hca
    obtain ⟨answer, han, hr, -⟩ := hc.exists_answer hca
    obtain ⟨tx, ha, hk⟩ := PaymentDb.mem_askedFor_iff.1 (hansw.mem_iff.1 (List.mem_map_of_mem (f := Prod.fst) han))
    rw [← hk, hcac tx ha] at hr
    exact Option.some.inj hr ▸ ha
  · intro tx ha
    obtain ⟨answer, han, hk⟩ := List.mem_map.1 (hansw.mem_iff.2 (PaymentDb.mem_askedFor_iff.2 ⟨tx, ha, rfl⟩))
    exact ⟨answer.2, (hm tx answer.2 ha).2 (hk ▸ han)⟩

/-! ## What the report asks the tables to do -/

/-- The new failure in a case. -/
def caseNewFailure : TxByTable × TxReceiptResult → Option FailedTx
  | (.sentPayable tx, .ok .reverted) => some (.ofSent tx .reverted)
  | (.sentPayable tx, .ok .pending) => some (.ofSent tx .pendingTooLong)
  | _ => none

def caseRecheckCompleted : TxByTable × TxReceiptResult → Option TxHash
  | (.failedPayable tx, .ok .reverted) => some tx.hash
  | _ => none

def caseSentValidation : TxByTable × TxReceiptResult → Option (FailedValidation TxStatus)
  | (.sentPayable tx, .error e) => some ⟨tx.hash, .appRpc e.kind, tx.status⟩
  | _ => none

/-- Why a failed transaction is still to be checked. -/
def recheckFailure : TxReceiptResult → Option BlockchainErrorKind
  | .error e => some (.appRpc e.kind)
  | .ok .pending => some (.internal .pendingTooLongNotReplaced)
  | .ok _ => none

def caseFailedValidation : TxByTable × TxReceiptResult → Option (FailedValidation FailureStatus)
  | (.failedPayable tx, result) => (recheckFailure result).map fun error => ⟨tx.hash, error, tx.status⟩
  | _ => none

section Report

variable (cs : List (TxByTable × TxReceiptResult))

theorem newFailures_reportOf : newFailures (reportOf cs).txFailures = cs.filterMap caseNewFailure := by
  simp only [newFailures, reportOf, List.filterMap_filterMap]
  refine congrArg (List.filterMap · cs) (funext fun txCase => ?_)
  rcases txCase with ⟨_ | _, _ | _ | _ | _⟩ <;> rfl

theorem rechecksCompleted_reportOf :
    rechecksCompleted (reportOf cs).txFailures = cs.filterMap caseRecheckCompleted := by
  simp only [rechecksCompleted, reportOf, List.filterMap_filterMap]
  refine congrArg (List.filterMap · cs) (funext fun txCase => ?_)
  rcases txCase with ⟨_ | _, _ | _ | _ | _⟩ <;> rfl

theorem sentValidationFailures_reportOf :
    sentValidationFailures (reportOf cs).txReceiptRpcFailures = cs.filterMap caseSentValidation := by
  simp only [sentValidationFailures, reportOf, List.filterMap_filterMap]
  refine congrArg (List.filterMap · cs) (funext fun txCase => ?_)
  rcases txCase with ⟨_ | _, _ | _ | _ | _⟩ <;> rfl

theorem failedValidationFailures_reportOf :
    failedValidationFailures (reportOf cs).txReceiptRpcFailures = cs.filterMap caseFailedValidation := by
  simp only [failedValidationFailures, reportOf, List.filterMap_filterMap]
  refine congrArg (List.filterMap · cs) (funext fun txCase => ?_)
  rcases txCase with ⟨_ | _, _ | _ | _ | _⟩ <;> rfl

end Report

theorem nodup_picked {β : Type} {pick : TxByTable × TxReceiptResult → Option β} {hash : β → TxHash}
    (key : TxHash → TxHashByTable) {txCases : List (TxByTable × TxReceiptResult)}
    (hk : ∀ txCase b, pick txCase = some b → txCase.1.key = key (hash b))
    (hnd : (txCases.map (·.1.key)).Nodup) : ((txCases.filterMap pick).map hash).Nodup := by
  refine List.pairwise_map.2 (List.pairwise_filterMap.2 ?_)
  refine (List.pairwise_map.1 hnd).imp fun hne b hb b' hb' heq => hne ?_
  rw [hk _ b hb, hk _ b' hb', heq]

theorem of_caseConfirmation (h : caseConfirmation txCase = some tx) :
    ∃ st block, txCase = (.sentPayable st, .ok (.succeeded block)) ∧
      tx = { st with status := .confirmed block .normal } := by
  rcases txCase with ⟨_ | _, _ | _ | _ | _⟩ <;> simp_all [caseConfirmation]

theorem of_caseReclaim (h : caseReclaim txCase = some tx) :
    ∃ f block, txCase = (.failedPayable f, .ok (.succeeded block)) ∧ tx = .ofFailed f block := by
  rcases txCase with ⟨_ | _, _ | _ | _ | _⟩ <;> simp_all [caseReclaim]

theorem of_caseNewFailure (h : caseNewFailure txCase = some f) :
    ∃ st reason, (txCase = (.sentPayable st, .ok .reverted) ∨ txCase = (.sentPayable st, .ok .pending)) ∧
      f = .ofSent st reason := by
  rcases txCase with ⟨_ | _, _ | _ | _ | _⟩ <;> simp_all [caseNewFailure] <;> exact ⟨_, h.symm⟩

theorem of_caseRecheckCompleted {hash : TxHash} (h : caseRecheckCompleted txCase = some hash) :
    ∃ f, txCase = (.failedPayable f, .ok .reverted) ∧ hash = f.hash := by
  rcases txCase with ⟨_ | _, _ | _ | _ | _⟩ <;> simp_all [caseRecheckCompleted]

theorem of_caseSentValidation (h : caseSentValidation txCase = some f) :
    ∃ st e, txCase = (.sentPayable st, .error e) ∧ f = ⟨st.hash, .appRpc e.kind, st.status⟩ := by
  rcases txCase with ⟨_ | _, _ | _ | _ | _⟩ <;> simp_all [caseSentValidation]

theorem of_caseFailedValidation (h : caseFailedValidation txCase = some fa) :
    ∃ f result error, txCase = (.failedPayable f, result) ∧ recheckFailure result = some error ∧
      fa = ⟨f.hash, error, f.status⟩ := by
  obtain ⟨tx, result⟩ := txCase
  cases tx with
  | sentPayable tx => cases h
  | failedPayable f =>
    obtain ⟨error, he, rfl⟩ := Option.map_eq_some_iff.1 h
    exact ⟨f, result, error, rfl, he, rfl⟩

end PendingPayableScanner

end MasqMobile
