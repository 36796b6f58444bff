import MasqMobile.Payments.Nonces
import MasqMobile.Payments.PendingScan

/-!
# Submitting a batch and reading its receipts

`blockchain_interface_web3/utils.rs` and `blockchain_interface_web3/mod.rs`: the transactions of a batch are signed
one by one and submitted together. What the service answers is a list, and its results are given to the transactions
by their place in it. The same is done with the receipts that are asked for later.

Signing, the clock, the text of an error and the JSON of a receipt are parameters. Log lines are left out; the one of
`transmission_log` cannot be composed for an empty batch, in which nothing is signed.
-/

namespace MasqMobile

/-- `web3::Error`, with the texts of what it wraps. -/
inductive Web3Error
  | decoder (error : String)
  | internal
  | io (error : String)
  | signing (error : String)
  | transport (error : String)
  | invalidResponse (response : String)
  | rpc (code : Int) (message : String)
  | unreachable
  deriving DecidableEq, Repr

/-- rpc_errors.rs:30 -/
def AppRpcError.ofWeb3Error : Web3Error → AppRpcError
  | .decoder error => .local (.decoder error)
  | .internal => .local .internal
  | .io error => .local (.io error)
  | .signing error => .local (.signing error)
  | .transport error => .local (.transport error)
  | .invalidResponse response => .remote (.invalidResponse response)
  | .rpc code message => .remote (.web3RpcError code message)
  | .unreachable => .remote .unreachable

/-- failed_payable_dao.rs:120 -/
def FailedTx.ofWeb3Error (sentTx : SentTx) (error : Web3Error) : FailedTx :=
  .ofSent sentTx (.submission (AppRpcError.ofWeb3Error error).kind)

/-- `LocalPayableError::Sending` (errors.rs:41). -/
structure SendingError where
  error : String
  failedTxs : List FailedTx
  deriving DecidableEq, Repr

namespace BlockchainInterfaceWeb3

variable {ν α : Type} (sign : SignableTxTemplate → TxHash) (clock : Nat → Int) (display : Web3Error → String)
  (parse : ν → Except String StatusReadFromReceiptCheck)

/-- utils.rs:188 -/
def signAndAppendPayment (template : SignableTxTemplate) (timestamp : Int) : SentTx :=
  ⟨sign template, template.receiverAddress, template.amountInWei, timestamp, template.gasPriceWei, template.nonce.toNat,
    .pending .waiting⟩

/-- utils.rs:231 -/
def signAndAppendMultiplePayments (templates : List SignableTxTemplate) : List SentTx :=
  templates.zipIdx.map fun (template, i) => signAndAppendPayment sign template (clock i)

/-- One turn of the fold of utils.rs:55. -/
def pushResult (batchResults : BatchResults) : SentTx × Except Web3Error ν → BatchResults
  | (sentTx, .ok _) => { batchResults with sentTxs := batchResults.sentTxs ++ [sentTx] }
  | (sentTx, .error e) => { batchResults with failedTxs := batchResults.failedTxs ++ [.ofWeb3Error sentTx e] }

/-- utils.rs:51 -/
def returnBatchResults (txs : List SentTx) (responses : List (Except Web3Error ν)) : BatchResults :=
  (txs.zip responses).foldl pushResult ⟨[], []⟩

/-- utils.rs:252, with the outcome of `submit_batch`. -/
def sendPayablesWithinBatch (templates : List SignableTxTemplate)
    (outcome : Except Web3Error (List (Except Web3Error ν))) : Except SendingError BatchResults :=
  let sentTxs := signAndAppendMultiplePayments sign clock templates
  match outcome with
  | .error e => .error ⟨display e, sentTxs.map (FailedTx.ofWeb3Error · e)⟩
  | .ok responses => .ok (returnBatchResults sentTxs responses)

/-- The closure of mod.rs:258. -/
def receiptResult : Except Web3Error ν → TxReceiptResult
  | .ok value =>
    match parse value with
    | .ok status => .ok status
    | .error e =>
      if "invalid type: null".toList <:+: e.toList then .ok .pending
      else .error (.remote (.invalidResponse e))
  | .error e => .error (.ofWeb3Error e)

/-- mod.rs:241; a later entry of the `BTreeMap` replaces an earlier one of the same key. -/
def processTransactionReceipts (txHashes : List TxHashByTable) (batchResponse : List (Except Web3Error ν)) :
    TxHashByTable → Option TxReceiptResult :=
  (batchResponse.zip txHashes).foldl
    (fun map (response, txHash) => Function.update map txHash (some (receiptResult parse response))) fun _ => none

/-! ## What comes back -/

structure TxIdentity where
  hash : TxHash
  nonce : Nat
  receiverAddress : Address
  amountMinor : Nat
  deriving DecidableEq, Repr

def identity (tx : SentTx) : TxIdentity := ⟨tx.hash, tx.nonce, tx.receiverAddress, tx.amountMinor⟩

def failedIdentity (tx : FailedTx) : TxIdentity := ⟨tx.hash, tx.nonce, tx.receiverAddress, tx.amountMinor⟩

def identities (results : BatchResults) : List TxIdentity :=
  results.sentTxs.map identity ++ results.failedTxs.map failedIdentity

/-- The payments that a result of `send_payables_within_batch` tells of. -/
def reported : Except SendingError BatchResults → List TxIdentity
  | .ok results => identities results
  | .error sendingError => sendingError.failedTxs.map failedIdentity

@[simp] theorem failedIdentity_ofWeb3Error : failedIdentity (.ofWeb3Error tx e) = identity tx := rfl

theorem identities_pushResult (re : BatchResults) (pair : SentTx × Except Web3Error ν) :
    (identities (pushResult re pair)).Perm (identities re ++ [identity pair.1]) := by
  obtain ⟨tx, _ | _⟩ := pair
  · simp [pushResult, identities]
  · simpa [pushResult, identities] using (List.perm_append_singleton _ _).symm.append_left _

theorem identities_foldl (p : List (SentTx × Except Web3Error ν)) (re : BatchResults) :
    (identities (p.foldl pushResult re)).Perm (identities re ++ p.map (identity ∘ Prod.fst)) := by
  induction p generalizing re with
  | nil => simp
  | cons pair p ih =>
    have hs := (identities_pushResult re pair).append_right (p.map (identity ∘ Prod.fst))
    simpa using (ih (pushResult re pair)).trans hs

theorem map_fst_zip_eq_take {β : Type} (xs : List α) (ys : List β) :
    (xs.zip ys).map Prod.fst = xs.take ys.length := by
  induction xs generalizing ys with
  | nil => simp
  | cons x xs ih => cases ys <;> simp [ih]

theorem identities_returnBatchResults (txs : List SentTx) (re : List (Except Web3Error ν)) :
    (identities (returnBatchResults txs re)).Perm ((txs.take re.length).map identity) := by
  have hf := identities_foldl (txs.zip re) ⟨[], []⟩
  rw [← map_fst_zip_eq_take, List.map_map]
  simpa [returnBatchResults, identities] using hf

theorem perm_take_iff {told xs : List α} (h : told.Perm (xs.take n)) : told.Perm xs ↔ xs.length ≤ n := by
  constructor
  · intro ha
    have hl := h.length_eq.symm.trans ha.length_eq
    simp only [List.length_take] at hl
    omega
  · intro hle
    rwa [List.take_of_length_le hle] at h

theorem foldl_update_isSome_iff {κ β : Type} [DecidableEq κ] {f : β → α} {p : List (β × κ)} {map : κ → Option α}
    {k : κ} : (p.foldl (fun map (b, k) => Function.update map k (some (f b))) map k).isSome ↔
      (map k).isSome ∨ k ∈ p.map Prod.snd := by
  induction p generalizing map with
  | nil => simp
  | cons pair p ih =>
    obtain ⟨b, k'⟩ := pair
    rw [List.foldl_cons, ih]
    by_cases hk : k = k' <;> simp [hk]

/-- Of distinct hashes all have an entry exactly if there are enough answers. -/
theorem subset_take_iff {xs : List α} (hd : xs.Nodup) : xs ⊆ xs.take n ↔ xs.length ≤ n := by
  constructor
  · intro h
    have hc := (List.subperm_of_subset hd h).length_le
    simp only [List.length_take] at hc
    omega
  · intro hle
    rw [List.take_of_length_le hle]
    exact List.Subset.refl xs

/-- **No signed payment is forgotten** if the service answers for each of them: every signed transaction comes back
exactly once, and every hash that is asked for has an entry. -/
theorem signed_payments_reported_iff (templates : List SignableTxTemplate)
    (outcome : Except Web3Error (List (Except Web3Error ν))) {txHashes : List TxHashByTable}
    (hdistinct : txHashes.Nodup)
    (batchResponse : List (Except Web3Error ν)) :
    ((reported (sendPayablesWithinBatch sign clock display templates outcome)).Perm
        ((signAndAppendMultiplePayments sign clock templates).map identity) ↔
      ∀ responses, outcome = .ok responses → templates.length ≤ responses.length) ∧
    ((∀ txHash ∈ txHashes, (processTransactionReceipts parse txHashes batchResponse txHash).isSome) ↔
      txHashes.length ≤ batchResponse.length) := by
  constructor
  · cases outcome with
    | error e =>
      have hs : (signAndAppendMultiplePayments sign clock templates).map (failedIdentity ∘ (FailedTx.ofWeb3Error · e)) =
          (signAndAppendMultiplePayments sign clock templates).map identity := rfl
      simp [sendPayablesWithinBatch, reported, hs]
    | ok responses =>
      have ht := identities_returnBatchResults (signAndAppendMultiplePayments sign clock templates) responses
      rw [List.map_take] at ht
      have hif := perm_take_iff ht
      simpa [sendPayablesWithinBatch, reported, signAndAppendMultiplePayments] using hif
  · have he : ∀ txHash, (processTransactionReceipts parse txHashes batchResponse txHash).isSome ↔
        txHash ∈ txHashes.take batchResponse.length := by
      intro txHash
      rw [processTransactionReceipts, foldl_update_isSome_iff, ← map_fst_zip_eq_take, ← List.zip_swap, List.map_map]
      simp
    simp only [he]
    exact subset_take_iff hdistinct

/-- A payment, and answers for it. -/
def samplePayment : SignableTxTemplate := ⟨7, 40, 3, 5⟩

def sampleHash : TxHash := 9

theorem sample_payment_reported :
    ((reported (sendPayablesWithinBatch (ν := Unit) (fun _ => sampleHash) (fun _ => 0) (fun _ => "")
        [samplePayment] (.ok [.ok ()]))).Perm
      ((signAndAppendMultiplePayments (fun _ => sampleHash) (fun _ => 0) [samplePayment]).map identity)) ∧
    ∀ txHash ∈ [TxHashByTable.sentPayable sampleHash], (processTransactionReceipts (ν := Unit) (fun _ => .ok .pending)
      [.sentPayable sampleHash] [.ok (), .ok ()] txHash).isSome := by
  obtain ⟨hs, hr⟩ := signed_payments_reported_iff (fun _ => sampleHash) (fun _ => 0) (fun _ => "")
    (fun _ : Unit => .ok .pending) [samplePayment] (.ok [.ok ()]) (List.nodup_singleton (.sentPayable sampleHash))
    [.ok (), .ok ()]
  exact ⟨hs.2 (by simp), hr.2 (by simp)⟩

/-- If the answer is empty, the payment is nowhere, and neither is its receipt. -/
theorem sample_payment_forgotten :
    sendPayablesWithinBatch (ν := Unit) (fun _ => sampleHash) (fun _ => 0) (fun _ => "") [samplePayment] (.ok []) =
      .ok ⟨[], []⟩ ∧
    processTransactionReceipts (ν := Unit) (fun _ => .ok .pending) [.sentPayable sampleHash] []
      (.sentPayable sampleHash) = none := ⟨rfl, rfl⟩

end BlockchainInterfaceWeb3

end MasqMobile
