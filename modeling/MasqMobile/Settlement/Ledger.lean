import MasqMobile.Lib.Run
import MasqMobile.Settlement.Accept

/-!
# Conservation in the provider's ledger

What the authorizations have spent, what the checkpoints stand at and what was returned as new charge are one amount,
over any sequence of accepted and refused receipts. The authorization is charged by nonce and the checkpoint by
stream, so the sums agree only because both move by the same delta in one transaction.
-/

namespace MasqMobile

structure AcceptCall where
  payload : ServiceReceiptPayload
  checkpoint : ReceiptSequenceCheckpoint
  timestamp : Nat
  faults : AcceptFaults

/-- The database, and for each call that returned `Ok` its payer and its delta. -/
structure Ledger where
  db : ReceiptDb
  accepted : List (Address × Nat)

def AcceptCall.apply (P : Primitives) (c : AcceptCall) (db : ReceiptDb) :
    Except ReceiptCheckpointDaoError Nat × ReceiptDb :=
  acceptVerifiedReceipt P c.faults c.payload c.checkpoint c.timestamp db

def AcceptCall.payer (c : AcceptCall) : Address := c.payload.authorization.policy.payerWalletAddress

def Ledger.step (P : Primitives) (l : Ledger) (c : AcceptCall) : Ledger where
  db := (c.apply P l.db).2
  accepted :=
    match (c.apply P l.db).1 with
    | .ok delta => l.accepted ++ [(c.payer, delta)]
    | .error _ => l.accepted

def creditedTo (wallet : Address) (accepted : List (Address × Nat)) : Nat :=
  ((accepted.filter (·.1 = wallet)).map (·.2)).sum

/-- What one call does to the ledger: nothing, or one accepted receipt. -/
theorem Ledger.step_cases (P : Primitives) (l : Ledger) (c : AcceptCall) :
    l.step P c = l ∨ ∃ delta, Accepted P c.payload c.checkpoint c.timestamp l.db delta (l.step P c).db ∧
      (l.step P c).accepted = l.accepted ++ [(c.payer, delta)] := by
  cases h : (c.apply P l.db).1 with
  | error e =>
    refine .inl ?_
    have hdb : (c.apply P l.db).2 = l.db := acceptVerifiedReceipt_error h
    simp only [Ledger.step, h, hdb]
  | ok delta =>
    refine .inr ⟨delta, ?_, by simp only [Ledger.step, h]⟩
    exact acceptVerifiedReceipt_ok h

/-- The ledger is balanced: relative to the receivables it started with. -/
structure Balanced (receivables : Table ReceivableRow ReceivableRow.walletAddress) (l : Ledger) : Prop where
  spent : l.db.authorizations.total (·.spentChargeWei) = (l.accepted.map (·.2)).sum
  charged : l.db.checkpoints.total (·.cumulativeChargeWei) = (l.accepted.map (·.2)).sum
  capped : ∀ row ∈ l.db.authorizations.rows, row.spentChargeWei ≤ row.authorization.policy.maxTotalChargeWei
  credited : ∀ wallet, balanceOf l.db.receivables wallet = balanceOf receivables wallet + creditedTo wallet l.accepted

section Balance

variable {P : Primitives} {rcv : Table ReceivableRow ReceivableRow.walletAddress} {l l' : Ledger}
  {pl : ServiceReceiptPayload} {cp : ReceiptSequenceCheckpoint} {ts delta : Nat}

theorem spent_accepted (h : Accepted P pl cp ts db delta db') :
    db'.authorizations.total (·.spentChargeWei) = db.authorizations.total (·.spentChargeWei) + delta := by
  have hp := Table.total_put (fun row : AuthorizationRow => row.spentChargeWei) db.authorizations
    ⟨pl.authorization, spentUnder db pl.nonce + delta⟩
  rw [h.authorizations']
  have hk : db.authorizations.valueAt (·.spentChargeWei)
      (AuthorizationRow.nonce ⟨pl.authorization, spentUnder db pl.nonce + delta⟩) = spentUnder db pl.nonce := rfl
  simp only [hk] at hp
  omega

theorem charged_accepted (h : Accepted P pl cp ts db delta db') :
    db'.checkpoints.total (·.cumulativeChargeWei) = db.checkpoints.total (·.cumulativeChargeWei) + delta := by
  have hp := Table.total_put (fun row : ReceiptSequenceCheckpoint => row.cumulativeChargeWei) db.checkpoints cp
  have hd := h.delta_eq
  rw [h.checkpoints']
  simp only [checkpointAt] at hd
  omega

theorem creditedTo_concat :
    (creditedTo w (ac ++ [(p, delta)]) : Int) = creditedTo w ac + if p = w then (delta : Int) else 0 := by
  by_cases hw : p = w <;> simp [creditedTo, hw]

theorem Balanced.step (h : Balanced rcv l) (c : AcceptCall) : Balanced rcv (l.step P c) := by
  rcases Ledger.step_cases P l c with hs | ⟨delta, ha, hl⟩
  · rwa [hs]
  · refine ⟨?_, ?_, ?_, fun wallet => ?_⟩
    · rw [spent_accepted ha, h.spent, hl]
      simp
    · rw [charged_accepted ha, h.charged, hl]
      simp
    · intro row hr
      rw [ha.authorizations', Table.mem_put] at hr
      rcases hr with rfl | ⟨hr, -⟩
      · exact ha.capped
      · exact h.capped row hr
    · rw [balanceOf_accepted ha, h.credited, hl, creditedTo_concat]
      rw [add_assoc]
      rfl

end Balance

/-- **Conservation and atomicity.** From empty receipt tables and any receivables, after every
sequence of calls the spent charges, the checkpoints and the returned deltas add up to the same
amount, no authorization exceeds its limit, every payer's account has grown by that payer's deltas,
and a further call that fails changes no table. -/
theorem ledger_conservation (P : Primitives) (receivables : Table ReceivableRow ReceivableRow.walletAddress)
    (calls : List AcceptCall) :
    let l := Run.run (Ledger.step P) ⟨.fresh receivables, []⟩ calls
    (l.db.authorizations.total (·.spentChargeWei) = (l.accepted.map (·.2)).sum ∧
      l.db.checkpoints.total (·.cumulativeChargeWei) = (l.accepted.map (·.2)).sum) ∧
    (∀ row ∈ l.db.authorizations.rows, row.spentChargeWei ≤ row.authorization.policy.maxTotalChargeWei) ∧
    (∀ wallet, balanceOf l.db.receivables wallet = balanceOf receivables wallet + creditedTo wallet l.accepted) ∧
    ∀ (c : AcceptCall) (e : ReceiptCheckpointDaoError), (c.apply P l.db).1 = .error e → (c.apply P l.db).2 = l.db := by
  intro l
  have hf : Balanced receivables ⟨.fresh receivables, []⟩ := by
    refine ⟨rfl, rfl, ?_, fun wallet => ?_⟩
    · simp [ReceiptDb.fresh]
    · simp [ReceiptDb.fresh, creditedTo]
  have hb : Balanced receivables l := Run.run_invariant (Balanced receivables) (fun _ c h => h.step c) hf calls
  exact ⟨⟨hb.spent, hb.charged⟩, hb.capped, hb.credited, fun c e h => acceptVerifiedReceipt_error h⟩

end MasqMobile
