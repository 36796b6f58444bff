import MasqMobile.Session.Revocation

/-!
# Refused operations

An operation on the active session that answers with an error of its own has no effect, in every state that a Node
reaches from an empty recovery store. `record_exit_request` assigns the size of a route before it checks the units;
that it cannot fail in between rests on `Counted`, which every call keeps, in memory and in the store.
-/

namespace MasqMobile

open Fallible ReceiptSessionManager ReceiptSessionRecoveryStoreReal

theorem guards_counted (P : Primitives) :
    Guards P (·.Counted) (fun _ => True) (fun c => ∀ r ∈ c.routes.rows, r.Counted) where
  empty := by simp [RecoveryContent.empty]
  activated := by simp [ActiveReceiptSession.Counted]
  header := fun hc _ => hc
  route := by
    intro c s r hc hs hr x hx
    rcases Table.mem_put.1 hx with rfl | hx
    · exact hs x hr
    · exact hc x hx.1
  operated := fun hs _ hc => hc hs
  restored := by
    intro c config header routes now s hc _ hp hr x hx
    obtain ⟨⟨-, -, hro, -⟩, -⟩ := restoreActive_eq_ok_iff.1 hr
    exact hc x (hp.mem_iff.1 (hro ▸ hx))

variable {σ : Type} [ReceiptSessionRecoveryStore σ] {P : Primitives}

/-- An operation persists a route that it left in the session, so that only the store can still refuse. -/
theorem activeOpt_settle {α : Type} {m : ReceiptSessionManager σ} {s : ActiveReceiptSession} {o : Outcome α}
    (hl : OutcomeLeaves s o) (hc : s.Counted) {e : ReceiptSessionManagerError} (he : (settle P m o).1 = .error e)
    (hp : ∀ message, e ≠ .persistence message) : (settle P m o).2.activeOpt = some s := by
  cases o with
  | fail e' s' =>
    obtain rfl : s' = s := hl.2 hc
    rfl
  | done re s' => cases he
  | persist sk re s' =>
    obtain ⟨-, -, r, hr, hk⟩ := hl
    obtain ⟨r', hf⟩ := Option.isSome_iff_exists.1 (List.find?_isSome (p := (·.streamKey = sk)).2 ⟨r, hr, by simpa⟩)
    simp only [settle, persistRoute, hf, persistWith, revokeAfterPersistenceError] at he
    split at he
    · cases he
    · rename_i heq
      obtain rfl := Except.error.inj he
      split at heq
      · split at heq
        · cases heq
        · exact absurd (Except.error.inj (Prod.mk.inj heq).1).symm (hp _)
      · split at heq
        · exact absurd (Except.error.inj (Prod.mk.inj heq).1).symm (hp _)
        · cases heq

/-- **Refused operations have no effect.** -/
theorem refused_operation_leaves_session (P : Primitives) {Holds : σ → RecoveryContent → Prop}
    (hstore : RecordingStore Holds) {storeOpt : Option σ} (hempty : ∀ store, storeOpt = some store → Holds store .empty)
    (events : List NodeEvent) {m : ReceiptSessionManager σ}
    (hup : Run.run (Node.step P) (.down storeOpt) events = .up m) (call : Call) (hcall : call.isOperation)
    {s : ActiveReceiptSession} (hs : m.activeOpt = some s)
    (hlive : ∀ now, call.observesAt = some now → now ≤ s.authorization.policy.expiresAtUnixS)
    {e : ReceiptSessionManagerError} (he : call.answer P m = .error e) (hp : ∀ message, e ≠ .persistence message) :
    (call.next P m).activeOpt = some s := by
  have hdown : (Node.down storeOpt).Guarded Holds (·.Counted) (fun _ => True) fun c => ∀ r ∈ c.routes.rows, r.Counted :=
    fun store h => ⟨.empty, hempty store h, (guards_counted P).empty⟩
  have hrun := hdown.run (guards_counted P) hstore events fun _ _ => trivial
  rw [hup] at hrun
  have hc : s.Counted := Guarded.active hrun s hs
  obtain ⟨_, hno, hap, han, -, -, hle⟩ := Call.operates (P := P) call hcall m
  rename_i now
  have hex : m.expire now = m := by
    simp [ReceiptSessionManager.expire, hs, (hlive _ hno).not_gt]
  simp only [han, verdict_eq_error, ReceiptSessionManager.onActive, hex, hs] at he
  simp only [Call.next, hap, ReceiptSessionManager.onActive, hex, hs]
  exact activeOpt_settle (hle s) hc he hp

/-- A request on a stream that has no route. -/
theorem refused_operation_leaves_session_sample : ∃ m s, nodeBefore [] = .up m ∧ m.activeOpt = some s ∧
      (Call.recordExitRequest 3 7 1001).answer .oneKey m = .error .receiptRouteNotFound ∧
      ((Call.recordExitRequest 3 7 1001).next .oneKey m).activeOpt = some s := by
  have ha : answerAt [] (.recordExitRequest 3 7 1001) = some (.error .receiptRouteNotFound) := by decide +kernel
  have hl : (nodeBefore []).authorizationOpt.map (·.policy.expiresAtUnixS) = some 1060 := by decide +kernel
  cases hup : nodeBefore [] with
  | down storeOpt =>
    rw [hup] at hl
    cases hl
  | up m =>
    simp only [answerAt, hup, Option.some.injEq] at ha
    simp only [Node.authorizationOpt, hup, Option.map_map, Option.map_eq_some_iff] at hl
    obtain ⟨s, hs, hl⟩ := hl
    refine ⟨m, s, rfl, hs, ha, refused_operation_leaves_session .oneKey (recordingStore_real (lawful_failingAt []))
      (fun store h => Option.some.inj h ▸ holds_fresh _) openSession hup _ rfl hs ?_ ha (by simp)⟩
    rintro _ ⟨⟩
    exact (show (1001 : Nat) ≤ 1060 by decide).trans_eq hl.symm

end MasqMobile
