import MasqMobile.Session.Steps

/-!
# What errors leave behind

The operations of the manager on a session answer with errors of their own, and none of these is a
persistence error: `ReceiptSessionManagerError::Persistence` is raised by `persist_header`, `persist_route`
and `activate` alone, when the recovery store refused to save or to clear. An operation that is refused leaves
the session as it was. For `record_exit_request`, which assigns the size before it adds the unit, this holds
because a request counts at least as many bytes as units (`Counted`), so that the units cannot overflow first.
-/

namespace MasqMobile

open Fallible ReceiptSessionManager

/-- The operation itself never answers with a persistence error. -/
def OutcomeErrs {α : Type} : Outcome α → Prop
  | .fail e _ => ∀ message, e ≠ .persistence message
  | .done _ _ => True
  | .persist _ _ _ => True

def RouteUpdateErrs : RouteUpdate → Prop
  | .reject e _ => ∀ message, e ≠ .persistence message
  | .keep => True
  | .save _ => True

/-- Every pending request has at least one byte. -/
def ReceiptRouteState.Counted (r : ReceiptRouteState) : Prop :=
  r.pendingRequestServiceUnits ≤ r.pendingRequestPayloadSize

def ActiveReceiptSession.Counted (s : ActiveReceiptSession) : Prop := ∀ r ∈ s.routes, r.Counted

/-- What an operation leaves of the session it worked on. -/
def OutcomeLeaves {α : Type} (s : ActiveReceiptSession) (o : Outcome α) : Prop :=
  OutcomeErrs o ∧ match o with
    | .fail _ s' => s.Counted → s' = s
    | .done _ s' => s' = s
    | .persist streamKey _ s' => (s.Counted → s'.Counted) ∧ ∃ r ∈ s'.routes, r.streamKey = streamKey

def RouteUpdateLeaves (r : ReceiptRouteState) (u : RouteUpdate) : Prop :=
  RouteUpdateErrs u ∧ match u with
    | .reject _ r' => r.Counted → r' = r
    | .keep => True
    | .save r' => (r.Counted → r'.Counted) ∧ r'.streamKey = r.streamKey

section Errors

variable {P : Primitives} {s : ActiveReceiptSession} {e : ReceiptSessionManagerError}

theorem OutcomeLeaves.fail {α : Type} (he : ∀ message, e ≠ .persistence message) :
    OutcomeLeaves s (.fail e s : Outcome α) :=
  ⟨he, fun _ => rfl⟩

theorem RouteUpdateLeaves.reject (he : ∀ message, e ≠ .persistence message) : RouteUpdateLeaves r (.reject e r) :=
  ⟨he, fun _ => rfl⟩

theorem OutcomeLeaves.persist {α : Type} {sk : StreamKey} {re : α} {s' : ActiveReceiptSession} {r' : ReceiptRouteState}
    (hr : r' ∈ s'.routes ∧ ∀ x ∈ s'.routes, x = r' ∨ x ∈ s.routes) (hc : s.Counted → r'.Counted)
    (hk : r'.streamKey = sk) : OutcomeLeaves s (.persist sk re s') := by
  refine ⟨trivial, fun h x hx => ?_, r', hr.1, hk⟩
  rcases hr.2 x hx with rfl | hx
  · exact hc h
  · exact h x hx

theorem mem_assignRoute {p : ReceiptRouteState → Bool} (hf : s.routes.find? p = some r) (r' : ReceiptRouteState) :
    r' ∈ (s.assignRoute p r').routes ∧ ∀ x ∈ (s.assignRoute p r').routes, x = r' ∨ x ∈ s.routes := by
  obtain ⟨before, after, hs, -, ha⟩ := assignRoute_split hf
  simp only [ha, hs, List.mem_append, List.mem_cons]
  exact ⟨by simp, fun x hx => by tauto⟩

theorem mem_appendRoute (r' : ReceiptRouteState) :
    r' ∈ s.routes ++ [r'] ∧ ∀ x ∈ s.routes ++ [r'], x = r' ∨ x ∈ s.routes := by
  simp [or_comm]

theorem updateRoute_leaves {u : ReceiptRouteState → RouteUpdate} (h : ∀ r, RouteUpdateLeaves r (u r))
    (sk : StreamKey) (s : ActiveReceiptSession) : OutcomeLeaves s (updateRoute sk u s) := by
  unfold updateRoute
  split
  · exact .fail (by simp)
  · rename_i r hf
    have hr := List.mem_of_find?_eq_some hf
    obtain ⟨he, hl⟩ := h r
    split
    · rename_i heq
      rw [heq] at he hl
      obtain ⟨before, after, hs, -, ha⟩ := assignRoute_split hf
      refine ⟨he, fun hc => ?_⟩
      rw [ha, hl (hc r hr), ← hs]
    · exact ⟨trivial, rfl⟩
    · rename_i r' heq
      rw [heq] at hl
      exact .persist (mem_assignRoute hf r') (fun hc => hl.1 (hc r hr))
        (hl.2.trans (by simpa using List.find?_some hf))

theorem bindExit_leaves (r : ReceiptRouteState) (p : PublicKey) (sr b : Nat) :
    RouteUpdateLeaves r (bindExit r p sr b) := by
  unfold bindExit
  split
  · exact ⟨trivial, id, rfl⟩
  · split
    · exact ⟨trivial, trivial⟩
    · exact .reject (by simp)
  · exact .reject (by simp)

theorem collectProviderStates_eq_error (h : collectProviderStates st q = .error e) : e = .receiptQuoteUnavailable := by
  induction q generalizing st with
  | nil => cases h
  | cons quote q ih =>
    unfold collectProviderStates at h
    split at h
    · split at h
      · exact (Except.error.inj h).symm
      · exact ih h
    · exact ih h

theorem bindRouting_leaves (r : ReceiptRouteState) (rq re : List RoutingReceiptQuote) :
    RouteUpdateLeaves r (bindRouting r rq re) := by
  simp only [bindRouting]
  split
  · split
    · exact .reject (by simp)
    · exact ⟨trivial, trivial⟩
  · split
    · rename_i heq
      rw [collectProviderStates_eq_error heq]
      exact .reject (by simp)
    · exact ⟨trivial, id, rfl⟩

theorem recordRoutingPayload_leaves (r : ReceiptRouteState) (pr : List PublicKey) (p : Nat) :
    RouteUpdateLeaves r (recordRoutingPayload r pr p) := by
  simp only [recordRoutingPayload]
  split
  · exact .reject (by simp)
  · exact ⟨trivial, id, rfl⟩

/-- With a byte for every unit, the size overflows before the units do. -/
theorem observeRequest_leaves (r : ReceiptRouteState) (p : Nat) : RouteUpdateLeaves r (observeRequest r p) := by
  unfold observeRequest
  split
  · exact ⟨trivial, trivial⟩
  · split
    · exact .reject (by simp)
    · rename_i size hs
      obtain ⟨hlt, rfl⟩ := checkedAdd_eq_some_iff.1 hs
      split
      · rename_i hn
        refine ⟨fun message => by simp, fun hc => ?_⟩
        simp only [checkedAdd, ite_eq_right_iff, reduceCtorEq, imp_false, ReceiptRouteState.Counted] at hn hc
        omega
      · rename_i units hu
        obtain ⟨-, rfl⟩ := checkedAdd_eq_some_iff.1 hu
        refine ⟨trivial, fun hc => ?_, rfl⟩
        simp only [ReceiptRouteState.Counted] at hc ⊢
        omega

theorem observeResponse_leaves (r : ReceiptRouteState) (se p : Nat) : RouteUpdateLeaves r (observeResponse r se p) := by
  unfold observeResponse
  split
  · exact .reject (by simp)
  · split
    · exact .reject (by simp)
    · split
      · exact ⟨trivial, fun _ => le_rfl, rfl⟩
      · exact .reject (by simp)

theorem freshRouteRequest_ne_persistence {re : Bytes32} (m : String) :
    freshRouteRequest P s re ≠ .error (.persistence m) := by
  simp [freshRouteRequest, bind_eq_error]

theorem openRoute_leaves (s : ActiveReceiptSession) (sk : StreamKey) (re : Bytes32) :
    OutcomeLeaves s (openRoute P s sk re) := by
  unfold openRoute
  split
  · exact ⟨trivial, rfl⟩
  · split
    · exact .fail (by simp)
    · split
      · rename_i heq
        exact .fail fun message hm => freshRouteRequest_ne_persistence message (hm ▸ heq)
      · exact .persist (mem_appendRoute _) (fun _ => le_rfl) rfl

theorem rotateRoute_leaves (s : ActiveReceiptSession) (sk : StreamKey) (re : Bytes32) :
    OutcomeLeaves s (rotateRoute P s sk re) := by
  unfold rotateRoute
  split
  · rename_i heq
    exact .fail fun message hm => freshRouteRequest_ne_persistence message (hm ▸ heq)
  · split
    · rename_i hf
      exact .persist (mem_assignRoute hf _) (fun _ => le_rfl) rfl
    · split
      · exact .persist (mem_appendRoute _) (fun _ => le_rfl) rfl
      · exact .fail (by simp)

theorem Answers.leaves {config : ReceiptSessionConfig} (h : Answers P config s signed now o) : OutcomeLeaves s o := by
  cases h with
  | failed he => exact .fail he
  | replayed => exact ⟨trivial, rfl⟩
  | @charged r _ _ _ r' _ hf hack =>
    have hc : (r.Counted → r'.Counted) ∧ r'.streamKey = r.streamKey := by
      cases hack <;> exact ⟨fun hc => hc, rfl⟩
    exact .persist (mem_assignRoute hf r') (fun h => hc.1 (h r (List.mem_of_find?_eq_some hf))) hc.2

theorem propose_ne_persistence {σ : Type} {m : ReceiptSessionManager σ} {l : String} {d now : Nat}
    {c : CryptDE} {non : Bytes32} (me : String) :
    (m.propose P l d now c non).1 ≠ .error (.persistence me) := by
  simp only [ReceiptSessionManager.propose]
  split
  · rename_i heq
    rintro ⟨⟩
    simp [bind_eq_error] at heq
  · exact fun h => by cases h

end Errors

end MasqMobile
