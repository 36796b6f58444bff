import MasqMobile.Session.Confinement
import MasqMobile.Session.PersistenceErrors

/-!
# Revocation

A session ends when the user stops it, when an operation cannot be persisted, or when it is seen to be expired. Each
time the manager forgets the session and clears the recovery store, but it ignores what the store answers (`let _ =
store.clear()`, receipt_session.rs:429, 634, 1246), and `activate` returns early when its own clear fails.

The node is up with a manager or down with its database; a restart may fail, and a node that is down can be started
again. The random nonces of the authorizations are assumed not to repeat.
-/

namespace MasqMobile

open Fallible ReceiptSessionManager ReceiptSessionRecoveryStoreReal

/-! ## Nodes -/

/-- A node between starts: its manager, or only the store that the next start will open. -/
inductive Node (σ : Type) where
  | up (m : ReceiptSessionManager σ)
  | down (storeOpt : Option σ)

/-- A call of the manager, or a stop of the process followed by a start. -/
inductive NodeEvent where
  | call (call : Call)
  | restart (config : ReceiptSessionConfig) (nowUnixS : Nat)

def NodeEvent.nonces : NodeEvent → List Bytes32
  | .call c => c.nonces
  | .restart _ _ => []

namespace Node

variable {σ : Type}

def storeOpt : Node σ → Option σ
  | .up m => m.recoveryStoreOpt
  | .down storeOpt => storeOpt

variable [ReceiptSessionRecoveryStore σ] (P : Primitives)

/-- `new_recovery_required`; a start that fails leaves the database as `load` left it. -/
def boot (config : ReceiptSessionConfig) (storeOpt : Option σ) (nowUnixS : Nat) : Node σ :=
  match newRecoveryRequired P config storeOpt nowUnixS with
  | .ok m => .up m
  | .error _ => .down (storeOpt.map fun store => (ReceiptSessionRecoveryStore.load store nowUnixS).2)

def step (node : Node σ) : NodeEvent → Node σ
  | .call call =>
    match node with
    | .up m => .up (call.next P m)
    | .down storeOpt => .down storeOpt
  | .restart config now => boot P config node.storeOpt now

end Node

/-! ## What a session is revoked by -/

/-- The call revokes the authorization `a`: `a` is active and the session is stopped, seen to be expired
or not persisted, or `a` is being activated and cannot be persisted. -/
inductive Revokes {σ : Type} [ReceiptSessionRecoveryStore σ] (P : Primitives) (m : ReceiptSessionManager σ)
    (a : AuthorizedReceiptSession) : Call → Prop
  | stopped {s : ActiveReceiptSession} (hs : m.activeOpt = some s) (ha : s.authorization = a) : Revokes P m a .stop
  | expired {s : ActiveReceiptSession} {call : Call} {now : Nat} (hs : m.activeOpt = some s)
      (ha : s.authorization = a) (hcall : call.observesAt = some now)
      (hnow : s.authorization.policy.expiresAtUnixS < now) : Revokes P m a call
  | unpersisted {s : ActiveReceiptSession} {call : Call} {message : String} (hs : m.activeOpt = some s)
      (ha : s.authorization = a) (hanswer : call.answer P m = .error (.persistence message)) : Revokes P m a call
  | unactivated {pending : PendingReceiptSession} {proposalId signature message : String} {now : Nat}
      (hpending : m.pendingOpt = some pending) (ha : a.policy = pending.policy)
      (hanswer : (Call.activate proposalId signature now).answer P m = .error (.persistence message)) :
      Revokes P m a (.activate proposalId signature now)

/-- The call finds the session expired. -/
def Call.seesExpiry {σ : Type} (m : ReceiptSessionManager σ) (call : Call) : Bool :=
  match m.activeOpt, call.observesAt with
  | some s, some now => s.authorization.policy.expiresAtUnixS < now
  | _, _ => false

section Clears

variable {σ : Type} [ReceiptSessionRecoveryStore σ]

/-- The store would carry out a clear. -/
def Clearable (store : σ) : Prop := (ReceiptSessionRecoveryStore.clear store).1 = .ok ()

/-- The store carries out the clear with which the call revokes: at once, or after the save that failed.
An activation also clears the store before it saves. -/
def Call.Clears (m : ReceiptSessionManager σ) (store : σ) (call : Call) : Prop :=
  match call with
  | .propose .. => True
  | .stop => Clearable store
  | .activate .. => Clearable store ∧ ∀ header,
    Clearable (ReceiptSessionRecoveryStore.saveHeader (ReceiptSessionRecoveryStore.clear store).2 header).2
  | call => if call.seesExpiry m then Clearable store
    else ∀ header route, Clearable (ReceiptSessionRecoveryStore.saveHeaderAndRoute store header route).2

end Clears

/-! ## The revoking call -/

/-- The session is gone and the store is empty. -/
structure Cleared {σ : Type} (Holds : σ → RecoveryContent → Prop) (m' : ReceiptSessionManager σ) : Prop where
  inactive : m'.activeOpt = none
  emptied : ∃ store', m'.recoveryStoreOpt = some store' ∧ Holds store' .empty

section Revoking

variable {σ : Type} [ReceiptSessionRecoveryStore σ] {P : Primitives} {Holds : σ → RecoveryContent → Prop}
  {m : ReceiptSessionManager σ} {store : σ} {c : RecoveryContent} {msg : String}
variable {a : AuthorizedReceiptSession} {call : Call} {now : Nat}

omit [ReceiptSessionRecoveryStore σ] in
theorem Commits.holds_of_ok {after : RecoveryContent} (h : Commits Holds b after an) (hok : an.1 = .ok ()) :
    Holds an.2 after := by
  obtain ⟨_, store'⟩ := an
  obtain rfl := hok
  exact h

/-- A clear that goes through empties whatever the store held. -/
theorem holds_clear (hs : RecordingStore Holds) (hh : ∃ c, Holds store c)
    (hcl : Clearable store) : Holds (ReceiptSessionRecoveryStore.clear store).2 .empty := by
  obtain ⟨c, hc⟩ := hh
  exact (hs.clear hc).holds_of_ok hcl

/-- Dropping the session over a store that carries out the clear. -/
theorem cleared_clearStore (hst : RecordingStore Holds) (hs : m.recoveryStoreOpt = some store)
    (hh : ∃ c, Holds store c) (hc : Clearable store) (ha : m.activeOpt = none) :
    Cleared Holds (clearStore m) :=
  ⟨ha, _, by rw [clearStore, hs, Option.map_some], holds_clear hst hh hc⟩

/-- A save that fails revokes the session; the clear then works on what the save left. -/
theorem cleared_persistWith (hst : RecordingStore Holds) (hs : m.recoveryStoreOpt = some store)
    (save : σ → Except String Unit × σ) (hh : ∃ c, Holds (save store).2 c)
    (hc : Clearable (save store).2)
    (he : (m.persistWith save).1 ≠ .ok ()) : Cleared Holds (m.persistWith save).2 := by
  simp only [persistWith, hs] at he ⊢
  generalize save store = answer at he hh hc ⊢
  obtain ⟨msg | ⟨⟩, store'⟩ := answer
  · exact cleared_clearStore hst rfl hh hc rfl
  · exact absurd rfl he

/-- A session that is seen to be expired is dropped, whatever the call was to do. -/
theorem next_of_expired (hs : m.activeOpt = some s)
    (hc : call.observesAt = some now) (hn : s.authorization.policy.expiresAtUnixS < now) :
    call.next P m = clearStore { m with activeOpt := none } := by
  have he : m.expire now = clearStore { m with activeOpt := none } := by
    simp [ReceiptSessionManager.expire, hs, hn]
  by_cases hop : call.isOperation
  · obtain ⟨_, hno, hap, -⟩ := Call.operates (P := P) call hop m
    obtain rfl := Option.some.inj (hno.symm.trans hc)
    simp [Call.next, hap, ReceiptSessionManager.onActive, he, clearStore]
  · cases call with
    | propose | activate | stop => cases hc
    | status =>
      obtain rfl := Option.some.inj hc
      exact he
    | _ => exact absurd rfl hop

theorem clearable_of_expired (hs : m.activeOpt = some s)
    (hc : call.observesAt = some now) (hn : s.authorization.policy.expiresAtUnixS < now)
    (hcl : call.Clears m store) : Clearable store := by
  have hse : call.seesExpiry m = true := by simp [Call.seesExpiry, hs, hc, hn]
  cases call with
  | propose => cases hc
  | activate => cases hc
  | stop => exact hcl
  | _ => simpa only [Call.Clears, hse, if_true] using hcl

theorem seesExpiry_eq_false (hc : call.observesAt = some now)
    (hl : (m.expire now).activeOpt ≠ none) : call.seesExpiry m = false := by
  obtain ⟨s, hs⟩ := Option.ne_none_iff_exists'.1 hl
  have hm := expire_eq_self hs
  rw [hm] at hs
  simp only [Call.seesExpiry, hs, hc, decide_eq_false_iff_not]
  intro hn
  simp [ReceiptSessionManager.expire, hs, hn, clearStore] at hl

section

variable (hst : RecordingStore Holds) (hs : m.recoveryStoreOpt = some store) (hh : Holds store c)
include hst hs hh

theorem cleared_onActive {α : Type} (hcl : (m.expire now).activeOpt ≠ none → ∀ header route,
      Clearable (ReceiptSessionRecoveryStore.saveHeaderAndRoute store header route).2)
    {o : ActiveReceiptSession → Outcome α} (hle : ∀ s, OutcomeLeaves s (o s))
    {ab : Except ReceiptSessionManagerError α} (hab : ab ≠ .error (.persistence msg))
    (ha : (m.onActive P now ab o).1 = .error (.persistence msg)) :
    Cleared Holds (m.onActive P now ab o).2 ∧ (m.onActive P now ab o).2.pendingOpt = m.pendingOpt := by
  simp only [ReceiptSessionManager.onActive] at ha ⊢
  cases hse : (m.expire now).activeOpt with
  | none =>
    simp only [hse] at ha
    exact absurd ha hab
  | some s =>
    have he := (hle s).1
    have haf := hcl (by simp [hse])
    simp only [hse] at ha ⊢
    rw [expire_eq_self hse] at ha ⊢
    cases ho : o s with
    | fail e s' =>
      rw [ho] at ha he
      exact absurd (Except.error.inj ha) (he msg)
    | done result s' =>
      rw [ho] at ha
      cases ha
    | persist streamKey result s' =>
      simp only [ho, ReceiptSessionManager.settle, persistRoute] at ha ⊢
      cases hf : s'.routes.find? (·.streamKey = streamKey) with
      | none =>
        simp only [hf] at ha
        cases ha
      | some route =>
        have hco := hst.saveHeaderAndRoute (persistedHeader P s') route hh
        have hp := (persistWith_cases { m with activeOpt := some s' } fun store =>
          ReceiptSessionRecoveryStore.saveHeaderAndRoute store (persistedHeader P s') route).1
        have hc := cleared_persistWith hst (m := { m with activeOpt := some s' }) hs
          (fun store => ReceiptSessionRecoveryStore.saveHeaderAndRoute store (persistedHeader P s') route)
          hco.exists_holds (haf (persistedHeader P s') route)
        simp only [hf] at ha ⊢
        split at ha
        · cases ha
        · rename_i heq
          rw [heq] at hc hp
          exact ⟨hc (by simp), hp⟩

/-- An activation that ends in a persistence error consumed the proposal. -/
theorem cleared_activate (hc : (Call.activate p si now).Clears m store)
    (ha : (m.activate P p si now).1 = .error (.persistence msg)) :
    Cleared Holds (m.activate P p si now).2 ∧ (m.activate P p si now).2.pendingOpt = none := by
  have hca := activate_cases (P := P) m p si now
  generalize m.activate P p si now = answer at hca ha ⊢
  cases hca with
  | refused he => exact absurd (Except.error.inj ha) (he msg)
  | storeless hn =>
    rw [hs] at hn
    cases hn
  | @uncleared store' _ hs' hf =>
    obtain rfl : store = store' := Option.some.inj (hs.symm.trans hs')
    rw [hc.1] at hf
    cases hf
  | @unsaved pending authorization e m' hp hpo hsa =>
    have hem := holds_clear hst ⟨c, hh⟩ hc.1
    have hco := hst.saveHeader (persistedHeader P ⟨authorization, pending.payerCryptde, [], 0⟩) hem
    obtain ⟨hn, -⟩ := persistHeader_cases rfl hsa
    have hcl := cleared_persistWith hst (m := m.activated pending authorization)
      (by rw [ReceiptSessionManager.activated, hs, Option.map_some])
      (fun store => ReceiptSessionRecoveryStore.saveHeader store
        (persistedHeader P ⟨authorization, pending.payerCryptde, [], 0⟩)) hco.exists_holds
      (hc.2 (persistedHeader P ⟨authorization, pending.payerCryptde, [], 0⟩))
    simp only [persistHeader, ReceiptSessionManager.activated] at hsa hcl
    rw [hsa] at hcl
    exact ⟨hcl (by simp), hn⟩
  | activated => cases ha

/-- A persistence error of a call leaves no session, in memory or in the store. -/
theorem cleared_of_unpersisted (hc : call.Clears m store) (ha : call.answer P m = .error (.persistence msg)) :
    Cleared Holds (call.next P m) ∧
      ((call.next P m).pendingOpt = none ∨ (call.next P m).pendingOpt = m.pendingOpt) := by
  by_cases hop : call.isOperation
  · obtain ⟨_, hno, hap, han, hab, -, hle⟩ := Call.operates (P := P) call hop m
    rw [Call.next, hap]
    refine (cleared_onActive hst hs hh (fun hl => ?_) hle (hab.2 msg) (verdict_eq_error.1 (han ▸ ha))).imp_right .inr
    have hse := seesExpiry_eq_false hno hl
    cases call with
    | propose | activate | status | stop => cases hop
    | _ => simpa only [Call.Clears, hse, Bool.false_eq_true, if_false] using hc
  · cases call with
    | propose limit duration now cryptde nonce =>
      exact absurd (verdict_eq_error.1 ha) (propose_ne_persistence msg)
    | activate proposalId signature now =>
      exact (cleared_activate hst hs hh hc (verdict_eq_error.1 ha)).imp_right .inl
    | status | stop => cases ha
    | _ => exact absurd rfl hop

/-- **The revoking call.** If the store carries out the clear, the session is gone, the store is empty, and
a proposal that is left has a nonce of its own. -/
theorem Revokes.cleared (hc : call.Clears m store) (hr : Revokes P m a call)
    (hap : ∀ pending s, m.pendingOpt = some pending → m.activeOpt = some s →
      pending.policy.authorizationNonce ≠ s.authorization.policy.authorizationNonce) :
    Cleared Holds (call.next P m) ∧ ∀ pending, (call.next P m).pendingOpt = some pending →
      pending.policy.authorizationNonce ≠ a.policy.authorizationNonce := by
  cases hr with
  | stopped hac ha =>
    refine ⟨cleared_clearStore hst hs ⟨c, hh⟩ hc rfl, ?_⟩
    rintro pending ⟨⟩
  | expired hac ha hca hno =>
    rw [next_of_expired hac hca hno]
    refine ⟨cleared_clearStore hst hs ⟨c, hh⟩ (clearable_of_expired hac hca hno hc) rfl, ?_⟩
    rintro pending hp
    exact ha ▸ hap pending _ hp hac
  | unpersisted hac ha han =>
    obtain ⟨hcl, hpe⟩ := cleared_of_unpersisted hst hs hh hc han
    refine ⟨hcl, ?_⟩
    rintro pending hp
    rcases hpe with hn | hsa
    · rw [hn] at hp
      cases hp
    · exact ha ▸ hap pending _ (hsa ▸ hp) hac
  | unactivated _ _ han =>
    obtain ⟨hcl, hn⟩ := cleared_activate hst hs hh hc (verdict_eq_error.1 han)
    refine ⟨hcl, ?_⟩
    rintro pending hp
    rw [Call.next, Call.apply, hn] at hp
    cases hp

end

/-- What is revoked was in use. -/
theorem Revokes.nonce_mem {drawn : List Bytes32} (hr : Revokes P m a call)
    (h : Confined Holds (·.policy.authorizationNonce ∈ drawn) (·.policy.authorizationNonce ∈ drawn) m) :
    a.policy.authorizationNonce ∈ drawn := by
  cases hr with
  | stopped hs ha => exact ha ▸ h.active _ hs
  | expired hs ha => exact ha ▸ h.active _ hs
  | unpersisted hs ha => exact ha ▸ h.active _ hs
  | unactivated hp ha => exact ha ▸ h.pending _ hp

end Revoking

/-! ## The node over its whole life -/

section Life

variable {σ : Type} {P : Primitives} {Holds : σ → RecoveryContent → Prop}

section Guarded

variable {A : ActiveReceiptSession → Prop} {R : PendingReceiptSession → Prop} {C : RecoveryContent → Prop}
  {node : Node σ}

variable (Holds A R C) in
/-- `Guarded`, for a node that may be down. -/
def Node.Guarded : Node σ → Prop
  | .up m => MasqMobile.Guarded Holds A R C m
  | .down storeOpt => ∀ store, storeOpt = some store → ∃ c, Holds store c ∧ C c

theorem Node.Guarded.stored (h : node.Guarded Holds A R C) :
    ∀ store, node.storeOpt = some store → ∃ c, Holds store c ∧ C c := by
  cases node with
  | up m => exact MasqMobile.Guarded.stored h
  | down storeOpt => exact h

variable [ReceiptSessionRecoveryStore σ] (hg : Guards P A R C) (hs : RecordingStore Holds)
include hg hs

theorem Node.Guarded.step (h : node.Guarded Holds A R C) (hn : ∀ pending : PendingReceiptSession,
    pending.policy.authorizationNonce ∈ e.nonces → R pending) :
    (node.step P e).Guarded Holds A R C := by
  cases e with
  | restart config now =>
    simp only [Node.step, Node.boot]
    split
    · rename_i hn
      exact newRecoveryRequired_guarded hg hs h.stored hn
    · intro store' hso
      obtain ⟨store, hst, rfl⟩ := Option.map_eq_some_iff.1 hso
      exact hg.kept_load hs (h.stored store hst) now
  | call call =>
    cases node with
    | up m => exact MasqMobile.Guarded.call hg hs h hn
    | down storeOpt => exact h

theorem Node.Guarded.run (e : List NodeEvent) (h : node.Guarded Holds A R C) (hn : ∀ pending : PendingReceiptSession,
      pending.policy.authorizationNonce ∈ e.flatMap NodeEvent.nonces → R pending) :
    (Run.run (Node.step P) node e).Guarded Holds A R C := by
  induction e generalizing node with
  | nil => exact h
  | cons event e ih =>
    simp only [List.flatMap_cons, List.mem_append] at hn
    exact ih (h.step hg hs fun pending hp => hn pending (.inl hp)) fun pending hp => hn pending (.inr hp)

end Guarded

variable {Q : AuthorizedReceiptSession → Prop} {R : PendingReceiptSession → Prop}

variable (Holds Q R) in
/-- `Confined`, for a node that may be down. -/
def Node.Confined : Node σ → Prop
  | .up m => MasqMobile.Confined Holds Q R m
  | .down storeOpt => ∀ store, storeOpt = some store → Holding Holds Q store

theorem Node.confined_iff {node : Node σ} : node.Confined Holds Q R ↔ node.Guarded Holds
    (fun s => Q s.authorization) R (fun c => ∀ header, c.headerOpt = some header → Q header.authorization) := by
  cases node with
  | up m => exact MasqMobile.confined_iff
  | down storeOpt => exact Iff.rfl

theorem Node.Confined.mono {Q' : AuthorizedReceiptSession → Prop} {R' : PendingReceiptSession → Prop}
    {node : Node σ} (h : node.Confined Holds Q R) (hQ : ∀ a, Q a → Q' a) (hR : ∀ pending, R pending → R' pending) :
    node.Confined Holds Q' R' := by
  have hst : ∀ store, Holding Holds Q store → Holding Holds Q' store :=
    fun store ⟨c, hc, hh⟩ => ⟨c, hc, fun header heq => hQ _ (hh header heq)⟩
  cases node with
  | up m =>
    exact ⟨fun s hs => hQ _ (MasqMobile.Confined.active h s hs),
      fun pending hp => hR _ (MasqMobile.Confined.pending h pending hp),
      fun store hso => hst store (MasqMobile.Confined.stored h store hso)⟩
  | down storeOpt => exact fun store hso => hst store (h store hso)

variable [ReceiptSessionRecoveryStore σ]

/-! ### Nonces -/

variable (Holds) in
/-- Every authorization and proposal in use carries a nonce drawn before, and not the same one. -/
structure Node.Known (drawn : List Bytes32) (node : Node σ) : Prop where
  confined : node.Confined Holds (fun a => a.policy.authorizationNonce ∈ drawn)
    fun pending => pending.policy.authorizationNonce ∈ drawn
  apart : ∀ m, node = .up m → ∀ pending s, m.pendingOpt = some pending → m.activeOpt = some s →
    pending.policy.authorizationNonce ≠ s.authorization.policy.authorizationNonce

theorem Node.Known.step (hst : RecordingStore Holds) {node : Node σ}
    (h : node.Known Holds d) (hf : (d ++ e.nonces).Nodup) :
    (node.step P e).Known Holds (d ++ e.nonces) := by
  refine ⟨?_, ?_⟩
  · have hm := h.confined.mono (fun a ha => List.mem_append_left e.nonces ha) fun pending hp =>
      List.mem_append_left e.nonces hp
    have hg := guards_authorization (P := P) (R := (·.policy.authorizationNonce ∈ d ++ e.nonces))
      (Q := (·.policy.authorizationNonce ∈ d ++ e.nonces)) fun pending a hp hpo => by rwa [hpo]
    exact Node.confined_iff.2 ((Node.confined_iff.1 hm).step hg hst fun pending hp => List.mem_append_right _ hp)
  · intro m' hm' pending s hp hs
    cases e with
    | restart config now =>
      simp only [Node.step, Node.boot] at hm'
      split at hm'
      · rename_i hne
        obtain rfl := Node.up.inj hm'
        rw [pendingOpt_newRecoveryRequired hne] at hp
        cases hp
      · cases hm'
    | call call =>
      cases node with
      | down storeOpt => cases hm'
      | up m =>
        obtain rfl := Node.up.inj hm'
        have ho := h.apart m rfl
        have hc := call_step (P := P) call m
        unfold Call.next at hp hs
        generalize (call.apply P m).1 = returned at hc
        generalize (call.apply P m).2 = m' at hc hp hs
        cases hc with
        | idle hac hpe =>
          rw [hac] at hs
          rcases hpe with hsa | hn
          · exact ho pending s (hsa ▸ hp) hs
          · rw [hn] at hp
            cases hp
        | ended hac =>
          rw [hac] at hs
          cases hs
        | proposed hac hpe hno =>
          -- the new nonce was not drawn before, the active one was
          rw [hpe] at hp
          rw [hac] at hs
          obtain rfl := Option.some.inj hp
          have hd := MasqMobile.Confined.active h.confined s hs
          exact fun heq => List.disjoint_of_nodup_append hf hd (heq ▸ hno)
        | activated _ _ ht =>
          rw [ht] at hp
          cases hp
        | session hpe hac hac' hste =>
          rw [hac'] at hs
          obtain rfl := Option.some.inj hs
          rw [hste.authorization_eq]
          exact ho pending _ (hpe ▸ hp) hac

theorem Node.Known.run (hs : RecordingStore Holds) (e : List NodeEvent) {node : Node σ}
    (h : node.Known Holds d) (hf : (d ++ e.flatMap NodeEvent.nonces).Nodup) :
    (Run.run (Node.step P) node e).Known Holds (d ++ e.flatMap NodeEvent.nonces) := by
  induction e generalizing d node with
  | nil => simpa using h
  | cons event e ih =>
    rw [List.flatMap_cons, ← List.append_assoc] at hf ⊢
    exact ih (h.step hs hf.of_append_left) hf

/-- A node without a store restores nothing, whatever happened before. -/
theorem storeless_run (node : Node σ) (hn : node.storeOpt = none) (e : List NodeEvent) :
    (Run.run (Node.step P) node e).storeOpt = none := by
  -- the invariant: every store of the node holds something impossible
  have hst : RecordingStore fun (_ : σ) (_ : RecoveryContent) => False :=
    ⟨fun _ h => h.elim, fun _ _ h => h.elim, fun h => h.elim, fun _ h => h.elim⟩
  have hg : Guards P (fun _ => True) (fun _ => True) fun _ => True := by constructor <;> intros <;> trivial
  have hc : node.Guarded (fun _ _ => False) (fun _ => True) (fun _ => True) fun _ => True := by
    cases node with
    | up m => exact ⟨by simp, by simp, fun store hs => by cases hn.symm.trans hs⟩
    | down storeOpt => exact fun store hs => by cases hn.symm.trans hs
  have hr := hc.run hg hst e fun _ _ => trivial
  refine Option.eq_none_iff_forall_ne_some.2 fun store hs => ?_
  obtain ⟨_, hf, -⟩ := hr.stored store hs
  exact hf

end Life

/-! ## Main result -/

/-- **Revocation is durable when the store is cleared.** The node starts over any store, runs through any
calls, crashes and starts, and then revokes `a`. If the store carries out the clears of that one call, then no
later calls, crashes and starts, with whatever failures of the store, lead to a start that restores `a`. -/
theorem revocation_durable {σ : Type} [ReceiptSessionRecoveryStore σ] (P : Primitives)
    {Holds : σ → RecoveryContent → Prop} (hstore : RecordingStore Holds) {store : σ} {c : RecoveryContent}
    (hholds : Holds store c) (known : List Bytes32)
    (hknown : ∀ header, c.headerOpt = some header → header.authorization.policy.authorizationNonce ∈ known)
    (before : List NodeEvent) (call : Call) (after : List NodeEvent)
    (hdrawn : (known ++ (before ++ .call call :: after).flatMap NodeEvent.nonces).Nodup)
    {m : ReceiptSessionManager σ} (hup : Run.run (Node.step P) (.down (some store)) before = .up m)
    {a : AuthorizedReceiptSession} (hrevokes : Revokes P m a call)
    (hclear : ∀ store, m.recoveryStoreOpt = some store → call.Clears m store) (config : ReceiptSessionConfig)
    (now : Nat) {m' : ReceiptSessionManager σ}
    (hnew : newRecoveryRequired P config
      (Run.run (Node.step P) (.down (some store)) (before ++ .call call :: after)).storeOpt now = .ok m') :
    ∀ s, m'.activeOpt = some s → s.authorization ≠ a := by
  rw [Run.run_append, hup, Run.run_cons] at hnew
  rw [List.flatMap_append, List.flatMap_cons, ← List.append_assoc, ← List.append_assoc] at hdrawn
  obtain ⟨hb, ha, hd⟩ := List.nodup_append'.1 hdrawn
  have hf : (Node.down (some store)).Known Holds known := by
    refine ⟨?_, fun _ h => by cases h⟩
    rintro _ ⟨⟩
    exact ⟨c, hholds, hknown⟩
  have hm := hf.run (P := P) hstore before hb.of_append_left
  rw [hup] at hm
  cases hso : m.recoveryStoreOpt with
  | none =>
    have hno : (Node.step P (.up m) (.call call)).storeOpt = none := storeless_run (.up m) hso [.call call]
    rw [storeless_run _ hno after] at hnew
    obtain rfl := Except.ok.inj hnew
    simp
  | some he =>
    obtain ⟨c', hc', -⟩ := MasqMobile.Confined.stored hm.confined he hso
    obtain ⟨hc, hpe⟩ := Revokes.cleared hstore hso hc' (hclear he hso) hrevokes (hm.apart m rfl)
    -- nothing in use has the nonce of `a`, and later proposals draw other ones
    have hn : (Node.step P (.up m) (.call call)).Confined Holds
        (·.policy.authorizationNonce ≠ a.policy.authorizationNonce)
        (·.policy.authorizationNonce ≠ a.policy.authorizationNonce) := by
      obtain ⟨hin, store', hso', hem⟩ := hc
      refine ⟨by simp [hin], hpe, fun _ h => ?_⟩
      obtain rfl := Option.some.inj (hso'.symm.trans h)
      exact ⟨.empty, hem, by simp [RecoveryContent.empty]⟩
    have hg := guards_authorization (P := P) fun (pending : PendingReceiptSession) (b : AuthorizedReceiptSession)
      (hp : pending.policy.authorizationNonce ≠ a.policy.authorizationNonce) hpo => hpo ▸ hp
    have hl := (Node.confined_iff.1 hn).run hg hstore after fun pending hp heq =>
      hd (List.mem_append_left _ (hrevokes.nonce_mem hm.confined)) (heq ▸ hp)
    rintro s hs rfl
    exact (newRecoveryRequired_guarded hg hstore hl.stored hnew).active s hs rfl

/-! ### Runs of the store of the source -/

section Real

variable {κ : Type} {env : RecoveryEnv κ} {st : ReceiptSessionRecoveryStoreReal env}

/-- The store of the source is cleared unless the database fails. -/
theorem clearable_real_iff : Clearable st ↔ env.fault st.operations = none := by
  simp only [Clearable, ReceiptSessionRecoveryStore.clear, attempt]
  cases env.fault st.operations <;> simp

theorem operations_saveHeaderAndRoute (header : PersistedReceiptSessionHeader) :
    (ReceiptSessionRecoveryStore.saveHeaderAndRoute st header ro).2.operations = st.operations + 1 := by
  simp only [ReceiptSessionRecoveryStore.saveHeaderAndRoute, attempt]
  split <;> rfl

end Real

/-- The database fails at the given operations. -/
def failingAt (faults : List Nat) : RecoveryEnv (PersistedReceiptSessionHeader ⊕ ReceiptRouteState) :=
  { plainEnv with fault := fun n => if n ∈ faults then some "database is locked" else none }

theorem lawful_failingAt (f : List Nat) : (failingAt f).Lawful :=
  ⟨lawful_plainEnv.header, lawful_plainEnv.route, lawful_plainEnv.cbor⟩

def Node.authorizationOpt {σ : Type} : Node σ → Option AuthorizedReceiptSession
  | .up m => m.activeOpt.map (·.authorization)
  | .down _ => none

/-- A start over an empty database, and a session of sixty seconds: operations 0 to 2 of the store. -/
def openSession : List NodeEvent := [.restart ⟨⟨"chain", 0⟩, 1, 1, 1⟩ 1000, .call (.propose "100" 60 1000 ⟨[8], []⟩ 7),
    .call (.activate "0x0000000000000000000000000000000000000000000000000000000000000007" "" 1000)]

/-- The node with the session, and the same node after the call. -/
def nodeBefore (faults : List Nat) : Node (ReceiptSessionRecoveryStoreReal (failingAt faults)) :=
  Run.run (Node.step .oneKey) (.down (some (.fresh _))) openSession

def nodeAfter (faults : List Nat) (call : Call) : Node (ReceiptSessionRecoveryStoreReal (failingAt faults)) :=
  (nodeBefore faults).step .oneKey (.call call)

def answerAt (faults : List Nat) (call : Call) : Option (Except ReceiptSessionManagerError Unit) :=
  match nodeBefore faults with
  | .up m => some (call.answer .oneKey m)
  | .down _ => none

/-- The save of a route fails, the clear that follows goes through, and the next start fails once. -/
theorem revocation_durable_unpersisted :
    answerAt [3, 5] (.requestForStream 3 5 1001) = some (.error (.persistence "database is locked")) ∧
      ∃ m', newRecoveryRequired .oneKey ⟨⟨"chain", 0⟩, 1, 1, 1⟩
          (Run.run (Node.step .oneKey) (nodeAfter [3, 5] (.requestForStream 3 5 1001))
            [.restart ⟨⟨"chain", 0⟩, 1, 1, 1⟩ 1001]).storeOpt 1002 = .ok m' ∧
        m'.activeOpt.map (·.authorization) ≠ (nodeBefore [3, 5]).authorizationOpt := by
  have ha : answerAt [3, 5] (.requestForStream 3 5 1001) = some (.error (.persistence "database is locked")) := by
    decide +kernel
  have hau : (nodeBefore [3, 5]).authorizationOpt.isSome := by decide +kernel
  have ho : (nodeBefore [3, 5]).storeOpt.map (·.operations) = some 3 := by decide +kernel
  have he : (nodeBefore [3, 5]).authorizationOpt.map (·.policy.expiresAtUnixS) = some 1060 := by decide +kernel
  have hst : verdict (newRecoveryRequired .oneKey ⟨⟨"chain", 0⟩, 1, 1, 1⟩
      (Run.run (Node.step .oneKey) (nodeAfter [3, 5] (.requestForStream 3 5 1001))
        [.restart ⟨⟨"chain", 0⟩, 1, 1, 1⟩ 1001]).storeOpt 1002) = .ok () := by decide +kernel
  obtain ⟨m', hn⟩ := verdict_eq_ok.1 hst
  refine ⟨ha, m', hn, ?_⟩
  cases hup : nodeBefore [3, 5] with
  | down storeOpt =>
    rw [hup] at hau
    cases hau
  | up m =>
    simp only [answerAt, hup, Option.some.injEq] at ha
    simp only [Node.authorizationOpt, Node.storeOpt, hup, Option.map_map, Option.map_eq_some_iff] at ho he
    obtain ⟨s, hs, he⟩ := he
    obtain ⟨store, hso, ho⟩ := ho
    have hc : ∀ hel, m.recoveryStoreOpt = some hel → (Call.requestForStream 3 5 1001).Clears m hel := by
      intro hel hh
      obtain rfl := Option.some.inj (hso.symm.trans hh)
      have hse : (Call.requestForStream 3 5 1001).seesExpiry m = false := by
        simp only [Call.seesExpiry, hs, Call.observesAt, decide_eq_false_iff_not, not_lt]
        exact (show (1001 : Nat) ≤ 1060 by decide).trans_eq he.symm
      simp only [Call.Clears, hse]
      intro header route
      rw [clearable_real_iff, operations_saveHeaderAndRoute, ho]
      rfl
    simp only [Node.authorizationOpt, hs, Option.map_some, ne_eq, Option.map_eq_some_iff]
    rintro ⟨s', hs', hr⟩
    exact revocation_durable .oneKey (recordingStore_real (lawful_failingAt [3, 5]))
      (holds_fresh _) [] (by simp [RecoveryContent.empty]) openSession
      (.requestForStream 3 5 1001) [.restart ⟨⟨"chain", 0⟩, 1, 1, 1⟩ 1001] (by decide) hup
      (.unpersisted hs rfl ha) hc ⟨⟨"chain", 0⟩, 1, 1, 1⟩ 1002 hn s' hs' hr

def Returns (faults : List Nat) (call : Call) (now : Nat) : Prop :=
  (nodeBefore faults).authorizationOpt.isSome ∧ (nodeAfter faults call).authorizationOpt = none ∧
    ((nodeAfter faults call).step .oneKey (.restart ⟨⟨"chain", 0⟩, 1, 1, 1⟩ now)).authorizationOpt =
      (nodeBefore faults).authorizationOpt

/-- The session comes back after `stop` if the clear fails, after a save that failed if the clear fails too,
and after an expiry that was seen if the clear fails and the clock is set back. -/
theorem revoked_session_returns : answerAt [3] .stop = some (.ok ()) ∧ Returns [3] .stop 1001 ∧
      answerAt [3, 4] (.requestForStream 3 5 1001) = some (.error (.persistence "database is locked")) ∧
      Returns [3, 4] (.requestForStream 3 5 1001) 1002 ∧
      answerAt [3] (.status 2000) = some (.ok ()) ∧ Returns [3] (.status 2000) 1003 := by
  simp only [Returns]
  decide +kernel

end MasqMobile
