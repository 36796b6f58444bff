import MasqMobile.Session.CrashRecovery

/-!
# What a call leaves behind

Which sessions can be in use after a call of the manager, in memory and in the recovery store. No call uses an
authorization but the active one and the one of the proposal, and a start restores nothing but what the store
holds. This is stated for any property of sessions, proposals and contents of the store that operations keep
(`Guards`), and for stores whose operations may fail in any way that `RecordingStore` allows.
-/

namespace MasqMobile

open Fallible ReceiptSessionManager

/-! ## Properties that the manager keeps -/

/-- A property of the active session, of the proposal and of what the store holds. -/
structure Guards (P : Primitives) (A : ActiveReceiptSession → Prop) (R : PendingReceiptSession → Prop)
    (C : RecoveryContent → Prop) : Prop where
  empty : C .empty
  activated : ∀ {pending a}, R pending → a.policy = pending.policy → A ⟨a, pending.payerCryptde, [], 0⟩
  header : ∀ {c s}, C c → A s → C (c.saveHeader (persistedHeader P s))
  route : ∀ {c s r}, C c → A s → r ∈ s.routes → C (c.saveHeaderAndRoute (persistedHeader P s) r)
  operated : ∀ {s s'}, A s → s'.authorization = s.authorization → (s.Counted → s'.Counted) → A s'
  restored : ∀ {c config header routes now s}, C c → c.headerOpt = some header → routes.Perm c.routes.rows →
    restoreActive P config header routes now = .ok s → A s

/-- The property holds of everything in use. -/
structure Guarded {σ : Type} (Holds : σ → RecoveryContent → Prop) (A : ActiveReceiptSession → Prop)
    (R : PendingReceiptSession → Prop) (C : RecoveryContent → Prop) (m : ReceiptSessionManager σ) : Prop where
  active : ∀ s, m.activeOpt = some s → A s
  pending : ∀ pending, m.pendingOpt = some pending → R pending
  stored : ∀ store, m.recoveryStoreOpt = some store → ∃ c, Holds store c ∧ C c

section Guarded

variable {σ : Type} {P : Primitives} {Holds : σ → RecoveryContent → Prop} {A : ActiveReceiptSession → Prop}
  {R : PendingReceiptSession → Prop} {C : RecoveryContent → Prop} {m : ReceiptSessionManager σ} {now : Nat}

theorem Commits.kept (h : Commits Holds c c' an) (hb : C c) (ha : C c') : ∃ c, Holds an.2 c ∧ C c := by
  obtain ⟨_ | _, store⟩ := an
  · rcases h with h | h
    · exact ⟨c, h, hb⟩
    · exact ⟨c', h, ha⟩
  · exact ⟨c', h, ha⟩

theorem Guarded.assign (h : Guarded Holds A R C m) (hs : A s) : Guarded Holds A R C { m with activeOpt := some s } := by
  refine ⟨?_, h.pending, h.stored⟩
  rintro _ ⟨⟩
  exact hs

variable [ReceiptSessionRecoveryStore σ] (hg : Guards P A R C) (hst : RecordingStore Holds)
include hg hst

theorem Guards.kept_clear {store : σ} (h : ∃ c, Holds store c ∧ C c) :
    ∃ c, Holds (ReceiptSessionRecoveryStore.clear store).2 c ∧ C c := by
  obtain ⟨c, hh, hc⟩ := h
  exact (hst.clear hh).kept hc hg.empty

variable (h : Guarded Holds A R C m)
include h

theorem Guarded.drop (hp : ∀ pending, p = some pending → R pending) :
    Guarded Holds A R C (clearStore { m with pendingOpt := p, activeOpt := none }) := by
  refine ⟨by simp [clearStore], hp, fun store' hs' => ?_⟩
  obtain ⟨store, hs, rfl⟩ := Option.map_eq_some_iff.1 hs'
  exact hg.kept_clear hst (h.stored store hs)

theorem Guarded.expire (now : Nat) : Guarded Holds A R C (m.expire now) := by
  unfold ReceiptSessionManager.expire
  split
  · split
    · exact h.drop hg hst h.pending
    · exact h
  · exact h

theorem Guarded.persistWith {save : σ → Except String Unit × σ}
    (hsa : ∀ store c, Holds store c → C c → ∃ c, Holds (save store).2 c ∧ C c) :
    Guarded Holds A R C (m.persistWith save).2 := by
  unfold ReceiptSessionManager.persistWith
  split
  · rename_i store hs
    obtain ⟨c, hh, hc⟩ := h.stored store hs
    have hk := hsa store c hh hc
    have hm : Guarded Holds A R C { m with recoveryStoreOpt := some (save store).2 } := by
      refine ⟨h.active, h.pending, ?_⟩
      rintro _ ⟨⟩
      exact hk
    split
    · rename_i heq
      rwa [heq] at hm
    · rename_i heq
      rw [heq] at hm
      exact hm.drop hg hst hm.pending
  · split
    · exact h.drop hg hst h.pending
    · exact h

theorem Guarded.persistHeader : Guarded Holds A R C (persistHeader P m).2 := by
  unfold ReceiptSessionManager.persistHeader
  split
  · exact h
  · rename_i s hs
    exact h.persistWith hg hst fun store c hh hc => (hst.saveHeader _ hh).kept hc (hg.header hc (h.active s hs))

theorem Guarded.persistRoute (sk : StreamKey) : Guarded Holds A R C (persistRoute P m sk).2 := by
  unfold ReceiptSessionManager.persistRoute
  split
  · exact h
  · rename_i s hs
    split
    · exact h
    · rename_i r hr
      exact h.persistWith hg hst fun store c hh hc =>
        (hst.saveHeaderAndRoute _ _ hh).kept hc (hg.route hc (h.active s hs) (List.mem_of_find?_eq_some hr))

theorem Guarded.onActive {α : Type} {l : α → Option ServiceReceiptPayload}
    {o : ActiveReceiptSession → Outcome α} (hsteps : ∀ s, OutcomeSteps d l s (o s))
    (hleaves : ∀ s, OutcomeLeaves s (o s)) (ab : Except ReceiptSessionManagerError α) :
    Guarded Holds A R C (m.onActive P now ab o).2 := by
  have he := h.expire hg hst now
  simp only [ReceiptSessionManager.onActive]
  split
  · exact he
  · rename_i s hs
    have hstep := hsteps s
    have hl := (hleaves s).2
    have hA := he.active s hs
    cases ho : o s with
    | fail e s' =>
      rw [ho] at hstep hl
      exact he.assign (hg.operated hA hstep.authorization_eq fun hc => hl hc ▸ hc)
    | done re s' =>
      rw [ho] at hl
      obtain rfl : s' = s := hl
      exact he.assign hA
    | persist sk re s' =>
      rw [ho] at hstep hl
      have hp := (he.assign (hg.operated hA hstep.1.authorization_eq hl.1)).persistRoute hg hst sk
      simp only [ReceiptSessionManager.settle]
      split
      · rename_i heq
        rwa [heq] at hp
      · rename_i heq
        rwa [heq] at hp

theorem Guarded.activate (p si : String) (now : Nat) : Guarded Holds A R C (m.activate P p si now).2 := by
  have hc := activate_cases (P := P) m p si now
  generalize m.activate P p si now = answer at hc ⊢
  -- both ways of saving start from the cleared store
  have hsa : ∀ {pending authorization answer m'}, m.pendingOpt = some pending →
      authorization.policy = pending.policy → ReceiptSessionManager.persistHeader P
        (m.activated pending authorization) =
        (answer, m') → Guarded Holds A R C m' := by
    intro pending authorization answer m' hp hpo hs
    have hm := ((h.drop hg hst (p := none) (by simp)).assign
      (hg.activated (h.pending pending hp) hpo)).persistHeader hg hst
    simp only [clearStore] at hm
    simp only [ReceiptSessionManager.activated] at hs
    rwa [hs] at hm
  cases hc with
  | refused _ hp =>
    rcases hp with rfl | rfl
    · exact h
    · exact ⟨h.active, by simp, h.stored⟩
  | storeless => exact h
  | uncleared hs =>
    refine ⟨h.active, h.pending, ?_⟩
    rintro _ ⟨⟩
    exact hg.kept_clear hst (h.stored _ hs)
  | unsaved hp hpo hs => exact hsa hp hpo hs
  | activated hp hpo _ _ hs => exact (hsa hp hpo hs).expire hg hst now

/-- **One call.** The property is kept if it holds of the proposals that the call may make. -/
theorem Guarded.call {call : Call}
    (hn : ∀ pending : PendingReceiptSession, pending.policy.authorizationNonce ∈ call.nonces → R pending) :
    Guarded Holds A R C (call.next P m) := by
  by_cases hop : call.isOperation
  · obtain ⟨_, -, hap, -, -, hsteps, hleaves⟩ := Call.operates (P := P) call hop m
    rw [Call.next, hap]
    exact h.onActive hg hst hsteps hleaves _
  · cases call with
    | propose limit duration now cryptde nonce =>
      simp only [Call.next, Call.apply, ReceiptSessionManager.propose]
      split
      · exact h
      · rename_i policy hp
        simp only [bind_eq_ok, pure_eq_ok] at hp
        obtain ⟨_, -, _, -, _, -, _, -, _, -, _, -, rfl⟩ := hp
        refine ⟨h.active, ?_, h.stored⟩
        rintro _ ⟨⟩
        exact hn _ (by simp [Call.nonces])
    | activate proposalId signature now => exact h.activate hg hst proposalId signature now
    | status now => exact h.expire hg hst now
    | stop => exact h.drop hg hst (by simp)
    | _ => exact absurd rfl hop

omit h

theorem Guards.kept_load {store : σ} (h : ∃ c, Holds store c ∧ C c) (now : Nat) :
    ∃ c, Holds (ReceiptSessionRecoveryStore.load store now).2 c ∧ C c := by
  obtain ⟨c, hh, hc⟩ := h
  have hr := hst.load now hh
  generalize ReceiptSessionRecoveryStore.load store now = answer at hr ⊢
  obtain ⟨_ | _ | _, store'⟩ := answer
  · exact hr.elim (fun h => ⟨c, h, hc⟩) fun h => ⟨_, h, hg.empty⟩
  · exact hr.elim (fun h => ⟨c, h, hc⟩) fun h => ⟨_, h, hg.empty⟩
  · exact ⟨c, hr.2.2, hc⟩

variable {cfg : ReceiptSessionConfig}

theorem newRecoveryRequired_guarded (h : ∀ store, so = some store → ∃ c, Holds store c ∧ C c)
    (hn : newRecoveryRequired P cfg so now = .ok m) :
    Guarded Holds A R C m := by
  cases so with
  | none =>
    obtain rfl := Except.ok.inj hn
    exact ⟨by simp, by simp, by simp⟩
  | some store =>
    have hk := hg.kept_load hst (h store rfl) now
    obtain ⟨_, rfl, ⟨rfl, -⟩ | ⟨header, routes, s, rfl, hl, hr⟩⟩ := newRecoveryRequired_eq_ok_iff.1 hn
    · exact ⟨by simp, by simp, by simpa using hk⟩
    · refine ⟨?_, by simp, by simpa using hk⟩
      rintro _ ⟨⟩
      obtain ⟨c, hh, hc⟩ := h store rfl
      have hre := hst.load now hh
      generalize ReceiptSessionRecoveryStore.load store now = answer at hre hl
      obtain ⟨_, store'⟩ := answer
      obtain rfl := hl
      exact hg.restored hc hre.1 hre.2.1 hr

omit hg hst

theorem pendingOpt_newRecoveryRequired (hn : newRecoveryRequired P cfg so now = .ok m) : m.pendingOpt = none := by
  cases so with
  | none =>
    obtain rfl := Except.ok.inj hn
    rfl
  | some store =>
    obtain ⟨_, rfl, -⟩ := newRecoveryRequired_eq_ok_iff.1 hn
    rfl

end Guarded

/-! ## Authorizations -/

section Confined

variable {σ : Type} (Holds : σ → RecoveryContent → Prop) (Q : AuthorizedReceiptSession → Prop)

/-- The store holds nothing, or a session whose authorization satisfies `Q`. -/
def Holding (store : σ) : Prop := ∃ c, Holds store c ∧ ∀ header, c.headerOpt = some header → Q header.authorization

/-- Every authorization in use satisfies `Q`, in memory and in the store, and the proposal `R`. -/
structure Confined (R : PendingReceiptSession → Prop) (m : ReceiptSessionManager σ) : Prop where
  active : ∀ s, m.activeOpt = some s → Q s.authorization
  pending : ∀ pending, m.pendingOpt = some pending → R pending
  stored : ∀ store, m.recoveryStoreOpt = some store → Holding Holds Q store

variable {Holds Q} {R : PendingReceiptSession → Prop} {m : ReceiptSessionManager σ}

theorem confined_iff : Confined Holds Q R m ↔ Guarded Holds (fun s => Q s.authorization) R
    (fun c => ∀ header, c.headerOpt = some header → Q header.authorization) m :=
  ⟨fun h => ⟨h.active, h.pending, h.stored⟩, fun h => ⟨h.active, h.pending, h.stored⟩⟩

theorem guards_authorization (hRQ : ∀ pending a, R pending → a.policy = pending.policy → Q a) :
    Guards P (fun s => Q s.authorization) R
      (fun c => ∀ header, c.headerOpt = some header → Q header.authorization) where
  empty := by simp [RecoveryContent.empty]
  activated hr hp := hRQ _ _ hr hp
  header _ hs := by
    rintro _ ⟨⟩
    exact hs
  route _ hs _ := by
    rintro _ ⟨⟩
    exact hs
  operated hs he _ := he ▸ hs
  restored hc hh _ hr := (restoreActive_eq_ok_iff.1 hr).1.1 ▸ hc _ hh

end Confined

end MasqMobile
