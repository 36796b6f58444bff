import MasqMobile.Receipt.Digests
import MasqMobile.Settlement.Batcher
import MasqMobile.Settlement.Canonical

/-!
# Which authorizations a submission registers

`submit_batch_with_sessions_calldata` registers one authorization per session id, and a session id covers the payer's
wallet and the authorization nonce only. A batch verifies each claim against the whole policy that it carries, so two
policies of one wallet and one nonce both pass, and the submission drops one of them.
-/

namespace MasqMobile

open Fallible Lists Abi AuthorizedReceiptSession

theorem WalletSignature.token_injective : Function.Injective WalletSignature.token := by
  intro sig sig' h
  obtain ⟨hr, h⟩ := wordBytes_append_inj (Token.bytes.inj h)
  obtain ⟨hs, hv⟩ := wordBytes_append_inj h
  obtain ⟨v, r, s⟩ := sig
  obtain ⟨v', r', s'⟩ := sig'
  have hv : v = v' := by simpa using hv
  simp_all

/-- The token of a policy shows everything but the chain and the contract. -/
theorem ReceiptSessionPolicy.eq_of_token_eq {p q : ReceiptSessionPolicy} (h : p.token = q.token)
    (hc : p.chainId = q.chainId) (hco : p.settlementContract = q.settlementContract) : p = q := by
  simp only [token, Token.tuple.injEq, List.cons.injEq, Token.uint.injEq, Token.address.injEq, Token.bytes.injEq,
    Token.fixedBytes.injEq, and_true] at h
  obtain ⟨hv, hw, hk, hm, hf, hto, hn⟩ := h
  have hn := wordBytes_injective hn
  cases p
  cases q
  simp_all

/-- The (authorization, signature) pairs among the arguments of a submission. -/
def submittedPairs : List Token → List (Token × Token)
  | .array authorizations :: .array signatures :: _ => authorizations.zip signatures
  | _ => []

namespace ReceiptSettlementBatch

variable {P : Primitives} {cr : CryptDE} {b : ReceiptSettlementBatch} {now sequence : Nat}

theorem mem_submittedPairs {pair : Token × Token} : pair ∈ submittedPairs (b.submissionTokens P sequence) ↔
    ∃ r ∈ b.registrations P, (r.2.policy.token, r.2.walletSignature.token) = pair := by
  rw [submissionTokens, submittedPairs, List.zip_map', List.mem_map]

theorem exists_claim_of_mem_registrations (hr : r ∈ b.registrations P) :
    ∃ c ∈ b.claims, c.receiptPayload.authorization.registration P = r :=
  List.mem_map.1 (mem_sortBy.1 ((dedupBy_sublist _ _).subset hr))

variable {c : ReceiptSettlementClaim}

theorem exists_registration (hc : c ∈ b.claims) :
    ∃ r ∈ b.registrations P, r.1 = (c.receiptPayload.authorization.registration P).1 := by
  have hm : c.receiptPayload.authorization.registration P ∈
      sortBy (·.1) (b.claims.map (·.receiptPayload.authorization.registration P)) :=
    mem_sortBy.2 (List.mem_map_of_mem hc)
  exact exists_mem_dedupBy (·.1) hm

theorem nodup_registrations : ((b.registrations P).map (·.1)).Nodup := nodup_dedupBy_sortBy _ _

/-- The authorizations of an accepted batch are authentic for its chain and its contract. -/
theorem authentic_of_verifyExported (h : b.verifyExported P now cr = .ok ()) (hc : c ∈ b.claims) :
    c.receiptPayload.authorization.Authentic P b.chainId b.settlementContract
      c.receiptPayload.acknowledgedReceipt.payerSessionPublicKey := by
  obtain ⟨hl, hb⟩ := verifyExported_eq_ok_iff.1 h
  obtain ⟨ha, -⟩ := buildFromAccepted_eq_ok_iff.1 hb
  obtain ⟨p, hp, rfl⟩ : ∃ p ∈ b.claims.zip b.claimAcceptedAtUnixS, p.1 = c := by
    rw [← List.mem_map, List.map_fst_zip (by omega)]
    exact hc
  obtain ⟨charge, hpa⟩ := (ha.verifies p hp).payer
  exact (verifyForReceipt_eq_ok_iff.1 hpa).2.1

/-- The bytes hashed for the session ids of the claims have no collision. -/
def SessionIdsFree (P : Primitives) (claims : List ReceiptSettlementClaim) : Prop :=
  Set.InjOn P.keccak256 {s | ∃ c ∈ claims, addressWord c.receiptPayload.authorization.policy.payerWalletAddress ++
    wordBytes c.receiptPayload.authorization.policy.authorizationNonce = s}

theorem SessionIdsFree.eq_of_registration_eq (h : SessionIdsFree P cl) (hc : c ∈ cl) (hc' : c' ∈ cl)
    (heq : (c.receiptPayload.authorization.registration P).1 = (c'.receiptPayload.authorization.registration P).1) :
    c.receiptPayload.authorization.policy.payerWalletAddress =
        c'.receiptPayload.authorization.policy.payerWalletAddress ∧
      c.receiptPayload.authorization.policy.authorizationNonce =
        c'.receiptPayload.authorization.policy.authorizationNonce := by
  have hb := h ⟨c, hc, rfl⟩ ⟨c', hc', rfl⟩ heq
  obtain ⟨hw, hn⟩ := addressWord_append_inj hb
  exact ⟨hw, wordBytes_injective hn⟩

/-- The policy and the wallet signature of the claim are among those submitted. -/
def Submitted (P : Primitives) (b : ReceiptSettlementBatch) (sequence : Nat) (c : ReceiptSettlementClaim) : Prop :=
  (c.receiptPayload.authorization.policy.token, c.receiptPayload.authorization.walletSignature.token) ∈
    submittedPairs (b.submissionTokens P sequence)

/-- What is registered for the wallet and the nonce of the claim is the claim's own authorization. -/
def Unrivalled (P : Primitives) (b : ReceiptSettlementBatch) (c : ReceiptSettlementClaim) : Prop :=
  ∀ r ∈ b.registrations P, r.2.policy.payerWalletAddress = c.receiptPayload.authorization.policy.payerWalletAddress →
    r.2.policy.authorizationNonce = c.receiptPayload.authorization.policy.authorizationNonce →
    r.2 = c.receiptPayload.authorization

/-- Claims of one wallet and one nonce carry one authorization. -/
def OneAuthorizationPerNonce (b : ReceiptSettlementBatch) : Prop := ∀ c ∈ b.claims, ∀ c' ∈ b.claims,
    c.receiptPayload.authorization.policy.payerWalletAddress =
      c'.receiptPayload.authorization.policy.payerWalletAddress →
    c.receiptPayload.authorization.policy.authorizationNonce =
      c'.receiptPayload.authorization.policy.authorizationNonce →
    c.receiptPayload.authorization = c'.receiptPayload.authorization

/-- The tokens of a claim of an accepted batch are those of its own authorization only. -/
theorem Submitted.mem_registrations (hv : b.verifyExported P now cr = .ok ()) (hc : c ∈ b.claims)
    (h : Submitted P b sequence c) :
    c.receiptPayload.authorization.registration P ∈ b.registrations P := by
  obtain ⟨r, hr, hp⟩ := mem_submittedPairs.1 h
  obtain ⟨d, hd, rfl⟩ := exists_claim_of_mem_registrations hr
  obtain ⟨ht, hs⟩ := Prod.mk.inj hp
  have how := authentic_of_verifyExported hv hc
  have ho := authentic_of_verifyExported hv hd
  have hpo : d.receiptPayload.authorization.policy = c.receiptPayload.authorization.policy :=
    ReceiptSessionPolicy.eq_of_token_eq ht (ho.chain.trans how.chain.symm) (ho.contract.trans how.contract.symm)
  have ha : d.receiptPayload.authorization = c.receiptPayload.authorization := by
    rw [AuthorizedReceiptSession.mk.injEq]
    exact ⟨hpo, WalletSignature.token_injective hs⟩
  rwa [ha] at hr

theorem OneAuthorizationPerNonce.submitted (hf : SessionIdsFree P b.claims) (h : OneAuthorizationPerNonce b)
    (hc : c ∈ b.claims) : Submitted P b sequence c := by
  obtain ⟨r, hr, hid⟩ := exists_registration (P := P) hc
  obtain ⟨d, hd, rfl⟩ := exists_claim_of_mem_registrations hr
  obtain ⟨hw, hn⟩ := hf.eq_of_registration_eq hd hc hid
  have ha := h d hd c hc hw hn
  refine mem_submittedPairs.2 ⟨_, hr, ?_⟩
  rw [ha]
  rfl

/-- **Every claim is submitted with the authorization it was verified against, unless another claim of the batch uses
the same wallet and nonce with another policy or signature.** The same decides whether a session is registered that
differs from what one of the claims was verified against. -/
theorem claims_submitted_with_authorization (P : Primitives) (b : ReceiptSettlementBatch) (now sequence : Nat)
    (cr : CryptDE) (hfree : SessionIdsFree P b.claims) (hverify : b.verifyExported P now cr = .ok ()) :
    ((∀ c ∈ b.claims, Submitted P b sequence c) ↔ OneAuthorizationPerNonce b) ∧
    ((∀ c ∈ b.claims, Unrivalled P b c) ↔ OneAuthorizationPerNonce b) := by
  refine ⟨⟨fun h c hc c' hc' hw hn => ?_, fun h c hc => h.submitted hfree hc⟩,
    ⟨fun h c hc c' hc' hw hn => ?_, fun h c hc r hr hw hn => ?_⟩⟩
  · have hr := (h c hc).mem_registrations hverify hc
    have hr' := (h c' hc').mem_registrations hverify hc'
    have hid : (c.receiptPayload.authorization.registration P).1 =
        (c'.receiptPayload.authorization.registration P).1 := by
      simp only [registration, hw, hn]
    exact congrArg Prod.snd (List.inj_on_of_nodup_map nodup_registrations hr hr' hid)
  · -- one registration stands for both claims
    obtain ⟨r, hr, hid⟩ := exists_registration (P := P) hc
    obtain ⟨d, hd, rfl⟩ := exists_claim_of_mem_registrations hr
    obtain ⟨hw', hn'⟩ := hfree.eq_of_registration_eq hd hc hid
    have how := h c hc _ hr hw' hn'
    have ho := h c' hc' _ hr (hw'.trans hw) (hn'.trans hn)
    exact how.symm.trans ho
  · obtain ⟨d, hd, rfl⟩ := exists_claim_of_mem_registrations hr
    exact h d hd c hc hw hn

/-! ## Two sessions under one nonce -/

/-- The second claim of `pairBatch`, under the given nonce of the same wallet and for the session key `[2]`. -/
def rekeyedClaim (nonce : Bytes32) : ReceiptSettlementClaim where
  receiptPayload :=
    { authorization := ⟨⟨1, 1, 1, 1, [2], maxReceiptSessionChargeWei, 0, 1000, nonce⟩, ⟨0, 1, 1⟩⟩
      acknowledgedReceipt := ⟨⟨⟨1, 3, 1, .exit, [9], 2, 0, 1, 0, 0, 7⟩, [0]⟩, [2], [0]⟩ }
  providerSettlement := (sampleClaim 3 7).providerSettlement

/-- A batch of two sessions of one wallet. -/
def rekeyedBatch (nonce : Bytes32) : ReceiptSettlementBatch := { pairBatch with
    claims := [sampleClaim 2 5, rekeyedClaim nonce]
    contractClaims := [⟨2, 1, 1, 1, 5⟩, ⟨3, nonce, 1, 1, 7⟩] }

/-- Under two nonces both authorizations are submitted. -/
theorem claims_submitted_two_nonces : (rekeyedBatch 2).verifyExported lastByte 30 ⟨[9], []⟩ = .ok () ∧
    ∀ c ∈ (rekeyedBatch 2).claims, Submitted lastByte (rekeyedBatch 2) 0 c := by
  have hv : (rekeyedBatch 2).verifyExported lastByte 30 ⟨[9], []⟩ = .ok () := by decide +kernel
  have hf : SessionIdsFree lastByte (rekeyedBatch 2).claims := by
    have hcl : ∀ c ∈ (rekeyedBatch 2).claims, ∀ c' ∈ (rekeyedBatch 2).claims,
        (c.receiptPayload.authorization.registration lastByte).1 =
          (c'.receiptPayload.authorization.registration lastByte).1 → c = c' := by decide +kernel
    rintro _ ⟨c, hc, rfl⟩ _ ⟨c', hc', rfl⟩ heq
    rw [hcl c hc c' hc' heq]
  have ho : OneAuthorizationPerNonce (rekeyedBatch 2) := by
    unfold OneAuthorizationPerNonce
    decide
  exact ⟨hv, (claims_submitted_with_authorization lastByte _ 30 0 ⟨[9], []⟩ hf hv).1.2 ho⟩

/-- Under one nonce the batch is accepted, but one authorization is registered for both sessions. -/
theorem one_nonce_two_sessions : (rekeyedBatch 1).verifyExported lastByte 30 ⟨[9], []⟩ = .ok () ∧
    ((rekeyedBatch 1).registrations lastByte).map (·.2.policy.payerSessionPublicKey) = [[1]] ∧
    rekeyedClaim 1 ∈ (rekeyedBatch 1).claims ∧ ¬Submitted lastByte (rekeyedBatch 1) 0 (rekeyedClaim 1) := by
  have hv : (rekeyedBatch 1).verifyExported lastByte 30 ⟨[9], []⟩ = .ok () := by decide +kernel
  have hk : ((rekeyedBatch 1).registrations lastByte).map (·.2.policy.payerSessionPublicKey) = [[1]] := by
    decide +kernel
  have hm : rekeyedClaim 1 ∈ (rekeyedBatch 1).claims := by decide
  refine ⟨hv, hk, hm, fun h => ?_⟩
  have hr := List.mem_map_of_mem (f := fun r : Registration => r.2.policy.payerSessionPublicKey)
    (h.mem_registrations hv hm)
  rw [hk] at hr
  exact absurd hr (by decide)

end ReceiptSettlementBatch

end MasqMobile
