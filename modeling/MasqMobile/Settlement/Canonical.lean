import MasqMobile.Settlement.Batch

/-!
# Settlement batches are canonical

A batch holds its claims in the order of their leaf hashes, and claims with one id are refused, so that no two claims
of a batch share a leaf hash and the order they came in is forgotten. `verifyExported` rebuilds a batch from the
claims and acceptance times that it holds; a built batch holds the pairs it was built from, in canonical order, and is
rebuilt to itself.

Everything but the acceptance times follows from the claims. The times are an input: the leaf hashes do not cover
them, and `verifyExported` asks of a time only that it is not in the future and that the payer's session was valid at
it.
-/

namespace MasqMobile

open Fallible Lists AuthorizedReceiptSession

variable {P : Primitives} {cr : CryptDE} {chainId now now' : Nat} {contract : Address}

namespace ReceiptSettlementClaim

variable {c : ReceiptSettlementClaim}

theorem Verifies.policy (h : c.Verifies P chainId contract now cr aa) :
    c.providerSettlement.policy.chainId = chainId ∧ c.providerSettlement.policy.settlementContract = contract := by
  obtain ⟨payout, hp⟩ := h.provider
  have hs := AuthorizedProviderSettlement.verify_spec hp
  exact ⟨hs.1, hs.2.1⟩

def ValidAt (c : ReceiptSettlementClaim) (time : Nat) : Prop :=
  c.receiptPayload.authorization.policy.validFromUnixS ≤ time ∧
    time ≤ c.receiptPayload.authorization.policy.expiresAtUnixS

/-- A claim that verifies for one time of acceptance verifies for exactly the times in its session's window. -/
theorem Verifies.at_iff {acceptedAt acceptedAt' : Nat} (h : c.Verifies P chainId contract now cr acceptedAt) :
    c.Verifies P chainId contract now cr acceptedAt' ↔ c.ValidAt acceptedAt' := by
  obtain ⟨charge, hp⟩ := h.payer
  obtain ⟨hr, ha, -, -, hl⟩ := verifyForReceipt_eq_ok_iff.1 hp
  constructor
  · rintro ⟨⟨charge', hp'⟩, -⟩
    obtain ⟨-, -, hf, hto, -⟩ := verifyForReceipt_eq_ok_iff.1 hp'
    exact ⟨hf, hto⟩
  · rintro ⟨hf, hto⟩
    exact ⟨⟨charge, verifyForReceipt_eq_ok_iff.2 ⟨hr, ha, hf, hto, hl⟩⟩, h.provider⟩

end ReceiptSettlementClaim

namespace ReceiptSettlementBatch

/-- No two of these claims have the same CBOR, and no two of the byte strings that are hashed for their leaves
have the same hash. -/
structure CollisionFree (P : Primitives) (claims : Set ReceiptSettlementClaim) : Prop where
  cbor : Set.InjOn P.claimCbor claims
  keccak : Set.InjOn P.keccak256 (ReceiptSettlementClaim.leafBytes P '' claims)

theorem CollisionFree.leafHash {claims : Set ReceiptSettlementClaim} (h : CollisionFree P claims) :
    Set.InjOn (ReceiptSettlementClaim.leafHash P) claims := by
  intro c hc c' hc' heq
  have hb := h.keccak ⟨c, hc, rfl⟩ ⟨c', hc', rfl⟩ heq
  exact h.cbor hc hc' (List.append_cancel_left hb)

variable {pairs pairs' : List (ReceiptSettlementClaim × Nat)} {b b' : ReceiptSettlementBatch}

/-! ## The order of the input -/

theorem Admissible.perm (h : Admissible P chainId contract now cr pairs) (hpe : pairs.Perm pairs') :
    Admissible P chainId contract now cr pairs' where
  nonempty hn := h.nonempty (List.Perm.eq_nil (hn ▸ hpe))
  inTime p hp := h.inTime p (hpe.mem_iff.2 hp)
  verifies p hp := h.verifies p (hpe.mem_iff.2 hp)
  distinct := (hpe.map _).nodup_iff.1 h.distinct

/-- Claims that share a leaf hash are one claim, and one claim occurs in one pair. -/
theorem Admissible.eq_of_leafHash_eq (h : Admissible P chainId contract now cr pairs)
    (hf : CollisionFree P {c | ∃ p ∈ pairs, p.1 = c}) :
    ∀ p ∈ pairs, ∀ q ∈ pairs, p.1.leafHash P = q.1.leafHash P → p = q := by
  intro p hp q hq heq
  have hc : p.1 = q.1 := hf.leafHash ⟨p, hp, rfl⟩ ⟨q, hq, rfl⟩ heq
  exact List.inj_on_of_nodup_map h.distinct hp hq (congrArg (·.claimId P) hc)

/-- **A build forgets the order of its input.** -/
theorem buildFromAccepted_perm (hf : CollisionFree P {c | ∃ p ∈ pairs, p.1 = c}) (hp : pairs.Perm pairs')
    (h : buildFromAccepted P pairs chainId contract now cr = .ok b) :
    buildFromAccepted P pairs' chainId contract now cr = .ok b := by
  obtain ⟨ha, hb⟩ := buildFromAccepted_eq_ok_iff.1 h
  have ho : canonicalOrder P pairs = canonicalOrder P pairs' := sortBy_eq_of_perm (ha.eq_of_leafHash_eq hf) hp
  exact buildFromAccepted_eq_ok_iff.2 ⟨ha.perm hp, ho ▸ hb⟩

/-! ## Rebuilding -/

theorem verifyExported_eq_ok_iff : b.verifyExported P now cr = .ok () ↔
    b.claims.length = b.claimAcceptedAtUnixS.length ∧
      buildFromAccepted P (b.claims.zip b.claimAcceptedAtUnixS) b.chainId b.settlementContract now cr = .ok b := by
  simp only [verifyExported, bind_eq_ok, failIf_eq_ok, not_not]
  constructor
  · rintro ⟨_, hl, _, hb, rfl⟩
    exact ⟨hl, hb⟩
  · rintro ⟨hl, hb⟩
    exact ⟨(), hl, _, hb, rfl⟩

theorem claimAcceptedAtUnixS_assemble (l : List (ReceiptSettlementClaim × Nat)) :
    (assemble P chainId contract (l.map (verifiedPair P)) t).claimAcceptedAtUnixS = l.map (·.2) := by
  simp only [assemble, List.map_map]
  rfl

theorem zip_of_buildFromAccepted (h : buildFromAccepted P pairs chainId contract now cr = .ok b) :
    b.claims.length = b.claimAcceptedAtUnixS.length ∧ b.claims.zip b.claimAcceptedAtUnixS = canonicalOrder P pairs := by
  obtain ⟨-, t, -, rfl⟩ := buildFromAccepted_eq_ok_iff.1 h
  rw [claims_assemble, claimAcceptedAtUnixS_assemble, List.length_map, List.length_map]
  exact ⟨rfl, (List.zip_of_prod rfl rfl).symm⟩

/-- **A batch is accepted exactly when it can be built.** -/
theorem verifyExported_iff_built (hf : CollisionFree P {c | c ∈ b.claims}) : b.verifyExported P now cr = .ok () ↔
      ∃ pairs chainId contract, buildFromAccepted P pairs chainId contract now cr = .ok b := by
  rw [verifyExported_eq_ok_iff]
  constructor
  · rintro ⟨-, hb⟩
    exact ⟨_, _, _, hb⟩
  · rintro ⟨pairs, chainId, contract, hb⟩
    obtain ⟨hl, hz⟩ := zip_of_buildFromAccepted hb
    have hs : b.chainId = chainId ∧ b.settlementContract = contract ∧
        b.claims = (canonicalOrder P pairs).map (·.1) := by
      obtain ⟨-, t, -, rfl⟩ := buildFromAccepted_eq_ok_iff.1 hb
      exact ⟨rfl, rfl, claims_assemble _ t⟩
    obtain ⟨rfl, rfl, hc⟩ := hs
    have hf' : CollisionFree P {c | ∃ p ∈ pairs, p.1 = c} := by
      simpa only [hc, List.mem_map, canonicalOrder, mem_sortBy] using hf
    exact ⟨hl, hz ▸ buildFromAccepted_perm hf' (sortBy_perm _ pairs).symm hb⟩

/-! ## What the claims determine -/

theorem assemble_eq_of_map_fst_eq (h : l.map (·.1) = l'.map (·.1)) (t : Totals) : assemble P chainId contract l t =
      { assemble P chainId contract l' t with claimAcceptedAtUnixS := l.map (·.2) } := by
  have hm : ∀ {β : Type} (f : VerifiedReceiptSettlementClaim → β), l.map (fun v => f v.1) = l'.map fun v => f v.1 := by
    intro β f
    have hf := congrArg (List.map f) h
    rwa [List.map_map, List.map_map] at hf
  simp only [assemble, hm (·.leafHash), hm (·.contractClaim P), hm (·.claim)]

theorem totals_eq_of_map_fst_eq (h : l.map (·.1) = l'.map (·.1)) : totals l = totals l' := by
  rw [totals_eq_fold, totals_eq_fold, h]

/-- Two batches of the same claims for the same contract differ in the acceptance times at most. -/
theorem eq_of_claims_eq (h : buildFromAccepted P pairs chainId contract now cr = .ok b)
    (h' : buildFromAccepted P pairs' chainId contract now' cr = .ok b') (hc : b'.claims = b.claims) :
    b' = { b with claimAcceptedAtUnixS := b'.claimAcceptedAtUnixS } := by
  obtain ⟨-, t, ht, rfl⟩ := buildFromAccepted_eq_ok_iff.1 h
  obtain ⟨-, t', ht', rfl⟩ := buildFromAccepted_eq_ok_iff.1 h'
  rw [claims_assemble, claims_assemble] at hc
  have hf : ((canonicalOrder P pairs').map (verifiedPair P)).map (·.1) =
      ((canonicalOrder P pairs).map (verifiedPair P)).map (·.1) := by
    rw [map_verifiedPair_fst, map_verifiedPair_fst, hc]
  have hto : t' = t := Except.ok.inj (ht'.symm.trans ((totals_eq_of_map_fst_eq hf).trans ht))
  rw [hto]
  exact assemble_eq_of_map_fst_eq hf t

/-- The claims of an accepted batch ascend by their leaf hashes, and the batch lists these hashes. -/
theorem ascending_of_verifyExported (h : b.verifyExported P now cr = .ok ()) :
    b.claims.Pairwise (fun c c' => c.leafHash P ≤ c'.leafHash P) ∧ b.leafHashes = b.claims.map (·.leafHash P) := by
  obtain ⟨-, t, -, hb⟩ := buildFromAccepted_eq_ok_iff.1 (verifyExported_eq_ok_iff.1 h).2
  rw [← hb, claims_assemble]
  refine ⟨List.pairwise_map.2 (pairwise_sortBy _ _), ?_⟩
  simp only [assemble, List.map_map]
  rfl

theorem policy_of_verifyExported (h : b.verifyExported P now cr = .ok ()) :
    b.claims ≠ [] ∧ ∀ c ∈ b.claims, c.providerSettlement.policy.chainId = b.chainId ∧
      c.providerSettlement.policy.settlementContract = b.settlementContract := by
  obtain ⟨hl, hb⟩ := verifyExported_eq_ok_iff.1 h
  obtain ⟨ha, -⟩ := buildFromAccepted_eq_ok_iff.1 hb
  refine ⟨fun hn => ha.nonempty (by simp [hn]), fun c hc => ?_⟩
  rw [← List.map_fst_zip (Nat.le_of_eq hl)] at hc
  obtain ⟨p, hp, rfl⟩ := List.mem_map.1 hc
  exact (ha.verifies p hp).policy

/-- **What an accepted batch commits to.** Another accepted batch with the same claims in any order, or with the
same leaf hashes, is the same batch but for the acceptance times. -/
theorem eq_of_verifyExported (hf : CollisionFree P {c | c ∈ b.claims ∨ c ∈ b'.claims})
    (h : b.verifyExported P now cr = .ok ()) (h' : b'.verifyExported P now' cr = .ok ())
    (hs : b'.claims.Perm b.claims ∨ b'.leafHashes = b.leafHashes) :
    b' = { b with claimAcceptedAtUnixS := b'.claimAcceptedAtUnixS } := by
  obtain ⟨ha, hh⟩ := ascending_of_verifyExported h
  obtain ⟨ha', hh'⟩ := ascending_of_verifyExported h'
  have hcl : b'.claims = b.claims := by
    rcases hs with hpe | hl
    · exact eq_of_perm_of_ascending (fun c hc c' hc' => hf.leafHash (.inr hc) (.inr hc')) hpe ha' ha
    · rw [hh, hh'] at hl
      refine List.ext_getElem (by simpa using congrArg List.length hl) fun i hi hi' => ?_
      have heq : (b'.claims.get ⟨i, hi⟩).leafHash P = (b.claims.get ⟨i, hi'⟩).leafHash P := by
        simpa [hi, hi'] using congrArg (·[i]?) hl
      exact hf.leafHash (.inr (List.getElem_mem hi)) (.inl (List.getElem_mem hi')) heq
  obtain ⟨hne, hp⟩ := policy_of_verifyExported h
  obtain ⟨c, hc⟩ := List.exists_mem_of_ne_nil _ hne
  have hp' := (policy_of_verifyExported h').2 c (hcl ▸ hc)
  have hch : b'.chainId = b.chainId := hp'.1.symm.trans (hp c hc).1
  have hco : b'.settlementContract = b.settlementContract := hp'.2.symm.trans (hp c hc).2
  have hb' := (verifyExported_eq_ok_iff.1 h').2
  rw [hch, hco] at hb'
  exact eq_of_claims_eq (verifyExported_eq_ok_iff.1 h).2 hb' hcl

/-- Admissible pairs stay so under other times of acceptance that are in time and in the sessions' windows. -/
theorem Admissible.retime (h : Admissible P chainId contract now cr pairs)
    (hc : pairs'.map (·.1) = pairs.map (·.1)) (ht : ∀ p ∈ pairs', p.2 ≤ now ∧ p.1.ValidAt p.2) :
    Admissible P chainId contract now cr pairs' where
  nonempty hn := h.nonempty (List.map_eq_nil_iff.1 (hc.symm.trans (hn ▸ rfl)))
  inTime p hp := (ht p hp).1
  verifies p hp := by
    have hcl : p.1 ∈ pairs.map (·.1) := hc ▸ List.mem_map_of_mem hp
    obtain ⟨q, hq, heq⟩ := List.mem_map.1 hcl
    have hv := h.verifies q hq
    rw [heq] at hv
    exact hv.at_iff.2 (ht p hp).2
  distinct := by
    have hid : ∀ l : List (ReceiptSettlementClaim × Nat), l.map (·.1.claimId P) = (l.map (·.1)).map (·.claimId P) := by
      intro l
      rw [List.map_map]
      rfl
    rw [hid, hc, ← hid]
    exact h.distinct

/-- **What the acceptance times are held to.** -/
theorem verifyExported_times_iff {times : List Nat} (h : b.verifyExported P now cr = .ok ()) :
    { b with claimAcceptedAtUnixS := times }.verifyExported P now cr = .ok () ↔
      b.claims.length = times.length ∧ ∀ p ∈ b.claims.zip times, p.2 ≤ now ∧ p.1.ValidAt p.2 := by
  obtain ⟨hl, hbu⟩ := verifyExported_eq_ok_iff.1 h
  obtain ⟨ha, t, ht, hb⟩ := buildFromAccepted_eq_ok_iff.1 hbu
  rw [verifyExported_eq_ok_iff, buildFromAccepted_eq_ok_iff]
  constructor
  · rintro ⟨hl', ha', -⟩
    refine ⟨hl', fun p hp => ⟨ha'.inTime p hp, ?_⟩⟩
    exact (ha'.verifies p hp).at_iff.1 (ha'.verifies p hp)
  · rintro ⟨hl', hti⟩
    have hf : (b.claims.zip times).map (·.1) = b.claims := List.map_fst_zip (Nat.le_of_eq hl')
    have hf' : (canonicalOrder P (b.claims.zip b.claimAcceptedAtUnixS)).map (·.1) = b.claims := by
      conv_rhs => rw [← hb, claims_assemble]
    -- the claims are in canonical order already, so the changed pairs keep theirs
    have ho : canonicalOrder P (b.claims.zip times) = b.claims.zip times := by
      have has := (ascending_of_verifyExported h).1
      rw [← hf, List.pairwise_map] at has
      exact sortBy_eq_self has
    have hs : ((b.claims.zip times).map (verifiedPair P)).map (·.1) =
        ((canonicalOrder P (b.claims.zip b.claimAcceptedAtUnixS)).map (verifiedPair P)).map (·.1) := by
      rw [map_verifiedPair_fst, map_verifiedPair_fst, hf, hf']
    have ha' := ha.retime (hf.trans (List.map_fst_zip (Nat.le_of_eq hl)).symm) hti
    refine ⟨hl', ha', t, ?_, ?_⟩
    · rw [ho, totals_eq_of_map_fst_eq hs, ht]
    · have hsn : ((b.claims.zip times).map (verifiedPair P)).map (·.2) = times := by
        rw [List.map_map]
        exact List.map_snd_zip (Nat.le_of_eq hl'.symm)
      rw [ho, assemble_eq_of_map_fst_eq hs, hb, hsn]

/-- **Batches are canonical.** A permuted input gives the same batch or fails too; a batch is accepted exactly when
it can be built; an accepted batch that has the claims or the leaf hashes of another one is that batch, except
that its acceptance times may be any that are not in the future and in the payers' sessions. -/
theorem batch_canonical (P : Primitives) (cr : CryptDE) :
    (∀ (chainId : Nat) (contract : Address) (now : Nat) (pairs pairs' : List (ReceiptSettlementClaim × Nat)),
      CollisionFree P {c | ∃ p ∈ pairs, p.1 = c} → pairs.Perm pairs' →
      (∃ b, buildFromAccepted P pairs chainId contract now cr = .ok b ∧
        buildFromAccepted P pairs' chainId contract now cr = .ok b) ∨
      ∃ e e', buildFromAccepted P pairs chainId contract now cr = .error e ∧
        buildFromAccepted P pairs' chainId contract now cr = .error e') ∧
    (∀ (b : ReceiptSettlementBatch) (now : Nat), CollisionFree P {c | c ∈ b.claims} →
      (b.verifyExported P now cr = .ok () ↔
        ∃ pairs chainId contract, buildFromAccepted P pairs chainId contract now cr = .ok b)) ∧
    (∀ (b b' : ReceiptSettlementBatch) (now now' : Nat), CollisionFree P {c | c ∈ b.claims ∨ c ∈ b'.claims} →
      b.verifyExported P now cr = .ok () → b'.verifyExported P now' cr = .ok () →
      (b'.claims.Perm b.claims ∨ b'.leafHashes = b.leafHashes) →
      b' = { b with claimAcceptedAtUnixS := b'.claimAcceptedAtUnixS }) ∧
    (∀ (b : ReceiptSettlementBatch) (now : Nat) (times : List Nat), b.verifyExported P now cr = .ok () →
      ({ b with claimAcceptedAtUnixS := times }.verifyExported P now cr = .ok () ↔
        b.claims.length = times.length ∧ ∀ p ∈ b.claims.zip times, p.2 ≤ now ∧ p.1.ValidAt p.2)) := by
  refine ⟨?_, fun b now => verifyExported_iff_built, fun b b' now now' => eq_of_verifyExported,
    fun b now times => verifyExported_times_iff⟩
  intro chainId contract now pairs pairs' hf hp
  cases hb : buildFromAccepted P pairs chainId contract now cr with
  | ok b => exact .inl ⟨b, rfl, buildFromAccepted_perm hf hp hb⟩
  | error e =>
    cases hb' : buildFromAccepted P pairs' chainId contract now cr with
    | error e' => exact .inr ⟨e, e', rfl, rfl⟩
    | ok b =>
      have hf' : CollisionFree P {c | ∃ p ∈ pairs', p.1 = c} := by
        simpa only [hp.mem_iff] using hf
      rw [buildFromAccepted_perm hf' hp.symm hb'] at hb
      cases hb

/-! ## Two claims -/

/-- Signatures verify, the CBOR of a claim is its route, and the hash of a byte string is its last byte. -/
def lastByte : Primitives := { Primitives.accepting with
    keccak256 := fun bytes => BitVec.ofNat 256 (bytes.getLastD 0).toNat
    claimCbor := fun c => [UInt8.ofNat c.receipt.routeEpoch.toNat] }

theorem lastByte_collisionFree : CollisionFree lastByte {c | c ∈ [sampleClaim 2 5, sampleClaim 3 7]} := by
  have hcb : ∀ c ∈ [sampleClaim 2 5, sampleClaim 3 7], ∀ c' ∈ [sampleClaim 2 5, sampleClaim 3 7],
      lastByte.claimCbor c = lastByte.claimCbor c' → c = c' := by decide
  have hk : ∀ c ∈ [sampleClaim 2 5, sampleClaim 3 7], ∀ c' ∈ [sampleClaim 2 5, sampleClaim 3 7],
      c.leafHash lastByte = c'.leafHash lastByte → c = c' := by decide +kernel
  refine ⟨hcb, ?_⟩
  rintro _ ⟨c, hc, rfl⟩ _ ⟨c', hc', rfl⟩ heq
  rw [hk c hc c' hc' heq]

/-- The batch of two claims under these primitives. -/
def pairBatch : ReceiptSettlementBatch where
  chainId := 1
  settlementContract := 1
  claims := [sampleClaim 2 5, sampleClaim 3 7]
  claimAcceptedAtUnixS := [10, 20]
  leafHashes := [2, 3]
  merkleRoot := 3
  payouts := [⟨1, 12⟩]
  totalClaimedWei := 12
  contractClaims := [⟨2, 1, 1, 1, 5⟩, ⟨3, 1, 1, 1, 7⟩]
  contractLeafHashes := [5, 7]
  contractMerkleRoot := 7

/-- The hypotheses hold of two claims: they give one batch in either order, and the batch is accepted. -/
theorem batch_canonical_two_claims :
    buildFromAccepted lastByte [(sampleClaim 3 7, 20), (sampleClaim 2 5, 10)] 1 1 30 ⟨[9], []⟩ = .ok pairBatch ∧
    pairBatch.verifyExported lastByte 30 ⟨[9], []⟩ = .ok () := by
  obtain ⟨hp, hbuil, -, -⟩ := batch_canonical lastByte ⟨[9], []⟩
  have hbu : buildFromAccepted lastByte [(sampleClaim 2 5, 10), (sampleClaim 3 7, 20)] 1 1 30 ⟨[9], []⟩ =
      .ok pairBatch := by decide +kernel
  have hs : {c | ∃ p ∈ [(sampleClaim 2 5, 10), (sampleClaim 3 7, 20)], p.1 = c} =
      {c | c ∈ [sampleClaim 2 5, sampleClaim 3 7]} := by
    ext c
    simp [eq_comm]
  refine ⟨?_, (hbuil pairBatch 30 lastByte_collisionFree).2 ⟨_, _, _, hbu⟩⟩
  rcases hp 1 1 30 _ _ (hs ▸ lastByte_collisionFree) (.swap (sampleClaim 3 7, 20) (sampleClaim 2 5, 10) []) with
    ⟨b, hb, hb'⟩ | ⟨e, e', he, -⟩
  · rw [hb', ← hbu, hb]
  · rw [hbu] at he
    cases he

/-- A batch of one claim that was accepted at this time. -/
def sampleBatch (acceptedAt : Nat) : ReceiptSettlementBatch where
  chainId := 1
  settlementContract := 1
  claims := [sampleClaim 2 5]
  claimAcceptedAtUnixS := [acceptedAt]
  leafHashes := [1]
  merkleRoot := 1
  payouts := [⟨1, 5⟩]
  totalClaimedWei := 5
  contractClaims := [⟨2, 1, 1, 1, 5⟩]
  contractLeafHashes := [1]
  contractMerkleRoot := 1

/-- Nothing in a batch commits to the time of acceptance: changed from 10 to 11, the batch is still accepted. -/
theorem batch_acceptance_time_unbound :
    buildFromAccepted .accepting [(sampleClaim 2 5, 10)] 1 1 30 ⟨[9], []⟩ = .ok (sampleBatch 10) ∧
    { sampleBatch 10 with claimAcceptedAtUnixS := [11] } ≠ sampleBatch 10 ∧
    { sampleBatch 10 with claimAcceptedAtUnixS := [11] }.verifyExported .accepting 30 ⟨[9], []⟩ = .ok () := by
  decide +kernel

end ReceiptSettlementBatch

end MasqMobile
