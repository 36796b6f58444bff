import MasqMobile.Settlement.Canonical

/-!
# What the Merkle roots of a batch commit to

Both roots are built by one scheme over two domains (`domainRoot`), and both bind their leaves: two lists of distinct
leaf hashes with one root are equal, whatever their lengths. Distinct leaves are what `from_verified` hands over,
because it refuses two claims of one id.

`keccak256` is asked to be free of collisions on the byte strings that are hashed, and no leaf to be the hash of a
byte string that is hashed for a node.
-/

namespace MasqMobile

open Fallible Lists

variable {P : Primitives} {cr : CryptDE} {chainId now : Nat} {contract : Address}

namespace ReceiptSettlementBatch

/-! ## The roots -/

/-- The byte strings that are hashed for the nodes of a tree over these leaves. -/
def nodeStrings (P : Primitives) (domain : String) (leaves : List Bytes32) : List (List UInt8) :=
  (MerkleTree.hashed (fun left right => P.keccak256 (nodeBytes domain left right)) leaves).map
    fun p => nodeBytes domain p.1 p.2

/-- Over these two lists no two nodes collide, and no leaf is the hash of a node. -/
structure NodesSeparated (P : Primitives) (domain : String) (leaves leaves' : List Bytes32) : Prop where
  keccak : Set.InjOn P.keccak256 {s | s ∈ nodeStrings P domain leaves ∨ s ∈ nodeStrings P domain leaves'}
  leaf_ne : ∀ x, x ∈ leaves ∨ x ∈ leaves' →
    ∀ s, s ∈ nodeStrings P domain leaves ∨ s ∈ nodeStrings P domain leaves' → x ≠ P.keccak256 s

theorem nodeBytes_injective {d : String} {p q : Bytes32 × Bytes32}
    (h : nodeBytes d p.1 p.2 = nodeBytes d q.1 q.2) : p = q := by
  simp only [nodeBytes, List.append_assoc] at h
  obtain ⟨hl, hr⟩ := wordBytes_append_inj (List.append_cancel_left h)
  exact Prod.ext hl (wordBytes_injective hr)

/-- **A root binds its leaves.** -/
theorem domainRoot_injective {d : String} {leaves leaves' : List Bytes32} (hne : leaves ≠ []) (hne' : leaves' ≠ [])
    (hnd : leaves.Nodup) (hnd' : leaves'.Nodup) (hsep : NodesSeparated P d leaves leaves')
    (h : domainRoot P d leaves = domainRoot P d leaves') : leaves = leaves' := by
  let node := fun left right => P.keccak256 (nodeBytes d left right)
  have hs : ∀ {p : Bytes32 × Bytes32}, p ∈ MerkleTree.hashed node leaves ∨ p ∈ MerkleTree.hashed node leaves' →
      nodeBytes d p.1 p.2 ∈ nodeStrings P d leaves ∨ nodeBytes d p.1 p.2 ∈ nodeStrings P d leaves' :=
    .imp (fun hp => List.mem_map_of_mem hp) (fun hp => List.mem_map_of_mem hp)
  have hse : MerkleTree.Separated node {x | x ∈ leaves ∨ x ∈ leaves'}
      {p | p ∈ MerkleTree.hashed node leaves ∨ p ∈ MerkleTree.hashed node leaves'} :=
    ⟨fun p hp q hq heq => nodeBytes_injective (hsep.keccak (hs hp) (hs hq) heq),
      fun x hx p hp => hsep.leaf_ne x hx _ (hs hp)⟩
  obtain ⟨x, hr⟩ : ∃ x, MerkleTree.root node leaves = some x := MerkleTree.exists_root hne
  obtain ⟨x', hr'⟩ : ∃ x, MerkleTree.root node leaves' = some x := MerkleTree.exists_root hne'
  have heq : x = x' := by
    simp only [domainRoot] at h
    rwa [hr, hr'] at h
  exact MerkleTree.eq_of_root_eq hse (fun p hp => .inl hp) (fun p hp => .inr hp)
    (fun x hx => .leaf (.inl hx)) (fun x hx => .leaf (.inr hx)) hne hne' hnd hnd'
    (by rw [hr, hr', heq])

/-! ## The leaves -/

/-- No two of the byte strings that are hashed for these claims on the contract have the same hash. -/
def ContractCollisionFree (P : Primitives) (chainId : Nat) (contract : Address)
    (claims : Set ReceiptSettlementClaim) : Prop :=
  Set.InjOn P.keccak256 ((fun c => ((c.verified P).contractClaim P).leafBytes chainId contract) '' claims)

theorem claimId_of_leafBytes_eq {c d : ReceiptSettlementContractClaim}
    (h : c.leafBytes chainId contract = d.leafBytes chainId contract) : c.claimId = d.claimId :=
  (wordBytes_append_inj (List.append_cancel_left h)).1

variable {ps : List (ReceiptSettlementClaim × Nat)} {b : ReceiptSettlementBatch}

theorem nodup_leafHashes (hf : CollisionFree P {c | ∃ p ∈ ps, p.1 = c})
    (h : buildFromAccepted P ps chainId contract now cr = .ok b) : b.leafHashes.Nodup := by
  obtain ⟨ha, t, -, rfl⟩ := buildFromAccepted_eq_ok_iff.1 h
  have hin : (ps.map (·.1.leafHash P)).Nodup := ha.distinct.of_map.map_on (ha.eq_of_leafHash_eq hf)
  have hp : (((canonicalOrder P ps).map (verifiedPair P)).map (·.1.leafHash)).Perm (ps.map (·.1.leafHash P)) := by
    rw [List.map_map]
    exact (sortBy_perm _ ps).map _
  exact hp.nodup_iff.2 hin

theorem nodup_contractLeafHashes (hf : ContractCollisionFree P chainId contract {c | ∃ p ∈ ps, p.1 = c})
    (h : buildFromAccepted P ps chainId contract now cr = .ok b) : b.contractLeafHashes.Nodup := by
  obtain ⟨ha, t, -, rfl⟩ := buildFromAccepted_eq_ok_iff.1 h
  have hin : ((ps.map fun p => (p.1.verified P).contractClaim P).map (·.leafHash P chainId contract)).Nodup := by
    rw [List.map_map]
    refine ha.distinct.of_map.map_on fun p hp q hq heq => ?_
    have hb := hf ⟨p.1, ⟨p, hp, rfl⟩, rfl⟩ ⟨q.1, ⟨q, hq, rfl⟩, rfl⟩ heq
    exact List.inj_on_of_nodup_map ha.distinct hp hq (claimId_of_leafBytes_eq hb)
  have hpe : (sortBy (·.leafHash P chainId contract)
      (((canonicalOrder P ps).map (verifiedPair P)).map (·.1.contractClaim P))).Perm
      (ps.map fun p => (p.1.verified P).contractClaim P) := by
    refine (sortBy_perm _ _).trans ?_
    rw [List.map_map]
    exact (sortBy_perm _ ps).map _
  exact (hpe.map (·.leafHash P chainId contract)).nodup_iff.2 hin

/-- **The Merkle commitment is binding.** Two lists of distinct leaf hashes with the same root are the same list, for
the portable tree and for the contract's, and the lists that a build hashes are of distinct leaves. -/
theorem merkle_commitment_binding (P : Primitives) :
    (∀ leaves leaves' : List Bytes32, leaves ≠ [] → leaves' ≠ [] → leaves.Nodup → leaves'.Nodup →
      NodesSeparated P "MASQ_SETTLEMENT_NODE_V1\x00" leaves leaves' →
      MasqMobile.merkleRoot P leaves = MasqMobile.merkleRoot P leaves' → leaves = leaves') ∧
    (∀ leaves leaves' : List Bytes32, leaves ≠ [] → leaves' ≠ [] → leaves.Nodup → leaves'.Nodup →
      NodesSeparated P "MASQ_ONCHAIN_SETTLEMENT_NODE_V1\x00" leaves leaves' →
      MasqMobile.contractMerkleRoot P leaves = MasqMobile.contractMerkleRoot P leaves' → leaves = leaves') ∧
    (∀ (ps : List (ReceiptSettlementClaim × Nat)) (chainId : Nat) (contract : Address) (now : Nat)
      (cr : CryptDE) (b : ReceiptSettlementBatch), CollisionFree P {c | ∃ p ∈ ps, p.1 = c} →
      ContractCollisionFree P chainId contract {c | ∃ p ∈ ps, p.1 = c} →
      buildFromAccepted P ps chainId contract now cr = .ok b →
      b.leafHashes.Nodup ∧ b.contractLeafHashes.Nodup) ∧
    (∀ (claims : List ReceiptSettlementClaim) (chainId : Nat) (contract : Address) (now : Nat) (cr : CryptDE)
      (b : ReceiptSettlementBatch), CollisionFree P {c | c ∈ claims} →
      ContractCollisionFree P chainId contract {c | c ∈ claims} →
      build P claims chainId contract now cr = .ok b → b.leafHashes.Nodup ∧ b.contractLeafHashes.Nodup) := by
  refine ⟨fun leaves leaves' hne hne' hnd hnd' => domainRoot_injective hne hne' hnd hnd',
    fun leaves leaves' hne hne' hnd hnd' => domainRoot_injective hne hne' hnd hnd', ?_, ?_⟩
  · intro ps chainId contract now cr b hf hc h
    exact ⟨nodup_leafHashes hf h, nodup_contractLeafHashes hc h⟩
  · intro claims chainId contract now cr b hf hc h
    rw [build_eq_buildFromAccepted] at h
    have hcl : {c | ∃ p ∈ claims.map fun c => (c, now), p.1 = c} = {c | c ∈ claims} := by
      ext c
      simp
    rw [← hcl] at hf hc
    exact ⟨nodup_leafHashes hf h, nodup_contractLeafHashes hc h⟩

/-- The hash of a byte string is its last byte, raised above the leaves below. -/
def raisedByte : Primitives :=
  { Primitives.accepting with keccak256 := fun bytes => BitVec.ofNat 256 (100 + (bytes.getLastD 0).toNat) }

theorem le_raisedByte (byt : List UInt8) : 100 ≤ (raisedByte.keccak256 byt).toNat := by
  have hb := (byt.getLastD 0).toNat_lt
  simp only [raisedByte, BitVec.toNat_ofNat]
  omega

/-- The hypotheses hold of three leaves and of their first two, whose roots therefore differ, and of a batch of two
claims. -/
theorem merkle_commitment_binding_three_leaves :
    MasqMobile.merkleRoot raisedByte [2, 3, 4] ≠ MasqMobile.merkleRoot raisedByte [2, 3] ∧
    MasqMobile.contractMerkleRoot raisedByte [2, 3, 4] ≠ MasqMobile.contractMerkleRoot raisedByte [2, 3] ∧
    pairBatch.leafHashes.Nodup ∧ pairBatch.contractLeafHashes.Nodup := by
  have hse : ∀ domain ∈ ["MASQ_SETTLEMENT_NODE_V1\x00", "MASQ_ONCHAIN_SETTLEMENT_NODE_V1\x00"],
      NodesSeparated raisedByte domain [2, 3, 4] [2, 3] := by
    intro domain hd
    have hk : ∀ domain ∈ ["MASQ_SETTLEMENT_NODE_V1\x00", "MASQ_ONCHAIN_SETTLEMENT_NODE_V1\x00"],
        ∀ s ∈ nodeStrings raisedByte domain [2, 3, 4] ++ nodeStrings raisedByte domain [2, 3],
        ∀ s' ∈ nodeStrings raisedByte domain [2, 3, 4] ++ nodeStrings raisedByte domain [2, 3],
        raisedByte.keccak256 s = raisedByte.keccak256 s' → s = s' := by decide +kernel
    have hl : ∀ x ∈ ([2, 3, 4] ++ [2, 3] : List Bytes32), x.toNat < 100 := by simp
    exact ⟨fun s hs s' hs' => hk domain hd s (List.mem_append.2 hs) s' (List.mem_append.2 hs'),
      fun x hx s _ heq => absurd (hl x (List.mem_append.2 hx)) (Nat.not_lt.2 (heq ▸ le_raisedByte s))⟩
  have hco : ContractCollisionFree lastByte 1 1 {c | c ∈ [sampleClaim 2 5, sampleClaim 3 7]} := by
    have hk : ∀ c ∈ [sampleClaim 2 5, sampleClaim 3 7], ∀ c' ∈ [sampleClaim 2 5, sampleClaim 3 7],
        ((c.verified lastByte).contractClaim lastByte).leafHash lastByte 1 1 =
          ((c'.verified lastByte).contractClaim lastByte).leafHash lastByte 1 1 → c = c' := by decide +kernel
    rintro _ ⟨c, hc, rfl⟩ _ ⟨c', hc', rfl⟩ heq
    rw [hk c hc c' hc' heq]
  have hb : build lastByte [sampleClaim 2 5, sampleClaim 3 7] 1 1 30 ⟨[9], []⟩ =
      .ok { pairBatch with claimAcceptedAtUnixS := [30, 30] } := by decide +kernel
  obtain ⟨hr, hcon, -, hle⟩ := merkle_commitment_binding raisedByte
  refine ⟨fun h => ?_, fun h => ?_, ?_⟩
  · have := hr [2, 3, 4] [2, 3] (by decide) (by decide) (by decide) (by decide) (hse _ (by simp)) h
    simp at this
  · have := hcon [2, 3, 4] [2, 3] (by decide) (by decide) (by decide) (by decide) (hse _ (by simp)) h
    simp at this
  · exact (merkle_commitment_binding lastByte).2.2.2 _ 1 1 30 ⟨[9], []⟩
      { pairBatch with claimAcceptedAtUnixS := [30, 30] } lastByte_collisionFree hco hb

end ReceiptSettlementBatch

end MasqMobile
