import MasqMobile.Receipt.Digests
import MasqMobile.Settlement.Batcher
import MasqMobile.Settlement.Canonical
import MasqMobile.Settlement.Conservation
import MasqMobile.Settlement.Registrations

/-!
# The batcher's manifest is validated by its reader

`prepareRpcBoundSubmissionManifest` writes a manifest from a verified batch, `validateTrackingManifest` reads it back
from its texts alone: it parses the hashes, decodes the calldata and derives counts, sessions and the total again.
-/

namespace MasqMobile

open Fallible Lists Abi ReceiptSettlementBatch

variable {P : Primitives}

/-! ## Texts -/

theorem toList_hexText : (hexText byt).toList = '0' :: 'x' :: (toHex byt).toList := by
  rw [hexText, String.toList_append]
  rfl

theorem parseFixedBytes_hexText (hh : P.HexDecodes) {size : Nat} {bytes : List UInt8} (hl : bytes.length = size)
    (f : String) : parseFixedBytes P size (hexText bytes) f = .ok bytes := by
  have hs : (hexText bytes).utf8ByteSize = 2 + 2 * size := by
    rw [hexText, String.utf8ByteSize_append, utf8ByteSize_toHex, hl]
    rfl
  have hd : String.ofList ((hexText bytes).toList.drop 2) = toHex bytes := by
    simp [toList_hexText]
  simp only [parseFixedBytes, bind_eq_ok, failIf_eq_ok, mapErr_eq_ok, pure_eq_ok, not_or, not_not]
  exact ⟨(), ⟨hs, by simp [toList_hexText]⟩, bytes, hd ▸ hh bytes, (), hl, rfl⟩

theorem parseHash_hexText (hh : P.HexDecodes) (hash : Bytes32) (f : String) :
    parseHash P (hexText (wordBytes hash)) f = .ok hash := by
  simp only [parseHash, parseFixedBytes_hexText hh (length_wordBytes hash), bind_eq_ok, pure_eq_ok,
    Except.ok.injEq, exists_eq_left', ofBytes_wordBytes]

theorem parseAddress_hexText (hh : P.HexDecodes) (address : Address) (f : String) :
    parseAddress P (hexText (addressBytes address)) f = .ok address := by
  simp only [parseAddress, parseFixedBytes_hexText hh (length_addressBytes address), bind_eq_ok, pure_eq_ok,
    Except.ok.injEq, exists_eq_left', ofBytes_addressBytes]

theorem parsePrefixedHex_hexText (hh : P.HexDecodes) (bytes : List UInt8) (f : String) :
    parsePrefixedHex P (hexText bytes) f = .ok bytes := by
  have hd : String.ofList ((hexText bytes).toList.drop 2) = toHex bytes := by
    simp [toList_hexText]
  simp only [parsePrefixedHex, bind_eq_ok, failIf_eq_ok, mapErr_eq_ok, not_not, hd, utf8ByteSize_toHex]
  exact ⟨(), by simp [toList_hexText], (), by omega, hh bytes⟩

/-- Reading decimal digits neither overflows nor goes wrong where their number fits. -/
theorem foldlM_digits (d : List Char) (n : Nat) (hf : Nat.ofDigitChars 10 d n < 2 ^ 256) :
    d.foldlM (fun n c => (checkedMul 256 10 n).bind fun tens => checkedAdd 256 tens (c.toNat - '0'.toNat)) n =
      some (Nat.ofDigitChars 10 d n) := by
  induction d generalizing n with
  | nil => rfl
  | cons c d ih =>
    rw [Nat.ofDigitChars_cons] at hf ⊢
    have hle : 10 * n + (c.toNat - '0'.toNat) ≤ Nat.ofDigitChars 10 d (10 * n + (c.toNat - '0'.toNat)) := by
      rw [Nat.ofDigitChars_eq_ofDigitChars_zero]
      have hp : 0 < 10 ^ d.length := Nat.pow_pos (by omega)
      have := Nat.le_mul_of_pos_left (10 * n + (c.toNat - '0'.toNat)) hp
      omega
    have hs : ((checkedMul 256 10 n).bind fun tens => checkedAdd 256 tens (c.toNat - '0'.toNat)) =
        some (10 * n + (c.toNat - '0'.toNat)) := by
      have hm : checkedMul 256 10 n = some (10 * n) := checkedMul_eq_some_iff.2 ⟨by omega, rfl⟩
      rw [hm, Option.bind_some]
      exact checkedAdd_eq_some_iff.2 ⟨by omega, rfl⟩
    rw [List.foldlM_cons, hs]
    exact ih _ hf

theorem fromDecStr_repr (h : n < 2 ^ 256) : fromDecStr n.repr = some n := by
  have hd : (Nat.toDigits 10 n).all Char.isDigit := by
    simp only [List.all_eq_true]
    exact fun c hc => Nat.isDigit_of_mem_toDigits (by decide) (by decide) hc
  have hv : Nat.ofDigitChars 10 (Nat.toDigits 10 n) 0 = n := Nat.ofDigitChars_ten_toDigits
  rw [fromDecStr, Nat.toList_repr, if_pos hd, foldlM_digits _ _ (by rwa [hv]), hv]

/-! ## Tokens -/

theorem ReceiptSessionPolicy.InRange.hasType {p : ReceiptSessionPolicy} (h : p.InRange) :
    HasType (.tuple [.uint 16, .address, .bytes, .uint 256, .uint 64, .uint 64, .fixedBytes 32]) p.token := by
  have hm : p.maxTotalChargeWei < 2 ^ 256 := Nat.lt_trans h.maxTotalChargeWei (by decide)
  have hn : (wordBytes p.authorizationNonce).length = 32 := length_wordBytes _
  exact .tuple (.cons (.uint h.protocolVersion) (.cons (.address _) (.cons (.bytes _) (.cons (.uint hm)
    (.cons (.uint h.validFromUnixS) (.cons (.uint h.expiresAtUnixS) (.cons (.fixedBytes hn) .nil)))))))

variable {c : ReceiptSettlementContractClaim}

theorem ReceiptSettlementContractClaim.hasType (h : c.cumulativeChargeWei < 2 ^ 128) :
    HasType (.tuple [.fixedBytes 32, .fixedBytes 32, .address, .address, .uint 128]) c.token :=
  .tuple (.cons (.fixedBytes (length_wordBytes _)) (.cons (.fixedBytes (length_wordBytes _))
    (.cons (.address _) (.cons (.address _) (.cons (.uint h) .nil)))))

/-- The reader derives from the tokens of an authorization the session id under which it was registered. -/
theorem registeredSessionId_token {a : AuthorizedReceiptSession} (hv : a.walletSignature.v ≤ 1) :
    registeredSessionId P a.policy.token a.walletSignature.token = .ok (a.registration P).1 := by
  have hl : a.walletSignature.v + 27 = 27 ∨ a.walletSignature.v + 27 = 28 := by
    have hle := UInt8.le_iff_toNat_le.1 hv
    rw [← UInt8.toNat_inj, ← UInt8.toNat_inj, UInt8.toNat_add]
    simp at hle ⊢
    omega
  simp only [registeredSessionId, bind_eq_ok, okOr_eq_ok, pure_eq_ok]
  refine ⟨_, rfl, _, rfl, wordBytes a.policy.authorizationNonce, ?_,
    wordBytes a.walletSignature.r ++ (wordBytes a.walletSignature.s ++ [a.walletSignature.v + 27]), ?_, ?_⟩
  · exact Option.filter_eq_some_iff.2 ⟨rfl, by simp⟩
  · exact Option.filter_eq_some_iff.2 ⟨rfl, by simpa using hl⟩
  · rw [ofBytes_wordBytes]
    rfl

theorem claimedSession_token {ids : List Bytes32} (hf : t + c.cumulativeChargeWei < 2 ^ 256) :
    claimedSession (t, ids) (c.token, c.claimId) = .ok (t + c.cumulativeChargeWei, ids ++ [c.sessionId]) := by
  simp only [claimedSession, bind_eq_ok, okOr_eq_ok, failIf_eq_ok, pure_eq_ok, not_not]
  refine ⟨_, rfl, _, rfl, (), rfl, wordBytes c.sessionId, ?_, _, rfl, _, checkedAdd_eq_some_iff.2 ⟨hf, rfl⟩, ?_⟩
  · exact Option.filter_eq_some_iff.2 ⟨rfl, by simp⟩
  · rw [ofBytes_wordBytes]

theorem foldlM_claimedSession (c : List ReceiptSettlementContractClaim) (t : Nat) (ids : List Bytes32)
    (hf : t + (c.map (·.cumulativeChargeWei)).sum < 2 ^ 256) :
    ((c.map (·.token)).zip (c.map (·.claimId))).foldlM claimedSession (t, ids) =
      .ok (t + (c.map (·.cumulativeChargeWei)).sum, ids ++ c.map (·.sessionId)) := by
  induction c generalizing t ids with
  | nil => simp [pure, Except.pure]
  | cons claim c ih =>
    simp only [List.map_cons, List.sum_cons] at hf
    simp only [List.map_cons, List.zip_cons_cons, List.foldlM_cons, List.sum_cons]
    rw [claimedSession_token (by omega)]
    refine (ih _ _ (by omega)).trans ?_
    rw [Nat.add_assoc, List.append_assoc, List.singleton_append]

/-! ## The batch -/

namespace ReceiptSettlementBatch

variable {b : ReceiptSettlementBatch} {cryptde : CryptDE} {now sequence : Nat}

theorem registration_fst (hr : r ∈ b.registrations P) : (r.2.registration P).1 = r.1 := by
  obtain ⟨c, -, rfl⟩ := exists_claim_of_mem_registrations hr
  rfl

theorem length_registrations (hne : b.claims ≠ []) :
    (b.registrations P).length ≠ 0 ∧ (b.registrations P).length ≤ b.claims.length := by
  constructor
  · obtain ⟨c, hc⟩ := List.exists_mem_of_ne_nil _ hne
    obtain ⟨r, hr, -⟩ := exists_registration (P := P) hc
    exact fun hl => List.ne_nil_of_mem hr (List.length_eq_zero_iff.1 hl)
  · have hs := (dedupBy_sublist (·.1)
      (sortBy (·.1) (b.claims.map (·.receiptPayload.authorization.registration P)))).length_le
    rwa [(sortBy_perm _ _).length_eq, List.length_map] at hs

/-- The contract's claims are under exactly the session ids that are registered. -/
theorem sessionIds_iff (h : Conserves P b) (id : Bytes32) :
    id ∈ b.contractClaims.map (·.sessionId) ↔ id ∈ (b.registrations P).map (·.1) := by
  have hid : id ∈ b.contractClaims.map (·.sessionId) ↔
      ∃ c ∈ b.claims, (c.receiptPayload.authorization.registration P).1 = id := by
    rw [(h.projections.map _).mem_iff, List.map_map, List.mem_map]
    rfl
  rw [hid, List.mem_map]
  constructor
  · rintro ⟨c, hc, rfl⟩
    exact exists_registration hc
  · rintro ⟨r, hr, rfl⟩
    obtain ⟨c, hc, rfl⟩ := exists_claim_of_mem_registrations hr
    exact ⟨c, hc, rfl⟩

/-- What the reader of a manifest relies on. -/
structure Readable (P : Primitives) (b : ReceiptSettlementBatch) : Prop where
  conserves : Conserves P b
  nonempty : b.claims ≠ []
  bounded : b.claims.length ≤ maxBatcherClaims
  distinct : (b.contractClaims.map (·.claimId)).Nodup
  fits : b.totalClaimedWei < 2 ^ 128
  chain : b.chainId ≠ 0
  contract : b.settlementContract ≠ 0
  recoveryId : ∀ c ∈ b.claims, c.receiptPayload.authorization.walletSignature.v ≤ 1
  inRange : ∀ c ∈ b.claims, c.receiptPayload.authorization.policy.InRange

variable (h : Readable P b)
include h

theorem Readable.length_contractClaims : b.contractClaims.length = b.claims.length := by
  rw [h.conserves.projections.length_eq, List.length_map]

theorem Readable.hasType_submissionTokens (hs : sequence < 2 ^ 64) :
    List.Forall₂ HasType submissionTypes (b.submissionTokens P sequence) := by
  have hch : ∀ claim ∈ b.contractClaims, claim.cumulativeChargeWei < 2 ^ 128 := fun claim hcl =>
    Nat.lt_of_le_of_lt (List.le_sum_of_mem (List.mem_map_of_mem hcl)) (h.conserves.totalOnContract ▸ h.fits)
  refine .cons (.array fun t ht => ?_) (.cons (.array fun t ht => ?_) (.cons (.uint hs)
    (.cons (.fixedBytes (length_wordBytes _)) (.cons (.array fun t ht => ?_) .nil))))
  · obtain ⟨r, hr, rfl⟩ := List.mem_map.1 ht
    obtain ⟨c, hc, rfl⟩ := exists_claim_of_mem_registrations hr
    exact (h.inRange c hc).hasType
  · obtain ⟨r, -, rfl⟩ := List.mem_map.1 ht
    exact .bytes _
  · obtain ⟨claim, hcl, rfl⟩ := List.mem_map.1 ht
    exact ReceiptSettlementContractClaim.hasType (hch claim hcl)

/-- The reader finds in the tokens the sessions, the claims and the total of the batch. -/
theorem Readable.validateTokens_submission (hcn : ma.claimCount = b.contractClaims.length)
    (hse : ma.batchSequence = sequence)
    (ht : ma.totalCumulativeChargeWei = b.totalClaimedWei.repr) :
    validateTokens P ma (b.contractClaims.map (·.claimId)) b.contractMerkleRoot
      (b.submissionTokens P sequence) = .ok () := by
  obtain ⟨hs, hle⟩ := length_registrations (P := P) h.nonempty
  have hl := h.length_contractClaims
  have hb := h.bounded
  have hre : (((b.registrations P).map (·.2.policy.token)).zip
      ((b.registrations P).map (·.2.walletSignature.token))).mapM (fun p => registeredSessionId P p.1 p.2) =
        .ok ((b.registrations P).map (·.1)) := by
    rw [List.zip_map', List.mapM_map]
    refine mapM_eq_ok_of_forall fun r hr => ?_
    obtain ⟨c, hc, hr'⟩ := exists_claim_of_mem_registrations hr
    rw [← registration_fst hr]
    exact registeredSessionId_token (hr' ▸ h.recoveryId c hc)
  have hcl := foldlM_claimedSession b.contractClaims 0 []
    (by rw [← h.conserves.totalOnContract]; have := h.fits; omega)
  rw [← h.conserves.totalOnContract, Nat.zero_add, List.nil_append] at hcl
  have hses : sortDedup (b.contractClaims.map (·.sessionId)) = sortDedup ((b.registrations P).map (·.1)) :=
    dedupBy_sortBy_eq (sessionIds_iff h.conserves)
  have hu : (sortDedup ((b.registrations P).map (·.1))).length = (b.registrations P).length := by
    rw [sortDedup, length_dedupBy_sortBy nodup_registrations, List.length_map]
  simp only [validateTokens, bind_eq_ok, okOr_eq_ok, failIf_eq_ok, not_or, not_not]
  refine ⟨_, rfl, _, rfl, (), ⟨by simp, by simpa using hs, ?_, ?_⟩, _, hre, (), by simpa using hu,
    _, rfl, (), hse.symm, _, rfl, (), rfl, _, rfl, (), by simp [hcn], _, hcl, (), hses,
    b.totalClaimedWei, ?_, rfl⟩
  · simp only [List.length_map]
    omega
  · simp only [List.length_map]
    omega
  · rw [ht]
    exact fromDecStr_repr (Nat.lt_trans h.fits (by decide))

omit h in
/-- A batch that passes `verifyExported` is readable, if it holds values of the source's integer types. -/
theorem readable_of_verifyExported (hv : b.verifyExported P now cryptde = .ok ())
    (hbo : b.claims.length ≤ maxBatcherClaims)
    (hrn : ∀ c ∈ b.claims, c.receiptPayload.authorization.policy.InRange)
    (hr : ∀ sig d key, P.recover sig d = some key → sig.v ≤ 1) : Readable P b := by
  obtain ⟨hl, hb⟩ := verifyExported_eq_ok_iff.1 hv
  obtain ⟨ha, -⟩ := buildFromAccepted_eq_ok_iff.1 hb
  obtain ⟨hco, hp⟩ := conserves_of_buildFromAccepted hb
  have hz : ∀ {β : Type} (f : ReceiptSettlementClaim → β),
      (b.claims.zip b.claimAcceptedAtUnixS).map (fun p => f p.1) = b.claims.map f := fun f => by
    conv_rhs => rw [← List.map_fst_zip (Nat.le_of_eq hl), List.map_map]
    rfl
  have hne : b.claims ≠ [] := fun hn => ha.nonempty (by rw [hn, List.zip_nil_left])
  obtain ⟨c, hc⟩ := List.exists_mem_of_ne_nil _ hne
  have hau := authentic_of_verifyExported hv hc
  have hs := hau.wellFormed
  simp only [ReceiptSessionPolicy.validateStructure, bind_eq_ok, failIf_eq_ok] at hs
  obtain ⟨_, -, _, -, _, hch, _, hcont, -⟩ := hs
  refine ⟨hco, hne, hbo, ?_, ?_, hau.chain ▸ hch, hau.contract ▸ hcont, ?_, hrn⟩
  · rw [(hco.projections.map _).nodup_iff, List.map_map]
    exact hz (·.claimId P) ▸ ha.distinct
  · have hf : ¬u128Max < chargesOf (b.claims.zip b.claimAcceptedAtUnixS) := fun he => by
      rw [buildFromAccepted_eq_amountOverflow_iff.2 ⟨ha, he⟩] at hb
      cases hb
    rw [chargesOf, hz (·.receipt.cumulativeChargeWei), ← hco.total, u128Max] at hf
    omega
  · intro c hc
    obtain ⟨d, key, -, hk, -⟩ := (authentic_of_verifyExported hv hc).signed
    exact hr _ _ _ hk

end ReceiptSettlementBatch

/-! ## Producer and consumer -/

variable {C : Codecs} {rpc : Rpc} {receiptVerifier : CryptDE} {cbor : List UInt8} {chainId now : Nat}
  {batcherAddress : Address} {gas : Option Nat} {m : SettlementSubmissionManifest}

/-- What the preflight of a successful call records. -/
def passedPreflight (P : Primitives) (blockNumber : Nat) (blockHash : Bytes32) (timestamp : Nat)
    (code : List UInt8) (batcherAddress : Address) (remainingSeconds : Nat) : SettlementRpcPreflight where
  observedBlockNumber := blockNumber
  observedBlockHash := hexText (wordBytes blockHash)
  observedBlockTimestampUnixS := timestamp
  settlementContractCodeKeccak256 := hexText (wordBytes (P.keccak256 code))
  batcherAddress := hexText (addressBytes batcherAddress)
  providerAuthorizationRemainingSeconds := remainingSeconds
  batcherRoleAuthorized := true
  submitBatchSimulated := true

variable {ba : ReceiptSettlementBatch} {sequence : Nat}

theorem decodeCanonicalBatch_eq_ok (h : decodeCanonicalBatch C cbor chainId = .ok ba) :
    C.batchFromSlice cbor = .ok ba ∧ ba.claims.length ≤ maxBatcherClaims := by
  simp only [decodeCanonicalBatch, bind_eq_ok, mapErr_eq_ok, failIf_eq_ok, pure_eq_ok] at h
  obtain ⟨_, hd, _, -, _, -, _, -, _, hc, rfl⟩ := h
  exact ⟨hd, Nat.le_of_not_lt hc⟩

theorem le_of_providerAuthorizationRemainingSeconds {seconds : Nat}
    (h : providerAuthorizationRemainingSeconds ba t = .ok seconds) :
    minProviderAuthorizationRemainingSeconds ≤ seconds := by
  simp only [providerAuthorizationRemainingSeconds, bind_eq_ok, okOr_eq_ok, failIf_eq_ok, pure_eq_ok] at h
  obtain ⟨_, -, _, hm, rfl⟩ := h
  exact Nat.le_of_not_lt hm

theorem nextBatchSequenceAtHash_lt {c : Address} {hash : Bytes32}
    (h : nextBatchSequenceAtHash P rpc c hash = .ok sequence) : sequence < 2 ^ 64 := by
  simp only [nextBatchSequenceAtHash, bind_eq_ok, pure_eq_ok] at h
  obtain ⟨_, -, word, -, _, -, rfl⟩ := h
  exact (ofBytes 64 (word.drop 24)).isLt

/-- What a manifest was prepared from: the batch, the block, and what the node said of the contract in it. -/
structure Prepared (P : Primitives) (C : Codecs) (rpc : Rpc) (receiptVerifier : CryptDE) (cbor : List UInt8)
    (chainId : Nat) (batcherAddress : Address) (m : SettlementSubmissionManifest) (batch : ReceiptSettlementBatch)
    (hash : Bytes32) (timestamp : Nat) (code : List UInt8) (sequence : Nat) : Prop where
  decoded : decodeCanonicalBatch C cbor chainId = .ok batch
  batcher : batcherAddress ≠ 0
  block : ∃ number block, rpc.blockNumber = .ok number ∧ rpc.block number = .ok (some block) ∧ block.hash = some hash ∧
    block.timestamp = timestamp
  verified : batch.verifyExported P timestamp receiptVerifier = .ok ()
  codeAt : contractCodeAtHash rpc batch.settlementContract hash = .ok code
  sequenceAt : nextBatchSequenceAtHash P rpc batch.settlementContract hash = .ok sequence
  manifest : ∃ number seconds, minProviderAuthorizationRemainingSeconds ≤ seconds ∧
    manifestFromVerifiedBatch P C cbor batch sequence timestamp
      (some (passedPreflight P number hash timestamp code batcherAddress seconds)) = m

theorem prepared_of_eq_ok (h : prepareRpcBoundSubmissionManifest P C rpc receiptVerifier cbor chainId batcherAddress now
    gas = .ok m) : ∃ batch hash timestamp code sequence,
      Prepared P C rpc receiptVerifier cbor chainId batcherAddress m batch hash timestamp code sequence := by
  simp only [prepareRpcBoundSubmissionManifest, bind_eq_ok, mapErr_eq_ok, okOr_eq_ok, failIf_eq_ok, pure_eq_ok] at h
  obtain ⟨_, hb, batch, hd, _, -, _, -, number, hn, _, hbl, block, rfl, _, -, hash, hh, _, -,
    _, -, _, hv, seconds, hs, code, hc, _, -, sequence, hse, _, -, _, -, _, -, _, -, _, -, rfl⟩ := h
  exact ⟨batch, hash, block.timestamp, code, sequence, hd, hb, ⟨number, block, hn, hbl, hh, rfl⟩,
    hv, hc, hse, number, seconds, le_of_providerAuthorizationRemainingSeconds hs, rfl⟩

/-- The reader accepts the manifest of a readable batch and reads off what it was made from. -/
theorem ReceiptSettlementBatch.Readable.validateTrackingManifest (hb : ba.Readable P) (hh : P.HexDecodes)
    (ha : C.abi.Lawful) (hba : batcherAddress ≠ 0) {hash : Bytes32} {code : List UInt8} (hseq : sequence < 2 ^ 64)
    (hse : minProviderAuthorizationRemainingSeconds ≤ se) :
    MasqMobile.validateTrackingManifest P C (manifestFromVerifiedBatch P C cbor ba sequence t
        (some (passedPreflight P nu hash t code batcherAddress se))) =
      .ok { settlementContract := ba.settlementContract, batcherAddress,
            settlementCodeHash := P.keccak256 code, contractMerkleRoot := ba.contractMerkleRoot,
            calldata := submitBatchWithSessionsCalldata P C sequence ba } := by
  have hc : ba.contractClaims.length ≠ 0 ∧ ba.contractClaims.length ≤ maxBatcherClaims := by
    have hn := List.length_pos_iff.2 hb.nonempty
    have hbo := hb.bounded
    rw [hb.length_contractClaims]
    omega
  have hid : (ba.contractClaims.map fun claim => hexText (wordBytes claim.claimId)).mapM
      (fun claimId => parseHash P claimId "claim ID") = .ok (ba.contractClaims.map (·.claimId)) := by
    rw [List.mapM_map]
    exact mapM_eq_ok_of_forall fun claim _ => parseHash_hexText hh claim.claimId "claim ID"
  have hs : (selector P submitBatchWithSessionsSignature).length = 4 := by simp [selector]
  have ht : (submitBatchWithSessionsCalldata P C sequence ba).take 4 =
      selector P submitBatchWithSessionsSignature := List.take_left' hs
  have hd : (submitBatchWithSessionsCalldata P C sequence ba).drop 4 =
      C.abi.encode (ba.submissionTokens P sequence) := List.drop_left' hs
  have hl : ¬(submitBatchWithSessionsCalldata P C sequence ba).length < 4 := by
    rw [submitBatchWithSessionsCalldata, List.length_append, hs]
    omega
  have hde := ha submissionTypes _ (hb.hasType_submissionTokens hseq)
  simp only [MasqMobile.validateTrackingManifest, bind_eq_ok, failIf_eq_ok, okOr_eq_ok, mapErr_eq_ok,
    pure_eq_ok, not_or, not_not]
  refine ⟨(), rfl, (), rfl, (), hb.chain, (), rfl, (), ⟨hc.1, Nat.not_lt.2 hc.2⟩, (), List.length_map _,
    _, hid, (), length_dedupBy_sortBy hb.distinct, _, parseAddress_hexText hh _ _, (), hb.contract,
    _, parseHash_hexText hh _ _, _, parseHash_hexText hh _ _, _, parseHash_hexText hh _ _,
    _, parseHash_hexText hh _ _, _, parsePrefixedHex_hexText hh _ _, (), rfl, (), ⟨hl, ht⟩,
    _, hd ▸ hde, (), hd.symm, (), hb.validateTokens_submission rfl rfl rfl, _, rfl,
    (), ⟨Bool.noConfusion, Bool.noConfusion⟩, (), rfl, (), Nat.not_lt.2 hse, _, parseHash_hexText hh _ _,
    _, parseHash_hexText hh _ _,
    _, parseAddress_hexText hh _ _, (), hba, rfl⟩

/-- **Producer and consumer of manifests agree.** Every manifest that `prepareRpcBoundSubmissionManifest` returns is
accepted by `validateTrackingManifest`, which extracts the contract, the batcher, the code hash, the Merkle root and
the calldata that the manifest was made from. -/
theorem manifest_producer_consumer_agree (P : Primitives) (C : Codecs) (hhex : P.HexDecodes) (habi : C.abi.Lawful)
    (hrange : ∀ bytes batch, C.batchFromSlice bytes = .ok batch →
      ∀ c ∈ batch.claims, c.receiptPayload.authorization.policy.InRange)
    (hrecover : ∀ sig digest key, P.recover sig digest = some key → sig.v ≤ 1)
    (rpc : Rpc) (receiptVerifier : CryptDE) (cbor : List UInt8) (chainId : Nat) (batcherAddress : Address) (now : Nat)
    (gas : Option Nat) (m : SettlementSubmissionManifest)
    (h : prepareRpcBoundSubmissionManifest P C rpc receiptVerifier cbor chainId batcherAddress now gas = .ok m) :
    ∃ batch hash timestamp code sequence,
      Prepared P C rpc receiptVerifier cbor chainId batcherAddress m batch hash timestamp code sequence ∧
      validateTrackingManifest P C m =
        .ok { settlementContract := batch.settlementContract, batcherAddress,
              settlementCodeHash := P.keccak256 code, contractMerkleRoot := batch.contractMerkleRoot,
              calldata := submitBatchWithSessionsCalldata P C sequence batch } := by
  obtain ⟨batch, hash, timestamp, code, sequence, hp⟩ := prepared_of_eq_ok h
  obtain ⟨hd, hbo⟩ := decodeCanonicalBatch_eq_ok hp.decoded
  have hb : batch.Readable P := ReceiptSettlementBatch.readable_of_verifyExported hp.verified hbo
    (hrange cbor batch hd) hrecover
  refine ⟨batch, hash, timestamp, code, sequence, hp, ?_⟩
  obtain ⟨number, seconds, hs, rfl⟩ := hp.manifest
  exact hb.validateTrackingManifest hhex habi hp.batcher (nextBatchSequenceAtHash_lt hp.sequenceAt)
    hs

/-! ## A manifest -/

/-- `lastByte` with a decoder of hexadecimal texts, and with recovery for `v` 0 and 1 only. -/
def manifestPrimitives : Primitives := { lastByte with
    fromHex := decodeHex
    recover := fun sig _ => if sig.v ≤ 1 then some [] else none }

/-- The byte string `[1]` is the CBOR of `pairBatch`, and nothing else is one. -/
noncomputable def sampleCodecs : Codecs where
  abi := unary
  batchFromSlice bytes := if bytes = [1] then .ok pairBatch else .error "no batch"
  batchToVec _ := .ok [1]

/-- A node at block 5 that grants the role, expects batch 1 and accepts the submission. -/
def sampleRpc : Rpc where
  chainId := .ok 1
  blockNumber := .ok 5
  block number := .ok (some { hash := some 9, number := some number, timestamp := 30, gasLimit := 100 })
  getCode _ _ := .ok (some [7])
  call request _ := .ok (some (if request.sender.isSome then [] else List.replicate 31 0 ++ [1]))

/-- The hypotheses hold of the batch of two claims, whose manifest is prepared and read back. -/
theorem manifest_producer_consumer_agree_two_claims : ∃ m validated,
    prepareRpcBoundSubmissionManifest manifestPrimitives sampleCodecs sampleRpc ⟨[9], []⟩ [1] 1 3 40 none = .ok m ∧
    validateTrackingManifest manifestPrimitives sampleCodecs m = .ok validated ∧ validated.batcherAddress = 3 := by
  have hp : verdict (prepareRpcBoundSubmissionManifest manifestPrimitives sampleCodecs sampleRpc ⟨[9], []⟩ [1] 1
      3 40 none) = .ok () := by decide +kernel
  obtain ⟨m, hm⟩ := verdict_eq_ok.1 hp
  have hrn : ∀ bytes batch, sampleCodecs.batchFromSlice bytes = .ok batch →
      ∀ c ∈ batch.claims, c.receiptPayload.authorization.policy.InRange := by
    intro bytes batch hb
    simp only [sampleCodecs] at hb
    split at hb
    · cases hb
      intro c hc
      simp only [pairBatch, List.mem_cons, List.not_mem_nil, or_false] at hc
      rcases hc with rfl | rfl <;> exact ⟨by decide, by decide, by decide, by decide, by decide⟩
    · cases hb
  have hr : ∀ sig digest key, manifestPrimitives.recover sig digest = some key → sig.v ≤ 1 := by
    intro sig digest key hk
    simp only [manifestPrimitives] at hk
    split at hk
    · assumption
    · cases hk
  obtain ⟨batch, hash, timestamp, code, sequence, -, hv⟩ := manifest_producer_consumer_agree manifestPrimitives
    sampleCodecs decodeHex_toHex unary_lawful hrn hr sampleRpc ⟨[9], []⟩ [1] 1 3 40 none m hm
  exact ⟨m, _, hm, hv, rfl⟩

end MasqMobile
