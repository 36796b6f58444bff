import MasqMobile.Receipt.ProviderSettlement

/-!
# What an EIP-712 digest identifies

The digests of the two policies (service_receipt.rs:670, 890) nest the same hashes: of the domain, of the key, of the
fields, and of these together. `TypedData` is what one of them hashes; every part of it is a word or the hash of a
byte string, so that it can be read off a digest where `keccak256` has no collision on the byte strings that are
hashed. The two policies differ in the name of their domain.
-/

namespace MasqMobile

open Fallible

theorem uintWord_append_inj (hv : v < 2 ^ 256) (hw : w < 2 ^ 256)
    (h : uintWord v ++ s = uintWord w ++ t) : v = w ∧ s = t := by
  obtain ⟨hwo, hr⟩ := wordBytes_append_inj h
  have heq := congrArg BitVec.toNat hwo
  rw [BitVec.toNat_ofNat, BitVec.toNat_ofNat, Nat.mod_eq_of_lt hv, Nat.mod_eq_of_lt hw] at heq
  exact ⟨heq, hr⟩

/-- So can an address. -/
theorem addressWord_append_inj (h : addressWord a ++ s = addressWord b ++ t) : a = b ∧ s = t := by
  obtain ⟨hw, hr⟩ := wordBytes_append_inj h
  have heq := congrArg BitVec.toNat hw
  rw [BitVec.toNat_setWidth, BitVec.toNat_setWidth, Nat.mod_eq_of_lt (by omega), Nat.mod_eq_of_lt (by omega)] at heq
  exact ⟨BitVec.eq_of_toNat_eq heq, hr⟩

structure TypedData where
  name : String
  type : String
  chainId : Nat
  settlementContract : Address
  key : List UInt8
  /-- The words of the authorization, around the hash of its key. -/
  fields : Bytes32 → List UInt8

namespace TypedData

variable (P : Primitives)

def domainBytes (d : TypedData) : List UInt8 := wordBytes (P.keccak256
    (bytesOf "EIP712Domain(string name,string version,uint256 chainId,address verifyingContract)")) ++
  wordBytes (P.keccak256 (bytesOf d.name)) ++ wordBytes (P.keccak256 (bytesOf "1")) ++ uintWord d.chainId ++
  addressWord d.settlementContract

def structBytes (d : TypedData) : List UInt8 := wordBytes (P.keccak256 (bytesOf d.type)) ++ d.fields (P.keccak256 d.key)

def digestBytes (d : TypedData) : List UInt8 :=
  [0x19, 0x01] ++ wordBytes (P.keccak256 (d.domainBytes P)) ++ wordBytes (P.keccak256 (d.structBytes P))

def hashed (d : TypedData) : List (List UInt8) :=
  [bytesOf "EIP712Domain(string name,string version,uint256 chainId,address verifyingContract)", bytesOf d.name,
    bytesOf "1", d.domainBytes P, d.key, bytesOf d.type, d.structBytes P, d.digestBytes P]

/-- **A digest identifies what it was made from.** -/
theorem eq_of_digest_eq {P : Primitives} {d e : TypedData}
    (hf : Set.InjOn P.keccak256 {s | s ∈ d.hashed P ∨ s ∈ e.hashed P})
    (hd : d.chainId < 2 ^ 64) (he : e.chainId < 2 ^ 64)
    (h : P.keccak256 (d.digestBytes P) = P.keccak256 (e.digestBytes P)) :
    bytesOf d.name = bytesOf e.name ∧ d.chainId = e.chainId ∧ d.settlementContract = e.settlementContract ∧
      d.fields (P.keccak256 d.key) = e.fields (P.keccak256 e.key) := by
  have hdi : d.digestBytes P = e.digestBytes P := hf (by simp [hashed]) (by simp [hashed]) h
  simp only [digestBytes, List.append_assoc] at hdi
  obtain ⟨hdo, hs⟩ := wordBytes_append_inj (List.append_cancel_left hdi)
  have hdo : d.domainBytes P = e.domainBytes P := hf (by simp [hashed]) (by simp [hashed]) hdo
  have hs : d.structBytes P = e.structBytes P := hf (by simp [hashed]) (by simp [hashed]) (wordBytes_injective hs)
  rw [← List.append_nil (d.domainBytes P), ← List.append_nil (e.domainBytes P)] at hdo
  simp only [domainBytes, List.append_assoc] at hdo
  obtain ⟨hn, hdo⟩ := wordBytes_append_inj (List.append_cancel_left hdo)
  obtain ⟨hc, hco⟩ := uintWord_append_inj (by omega) (by omega) (List.append_cancel_left hdo)
  exact ⟨hf (by simp [hashed]) (by simp [hashed]) hn, hc, (addressWord_append_inj hco).1, (wordBytes_append_inj hs).2⟩

end TypedData

/-! ## The two policies -/

namespace ReceiptSessionPolicy

/-- The fields are values of the source's integer types. -/
structure InRange (p : ReceiptSessionPolicy) : Prop where
  protocolVersion : p.protocolVersion < 2 ^ 16
  chainId : p.chainId < 2 ^ 64
  maxTotalChargeWei : p.maxTotalChargeWei < 2 ^ 128
  validFromUnixS : p.validFromUnixS < 2 ^ 64
  expiresAtUnixS : p.expiresAtUnixS < 2 ^ 64

def typedData (p : ReceiptSessionPolicy) : TypedData where
  name := "MASQ Service Receipt"
  type := "ReceiptSessionAuthorization(uint16 protocolVersion,address payerWallet,bytes payerSessionPublicKey," ++
    "uint256 maxTotalChargeWei,uint64 validFromUnixS,uint64 expiresAtUnixS,bytes32 authorizationNonce)"
  chainId := p.chainId
  settlementContract := p.settlementContract
  key := p.payerSessionPublicKey
  fields keyHash := uintWord p.protocolVersion ++ addressWord p.payerWalletAddress ++ wordBytes keyHash ++
    uintWord p.maxTotalChargeWei ++ uintWord p.validFromUnixS ++ uintWord p.expiresAtUnixS ++
    wordBytes p.authorizationNonce

theorem eip712Digest_eq_ok {P : Primitives} {p : ReceiptSessionPolicy} {digest : Bytes32}
    (h : p.eip712Digest P = .ok digest) : P.keccak256 (p.typedData.digestBytes P) = digest := by
  simp only [eip712Digest, bind_eq_ok, pure_eq_ok] at h
  obtain ⟨_, -, h⟩ := h
  rw [← h]
  simp only [TypedData.digestBytes, TypedData.domainBytes, TypedData.structBytes, typedData, List.append_assoc]

theorem eq_of_digest_eq {P : Primitives} {p q : ReceiptSessionPolicy} (hp : p.InRange) (hq : q.InRange)
    (hfr : Set.InjOn P.keccak256 {s | s ∈ p.typedData.hashed P ∨ s ∈ q.typedData.hashed P})
    (h : P.keccak256 (p.typedData.digestBytes P) = P.keccak256 (q.typedData.digestBytes P)) : p = q := by
  have ⟨hpV, hpC, hpM, hpF, hpT⟩ := hp
  have ⟨hqV, hqC, hqM, hqF, hqT⟩ := hq
  obtain ⟨-, hc, hco, hf⟩ := TypedData.eq_of_digest_eq hfr hpC hqC h
  simp only [typedData, List.append_assoc] at hc hco hf
  obtain ⟨hv, hf⟩ := uintWord_append_inj (by omega) (by omega) hf
  obtain ⟨hw, hf⟩ := addressWord_append_inj hf
  obtain ⟨hk, hf⟩ := wordBytes_append_inj hf
  obtain ⟨hm, hf⟩ := uintWord_append_inj (by omega) (by omega) hf
  obtain ⟨hfro, hf⟩ := uintWord_append_inj (by omega) (by omega) hf
  obtain ⟨hto, hn⟩ := uintWord_append_inj (by omega) (by omega) hf
  have hk : p.payerSessionPublicKey = q.payerSessionPublicKey :=
    hfr (by simp [TypedData.hashed, typedData]) (by simp [TypedData.hashed, typedData]) hk
  cases p
  cases q
  simp only [mk.injEq]
  exact ⟨hv, hc, hco, hw, hk, hm, hfro, hto, wordBytes_injective hn⟩

end ReceiptSessionPolicy

namespace ProviderSettlementPolicy

structure InRange (p : ProviderSettlementPolicy) : Prop where
  protocolVersion : p.protocolVersion < 2 ^ 16
  chainId : p.chainId < 2 ^ 64
  validFromUnixS : p.validFromUnixS < 2 ^ 64
  expiresAtUnixS : p.expiresAtUnixS < 2 ^ 64

def typedData (p : ProviderSettlementPolicy) : TypedData where
  name := "MASQ Provider Settlement"
  type := "ProviderSettlementAuthorization(uint16 protocolVersion,address payoutWallet,bytes providerPublicKey," ++
    "uint64 validFromUnixS,uint64 expiresAtUnixS,bytes32 authorizationNonce)"
  chainId := p.chainId
  settlementContract := p.settlementContract
  key := p.providerPublicKey
  fields keyHash := uintWord p.protocolVersion ++ addressWord p.payoutWalletAddress ++ wordBytes keyHash ++
    uintWord p.validFromUnixS ++ uintWord p.expiresAtUnixS ++ wordBytes p.authorizationNonce

theorem eip712Digest_eq_ok {P : Primitives} {p : ProviderSettlementPolicy} {digest : Bytes32}
    (h : p.eip712Digest P = .ok digest) : P.keccak256 (p.typedData.digestBytes P) = digest := by
  simp only [eip712Digest, bind_eq_ok, pure_eq_ok] at h
  obtain ⟨_, -, h⟩ := h
  rw [← h]
  simp only [TypedData.digestBytes, TypedData.domainBytes, TypedData.structBytes, typedData, List.append_assoc]

theorem eq_of_digest_eq {P : Primitives} {p q : ProviderSettlementPolicy} (hp : p.InRange) (hq : q.InRange)
    (hfr : Set.InjOn P.keccak256 {s | s ∈ p.typedData.hashed P ∨ s ∈ q.typedData.hashed P})
    (h : P.keccak256 (p.typedData.digestBytes P) = P.keccak256 (q.typedData.digestBytes P)) : p = q := by
  have ⟨hpV, hpC, hpF, hpT⟩ := hp
  have ⟨hqV, hqC, hqF, hqT⟩ := hq
  obtain ⟨-, hc, hco, hf⟩ := TypedData.eq_of_digest_eq hfr hpC hqC h
  simp only [typedData, List.append_assoc] at hc hco hf
  obtain ⟨hv, hf⟩ := uintWord_append_inj (by omega) (by omega) hf
  obtain ⟨hw, hf⟩ := addressWord_append_inj hf
  obtain ⟨hk, hf⟩ := wordBytes_append_inj hf
  obtain ⟨hfro, hf⟩ := uintWord_append_inj (by omega) (by omega) hf
  obtain ⟨hto, hn⟩ := uintWord_append_inj (by omega) (by omega) hf
  have hk : p.providerPublicKey = q.providerPublicKey :=
    hfr (by simp [TypedData.hashed, typedData]) (by simp [TypedData.hashed, typedData]) hk
  cases p
  cases q
  simp only [mk.injEq]
  exact ⟨hv, hc, hco, hw, hk, hfro, hto, wordBytes_injective hn⟩

end ProviderSettlementPolicy

/-- **Digests identify policies.** Where `keccak256` has no collision on the byte strings that two digests are made
from, equal digests are of equal policies, and never of a session policy and a provider policy. -/
theorem eip712_digests_identify_policies (P : Primitives) :
    (∀ (p q : ReceiptSessionPolicy) (digest : Bytes32), p.InRange → q.InRange →
      Set.InjOn P.keccak256 {s | s ∈ p.typedData.hashed P ∨ s ∈ q.typedData.hashed P} →
      p.eip712Digest P = .ok digest → q.eip712Digest P = .ok digest → p = q) ∧
    (∀ (p q : ProviderSettlementPolicy) (digest : Bytes32), p.InRange → q.InRange →
      Set.InjOn P.keccak256 {s | s ∈ p.typedData.hashed P ∨ s ∈ q.typedData.hashed P} →
      p.eip712Digest P = .ok digest → q.eip712Digest P = .ok digest → p = q) ∧
    (∀ (p : ReceiptSessionPolicy) (q : ProviderSettlementPolicy) (digest : Bytes32), p.InRange → q.InRange →
      Set.InjOn P.keccak256 {s | s ∈ p.typedData.hashed P ∨ s ∈ q.typedData.hashed P} →
      p.eip712Digest P = .ok digest → q.eip712Digest P ≠ .ok digest) := by
  refine ⟨fun p q digest hp hq hf h h' => ?_, fun p q digest hp hq hf h h' => ?_, fun p q digest hp hq hf h h' => ?_⟩
  · exact ReceiptSessionPolicy.eq_of_digest_eq hp hq hf
      ((ReceiptSessionPolicy.eip712Digest_eq_ok h).trans (ReceiptSessionPolicy.eip712Digest_eq_ok h').symm)
  · exact ProviderSettlementPolicy.eq_of_digest_eq hp hq hf
      ((ProviderSettlementPolicy.eip712Digest_eq_ok h).trans (ProviderSettlementPolicy.eip712Digest_eq_ok h').symm)
  · have hn := (TypedData.eq_of_digest_eq hf hp.chainId hq.chainId
      ((ReceiptSessionPolicy.eip712Digest_eq_ok h).trans (ProviderSettlementPolicy.eip712Digest_eq_ok h').symm)).1
    have hne : bytesOf "MASQ Service Receipt" ≠ bytesOf "MASQ Provider Settlement" := by decide +kernel
    exact hne hn

/-- The hash of a byte string is its length and two of its bytes. -/
def Primitives.lengthAndBytes : Primitives := { Primitives.accepting with
    keccak256 := fun bytes => BitVec.ofNat 256 (bytes.length + 256 * ((bytes.getD 63 0).toNat + (bytes.getD 65 0).toNat)) }

def sampleSessionPolicy : ReceiptSessionPolicy := ⟨1, 1, 1, 1, [8, 8], 100, 0, 1000, 1⟩

def sampleProviderPolicy : ProviderSettlementPolicy := ⟨1, 1, 1, 1, [9, 9, 9], 0, 1000, 1⟩

theorem lengthAndBytes_injOn : Set.InjOn Primitives.lengthAndBytes.keccak256
    {s | s ∈ sampleSessionPolicy.typedData.hashed .lengthAndBytes ∨
      s ∈ sampleProviderPolicy.typedData.hashed .lengthAndBytes} := by
  -- the two lists share the type of the domain and its version
  have hnd : ((sampleSessionPolicy.typedData.hashed .lengthAndBytes ++
      (sampleProviderPolicy.typedData.hashed .lengthAndBytes).tail.eraseIdx 1).map
        Primitives.lengthAndBytes.keccak256).Nodup := by decide +kernel
  have hm : ∀ (d e : TypedData) (s : List UInt8), s ∈ d.hashed .lengthAndBytes ∨ s ∈ e.hashed .lengthAndBytes →
      s ∈ d.hashed .lengthAndBytes ++ (e.hashed .lengthAndBytes).tail.eraseIdx 1 := by
    intro d e s hs
    simp only [TypedData.hashed, List.tail_cons, List.eraseIdx_cons_succ, List.eraseIdx_cons_zero, List.mem_append,
      List.mem_cons, List.not_mem_nil, or_false] at hs ⊢
    grind
  exact fun s hs s' hs' => List.inj_on_of_nodup_map hnd (hm _ _ s hs) (hm _ _ s' hs')

/-- The hypotheses hold of a session policy and a provider policy, whose digests therefore differ. -/
theorem eip712_digests_identify_policies_across : ∃ digest,
    sampleSessionPolicy.eip712Digest .lengthAndBytes = .ok digest ∧
    sampleProviderPolicy.eip712Digest .lengthAndBytes ≠ .ok digest := by
  refine ⟨_, rfl, ?_⟩
  exact (eip712_digests_identify_policies .lengthAndBytes).2.2 sampleSessionPolicy sampleProviderPolicy _
    ⟨by decide, by decide, by decide, by decide, by decide⟩ ⟨by decide, by decide, by decide, by decide⟩
    lengthAndBytes_injOn rfl

end MasqMobile
