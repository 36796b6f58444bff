import MasqMobile.Settlement.Attribution
import MasqMobile.Settlement.Hex

/-!
# One canonical wallet signature per authorization

A secp256k1 signature `(v, r, s)` has a twin `(1 - v, r, n - s)` that recovers to the same key, and exactly one of the
two is in canonical form. Three places accept wallet signatures:

| here | there | canonical form |
| --- | --- | --- |
| `signatureFromHex` | receipt_session.rs:1251 | demanded |
| `ProviderSettlementPolicy.verifyPayoutWalletSignature` | service_receipt.rs:830 | demanded |
| `AuthorizedReceiptSession.verify` | service_receipt.rs:1110 | not checked |

A provider compares the authorization of a receipt with the stored one byte for byte (`storedSpending`), so that a
payer's session is usable with a provider under one of its signatures only.
-/

namespace MasqMobile

open Fallible

/-- The order of the curve; `secp256k1HalfOrder` is half of it, rounded down. -/
def secp256k1Order : Bytes32 := 0xfffffffffffffffffffffffffffffffebaaedce6af48a03bbfd25e8cd0364141

namespace WalletSignature

structure Canonical (sig : WalletSignature) : Prop where
  recoveryId : sig.v ≤ 1
  r : sig.r ≠ 0
  s : sig.s ≠ 0
  low : sig.s ≤ secp256k1HalfOrder

/-- The other signature of the same key on the same digest. -/
def twin (sig : WalletSignature) : WalletSignature where
  v := 1 - sig.v
  r := sig.r
  s := secp256k1Order - sig.s

variable {P : Primitives} {sig : WalletSignature}

theorem Canonical.twin (h : sig.Canonical) : ¬sig.twin.Canonical := by
  intro ht
  have ho : secp256k1Order.toNat = 2 * secp256k1HalfOrder.toNat + 1 := by decide
  have hl := BitVec.le_def.1 h.low
  have ht : (secp256k1Order - sig.s).toNat ≤ secp256k1HalfOrder.toNat := BitVec.le_def.1 ht.low
  rw [BitVec.toNat_sub_of_le (BitVec.le_def.2 (by omega))] at ht
  omega

/-! ## The two places that demand it -/

theorem canonical_of_signatureFromHex {text : String} (h : signatureFromHex P text = .ok sig) : sig.Canonical := by
  simp only [signatureFromHex, bind_eq_ok, failIf_eq_ok, not_or] at h
  obtain ⟨bytes, -, _, -, _, ⟨hr, hs, hl⟩, hv⟩ := h
  split at hv <;>
    simp only [bind_eq_ok, pure_eq_ok, Except.ok.injEq, reduceCtorEq, false_and, exists_false] at hv
  all_goals
    obtain ⟨_, rfl, rfl⟩ := hv
    exact ⟨by simp, hr, hs, BitVec.not_lt.1 hl⟩

/-- Every canonical signature has a text: its bytes `r`, `s` and `v` in hexadecimal. -/
theorem Canonical.signatureFromHex (hh : P.HexDecodes) (h : sig.Canonical) :
    MasqMobile.signatureFromHex P ("0x" ++ toHex (wordBytes sig.r ++ (wordBytes sig.s ++ [sig.v]))) = .ok sig := by
  obtain ⟨v, r, s⟩ := sig
  have ht : (wordBytes r ++ (wordBytes s ++ [v])).take 32 = wordBytes r := List.take_left' (length_wordBytes r)
  have hd : (wordBytes r ++ (wordBytes s ++ [v])).drop 32 = wordBytes s ++ [v] := List.drop_left' (length_wordBytes r)
  have hsn : (wordBytes s ++ [v]).take 32 = wordBytes s := List.take_left' (length_wordBytes s)
  have hl : (wordBytes r ++ (wordBytes s ++ [v])).getD 64 0 = v := by
    simp
  have hr : BitVec.ofNat 256 ((wordBytes r).foldl (fun n b => 256 * n + b.toNat) 0) = r := ofBytes_wordBytes r
  have hs : BitVec.ofNat 256 ((wordBytes s).foldl (fun n b => 256 * n + b.toNat) 0) = s := ofBytes_wordBytes s
  have hv : v = 0 ∨ v = 1 := by
    have hle := UInt8.le_iff_toNat_le.1 h.recoveryId
    rw [← UInt8.toNat_inj, ← UInt8.toNat_inj]
    simp at hle ⊢
    omega
  simp only [MasqMobile.signatureFromHex, bind_eq_ok, failIf_eq_ok, mapErr_eq_ok]
  refine ⟨wordBytes r ++ (wordBytes s ++ [v]), ?_, (), by simp, (), ?_, ?_⟩
  · simpa using hh _
  · rw [ht, hd, hsn, hr, hs, not_or, not_or]
    exact ⟨h.r, h.s, BitVec.not_lt.2 h.low⟩
  · rw [hl, ht, hd, hsn, hr, hs]
    rcases hv with rfl | rfl <;> rfl

theorem exists_signatureFromHex_iff (hh : P.HexDecodes) :
    (∃ text, MasqMobile.signatureFromHex P text = .ok sig) ↔ sig.Canonical :=
  ⟨fun ⟨_, h⟩ => canonical_of_signatureFromHex h, fun h => ⟨_, h.signatureFromHex hh⟩⟩

theorem canonical_of_verifyPayoutWalletSignature {p : ProviderSettlementPolicy}
    (h : p.verifyPayoutWalletSignature P sig = .ok ()) : sig.Canonical := by
  simp only [ProviderSettlementPolicy.verifyPayoutWalletSignature, bind_eq_ok, failIf_eq_ok, not_or] at h
  obtain ⟨_, ⟨hv, hr, hs, hl⟩, -⟩ := h
  exact ⟨UInt8.not_lt.1 hv, hr, hs, BitVec.not_lt.1 hl⟩

end WalletSignature

/-! ## The place that does not -/

/-- The curve's recovery and verification take a signature and its twin for the same. -/
structure Primitives.Malleable (P : Primitives) : Prop where
  recover : ∀ (sig : WalletSignature) digest, sig.Canonical → P.recover sig.twin digest = P.recover sig digest
  verifyWallet : ∀ key (sig : WalletSignature) digest, sig.Canonical →
    P.verifyWallet key sig.twin digest = P.verifyWallet key sig digest

namespace ReceiptSessionPolicy

/-- The wallet signatures with which `AuthorizedReceiptSession.verify` accepts the policy. -/
def acceptedSignatures (P : Primitives) (policy : ReceiptSessionPolicy) (chainId : Nat) (contract : Address)
    (key : PublicKey) (now charge : Nat) : Set WalletSignature :=
  {sig | AuthorizedReceiptSession.verify P ⟨policy, sig⟩ chainId contract key now charge = .ok ()}

/-- The signatures presented for a policy are canonical, none is the twin of another, and a provider that has stored
the authorization with one of them takes its copy with any other for the same authorization. -/
structure OneCanonical (policy : ReceiptSessionPolicy) (presented : Set WalletSignature) : Prop where
  canonical : ∀ sig ∈ presented, sig.Canonical
  noTwin : ∀ sig ∈ presented, sig.twin ∉ presented
  sameAuthorization : ∀ sig ∈ presented, ∀ sig' ∈ presented, ∀ spent,
    storedSpending (some ⟨⟨policy, sig⟩, spent⟩) ⟨policy, sig'⟩ ≠ .error .authorizationIdentityMismatch

variable {P : Primitives} {pol : ReceiptSessionPolicy} {cid now charge : Nat} {con : Address}
  {key : PublicKey} {presented : Set WalletSignature}

theorem storedSpending_mismatch_iff {sig sig' : WalletSignature} :
    storedSpending (some ⟨⟨pol, sig⟩, sp⟩) ⟨pol, sig'⟩ = .error .authorizationIdentityMismatch ↔ sig ≠ sig' := by
  simp [storedSpending]

theorem oneCanonical_iff : OneCanonical pol presented ↔
    (∀ sig ∈ presented, sig.Canonical) ∧ presented.Subsingleton := by
  constructor
  · intro h
    refine ⟨h.canonical, fun sig hs sig' hs' => ?_⟩
    by_contra hne
    exact h.sameAuthorization sig hs sig' hs' 0 (storedSpending_mismatch_iff.2 hne)
  · rintro ⟨hc, ho⟩
    refine ⟨hc, fun sig hs ht => ?_, fun sig hs sig' hs' spent he => ?_⟩
    · exact (hc sig hs).twin (hc _ ht)
    · exact storedSpending_mismatch_iff.1 he (ho hs hs')

/-- What verifies a canonical signature verifies its twin. -/
theorem twin_mem_acceptedSignatures (hm : P.Malleable) {sig : WalletSignature} (hc : sig.Canonical)
    (h : sig ∈ pol.acceptedSignatures P cid con key now charge) :
    sig.twin ∈ pol.acceptedSignatures P cid con key now charge := by
  obtain ⟨⟨hwf, hch, hco, hk, digest, payer, hd, hr, hv, ha⟩, ht⟩ := AuthorizedReceiptSession.verify_eq_ok_iff.1 h
  refine AuthorizedReceiptSession.verify_eq_ok_iff.2 ⟨⟨hwf, hch, hco, hk, digest, payer, hd, ?_, ?_, ha⟩, ht⟩
  · exact (hm.recover sig digest hc).trans hr
  · exact (hm.verifyWallet payer sig digest hc).trans hv

/-- Primitives that accept every signature and decode hexadecimal texts. -/
def decoding : Primitives := { Primitives.accepting with fromHex := decodeHex }

theorem hexDecodes_decoding : decoding.HexDecodes := decodeHex_toHex

theorem malleable_decoding : decoding.Malleable := ⟨fun _ _ _ => rfl, fun _ _ _ _ => rfl⟩

/-- A session that wallet 1 signed for the session key `[8]`. -/
def samplePolicy : ReceiptSessionPolicy := (samplePayload 7 1 10).authorization.policy

/-- The sample receipt with the twin of the wallet's signature on the authorization, on another route. -/
def twinAccept : AcceptCall where
  payload :=
    { authorization := ⟨samplePolicy, WalletSignature.twin ⟨0, 1, 1⟩⟩
      acknowledgedReceipt := ⟨⟨⟨1, 6, 1, .exit, [9], 1, 0, 0, 0, 0, 5⟩, [0]⟩, [8], [0]⟩ }
  checkpoint := ⟨6, [9], 1, [8], 1, 5⟩
  timestamp := 0
  faults _ := none

end ReceiptSessionPolicy

end MasqMobile
