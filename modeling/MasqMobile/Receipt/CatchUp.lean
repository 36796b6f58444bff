import MasqMobile.Receipt.Verify

/-!
# Lost acknowledgements

A consumer accepts every receipt of a chain by `begin` and `advance`, which allow no gap. Its acknowledgements may get
lost, come late or twice, and the provider accepts what it gets by `begin_for_settlement` and `advance_for_settlement`
(service_receipt.rs:1233, 1272), for which a receipt need only be worth its own charge more than the last.
-/

namespace MasqMobile

open Fallible ReceiptSequenceCheckpoint

abbrev AcknowledgedServiceReceipt.receipt (a : AcknowledgedServiceReceipt) : ServiceReceipt := a.signedReceipt.receipt

/-- The receipts of a route that were made and accepted so far, the latest first, and the consumer's checkpoint. -/
inductive StrictChain (P : Primitives) (consumer : CryptDE) :
    List AcknowledgedServiceReceipt → ReceiptSequenceCheckpoint → Prop
  | first {a c routeEpoch sequence kind key commitment size units serviceRate byteRate}
      (hnew : a.receipt = .newWithServiceUnits routeEpoch sequence kind key commitment size units
        serviceRate byteRate)
      (hbegin : begin P a consumer = .ok c) : StrictChain P consumer [a] c
  | next {a b c c' receipts sequence kind size units serviceRate byteRate}
    (hchain : StrictChain P consumer (a :: receipts) c)
      (hnext : a.receipt.nextWithServiceUnits sequence kind size units serviceRate byteRate =
        .ok b.receipt)
      (hadvance : c.advance P b consumer = .ok c') : StrictChain P consumer (b :: a :: receipts) c'

/-- The provider on an acknowledged receipt: its checkpoint, and the sum of what it has accepted. -/
def deliver (P : Primitives) (provider : CryptDE) : Option ReceiptSequenceCheckpoint × Nat →
    AcknowledgedServiceReceipt → Option ReceiptSequenceCheckpoint × Nat
  | (none, sum), a =>
    match beginForSettlement P a provider with
    | .ok c => (some c, sum + c.cumulativeChargeWei)
    | .error _ => (none, sum)
  | (some c, sum), a =>
    match c.advanceForSettlement P a provider with
    | .ok c' => (some c', sum + (c'.cumulativeChargeWei - c.cumulativeChargeWei))
    | .error _ => (some c, sum)

section

variable {P : Primitives} {consumer provider : CryptDE} {a b : AcknowledgedServiceReceipt}
  {receipts : List AcknowledgedServiceReceipt} {c : ReceiptSequenceCheckpoint}

/-- A provider that stands at `a` accepts `b`. -/
def Settles (P : Primitives) (provider : CryptDE) (a b : AcknowledgedServiceReceipt) : Prop :=
  (ofAcknowledged a).advanceForSettlement P b provider = .ok (ofAcknowledged b)

theorem Settles.lt (h : Settles P provider a b) : a.receipt.sequence < b.receipt.sequence ∧
    a.receipt.cumulativeChargeWei + b.receipt.charge ≤
      b.receipt.cumulativeChargeWei := by
  obtain ⟨-, -, -, -, -, hs, -, hc, -⟩ := advanceWithContiguity_eq_ok_iff.1 h
  exact ⟨hs, hc⟩

/-- Receipts in between may be left out. -/
theorem Settles.trans (h : Settles P provider a b) (h' : Settles P provider b d) : Settles P provider a d := by
  obtain ⟨-, he, hp, hm, hk, hs, hlt, hc, -⟩ := advanceWithContiguity_eq_ok_iff.1 h
  obtain ⟨hv, he', hp', hm', hk', hs', hlt', hc', -⟩ := advanceWithContiguity_eq_ok_iff.1 h'
  simp only [ofAcknowledged] at *
  exact advanceWithContiguity_eq_ok_iff.2 ⟨hv, he'.trans he, hp'.trans hp, hm'.trans hm, hk'.trans hk, hs.trans hs',
    by simp only [ofAcknowledged]; omega, by simp only [ofAcknowledged]; omega, by simp, rfl⟩

theorem StrictChain.checkpoint (h : StrictChain P consumer (a :: receipts) c) : c = ofAcknowledged a := by
  cases h with
  | first _ hb => exact (beginWithContiguity_eq_ok_iff.1 hb).2.2.2
  | next _ _ ha => exact (advanceWithContiguity_eq_ok_iff.1 ha).2.2.2.2.2.2.2.2.2

/-- The receipts up to one of the chain are a chain. -/
theorem StrictChain.upTo (h : StrictChain P consumer receipts c) (ha : a ∈ receipts) :
    ∃ earlier, (a :: earlier) <:+ receipts ∧ StrictChain P consumer (a :: earlier) (ofAcknowledged a) := by
  induction h with
  | first hn hb =>
    obtain rfl := List.mem_singleton.1 ha
    have hc := StrictChain.first hn hb
    exact ⟨[], List.suffix_rfl, hc.checkpoint ▸ hc⟩
  | next h hn hadv ih =>
    rcases List.mem_cons.1 ha with rfl | ha
    · have hc := StrictChain.next h hn hadv
      exact ⟨_, List.suffix_rfl, hc.checkpoint ▸ hc⟩
    · obtain ⟨earlier, hs, he⟩ := ih ha
      exact ⟨earlier, hs.trans (List.suffix_cons _ _), he⟩

section

variable (hv : P.verifySignature consumer = P.verifySignature provider)
include hv

theorem verify_congr (a : AcknowledgedServiceReceipt) : a.verify P consumer = a.verify P provider := by
  simp only [AcknowledgedServiceReceipt.verify, SignedServiceReceipt.verify, hv]

/-- A provider may begin with any receipt of the chain, and accepts every later one. -/
theorem StrictChain.accepted (h : StrictChain P consumer receipts c) :
    receipts.Pairwise (fun b a => Settles P provider a b) ∧
    ∀ a ∈ receipts, beginForSettlement P a provider = .ok (ofAcknowledged a) := by
  induction h with
  | @first a _ _ _ _ _ _ _ _ _ _ _ hb =>
    obtain ⟨hve, hc, -⟩ := beginWithContiguity_eq_ok_iff.1 hb
    rw [verify_congr hv] at hve
    refine ⟨List.pairwise_singleton _ _, fun a ha => ?_⟩
    obtain rfl := List.mem_singleton.1 ha
    exact beginWithContiguity_eq_ok_iff.2 ⟨hve, hc, by simp, rfl⟩
  | @next a b _ _ receipts _ _ _ _ _ _ h _ hadv ih =>
    obtain rfl := h.checkpoint
    obtain ⟨hve, he, hp, hm, hk, hs, hlt, hc, -⟩ := advanceWithContiguity_eq_ok_iff.1 hadv
    rw [verify_congr hv] at hve
    have hf : Settles P provider a b :=
      advanceWithContiguity_eq_ok_iff.2 ⟨hve, he, hp, hm, hk, hs, hlt, hc, by simp, rfl⟩
    refine ⟨List.pairwise_cons.2 ⟨fun x hx => ?_, ih.1⟩, fun x hx => ?_⟩
    · rcases List.mem_cons.1 hx with rfl | hx
      · exact hf
      · exact ((List.pairwise_cons.1 ih.1).1 x hx).trans hf
    · rcases List.mem_cons.1 hx with rfl | hx
      · exact beginWithContiguity_eq_ok_iff.2 ⟨hve, le_of_add_le_right hc, by simp, rfl⟩
      · exact ih.2 x hx

end

/-- A provider that has accepted no receipt after `a`. -/
def reached (a : AcknowledgedServiceReceipt) : Option ReceiptSequenceCheckpoint × Nat :=
  (some (ofAcknowledged a), a.receipt.cumulativeChargeWei)

/-- The later of two receipts is the one to stand at. -/
theorem deliver_reached (h : receipts.Pairwise fun b a => Settles P provider a b) (ha : a ∈ receipts)
    (hb : b ∈ receipts) : a.receipt.sequence < b.receipt.sequence ∧ deliver P provider (reached a) b = reached b ∨
      b.receipt.sequence ≤ a.receipt.sequence ∧ deliver P provider (reached a) b = reached a := by
  by_cases hf : Settles P provider a b
  · obtain ⟨hs, hc⟩ := hf.lt
    refine .inl ⟨hs, ?_⟩
    rw [reached, deliver, show advanceForSettlement P (ofAcknowledged a) b provider = _ from hf]
    simp only [reached, ofAcknowledged, AcknowledgedServiceReceipt.receipt, Prod.mk.injEq, true_and] at hc ⊢
    omega
  · have : Std.Symm fun x y => Settles P provider y x ∨ Settles P provider x y := ⟨fun _ _ => Or.symm⟩
    have hp : receipts.Pairwise fun x y => Settles P provider y x ∨ Settles P provider x y := h.imp .inl
    have hs : b.receipt.sequence ≤ a.receipt.sequence := by
      by_cases he : a = b
      · rw [he]
      · exact ((hp.forall ha hb he).resolve_right hf).lt.1.le
    refine .inr ⟨hs, ?_⟩
    cases hadv : (ofAcknowledged a).advanceForSettlement P b provider with
    | ok c' => exact absurd (advanceWithContiguity_eq_ok_iff.1 hadv).2.2.2.2.2.1 hs.not_gt
    | error e => rw [reached, deliver, hadv]

theorem deliver_run (h : receipts.Pairwise fun b a => Settles P provider a b) (ha : a ∈ receipts)
    (hd : ∀ b ∈ delivered, b ∈ receipts) : ∃ highest ∈ a :: delivered,
      (∀ b ∈ a :: delivered, b.receipt.sequence ≤ highest.receipt.sequence) ∧
      delivered.foldl (deliver P provider) (reached a) = reached highest := by
  induction delivered generalizing a with
  | nil => exact ⟨a, by simp, by simp, rfl⟩
  | cons b delivered ih =>
    rw [List.foldl_cons]
    have hb := hd b List.mem_cons_self
    replace hd := fun x hx => hd x (List.mem_cons_of_mem b hx)
    rcases deliver_reached h ha hb with ⟨hs, hst⟩ | ⟨hs, hst⟩
    · obtain ⟨highest, hm, hle, hr⟩ := ih hb hd
      exact ⟨highest, List.mem_cons_of_mem _ hm, by grind, by rw [hst, hr]⟩
    · obtain ⟨highest, hm, hle, hr⟩ := ih ha hd
      exact ⟨highest, by grind, by grind, by rw [hst, hr]⟩

end

/-- **Lost acknowledgements are caught up with**: whatever receipts of a chain are delivered, in any order and with
repetitions, the provider ends with the checkpoint that the consumer had after the highest of them, and has accepted
its cumulative charge. -/
theorem lost_acknowledgements_caught_up {P : Primitives} {consumer provider : CryptDE}
    (hverify : P.verifySignature consumer = P.verifySignature provider)
    {receipts : List AcknowledgedServiceReceipt} {c : ReceiptSequenceCheckpoint}
    (hchain : StrictChain P consumer receipts c)
    {delivered : List AcknowledgedServiceReceipt} (hdelivered : ∀ a ∈ delivered, a ∈ receipts) (hne : delivered ≠ []) :
    ∃ highest ∈ delivered,
      (∀ a ∈ delivered, a.receipt.sequence ≤ highest.receipt.sequence) ∧
      ∃ earlier strict, (highest :: earlier) <:+ receipts ∧ StrictChain P consumer (highest :: earlier) strict ∧
        delivered.foldl (deliver P provider) (none, 0) =
          (some strict, highest.receipt.cumulativeChargeWei) := by
  obtain ⟨hp, hb⟩ := hchain.accepted hverify
  obtain ⟨a, rest, rfl⟩ := List.exists_cons_of_ne_nil hne
  have ha := hdelivered a List.mem_cons_self
  obtain ⟨highest, hm, hle, hr⟩ := deliver_run hp ha fun b hb' => hdelivered b (List.mem_cons_of_mem a hb')
  obtain ⟨earlier, hs, he⟩ := hchain.upTo (hdelivered highest hm)
  refine ⟨highest, hm, hle, earlier, _, hs, he, ?_⟩
  rw [List.foldl_cons, deliver, hb a ha]
  simpa [reached, ofAcknowledged] using hr

/-- Receipt number `n` of a route, each for 2. -/
def sampleAcknowledged (n : Nat) : AcknowledgedServiceReceipt :=
  ⟨⟨⟨1, 1, n, .exit, [9], 1, 1, 1, 1, 1, 2 * n⟩, [0]⟩, [8], [0]⟩

/-- Of two acknowledgements the first is lost. -/
theorem lost_acknowledgements_caught_up_sample : ∃ highest ∈ [sampleAcknowledged 2],
    (∀ a ∈ [sampleAcknowledged 2], a.receipt.sequence ≤ highest.receipt.sequence) ∧ ∃ earlier strict,
      (highest :: earlier) <:+ [sampleAcknowledged 2, sampleAcknowledged 1] ∧
      StrictChain .accepting ⟨[8], []⟩ (highest :: earlier) strict ∧
      [sampleAcknowledged 2].foldl (deliver .accepting ⟨[9], []⟩) (none, 0) =
        (some strict, highest.receipt.cumulativeChargeWei) := by
  have h : StrictChain .accepting ⟨[8], []⟩ [sampleAcknowledged 1] (ofAcknowledged (sampleAcknowledged 1)) :=
    .first (rfl : _ = ServiceReceipt.newWithServiceUnits 1 1 .exit [9] 1 1 1 1 1) rfl
  have hn : (sampleAcknowledged 1).receipt.nextWithServiceUnits 2 .exit 1 1 1 1 =
    .ok (sampleAcknowledged 2).receipt := rfl
  exact lost_acknowledgements_caught_up rfl (.next h hn rfl) (by simp) (by simp)

end MasqMobile
