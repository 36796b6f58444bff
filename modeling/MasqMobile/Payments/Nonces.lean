import MasqMobile.Lib.Consecutive
import MasqMobile.Payments.PayableScan

/-!
# The nonces of a batch

Model of `SignableTxTemplates` (`tx_templates/signable/mod.rs`) and of `reorder_by_nonces`
(`tx_templates/priced/retry.rs:116`). The templates of a batch are numbered through, from the latest nonce of the
wallet on. Templates of retries are sorted by their previous nonces and rotated before, so that the one whose previous
nonce is the latest comes first.

| here | there |
|---|---|
| `PricedRetryTxTemplate` | `tx_templates/priced/retry.rs:14` |
| `reorderByNonces` | `reorder_by_nonces`, `tx_templates/priced/retry.rs:116` |
| `SignableTxTemplates.new` | `tx_templates/signable/mod.rs:74` |

A retried transaction takes the place of its original only under the original's nonce. An original whose nonce is the
latest one or above may still be mined, so that its retry must not get another: both would be paid. The templates are
numbered without gaps, so that the previous nonces from the latest on must not have gaps either.

Nonces are 64-bit words; the sum of the latest nonce and a position wraps as it does in a release build.
-/

namespace MasqMobile

structure PricedNewTxTemplate where
  base : BaseTxTemplate
  computedGasPriceWei : Nat
  deriving DecidableEq, Repr

structure PricedRetryTxTemplate where
  base : BaseTxTemplate
  prevNonce : UInt64
  computedGasPriceWei : Nat
  deriving DecidableEq, Repr

structure SignableTxTemplate where
  receiverAddress : Address
  amountInWei : Nat
  gasPriceWei : Nat
  nonce : UInt64
  deriving DecidableEq, Repr

def SignableTxTemplate.ofPricedNew (template : PricedNewTxTemplate) (nonce : UInt64) : SignableTxTemplate :=
  ⟨template.base.receiverAddress, template.base.amountInWei, template.computedGasPriceWei, nonce⟩

def SignableTxTemplate.ofPricedRetry (template : PricedRetryTxTemplate) (nonce : UInt64) : SignableTxTemplate :=
  ⟨template.base.receiverAddress, template.base.amountInWei, template.computedGasPriceWei, nonce⟩

namespace PricedRetryTxTemplates

/-- `sort_by_key` is stable, as insertion is. -/
def sortedByNonce (templates : List PricedRetryTxTemplate) : List PricedRetryTxTemplate :=
  templates.insertionSort fun t t' => t.prevNonce ≤ t'.prevNonce

def reorderByNonces (latestNonce : UInt64) (templates : List PricedRetryTxTemplate) : List PricedRetryTxTemplate :=
  let sorted := sortedByNonce templates
  let splitIndex := (sorted.findIdx? (·.prevNonce = latestNonce)).getD 0
  let (left, right) := sorted.splitAt splitIndex
  right ++ left

end PricedRetryTxTemplates

namespace SignableTxTemplates

/-- The templates with their nonces: `enumerate`, and `latest_nonce + i as u64`. -/
def assignNonces {α : Type} (latestNonce : UInt64) (templates : List α) : List (α × UInt64) :=
  templates.zipIdx.map fun (template, i) => (template, latestNonce + .ofNat i)

def ofPricedNew (templates : List PricedNewTxTemplate) (latestNonce : UInt64) : List SignableTxTemplate :=
  (assignNonces latestNonce templates).map fun (template, nonce) => .ofPricedNew template nonce

def retryNonces (templates : List PricedRetryTxTemplate) (latestNonce : UInt64) :
    List (PricedRetryTxTemplate × UInt64) :=
  assignNonces latestNonce (PricedRetryTxTemplates.reorderByNonces latestNonce templates)

def ofPricedRetry (templates : List PricedRetryTxTemplate) (latestNonce : UInt64) : List SignableTxTemplate :=
  (retryNonces templates latestNonce).map fun (template, nonce) => .ofPricedRetry template nonce

def new (templates : List PricedNewTxTemplate ⊕ List PricedRetryTxTemplate) (latestNonce : UInt64) :
    List SignableTxTemplate :=
  match templates with
  | .inl pricedNewTxTemplates => ofPricedNew pricedNewTxTemplates latestNonce
  | .inr pricedRetryTxTemplates => ofPricedRetry pricedRetryTxTemplates latestNonce

end SignableTxTemplates

/-! ## The order of the templates -/

variable {t : PricedRetryTxTemplate}

namespace PricedRetryTxTemplates

variable {templates : List PricedRetryTxTemplate} {latestNonce : UInt64}

theorem sortedByNonce_perm (templates : List PricedRetryTxTemplate) : (sortedByNonce templates).Perm templates :=
  List.perm_insertionSort _ templates

/-- Templates with distinct previous nonces are in strictly increasing order of them. -/
theorem sortedByNonce_pairwise (hd : (templates.map PricedRetryTxTemplate.prevNonce).Nodup) :
    (sortedByNonce templates).Pairwise fun t t' => t.prevNonce < t'.prevNonce := by
  have hle : (sortedByNonce templates).Pairwise fun t t' => t.prevNonce ≤ t'.prevNonce :=
    List.pairwise_insertionSort _ templates
  have hne : (sortedByNonce templates).Pairwise fun t t' => t.prevNonce ≠ t'.prevNonce :=
    List.pairwise_map.1 (((sortedByNonce_perm templates).map _).nodup_iff.2 hd)
  exact hle.imp₂ (fun t t' h h' => UInt64.lt_of_le_of_ne h h') hne

def below (latestNonce : UInt64) (templates : List PricedRetryTxTemplate) : List PricedRetryTxTemplate :=
  (sortedByNonce templates).takeWhile (·.prevNonce < latestNonce)

def fromLatest (latestNonce : UInt64) (templates : List PricedRetryTxTemplate) : List PricedRetryTxTemplate :=
  (sortedByNonce templates).dropWhile (·.prevNonce < latestNonce)

theorem below_append_fromLatest (latestNonce : UInt64) (templates : List PricedRetryTxTemplate) :
    below latestNonce templates ++ fromLatest latestNonce templates = sortedByNonce templates :=
  List.takeWhile_append_dropWhile

theorem lt_of_mem_below (ht : t ∈ below latestNonce templates) : t.prevNonce < latestNonce := by
  simpa using List.all_eq_true.1 (List.all_takeWhile (l := sortedByNonce templates)) t ht

section

variable (hd : (templates.map PricedRetryTxTemplate.prevNonce).Nodup)
include hd

theorem le_of_mem_fromLatest (ht : t ∈ fromLatest latestNonce templates) : latestNonce ≤ t.prevNonce := by
  have hn := Consecutive.not_of_mem_dropWhile (fun x y hxy hy => ?_) (sortedByNonce_pairwise hd) ht
  · simpa using hn
  · simp only [decide_eq_true_eq] at hy ⊢
    exact UInt64.lt_trans hxy hy

theorem mem_fromLatest : t ∈ fromLatest latestNonce templates ↔ t ∈ templates ∧ latestNonce ≤ t.prevNonce := by
  have hm : t ∈ templates ↔ t ∈ below latestNonce templates ∨ t ∈ fromLatest latestNonce templates := by
    rw [← (sortedByNonce_perm templates).mem_iff, ← below_append_fromLatest latestNonce, List.mem_append]
  constructor
  · intro ht
    exact ⟨hm.2 (.inr ht), le_of_mem_fromLatest hd ht⟩
  · rintro ⟨ht, hle⟩
    rcases hm.1 ht with hb | hf
    · exact absurd (lt_of_mem_below hb) (UInt64.not_lt.2 hle)
    · exact hf

theorem fromLatest_pairwise : (fromLatest latestNonce templates).Pairwise fun t t' => t.prevNonce < t'.prevNonce :=
  (sortedByNonce_pairwise hd).sublist (List.dropWhile_sublist _)

/-- If the latest nonce is among the previous ones, it is the first of those that are not below it. -/
theorem exists_fromLatest_eq_cons (hla : latestNonce ∈ templates.map PricedRetryTxTemplate.prevNonce) :
    ∃ t rest, fromLatest latestNonce templates = t :: rest ∧ t.prevNonce = latestNonce := by
  obtain ⟨t, ht, rfl⟩ := List.mem_map.1 hla
  have hf := (mem_fromLatest hd).2 ⟨ht, UInt64.le_refl t.prevNonce⟩
  have hs : (fromLatest t.prevNonce templates).Pairwise fun t₁ t₂ => t₁.prevNonce < t₂.prevNonce :=
    fromLatest_pairwise hd
  cases hl : fromLatest t.prevNonce templates with
  | nil => simp [hl] at hf
  | cons first rest =>
    refine ⟨first, rest, rfl, ?_⟩
    rw [hl] at hf hs
    rcases List.mem_cons.1 hf with rfl | hm
    · rfl
    · have hlt := (List.pairwise_cons.1 hs).1 t hm
      have hle : t.prevNonce ≤ first.prevNonce := le_of_mem_fromLatest hd (hl ▸ List.mem_cons_self)
      exact absurd hlt (UInt64.not_lt.2 hle)

/-- The rotation puts the templates from the latest nonce on first, provided that one of them has it. -/
theorem reorderByNonces_eq : reorderByNonces latestNonce templates =
      if latestNonce ∈ templates.map PricedRetryTxTemplate.prevNonce then
        fromLatest latestNonce templates ++ below latestNonce templates
      else below latestNonce templates ++ fromLatest latestNonce templates := by
  simp only [reorderByNonces, List.splitAt_eq]
  split
  · rename_i hl
    obtain ⟨t, rest, hf, hno⟩ := exists_fromLatest_eq_cons hd hl
    have hn : (below latestNonce templates).findIdx? (·.prevNonce = latestNonce) = none := by
      refine List.findIdx?_eq_none_iff.2 ?_
      intro t' ht'
      have hlt := lt_of_mem_below ht'
      simpa using UInt64.ne_of_lt hlt
    have hid : (sortedByNonce templates).findIdx? (·.prevNonce = latestNonce) =
        some (below latestNonce templates).length := by
      rw [← below_append_fromLatest latestNonce, List.findIdx?_append, hn, hf, List.findIdx?_cons]
      simp [hno]
    rw [hid, ← below_append_fromLatest latestNonce]
    simp
  · rename_i hl
    have hn : (sortedByNonce templates).findIdx? (·.prevNonce = latestNonce) = none := by
      refine List.findIdx?_eq_none_iff.2 ?_
      intro t ht
      have hm := (sortedByNonce_perm templates).mem_iff.1 ht
      simpa using fun heq => hl (List.mem_map.2 ⟨t, hm, heq⟩)
    simp [hn, below_append_fromLatest]

theorem reorderByNonces_perm : (reorderByNonces latestNonce templates).Perm templates := by
  refine .trans ?_ (sortedByNonce_perm templates)
  rw [reorderByNonces_eq hd, ← below_append_fromLatest latestNonce]
  split
  · exact List.perm_append_comm
  · exact .refl _

theorem length_below : (below latestNonce templates).length = templates.countP (·.prevNonce < latestNonce) := by
  rw [← (sortedByNonce_perm templates).countP_eq, ← below_append_fromLatest latestNonce, List.countP_append]
  have ha : (below latestNonce templates).countP (·.prevNonce < latestNonce) = (below latestNonce templates).length :=
    List.countP_eq_length.2 fun t ht => by simpa using lt_of_mem_below ht
  have hn : (fromLatest latestNonce templates).countP (·.prevNonce < latestNonce) = 0 :=
    List.countP_eq_zero.2 fun t ht => by simpa using le_of_mem_fromLatest hd ht
  omega

theorem length_le : templates.length ≤ 2 ^ 64 := by
  have hnd : (templates.map fun t => t.prevNonce.toNat).Nodup := by
    have := hd.map (f := UInt64.toNat) fun a b h => UInt64.toNat_inj.1 h
    rwa [List.map_map] at this
  have hs : (templates.map fun t => t.prevNonce.toNat) ⊆ List.range (2 ^ 64) := by
    intro n hn
    obtain ⟨t, -, rfl⟩ := List.mem_map.1 hn
    exact List.mem_range.2 t.prevNonce.toNat_lt
  simpa using (List.subperm_of_subset hnd hs).length_le

end

end PricedRetryTxTemplates

/-! ## Numbering -/

namespace SignableTxTemplates

open PricedRetryTxTemplates

variable {templates : List PricedRetryTxTemplate} {latestNonce : UInt64}

theorem add_ofNat_eq_iff {a b : UInt64} {i : Nat} (hi : i < 2 ^ 64) (hle : a ≤ b) :
    a + .ofNat i = b ↔ b.toNat = a.toNat + i := by
  have ha := a.toNat_lt
  have hb := b.toNat_lt
  rw [UInt64.le_iff_toNat_le] at hle
  rw [← UInt64.toNat_inj, UInt64.toNat_add, UInt64.toNat_ofNat_of_lt' hi]
  by_cases hs : a.toNat + i < 2 ^ 64
  · rw [Nat.mod_eq_of_lt hs]
    exact eq_comm
  · rw [Nat.mod_eq_sub_mod (by omega), Nat.mod_eq_of_lt (by omega)]
    omega

/-- Templates from the latest nonce on keep their nonces under a numbering exactly if their nonces are a run. -/
theorem forall_zipIdx_iff {l : List PricedRetryTxTemplate} {o : Nat} (hle : ∀ t ∈ l, latestNonce ≤ t.prevNonce)
    (hl : o + l.length ≤ 2 ^ 64) :
    (∀ t i, (t, i) ∈ l.zipIdx o → latestNonce + .ofNat i = t.prevNonce) ↔
      l.map (fun t => t.prevNonce.toNat) = List.range' (latestNonce.toNat + o) l.length := by
  induction l generalizing o with
  | nil => simp
  | cons t l ih =>
    rw [List.length_cons] at hl
    obtain ⟨hf, hr⟩ := List.forall_mem_cons.1 hle
    have ht := ih hr (show o + 1 + l.length ≤ 2 ^ 64 by omega)
    have hh := add_ofNat_eq_iff (show o < 2 ^ 64 by omega) hf
    simp only [List.zipIdx_cons, List.mem_cons, List.map_cons, List.length_cons, List.range'_succ, List.cons.injEq]
    rw [Nat.add_assoc, ← ht, ← hh]
    constructor
    · intro h
      exact ⟨h t o (.inl rfl), fun t' i hm => h t' i (.inr hm)⟩
    · rintro ⟨how, ho⟩ t' i (heq | hm)
      · obtain ⟨rfl, rfl⟩ := Prod.mk.inj heq
        exact how
      · exact ho t' i hm

theorem assignNonces_nodup {α : Type} {l : List α} (hl : l.length ≤ 2 ^ 64) :
    ((assignNonces latestNonce l).map Prod.snd).Nodup := by
  have hm : (assignNonces latestNonce l).map Prod.snd =
      (List.range' 0 l.length).map fun i => latestNonce + .ofNat i := by
    rw [assignNonces, List.map_map, ← List.zipIdx_map_snd 0 l, List.map_map]
    rfl
  rw [hm]
  refine List.Nodup.map_on ?_ List.nodup_range'
  intro i hi j hj heq
  rw [List.mem_range'_1] at hi hj
  have hi6 : i < 2 ^ 64 := by omega
  have hj6 : j < 2 ^ 64 := by omega
  have hij : UInt64.ofNat i = .ofNat j := by simpa using heq
  have hn := congrArg UInt64.toNat hij
  rwa [UInt64.toNat_ofNat_of_lt' hi6, UInt64.toNat_ofNat_of_lt' hj6] at hn

theorem mem_retryNonces {nonce : UInt64} : (t, nonce) ∈ retryNonces templates latestNonce ↔
      ∃ i, (t, i) ∈ (reorderByNonces latestNonce templates).zipIdx ∧ latestNonce + .ofNat i = nonce := by
  simp only [retryNonces, assignNonces, List.mem_map, Prod.exists, Prod.mk.injEq]
  constructor
  · rintro ⟨t', i, hm, rfl, rfl⟩
    exact ⟨i, hm, rfl⟩
  · rintro ⟨i, hm, rfl⟩
    exact ⟨t, i, hm, rfl, rfl⟩

/-! ## Reuse -/

/-- Every template whose original may still be mined keeps its nonce, no other template gets one of theirs, and
no two templates get the same. -/
structure ReusesNonces (templates : List PricedRetryTxTemplate) (latestNonce : UInt64) : Prop where
  own : ∀ t nonce, (t, nonce) ∈ retryNonces templates latestNonce → latestNonce ≤ t.prevNonce → nonce = t.prevNonce
  others : ∀ t nonce t' nonce', (t, nonce) ∈ retryNonces templates latestNonce →
    (t', nonce') ∈ retryNonces templates latestNonce → latestNonce ≤ t.prevNonce → t'.prevNonce < latestNonce →
    nonce' ≠ nonce
  distinct : ((retryNonces templates latestNonce).map Prod.snd).Nodup

/-- Where the nonces that are kept have to start: at the latest nonce if a template has it, otherwise behind as
many nonces as there are templates below it. -/
def firstKept (templates : List PricedRetryTxTemplate) (latestNonce : UInt64) : Nat :=
  if latestNonce ∈ templates.map PricedRetryTxTemplate.prevNonce then latestNonce.toNat
  else latestNonce.toNat + templates.countP (·.prevNonce < latestNonce)

/-- The previous nonces from the latest on start there and have no gap. -/
def GapFree (templates : List PricedRetryTxTemplate) (latestNonce : UInt64) : Prop :=
  ∀ t ∈ templates, latestNonce ≤ t.prevNonce → firstKept templates latestNonce ≤ t.prevNonce.toNat ∧
    ∀ n, firstKept templates latestNonce ≤ n → n < t.prevNonce.toNat → ∃ t' ∈ templates, t'.prevNonce.toNat = n

def offset (latestNonce : UInt64) (templates : List PricedRetryTxTemplate) : Nat :=
  if latestNonce ∈ templates.map PricedRetryTxTemplate.prevNonce then 0 else (below latestNonce templates).length

section

variable (hd : (templates.map PricedRetryTxTemplate.prevNonce).Nodup)
include hd

theorem firstKept_eq : firstKept templates latestNonce = latestNonce.toNat + offset latestNonce templates := by
  unfold firstKept offset
  split
  · rfl
  · rw [length_below hd]

theorem offset_add_length_le : offset latestNonce templates + (fromLatest latestNonce templates).length ≤ 2 ^ 64 := by
  have hl := length_le hd
  have hs := congrArg List.length (below_append_fromLatest latestNonce templates)
  rw [List.length_append, (sortedByNonce_perm templates).length_eq] at hs
  unfold offset
  split <;> omega

/-- Only the templates from the latest nonce on matter, at their place in the batch. -/
theorem own_iff :
    (∀ t nonce, (t, nonce) ∈ retryNonces templates latestNonce → latestNonce ≤ t.prevNonce → nonce = t.prevNonce) ↔
      ∀ t i, (t, i) ∈ (fromLatest latestNonce templates).zipIdx (offset latestNonce templates) →
        latestNonce + .ofNat i = t.prevNonce := by
  have hz : ∀ t i, latestNonce ≤ t.prevNonce → ((t, i) ∈ (reorderByNonces latestNonce templates).zipIdx ↔
      (t, i) ∈ (fromLatest latestNonce templates).zipIdx (offset latestNonce templates)) := by
    intro t i hle
    have hn : ∀ k, (t, i) ∉ (below latestNonce templates).zipIdx k := by
      intro k hm
      exact absurd (lt_of_mem_below (List.fst_mem_of_mem_zipIdx hm)) (UInt64.not_lt.2 hle)
    rw [reorderByNonces_eq hd, offset]
    split <;> simp [List.zipIdx_append, hn]
  constructor
  · intro h t i hm
    have hle := le_of_mem_fromLatest hd (List.fst_mem_of_mem_zipIdx hm)
    exact h t _ (mem_retryNonces.2 ⟨i, (hz t i hle).2 hm, rfl⟩) hle
  · intro h t nonce hm hle
    obtain ⟨i, hi, rfl⟩ := mem_retryNonces.1 hm
    exact h t i ((hz t i hle).1 hi)

/-- The nonces from the latest on are a run exactly if there is no gap between them. -/
theorem range'_iff_gapFree : ((fromLatest latestNonce templates).map fun t => t.prevNonce.toNat) =
        List.range' (latestNonce.toNat + offset latestNonce templates) (fromLatest latestNonce templates).length ↔
      GapFree templates latestNonce := by
  have hso : ((fromLatest latestNonce templates).map fun t => t.prevNonce.toNat).Pairwise (· < ·) :=
    List.pairwise_map.2 ((fromLatest_pairwise hd).imp fun h => UInt64.lt_iff_toNat_lt.1 h)
  have hl : ((fromLatest latestNonce templates).map fun t => t.prevNonce.toNat).length =
      (fromLatest latestNonce templates).length := List.length_map _
  rw [← hl, Consecutive.eq_range'_iff hso, GapFree, firstKept_eq hd]
  constructor
  · intro h t ht hle
    obtain ⟨hs, hc⟩ := h _ (List.mem_map_of_mem ((mem_fromLatest hd).2 ⟨ht, hle⟩))
    refine ⟨hs, ?_⟩
    intro n hn hlt
    obtain ⟨t', ht', hn'⟩ := List.mem_map.1 (hc n hn hlt)
    exact ⟨t', ((mem_fromLatest hd).1 ht').1, hn'⟩
  · intro h n hn
    obtain ⟨t, ht, rfl⟩ := List.mem_map.1 hn
    obtain ⟨hm, hle⟩ := (mem_fromLatest hd).1 ht
    obtain ⟨hs, hc⟩ := h t hm hle
    refine ⟨hs, ?_⟩
    intro n hn hlt
    obtain ⟨t', ht', rfl⟩ := hc n hn hlt
    have hle' : latestNonce ≤ t'.prevNonce := UInt64.le_iff_toNat_le.2 (by omega)
    exact List.mem_map_of_mem ((mem_fromLatest hd).2 ⟨ht', hle'⟩)

end

/-- **Reuse of nonces.** Every template of a batch of retries gets one nonce, and these are distinct. Those whose
original may still be mined get the nonce of the original if and only if the previous nonces from the latest on
have no gap. -/
theorem retries_reuse_nonces (hdistinct : (templates.map PricedRetryTxTemplate.prevNonce).Nodup) :
    ((retryNonces templates latestNonce).map Prod.fst).Perm templates ∧
      (ReusesNonces templates latestNonce ↔ GapFree templates latestNonce) := by
  have hp : ((retryNonces templates latestNonce).map Prod.fst).Perm templates := by
    have hf : (retryNonces templates latestNonce).map Prod.fst = reorderByNonces latestNonce templates := by
      rw [retryNonces, assignNonces, List.map_map]
      exact List.zipIdx_map_fst 0 _
    rw [hf]
    exact reorderByNonces_perm hdistinct
  have hnd : ((retryNonces templates latestNonce).map Prod.snd).Nodup := by
    refine assignNonces_nodup ?_
    rw [(reorderByNonces_perm hdistinct).length_eq]
    exact length_le hdistinct
  have ho : (∀ t nonce, (t, nonce) ∈ retryNonces templates latestNonce → latestNonce ≤ t.prevNonce →
      nonce = t.prevNonce) ↔ GapFree templates latestNonce := by
    rw [own_iff hdistinct, ← range'_iff_gapFree hdistinct]
    exact forall_zipIdx_iff (fun t ht => le_of_mem_fromLatest hdistinct ht) (offset_add_length_le hdistinct)
  refine ⟨hp, fun h => ho.1 h.own, fun h => ⟨ho.2 h, ?_, hnd⟩⟩
  rintro t nonce t' nonce' hm hm' hle hlt rfl
  -- under one nonce there is one template
  have heq := List.inj_on_of_nodup_map hnd hm hm' rfl
  obtain rfl : t = t' := congrArg Prod.fst heq
  exact absurd hlt (UInt64.not_lt.2 hle)

/-! ### A gap -/

/-- A retry of 40 wei to a wallet. -/
def sampleRetry (wallet : Address) (prevNonce : UInt64) : PricedRetryTxTemplate := ⟨⟨wallet, 40⟩, prevNonce, 3⟩

/-- Nonce 6 is missing: the retry of the transaction with nonce 7 gets nonce 6, and both may be mined. -/
theorem gap_moves_nonce :
    ((([sampleRetry 1 5, sampleRetry 2 7] : List PricedRetryTxTemplate).map PricedRetryTxTemplate.prevNonce).Nodup) ∧
      (sampleRetry 2 7, 6) ∈ retryNonces [sampleRetry 1 5, sampleRetry 2 7] 5 ∧
      ¬ReusesNonces [sampleRetry 1 5, sampleRetry 2 7] 5 := by
  refine ⟨by decide, by decide, ?_⟩
  intro h
  exact absurd (h.own (sampleRetry 2 7) 6 (by decide) (by decide)) (by decide)

/-- Nonces 5 and 6 are kept; the transaction with nonce 3 is sent under nonce 7. -/
theorem retries_reuse_nonces_sample : ReusesNonces [sampleRetry 1 6, sampleRetry 2 3, sampleRetry 3 5] 5 ∧
      (sampleRetry 2 3, 7) ∈ retryNonces [sampleRetry 1 6, sampleRetry 2 3, sampleRetry 3 5] 5 := by
  refine ⟨(retries_reuse_nonces (by decide)).2.2 ?_, by decide⟩
  have hf : firstKept [sampleRetry 1 6, sampleRetry 2 3, sampleRetry 3 5] 5 = 5 := by decide
  intro t ht hle
  rw [hf]
  simp only [List.mem_cons, List.not_mem_nil, or_false] at ht
  rcases ht with rfl | rfl | rfl
  · refine ⟨by decide, fun n hn hlt => ⟨sampleRetry 3 5, by decide, ?_⟩⟩
    have hlt' : n < 6 := hlt
    have h5 : (sampleRetry 3 5).prevNonce.toNat = 5 := rfl
    omega
  · exact absurd hle (by decide)
  · refine ⟨by decide, fun n hn hlt => ?_⟩
    have hlt' : n < 5 := hlt
    omega

end SignableTxTemplates

end MasqMobile
