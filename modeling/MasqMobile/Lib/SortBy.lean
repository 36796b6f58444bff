import Mathlib

/-!
# Sorting by a key

`sortBy key l` is the stable ascending sort of `l`.

`dedupBy key l` keeps the first of neighbours with one key.
-/

namespace Lists

variable {α β κ : Type*} [LE κ] [DecidableLE κ] {key : α → κ} {l l' : List α}

/-- Ascending by key; values of one key keep their order. -/
def sortBy (key : α → κ) (l : List α) : List α := l.insertionSort fun a b => key a ≤ key b

theorem sortBy_perm (key : α → κ) (l : List α) : (sortBy key l).Perm l := List.perm_insertionSort _ l

@[simp] theorem mem_sortBy : a ∈ sortBy key l ↔ a ∈ l := (sortBy_perm key l).mem_iff

theorem sortBy_map (f : β → α) (l : List β) : sortBy key (l.map f) = (sortBy (fun b => key (f b)) l).map f :=
  (List.map_insertionSort _ _ f l fun _ _ _ _ => Iff.rfl).symm

theorem sortBy_eq_self (hl : l.Pairwise fun a b => key a ≤ key b) : sortBy key l = l := hl.insertionSort_eq

variable [Std.IsLinearOrder κ]

theorem pairwise_sortBy (key : α → κ) (l : List α) : (sortBy key l).Pairwise fun a b => key a ≤ key b :=
  haveI : Std.Total fun a b : α => key a ≤ key b := ⟨fun a b => Std.Total.total (r := (· ≤ ·)) (key a) (key b)⟩
  haveI : IsTrans α fun a b => key a ≤ key b := ⟨fun _ _ _ => Std.le_trans⟩
  List.pairwise_insertionSort _ l

omit [DecidableLE κ] in
/-- Two ascending lists of the same values are equal, provided no two values share a key. -/
theorem eq_of_perm_of_ascending (hk : ∀ a ∈ l, ∀ b ∈ l, key a = key b → a = b) (hp : l.Perm l')
    (hl : l.Pairwise fun a b => key a ≤ key b) (hl' : l'.Pairwise fun a b => key a ≤ key b) : l = l' :=
  hp.eq_of_pairwise (fun a b ha hb hab hba => hk a ha b (hp.mem_iff.2 hb) (Std.le_antisymm hab hba)) hl hl'

theorem sortBy_eq_of_perm (hk : ∀ a ∈ l, ∀ b ∈ l, key a = key b → a = b) (hp : l.Perm l') :
    sortBy key l = sortBy key l' :=
  eq_of_perm_of_ascending (by simpa using hk)
    ((sortBy_perm key l).trans (hp.trans (sortBy_perm key l').symm)) (pairwise_sortBy key l) (pairwise_sortBy key l')

/-! ## Repeated keys -/

section Dedup

variable [DecidableEq κ]

/-- Of neighbours with one key the first stays. -/
def dedupBy {α κ : Type*} [DecidableEq κ] (key : α → κ) (l : List α) : List α := l.destutter fun a b => key a ≠ key b

omit [LE κ] [DecidableLE κ] [Std.IsLinearOrder κ]

theorem dedupBy_sublist (key : α → κ) (l : List α) : (dedupBy key l).Sublist l := List.destutter_sublist _ l

theorem exists_mem_destutter' (hb : b ∈ a :: l) : ∃ c ∈ l.destutter' (fun a b => key a ≠ key b) a, key c = key b := by
  induction l generalizing a with
  | nil => exact ⟨a, by simp, by rw [List.mem_singleton.1 hb]⟩
  | cons d l ih =>
    rcases List.mem_cons.1 hb with rfl | hb
    · exact ⟨b, (d :: l).mem_destutter' _ b, rfl⟩
    · by_cases hk : key a = key d
      · rw [List.destutter'_cons_neg _ (not_not.2 hk)]
        rcases List.mem_cons.1 hb with rfl | hl
        · exact ⟨a, l.mem_destutter' _ a, hk⟩
        · exact ih (List.mem_cons_of_mem a hl)
      · rw [List.destutter'_cons_pos _ hk]
        obtain ⟨c, hc, heq⟩ := ih hb
        exact ⟨c, List.mem_cons_of_mem a hc, heq⟩

theorem exists_mem_dedupBy (key : α → κ) (hb : b ∈ l) : ∃ c ∈ dedupBy key l, key c = key b := by
  cases l with
  | nil => cases hb
  | cons a l => exact exists_mem_destutter' hb

end Dedup

section SortDedup

variable [DecidableEq κ]

theorem nodup_dedupBy_sortBy (key : α → κ) (l : List α) : ((dedupBy key (sortBy key l)).map key).Nodup := by
  have hle : (dedupBy key (sortBy key l)).IsChain fun a b => key a ≤ key b :=
    ((pairwise_sortBy key l).sublist (dedupBy_sublist key _)).isChain
  have hne : (dedupBy key (sortBy key l)).IsChain fun a b => key a ≠ key b := List.isChain_destutter _ _
  -- neighbours that ascend and differ ascend strictly, which is transitive
  have hlt : (dedupBy key (sortBy key l)).IsChain fun a b => key a ≤ key b ∧ key a ≠ key b :=
    List.isChain_iff_getElem.2 fun i hi =>
      ⟨List.isChain_iff_getElem.1 hle i hi, List.isChain_iff_getElem.1 hne i hi⟩
  have : IsTrans α fun a b => key a ≤ key b ∧ key a ≠ key b :=
    ⟨fun a b c hab hbc => ⟨Std.le_trans hab.1 hbc.1, fun hac => hab.2 (Std.le_antisymm hab.1 (hac ▸ hbc.1))⟩⟩
  exact List.pairwise_map.2 (hlt.pairwise.imp And.right)

/-- Sorting and removing repetitions depends on the set of values alone. -/
theorem dedupBy_sortBy_eq {l l' : List κ} (h : ∀ k, k ∈ l ↔ k ∈ l') :
    dedupBy id (sortBy id l) = dedupBy id (sortBy id l') := by
  have hm : ∀ (l : List κ) (k : κ), k ∈ dedupBy id (sortBy id l) ↔ k ∈ l := by
    intro l k
    constructor
    · exact fun hk => mem_sortBy.1 ((dedupBy_sublist id _).subset hk)
    · intro hk
      have hs : k ∈ sortBy id l := mem_sortBy.2 hk
      obtain ⟨c, hc, rfl⟩ := exists_mem_dedupBy id hs
      exact hc
  have hnd : ∀ l : List κ, (dedupBy id (sortBy id l)).Nodup := fun l => by
    simpa using nodup_dedupBy_sortBy id l
  have hs : ∀ l : List κ, (dedupBy id (sortBy id l)).Pairwise fun a b => id a ≤ id b := fun l =>
    (pairwise_sortBy id l).sublist (dedupBy_sublist id _)
  refine eq_of_perm_of_ascending (fun a _ b _ hab => hab) ?_ (hs l) (hs l')
  exact (List.perm_ext_iff_of_nodup (hnd l) (hnd l')).2 fun k => by rw [hm, hm, h]

omit [Std.IsLinearOrder κ] in
theorem length_dedupBy_sortBy {l : List κ} (h : l.Nodup) : (dedupBy id (sortBy id l)).length = l.length := by
  have hs : (sortBy id l).Nodup := (sortBy_perm id l).nodup_iff.2 h
  have hk : dedupBy id (sortBy id l) = sortBy id l := List.destutter_of_isChain _ _ hs.isChain
  rw [hk, (sortBy_perm id l).length_eq]

end SortDedup

end Lists
