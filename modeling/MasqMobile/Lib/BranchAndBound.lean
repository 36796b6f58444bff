import Mathlib

/-!
# Branch and bound

A depth-first search for the goals of a tree that carries one bound through all its branches: a branch whose cost
exceeds the bound is cut off, a goal lowers the bound to its own cost.

The depth of the search is limited by a supply of steps; `Reaches` counts them too.
-/

/-- A tree whose leaves are goals, dead ends and nodes without children. -/
structure SearchTree (α κ : Type*) where
  children : α → List α
  isGoal : α → Bool
  isDead : α → Bool
  cost : α → κ

namespace SearchTree

variable {α κ : Type*} [LinearOrder κ]

/-- Visits one node after the other, each with the bound that the ones before have left. -/
def visitAll (visit : α → κ → List α × κ) : List α → κ → List α × κ
  | [], bound => ([], bound)
  | a :: as, bound =>
    let first := visit a bound
    let rest := visitAll visit as first.2
    (first.1 ++ rest.1, rest.2)

/-- The goals found below a node, and the bound afterwards. -/
def search (T : SearchTree α κ) : Nat → α → κ → List α × κ
  | 0, _, bound => ([], bound)
  | fuel + 1, a, bound =>
    if bound < T.cost a then ([], bound)
    else if T.isGoal a then ([a], min bound (T.cost a))
    else if T.isDead a then ([], bound)
    else visitAll (T.search fuel) (T.children a) bound

/-- A goal that is met below a node, with no goal and no dead end before it. -/
inductive Reaches (T : SearchTree α κ) : Nat → α → α → Prop
  | goal {fuel : Nat} {a : α} (hgoal : T.isGoal a = true) : Reaches T (fuel + 1) a a
  | child {fuel : Nat} {a c g : α} (hgoal : T.isGoal a = false) (hdead : T.isDead a = false) (hc : c ∈ T.children a)
      (h : Reaches T fuel c g) : Reaches T (fuel + 1) a g

/-- What a search for the goals in `reach` has found, started with some bound. -/
structure Found (cost : α → κ) (reach : α → Prop) (bound : κ) (result : List α × κ) : Prop where
  sound : ∀ g ∈ result.1, reach g
  bound_le : result.2 ≤ bound
  le_cost : ∀ g ∈ result.1, result.2 ≤ cost g
  complete : ∀ g, reach g → cost g ≤ result.2 → g ∈ result.1
  attained : result.2 = bound ∨ ∃ g ∈ result.1, cost g = result.2

variable {T : SearchTree α κ} {cost : α → κ} {Inv re re' rea : α → Prop} {b : κ}

theorem Found.nil (h : ∀ g, re g → b < cost g) : Found cost re b ([], b) where
  sound := by simp
  bound_le := le_rfl
  le_cost := by simp
  complete := fun g hg hle => absurd (h g hg) (not_lt.2 hle)
  attained := .inl rfl

theorem Found.append {first rest : List α × κ}
    (hf : Found cost re b first) (hr : Found cost re' first.2 rest) :
    Found cost (fun g => re g ∨ re' g) b (first.1 ++ rest.1, rest.2) where
  sound := by
    intro g hg
    exact (List.mem_append.1 hg).imp (hf.sound g) (hr.sound g)
  bound_le := hr.bound_le.trans hf.bound_le
  le_cost := by
    intro g hg
    obtain hg | hg := List.mem_append.1 hg
    · exact hr.bound_le.trans (hf.le_cost g hg)
    · exact hr.le_cost g hg
  complete := by
    rintro g (hg | hg) hle
    -- the bound only falls, so what is cheap enough in the end was so before
    · exact List.mem_append_left _ (hf.complete g hg (le_trans hle hr.bound_le))
    · exact List.mem_append_right _ (hr.complete g hg hle)
  attained := by
    obtain hs | ⟨g, hg, hc⟩ := hr.attained
    · obtain hs' | ⟨g, hg, hc⟩ := hf.attained
      · exact .inl (hs.trans hs')
      · exact .inr ⟨g, List.mem_append_left _ hg, hc.trans hs.symm⟩
    · exact .inr ⟨g, List.mem_append_right _ hg, hc⟩

theorem Found.congr {result : List α × κ} (h : Found cost re b result)
    (hif : ∀ g, re g ↔ re' g) : Found cost re' b result := by
  rwa [← funext fun g => propext (hif g)]

theorem visitAll_found {re : α → α → Prop} {vi : α → κ → List α × κ} {as : List α}
    (h : ∀ a ∈ as, ∀ b, Found cost (re a) b (vi a b)) (b : κ) :
    Found cost (fun g => ∃ a ∈ as, re a g) b (visitAll vi as b) := by
  induction as generalizing b with
  | nil => exact Found.nil fun g hg => by simp at hg
  | cons a as ih =>
    have hf := h a List.mem_cons_self b
    have hr := ih (fun a' ha' => h a' (List.mem_cons_of_mem _ ha')) (vi a b).2
    exact (hf.append hr).congr fun g => by simp

theorem Reaches.cost_le (hm : ∀ a, Inv a → ∀ c ∈ T.children a, Inv c ∧ T.cost a ≤ T.cost c)
    {fuel : Nat} {a g : α} (h : T.Reaches fuel a g) (ha : Inv a) : T.cost a ≤ T.cost g := by
  induction h with
  | goal => exact le_rfl
  | child _ _ hc _ ih =>
    obtain ⟨hin, hle⟩ := hm _ ha _ hc
    exact hle.trans (ih hin)

theorem Reaches.inv (hm : ∀ a, Inv a → ∀ c ∈ T.children a, Inv c ∧ T.cost a ≤ T.cost c)
    {fuel : Nat} {a g : α} (h : T.Reaches fuel a g) (ha : Inv a) : Inv g := by
  induction h with
  | goal => exact ha
  | child _ _ hc _ ih => exact ih (hm _ ha _ hc).1

omit [LinearOrder κ] in
theorem Reaches.isGoal {fuel : Nat} {a g : α} (h : T.Reaches fuel a g) : T.isGoal g = true := by
  induction h with
  | goal hg => exact hg
  | child _ _ _ _ ih => exact ih

/-- **The search is sound, and complete for the goals within its final bound.** -/
theorem search_found (hm : ∀ a, Inv a → ∀ c ∈ T.children a, Inv c ∧ T.cost a ≤ T.cost c) (fuel : Nat)
    {a : α} (ha : Inv a) (b : κ) : Found T.cost (T.Reaches fuel a) b (T.search fuel a b) := by
  induction fuel generalizing a b with
  | zero => exact Found.nil fun g hg => by cases hg
  | succ fuel ih =>
    unfold search
    split_ifs with hcu hgo hd
    · exact Found.nil fun g hg => hcu.trans_le (hg.cost_le hm ha)
    · have hr : ∀ g, T.Reaches (fuel + 1) a g ↔ g = a := by
        intro g
        constructor
        · rintro (_ | ⟨hn, -, -, -⟩)
          · rfl
          · simp [hgo] at hn
        · rintro rfl
          exact .goal hgo
      rw [min_eq_right (not_lt.1 hcu)]
      refine ⟨?_, not_lt.1 hcu, ?_, ?_, .inr ⟨a, List.mem_singleton_self a, rfl⟩⟩
      · intro g hg
        exact (hr g).2 (List.mem_singleton.1 hg)
      · intro g hg
        rw [List.mem_singleton.1 hg]
      · intro g hg _
        exact List.mem_singleton.2 ((hr g).1 hg)
    · refine Found.nil fun g hg => ?_
      obtain hy | ⟨-, hno, -, -⟩ := hg
      · exact absurd hy hgo
      · exact absurd (hno.symm.trans hd) Bool.false_ne_true
    · have hb : ∀ c ∈ T.children a, ∀ b, Found T.cost (T.Reaches fuel c) b (T.search fuel c b) :=
        fun c hc => ih (hm a ha c hc).1
      refine (visitAll_found hb b).congr fun g => ?_
      constructor
      · rintro ⟨c, hc, hg⟩
        exact .child (Bool.not_eq_true _ ▸ hgo) (Bool.not_eq_true _ ▸ hd) hc hg
      · rintro (hy | ⟨-, -, hc, hg⟩)
        · exact absurd hy hgo
        · exact ⟨_, hc, hg⟩

/-- **The goals found at the final bound are the cheapest ones**, if no goal costs more than the bound at the start. -/
theorem Found.mem_cheapest_iff {top : κ} {re : List α × κ} (h : Found cost rea top re)
    (ht : ∀ g, rea g → cost g ≤ top) (g : α) :
    g ∈ re.1 ∧ cost g = re.2 ↔ rea g ∧ ∀ g', rea g' → cost g ≤ cost g' := by
  constructor
  · rintro ⟨hg, hc⟩
    refine ⟨h.sound g hg, fun g' hg' => ?_⟩
    rw [hc]
    by_contra hlt
    have hch : cost g' ≤ re.2 := (not_le.1 hlt).le
    exact hlt (h.le_cost g' (h.complete g' hg' hch))
  · rintro ⟨hg, hl⟩
    have hle : cost g ≤ re.2 := by
      obtain hs | ⟨g', hg', hc⟩ := h.attained
      · rw [hs]
        exact ht g hg
      · rw [← hc]
        exact hl g' (h.sound g' hg')
    have hm := h.complete g hg hle
    exact ⟨hm, le_antisymm hle (h.le_cost g hm)⟩

/-- If there is a goal at all, one is found at the final bound. -/
theorem Found.exists_cheapest_iff {top : κ} {re : List α × κ} (h : Found cost rea top re)
    (ht : ∀ g, rea g → cost g ≤ top) : (∃ g ∈ re.1, cost g = re.2) ↔ ∃ g, rea g := by
  constructor
  · rintro ⟨g, hg, -⟩
    exact ⟨g, h.sound g hg⟩
  · rintro ⟨g, hg⟩
    obtain hs | ha := h.attained
    · have hm := h.complete g hg (hs ▸ ht g hg)
      exact ⟨g, hm, le_antisymm (hs ▸ ht g hg) (h.le_cost g hm)⟩
    · exact ha

end SearchTree
